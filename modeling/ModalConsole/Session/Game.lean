import ModalConsole.Session.Shell

/-!
# The idle game

What the handler of the game makes of a line. Model of its `step`, `data`, `shop` and `buy`.

* A blank line earns coins. The shop lists what can be bought with them.
* The economy is kept between sessions by saving and loading its record.
* The product key of the shop can only be bought while the system has none.
-/

namespace ModalConsole.Session

open Text

/-- The last line of the shop. -/
def modMenuLine : String := "Mod Menu - 120000 Coins (ID: mod)"

/-- The lines of the tutorial. -/
def tutorialLines : List String :=
  ["Press Enter on an empty line to earn coins.",
    "The command bal or balance is to display the current amount of coins you have.",
    "The shop command shows things to buy, and the buy command buys a thing (ID)",
    "data save and data load keep your coins between runs."]

/-- Earns coins once. -/
def earnOnce (s : Session) (w : World) : Turn :=
  { s with economy := s.economy.earn }.say w
    (Effect.line ("+" ++ formatAmount s.economy.gain ++ " Coins"))

/-- Saves the economy. -/
def saveGame (s : Session) (w : World) : Turn :=
  let path := s.settings.gameFile
  let (store, refusal) := s.economy.save w.store path
  s.say { w with store := store } (match refusal with
    | none => Effect.line "Game data saved successfully."
    | some e => Effect.coloredLine .red ("Error writing to file '" ++ path ++ "': " ++ e.message))

/-- The message after loading an economy. -/
def loadedLine (e : Economy) : String :=
  "Data Loaded: Coins=" ++ formatAmount e.balance ++ ", GetCoinsValue=" ++ formatAmount e.base
    ++ ", GetCoinsMulti=" ++ formatAmount e.multiplier

/-- Loads the economy. -/
def loadGame (s : Session) (w : World) : Turn :=
  let economy := Economy.load w.store s.settings.gameFile
  { s with economy := economy }.say w (Effect.line (loadedLine economy))

/-- The command that saves and loads. -/
def gameData (s : Session) (w : World) (action : Option String) : Turn :=
  if action = some "save" then s.saveGame w
  else if action = some "load" then s.loadGame w
  else s.say w (Effect.line "Usage: data <save|load>")

/-- The command that shows the shop. -/
def showShop (s : Session) (w : World) (page : Option String) : Turn :=
  if page = none || page = some "1" then s.say w (Effect.lines (shopListing ++ [modMenuLine]))
  else
    s.say w
      (Effect.coloredLine .red "Invalid Shop Pages / Shop Argument. Current Pages in shop: 1")

/-- Does a typed id stand for the product key of the shop? -/
def isKeyUpgrade (typed : String) : Bool :=
  match findUpgrade typed with
  | some u => u.effect = .productKey
  | none => false

/-- Hands over what was bought; a product key is generated. -/
def handOver (s : Session) (w : World) (u : Upgrade) : Turn :=
  if u.effect = .productKey then
    let (key, activation, words) := Activation.unlock w.words
    { s with activation := activation }.say { w with words := words }
      (Effect.lines ["Successful!", "Your product key is: " ++ key])
  else s.say w (Effect.line "Successful!")

/-- Buys the upgrade with a typed id. -/
def buyUpgrade (s : Session) (w : World) (typed : String) : Turn :=
  if isKeyUpgrade typed && s.activation.isActive then
    s.say w (Effect.coloredLine .red "You already have a product key!")
  else
    match s.economy.buy typed with
    | .ok (u, economy) => { s with economy := economy }.handOver w u
    | .error e => s.say w (Effect.coloredLine .red e.message)

/-- The command that buys. -/
def buy (s : Session) (w : World) : Option String → Turn
  | none => s.say w (Effect.coloredLine .red "Invalid ID")
  | some typed =>
    if typed = "mod" then
      { s with economy := s.economy.useModMenu }.say w (Effect.line "In Progress...")
    else s.buyUpgrade w typed

/-- The commands that teach the game. Asking for a page that does not exist earns coins once. -/
def teach (s : Session) (w : World) (line : CommandLine) : Turn :=
  if line.head = "tutorial" && line.arg? 0 = some "1" then s.say w (Effect.lines tutorialLines)
  else
    { s with economy := s.economy.earn }.say w
      (Effect.coloredLine .red "Failed. Current Pages in tutorial: 1, Current Pages in guides: 0")

/-- Runs a command of the game. -/
def runGameCommand (s : Session) (w : World) (line : CommandLine) : Turn :=
  if line.head = "bal" || line.head = "balance" then s.say w (Effect.line s.economy.report)
  else if line.head = "data" then s.gameData w (line.arg? 0)
  else if line.head = "shop" then s.showShop w (line.arg? 0)
  else if line.head = "buy" then s.buy w (line.arg? 0)
  else if line.head = "tutorial" || line.head = "guides" then s.teach w line
  else if line.head = "exit" then
    (s.enter .shell).say w
      (Effect.line "Exiting the game (Unsaved data will be erased after a session end)")
  else
    s.say w (Effect.line
      "Invalid Command, Use the command tutorial for commands (or guides for some guides)")

/-- A line at the game. -/
def gameLine (s : Session) (w : World) (typed : String) : Turn :=
  match commandOf typed with
  | some line => s.runGameCommand w line
  | none => s.earnOnce w

end ModalConsole.Session
