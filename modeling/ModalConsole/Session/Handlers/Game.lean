import ModalConsole.Session.Game
import ModalConsole.Session.Program

/-!
# Handlers: the idle game

Model of the handler of the game: `step`, `data`, `shop` and `buy`. A failure of the store is caught
and shown in red.
-/

namespace ModalConsole.Handler

open Program

/-- Saves and loads. -/
def data (action : Option String) : Program Unit := do
  let s ← session
  let path := s.settings.gameFile
  if action = some "save" then
    let (store, refusal) := s.economy.save (← world).store path
    setStore store
    match refusal with
    | none => writeLine "Game data saved successfully."
    | some e => writeColored .red ("Error writing to file '" ++ path ++ "': " ++ e.message)
  else if action = some "load" then
    let economy := Economy.load (← world).store path
    update ({ · with economy := economy })
    writeLine (Session.loadedLine economy)
  else
    writeLine "Usage: data <save|load>"

/-- Shows the shop. -/
def shop (page : Option String) : Program Unit := do
  if page = none || page = some "1" then
    writeLines (shopListing ++ [Session.modMenuLine])
  else
    writeColored .red "Invalid Shop Pages / Shop Argument. Current Pages in shop: 1"

/-- Buys the upgrade with a typed id. -/
def buyUpgrade (typed : String) : Program Unit := do
  let s ← session
  if Session.isKeyUpgrade typed && s.activation.isActive then
    writeColored .red "You already have a product key!"
  else
    match s.economy.buy typed with
    | .ok (u, economy) =>
      update ({ · with economy := economy })
      writeLine "Successful!"
      if u.effect = .productKey then
        let (key, activation, words) := Activation.unlock (← world).words
        setWords words
        update ({ · with activation := activation })
        writeLine ("Your product key is: " ++ key)
    | .error e => writeColored .red e.message

/-- Buys. -/
def buy : Option String → Program Unit
  | none => writeColored .red "Invalid ID"
  | some typed => do
    if typed = "mod" then
      writeLine "In Progress..."
      update fun s => { s with economy := s.economy.useModMenu }
    else
      buyUpgrade typed

/-- Teaches the game. Asking for a page that does not exist earns coins once. -/
def teach (line : CommandLine) : Program Unit := do
  if line.head = "tutorial" && line.arg? 0 = some "1" then
    writeLines Session.tutorialLines
  else
    writeColored .red "Failed. Current Pages in tutorial: 1, Current Pages in guides: 0"
    update fun s => { s with economy := s.economy.earn }

/-- Runs a command of the game. -/
def runGameCommand (line : CommandLine) : Program Transition := do
  if line.head = "bal" || line.head = "balance" then
    writeLine (← session).economy.report
  else if line.head = "data" then
    data (line.arg? 0)
  else if line.head = "shop" then
    shop (line.arg? 0)
  else if line.head = "buy" then
    buy (line.arg? 0)
  else if line.head = "tutorial" || line.head = "guides" then
    teach line
  else if line.head = "exit" then
    writeLine "Exiting the game (Unsaved data will be erased after a session end)"
    return .to .shell
  else
    writeLine "Invalid Command, Use the command tutorial for commands (or guides for some guides)"
  return .stay

/-- The game. -/
def game : Program Transition := do
  write "game1 > "
  let .line typed ← ask .line | return .stay
  match Session.commandOf typed with
  | some line => runGameCommand line
  | none =>
    let gain := (← session).economy.gain
    update fun s => { s with economy := s.economy.earn }
    writeLine ("+" ++ formatAmount gain ++ " Coins")
    return .stay

end ModalConsole.Handler
