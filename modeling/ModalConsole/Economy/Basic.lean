import ModalConsole.Economy.Amount

/-!
# The economy of the game

A balance of coins and the two numbers that scale each earning. Model of `EconomyState`,
`UpgradeCatalog`, and `EconomyEngine` with `earn`, `purchase` and `mod_menu_bonus`.

* One earning brings the base times the multiplier.
* An upgrade raises the base, the multiplier or both, or grants a product key. It can be bought
  with a balance strictly above its price; a refused purchase changes nothing.
-/

namespace ModalConsole

open Text

/-- What the player owns. -/
structure Economy where
  /-- The coins at hand. -/
  balance : Binary64
  /-- The coins per earning before the multiplier. -/
  base : Binary64
  /-- The factor on each earning. -/
  multiplier : Binary64
  deriving DecidableEq

/-- What an upgrade does once it is bought. -/
inductive Upgrade.Effect where
  /-- Raises the multiplier. -/
  | multiplier (amount : Binary64)
  /-- Raises the base. -/
  | base (amount : Binary64)
  /-- Raises the base and the multiplier. -/
  | both (base multiplier : Binary64)
  /-- Grants a product key and leaves the economy as it is. -/
  | productKey
  deriving DecidableEq

/-- An entry of the shop. -/
structure Upgrade where
  id : String
  aliases : List String
  price : Binary64
  label : String
  effect : Upgrade.Effect
  deriving DecidableEq

/-- Why a purchase is refused. -/
inductive PurchaseError where
  /-- The balance is not above the price. -/
  | insufficientFunds (price balance : Binary64)
  /-- The shop has no entry of that name. -/
  | unknownUpgrade (id : String)
  deriving DecidableEq

/-- The words that report a refused purchase. -/
def PurchaseError.message : PurchaseError → String
  | .insufficientFunds _ _ => "Not Enough Coins to buy this!"
  | .unknownUpgrade _ => "Invalid ID"

/-! ## The shop -/

/-- The number `digits / 100`. -/
def ofHundredths (digits : Nat) : Binary64 := Binary64.ofDecimal false ⟨digits, -2⟩

/-- The entries of the shop, in the order of the listing. -/
def shopUpgrades : List Upgrade :=
  [⟨"1", ["mult1"], .ofNat 25, "+1.03x coin multiplier", .multiplier (ofHundredths 103)⟩,
    ⟨"2", ["mult2"], .ofNat 230, "+1.18x coin multiplier", .multiplier (ofHundredths 118)⟩,
    ⟨"3", ["base1"], .ofNat 450, "+4 Coins Addition", .base (.ofNat 4)⟩,
    ⟨"4", ["combo1"], .ofNat 800, "+12 Coins Addition with +1.4x coin multiplier",
      .both (.ofNat 12) (ofHundredths 140)⟩,
    ⟨"5", ["mult3"], .ofNat 4000, "+2x Coin Multiplier", .multiplier (.ofNat 2)⟩,
    ⟨"6", ["key"], .ofNat 20000, "Product Key", .productKey⟩]

/-- Does the upgrade go by the given name? -/
def Upgrade.isCalled (u : Upgrade) (name : String) : Bool := u.id == name || u.aliases.contains name

/-- The entry with a typed id or alias; blanks around it do not count. -/
def findUpgrade (typed : String) : Option Upgrade :=
  let name := trimmed typed
  shopUpgrades.find? (·.isCalled name)

/-- The line of an upgrade in the listing. -/
def Upgrade.line (u : Upgrade) : String :=
  u.label ++ " - " ++ formatAmount u.price ++ " coins (ID: " ++ u.id ++ ")"

/-- The listing of the shop. -/
def shopListing : List String := shopUpgrades.map Upgrade.line

/-! ## Earning and buying -/

namespace Economy

/-- A new economy: no coins, and one coin per earning. -/
def initial : Economy := ⟨.zero, .one, .one⟩

/-- The coins that one earning brings. -/
def gain (e : Economy) : Binary64 := e.base * e.multiplier

/-- Adds coins to the balance. -/
def credit (e : Economy) (amount : Binary64) : Economy := { e with balance := e.balance + amount }

/-- One earning. -/
def earn (e : Economy) : Economy := e.credit e.gain

/-- The coins that come on top of an earning with the mod menu. -/
def modMenuExtra : Binary64 := ofHundredths 235 * .ofNat 4

/-- The coins that the mod menu brings. -/
def modMenuGain (e : Economy) : Binary64 := e.gain + modMenuExtra

/-- Uses the mod menu. -/
def useModMenu (e : Economy) : Economy := e.credit e.modMenuGain

/-- Does what an upgrade does. -/
def apply (e : Economy) : Upgrade.Effect → Economy
  | .multiplier amount => { e with multiplier := e.multiplier + amount }
  | .base amount => { e with base := e.base + amount }
  | .both b m => { e with base := e.base + b, multiplier := e.multiplier + m }
  | .productKey => e

/-- The upgrade that a typed id would buy. -/
def quote (e : Economy) (typed : String) : Except PurchaseError Upgrade :=
  match findUpgrade typed with
  | none => .error (.unknownUpgrade (trimmed typed))
  | some u =>
    if u.price.lt e.balance then .ok u else .error (.insufficientFunds u.price e.balance)

/-- Buys the upgrade with a typed id. -/
def buy (e : Economy) (typed : String) : Except PurchaseError (Upgrade × Economy) :=
  (e.quote typed).map fun u => (u, { e with balance := e.balance - u.price }.apply u.effect)

/-- The report of the balance. -/
def report (e : Economy) : String := "You have " ++ formatAmount e.balance ++ " Coins."

end Economy

end ModalConsole
