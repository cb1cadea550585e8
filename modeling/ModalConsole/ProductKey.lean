import ModalConsole.RandomWords
import ModalConsole.Text.Blank

/-!
# Product keys

A system is activated while it holds a product key. Model of `Activation` with `redeem`,
`instant_unlock` and `deactivate`, and of `generate_key` and `is_generated_shape`.

* `redeem` takes a typed key that is on the list of accepted keys; one letter cancels.
* `generateKey` draws a key of five groups of five characters, joined by hyphens;
  `hasKeyShape` recognises such keys without drawing one.
-/

namespace ModalConsole

open Text

/-- The keys that can be redeemed. -/
def acceptedKeys : List String :=
  ["2K9M4S-M52QP2-J6K3P2-R5TTKL-P1OLD4", "SK39K2-KS9-M39L", "STINGRAY-SPECIAL_HACK",
    "SLOS-SOPK-LOPS-ZNMI-IDDS", "#_2K28M"]

/-- The word that leaves the wizard without a key. -/
def cancelWord : String := "N"

/-- Why an activation request fails. -/
inductive ActivationError where
  /-- The typed key is not an accepted one. -/
  | notFound
  /-- There is no key to remove. -/
  | notActive
  deriving DecidableEq, Repr

/-- The words that report a failed activation request. -/
def ActivationError.message : ActivationError → String
  | .notFound => "Activation was unsuccessful. Press N to exit the product Key wizard."
  | .notActive =>
    "You dont have any product key! So you cannot deactivate the system right now."

/-! ## Generated keys -/

/-- The characters of a generated key. -/
def keyAlphabet : List Char := "ABCDEFGHIJKLMNOPQRSTUVWXYZ0123456789".toList

/-- The characters in a group. -/
def keyGroupSize : Nat := 5

/-- The hyphens in a key. -/
def keyHyphens : Nat := 4

/-- Draws one character of a key. -/
def drawKeyChar (source : RandomWords) : Char × RandomWords :=
  let (index, rest) := source.draw keyAlphabet.length
  (keyAlphabet.getD index 'A', rest)

/-- Draws a number of characters. -/
def drawKeyChars : Nat → RandomWords → List Char × RandomWords
  | 0, source => ([], source)
  | n + 1, source =>
    let (c, source) := drawKeyChar source
    let (cs, source) := drawKeyChars n source
    (c :: cs, source)

/-- Puts the given number of hyphens into a run of characters, one after each full group. -/
def hyphenated : Nat → List Char → List Char
  | 0, cs => cs
  | n + 1, cs => cs.take keyGroupSize ++ '-' :: hyphenated n (cs.drop keyGroupSize)

/-- Draws a key. -/
def generateKey (source : RandomWords) : String × RandomWords :=
  let (cs, source) := drawKeyChars ((keyHyphens + 1) * keyGroupSize) source
  (String.ofList (hyphenated keyHyphens cs), source)

/-- Is the character a capital letter or a digit of ASCII? -/
def isKeyChar (c : Char) : Bool := c.isUpper || c.isDigit

/-- Does the text consist of full groups of key characters with the given number of hyphens
between them? -/
def isKeyGroups : Nat → List Char → Bool
  | hyphens, cs =>
    let group := cs.take keyGroupSize
    group.length == keyGroupSize && group.all isKeyChar &&
      match hyphens, cs.drop keyGroupSize with
      | 0, [] => true
      | n + 1, '-' :: rest => isKeyGroups n rest
      | _, _ => false

/-- Does the text have the shape of a generated key? -/
def hasKeyShape (key : String) : Bool := isKeyGroups keyHyphens key.toList

/-! ## Activation -/

/-- The product key in use, if there is one. -/
structure Activation where
  key : Option String := none
  deriving DecidableEq, Repr

/-- What a typed key led to. -/
inductive Redeemed where
  | activated (key : String)
  | cancelled
  deriving DecidableEq, Repr

namespace Activation

/-- Is there a key? -/
def isActive (a : Activation) : Bool := a.key.isSome

/-- The key in use, or the word for its absence. -/
def shownKey (a : Activation) : String := a.key.getD "none"

/-- Tries a typed key; blanks around it do not count. -/
def redeem (a : Activation) (typed : String) : Except ActivationError (Redeemed × Activation) :=
  let key := trimmed typed
  if key = cancelWord then .ok (.cancelled, a)
  else if key ∈ acceptedKeys then .ok (.activated key, ⟨some key⟩)
  else .error .notFound

/-- Activates with a generated key, whatever key was in use. -/
def unlock (source : RandomWords) : String × Activation × RandomWords :=
  let (key, rest) := generateKey source
  (key, ⟨some key⟩, rest)

/-- Removes the key in use. -/
def deactivate (a : Activation) : Except ActivationError Activation :=
  if a.isActive then .ok ⟨none⟩ else .error .notActive

end Activation

end ModalConsole
