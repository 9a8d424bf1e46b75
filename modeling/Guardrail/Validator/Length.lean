import Guardrail.Validator.Arguments
import Guardrail.Validator.Basic

/-!
# Bounds on lengths

A text, measured in characters, or a list must have a length within given bounds. Too long a value
is to be cut off; too short a value is to be filled up with copies of its last part, unless it is
empty.
-/

namespace Guardrail.Validator

/-- Bounds on a length (`ValidLength`). -/
structure LengthBounds where
  min : Option Nat
  max : Option Nat

namespace LengthBounds

/-- The id under which the validator is known. -/
def id : String := "valid-length"

/-- The bounds given by arguments (`from_args`). -/
def ofArgs (args : Dict Json) : Except ConfigError LengthBounds := do
  let min ← lengthArgument? id args "min"
  let max ← lengthArgument? id args "max"
  match min, max with
  | some lo, some hi =>
    if hi < lo then throw (.invalidArguments id "'min' exceeds 'max'") else return ⟨min, max⟩
  | _, _ => return ⟨min, max⟩

/-- What is wrong with a length. -/
inductive Breach
  | short (min : Nat)
  | long (max : Nat)

/-- What is wrong with a length, if anything is. -/
def breach? (b : LengthBounds) (length : Nat) : Option Breach :=
  match b.min.filter (length < ·), b.max.filter (· < length) with
  | some lo, _ => some (.short lo)
  | none, some hi => some (.long hi)
  | none, none => none

/-- A list filled up to a length with copies of its last item, if it has one. -/
def padded? (xs : List α) (length : Nat) : Option (List α) :=
  xs.getLast?.map fun last => xs ++ List.replicate (length - xs.length) last

/-- The list that is proposed in place of one with a wrong length. -/
def Breach.repair? (xs : List α) : Breach → Option (List α)
  | .short lo => padded? xs lo
  | .long hi => some (xs.take hi)

/-- The complaint about a text. -/
def Breach.textMessage : Breach → String
  | .short lo =>
    "Value has length less than " ++ toString lo ++
      ". Please return a longer output, that is longer than " ++ toString lo ++ " characters."
  | .long hi =>
    "Value has length greater than " ++ toString hi ++
      ". Please return a shorter output, that is shorter than " ++ toString hi ++ " characters."

/-- The complaint about a list. -/
def Breach.listMessage : Breach → String
  | .short lo => "List has length less than " ++ toString lo ++ "."
  | .long hi => "List has length greater than " ++ toString hi ++ "."

/-- Checks the characters of a text (`check_string`). -/
def checkText (b : LengthBounds) (cs : List Char) : Verdict :=
  match b.breach? cs.length with
  | none => .pass
  | some breach =>
    .fail ⟨breach.textMessage, (breach.repair? cs).map fun cs => .str (String.ofList cs)⟩

/-- Checks a list (`check_list`). -/
def checkList (b : LengthBounds) (items : List Json) : Verdict :=
  match b.breach? items.length with
  | none => .pass
  | some breach => .fail ⟨breach.listMessage, (breach.repair? items).map .arr⟩

/-- Checks a value (`validate`). -/
def check (b : LengthBounds) : Json → Verdict
  | .str text => b.checkText text.toList
  | .arr items => b.checkList items
  | _ => .reject "Value must be a string or a list to check its length."

end LengthBounds

/-- The validator of lengths. -/
def length (b : LengthBounds) : Validator where
  name := LengthBounds.id
  args := boundArguments Json.ofNat b.min b.max
  requiredKeys := []
  checkId := none
  check value _ := b.check value

end Guardrail.Validator
