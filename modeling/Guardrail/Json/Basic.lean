import Guardrail.Dict
import Guardrail.Number.Binary64

/-!
# JSON values

Values of JSON, with two kinds of numbers: integers, and binary64 numbers written with a point or an
exponent. An integer never equals a binary64 number. The members of an object are kept in key order.
-/

namespace Guardrail

/-- A JSON number. -/
inductive Number
  /-- A number written without point and exponent. -/
  | int (value : Int)
  /-- Any other number. -/
  | float (value : Binary64)
deriving DecidableEq, Inhabited

/-- Numbers of one kind are compared by value. -/
def Number.beq : Number → Number → Bool
  | .int a, .int b => a == b
  | .float a, .float b => a == b
  | _, _ => false

instance : BEq Number := ⟨Number.beq⟩

/-- A JSON value (`JsonValue`). -/
inductive Json
  | null
  | bool (value : Bool)
  | num (value : Number)
  | str (value : String)
  | arr (items : List Json)
  | obj (members : List (String × Json))
deriving Inhabited

namespace Json

mutual

/-- Whether two values are equal; numbers are compared by kind and value. -/
def beq : Json → Json → Bool
  | .null, .null => true
  | .bool a, .bool b => a == b
  | .num a, .num b => a == b
  | .str a, .str b => a == b
  | .arr xs, .arr ys => beqItems xs ys
  | .obj xs, .obj ys => beqMembers xs ys
  | _, _ => false

/-- Whether two lists of values are equal. -/
def beqItems : List Json → List Json → Bool
  | [], [] => true
  | x :: xs, y :: ys => beq x y && beqItems xs ys
  | _, _ => false

/-- Whether two lists of members are equal. -/
def beqMembers : List (String × Json) → List (String × Json) → Bool
  | [], [] => true
  | (k, x) :: xs, (l, y) :: ys => k == l && beq x y && beqMembers xs ys
  | _, _ => false

end

instance : BEq Json := ⟨beq⟩

mutual

/-- Every object in the value lists its members in strictly increasing key order. -/
def WellFormed : Json → Prop
  | .arr items => WellFormedItems items
  | .obj members => Dict.Sorted members ∧ WellFormedMembers members
  | _ => True

/-- Every value of the list is well formed. -/
def WellFormedItems : List Json → Prop
  | [] => True
  | x :: xs => WellFormed x ∧ WellFormedItems xs

/-- Every member's value is well formed. -/
def WellFormedMembers : List (String × Json) → Prop
  | [] => True
  | (_, x) :: xs => WellFormed x ∧ WellFormedMembers xs

end

/-- The empty object. -/
def empty : Json := .obj []

/-- The object of a list of members, of which the last for a key counts. -/
def ofMembers (members : List (String × Json)) : Json := .obj (Dict.ofList members)

/-- A natural number. -/
def ofNat (n : Nat) : Json := .num (.int n)

/-- Whether the value is an object. -/
def isObject : Json → Bool
  | .obj _ => true
  | _ => false

/-- Whether the value is an array. -/
def isArray : Json → Bool
  | .arr _ => true
  | _ => false

/-- Whether the value is null. -/
def isNull : Json → Bool
  | .null => true
  | _ => false

/-- The text of a string. -/
def str? : Json → Option String
  | .str s => some s
  | _ => none

/-- The members of an object. -/
def members? : Json → Option (Dict Json)
  | .obj members => some members
  | _ => none

/-- The items of an array. -/
def items? : Json → Option (List Json)
  | .arr items => some items
  | _ => none

/-- The number read as a binary64 number, an integer being rounded. -/
def binary64? : Json → Option Binary64
  | .num (.int n) => some (.ofInt n)
  | .num (.float x) => some x
  | _ => none

/-- The value of an integer in a range. -/
def intIn? (low high : Int) : Json → Option Int
  | .num (.int n) => if low ≤ n ∧ n ≤ high then some n else none
  | _ => none

/-- The value of an unsigned integer below `2 ^ bits`. -/
def nat? (bits : Nat) (j : Json) : Option Nat :=
  (j.intIn? 0 ↑(Nat.pow 2 bits - 1)).map Int.toNat

/-- The member of an object. -/
def member? (j : Json) (key : String) : Option Json := j.members?.bind (Dict.find? · key)

end Json
end Guardrail
