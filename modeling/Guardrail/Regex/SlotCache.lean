import Std.Data.HashMap

/-!
# A cache with slots

A cache that keeps values under keys, where the hash of a key chooses the slot that it is kept in. A
slot holds one key, so that a key pushes out another that it shares its slot with.
-/

namespace Guardrail.Regex

/-- The FNV-1a hash of a list of numbers, each taken as one word. -/
def fnv (words : List Nat) : UInt64 :=
  words.foldl (fun h w => (h ^^^ w.toUInt64) * 1099511628211) 14695981039346656037

/-- A cache with a number of slots. -/
structure SlotCache where
  size : Nat
  slots : Std.HashMap Nat (List Nat × Nat)

namespace SlotCache

/-- A cache whose slots are free. -/
def empty (size : Nat) : SlotCache := ⟨size, ∅⟩

/-- The slot of a key. -/
def slot (c : SlotCache) (key : List Nat) : Nat := (fnv key).toNat % c.size

/-- The value kept under a key. -/
def get? (c : SlotCache) (key : List Nat) : Option Nat :=
  (c.slots[c.slot key]?).bind fun (kept, value) => if kept = key then some value else none

/-- A value is put under a key. -/
def insert (c : SlotCache) (key : List Nat) (value : Nat) : SlotCache :=
  { c with slots := c.slots.insert (c.slot key) (key, value) }

end SlotCache
end Guardrail.Regex
