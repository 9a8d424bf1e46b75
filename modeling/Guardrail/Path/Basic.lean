import Guardrail.Json.Basic

/-!
# Paths into JSON values

A path is a list of steps from the root of a value downwards: to a member, to an item, or, with a
wildcard, to all of them. A concrete path has no wildcard and stands for at most one place. Section
B7 of the specification says what wildcards stand for.

* `get?`, `set?`, `remove?`: reading, replacing and removing what stands at a concrete path.
* `resolve`: the concrete paths that a path stands for in a value, in document order.
-/

namespace Guardrail

/-- A step of a path. -/
inductive Segment
  | key (name : String)
  | index (i : Nat)
  /-- Every member or item. -/
  | wildcard
deriving DecidableEq, Inhabited

/-- A path (`JsonPath`): its steps from the root. -/
abbrev Path := List Segment

namespace Segment

/-- What a step leads to; a wildcard leads nowhere in particular. -/
def child? : Segment → Json → Option Json
  | .key k, .obj members => Dict.find? members k
  | .index i, .arr items => items[i]?
  | _, _ => none

/-- All that a step leads to, each with the concrete step to it. -/
def children : Segment → Json → List (Segment × Json)
  | .key k, .obj members => ((Dict.find? members k).map (Segment.key k, ·)).toList
  | .index i, .arr items => ((items[i]?).map (Segment.index i, ·)).toList
  | .wildcard, .arr items => items.zipIdx.map fun (x, i) => (.index i, x)
  | .wildcard, .obj members => members.map fun (k, x) => (.key k, x)
  | _, _ => []

/-- The value with the child at a step replaced. -/
def replaceChild : Segment → Json → Json → Json
  | .key k, child, .obj members => .obj (Dict.replace members k child)
  | .index i, child, .arr items => .arr (items.set i child)
  | _, _, j => j

/-- The value without the child at a step. Later items of an array move up. -/
def eraseChild : Segment → Json → Json
  | .key k, .obj members => .obj (Dict.erase members k)
  | .index i, .arr items => .arr (items.eraseIdx i)
  | _, j => j

end Segment

namespace Path

/-- The path of the whole value. -/
def root : Path := []

/-- The number of steps. -/
def depth (p : Path) : Nat := p.length

/-- Whether the path has no wildcard (`is_concrete`). -/
def isConcrete (p : Path) : Bool := !p.contains Segment.wildcard

/-- A path with one more step. -/
def child (p : Path) (s : Segment) : Path := p ++ [s]

/-- What stands at a path (`get`). -/
def get? : Path → Json → Option Json
  | [], j => some j
  | s :: p, j => (s.child? j).bind (get? p)

/-- The value with what stands at a path replaced, if anything stands there. -/
def set? : Path → Json → Json → Option Json
  | [], v, _ => some v
  | s :: p, v, j => (s.child? j).bind fun c => (set? p v c).map (s.replaceChild · j)

/-- The value with what stands at a path replaced; the value as it is, if nothing stands there
(`set`). -/
def set (p : Path) (v j : Json) : Json := (p.set? v j).getD j

/-- What stands at a path, and the value without it (`remove`). Of the root null remains. -/
def remove? : Path → Json → Option (Json × Json)
  | [], j => some (j, .null)
  | [s], j => (s.child? j).map fun c => (c, s.eraseChild j)
  | s :: t :: p, j =>
    (s.child? j).bind fun c =>
      (remove? (t :: p) c).map fun (gone, c') => (gone, s.replaceChild c' j)

/-- The value without what stands at a path. -/
def remove (p : Path) (j : Json) : Json := ((p.remove? j).map (·.2)).getD j

/-- The concrete paths that a path stands for in a value (`resolve`): items by index, members by
key. -/
def resolve : Path → Json → List Path
  | [], _ => [[]]
  | s :: p, j => (s.children j).flatMap fun (t, c) => (resolve p c).map (t :: ·)

end Path
end Guardrail
