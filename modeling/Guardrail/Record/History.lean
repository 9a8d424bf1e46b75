import Guardrail.Json.Record

/-!
# Histories

The records that a guard keeps of its calls, the oldest first. A retention policy may bound their
number; it is applied when a record is added, and the newest record is always kept. Section B7 of
the specification introduces such policies.
-/

namespace Guardrail

/-- How many records are kept (`RetentionPolicy`). -/
inductive Retention
  | unbounded
  | bounded (limit : Nat)
deriving DecidableEq, Inhabited

namespace Retention

/-- A policy is written as an object with the tag `kind` and, with a bound, the member `limit`. -/
def toJson : Retention → Json
  | .unbounded => .ofFields [.present "kind" (.str "unbounded")]
  | .bounded limit => .ofFields [.present "kind" (.str "bounded"), .present "limit" (.ofNat limit)]

/-- Reads a policy from its tag and its content, which without a bound is null or missing. -/
def ofParts? (kind : Option String) (limit : Option Json) : Option Retention :=
  match kind, limit with
  | some "unbounded", none => some .unbounded
  | some "unbounded", some .null => some .unbounded
  | some "bounded", some j => (j.nat? 64).map .bounded
  | _, _ => none

/-- Reads a policy. In an array the tag must be a plain text. -/
def ofJson? : Json → Option Retention
  | .obj members =>
    (Dict.find? members "kind").bind fun k => ofParts? k.caseName? (Dict.find? members "limit")
  | .arr [kind, limit] => ofParts? kind.str? (some limit)
  | _ => none

end Retention

/-- Records, the oldest first, under a retention policy (`GuardHistory`). -/
structure History (α : Type u) where
  retention : Retention
  entries : List α

namespace History

variable {α : Type u}

/-- The newest records, as many as a policy keeps. -/
def trim : Retention → List α → List α
  | .unbounded, entries => entries
  | .bounded limit, entries => entries.drop (entries.length - max limit 1)

/-- The history with one more record (`push`). -/
def push (h : History α) (entry : α) : History α :=
  { h with entries := trim h.retention (h.entries ++ [entry]) }

/-- The newest record. -/
def last? (h : History α) : Option α := h.entries.getLast?

/-- The history under another policy, which takes effect with the next record (`set_retention`). -/
def setRetention (h : History α) (retention : Retention) : History α := { h with retention }

end History
end Guardrail
