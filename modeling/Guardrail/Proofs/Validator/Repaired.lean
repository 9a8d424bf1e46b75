import Mathlib.Data.List.TakeWhile
import Guardrail.Proofs.Validator.Remade
import Guardrail.Validator.Line

/-!
# Repairs that pass

A validator that proposes a value in place of one that it refuses must let the proposal pass. For
the bounds on a length this needs that the bounds do not cross, which is settled when they are read
from arguments: what is filled up to the lower one must not break the upper one, nor what is cut off
at the upper one the lower one. Texts and lists are treated alike, as lists of parts.

Results:
* `LengthBounds.ordered_of_ofArgs`: bounds that are read from arguments do not cross.
* `LengthBounds.breach?_eq_none_iff`: which lengths are within the bounds.
* `LengthBounds.repaired_of_repair?`, `LengthBounds.admits_of_repaired`: what is proposed, and that
  it has a length within the bounds.
* `firstLine_prefix`, `notMem_firstLine`: the first line of a text.
* `repairs_law`: what the validators of lengths and of single lines let pass, and that what they
  propose passes.
-/

namespace Guardrail.Validator

namespace LengthBounds

variable {α : Type} {b : LengthBounds} {args : Dict Json} {breach : Breach} {xs ys : List α}
  {n : Nat}

/-! ## Bounds -/

/-- A length is within the bounds. -/
structure Admits (b : LengthBounds) (n : Nat) : Prop where
  low : ∀ lo, b.min = some lo → lo ≤ n
  high : ∀ hi, b.max = some hi → n ≤ hi

/-- The bounds do not cross. -/
def Ordered (b : LengthBounds) : Prop := ∀ lo hi, b.min = some lo → b.max = some hi → lo ≤ hi

/-- A list in place of another: cut off at the upper bound, or filled up to the lower one with
copies of the last part. -/
inductive Repaired (b : LengthBounds) (xs : List α) : List α → Prop
  | cut {hi : Nat} : b.max = some hi → hi < xs.length → Repaired b xs (xs.take hi)
  | filled {lo : Nat} {last : α} : b.min = some lo → xs.length < lo → xs.getLast? = some last →
    Repaired b xs (xs ++ List.replicate (lo - xs.length) last)

/-- The value of an argument is read from the arguments alone. -/
theorem bind_nat?_of_lengthArgument? {id key : String} {value : Option Nat}
    (h : lengthArgument? id args key = .ok value) :
    (args.find? key).bind (Json.nat? 64) = value := by
  rw [lengthArgument?, argument?] at h
  split at h
  · next hnone =>
    cases h
    rw [hnone]
    rfl
  · next hnull =>
    cases h
    rw [hnull]
    rfl
  · next j _ hj =>
    rw [hj, Option.bind_some]
    cases hread : Json.nat? 64 j with
    | none =>
      rw [hread] at h
      cases h
    | some v =>
      rw [hread] at h
      exact Except.ok.inj h

theorem ordered_of_ofArgs (h : ofArgs args = .ok b) : b.Ordered := by
  intro lo hi hlo hhi
  obtain ⟨hmin, hmax⟩ := arguments_of_ofArgs h
  rw [ofArgs, hmin, hmax, hlo, hhi] at h
  change (if hi < lo then _ else _) = _ at h
  split at h
  · cases h
  · next hle => exact Nat.le_of_not_lt hle

/-- What is wrong with a length: it is below the lower bound, or not below it and above the upper
one. -/
theorem breach?_cases (b : LengthBounds) (n : Nat) :
    (b.breach? n = none ∧ b.Admits n) ∨
      (∃ lo, b.breach? n = some (.short lo) ∧ b.min = some lo ∧ n < lo) ∨
        ∃ hi, b.breach? n = some (.long hi) ∧ b.max = some hi ∧ hi < n := by
  unfold breach?
  cases hshort : b.min.filter (n < ·) with
  | some lo =>
    obtain ⟨hmin, hlt⟩ := Option.filter_eq_some_iff.1 hshort
    exact .inr (.inl ⟨lo, rfl, hmin, of_decide_eq_true hlt⟩)
  | none =>
    cases hlong : b.max.filter (· < n) with
    | some hi =>
      obtain ⟨hmax, hlt⟩ := Option.filter_eq_some_iff.1 hlong
      exact .inr (.inr ⟨hi, rfl, hmax, of_decide_eq_true hlt⟩)
    | none =>
      refine .inl ⟨rfl, ?_, ?_⟩
      · intro lo hlo
        have hnot := Option.filter_eq_none_iff.1 hshort lo hlo
        simpa using hnot
      · intro hi hhi
        have hnot := Option.filter_eq_none_iff.1 hlong hi hhi
        simpa using hnot

theorem breach?_eq_none_iff : b.breach? n = none ↔ b.Admits n := by
  rcases b.breach?_cases n with ⟨hnone, hin⟩ | ⟨lo, hsome, hmin, hlt⟩ | ⟨hi, hsome, hmax, hlt⟩
  · exact iff_of_true hnone hin
  · refine iff_of_false (by simp [hsome]) fun hin => ?_
    exact Nat.not_le_of_lt hlt (hin.low lo hmin)
  · refine iff_of_false (by simp [hsome]) fun hin => ?_
    exact Nat.not_le_of_lt hlt (hin.high hi hmax)

/-! ## Repairs -/

theorem repaired_of_repair? (h : b.breach? xs.length = some breach)
    (hys : breach.repair? xs = some ys) : b.Repaired xs ys := by
  rcases b.breach?_cases xs.length with ⟨hnone, -⟩ | ⟨lo, hsome, hmin, hlt⟩ | ⟨hi, hsome, hmax, hlt⟩
  · rw [hnone] at h
    cases h
  · cases hsome.symm.trans h
    obtain ⟨last, hlast, rfl⟩ := Option.map_eq_some_iff.1 hys
    exact .filled hmin hlt hlast
  · cases hsome.symm.trans h
    cases hys
    exact .cut hmax hlt

/-- No repair is known for what is too short and has no last part. -/
theorem repair?_eq_none_iff (h : b.breach? xs.length = some breach) :
    breach.repair? xs = none ↔ xs = [] ∧ ∃ lo, b.min = some lo ∧ 0 < lo := by
  rcases b.breach?_cases xs.length with ⟨hnone, -⟩ | ⟨lo, hsome, hmin, hlt⟩ | ⟨hi, hsome, hmax, hlt⟩
  · rw [hnone] at h
    cases h
  · cases hsome.symm.trans h
    rw [Breach.repair?, padded?, Option.map_eq_none_iff, List.getLast?_eq_none_iff]
    constructor
    · rintro rfl
      exact ⟨rfl, lo, hmin, hlt⟩
    · exact fun hempty => hempty.1
  · cases hsome.symm.trans h
    refine iff_of_false (by simp [Breach.repair?]) ?_
    rintro ⟨rfl, -⟩
    exact Nat.not_lt_zero hi hlt

/-- A repair has a length within the bounds, since these do not cross. -/
theorem admits_of_repaired (hb : b.Ordered) (h : b.Repaired xs ys) : b.Admits ys.length := by
  cases h with
  | @cut hi hmax hlong =>
    have hlength : (xs.take hi).length = hi := List.length_take_of_le (Nat.le_of_lt hlong)
    rw [hlength]
    refine ⟨fun lo hlo => hb lo hi hlo hmax, fun hi' hhi' => ?_⟩
    cases hmax.symm.trans hhi'
    exact Nat.le_refl hi
  | @filled lo last hmin hshort _ =>
    have hlength : (xs ++ List.replicate (lo - xs.length) last).length = lo := by
      rw [List.length_append, List.length_replicate]
      omega
    rw [hlength]
    refine ⟨fun lo' hlo' => ?_, fun hi hhi => hb lo hi hmin hhi⟩
    cases hmin.symm.trans hlo'
    exact Nat.le_refl lo

/-! ## Verdicts -/

/-- What is answered about a list of parts, given how it is wrapped up as a value and how a breach
is worded. -/
def verdict (b : LengthBounds) (wrap : List α → Json) (message : Breach → String) (xs : List α) :
    Verdict :=
  match b.breach? xs.length with
  | none => .pass
  | some breach => .fail ⟨message breach, (breach.repair? xs).map wrap⟩

variable {wrap : List α → Json} {message : Breach → String}

theorem verdict_eq_pass_iff : b.verdict wrap message xs = .pass ↔ b.Admits xs.length := by
  rw [← breach?_eq_none_iff, verdict]
  split
  · next hnone => exact iff_of_true rfl hnone
  · next hsome => exact iff_of_false (by simp) (by simp [hsome])

/-- A failure comes with a repair that passes, unless there is nothing to fill up with. -/
theorem fix_of_verdict (hb : b.Ordered) {f : Failure} (h : b.verdict wrap message xs = .fail f) :
    (f.fix = none ↔ xs = [] ∧ ∃ lo, b.min = some lo ∧ 0 < lo) ∧
      ∀ fix, f.fix = some fix →
        ∃ ys, fix = wrap ys ∧ b.Repaired xs ys ∧ b.verdict wrap message ys = .pass := by
  rw [verdict] at h
  split at h
  · cases h
  · next breach hsome =>
    cases h
    refine ⟨?_, ?_⟩
    · rw [Option.map_eq_none_iff]
      exact repair?_eq_none_iff hsome
    · intro fix hfix
      obtain ⟨ys, hys, rfl⟩ := Option.map_eq_some_iff.1 hfix
      have hrepaired := repaired_of_repair? hsome hys
      exact ⟨ys, rfl, hrepaired, verdict_eq_pass_iff.2 (admits_of_repaired hb hrepaired)⟩

end LengthBounds

/-! ## Single lines -/

theorem firstLine_prefix_takeWhile (cs : List Char) :
    firstLine cs <+: cs.takeWhile (· != '\n') := by
  show (if _ then (cs.takeWhile (· != '\n')).dropLast else cs.takeWhile (· != '\n')) <+: _
  split
  · exact List.dropLast_prefix _
  · exact List.prefix_rfl

theorem firstLine_prefix (cs : List Char) : firstLine cs <+: cs :=
  (firstLine_prefix_takeWhile cs).trans (List.takeWhile_prefix _)

theorem notMem_firstLine (cs : List Char) : '\n' ∉ firstLine cs := by
  intro hmem
  have hline := List.mem_takeWhile_imp ((firstLine_prefix_takeWhile cs).subset hmem)
  simp at hline

variable {text : String} {metadata : Metadata}

theorem oneLine_check_eq_pass_iff :
    oneLine.check (.str text) metadata = .pass ↔ '\n' ∉ text.toList := by
  show (if _ then _ else _) = _ ↔ _
  split
  · next hmem => exact iff_of_false (by simp [Verdict.propose]) (by simpa using hmem)
  · next hmem => exact iff_of_true rfl (by simpa using hmem)

/-- In place of several lines the first one is proposed. -/
theorem fix_of_oneLine {f : Failure} (h : oneLine.check (.str text) metadata = .fail f) :
    f.fix = some (.str (String.ofList (firstLine text.toList))) := by
  change (if _ then _ else _) = _ at h
  split at h
  · cases h
    rfl
  · cases h

/-! ## Both -/

/-- The bounds on lengths are those that the arguments give. A text or a list passes if its length
is within them; if it is not, another one is proposed, unless the value is empty and too short, and
the proposal passes: the value cut off at the upper bound, or filled up to the lower one with copies
of its last part. A text passes as a single line if it has no line feed; otherwise a text is proposed
that it begins with and that passes. -/
theorem repairs_law {args : Dict Json} {b : LengthBounds} (h : LengthBounds.ofArgs args = .ok b)
    (metadata : Metadata) :
    ((args.find? "min").bind (Json.nat? 64) = b.min ∧
        (args.find? "max").bind (Json.nat? 64) = b.max) ∧
      (∀ text : String,
        ((length b).check (.str text) metadata = .pass ↔ b.Admits text.toList.length) ∧
          ∀ f, (length b).check (.str text) metadata = .fail f →
            (f.fix = none ↔ text = "" ∧ ∃ lo, b.min = some lo ∧ 0 < lo) ∧
              ∀ fix, f.fix = some fix → ∃ other : String, fix = .str other ∧
                b.Repaired text.toList other.toList ∧
                  (length b).check (.str other) metadata = .pass) ∧
      (∀ items : List Json,
        ((length b).check (.arr items) metadata = .pass ↔ b.Admits items.length) ∧
          ∀ f, (length b).check (.arr items) metadata = .fail f →
            (f.fix = none ↔ items = [] ∧ ∃ lo, b.min = some lo ∧ 0 < lo) ∧
              ∀ fix, f.fix = some fix → ∃ others : List Json, fix = .arr others ∧
                b.Repaired items others ∧ (length b).check (.arr others) metadata = .pass) ∧
      ∀ text : String,
        (oneLine.check (.str text) metadata = .pass ↔ '\n' ∉ text.toList) ∧
          ∀ f, oneLine.check (.str text) metadata = .fail f → ∃ line : String,
            f.fix = some (.str line) ∧ line.toList <+: text.toList ∧
              oneLine.check (.str line) metadata = .pass := by
  have hb := LengthBounds.ordered_of_ofArgs h
  obtain ⟨hmin, hmax⟩ := LengthBounds.arguments_of_ofArgs h
  refine ⟨⟨LengthBounds.bind_nat?_of_lengthArgument? hmin,
    LengthBounds.bind_nat?_of_lengthArgument? hmax⟩, fun text => ?_, fun items => ?_, fun text => ?_⟩
  · refine ⟨LengthBounds.verdict_eq_pass_iff, fun f hf => ?_⟩
    obtain ⟨hnone, hsome⟩ := LengthBounds.fix_of_verdict hb hf
    rw [String.toList_eq_nil_iff] at hnone
    refine ⟨hnone, fun fix hfix => ?_⟩
    obtain ⟨cs, hcs, hrepaired, hpass⟩ := hsome fix hfix
    have hlist : (String.ofList cs).toList = cs := String.toList_ofList
    refine ⟨String.ofList cs, hcs, ?_, ?_⟩
    · rwa [hlist]
    · show b.checkText (String.ofList cs).toList = _
      rw [hlist]
      exact hpass
  · refine ⟨LengthBounds.verdict_eq_pass_iff, fun f hf => ?_⟩
    exact LengthBounds.fix_of_verdict hb hf
  · refine ⟨oneLine_check_eq_pass_iff, fun f hf => ⟨_, fix_of_oneLine hf, ?_, ?_⟩⟩
    · rw [String.toList_ofList]
      exact firstLine_prefix _
    · rw [oneLine_check_eq_pass_iff, String.toList_ofList]
      exact notMem_firstLine _

/-- Of lengths from 2 to 3, a text of one character is filled up and a list of four items cut
off. -/
theorem repairs_law_of_two_to_three :
    let b : LengthBounds := ⟨some 2, some 3⟩
    let tooLong : Json := .arr [.null, .bool true, .null, .null]
    LengthBounds.ofArgs [("max", .ofNat 3), ("min", .ofNat 2)] = .ok b ∧
      (∃ f, (length b).check (.str "é") [] = .fail f ∧ f.fix = some (.str "éé")) ∧
      (length b).check (.str "éé") [] = .pass ∧
      (∃ f, (length b).check tooLong [] = .fail f ∧ f.fix = some (.arr [.null, .bool true, .null])) ∧
      (length b).check (.arr [.null, .bool true, .null]) [] = .pass := by
  intro b tooLong
  have hargs : LengthBounds.ofArgs [("max", .ofNat 3), ("min", .ofNat 2)] = .ok b := rfl
  obtain ⟨-, htext, hlist, -⟩ := repairs_law hargs []
  obtain ⟨other, hother, -, hpass⟩ := ((htext "é").2 _ rfl).2 _ rfl
  obtain ⟨others, hothers, -, hpass'⟩ := ((hlist [.null, .bool true, .null, .null]).2 _ rfl).2 _ rfl
  cases hother
  cases hothers
  exact ⟨hargs, ⟨_, rfl, rfl⟩, hpass, ⟨_, rfl, rfl⟩, hpass'⟩

end Guardrail.Validator
