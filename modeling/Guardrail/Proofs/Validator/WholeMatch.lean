import Guardrail.Proofs.Regex.Search
import Guardrail.Proofs.Regex.Wrapped
import Guardrail.Validator.Pattern

/-!
# Patterns that must match a whole text

To be matched against a whole text, the text of a pattern is set between `^(?:` and `)$` before
anything is read. A pattern that can be read alone so means that the whole text must match it. But
the pattern is not required to be one: if it closes a group that it has not opened, the parentheses
put around it may open and close what it lacks. And a comment at its end swallows what is put after
it.

Results:
* `isMatch_anchored_iff`: what is found between the assertions is what matches as a whole.
* `compile_whole_law`: which patterns are accepted for a whole text, and what passes them.
* `accepted_of_unopened`: a text that is no pattern, but is accepted for a whole text.
-/

namespace Guardrail

namespace Regex

variable {text : Array Char} {i j : Nat}

/-- What is in a group between the assertions matches the whole text. -/
theorem matches_anchored_iff {part : Part} :
    Matches text part.anchored.regex i j ↔
      i = 0 ∧ j = text.size ∧ Matches text part.regex 0 text.size := by
  simp only [Part.anchored, matches_cat_iff, matches_look_iff, matches_group_iff, matches_empty_iff]
  constructor
  · rintro ⟨k, ⟨rfl, hstart⟩, l, hmatch, m, ⟨rfl, hend⟩, rfl⟩
    obtain rfl : i = 0 := beq_iff_eq.1 hstart
    obtain rfl : l = text.size := beq_iff_eq.1 hend
    exact ⟨rfl, rfl, hmatch⟩
  · rintro ⟨rfl, rfl, hmatch⟩
    exact ⟨0, ⟨rfl, beq_self_eq_true 0⟩, text.size, hmatch, text.size,
      ⟨rfl, beq_self_eq_true text.size⟩, rfl⟩

theorem isMatch_anchored_iff {part : Part} {s : String} (h : part.regex.Ordered) :
    part.anchored.regex.isMatch s = true ↔
      Matches s.toList.toArray part.regex 0 s.toList.length := by
  have hordered : part.anchored.regex.Ordered := ⟨trivial, h, trivial, trivial⟩
  rw [isMatch_iff hordered]
  constructor
  · rintro ⟨i, j, -, hmatch⟩
    exact (matches_anchored_iff.1 hmatch).2.2
  · exact fun hmatch => ⟨0, _, Nat.zero_le _, matches_anchored_iff.2 ⟨rfl, rfl, hmatch⟩⟩

theorem parse_eq_ok_iff {pattern : String} {r : Regex} :
    parse pattern = .ok r ↔
      ∃ part, read pattern = .ok part ∧ part.depth ≤ maxDepth ∧ part.regex = r := by
  unfold parse
  constructor
  · intro h
    obtain ⟨part, hread, h⟩ := bind_eq_ok h
    split at h
    · cases h
    · next hdepth =>
      cases h
      exact ⟨part, hread, Nat.not_lt.1 hdepth, rfl⟩
  · rintro ⟨part, hread, hdepth, rfl⟩
    rw [hread]
    exact if_neg (Nat.not_lt.2 hdepth)

end Regex

namespace Validator.Pattern

variable {source : String} {mode : MatchMode} {p : Pattern}

/-- A pattern can be compiled for a mode. -/
def Accepted (source : String) (mode : MatchMode) : Prop := ∃ p, compile source mode = .ok p

theorem compile_eq_ok_iff :
    compile source mode = .ok p ↔
      ∃ part, Regex.read (anchored source mode) = .ok part ∧ part.depth ≤ Regex.maxDepth ∧
        part.regex.fits = true ∧ p = ⟨source, mode, part.regex⟩ := by
  have hcompile : compile source mode = .ok p ↔
      ∃ r, Regex.compile (anchored source mode) = .ok r ∧ p = ⟨source, mode, r⟩ := by
    unfold compile
    split
    · next r hr => simp [hr, eq_comm]
    · next fault hfault => simp [hfault]
  rw [hcompile]
  constructor
  · rintro ⟨r, hr, rfl⟩
    obtain ⟨hparse, hfits⟩ := Regex.compile_eq_ok_iff.1 hr
    obtain ⟨part, hread, hdepth, rfl⟩ := Regex.parse_eq_ok_iff.1 hparse
    exact ⟨part, hread, hdepth, hfits, rfl⟩
  · rintro ⟨part, hread, hdepth, hfits, rfl⟩
    exact ⟨_, Regex.compile_eq_ok_iff.2 ⟨Regex.parse_eq_ok_iff.2 ⟨part, hread, hdepth, rfl⟩, hfits⟩,
      rfl⟩

theorem accepted_iff :
    Accepted source mode ↔
      ∃ part, Regex.read (anchored source mode) = .ok part ∧ part.depth ≤ Regex.maxDepth ∧
        part.regex.fits = true := by
  constructor
  · rintro ⟨p, h⟩
    obtain ⟨part, hread, hdepth, hfits, -⟩ := compile_eq_ok_iff.1 h
    exact ⟨part, hread, hdepth, hfits⟩
  · rintro ⟨part, hread, hdepth, hfits⟩
    exact ⟨_, compile_eq_ok_iff.2 ⟨part, hread, hdepth, hfits, rfl⟩⟩

theorem check_str_eq_pass_iff {text : String} :
    p.check (.str text) = .pass ↔ p.regex.isMatch text = true := by
  rw [check]
  split
  · next h => exact iff_of_true rfl h
  · next h => exact iff_of_false nofun h

theorem accepted_search_iff {part : Regex.Part} (h : Regex.read source = .ok part) :
    Accepted source .search ↔ part.depth ≤ Regex.maxDepth ∧ part.regex.fits = true := by
  rw [accepted_iff]
  constructor
  · rintro ⟨other, hread, hfits⟩
    cases hread.symm.trans h
    exact hfits
  · exact fun hfits => ⟨part, h, hfits⟩

/-- What a pattern that can be read alone is compiled to for a whole text. -/
theorem read_whole_iff {part other : Regex.Part} (h : Regex.read source = .ok part) :
    Regex.read (anchored source .whole) = .ok other ↔
      ¬Regex.EndsInComment source ∧ other = part.anchored := by
  rcases Regex.read_anchored h with ⟨hcomment, hwhole⟩ | ⟨hcomment, hwhole⟩
  · exact iff_of_false (fun hread => nomatch hwhole.symm.trans hread) fun hread => hread.1 hcomment
  · constructor
    · intro hread
      cases hwhole.symm.trans hread
      exact ⟨hcomment, rfl⟩
    · rintro ⟨-, rfl⟩
      exact hwhole

theorem accepted_whole_iff {part : Regex.Part} (h : Regex.read source = .ok part) :
    Accepted source .whole ↔
      ¬Regex.EndsInComment source ∧ part.anchored.depth ≤ Regex.maxDepth ∧
        part.anchored.regex.fits = true := by
  rw [accepted_iff]
  constructor
  · rintro ⟨other, hread, hfits⟩
    obtain ⟨hcomment, rfl⟩ := (read_whole_iff h).1 hread
    exact ⟨hcomment, hfits⟩
  · rintro ⟨hcomment, hfits⟩
    exact ⟨_, (read_whole_iff h).2 ⟨hcomment, rfl⟩, hfits⟩

/-- What passes a pattern that is compiled for a whole text is what the pattern matches alone, from
the first character to the last. -/
theorem check_whole_iff {part : Regex.Part} {text : String} (h : Regex.read source = .ok part)
    (hp : compile source .whole = .ok p) :
    p.check (.str text) = .pass ↔
      part.regex.Matches text.toList.toArray 0 text.toList.length := by
  obtain ⟨other, hread, -, -, rfl⟩ := compile_eq_ok_iff.1 hp
  obtain ⟨-, rfl⟩ := (read_whole_iff h).1 hread
  rw [check_str_eq_pass_iff]
  exact Regex.isMatch_anchored_iff (Regex.ordered_of_read h)

theorem not_accepted_search {fault : Regex.Fault} (h : Regex.read source = .error fault) :
    ¬Accepted source .search := by
  rw [accepted_iff]
  rintro ⟨part, hread, -⟩
  cases hread.symm.trans h

theorem not_accepted_whole {fault : Regex.Fault} (h : Regex.read source = .error fault)
    (hfault : fault ≠ .unopenedGroup) : ¬Accepted source .whole := by
  rw [accepted_iff]
  rintro ⟨part, hread, -⟩
  have hnone := Regex.read_anchored_of_error h hfault
  rw [show Regex.read ("^(?:" ++ source ++ ")$") = .ok part from hread] at hnone
  cases hnone

/-- Which patterns are accepted for a whole text, and what passes them.

A pattern that can be read alone is accepted unless it ends in a comment, which takes a number sign,
or is at the limits of nesting and size, and then passes what it matches from the first character to
the last. A pattern that cannot be read alone is refused, unless it closes a group that it has not
opened. -/
theorem compile_whole_law (source : String) :
    (∀ part, Regex.read source = .ok part →
      (Accepted source .search ↔ part.depth ≤ Regex.maxDepth ∧ part.regex.fits = true) ∧
      (Accepted source .whole ↔
        ¬Regex.EndsInComment source ∧ part.anchored.depth ≤ Regex.maxDepth ∧
          part.anchored.regex.fits = true) ∧
      (Regex.EndsInComment source → '#' ∈ source.toList) ∧
      ∀ p, compile source .whole = .ok p → ∀ text,
        p.check (.str text) = .pass ↔
          part.regex.Matches text.toList.toArray 0 text.toList.length) ∧
    ∀ fault, Regex.read source = .error fault →
      ¬Accepted source .search ∧ (fault ≠ .unopenedGroup → ¬Accepted source .whole) :=
  ⟨fun _ h => ⟨accepted_search_iff h, accepted_whole_iff h, Regex.mem_of_endsInComment h,
      fun _ hp _ => check_whole_iff h hp⟩,
    fun _ h => ⟨not_accepted_search h, not_accepted_whole h⟩⟩

/-- A choice between two letters is accepted, and the whole text must be one of them. -/
theorem compile_whole_law_of_choice :
    Accepted "a|b" .search ∧ Accepted "a|b" .whole ∧
      ∀ p, compile "a|b" .whole = .ok p → ∀ text,
        p.check (.str text) = .pass ↔
          (Regex.alt (.one [(97, 97)]) (.one [(98, 98)])).Matches text.toList.toArray 0
            text.toList.length := by
  have hread : Regex.read "a|b" = .ok ⟨.alt (.one [(97, 97)]) (.one [(98, 98)]), 1, true⟩ := rfl
  obtain ⟨hsearch, hwhole, hcomment, hcheck⟩ := (compile_whole_law "a|b").1 _ hread
  have hsign : '#' ∉ "a|b".toList := by decide
  exact ⟨hsearch.2 ⟨by decide, rfl⟩, hwhole.2 ⟨fun h => hsign (hcomment h), by decide, rfl⟩, hcheck⟩

/-- `a)(b` cannot be read alone, but its parentheses pair with those that are put around it. -/
theorem accepted_of_unopened :
    (∃ p, compile "a)(b" .whole = .ok p ∧ p.check (.str "ab") = .pass) ∧
      ¬Accepted "a)(b" .search := by
  have hwhole : compile "a)(b" .whole =
      .ok ⟨"a)(b", .whole, .cat (.look .textStart) (.cat (.group none (.one [(97, 97)]))
        (.cat (.group (some 1) (.one [(98, 98)])) (.cat (.look .textEnd) .empty)))⟩ := rfl
  have hunopened : Regex.read "a)(b" = .error .unopenedGroup := rfl
  exact ⟨⟨_, hwhole, rfl⟩, not_accepted_search hunopened⟩

end Validator.Pattern

end Guardrail
