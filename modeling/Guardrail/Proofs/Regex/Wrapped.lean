import Guardrail.Proofs.Regex.Construct

/-!
# Patterns between the assertions for the ends of a text

A pattern is matched against a whole text with `^(?:` before it and `)$` after it. So set, it stands
for what it stands for alone, in a group between two assertions, unless a comment at its end
swallows what is put after it.

* `reaches_or_swallows`: a pattern that is read alone is read in open groups and with a tail.
* `refused_of_refused`: a pattern that is refused alone is refused there, unless it closes a group
  that it has not opened.
* `mem_of_endsInComment`: only a pattern with a number sign swallows what is put after it.
* `read_anchored`, `read_anchored_of_error`: what follows for patterns between the assertions.
-/

namespace Guardrail.Regex

variable {d n m : Nat} {cs rest r : List Char} {c : Char} {p q : Place} {W : List OpenGroup}
  {part : Part} {fault : Fault}

/-! ## Runs -/

theorem readParts_of_skip_nil (h : skip p.flags.verbose cs = []) :
    readParts (n + 1) p cs =
      if p.outer.isEmpty then .ok p.group.settle else .error .unclosedGroup := by
  rw [readParts, h]

theorem readParts_of_skip_cons (h : skip p.flags.verbose cs = c :: rest) :
    readParts (n + 1) p cs = readPart p c rest >>= fun read => readParts n read.1 read.2 := by
  rw [readParts, h]

/-- The blanks and comments at the front make no difference. -/
theorem readParts_congr {us : List Char}
    (h : skip p.flags.verbose cs = skip p.flags.verbose us) :
    readParts n p cs = readParts n p us := by
  cases n with
  | zero => rfl
  | succ n => rw [readParts, readParts, h]

/-- One construct, within open groups and before a tail. -/
theorem readParts_under_append (hskip : skip p.flags.verbose cs = c :: rest)
    (hclose : c = ')' → p.outer ≠ []) :
    readParts (n + 1) (p.under W) (cs ++ tail d) =
      readPart p c (rest ++ tail d) >>= fun read => readParts n (read.1.under W) read.2 := by
  have hskip' : skip (p.under W).flags.verbose (cs ++ tail d) = c :: (rest ++ tail d) := by
    rcases skip_append (d := d) p.flags.verbose cs with h | ⟨-, h, -⟩
    · rw [Place.under_flags, h, hskip, List.cons_append]
    · rw [h] at hskip
      cases hskip
  rw [readParts_of_skip_cons hskip', readPart_under hclose]
  cases readPart p c (rest ++ tail d) <;> rfl

theorem readPart_close (h : p.outer = []) : readPart p ')' rest = .error .unopenedGroup := by
  simp only [readPart, closeGroup, h]
  rfl

theorem outer_ne_nil_of_ok (h : readPart p c rest = .ok (q, r)) : c = ')' → p.outer ≠ [] := by
  rintro rfl houter
  rw [readPart_close houter] at h
  cases h

/-- What is left after the construct that blanks and comments stand before. -/
theorem suffix_of_skip {verbose : Bool} (h : skip verbose cs = c :: rest) (hr : r <:+ rest) :
    r <:+ cs ∧ r.length < cs.length := by
  have hcons : c :: rest <:+ cs := h ▸ skip_suffix verbose cs
  have hlen := hcons.length_le
  rw [List.length_cons] at hlen
  exact ⟨hr.trans ((List.suffix_cons c rest).trans hcons), Nat.lt_of_le_of_lt hr.length_le hlen⟩

/-- A construct that is read alone is read with the tail after it, which is left or which a comment
has swallowed. -/
theorem readParts_step (hskip : skip p.flags.verbose cs = c :: rest)
    (hread : readPart p c rest = .ok (q, r)) :
    (r <:+ rest ∧ ∀ W m,
        readParts (m + 1) (p.under W) (cs ++ tail d) = readParts m (q.under W) (r ++ tail d)) ∨
      r = [] ∧ '#' ∈ rest ∧ ∀ W m,
        readParts (m + 1) (p.under W) (cs ++ tail d) = readParts m (q.under W) [] := by
  have hstep : ∀ W m, readParts (m + 1) (p.under W) (cs ++ tail d) =
      readPart p c (rest ++ tail d) >>= fun read => readParts m (read.1.under W) read.2 :=
    fun W m => readParts_under_append hskip (outer_ne_nil_of_ok hread)
  rcases (tailed_readPart (d := d) p c).of_ok hread with ⟨hr, htail⟩ | ⟨rfl, hcomment, htail⟩
  · refine .inl ⟨hr, fun W m => ?_⟩
    rw [hstep, htail]
    rfl
  · refine .inr ⟨rfl, hcomment, fun W m => ?_⟩
    rw [hstep, htail]
    rfl

/-! ### Patterns that are read alone -/

theorem ordered_of_readParts (hp : p.Sound) (h : readParts n p cs = .ok part) :
    part.regex.Ordered := by
  induction n generalizing p cs with
  | zero => cases h
  | succ n ih =>
    cases hskip : skip p.flags.verbose cs with
    | nil =>
      rw [readParts_of_skip_nil hskip] at h
      split at h
      · cases h
        exact (hp.ordered _ List.mem_cons_self).settle
      · cases h
    | cons c rest =>
      rw [readParts_of_skip_cons hskip] at h
      obtain ⟨⟨q, r⟩, hread, h⟩ := bind_eq_ok h
      exact ih (hp.of_readPart hread) h

/-- The pattern is read to its end before the tail is. -/
def Reaches (d : Nat) (p : Place) (cs : List Char) (part : Part) : Prop :=
  ∃ q : Place, q.Sound ∧ q.outer = [] ∧ q.group.settle = part ∧
    ∀ W n, cs.length + (tail d).length < n →
      ∃ m, (tail d).length < m ∧
        readParts n (p.under W) (cs ++ tail d) = readParts m (q.under W) (tail d)

/-- A comment at the end of the pattern swallows the tail. -/
def Swallows (d : Nat) (p : Place) (cs : List Char) (part : Part) : Prop :=
  '#' ∈ cs ∧ ∀ W n, cs.length + (tail d).length < n →
    readParts n (p.under W) (cs ++ tail d) =
      if W.isEmpty then .ok part else .error .unclosedGroup

theorem Reaches.of_step (h : Reaches d q r part) (hr : r <:+ cs ∧ r.length < cs.length)
    (hstep : ∀ W m,
      readParts (m + 1) (p.under W) (cs ++ tail d) = readParts m (q.under W) (r ++ tail d)) :
    Reaches d p cs part := by
  obtain ⟨q', hq', houter, hsettle, hrun⟩ := h
  refine ⟨q', hq', houter, hsettle, fun W n hn => ?_⟩
  obtain ⟨n, rfl⟩ : ∃ k, n = k + 1 := ⟨n - 1, by omega⟩
  rw [hstep]
  exact hrun W n (by have := hr.2; omega)

theorem Swallows.of_step (h : Swallows d q r part) (hr : r <:+ cs ∧ r.length < cs.length)
    (hstep : ∀ W m,
      readParts (m + 1) (p.under W) (cs ++ tail d) = readParts m (q.under W) (r ++ tail d)) :
    Swallows d p cs part := by
  refine ⟨hr.1.subset h.1, fun W n hn => ?_⟩
  obtain ⟨n, rfl⟩ : ∃ k, n = k + 1 := ⟨n - 1, by omega⟩
  rw [hstep]
  exact h.2 W n (by have := hr.2; omega)

/-- The pattern ends with the construct whose comment swallows the tail. -/
theorem swallows_of_step_nil (h : readParts n q [] = .ok part) (hcs : '#' ∈ cs)
    (hstep : ∀ W m, readParts (m + 1) (p.under W) (cs ++ tail d) = readParts m (q.under W) []) :
    Swallows d p cs part := by
  refine ⟨hcs, fun W m hm => ?_⟩
  have hpos : 0 < cs.length := List.length_pos_of_mem hcs
  have htail : 0 < (tail d).length := Nat.zero_lt_succ _
  obtain ⟨m, rfl⟩ : ∃ k, m = k + 2 := ⟨m - 2, by omega⟩
  rw [hstep, readParts_of_skip_nil rfl]
  cases n with
  | zero => cases h
  | succ n =>
    rw [readParts_of_skip_nil rfl] at h
    split at h
    · next houter =>
      cases h
      rw [Place.under_outer, List.isEmpty_iff.1 houter, List.nil_append, Place.under_group]
    · cases h

/-- The pattern ends in blanks and comments, of which the last may swallow the tail. -/
theorem reaches_or_swallows_of_skip_nil (hp : p.Sound) (houter : p.outer = [])
    (h : skip p.flags.verbose cs = []) :
    Reaches d p cs p.group.settle ∨ Swallows d p cs p.group.settle := by
  rcases skip_append (d := d) p.flags.verbose cs with htail | ⟨hcs, -, hnil⟩
  · refine .inl ⟨p, hp, houter, rfl, fun W n hn => ⟨n, by omega, readParts_congr ?_⟩⟩
    rw [Place.under_flags, htail, h, skip_tail, List.nil_append]
  · refine .inr ⟨hcs, fun W n hn => ?_⟩
    have hnil' : skip (p.under W).flags.verbose (cs ++ tail d) = [] := hnil
    obtain ⟨n, rfl⟩ : ∃ k, n = k + 1 := ⟨n - 1, by omega⟩
    rw [readParts_of_skip_nil hnil', Place.under_outer, houter, List.nil_append,
      Place.under_group]

/-- What is read alone is read within open groups too, up to the tail or with it. -/
theorem reaches_or_swallows (hp : p.Sound) (hn : cs.length < n)
    (h : readParts n p cs = .ok part) : Reaches d p cs part ∨ Swallows d p cs part := by
  induction n generalizing p cs with
  | zero => cases h
  | succ n ih =>
    cases hskip : skip p.flags.verbose cs with
    | nil =>
      rw [readParts_of_skip_nil hskip] at h
      split at h
      · next houter =>
        cases h
        exact reaches_or_swallows_of_skip_nil hp (List.isEmpty_iff.1 houter) hskip
      · cases h
    | cons c rest =>
      rw [readParts_of_skip_cons hskip] at h
      obtain ⟨⟨q, r⟩, hread, h⟩ := bind_eq_ok h
      rcases readParts_step hskip hread with ⟨hr, hstep⟩ | ⟨rfl, hcomment, hstep⟩
      · have hr := suffix_of_skip hskip hr
        exact (ih (hp.of_readPart hread) (Nat.lt_of_lt_of_le hr.2 (Nat.le_of_lt_succ hn)) h).imp
          (fun hrest => hrest.of_step hr hstep) fun hrest => hrest.of_step hr hstep
      · have hcs : '#' ∈ cs := (suffix_of_skip hskip List.suffix_rfl).1.subset hcomment
        exact .inr (swallows_of_step_nil h hcs hstep)

/-! ### Patterns that are refused alone -/

theorem readParts_unclosed (hp : p.outer ≠ []) (h : skip p.flags.verbose cs = []) :
    (readParts n p cs).toOption = none := by
  cases n with
  | zero => rfl
  | succ n =>
    rw [readParts_of_skip_nil h, if_neg (by rwa [List.isEmpty_iff])]
    rfl

theorem readParts_spent (hp : p.outer ≠ []) (h : Spent cs) :
    (readParts n p cs).toOption = none := by
  induction n generalizing p cs with
  | zero => rfl
  | succ n ih =>
    rcases cs with _ | ⟨c, rest⟩
    · exact readParts_unclosed hp rfl
    · obtain rfl := h c List.mem_cons_self
      rw [readParts_of_skip_cons (skip_spent h)]
      exact ih hp fun c hc => h c (List.mem_cons_of_mem _ hc)

theorem readCount_tail (verbose : Bool) : readCount verbose (tail d) = none := by
  have hcount : Tailed d [] Never (readCount verbose [])
      (readCount verbose ([] ++ tail d)) := tailed_readCount
  rw [List.nil_append] at hcount
  generalize readCount verbose (tail d) = b at hcount ⊢
  cases hcount with
  | refused hb => exact eq_none_of_never hb

theorem readParts_unfinished (hp : p.outer ≠ []) (h : Unfinished p cs) :
    (readParts n p cs).toOption = none := by
  rcases h with hspent | ⟨u, d, rfl, hskip⟩
  · exact readParts_spent hp hspent
  · cases n with
    | zero => rfl
    | succ n =>
      have hopen : skip p.flags.verbose ('\x7b' :: u) = '\x7b' :: u := by
        cases p.flags.verbose <;> rfl
      have hbounds : readBounds p.flags.verbose u = .error .badRepetition := by
        rw [readBounds, hskip, readCount_tail]
      rw [readParts_of_skip_cons hopen]
      simp only [readPart, againCounted, hbounds]
      split
      · rfl
      · split <;> rfl

/-- A group that the pattern leaves open takes the parenthesis of the tail, and the group around the
pattern stays open. -/
theorem refused_of_skip_nil (hW : W ≠ []) (hp : p.outer ≠ []) (h : skip p.flags.verbose cs = []) :
    (readParts n (p.under W) (cs ++ tail d)).toOption = none := by
  rcases skip_append (d := d) p.flags.verbose cs with htail | ⟨-, -, hnil⟩
  · have hcongr : skip (p.under W).flags.verbose (cs ++ tail d) =
        skip (p.under W).flags.verbose (tail d) := by
      rw [Place.under_flags, htail, h, skip_tail, List.nil_append]
    rw [readParts_congr hcongr]
    cases n with
    | zero => rfl
    | succ n =>
      obtain ⟨g, outer, hp⟩ := List.exists_cons_of_ne_nil hp
      rw [readParts_of_skip_cons skip_tail]
      simp only [readPart, closeGroup, Place.under_outer, hp, List.cons_append]
      exact readParts_spent (List.append_ne_nil_of_right_ne_nil outer hW) spent_replicate
  · exact readParts_unclosed (List.append_ne_nil_of_right_ne_nil p.outer hW) hnil

/-- What is refused alone is refused within open groups, unless it closes one of them. -/
theorem refused_of_refused (hW : W ≠ []) (hn : cs.length < n) (h : readParts n p cs = .error fault)
    (hfault : fault ≠ .unopenedGroup) :
    (readParts m (p.under W) (cs ++ tail d)).toOption = none := by
  have hunder : ∀ q : Place, (q.under W).outer ≠ [] := fun q =>
    List.append_ne_nil_of_right_ne_nil q.outer hW
  induction n generalizing p cs m with
  | zero => omega
  | succ n ih =>
    cases hskip : skip p.flags.verbose cs with
    | nil =>
      rw [readParts_of_skip_nil hskip] at h
      split at h
      · cases h
      · next houter => exact refused_of_skip_nil hW (by rwa [List.isEmpty_iff] at houter) hskip
    | cons c rest =>
      cases m with
      | zero => rfl
      | succ m =>
        have hclose : c = ')' → p.outer ≠ [] := by
          rintro rfl houter
          rw [readParts_of_skip_cons hskip, readPart_close houter] at h
          cases h
          exact hfault rfl
        rw [readParts_of_skip_cons hskip] at h
        -- This construct is refused alone, or a later one is.
        rcases bind_eq_error h with hread | ⟨⟨q, r⟩, hread, h⟩
        · rw [readParts_under_append hskip hclose]
          cases htail : readPart p c (rest ++ tail d) with
          | error fault => rfl
          | ok read =>
            exact readParts_unfinished (hunder _) ((tailed_readPart p c).of_error hread htail)
        · rcases readParts_step hskip hread with ⟨hr, hstep⟩ | ⟨rfl, -, hstep⟩
          · rw [hstep]
            have hlen := (suffix_of_skip hskip hr).2
            exact ih (Nat.lt_of_lt_of_le hlen (Nat.le_of_lt_succ hn)) h
          · rw [hstep]
            exact readParts_unclosed (hunder q) rfl

/-! ## Patterns between the assertions -/

/-- A part in a group between the assertions for the ends of the text. -/
def Part.anchored (part : Part) : Part where
  regex := .cat (.look .textStart) (.cat (.group none part.regex) (.cat (.look .textEnd) .empty))
  depth := part.depth + 2
  repeatable := true

/-- A comment at the end of a pattern swallows what is put after it. -/
def EndsInComment (pattern : String) : Prop := read (pattern ++ ")$") = read pattern

/-- The group around a pattern between the assertions. -/
def enclosing : OpenGroup := ⟨.initial, none, [], [leaf (.look .textStart)]⟩

theorem readParts_closing (hq : q.Sound) (houter : q.outer = []) :
    readParts (n + 3) (q.under [enclosing]) (tail 1) = .ok q.group.settle.anchored := by
  have hbase : q.base = q.group := by
    rw [Place.base, houter]
    rfl
  have hflags : q.group.outer = .initial := hbase ▸ hq.flags
  have hnumber : q.group.number = none := hbase ▸ hq.number
  have hclose : closeGroup (q.under [enclosing]) =
      .ok ((⟨.initial, enclosing, [], q.count, q.names⟩ : Place).push
        ⟨.group none q.group.settle.regex, q.group.settle.depth + 1, true⟩) := by
    simp only [closeGroup, Place.under_outer, houter, List.nil_append, Place.under_group, hflags,
      hnumber]
    rfl
  rw [readParts_of_skip_cons skip_tail]
  simp only [readPart, hclose]
  exact rfl

theorem read_append (pattern : String) :
    read (pattern ++ ")$") =
      readParts (pattern.toList.length + 3) (Place.start.under []) (pattern.toList ++ tail 1) := by
  have htoList : (pattern ++ ")$").toList = pattern.toList ++ tail 1 := String.toList_append
  rw [read, htoList, List.length_append]
  rfl

theorem read_between (pattern : String) :
    read ("^(?:" ++ pattern ++ ")$") =
      readParts (pattern.toList.length + 5) (Place.start.under [enclosing])
        (pattern.toList ++ tail 1) := by
  have htoList : ("^(?:" ++ pattern ++ ")$").toList =
      '^' :: '(' :: '?' :: ':' :: (pattern.toList ++ tail 1) := by
    rw [String.toList_append, String.toList_append, List.append_assoc]
    rfl
  have hlen : ('^' :: '(' :: '?' :: ':' :: (pattern.toList ++ tail 1)).length + 1 =
      pattern.toList.length + 7 := by
    simp [tail]
  rw [read, htoList, hlen]
  rfl

/-- After a pattern that is read to its end, a parenthesis closes no group. -/
theorem Reaches.not_endsInComment {pattern : String} (h : read pattern = .ok part)
    (hreach : Reaches 1 .start pattern.toList part) : ¬EndsInComment pattern := by
  obtain ⟨q, -, houter, -, hrun⟩ := hreach
  have htail : (tail 1).length = 2 := rfl
  obtain ⟨m, hm, hrun⟩ := hrun [] (pattern.toList.length + 3) (by omega)
  obtain ⟨m, rfl⟩ : ∃ k, m = k + 1 := ⟨m - 1, by omega⟩
  have hclose : (q.under []).outer = [] := by rw [Place.under_outer, houter, List.nil_append]
  rw [EndsInComment, read_append, h, hrun, readParts_of_skip_cons skip_tail, readPart_close hclose]
  nofun

theorem Swallows.endsInComment {pattern : String} (h : read pattern = .ok part)
    (hswallow : Swallows 1 .start pattern.toList part) : EndsInComment pattern := by
  rw [EndsInComment, read_append, h]
  exact hswallow.2 [] _ (Nat.lt_succ_self _)

/-- A pattern without a number sign ends in no comment. -/
theorem mem_of_endsInComment {pattern : String} (h : read pattern = .ok part)
    (hcomment : EndsInComment pattern) : '#' ∈ pattern.toList := by
  rcases reaches_or_swallows (d := 1) .start (Nat.lt_succ_self _) h with hreach | hswallow
  · exact absurd hcomment (hreach.not_endsInComment h)
  · exact hswallow.1

example : EndsInComment "(?x)a#" := by rfl

/-- A pattern that can be read alone stands for the same between the assertions. -/
theorem read_anchored {pattern : String} (h : read pattern = .ok part) :
    (EndsInComment pattern ∧ read ("^(?:" ++ pattern ++ ")$") = .error .unclosedGroup) ∨
      ¬EndsInComment pattern ∧ read ("^(?:" ++ pattern ++ ")$") = .ok part.anchored := by
  have htail : (tail 1).length = 2 := rfl
  rw [read_between]
  rcases reaches_or_swallows (d := 1) .start (Nat.lt_succ_self _) h with hreach | hswallow
  · refine .inr ⟨hreach.not_endsInComment h, ?_⟩
    obtain ⟨q, hq, houter, rfl, hrun⟩ := hreach
    obtain ⟨m, hm, hrun⟩ := hrun [enclosing] (pattern.toList.length + 5) (by omega)
    obtain ⟨m, rfl⟩ : ∃ k, m = k + 3 := ⟨m - 3, by omega⟩
    rw [hrun, readParts_closing hq houter]
  · exact .inl ⟨hswallow.endsInComment h, hswallow.2 [enclosing] _ (by omega)⟩

/-- A pattern that is refused alone is refused between the assertions, unless it closes a group that
it has not opened. -/
theorem read_anchored_of_error {pattern : String} (h : read pattern = .error fault)
    (hfault : fault ≠ .unopenedGroup) :
    (read ("^(?:" ++ pattern ++ ")$")).toOption = none := by
  rw [read_between]
  exact refused_of_refused (List.cons_ne_nil _ _) (Nat.lt_succ_self _) h hfault

theorem ordered_of_read {pattern : String} (h : read pattern = .ok part) : part.regex.Ordered :=
  ordered_of_readParts .start h

end Guardrail.Regex
