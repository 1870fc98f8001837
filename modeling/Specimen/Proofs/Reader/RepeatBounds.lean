import Specimen.Proofs.Reader.Loops
import Specimen.Proofs.Reader.WrittenParts
/-!
Bounds of repeats are read as they are written, below the number that stands for no bound: an upper bound from
there on is taken for none.
-/

namespace Specimen.Reader

namespace WrittenInterval

variable {w : WrittenInterval} {most : Nat}

theorem bounds_of_large_least (h : maxRepeat < w.least.getD 0) : w.bounds = .error .repeatTooLarge := by
  simp [bounds, h]

theorem bounds_of_large_most (hmost : w.most = some most) (hlarge : maxRepeat < most)
    (hend : most < endlessRepeat) : w.bounds = .error .repeatTooLarge := by
  simp [bounds, hmost, hlarge, hend]

theorem bounds_of_reversed (hmost : w.most = some most) (hleast : w.least.getD 0 ≤ maxRepeat)
    (hreversed : most < w.least.getD 0) : w.bounds = .error .repeatReversed := by
  have hsmall : most ≤ maxRepeat := by omega
  have hend : most < endlessRepeat := Nat.lt_of_le_of_lt hsmall (by decide)
  simp [bounds, hmost, hend, Nat.not_lt.2 hleast, Nat.not_lt.2 hsmall, hreversed]

theorem bounds_of_endless (hmost : w.most = some most) (hleast : w.least.getD 0 ≤ maxRepeat)
    (hend : endlessRepeat ≤ most) : w.bounds = .ok (w.least.getD 0, none) := by
  have hnone : w.most.filter (· < endlessRepeat) = none := by
    rw [hmost, Option.filter_some, if_neg (by simpa using hend)]
  simp [bounds, hnone, Nat.not_lt.2 hleast]

theorem eq_of_bounds {min : Nat} {max : Option Nat} (h : w.bounds = .ok (min, max)) :
    w.least.getD 0 = min ∧
      (w.most = max ∨ max = none ∧ ∃ most, w.most = some most ∧ endlessRepeat ≤ most) := by
  simp only [bounds] at h
  split at h
  · cases h
  · split at h
    · cases h
    · cases h
      refine ⟨rfl, ?_⟩
      cases w.most with
      | none => exact .inl rfl
      | some most =>
          by_cases hend : most < endlessRepeat
          · exact .inl (Option.filter_some_pos (by simpa using hend)).symm
          · have hle := Nat.le_of_not_lt hend
            exact .inr ⟨Option.filter_some_neg (by simpa using hle), most, rfl, hle⟩

end WrittenInterval

section Spelling

variable {c d : Cursor} {w : WrittenInterval} {q : Quantifier}

open WrittenRepeat

theorem exists_bound (c : Cursor) : ∃ bound : Option (Numeral 10),
    c.Reads (boundText bound) (c.span (Text.isDigit 10)).2 ∧
      number? (c.span (Text.isDigit 10)).1 = bound.map Numeral.value := by
  have hreads := Cursor.reads_span (Text.isDigit 10) c
  by_cases hnil : (c.span (Text.isDigit 10)).1 = []
  · rw [hnil] at hreads ⊢
    exact ⟨none, hreads, rfl⟩
  · let n : Numeral 10 :=
      ⟨(c.span (Text.isDigit 10)).1, hnil, fun _ hx => Cursor.Drifts.holds_of_mem_span hx⟩
    exact ⟨some n, hreads, number?_digits n⟩

theorem exists_of_writtenInterval (h : writtenInterval c = (w, d)) :
    ∃ least : Option (Numeral 10), w.least = least.map Numeral.value ∧
      ((∃ most : Option (Numeral 10), w.most = most.map Numeral.value ∧ w.form = .range ∧
          c.Reads (boundText least ++ ',' :: boundText most) d) ∨
        w.most = w.least ∧ w.form = .fixed ∧ c.Reads (boundText least) d) := by
  obtain ⟨least, hleast, hmin⟩ := exists_bound c
  simp only [writtenInterval] at h
  split at h
  · next e hcomma =>
      obtain ⟨most, hmost, hmax⟩ := exists_bound e
      cases h
      refine ⟨least, hmin, .inl ⟨most, hmax, rfl, hleast.append ?_⟩⟩
      exact (Cursor.reads_of_skip? hcomma).append hmost
  · cases h
    exact ⟨least, hmin, .inr ⟨rfl, rfl, hleast⟩⟩

theorem exists_spelling_of_interval? (h : interval? c = some (w, d)) :
    ∃ r : WrittenRepeat, r.isBounded = true ∧ w.bounds = r.bounds ∧ w.form = r.form ∧
      ∃ text, r.text = '{' :: text ∧ c.Reads text d := by
  rcases hwritten : writtenInterval c with ⟨v, e⟩
  simp only [interval?, hwritten] at h
  split at h
  · next hclose =>
      split at h
      · cases h
      · next hbounded =>
          cases h
          have hend := Cursor.reads_of_skip? hclose
          obtain ⟨least, hmin, ⟨most, hmax, hform, hreads⟩ | ⟨hmax, hform, hreads⟩⟩ :=
            exists_of_writtenInterval hwritten
          · refine ⟨.range least most, ?_, ?_, hform, _, rfl, by simpa using hreads.append hend⟩
            · cases least with
              | some n => rfl
              | none =>
                  cases most with
                  | some n => rfl
                  | none => simp [hmin, hmax] at hbounded
            · rw [WrittenInterval.bounds, hmin, hmax]
              rfl
          · cases least with
            | none => simp [hmin, hmax] at hbounded
            | some count =>
                refine ⟨.fixed count, rfl, ?_, hform, _, rfl, hreads.append hend⟩
                rw [WrittenInterval.bounds, hmax, hmin]
                rfl
  · cases h

theorem exists_spelling_of_readQuantifier (h : readQuantifier c = .ok (some (q, d))) :
    ∃ r : WrittenRepeat, r.isBounded = true ∧ r.bounds = .ok (q.min, q.max) ∧
      ∃ e, c.Reads r.text e ∧ suffix r.form e = (q.greediness, d) := by
  simp only [readQuantifier] at h
  split at h
  · next hc => cases h; exact ⟨.star, rfl, rfl, _, Cursor.reads_of_next? hc, rfl⟩
  · next hc => cases h; exact ⟨.plus, rfl, rfl, _, Cursor.reads_of_next? hc, rfl⟩
  · next hc => cases h; exact ⟨.optional, rfl, rfl, _, Cursor.reads_of_next? hc, rfl⟩
  · next hc =>
      split at h
      · next hinterval =>
          split at h
          · next hbounds =>
              cases h
              obtain ⟨r, hbounded, hsame, hform, text, htext, hreads⟩ :=
                exists_spelling_of_interval? hinterval
              refine ⟨r, hbounded, hsame ▸ hbounds, _, ?_, by rw [← hform]⟩
              rw [htext]
              exact Cursor.reads_cons_iff.2 ⟨_, hc, hreads⟩
          · cases h
      · cases h
  · cases h

end Spelling

variable {text : String} {flags : Flags} {s : State} {item : Node} {spelling : WrittenRepeat}
  {d : Cursor} {p : Pattern}

structure Awaits (text : String) (flags : Flags) (s : State) (item : Node) (spelling : WrittenRepeat)
    (d : Cursor) : Prop where
  reached : Reached text flags s
  admitted : s.last = .admitted
  items : ∃ rest, s.branches.items = item :: rest
  isBounded : spelling.isBounded = true
  spelled : ∃ c, skipTrivia s.flags.extended s.cursor = .ok c ∧ c.Reads spelling.text d

structure Repeats (text : String) (flags : Flags) (s : State) (item : Node) (q : Quantifier) :
    Prop where
  step : ∃ e, step (countGroups flags text.toList) s = .ok (.more (s.repeatLast q e))
  stays : ∀ p, Pattern.read text flags = .ok p → p.root.Contains (.loop q item)

namespace Awaits

theorem step_eq (h : Awaits text flags s item spelling d) :
    Reader.step (countGroups flags text.toList) s = spelling.bounds.map fun bounds =>
      .more (s.repeatLast ⟨bounds.1, bounds.2, (suffix spelling.form d).1⟩
        (suffix spelling.form d).2) := by
  obtain ⟨c, hc, hspelled⟩ := h.spelled
  have hquantifier := readQuantifier_of_spelling h.isBounded hspelled
  simp only [Reader.step, hc, markedStep, h.admitted, hquantifier]
  cases spelling.bounds <;> rfl

theorem rejected (h : Awaits text flags s item spelling d) {reason : SyntaxError}
    (hbounds : spelling.bounds = .error reason) : Pattern.read text flags = .error reason := by
  refine h.reached.read_error ?_
  rw [h.step_eq, hbounds]
  rfl

theorem repeats (h : Awaits text flags s item spelling d) {max : Option Nat}
    (hbounds : spelling.bounds = .ok (spelling.min, max)) :
    Repeats text flags s item ⟨spelling.min, max, (suffix spelling.form d).1⟩ := by
  have hstep := h.step_eq
  rw [hbounds] at hstep
  refine ⟨⟨_, hstep⟩, fun p hread => ?_⟩
  obtain ⟨rest, hitems⟩ := h.items
  refine (h.reached.next hstep).contains_of_hasLoop (.inl ?_) hread
  exact (Branches.hasLoop_repeatLast_iff hitems).2 (.inl ⟨rfl, rfl⟩)

end Awaits

theorem exists_awaits_of_contains (hread : Pattern.read text flags = .ok p) {q : Quantifier}
    {body : Node} (hloop : p.root.Contains (.loop q body)) :
    ∃ s spelling d, Awaits text flags s body spelling d ∧ spelling.bounds = .ok (q.min, q.max) ∧
      (suffix spelling.form d).1 = q.greediness := by
  let Spelled (q : Quantifier) (body : Node) : Prop :=
    ∃ s spelling d, Awaits text flags s body spelling d ∧ spelling.bounds = .ok (q.min, q.max) ∧
      (suffix spelling.form d).1 = q.greediness
  let Known (s : State) : Prop :=
    Reached text flags s ∧ ∀ q body, s.HasLoop q body → Spelled q body
  have hstart : Known (.start flags text) :=
    ⟨.start, by simp [State.HasLoop, State.start, Branches.not_hasLoop_none]⟩
  have keeps {s t : State} (hs : Known s)
      (hst : step (countGroups flags text.toList) s = .ok (.more t)) : Known t := by
    obtain ⟨c, hc, _, hmove⟩ := step_more hst
    refine ⟨hs.1.next hst, fun q body ht => ?_⟩
    obtain hkept | ⟨hlast, hitems, e, hq⟩ := hmove.of_hasLoop ht
    · exact hs.2 q body hkept
    · obtain ⟨r, hbounded, hbounds, d, hreads, hsuffix⟩ := exists_spelling_of_readQuantifier hq
      exact ⟨s, r, d, ⟨hs.1, hlast, hitems, hbounded, c, hc, hreads⟩, hbounds,
        congrArg Prod.fst hsuffix⟩
  obtain ⟨s, hs, _, hroot⟩ := Reached.start.of_read hstart keeps hread
  rw [hroot] at hloop
  exact hs.2 q body (.inl (Branches.contains_loop_node.1 hloop))

end Specimen.Reader

namespace Specimen

open Reader

theorem Pattern.repeatBounds_of_read (text : String) (flags : Flags) :
    (∀ s item spelling d, Awaits text flags s item spelling d →
      let greediness := (suffix spelling.form d).1
      (spelling.min ≤ maxRepeat →
        (∀ most, spelling.max = some most → spelling.min ≤ most ∧ most ≤ maxRepeat) →
        Repeats text flags s item ⟨spelling.min, spelling.max, greediness⟩) ∧
      (maxRepeat < spelling.min → Pattern.read text flags = .error .repeatTooLarge) ∧
      ∀ most, spelling.max = some most → spelling.min ≤ maxRepeat →
        (maxRepeat < most → most < endlessRepeat →
          Pattern.read text flags = .error .repeatTooLarge) ∧
        (most < spelling.min → Pattern.read text flags = .error .repeatReversed) ∧
        (endlessRepeat ≤ most → Repeats text flags s item ⟨spelling.min, none, greediness⟩)) ∧
    ∀ p, Pattern.read text flags = .ok p → ∀ q body, p.root.Contains (.loop q body) →
      ∃ s spelling d, Awaits text flags s body spelling d ∧
        (suffix spelling.form d).1 = q.greediness ∧ spelling.min = q.min ∧
        (spelling.max = q.max ∨
          q.max = none ∧ ∃ most, spelling.max = some most ∧ endlessRepeat ≤ most) := by
  constructor
  · intro s item spelling d h greediness
    refine ⟨fun hsmall hordered => ?_, fun hlarge => ?_, fun most hmost hsmall => ⟨?_, ?_, ?_⟩⟩
    · exact h.repeats (bounds_of_small hsmall hordered)
    · exact h.rejected (WrittenInterval.bounds_of_large_least hlarge)
    · intro hlarge hend
      exact h.rejected (WrittenInterval.bounds_of_large_most hmost hlarge hend)
    · intro hreversed
      exact h.rejected (WrittenInterval.bounds_of_reversed hmost hsmall hreversed)
    · intro hend
      exact h.repeats (WrittenInterval.bounds_of_endless hmost hsmall hend)
  · intro p hread q body hloop
    obtain ⟨s, spelling, d, h, hbounds, hsuffix⟩ := exists_awaits_of_contains hread hloop
    exact ⟨s, spelling, d, h, hsuffix, WrittenInterval.eq_of_bounds hbounds⟩

/-- The least upper bound that is taken for none. -/
theorem Pattern.repeatBounds_of_read_endless :
    ∃ p, Pattern.read "a{0,18446744073709551615}" .none = .ok p ∧
      p.root.Contains (.loop ⟨0, none, .greedy⟩ (.char 'a' false)) := by
  let text := "a{0,18446744073709551615}"
  let least : Numeral 10 := ⟨['0'], by decide, forall_mem_of_all (by decide)⟩
  let most : Numeral 10 :=
    ⟨['1', '8', '4', '4', '6', '7', '4', '4', '0', '7', '3', '7', '0', '9', '5', '5', '1', '6', '1', '5'],
      by decide, forall_mem_of_all (by decide)⟩
  let spelling : WrittenRepeat := .range (some least) (some most)
  let c : Cursor := ⟨spelling.text, 1⟩
  let s : State := addChar (.start .none text) 'a' c
  have hfirst : Reached text .none s := .of_first_char String.toList_ofList (by decide) nofun
  have hspelled : skipTrivia false c = .ok c :=
    skipTrivia_eq_self rfl fun x hx => by cases hx; decide
  have h : Awaits text .none s (.char 'a' false) spelling ⟨[], 25⟩ :=
    ⟨hfirst, rfl, ⟨[], rfl⟩, rfl, c, hspelled, rfl, rfl⟩
  have heval : (Pattern.read text .none).toOption.map Pattern.groupCount = some 0 := by
    decide +kernel
  obtain ⟨p, hp, _⟩ := exists_of_read heval
  obtain ⟨_, _, hmost⟩ := (Pattern.repeatBounds_of_read text .none).1 s _ _ _ h
  obtain ⟨_, _, hendless⟩ := hmost 18446744073709551615 rfl (by decide)
  exact ⟨p, hp, (hendless (by decide)).stays p hp⟩

end Specimen
