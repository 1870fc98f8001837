import Specimen.Reader.Cursor

namespace Specimen.Reader.Cursor

variable {c d : Cursor} {x mark : Char} {text : List Char}

theorem reads_nil_iff : c.Reads [] d ↔ c = d := by
  constructor
  · rintro ⟨hrest, hoffset⟩
    cases c
    cases d
    cases hrest
    cases hoffset
    rfl
  · rintro rfl
    exact .refl c

theorem reads_cons_iff : c.Reads (x :: text) d ↔ ∃ e, c.next? = some (x, e) ∧ e.Reads text d := by
  constructor
  · rintro ⟨hrest, hoffset⟩
    refine ⟨⟨text ++ d.rest, c.offset + x.utf8Size⟩, ?_, rfl, ?_⟩
    · rw [next?, hrest]
      rfl
    · rw [hoffset, Nat.add_assoc]
      rfl
  · rintro ⟨e, he, htext⟩
    exact (reads_of_next? he).append htext

theorem reads_append_iff {front back : List Char} :
    c.Reads (front ++ back) d ↔ ∃ e, c.Reads front e ∧ e.Reads back d := by
  induction front generalizing c with
  | nil => simp only [List.nil_append, reads_nil_iff, exists_eq_left']
  | cons x rest ih =>
      simp only [List.cons_append, reads_cons_iff, ih]
      constructor
      · rintro ⟨e, he, f, hf, hback⟩
        exact ⟨f, ⟨e, he, hf⟩, hback⟩
      · rintro ⟨f, ⟨e, he, hf⟩, hback⟩
        exact ⟨e, he, f, hf, hback⟩

theorem peek?_of_reads (h : c.Reads text d) : c.peek? = (text ++ d.rest).head? := by
  rw [peek?, h.rest_eq]

theorem peek?_of_next? (h : c.next? = some (x, d)) : c.peek? = some x := by
  rw [peek?_of_reads (reads_of_next? h)]
  rfl

theorem peek?_ne_of_not_mem (h : c.Reads text d) (hne : text ≠ []) (hx : x ∉ text) :
    c.peek? ≠ some x := by
  obtain ⟨y, rest, rfl⟩ := List.exists_cons_of_ne_nil hne
  rw [peek?_of_reads h]
  intro heq
  cases heq
  exact hx List.mem_cons_self

theorem next?_of_peek? (h : c.peek? = some x) : ∃ d, c.next? = some (x, d) := by
  rw [peek?] at h
  rw [next?]
  split
  · next hrest =>
      rw [hrest] at h
      cases h
  · next hrest =>
      rw [hrest] at h
      cases h
      exact ⟨_, rfl⟩

theorem length_of_next? (h : c.next? = some (x, d)) : c.rest.length = d.rest.length + 1 := by
  rw [(reads_of_next? h).rest_eq]
  rfl

theorem length_le_of_next? {e : Cursor} (h : c.next? = some (x, d)) (hpasses : c.Passes e) :
    e.rest.length ≤ d.rest.length := by
  have hlt := hpasses.length_lt
  rw [length_of_next? h] at hlt
  exact Nat.le_of_lt_succ hlt

theorem rest_of_next?_eq_none (h : c.next? = none) : c.rest = [] := by
  rw [next?] at h
  split at h
  · assumption
  · cases h

theorem skip?_of_next? (h : c.next? = some (mark, d)) : c.skip? mark = some d := by
  rw [skip?, h]
  exact if_pos rfl

theorem skip?_eq_none (h : c.peek? ≠ some mark) : c.skip? mark = none := by
  cases hskip : c.skip? mark with
  | none => rfl
  | some d =>
      have hpeek := peek?_of_reads (reads_of_skip? hskip)
      exact absurd hpeek h

theorem peek?_ne_of_skip?_eq_none (h : c.skip? mark = none) : c.peek? ≠ some mark := by
  intro hpeek
  obtain ⟨d, hd⟩ := next?_of_peek? hpeek
  rw [skip?_of_next? hd] at h
  cases h

theorem skipAll?_of_reads {marks : List Char} (h : c.Reads marks d) :
    c.skipAll? marks = some d := by
  induction marks generalizing c with
  | nil =>
      rw [reads_nil_iff] at h
      rw [h]
      rfl
  | cons mark marks ih =>
      obtain ⟨e, he, hmarks⟩ := reads_cons_iff.1 h
      simp only [skipAll?, skip?_of_next? he]
      exact ih hmarks

theorem skipAll?_eq_none {marks : List Char} (h : c.peek? ≠ some mark) :
    c.skipAll? (mark :: marks) = none := by
  simp only [skipAll?, skip?_eq_none h]

theorem skipOptional_of_next? (h : c.next? = some (mark, d)) : c.skipOptional mark = (true, d) := by
  simp only [skipOptional, skip?_of_next? h]

theorem skipOptional_eq_false (h : c.peek? ≠ some mark) : c.skipOptional mark = (false, c) := by
  simp only [skipOptional, skip?_eq_none h]

variable {p : Char → Bool}

theorem span_of_reads (h : c.Reads text d) (htext : ∀ x ∈ text, p x = true)
    (hend : ∀ x, d.peek? = some x → p x = false) : c.span p = (text, d) := by
  have hstop : d.rest.takeWhile p = [] ∧ d.rest.dropWhile p = d.rest := by
    cases hrest : d.rest with
    | nil => exact ⟨rfl, rfl⟩
    | cons x rest =>
        have hx : p x = false := hend x (by rw [peek?, hrest]; rfl)
        simp only [List.takeWhile_cons, List.dropWhile_cons, hx, Bool.false_eq_true, if_false,
          and_self]
  have htake : c.rest.takeWhile p = text := by
    rw [h.rest_eq, List.takeWhile_append_of_pos htext, hstop.1, List.append_nil]
  have hdrop : c.rest.dropWhile p = d.rest := by
    rw [h.rest_eq, List.dropWhile_append_of_pos htext, hstop.2]
  simp only [span, htake, hdrop, ← h.offset_eq]

theorem spanUpTo_of_reads {limit : Nat} (h : c.Reads text d) (htext : ∀ x ∈ text, p x = true)
    (hlimit : text.length ≤ limit) (hend : ∀ x, d.peek? = some x → p x = false) :
    c.spanUpTo limit p = (text, d) := by
  have hspan : (d.rest.take (limit - text.length)).takeWhile p = [] := by
    cases hrest : d.rest with
    | nil => rw [List.take_nil]; rfl
    | cons x rest =>
        have hx : p x = false := hend x (by rw [peek?, hrest]; rfl)
        cases limit - text.length with
        | zero => rfl
        | succ n => rw [List.take_succ_cons, List.takeWhile_cons, hx]; rfl
  have htake : (c.rest.take limit).takeWhile p = text := by
    rw [h.rest_eq, List.take_append, List.take_of_length_le hlimit,
      List.takeWhile_append_of_pos htext, hspan, List.append_nil]
  have hdrop : c.rest.drop text.length = d.rest := by rw [h.rest_eq, List.drop_left]
  simp only [spanUpTo, htake, hdrop, ← h.offset_eq]

theorem spanUpTo_of_length {limit : Nat} (h : c.Reads text d) (htext : ∀ x ∈ text, p x = true)
    (hlimit : text.length = limit) : c.spanUpTo limit p = (text, d) := by
  have htake : (c.rest.take limit).takeWhile p = text := by
    have hself : (text ++ []).takeWhile p = text ++ [].takeWhile p :=
      List.takeWhile_append_of_pos htext
    rw [List.append_nil, List.takeWhile_nil, List.append_nil] at hself
    rw [h.rest_eq, ← hlimit, List.take_left, hself]
  have hdrop : c.rest.drop text.length = d.rest := by rw [h.rest_eq, List.drop_left]
  simp only [spanUpTo, htake, hdrop, ← h.offset_eq]

theorem peek?_span (hx : (c.span p).2.peek? = some x) : p x = false := by
  have hne : c.rest.dropWhile p ≠ [] := by
    intro hnil
    simp [span, peek?, hnil] at hx
  have hhead := List.head_dropWhile_not p hne
  simp only [span, peek?, List.head?_eq_some_head hne, Option.some.injEq] at hx
  rw [← hx]
  exact hhead

theorem peek?_spanUpTo {limit : Nat} (hlimit : (c.spanUpTo limit p).1.length < limit)
    (hx : (c.spanUpTo limit p).2.peek? = some x) : p x = false := by
  have hreads := (reads_spanUpTo limit p c).rest_eq
  rw [peek?] at hx
  obtain ⟨rest, hrest⟩ := List.head?_eq_some_iff.1 hx
  generalize htext : (c.spanUpTo limit p).1 = text at hlimit hreads
  rw [hrest] at hreads
  have htake : (c.rest.take limit).takeWhile p = text := htext
  cases hpx : p x with
  | false => rfl
  | true =>
      have hall : ∀ y ∈ text ++ [x], p y = true := by
        intro y hy
        rcases List.mem_append.1 hy with hy | hy
        · exact List.all_eq_true.1 (htake ▸ List.all_takeWhile) y hy
        · rw [List.mem_singleton.1 hy]
          exact hpx
      have hfits : (text ++ [x]).length ≤ limit := by
        rw [List.length_append]
        exact hlimit
      rw [hreads, List.append_cons, List.take_append, List.take_of_length_le hfits,
        List.takeWhile_append_of_pos hall] at htake
      have hlength := congrArg List.length htake
      simp at hlength

end Specimen.Reader.Cursor
