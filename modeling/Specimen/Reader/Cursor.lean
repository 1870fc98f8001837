/-!
A cursor in the text of a pattern. `c.Reads text d` says that going from `c` to `d` takes `text`; every
reader of this library that succeeds reads some text.
-/

namespace Specimen.Reader

def utf8Length (text : List Char) : Nat := text.foldr (fun c n => c.utf8Size + n) 0

theorem utf8Length_append (a b : List Char) : utf8Length (a ++ b) = utf8Length a + utf8Length b := by
  induction a with
  | nil => simp [utf8Length]
  | cons c rest ih =>
      simp only [utf8Length, List.cons_append, List.foldr_cons] at ih ⊢
      rw [ih, Nat.add_assoc]

/-- What is left of a pattern, and the byte offset at which it starts. -/
structure Cursor where
  rest : List Char
  offset : Nat
  deriving DecidableEq, Repr

namespace Cursor

def ofString (text : String) : Cursor := ⟨text.toList, 0⟩

structure Reads (c : Cursor) (text : List Char) (d : Cursor) : Prop where
  rest_eq : c.rest = text ++ d.rest
  offset_eq : d.offset = c.offset + utf8Length text

theorem Reads.refl (c : Cursor) : c.Reads [] c := ⟨rfl, rfl⟩

theorem Reads.append {c d e : Cursor} {s t : List Char} (h : c.Reads s d) (k : d.Reads t e) :
    c.Reads (s ++ t) e := by
  constructor
  · rw [h.rest_eq, k.rest_eq, List.append_assoc]
  · rw [k.offset_eq, h.offset_eq, utf8Length_append, Nat.add_assoc]

def Reaches (c d : Cursor) : Prop := ∃ text, c.Reads text d

def Passes (c d : Cursor) : Prop := ∃ text, text ≠ [] ∧ c.Reads text d

theorem Reaches.refl (c : Cursor) : c.Reaches c := ⟨[], .refl c⟩

theorem Reaches.trans {c d e : Cursor} (h : c.Reaches d) (k : d.Reaches e) : c.Reaches e :=
  let ⟨_, hs⟩ := h
  let ⟨_, ht⟩ := k
  ⟨_, hs.append ht⟩

theorem Passes.reaches {c d : Cursor} (h : c.Passes d) : c.Reaches d :=
  let ⟨text, _, hr⟩ := h
  ⟨text, hr⟩

theorem Passes.trans_reaches {c d e : Cursor} (h : c.Passes d) (k : d.Reaches e) : c.Passes e := by
  obtain ⟨s, hs, h⟩ := h
  obtain ⟨t, k⟩ := k
  exact ⟨s ++ t, by simp [hs], h.append k⟩

theorem Reaches.trans_passes {c d e : Cursor} (h : c.Reaches d) (k : d.Passes e) : c.Passes e := by
  obtain ⟨s, h⟩ := h
  obtain ⟨t, ht, k⟩ := k
  exact ⟨s ++ t, by simp [ht], h.append k⟩

theorem Passes.trans {c d e : Cursor} (h : c.Passes d) (k : d.Passes e) : c.Passes e :=
  h.trans_reaches k.reaches

theorem Reaches.length_le {c d : Cursor} (h : c.Reaches d) : d.rest.length ≤ c.rest.length := by
  obtain ⟨text, h⟩ := h
  simp [h.rest_eq]

theorem Passes.length_lt {c d : Cursor} (h : c.Passes d) : d.rest.length < c.rest.length := by
  obtain ⟨text, ht, h⟩ := h
  have := List.length_pos_iff.2 ht
  simp only [h.rest_eq, List.length_append]
  omega

def peek? (c : Cursor) : Option Char := c.rest.head?

def next? (c : Cursor) : Option (Char × Cursor) :=
  match c.rest with
  | [] => none
  | x :: xs => some (x, ⟨xs, c.offset + x.utf8Size⟩)

theorem reads_of_next? {c d : Cursor} {x : Char} (h : c.next? = some (x, d)) : c.Reads [x] d := by
  simp only [next?] at h
  split at h
  · simp at h
  · next hrest =>
      cases h
      exact ⟨by simpa using hrest, by simp [utf8Length]⟩

theorem passes_of_next? {c d : Cursor} {x : Char} (h : c.next? = some (x, d)) : c.Passes d :=
  ⟨[x], by simp, reads_of_next? h⟩

def skip? (mark : Char) (c : Cursor) : Option Cursor :=
  match c.next? with
  | some (x, d) => if x = mark then some d else none
  | none => none

theorem reads_of_skip? {c d : Cursor} {mark : Char} (h : c.skip? mark = some d) :
    c.Reads [mark] d := by
  simp only [skip?] at h
  split at h
  · next x e he =>
      split at h
      · next hx =>
          cases h
          exact hx ▸ reads_of_next? he
      · simp at h
  · simp at h

theorem passes_of_skip? {c d : Cursor} {mark : Char} (h : c.skip? mark = some d) : c.Passes d :=
  ⟨[mark], by simp, reads_of_skip? h⟩

def skipAll? : (marks : List Char) → Cursor → Option Cursor
  | [], c => some c
  | mark :: marks, c =>
      match c.skip? mark with
      | some d => skipAll? marks d
      | none => none

theorem reads_of_skipAll? {marks : List Char} {c d : Cursor} (h : c.skipAll? marks = some d) :
    c.Reads marks d := by
  induction marks generalizing c with
  | nil =>
      cases h
      exact .refl d
  | cons mark marks ih =>
      simp only [skipAll?] at h
      split at h
      · next e he => exact (reads_of_skip? he).append (ih h)
      · simp at h

theorem passes_of_skipAll? {mark : Char} {marks : List Char} {c d : Cursor}
    (h : c.skipAll? (mark :: marks) = some d) : c.Passes d :=
  ⟨mark :: marks, by simp, reads_of_skipAll? h⟩

def skipOptional (mark : Char) (c : Cursor) : Bool × Cursor :=
  match c.skip? mark with
  | some d => (true, d)
  | none => (false, c)

theorem reaches_skipOptional (mark : Char) (c : Cursor) : c.Reaches (c.skipOptional mark).2 := by
  simp only [skipOptional]
  split
  · next h => exact (passes_of_skip? h).reaches
  · exact .refl c

def span (p : Char → Bool) (c : Cursor) : List Char × Cursor :=
  let text := c.rest.takeWhile p
  (text, ⟨c.rest.dropWhile p, c.offset + utf8Length text⟩)

theorem reads_span (p : Char → Bool) (c : Cursor) : c.Reads (c.span p).1 (c.span p).2 :=
  ⟨by simp [span], rfl⟩

theorem reaches_span (p : Char → Bool) (c : Cursor) : c.Reaches (c.span p).2 :=
  ⟨_, reads_span p c⟩

def spanUpTo (limit : Nat) (p : Char → Bool) (c : Cursor) : List Char × Cursor :=
  let text := (c.rest.take limit).takeWhile p
  (text, ⟨c.rest.drop text.length, c.offset + utf8Length text⟩)

theorem reads_spanUpTo (limit : Nat) (p : Char → Bool) (c : Cursor) :
    c.Reads (c.spanUpTo limit p).1 (c.spanUpTo limit p).2 := by
  refine ⟨?_, rfl⟩
  have h : (c.rest.take limit).takeWhile p <+: c.rest :=
    (List.takeWhile_prefix p).trans (List.take_prefix limit c.rest)
  simp only [spanUpTo]
  rw [List.prefix_iff_eq_append.1 h]

theorem reaches_spanUpTo (limit : Nat) (p : Char → Bool) (c : Cursor) :
    c.Reaches (c.spanUpTo limit p).2 :=
  ⟨_, reads_spanUpTo limit p c⟩

end Cursor

end Specimen.Reader
