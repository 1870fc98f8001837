import Specimen.Reader.Cursor
import Specimen.Reader.Error

namespace Specimen.Reader

def commentEnd? : List Char → (offset : Nat) → Option Cursor
  | [], _ => none
  | ['\\'], _ => none
  | '\\' :: c :: rest, offset => commentEnd? rest (offset + '\\'.utf8Size + c.utf8Size)
  | c :: rest, offset =>
      if c = ')' then some ⟨rest, offset + c.utf8Size⟩ else commentEnd? rest (offset + c.utf8Size)

theorem reaches_of_commentEnd? {rest : List Char} {offset : Nat} {d : Cursor}
    (h : commentEnd? rest offset = some d) : Cursor.Reaches ⟨rest, offset⟩ d := by
  fun_induction commentEnd? rest offset with
  | case1 => simp at h
  | case2 => simp at h
  | case3 c rest offset ih =>
      exact Cursor.Reaches.trans
        ⟨['\\', c], by simp, by simp [utf8Length, Nat.add_assoc]⟩ (ih h)
  | case4 rest offset =>
      cases h
      exact ⟨[')'], by simp, by simp [utf8Length]⟩
  | case5 c rest offset _ _ _ ih =>
      exact Cursor.Reaches.trans ⟨[c], by simp, by simp [utf8Length]⟩ (ih h)

def skipLine (c : Cursor) : Cursor :=
  let (_, d) := c.span (· != '\n')
  (d.skipOptional '\n').2

theorem reaches_skipLine (c : Cursor) : c.Reaches (skipLine c) :=
  (c.reaches_span _).trans (Cursor.reaches_skipOptional _ _)

def isBlank (c : Char) : Bool := c == ' ' || ('\t' ≤ c && c ≤ '\r')

def skipTrivia (extended : Bool) (c : Cursor) : Except SyntaxError Cursor :=
  match _ : c.skipAll? ['(', '?', '#'] with
  | some d =>
      match _ : commentEnd? d.rest d.offset with
      | some e => skipTrivia extended e
      | none => .error .unterminatedComment
  | none =>
      match _ : c.next? with
      | some (x, d) =>
          if extended && isBlank x then skipTrivia extended d
          else if extended && x == '#' then skipTrivia extended (skipLine d)
          else .ok c
      | none => .ok c
termination_by c.rest.length
decreasing_by
  · exact ((Cursor.passes_of_skipAll? ‹_›).trans_reaches (reaches_of_commentEnd? ‹_›)).length_lt
  · exact (Cursor.passes_of_next? ‹_›).length_lt
  · exact ((Cursor.passes_of_next? ‹_›).trans_reaches (reaches_skipLine d)).length_lt

theorem skipTrivia_eq (extended : Bool) (c : Cursor) : skipTrivia extended c =
    match c.skipAll? ['(', '?', '#'] with
    | some d =>
        match commentEnd? d.rest d.offset with
        | some e => skipTrivia extended e
        | none => .error .unterminatedComment
    | none =>
        match c.next? with
        | some (x, d) =>
            if extended && isBlank x then skipTrivia extended d
            else if extended && x == '#' then skipTrivia extended (skipLine d)
            else .ok c
        | none => .ok c := by
  rw [skipTrivia]
  split
  · split <;> simp_all
  · split <;> simp_all

theorem reaches_of_skipTrivia {extended : Bool} {c d : Cursor}
    (h : skipTrivia extended c = .ok d) : c.Reaches d := by
  fun_induction skipTrivia extended c with
  | case1 c b hb e he ih =>
      exact ((Cursor.passes_of_skipAll? hb).reaches.trans (reaches_of_commentEnd? he)).trans (ih h)
  | case2 => simp at h
  | case3 c _ x b hb _ ih => exact (Cursor.passes_of_next? hb).reaches.trans (ih h)
  | case4 c _ x b hb _ _ ih =>
      exact ((Cursor.passes_of_next? hb).reaches.trans (reaches_skipLine b)).trans (ih h)
  | case5 c => cases h; exact .refl d
  | case6 c => cases h; exact .refl d

end Specimen.Reader
