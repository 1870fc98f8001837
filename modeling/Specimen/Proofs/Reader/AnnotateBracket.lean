import Specimen.Proofs.Reader.Annotate
import Specimen.Proofs.Reader.BracketMove
/-!
Brackets in front of a comment. Inside a bracket no comment stands, so whatever looks ahead there finds
the end of the bracket first.
-/

namespace Specimen.Reader

open Cursor

variable {note : Note} {c d : Cursor} {text : List Char} {item : ClassItem} {icase : Bool}

def Cursor.ClosesBefore (note : Note) (c : Cursor) : Prop :=
  ∃ inside behind, c.rest = inside ++ ']' :: behind ∧ note.back ≤ behind.length

namespace Cursor.ClosesBefore

theorem of_reads (h : d.ClosesBefore note) (hc : c.Reads text d) : c.ClosesBefore note := by
  obtain ⟨inside, behind, hd, hback⟩ := h
  exact ⟨text ++ inside, behind, by rw [hc.rest_eq, hd, List.append_assoc], hback⟩

theorem lt (h : c.ClosesBefore note) : note.back < c.rest.length := by
  obtain ⟨inside, behind, hc, hback⟩ := h
  rw [hc, List.length_append, List.length_cons]
  omega

theorem le (h : c.ClosesBefore note) : note.back ≤ c.rest.length := Nat.le_of_lt h.lt

theorem behind (h : c.ClosesBefore note) (hc : c.Reads text d) (htext : ']' ∉ text) :
    d.ClosesBefore note := by
  obtain ⟨inside, behind, hrest, hback⟩ := h
  rw [hc.rest_eq] at hrest
  rcases List.append_eq_append_iff.1 hrest with ⟨more, -, hd⟩ | ⟨more, htext', hd⟩
  · exact ⟨more, behind, hd, hback⟩
  · cases more with
    | nil => exact ⟨[], behind, hd.symm, hback⟩
    | cons x more =>
        cases hd
        exact absurd (htext' ▸ by simp) htext

theorem skipOptional (h : c.ClosesBefore note) {mark : Char} (hmark : mark ≠ ']') :
    (c.skipOptional mark).2.ClosesBefore note := by
  simp only [Cursor.skipOptional]
  split
  · next hskip => exact h.behind (reads_of_skip? hskip) (by simpa using hmark.symm)
  · exact h

end Cursor.ClosesBefore

theorem readClassEscape_annotate (h : readClassEscape c = .ok (item, d))
    (hback : note.back ≤ d.rest.length) :
    readClassEscape (c.annotate note) = .ok (item, d.annotate note) := by
  cases hx : c.next? with
  | none => simp [readClassEscape, hx] at h
  | some r =>
      obtain ⟨x, e⟩ := r
      have hle := Nat.le_trans hback (length_le_of_next? hx (passes_of_readClassEscape h))
      simp only [readClassEscape, hx, next?_annotate hx hle] at h ⊢
      split at h
      · cases h; rfl
      · split at h
        · next hp =>
            rw [if_pos hp]
            split at h
            · next hset =>
                cases h
                rw [readProperty_annotate hset hback]
            · cases h
        · next hp =>
            rw [if_neg hp]
            split at h
            · next hb => cases h; rw [if_pos hb]
            · next hb =>
                rw [if_neg hb]
                split at h
                · next hy =>
                    cases h
                    rw [readCharEscape_annotate hy hback]
                · cases h

theorem readClassAtom_annotate (h : readClassAtom c = .ok (item, d))
    (hback : note.back ≤ d.rest.length) :
    readClassAtom (c.annotate note) = .ok (item, d.annotate note) := by
  cases hx : c.next? with
  | none => simp [readClassAtom, hx] at h
  | some r =>
      obtain ⟨x, e⟩ := r
      have hle := Nat.le_trans hback (length_le_of_next? hx (passes_of_readClassAtom h))
      simp only [readClassAtom, hx, next?_annotate hx hle] at h ⊢
      split at h
      · next hescape => rw [if_pos hescape, readClassEscape_annotate h hback]
      · next hescape => cases h; rw [if_neg hescape]

theorem rangeMark?_annotate (h : rangeMark? c = some d) (hback : note.back ≤ d.rest.length) :
    rangeMark? (c.annotate note) = some (d.annotate note) := by
  simp only [rangeMark?] at h
  split at h
  · next hmark =>
      split at h
      · cases h
      · next hpeek =>
          cases h
          simp only [rangeMark?, skip?_annotate hmark hback,
            if_neg (peek?_annotate_ne hpeek (by decide) hback)]
  · cases h

theorem rangeMark?_annotate_eq_none (h : rangeMark? c = none) (hcloses : c.ClosesBefore note) :
    rangeMark? (c.annotate note) = none := by
  simp only [rangeMark?] at h
  split at h
  · next e hmark =>
      split at h
      · next hpeek =>
          have hlt := (hcloses.behind (reads_of_skip? hmark) (by decide)).lt
          simp only [rangeMark?, skip?_annotate hmark (Nat.le_of_lt hlt), peek?_annotate hlt,
            if_pos hpeek]
      · cases h
  · next hmark => simp only [rangeMark?, skip?_annotate_eq_none hmark (by decide) hcloses.le]

theorem readClassItem_annotate (h : readClassItem c = .ok (item, d)) (hcloses : d.ClosesBefore note) :
    readClassItem (c.annotate note) = .ok (item, d.annotate note) := by
  simp only [readClassItem] at h
  split at h
  · cases h
  · next hfirst =>
      split at h
      · next hmark =>
          cases h
          simp only [readClassItem, readClassAtom_annotate hfirst hcloses.le,
            rangeMark?_annotate_eq_none hmark hcloses]
      · next e hmark =>
          split at h
          · cases h
          · next hpeek =>
              split at h
              · cases h
              · next hlast =>
                  split at h
                  · next hrange =>
                      cases h
                      have hlt := Nat.lt_of_le_of_lt hcloses.le (passes_of_readClassAtom hlast).length_lt
                      have hstart := Nat.le_trans (Nat.le_of_lt hlt)
                        (passes_of_rangeMark? hmark).reaches.length_le
                      simp only [readClassItem, readClassAtom_annotate hfirst hstart,
                        rangeMark?_annotate hmark (Nat.le_of_lt hlt), peek?_annotate hlt,
                        if_neg hpeek, readClassAtom_annotate hlast hcloses.le, hrange]
                  · cases h

theorem readPosixClass_annotate {set : CodePointSet} (h : readPosixClass c = .ok (some (set, d)))
    (hback : note.back ≤ d.rest.length) :
    readPosixClass (c.annotate note) = .ok (some (set, d.annotate note)) := by
  simp only [readPosixClass] at h
  split at h
  · cases h
  · next e hopen =>
      split at h
      · cases h
      · next f hclose =>
          split at h
          · cases h
          · next posix hname =>
              cases h
              split at hclose
              · cases hclose
              · next hnonempty =>
                  have hlt := Nat.lt_of_le_of_lt hback (passes_of_skipAll? hclose).length_lt
                  have hcaret := Nat.le_trans (Nat.le_of_lt hlt) (reaches_span _ _).length_le
                  have hstart := Nat.le_trans hcaret (reaches_skipOptional _ _).length_le
                  simp only [readPosixClass, skipAll?_annotate hopen hstart,
                    skipOptional_annotate (by decide) hcaret, annotateSnd, span_annotate_of_lt hlt,
                    if_neg hnonempty, skipAll?_annotate hclose hback, hname]

theorem readPosixClass_annotate_eq_none (h : readPosixClass c = .ok none)
    (hcloses : c.ClosesBefore note) : readPosixClass (c.annotate note) = .ok none := by
  simp only [readPosixClass] at h
  split at h
  · next hopen => simp only [readPosixClass, skipAll?_annotate_eq_none hopen (by decide) hcloses.le]
  · next e hopen =>
      have hinside := hcloses.behind (reads_of_skipAll? hopen) (by decide)
      have hcaret : (e.skipOptional '^').2.ClosesBefore note := hinside.skipOptional (by decide)
      have hname : ((e.skipOptional '^').2.span Char.isAlpha).2.ClosesBefore note := by
        refine hcaret.behind (reads_span _ _) fun hmem => ?_
        cases Drifts.holds_of_mem_span hmem
      simp only [readPosixClass, skipAll?_annotate hopen hinside.le,
        skipOptional_annotate (by decide) hcaret.le, annotateSnd, span_annotate_of_lt hname.lt]
      split at h
      · next hclose =>
          split at hclose
          · next hempty => rw [if_pos hempty]
          · next hempty =>
              rw [if_neg hempty, skipAll?_annotate_eq_none hclose (by decide) hname.le]
      · split at h <;> cases h

section Steps

variable {s t : BracketState} {set : CodePointSet}

namespace BracketState

def annotate (note : Note) (s : BracketState) : BracketState :=
  { s with cursor := s.cursor.annotate note }

@[simp] theorem cursor_annotate : (s.annotate note).cursor = s.cursor.annotate note := by rfl

@[simp] theorem innermost_annotate : (s.annotate note).innermost = s.innermost := by rfl

@[simp] theorem outer_annotate : (s.annotate note).outer = s.outer := by rfl

end BracketState

theorem openBracket_annotate (outer : List OpenBracket)
    (hback : note.back ≤ (openBracket outer c).cursor.rest.length) :
    openBracket outer (c.annotate note) = (openBracket outer c).annotate note := by
  have hcaret : note.back ≤ (c.skipOptional '^').2.rest.length := hback
  simp only [openBracket, skipOptional_annotate (by decide) hcaret]
  rfl

theorem bracketStep_annotate_done (h : bracketStep icase s = .ok (.done (set, d)))
    (hback : note.back ≤ d.rest.length) :
    s.cursor.ClosesBefore note ∧
      bracketStep icase (s.annotate note) = .ok (.done (set, d.annotate note)) := by
  cases BracketMove.of_bracketStep h with
  | finish hx hfresh houter =>
      refine ⟨⟨[], d.rest, (reads_of_next? hx).rest_eq, hback⟩, ?_⟩
      simp [bracketStep, next?_annotate hx hback, hfresh, closeBracket, houter]

theorem readMember_annotate (h : readMember s = .ok (.more t)) (hstart : s.cursor.ClosesBefore note)
    (hcloses : t.cursor.ClosesBefore note) :
    readMember (s.annotate note) = .ok (.more (t.annotate note)) := by
  simp only [readMember] at h
  split at h
  · next hmark =>
      cases h
      simp only [readMember, BracketState.cursor_annotate, skipAll?_annotate hmark hcloses.le]
      rfl
  · next hmark =>
      simp only [readMember, BracketState.cursor_annotate,
        skipAll?_annotate_eq_none hmark (by decide) hstart.le]
      split at h
      · next e hopen =>
          have hinside := hstart.behind (reads_of_skip? hopen) (by decide)
          simp only [readNested] at h
          simp only [skip?_annotate hopen hinside.le, readNested, BracketState.cursor_annotate]
          split at h
          · cases h
          · next hposix =>
              cases h
              rw [readPosixClass_annotate hposix hcloses.le]
              rfl
          · next hposix =>
              cases h
              rw [readPosixClass_annotate_eq_none hposix hstart]
              have hopened := openBracket_annotate (s.innermost :: s.outer) hcloses.le
              exact congrArg (fun u => Except.ok (Progress.more u)) hopened
      · next hopen =>
          simp only [skip?_annotate_eq_none hopen (by decide) hstart.le]
          split at h
          · next hitem =>
              cases h
              rw [readClassItem_annotate hitem hcloses]
              rfl
          · cases h

theorem bracketStep_annotate_more (h : bracketStep icase s = .ok (.more t))
    (hcloses : t.cursor.ClosesBefore note) :
    s.cursor.ClosesBefore note ∧
      bracketStep icase (s.annotate note) = .ok (.more (t.annotate note)) := by
  have hpasses := passes_of_bracketStep h
  have hstart : s.cursor.ClosesBefore note := by
    obtain ⟨text, -, hreads⟩ := hpasses
    exact hcloses.of_reads hreads
  refine ⟨hstart, ?_⟩
  simp only [bracketStep] at h
  split at h
  · cases h
  · next x e hx =>
      have hle := Nat.le_trans hcloses.le (length_le_of_next? hx hpasses)
      have hnext : (s.annotate note).cursor.next? = some (x, e.annotate note) := next?_annotate hx hle
      simp only [bracketStep, hnext, BracketState.innermost_annotate]
      split at h
      · next hclose =>
          rw [if_pos hclose]
          simp only [closeBracket, BracketState.outer_annotate, BracketState.innermost_annotate,
            Except.ok.injEq] at h ⊢
          split at h
          · cases h
          · cases h
            rfl
      · next hclose =>
          rw [if_neg hclose]
          exact readMember_annotate h hstart hcloses

theorem bracketSteps_annotate
    (h : run (bracketStep icase) BracketState.size size_lt_of_bracketStep s = .ok (set, d))
    (hback : note.back ≤ d.rest.length) : s.cursor.ClosesBefore note ∧
      run (bracketStep icase) BracketState.size size_lt_of_bracketStep (s.annotate note) =
        .ok (set, d.annotate note) := by
  fun_induction run (bracketStep icase) BracketState.size size_lt_of_bracketStep s with
  | case1 s t hstep ih =>
      obtain ⟨hcloses, hrun⟩ := ih h
      obtain ⟨hstart, hannotated⟩ := bracketStep_annotate_more hstep hcloses
      exact ⟨hstart, (run_of_more size_lt_of_bracketStep hannotated).trans hrun⟩
  | case2 s result hstep =>
      cases h
      obtain ⟨hstart, hannotated⟩ := bracketStep_annotate_done hstep hback
      exact ⟨hstart, run_of_done size_lt_of_bracketStep hannotated⟩
  | case3 => cases h

theorem readBracket_annotate (h : readBracket icase c = .ok (set, d))
    (hback : note.back ≤ d.rest.length) :
    readBracket icase (c.annotate note) = .ok (set, d.annotate note) := by
  obtain ⟨hcloses, hrun⟩ := bracketSteps_annotate h hback
  rw [readBracket, openBracket_annotate [] hcloses.le]
  exact hrun

end Steps

end Specimen.Reader
