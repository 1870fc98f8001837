import Specimen.Proofs.Reader.InStepRun
import Specimen.Proofs.Reader.Numbering
import Specimen.Proofs.Reader.Reached
/-!
The places of the groups that were met. Reading looks at how many groups there are and at their names, never
at where they stand: other places come through as they are.
-/

namespace Specimen.Reader

open Cursor

variable {f : Nat → Nat} {total : Nat} {s t : State} {c d : Cursor}

namespace State

def relocate (f : Nat → Nat) (s : State) : State := { s with groups := s.groups.mapOffsets f }

@[simp] theorem cursor_relocate : (s.relocate f).cursor = s.cursor := by rfl

@[simp] theorem flags_relocate : (s.relocate f).flags = s.flags := by rfl

@[simp] theorem enclosing_relocate : (s.relocate f).enclosing = s.enclosing := by rfl

@[simp] theorem last_relocate : (s.relocate f).last = s.last := by rfl

@[simp] theorem atPatternStart_relocate : (s.relocate f).atPatternStart = s.atPatternStart := by rfl

end State

theorem readEscape_relocate (icase : Bool) :
    readEscape ((s.relocate f).scope total) icase c = readEscape (s.scope total) icase c := by
  have htotal : ((s.relocate f).scope total).total = (s.scope total).total := rfl
  have hcheck (group : Nat) :
      ((s.relocate f).scope total).check group = (s.scope total).check group := by
    simp only [Scope.check, State.scope, State.relocate, GroupTable.get?_mapOffsets, Option.isNone_map]
    rfl
  have hfind (name : String) : ((s.relocate f).scope total).groups.find? name =
      (s.scope total).groups.find? name := GroupTable.find?_mapOffsets name
  simp only [readEscape, readNameEscape, readDigitEscape, readNamed, namedReference, readNumbered,
    htotal, hcheck, hfind]

section Groups

theorem openCapture_relocate (hfix : f s.cursor.offset = s.cursor.offset) (name : Option String) :
    openCapture (s.relocate f) name d = (openCapture s name d).map (State.relocate f) := by
  have hpush : (s.groups.push ⟨name, s.cursor.offset⟩).mapOffsets f =
      (s.groups.mapOffsets f).push ⟨name, s.cursor.offset⟩ := by
    rw [GroupTable.push_mapOffsets, hfix]
  simp only [openCapture, State.relocate, GroupTable.count_mapOffsets]
  split
  · rfl
  · simp only [Except.map, State.relocate, hpush]
    rfl

theorem openNamed_relocate (hfix : f s.cursor.offset = s.cursor.offset) (closing : Char) :
    openNamed (s.relocate f) closing c = (openNamed s closing c).map (State.relocate f) := by
  simp only [openNamed]
  cases readGroupName closing c with
  | error reason => rfl
  | ok r => exact openCapture_relocate hfix _

theorem openToggle_relocate :
    openToggle (s.relocate f) c = (openToggle s c).map (State.relocate f) := by
  simp only [openToggle]
  split <;> rfl

theorem openSpecial_relocate (hfix : f s.cursor.offset = s.cursor.offset) :
    openSpecial (s.relocate f) c = (openSpecial s c).map (State.relocate f) := by
  simp only [openSpecial]
  split
  · rfl
  · rfl
  · rfl
  · split
    · rfl
    · exact openNamed_relocate hfix _
  · exact openNamed_relocate hfix _
  · rfl
  · rfl
  · rfl
  · exact openToggle_relocate

theorem readGroup_relocate (hfix : f s.cursor.offset = s.cursor.offset) :
    readGroup (s.relocate f) c = (readGroup s c).map (State.relocate f) := by
  simp only [readGroup]
  split
  · exact openSpecial_relocate hfix
  · exact openCapture_relocate hfix _

end Groups

section Terms

theorem addAnchor_relocate (kind : Anchor) :
    addAnchor (s.relocate f) kind d = (addAnchor s kind d).map (State.relocate f) := by
  simp only [addAnchor, State.atPatternStart_relocate, State.enclosing_relocate,
    State.flags_relocate]
  split
  · split <;> rfl
  · split
    · rfl
    · split <;> rfl

theorem addEscape_relocate :
    addEscape total (s.relocate f) c = (addEscape total s c).map (State.relocate f) := by
  simp only [addEscape, readEscape_relocate, State.flags_relocate]
  split
  · rfl
  · exact addAnchor_relocate _
  · rfl

theorem readTerm_relocate (hfix : f s.cursor.offset = s.cursor.offset) (x : Char) :
    readTerm total (s.relocate f) x d = (readTerm total s x d).map (State.relocate f) := by
  simp only [readTerm]
  split
  · exact addAnchor_relocate _
  · exact addAnchor_relocate _
  · exact addEscape_relocate
  · rfl
  · exact readGroup_relocate hfix
  · simp only [addBracket, State.relocate]
    cases readBracket s.flags.icase d <;> rfl
  · rfl
  · rfl
  · rfl
  · simp only [addBrace, State.relocate]
    split <;> rfl
  · rfl

end Terms

section Steps

def Progress.relocate (f : Nat → Nat) : Progress State Reading → Progress State Reading
  | .more s => .more (s.relocate f)
  | .done r => .done (r.1, r.2.mapOffsets f)

theorem termStep_relocate (hfix : f s.cursor.offset = s.cursor.offset) :
    termStep total (s.relocate f) = (termStep total s).map (Progress.relocate f) := by
  rw [termStep_eq, termStep_eq, State.cursor_relocate]
  cases s.cursor.next? with
  | none =>
      simp only [endPattern, State.relocate]
      split <;> rfl
  | some r =>
      simp only
      split
      · simp only [closeGroup, State.relocate]
        split <;> rfl
      · split
        · rfl
        · rw [readTerm_relocate hfix]
          cases readTerm total s r.1 r.2 <;> rfl

theorem markedStep_relocate (hfix : f s.cursor.offset = s.cursor.offset) :
    markedStep total (s.relocate f) = (markedStep total s).map (Progress.relocate f) := by
  simp only [markedStep, State.cursor_relocate, State.last_relocate]
  split
  · exact termStep_relocate hfix
  · split
    · rfl
    · exact termStep_relocate hfix
    · split <;> rfl

def FixesFrom (f : Nat → Nat) (c : Cursor) : Prop := ∀ offset, c.offset ≤ offset → f offset = offset

theorem FixesFrom.of_reaches (h : FixesFrom f c) (hreach : c.Reaches d) : FixesFrom f d :=
  fun offset hle => h offset (Nat.le_trans hreach.offset_le hle)

theorem step_relocate (hfix : FixesFrom f s.cursor) :
    step total (s.relocate f) = (step total s).map (Progress.relocate f) := by
  simp only [step, State.cursor_relocate, State.flags_relocate]
  split
  · rfl
  · next c hc =>
      have hhere := hfix.of_reaches (reaches_of_skipTrivia hc) c.offset (Nat.le_refl _)
      exact @markedStep_relocate f total { s with cursor := c } hhere

theorem patternRun_relocate (hfix : FixesFrom f s.cursor) : patternRun total (s.relocate f) =
    (patternRun total s).map fun r => (r.1, r.2.mapOffsets f) := by
  rw [patternRun, patternRun]
  fun_induction run (step total) State.size size_lt_of_step s with
  | case1 s t hstep ih =>
      have hnext : step total (s.relocate f) = .ok (.more (t.relocate f)) := by
        rw [step_relocate hfix, hstep]
        rfl
      rw [run_of_more size_lt_of_step hnext]
      exact ih (hfix.of_reaches (passes_of_step hstep).reaches)
  | case2 s r hstep =>
      have hend : step total (s.relocate f) = .ok (.done (r.1, r.2.mapOffsets f)) := by
        rw [step_relocate hfix, hstep]
        rfl
      rw [run_of_done size_lt_of_step hend]
      rfl
  | case3 s reason hstep =>
      rw [run_eq, step_relocate hfix, hstep]
      rfl

end Steps

end Specimen.Reader
