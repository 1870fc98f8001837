import Mathlib.Logic.Relation
import Specimen.Proofs.Reader.AnchorPlace
import Specimen.Proofs.Reader.AnnotateBracket
import Specimen.Proofs.Reader.AnnotateTerm
import Specimen.Proofs.Reader.Reached
/-!
Steps in front of a comment. They are the steps without it, except that an end anchor looks at all that comes
behind it.
-/

namespace Specimen.Reader

open Cursor

variable {note : Note} {total : Nat} {s t : State} {c d : Cursor} {v : List Char}

def SeesEnd (note : Note) (extended : Bool) (c : Cursor) : Prop :=
  atPatternEnd extended c = .ok true → atPatternEnd extended (c.annotate note) = .ok true

structure Fits (note : Note) (total : Nat) (v : List Char) (c : Cursor) : Prop where
  length_eq : v.length = note.back
  isSuffix : v <:+ c.rest
  noCut : ∀ d digits, c.next? = some ('\\', d) → ¬ CutsNumber total d.rest v digits

namespace Fits

theorem le (h : Fits note total v c) : note.back ≤ c.rest.length :=
  Nat.le_trans (Nat.le_of_eq h.length_eq.symm) h.isSuffix.length_le

theorem isSuffix_behind (h : Fits note total v c) {x : Char} (hx : c.next? = some (x, d))
    (hback : note.back ≤ d.rest.length) : v <:+ d.rest := by
  have hd : d.rest <:+ c.rest := ⟨[x], (reads_of_next? hx).rest_eq.symm⟩
  exact List.suffix_of_suffix_length_le h.isSuffix hd (Nat.le_trans (Nat.le_of_eq h.length_eq) hback)

end Fits

section Terms

theorem addAnchor_annotate {kind : Anchor} (h : addAnchor s kind d = .ok t)
    (hend : SeesEnd note t.flags.extended t.cursor) :
    addAnchor (s.annotate note) kind (d.annotate note) = .ok (t.annotate note) := by
  obtain rfl := addAnchor_ok h
  simp only [addAnchor] at h
  simp only [addAnchor, State.atPatternStart_annotate, State.enclosing_annotate,
    State.flags_annotate]
  split at h
  · next hkind =>
      rw [if_pos hkind]
      split at h
      · next hplace => rw [if_pos hplace]; rfl
      · cases h
  · next hkind =>
      rw [if_neg hkind]
      split at h
      · cases h
      · next hopen =>
          rw [if_neg hopen]
          split at h
          · cases h
          · next hplace =>
              have hsees : atPatternEnd s.flags.extended (d.annotate note) = .ok true := hend hplace
              rw [hsees]
              rfl
          · cases h

theorem addEscape_annotate (hx : s.cursor.next? = some ('\\', c)) (hfits : Fits note total v s.cursor)
    (h : addEscape total s c = .ok t) (hback : note.back ≤ t.cursor.rest.length)
    (hend : SeesEnd note t.flags.extended t.cursor) :
    addEscape total (s.annotate note) (c.annotate note) = .ok (t.annotate note) := by
  simp only [addEscape] at h
  simp only [addEscape, State.scope_annotate, State.flags_annotate]
  rcases hread : readEscape (s.scope total) s.flags.icase c with reason | ⟨node, e⟩
  · rw [hread] at h
    cases h
  · rw [hread] at h
    have hcursor : t.cursor = e := by
      cases node with
      | anchor kind => exact cursor_of_addAnchor h
      | _ => cases h; rfl
    rw [hcursor] at hback
    have hle := Nat.le_trans hback (passes_of_readEscape hread).reaches.length_le
    obtain ⟨front, hfront⟩ := hfits.isSuffix_behind hx hle
    rw [readEscape_annotate hfront.symm hfits.length_eq (hfits.noCut c · hx) hread hback]
    cases node with
    | anchor kind => exact addAnchor_annotate h hend
    | _ => cases h; rfl

theorem addBracket_annotate (h : addBracket s c = .ok t) (hback : note.back ≤ t.cursor.rest.length) :
    addBracket (s.annotate note) (c.annotate note) = .ok (t.annotate note) := by
  simp only [addBracket] at h
  split at h
  · cases h
  · next hbracket =>
      cases h
      simp only [addBracket, State.flags_annotate, readBracket_annotate hbracket hback]
      rfl

theorem addBrace_annotate (h : addBrace s d = .ok t) (hback : note.back ≤ s.cursor.rest.length) :
    addBrace (s.annotate note) (d.annotate note) = .ok (t.annotate note) := by
  simp only [addBrace] at h
  split at h
  · cases h
  · next hbrace =>
      cases h
      simp only [addBrace, State.cursor_annotate]
      split
      · next r hr => exact absurd hr (readQuantifier_annotate_ne hbrace hback r)
      · rfl

theorem readTerm_annotate {x : Char} (hx : s.cursor.next? = some (x, d))
    (hfits : Fits note total v s.cursor) (h : readTerm total s x d = .ok t)
    (hback : note.back ≤ t.cursor.rest.length) (hend : SeesEnd note t.flags.extended t.cursor) :
    readTerm total (s.annotate note) x (d.annotate note) = .ok (t.annotate note) := by
  simp only [readTerm] at h ⊢
  split at h
  · exact addAnchor_annotate h hend
  · exact addAnchor_annotate h hend
  · exact addEscape_annotate hx hfits h hback hend
  · cases h; rfl
  · exact readGroup_annotate h hback
  · exact addBracket_annotate h hback
  · cases h
  · cases h
  · cases h
  · exact addBrace_annotate h hfits.le
  · cases h; rfl

end Terms

section Steps

theorem termStep_annotate (hfits : Fits note total v s.cursor)
    (h : termStep total s = .ok (.more t)) (hback : note.back ≤ t.cursor.rest.length)
    (hend : SeesEnd note t.flags.extended t.cursor) :
    termStep total (s.annotate note) = .ok (.more (t.annotate note)) := by
  have hpasses := passes_of_termStep h
  rw [termStep_eq] at h ⊢
  cases hx : s.cursor.next? with
  | none =>
      simp only [hx, endPattern] at h
      split at h <;> cases h
  | some r =>
      obtain ⟨x, d⟩ := r
      have hle := Nat.le_trans hback (length_le_of_next? hx hpasses)
      have hnext : (s.annotate note).cursor.next? = some (x, d.annotate note) := next?_annotate hx hle
      simp only [hx] at h
      simp only [hnext]
      split at h
      · next hclose =>
          rw [if_pos hclose]
          simp only [closeGroup, State.enclosing_annotate] at h ⊢
          split at h
          · cases h
          · cases h; rfl
      · next hclose =>
          rw [if_neg hclose]
          split at h
          · next hbar => cases h; rw [if_pos hbar]; rfl
          · next hbar =>
              rw [if_neg hbar]
              cases hterm : readTerm total s x d with
              | error reason => rw [hterm] at h; cases h
              | ok u =>
                  rw [hterm] at h
                  cases h
                  rw [readTerm_annotate hx hfits hterm hback hend]
                  rfl

theorem markedStep_annotate (hfits : Fits note total v s.cursor)
    (h : markedStep total s = .ok (.more t)) (hback : note.back ≤ t.cursor.rest.length)
    (hend : SeesEnd note t.flags.extended t.cursor) :
    markedStep total (s.annotate note) = .ok (.more (t.annotate note)) := by
  simp only [markedStep] at h
  simp only [markedStep, State.last_annotate, State.cursor_annotate]
  split at h
  · next hnothing => rw [if_pos hnothing]; exact termStep_annotate hfits h hback hend
  · next hsome =>
      rw [if_neg hsome]
      split at h
      · cases h
      · next hnone =>
          rw [readQuantifier_annotate_eq_none hnone hfits.le]
          exact termStep_annotate hfits h hback hend
      · next hquantifier =>
          split at h
          · cases h
          · next hrefused =>
              cases h
              simp only [readQuantifier_annotate hquantifier hback, if_neg hrefused]
              rfl

theorem step_annotate (hc : skipTrivia s.flags.extended s.cursor = .ok c) (hfits : Fits note total v c)
    (h : step total s = .ok (.more t)) (hback : note.back ≤ t.cursor.rest.length)
    (hend : SeesEnd note t.flags.extended t.cursor) :
    step total (s.annotate note) = .ok (.more (t.annotate note)) := by
  simp only [step, hc] at h
  have hlt := Nat.lt_of_le_of_lt hback (passes_of_markedStep h).length_lt
  have hbehind := (behindTrivia_of_skipTrivia hc).annotate hlt
  simp only [step, State.flags_annotate, State.cursor_annotate,
    skipTrivia_annotate hc (Nat.le_of_lt hlt), hbehind.skipTrivia_eq]
  exact markedStep_annotate hfits h hback hend

theorem skipEndAnchor?_annotate (h : skipEndAnchor? c = some d) (hback : note.back ≤ d.rest.length) :
    skipEndAnchor? (c.annotate note) = some (d.annotate note) := by
  obtain hx | ⟨e, x, hx, hmark, rfl | rfl⟩ := next?_of_skipEndAnchor? h
  · simp only [skipEndAnchor?, next?_annotate hx hback]
  · have hle := Nat.le_trans hback (passes_of_next? hmark).reaches.length_le
    simp only [skipEndAnchor?, next?_annotate hx hle, next?_annotate hmark hback]
  · have hle := Nat.le_trans hback (passes_of_next? hmark).reaches.length_le
    simp only [skipEndAnchor?, next?_annotate hx hle, next?_annotate hmark hback]

theorem seesEnd_of_step (h : step total s = .ok (.more t)) (hback : note.back ≤ t.cursor.rest.length)
    (hend : SeesEnd note t.flags.extended t.cursor) : SeesEnd note s.flags.extended s.cursor := by
  intro hs
  obtain ⟨c, hc, hpasses, hmove⟩ := step_more h
  have hbehind := behindTrivia_of_skipTrivia hc
  have hlt := Nat.lt_of_le_of_lt hback hpasses.length_lt
  have hhere : atPatternEnd s.flags.extended c = .ok true := by
    rw [atPatternEnd_eq, hc] at hs
    rw [atPatternEnd_eq, hbehind.skipTrivia_eq]
    exact hs
  rcases skipEndAnchor?_of_atPatternEnd hbehind hhere with hrest | ⟨e, he⟩
  · rw [hrest] at hlt
    exact absurd hlt (Nat.not_lt_zero _)
  · obtain ⟨kind, hkind, hadd⟩ := hmove.eq_endAnchor he
    have hplace := (addAnchor_place hadd).2
    rw [if_neg (by simp [hkind])] at hplace
    obtain rfl := addAnchor_ok hadd
    rw [atPatternEnd_eq, skipTrivia_annotate hc (Nat.le_of_lt hlt),
      (hbehind.annotate hlt).skipTrivia_eq]
    simp only [skipEndAnchor?_annotate he hback]
    exact hend hplace

end Steps

section Runs

variable {text : String} {flags : Flags}

def Next (total : Nat) (s t : State) : Prop := step total s = .ok (.more t)

theorem Reached.annotate (h : Reached text flags t) (hv : v <:+ text.toList)
    (hlength : v.length = note.back) (hback : note.back ≤ t.cursor.rest.length)
    (hcut : ∀ s c d digits, Reached text flags s → skipTrivia s.flags.extended s.cursor = .ok c →
      c.next? = some ('\\', d) → ¬ CutsNumber (countGroups flags text.toList) d.rest v digits)
    (hend : SeesEnd note t.flags.extended t.cursor) :
    Relation.ReflTransGen (Next (countGroups flags text.toList))
      ((State.start flags text).annotate note) (t.annotate note) := by
  -- An end anchor looks as far as the comment, so what is seen from `t` stays a hypothesis of the induction
  -- and is led back to the state before.
  induction h with
  | start => exact .refl
  | @next s t hs hstep ih =>
      have hle := Nat.le_trans hback (passes_of_step hstep).reaches.length_le
      obtain ⟨c, hc, hpasses, -⟩ := step_more hstep
      obtain ⟨read, hread⟩ := hs.reaches.trans (reaches_of_skipTrivia hc)
      have hlt := Nat.le_trans hback (Nat.le_of_lt hpasses.length_lt)
      have hfits : Fits note (countGroups flags text.toList) v c :=
        ⟨hlength, List.suffix_of_suffix_length_le hv ⟨read, hread.rest_eq.symm⟩ (hlength ▸ hlt),
          fun d digits hx => hcut s c d digits hs hc hx⟩
      exact (ih hle (seesEnd_of_step hstep hback hend)).tail (step_annotate hc hfits hstep hback hend)

end Runs

end Specimen.Reader
