import Specimen.Proofs.Reader.InStep

namespace Specimen.Reader

open Cursor

variable {k : Likeness} {front : List Toggle} {n : Nat} {s t : State} {c d : Cursor} {total : Nat}

abbrev StatesAgree (k : Likeness) (front : List Toggle) (n : Nat) :
    Except SyntaxError State → Except SyntaxError State → Prop :=
  Agree (State.InStep k front n)

section Groups

theorem openCapture_agree (h : s.InStep k front n t) (name : Option String) :
    StatesAgree k front n (openCapture s name d) (openCapture t name (d.shift n)) := by
  simp only [openCapture, h.groups_eq, GroupTable.count_shift]
  split
  · exact .error _
  · have hentered := h.enter (d := d) (.capture (s.groups.count + 1) name) h.flags
    refine .ok ⟨rfl, hentered.flags, ?_, hentered.nested, rfl, hentered.repeats⟩
    rw [GroupTable.push_shift, h.cursor_eq]
    rfl

theorem openNamed_agree (h : s.InStep k front n t) (closing : Char) :
    StatesAgree k front n (openNamed s closing c) (openNamed t closing (c.shift n)) := by
  simp only [openNamed, readGroupName_shift]
  cases readGroupName closing c with
  | error reason => exact .error reason
  | ok r => exact openCapture_agree h (some r.1)

theorem openToggle_agree (h : s.InStep k front n t) :
    StatesAgree k front n (openToggle s c) (openToggle t (c.shift n)) := by
  have hrest : (c.shift n).rest = c.rest := rfl
  have hoffset : (c.shift n).offset = c.offset + n := rfl
  simp only [openToggle, hrest, hoffset, readToggle_shift]
  cases readToggle .none true c.rest c.offset with
  | error reason => exact .error reason
  | ok r =>
      obtain ⟨toggle, hasScope, d⟩ := r
      cases hasScope with
      | true => exact .ok (h.enter (.toggled toggle) (k.apply toggle h.flags))
      | false => exact .ok (h.toggle toggle)

theorem openSpecial_agree (h : s.InStep k front n t) :
    StatesAgree k front n (openSpecial s c) (openSpecial t (c.shift n)) := by
  simp only [openSpecial, next?_shift]
  cases c.next? with
  | none => exact openToggle_agree h
  | some r =>
      obtain ⟨x, d⟩ := r
      simp only [Option.map_some, shiftSnd]
      split
      · next heq => cases heq; exact .ok (h.enter .nonCapturing h.flags)
      · next heq => cases heq; exact .error _
      · next heq => cases heq; exact .error _
      · next heq =>
          cases heq
          simp only [peek?_shift]
          split
          · exact .error _
          · exact openNamed_agree h '>'
      · next heq => cases heq; exact openNamed_agree h '\''
      · next heq => cases heq; exact .error _
      · next heq => cases heq; exact .error _
      · next heq => cases heq; exact .error _
      · simp_all
        exact openToggle_agree h

theorem readGroup_agree (h : s.InStep k front n t) :
    StatesAgree k front n (readGroup s c) (readGroup t (c.shift n)) := by
  simp only [readGroup, skip?_shift]
  cases c.skip? '?' with
  | some d => exact openSpecial_agree h
  | none => exact openCapture_agree h none

end Groups

section Terms

theorem addAnchor_agree (h : s.InStep k front n t) (kind : Anchor) :
    StatesAgree k front n (addAnchor s kind d) (addAnchor t kind (d.shift n)) := by
  have hadded := h.add (d := d) (.anchor kind) .refused
  simp only [addAnchor, h.atPatternStart_eq, h.nested.isEmpty_eq, h.extended_eq, atPatternEnd_shift]
  split
  · split
    · exact .ok hadded
    · exact .error _
  · split
    · exact .error _
    · split
      · exact .error _
      · exact .ok hadded
      · exact .error _

theorem addEscape_agree (h : s.InStep k front n t) :
    StatesAgree k front n (addEscape total s c) (addEscape total t (c.shift n)) := by
  simp only [addEscape, h.scope_eq]
  obtain ⟨⟨node, d⟩, ⟨other, e⟩, hs, ht, rfl, halike⟩ | ⟨reason, hs, ht⟩ :=
    (Likeness.readEscape_alike (s.scope total) n c (k.icase h.flags)).elim
  · rw [hs, ht]
    have hadded := h.add (d := d) ⟨isItem_of_escaped (Escaped.of_readEscape hs), halike⟩ .admitted
    cases halike with
    | anchor kind => exact addAnchor_agree h kind
    | _ => exact .ok hadded
  · rw [hs, ht]
    exact .error reason

theorem addBracket_agree (h : s.InStep k front n t) :
    StatesAgree k front n (addBracket s c) (addBracket t (c.shift n)) := by
  simp only [addBracket, readBracket_shift]
  obtain ⟨a, b, hs, ht, hcursor⟩ | ⟨reason, hs, ht⟩ :=
    (readBracket_agree s.flags.icase t.flags.icase c).elim
  · rw [hs, ht]
    have hset := k.bracket h.flags hs ht
    simp only [Except.map, shiftSnd, hcursor]
    exact .ok (h.add (.bracket hset (k.icase h.flags)) .admitted)
  · rw [hs, ht]
    exact .error reason

theorem addChar_inStep (h : s.InStep k front n t) (x : Char) :
    (addChar s x d).InStep k front n (addChar t x (d.shift n)) :=
  h.add (.char x (k.icase h.flags)) .admitted

theorem addBrace_agree (h : s.InStep k front n t) :
    StatesAgree k front n (addBrace s d) (addBrace t (d.shift n)) := by
  simp only [addBrace, h.cursor_eq, readQuantifier_shift]
  cases readQuantifier s.cursor with
  | error reason => exact .ok (addChar_inStep h '{')
  | ok r =>
      cases r with
      | none => exact .ok (addChar_inStep h '{')
      | some r => exact .error _

theorem readTerm_agree (h : s.InStep k front n t) (x : Char) :
    StatesAgree k front n (readTerm total s x d) (readTerm total t x (d.shift n)) := by
  simp only [readTerm]
  split
  · exact addAnchor_agree h _
  · exact addAnchor_agree h _
  · exact addEscape_agree h
  · exact .ok (h.add (.bracket (k.dot h.flags) k.unmarked) .admitted)
  · exact readGroup_agree h
  · exact addBracket_agree h
  · exact .error _
  · exact .error _
  · exact .error _
  · exact addBrace_agree h
  · exact .ok (addChar_inStep h _)

end Terms

section Steps

def endPattern (s : State) : Except SyntaxError (Progress State Reading) :=
  match s.enclosing with
  | [] => .ok (.done (s.branches.node, s.groups))
  | _ :: _ => .error .unbalancedParenthesis

def closeGroup (s : State) (d : Cursor) : Except SyntaxError (Progress State Reading) :=
  match s.enclosing with
  | [] => .error .unbalancedParenthesis
  | group :: enclosing => .ok (.more (s.leave group enclosing d))

theorem termStep_eq (total : Nat) (s : State) : termStep total s =
    match s.cursor.next? with
    | none => endPattern s
    | some (x, d) =>
        if x = ')' then closeGroup s d
        else if x = '|' then .ok (.more (s.nextBranch d))
        else (readTerm total s x d).map .more := by
  rw [termStep, endPattern]
  split
  · simp_all
  · simp_all
  · simp_all [closeGroup]
  · simp_all [closeGroup]
  · simp_all
  · next x d hbar hx hclosed hopen =>
      have hparen : x ≠ ')' := by
        cases henclosing : s.enclosing with
        | nil => exact hclosed henclosing
        | cons group groups => exact hopen group groups henclosing
      rw [hx]
      simp only [if_neg hparen, if_neg hbar]
      cases readTerm total s x d <;> rfl

structure ResultsInStep (k : Likeness) (front : List Toggle) (n : Nat) (r q : Reading) : Prop where
  groups_eq : q.2 = r.2.shift n
  nodes : ∃ b c : Branches, b.InStep k front c ∧ r.1 = b.node ∧ q.1 = c.node

abbrev StepsAgree (k : Likeness) (front : List Toggle) (n : Nat) :
    Except SyntaxError (Progress State Reading) → Except SyntaxError (Progress State Reading) →
      Prop :=
  Agree (Progress.Related (State.InStep k front n) (ResultsInStep k front n))

theorem closeGroup_agree (h : s.InStep k front n t) :
    StepsAgree k front n (closeGroup s d) (closeGroup t (d.shift n)) := by
  simp only [closeGroup]
  cases henclosing : s.enclosing with
  | nil =>
      have hnested := h.nested
      rw [henclosing] at hnested
      rw [hnested.outside.1]
      exact .error _
  | cons group groups =>
      obtain ⟨other, others, hothers, hleave⟩ := h.leave henclosing
      rw [hothers]
      exact .ok (.more hleave)

theorem endPattern_agree (h : s.InStep k front n t) :
    StepsAgree k front n (endPattern s) (endPattern t) := by
  have hnested := h.nested
  simp only [endPattern]
  cases henclosing : s.enclosing with
  | nil =>
      rw [henclosing] at hnested
      obtain ⟨hothers, hbranches⟩ := hnested.outside
      rw [hothers]
      exact .ok (.done ⟨h.groups_eq, _, _, hbranches, rfl, rfl⟩)
  | cons group groups =>
      rw [henclosing] at hnested
      obtain ⟨other, others, hothers, -⟩ := hnested.exists_cons
      rw [hothers]
      exact .error _

theorem termStep_agree (h : s.InStep k front n t) :
    StepsAgree k front n (termStep total s) (termStep total t) := by
  rw [termStep_eq, termStep_eq, h.cursor_eq, next?_shift]
  cases s.cursor.next? with
  | none => exact endPattern_agree h
  | some r =>
      simp only [Option.map_some, shiftSnd]
      split
      · exact closeGroup_agree h
      · split
        · exact .ok (.more h.nextBranch)
        · exact (readTerm_agree h r.1).map Progress.more Progress.more fun _ _ => .more

theorem markedStep_agree (h : s.InStep k front n t) :
    StepsAgree k front n (markedStep total s) (markedStep total t) := by
  simp only [markedStep, h.last_eq, h.cursor_eq, readQuantifier_shift]
  split
  · exact termStep_agree h
  · next hlast =>
      cases readQuantifier s.cursor with
      | error reason => exact .error reason
      | ok r =>
          cases r with
          | none => exact termStep_agree h
          | some r =>
              simp only [Except.map, Option.map_some, shiftSnd]
              split
              · exact .error _
              · next hrefused =>
                  refine .ok (.more (h.repeatLast ?_ r.1))
                  cases hs : s.last with
                  | nothing => exact absurd hs hlast
                  | refused => exact absurd hs hrefused
                  | admitted => rfl

theorem step_agree (h : s.InStep k front n t) :
    StepsAgree k front n (step total s) (step total t) := by
  simp only [step, h.extended_eq, h.cursor_eq, skipTrivia_shift]
  cases skipTrivia s.flags.extended s.cursor with
  | error reason => exact .error reason
  | ok c => exact markedStep_agree (h.move c)

theorem patternRun_agree (h : s.InStep k front n t) :
    Agree (ResultsInStep k front n) (patternRun total s) (patternRun total t) :=
  run_agree step_agree h

end Steps

end Specimen.Reader
