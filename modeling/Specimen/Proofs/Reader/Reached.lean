import Specimen.Proofs.Reader.OptionSyntax

namespace Specimen.Reader

section Chars

variable {total : Nat} {s : State} {d : Cursor} {x : Char}

theorem readTerm_of_char (h : x ∉ '{' :: syntaxChars) : readTerm total s x d = .ok (addChar s x d) := by
  unfold readTerm
  split
  all_goals first | exact absurd (by decide) h | rfl

theorem step_of_char (hx : s.cursor.next? = some (x, d)) (hmark : x ∉ '{' :: syntaxChars)
    (hblank : s.flags.extended = true → isBlank x = false ∧ x ≠ '#') :
    step total s = .ok (.more (addChar s x d)) := by
  have hpeek := Cursor.peek?_of_next? hx
  have hne (mark : Char) (h : mark ∈ '{' :: syntaxChars) : x ≠ mark := fun heq => hmark (heq ▸ h)
  have htrivia : BehindTrivia s.flags.extended s.cursor := by
    refine ⟨Cursor.skipAll?_eq_none ?_, fun y e hy hextended => ?_⟩
    · rw [hpeek]
      simpa using hne '(' (by decide)
    · rw [hx] at hy
      cases hy
      exact hblank hextended
  have hnone : readQuantifier s.cursor = .ok none := readQuantifier_eq_none fun y hy hmem => by
    rw [hpeek] at hy
    cases hy
    have hsub : repeatMarks ⊆ '{' :: syntaxChars := by decide
    exact hmark (hsub hmem)
  have hterm : termStep total s = .ok (.more (addChar s x d)) := by
    rw [termStep_eq, hx]
    simp only [hne ')' (by decide), hne '|' (by decide), if_false,
      readTerm_of_char hmark]
    rfl
  simp only [step, htrivia.skipTrivia_eq, markedStep, hnone, ite_self]
  exact hterm

end Chars

inductive Reached (text : String) (flags : Flags) : State → Prop where
  | start : Reached text flags (.start flags text)
  | next {s t : State} : Reached text flags s →
      step (countGroups flags text.toList) s = .ok (.more t) → Reached text flags t

namespace Reached

variable {text : String} {flags : Flags} {s t : State} {p : Pattern}

theorem of_first_char {x : Char} {rest : List Char} (htext : text.toList = x :: rest)
    (hmark : x ∉ '{' :: syntaxChars) (hblank : flags.extended = true → isBlank x = false ∧ x ≠ '#') :
    Reached text flags (addChar (.start flags text) x ⟨rest, x.utf8Size⟩) := by
  have hcursor : (State.start flags text).cursor = ⟨x :: rest, 0⟩ :=
    congrArg (fun rest => Cursor.mk rest 0) htext
  have hnext : (State.start flags text).cursor.next? = some (x, ⟨rest, x.utf8Size⟩) := by
    rw [hcursor, ← Nat.zero_add x.utf8Size]
    rfl
  exact .next .start (step_of_char hnext hmark hblank)

theorem reaches (h : Reached text flags s) : (Cursor.ofString text).Reaches s.cursor := by
  induction h with
  | start => exact .refl _
  | next _ hstep ih => exact ih.trans (passes_of_step hstep).reaches

theorem holds {P : State → Prop} (h : Reached text flags t) (start : P (.start flags text))
    (trivia : ∀ {s c}, P s → skipTrivia s.flags.extended s.cursor = .ok c → P { s with cursor := c })
    (move : ∀ {s t}, P s → (Cursor.ofString text).Reaches s.cursor →
      BehindTrivia s.flags.extended s.cursor → s.cursor.Passes t.cursor →
      Move (countGroups flags text.toList) s t → P t) : P t := by
  induction h with
  | start => exact start
  | @next s t hs hstep ih =>
      obtain ⟨c, hc, hpasses, hmove⟩ := step_more hstep
      exact move (trivia ih hc) (hs.reaches.trans (reaches_of_skipTrivia hc))
        (behindTrivia_of_skipTrivia hc) hpasses hmove

theorem run_eq (h : Reached text flags s) :
    patternRun (countGroups flags text.toList) (.start flags text) =
      patternRun (countGroups flags text.toList) s := by
  induction h with
  | start => rfl
  | next _ hst ih => exact ih.trans (run_of_more size_lt_of_step hst)

theorem read_eq (h : Reached text flags s) : Pattern.read text flags =
    (patternRun (countGroups flags text.toList) s).map fun r => ⟨r.1, flags, r.2⟩ := by
  rw [Pattern.read_eq, h.run_eq]

theorem read_error (h : Reached text flags s) {reason : SyntaxError}
    (hstep : step (countGroups flags text.toList) s = .error reason) :
    Pattern.read text flags = .error reason := by
  rw [h.read_eq, patternRun, Reader.run_eq, hstep]
  rfl

theorem of_read {P : State → Prop} (h : Reached text flags s) (hs : P s)
    (keeps : ∀ {s t}, P s → step (countGroups flags text.toList) s = .ok (.more t) → P t)
    (hread : Pattern.read text flags = .ok p) :
    ∃ t, P t ∧ t.enclosing = [] ∧ p.root = t.branches.node := by
  rw [h.read_eq] at hread
  cases hrun : patternRun (countGroups flags text.toList) s with
  | error reason =>
      rw [hrun] at hread
      cases hread
  | ok r =>
      rw [hrun] at hread
      cases hread
      refine run_induction size_lt_of_step
        (Q := fun r => ∃ t, P t ∧ t.enclosing = [] ∧ r.1 = t.branches.node) keeps ?_ hs hrun
      intro t r ht hdone
      obtain ⟨_, _, _, henclosing, rfl⟩ := step_done hdone
      exact ⟨t, ht, henclosing, rfl⟩

end Reached

def stepsFrom (total : Nat) : Nat → State → Option State
  | 0, s => some s
  | n + 1, s =>
      match step total s with
      | .ok (.more t) => stepsFrom total n t
      | _ => none

theorem stepsFrom_succ {total n : Nat} {s t : State} (h : stepsFrom total (n + 1) s = some t) :
    ∃ r, step total s = .ok (.more r) ∧ stepsFrom total n r = some t := by
  rw [stepsFrom] at h
  split at h
  · next r hstep => exact ⟨r, hstep, h⟩
  · cases h

theorem Reached.of_stepsFrom {text : String} {flags : Flags} {s t : State} {n : Nat}
    (h : Reached text flags s)
    (hsteps : stepsFrom (countGroups flags text.toList) n s = some t) : Reached text flags t := by
  induction n generalizing s with
  | zero => cases hsteps; exact h
  | succ n ih =>
      obtain ⟨r, hstep, hrest⟩ := stepsFrom_succ hsteps
      exact ih (h.next hstep) hrest

end Specimen.Reader
