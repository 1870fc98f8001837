import Specimen.Reader.Term
import Specimen.Reader.GroupScan
/-!
Reading a pattern, as a run of a machine. A step takes a quantifier, a term, the mark between two branches,
or the end of a group; it fails, or ends the run at the end of the text.
-/

namespace Specimen.Reader

abbrev Reading := Node × GroupTable

def termStep (total : Nat) (s : State) : Except SyntaxError (Progress State Reading) :=
  match s.cursor.next?, s.enclosing with
  | none, [] => .ok (.done (s.branches.node, s.groups))
  | none, _ :: _ => .error .unbalancedParenthesis
  | some (')', _), [] => .error .unbalancedParenthesis
  | some (')', d), group :: enclosing => .ok (.more (s.leave group enclosing d))
  | some ('|', d), _ => .ok (.more (s.nextBranch d))
  | some (x, d), _ =>
      match readTerm total s x d with
      | .ok t => .ok (.more t)
      | .error reason => .error reason

def markedStep (total : Nat) (s : State) : Except SyntaxError (Progress State Reading) :=
  if s.last = .nothing then termStep total s
  else
    match readQuantifier s.cursor with
    | .error reason => .error reason
    | .ok none => termStep total s
    | .ok (some (q, d)) =>
        if s.last = .refused then .error .misplacedQuantifier
        else .ok (.more (s.repeatLast q d))

def step (total : Nat) (s : State) : Except SyntaxError (Progress State Reading) :=
  match skipTrivia s.flags.extended s.cursor with
  | .error reason => .error reason
  | .ok c => markedStep total { s with cursor := c }

theorem passes_of_termStep {total : Nat} {s t : State} (h : termStep total s = .ok (.more t)) :
    s.cursor.Passes t.cursor := by
  simp only [termStep] at h
  split at h
  · simp at h
  · simp at h
  · simp at h
  · next hc _ => cases h; exact Cursor.passes_of_next? hc
  · next hc => cases h; exact Cursor.passes_of_next? hc
  · next hc _ _ =>
      split at h
      · next ht =>
          cases h
          exact (Cursor.passes_of_next? hc).trans_reaches (reaches_of_readTerm ht)
      · simp at h

theorem passes_of_markedStep {total : Nat} {s t : State}
    (h : markedStep total s = .ok (.more t)) : s.cursor.Passes t.cursor := by
  simp only [markedStep] at h
  split at h
  · exact passes_of_termStep h
  · split at h
    · simp at h
    · exact passes_of_termStep h
    · next hq =>
        split at h
        · simp at h
        · cases h; exact passes_of_readQuantifier hq

theorem passes_of_step {total : Nat} {s t : State} (h : step total s = .ok (.more t)) :
    s.cursor.Passes t.cursor := by
  simp only [step] at h
  split at h
  · simp at h
  · next hc => exact (reaches_of_skipTrivia hc).trans_passes (passes_of_markedStep h)

theorem size_lt_of_step {total : Nat} {s t : State} (h : step total s = .ok (.more t)) :
    t.size < s.size :=
  (passes_of_step h).length_lt

end Specimen.Reader

namespace Specimen

open Reader

def Pattern.read (text : String) (flags : Flags) : Except SyntaxError Pattern :=
  let total := countGroups flags text.toList
  match run (step total) State.size size_lt_of_step (.start flags text) with
  | .ok (root, groups) => .ok ⟨root, flags, groups⟩
  | .error reason => .error reason

end Specimen
