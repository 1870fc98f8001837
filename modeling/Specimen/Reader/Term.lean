import Specimen.Reader.Trivia
import Specimen.Reader.Repeat
import Specimen.Reader.Bracket
import Specimen.Reader.Group
/-!
The terms of a pattern: anchors, escapes, sets, groups and literal characters. Anchors may stand only where
they bar no string: at the start or the end of the whole pattern.
-/

namespace Specimen.Reader

def skipEndAnchor? (c : Cursor) : Option Cursor :=
  match c.next? with
  | some ('$', d) => some d
  | some ('\\', d) =>
      match d.next? with
      | some ('z', e) => some e
      | some ('Z', e) => some e
      | _ => none
  | _ => none

theorem passes_of_skipEndAnchor? {c d : Cursor} (h : skipEndAnchor? c = some d) : c.Passes d := by
  simp only [skipEndAnchor?] at h
  split at h
  · next hc => cases h; exact Cursor.passes_of_next? hc
  · next hc =>
      split at h
      · next he => cases h; exact (Cursor.passes_of_next? hc).trans (Cursor.passes_of_next? he)
      · next he => cases h; exact (Cursor.passes_of_next? hc).trans (Cursor.passes_of_next? he)
      · simp at h
  · simp at h

def atPatternEnd (extended : Bool) (c : Cursor) : Except SyntaxError Bool :=
  match _ : skipTrivia extended c with
  | .error reason => .error reason
  | .ok d =>
      match _ : skipEndAnchor? d with
      | some e => atPatternEnd extended e
      | none => .ok d.rest.isEmpty
termination_by c.rest.length
decreasing_by
  exact ((reaches_of_skipTrivia ‹_›).trans_passes (passes_of_skipEndAnchor? ‹_›)).length_lt

theorem atPatternEnd_eq (extended : Bool) (c : Cursor) : atPatternEnd extended c =
    match skipTrivia extended c with
    | .error reason => .error reason
    | .ok d =>
        match skipEndAnchor? d with
        | some e => atPatternEnd extended e
        | none => .ok d.rest.isEmpty := by
  rw [atPatternEnd]
  split
  · simp_all
  · split <;> simp_all

def State.atPatternStart (s : State) : Bool :=
  s.enclosing.isEmpty && s.branches.finished.isEmpty &&
    s.branches.items.all fun item => item.isAnchor || item.isToggleRest

def addAnchor (s : State) (kind : Anchor) (d : Cursor) : Except SyntaxError State :=
  if kind.isStart then
    if s.atPatternStart then .ok (s.add (.anchor kind) .refused d)
    else .error .misplacedStartAnchor
  else if !s.enclosing.isEmpty then .error .misplacedEndAnchor
  else
    match atPatternEnd s.flags.extended d with
    | .error reason => .error reason
    | .ok true => .ok (s.add (.anchor kind) .refused d)
    | .ok false => .error .misplacedEndAnchor

def addEscape (total : Nat) (s : State) (c : Cursor) : Except SyntaxError State :=
  match readEscape (s.scope total) s.flags.icase c with
  | .error reason => .error reason
  | .ok (.anchor kind, d) => addAnchor s kind d
  | .ok (node, d) => .ok (s.add node .admitted d)

def addBracket (s : State) (c : Cursor) : Except SyntaxError State :=
  match readBracket s.flags.icase c with
  | .error reason => .error reason
  | .ok (set, d) => .ok (s.add (.bracket set s.flags.icase) .admitted d)

def addChar (s : State) (x : Char) (d : Cursor) : State :=
  s.add (.char x s.flags.icase) .admitted d

def addBrace (s : State) (d : Cursor) : Except SyntaxError State :=
  match readQuantifier s.cursor with
  | .ok (some _) => .error .nothingToRepeat
  | _ => .ok (addChar s '{' d)

def readTerm (total : Nat) (s : State) (x : Char) (d : Cursor) : Except SyntaxError State :=
  match x with
  | '^' => addAnchor s .startOfLine d
  | '$' => addAnchor s .endOfLine d
  | '\\' => addEscape total s d
  | '.' => .ok (s.add (.bracket (.dot s.flags.multiline) false) .admitted d)
  | '(' => readGroup s d
  | '[' => addBracket s d
  | '*' => .error .nothingToRepeat
  | '+' => .error .nothingToRepeat
  | '?' => .error .nothingToRepeat
  | '{' => addBrace s d
  | x => .ok (addChar s x d)

theorem addAnchor_ok {s t : State} {kind : Anchor} {d : Cursor} (h : addAnchor s kind d = .ok t) :
    t = s.add (.anchor kind) .refused d := by
  simp only [addAnchor] at h
  split at h
  · split at h
    · cases h; rfl
    · simp at h
  · split at h
    · simp at h
    · split at h
      · simp at h
      · cases h; rfl
      · simp at h

theorem cursor_of_addAnchor {s t : State} {kind : Anchor} {d : Cursor}
    (h : addAnchor s kind d = .ok t) : t.cursor = d := by
  rw [addAnchor_ok h, State.add]

theorem reaches_of_readTerm {total : Nat} {s t : State} {x : Char} {d : Cursor}
    (h : readTerm total s x d = .ok t) : d.Reaches t.cursor := by
  simp only [readTerm] at h
  split at h
  · exact cursor_of_addAnchor h ▸ .refl d
  · exact cursor_of_addAnchor h ▸ .refl d
  · simp only [addEscape] at h
    split at h
    · simp at h
    · next he => exact cursor_of_addAnchor h ▸ (passes_of_readEscape he).reaches
    · next he => cases h; exact (passes_of_readEscape he).reaches
  · cases h; exact .refl d
  · exact reaches_of_readGroup h
  · simp only [addBracket] at h
    split at h
    · simp at h
    · next hb => cases h; exact (passes_of_readBracket hb).reaches
  · simp at h
  · simp at h
  · simp at h
  · simp only [addBrace] at h
    split at h
    · simp at h
    · cases h; exact .refl d
  · cases h; exact .refl d

end Specimen.Reader
