import Specimen.Reader.State
import Specimen.Unicode.Alphanumeric

namespace Specimen.Reader

def openCapture (s : State) (name : Option String) (d : Cursor) : Except SyntaxError State :=
  if maxGroups ≤ s.groups.count then .error .tooManyGroups
  else
    let opened := s.enter (.capture (s.groups.count + 1) name) s.flags d
    .ok { opened with groups := s.groups.push ⟨name, s.cursor.offset⟩ }

def isNameChar (c : Char) : Bool := Unicode.isAlphanumeric c || c == '_'

def isGroupName : List Char → Bool
  | [] => false
  | c :: _ => !Text.isDigit 10 c

def readGroupName (closing : Char) (c : Cursor) : Except SyntaxError (String × Cursor) :=
  let (chars, d) := c.span isNameChar
  match d.skip? closing with
  | none => .error .groupNameUnreadable
  | some e =>
      let name := String.ofList chars
      if isGroupName chars then .ok (name, e) else .error (.groupNameInvalid name)

def openNamed (s : State) (closing : Char) (c : Cursor) : Except SyntaxError State :=
  match readGroupName closing c with
  | .ok (name, d) => openCapture s (some name) d
  | .error reason => .error reason

def withLetter? (toggle : Toggle) (enable : Bool) (letter : Char) : Option Toggle :=
  if enable then (toggle.enable.withLetter? letter).map fun flags => { toggle with enable := flags }
  else (toggle.disable.withLetter? letter).map fun flags => { toggle with disable := flags }

/-- Reads option letters up to the `)` or `:` that ends them, and says whether a scope follows. -/
def readToggle (toggle : Toggle) (enable : Bool) :
    List Char → (offset : Nat) → Except SyntaxError (Toggle × Bool × Cursor)
  | [], _ => .error .unbalancedParenthesis
  | c :: rest, offset =>
      let next := offset + c.utf8Size
      if c = '-' && enable then readToggle toggle false rest next
      else if c = ')' then .ok (toggle, false, ⟨rest, next⟩)
      else if c = ':' then .ok (toggle, true, ⟨rest, next⟩)
      else
        match withLetter? toggle enable c with
        | some toggle => readToggle toggle enable rest next
        | none => .error (.unknownModifier c)

def openToggle (s : State) (c : Cursor) : Except SyntaxError State :=
  match readToggle .none true c.rest c.offset with
  | .ok (toggle, true, d) => .ok (s.enter (.toggled toggle) (toggle.apply s.flags) d)
  | .ok (toggle, false, d) => .ok (s.toggle toggle d)
  | .error reason => .error reason

def openSpecial (s : State) (c : Cursor) : Except SyntaxError State :=
  match c.next? with
  | some (':', d) => .ok (s.enter .nonCapturing s.flags d)
  | some ('=', _) => .error .lookahead
  | some ('!', _) => .error .lookahead
  | some ('<', d) =>
      if d.peek? = some '=' || d.peek? = some '!' then .error .lookbehind else openNamed s '>' d
  | some ('\'', d) => openNamed s '\'' d
  | some ('>', _) => .error .atomicGroup
  | some ('~', _) => .error .absentOperator
  | some ('(', _) => .error .conditionalGroup
  | _ => openToggle s c

def readGroup (s : State) (c : Cursor) : Except SyntaxError State :=
  match c.skip? '?' with
  | some d => openSpecial s d
  | none => openCapture s none c

theorem cursor_of_openCapture {s t : State} {name : Option String} {d : Cursor}
    (h : openCapture s name d = .ok t) : t.cursor = d := by
  simp only [openCapture] at h
  split at h
  · simp at h
  · cases h; rfl

theorem passes_of_readGroupName {closing : Char} {c d : Cursor} {name : String}
    (h : readGroupName closing c = .ok (name, d)) : c.Passes d := by
  simp only [readGroupName] at h
  split at h
  · simp at h
  · next he =>
      split at h
      · cases h; exact (c.reaches_span _).trans_passes (Cursor.passes_of_skip? he)
      · simp at h

theorem passes_of_openNamed {s t : State} {closing : Char} {c : Cursor}
    (h : openNamed s closing c = .ok t) : c.Passes t.cursor := by
  simp only [openNamed] at h
  split at h
  · next hn => exact cursor_of_openCapture h ▸ passes_of_readGroupName hn
  · simp at h

theorem reaches_of_readToggle {toggle changed : Toggle} {enable hasScope : Bool} {rest : List Char}
    {offset : Nat} {d : Cursor} (h : readToggle toggle enable rest offset = .ok (changed, hasScope, d)) :
    Cursor.Reaches ⟨rest, offset⟩ d := by
  have one (c : Char) (rest : List Char) (offset : Nat) :
      Cursor.Reaches ⟨c :: rest, offset⟩ ⟨rest, offset + c.utf8Size⟩ :=
    ⟨[c], by simp, by simp [utf8Length]⟩
  fun_induction readToggle toggle enable rest offset with
  | case1 => simp at h
  | case2 _ _ c rest offset _ _ ih => exact (one _ _ _).trans (ih h)
  | case3 => cases h; exact one _ _ _
  | case4 => cases h; exact one _ _ _
  | case5 _ _ c rest offset _ _ _ _ _ _ ih => exact (one _ _ _).trans (ih h)
  | case6 => simp at h

theorem reaches_of_openToggle {s t : State} {c : Cursor} (h : openToggle s c = .ok t) :
    c.Reaches t.cursor := by
  simp only [openToggle] at h
  split at h
  · next ht => cases h; exact reaches_of_readToggle ht
  · next ht => cases h; exact reaches_of_readToggle ht
  · simp at h

theorem reaches_of_openSpecial {s t : State} {c : Cursor} (h : openSpecial s c = .ok t) :
    c.Reaches t.cursor := by
  simp only [openSpecial] at h
  split at h
  · next hc => cases h; exact (Cursor.passes_of_next? hc).reaches
  · simp at h
  · simp at h
  · next hc =>
      split at h
      · simp at h
      · exact (Cursor.passes_of_next? hc).reaches.trans (passes_of_openNamed h).reaches
  · next hc => exact (Cursor.passes_of_next? hc).reaches.trans (passes_of_openNamed h).reaches
  · simp at h
  · simp at h
  · simp at h
  · exact reaches_of_openToggle h

theorem reaches_of_readGroup {s t : State} {c : Cursor} (h : readGroup s c = .ok t) :
    c.Reaches t.cursor := by
  simp only [readGroup] at h
  split at h
  · next hc => exact (Cursor.passes_of_skip? hc).reaches.trans (reaches_of_openSpecial h)
  · exact cursor_of_openCapture h ▸ .refl c

end Specimen.Reader
