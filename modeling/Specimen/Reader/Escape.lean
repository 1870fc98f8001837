import Specimen.Reader.Cursor
import Specimen.Reader.Error
import Specimen.Text.Digit
import Specimen.Unicode.Property
/-!
Escapes that stand for one character or for a named set. The readers start behind the backslash.
-/

namespace Specimen.Reader

def letterEscape? : Char → Option Char
  | 'a' => some '\x07'
  | 'e' => some '\x1b'
  | 'f' => some '\x0c'
  | 'n' => some '\n'
  | 'r' => some '\r'
  | 't' => some '\t'
  | 'v' => some '\x0b'
  | _ => none

def readControl (c : Cursor) : Except SyntaxError (Char × Cursor) :=
  match c.next? with
  | some (x, d) =>
      if x = '?' then .ok ('\x7f', d)
      else if x.toNat < 0x80 then .ok (Char.ofNat (x.toNat % 32), d)
      else .error .controlEscape
  | none => .error .controlEscape

def readHex (c : Cursor) : Except SyntaxError (Char × Cursor) :=
  let (digits, d) := c.spanUpTo 2 (Text.isDigit 16)
  if digits.isEmpty then .error .hexEscape else .ok (Char.ofNat (Text.numeral 16 digits), d)

def hexChar? (digits : List Char) : Option Char :=
  let n := Text.numeral 16 digits
  if !digits.isEmpty && n.isValidChar then some (Char.ofNat n) else none

def unicodeDigits? (c : Cursor) : Option (List Char × Cursor) :=
  match c.skip? '{' with
  | some d =>
      let (digits, e) := d.spanUpTo 6 (Text.isDigit 16)
      (e.skip? '}').map (digits, ·)
  | none =>
      let (digits, d) := c.spanUpTo 4 (Text.isDigit 16)
      if digits.length = 4 then some (digits, d) else none

def readUnicode (c : Cursor) : Except SyntaxError (Char × Cursor) :=
  match unicodeDigits? c with
  | some (digits, d) =>
      match hexChar? digits with
      | some x => .ok (x, d)
      | none => .error .unicodeEscape
  | none => .error .unicodeEscape

def readOctal (first : Char) (c : Cursor) : Char × Cursor :=
  let (digits, d) := c.spanUpTo 2 (Text.isDigit 8)
  (Char.ofNat (Text.numeral 8 (first :: digits)), d)

/-- Reads an escape that stands for one character; an escape unknown otherwise stands for the character
behind the backslash. -/
def readCharEscape (c : Cursor) : Except SyntaxError (Char × Cursor) :=
  match c.next? with
  | none => .error .incompleteEscape
  | some ('c', d) => readControl d
  | some ('C', d) =>
      match d.skip? '-' with
      | some e => readControl e
      | none => .error .controlEscape
  | some ('M', _) => .error .metaEscape
  | some ('x', d) => readHex d
  | some ('u', d) => readUnicode d
  | some (x, d) =>
      match letterEscape? x with
      | some y => .ok (y, d)
      | none => if Text.isDigit 8 x then .ok (readOctal x d) else .ok (x, d)

theorem reaches_of_readControl {c d : Cursor} {x : Char} (h : readControl c = .ok (x, d)) :
    c.Reaches d := by
  simp only [readControl] at h
  split at h
  · next hc =>
      have := (Cursor.passes_of_next? hc).reaches
      split at h
      · cases h; exact this
      · split at h
        · cases h; exact this
        · simp at h
  · simp at h

theorem reaches_of_readHex {c d : Cursor} {x : Char} (h : readHex c = .ok (x, d)) :
    c.Reaches d := by
  simp only [readHex] at h
  split at h
  · simp at h
  · cases h; exact c.reaches_spanUpTo _ _

theorem reaches_of_unicodeDigits? {c d : Cursor} {digits : List Char}
    (h : unicodeDigits? c = some (digits, d)) : c.Reaches d := by
  simp only [unicodeDigits?] at h
  split at h
  · next hc =>
      obtain ⟨e, he, heq⟩ := Option.map_eq_some_iff.1 h
      cases heq
      exact ((Cursor.passes_of_skip? hc).reaches.trans (Cursor.reaches_spanUpTo _ _ _)).trans
        (Cursor.passes_of_skip? he).reaches
  · split at h
    · cases h; exact c.reaches_spanUpTo _ _
    · simp at h

theorem reaches_of_readUnicode {c d : Cursor} {x : Char} (h : readUnicode c = .ok (x, d)) :
    c.Reaches d := by
  simp only [readUnicode] at h
  split at h
  · next hc =>
      split at h
      · cases h; exact reaches_of_unicodeDigits? hc
      · simp at h
  · simp at h

theorem reaches_readOctal (first : Char) (c : Cursor) : c.Reaches (readOctal first c).2 :=
  c.reaches_spanUpTo _ _

theorem passes_of_readCharEscape {c d : Cursor} {x : Char} (h : readCharEscape c = .ok (x, d)) :
    c.Passes d := by
  simp only [readCharEscape] at h
  split at h
  · simp at h
  · next hc => exact (Cursor.passes_of_next? hc).trans_reaches (reaches_of_readControl h)
  · next hc =>
      split at h
      · next he =>
          exact ((Cursor.passes_of_next? hc).trans (Cursor.passes_of_skip? he)).trans_reaches
            (reaches_of_readControl h)
      · simp at h
  · simp at h
  · next hc => exact (Cursor.passes_of_next? hc).trans_reaches (reaches_of_readHex h)
  · next hc => exact (Cursor.passes_of_next? hc).trans_reaches (reaches_of_readUnicode h)
  · next y e _ _ _ _ _ hc =>
      have hce := Cursor.passes_of_next? hc
      split at h
      · cases h; exact hce
      · split at h
        · cases h; exact hce.trans_reaches (reaches_readOctal y e)
        · cases h; exact hce

def readProperty (negated : Bool) (c : Cursor) : Except SyntaxError (CodePointSet × Cursor) :=
  match c.skip? '{' with
  | none => .error .propertyUnreadable
  | some d =>
      let (caret, e) := d.skipOptional '^'
      let (chars, f) := e.span (· != '}')
      match f.skip? '}' with
      | none => .error .propertyUnreadable
      | some g =>
          let name := String.ofList chars
          match Unicode.Property.ofName? name with
          | none => .error (.unknownProperty name)
          | some property =>
              let set := property.members
              .ok (if negated != caret then set.complement else set, g)

theorem passes_of_readProperty {negated : Bool} {c d : Cursor} {set : CodePointSet}
    (h : readProperty negated c = .ok (set, d)) : c.Passes d := by
  simp only [readProperty] at h
  split at h
  · simp at h
  · next hc =>
      split at h
      · simp at h
      · next hf =>
          split at h
          · simp at h
          · cases h
            exact (((Cursor.passes_of_skip? hc).trans_reaches
              (Cursor.reaches_skipOptional _ _)).trans_reaches (Cursor.reaches_span _ _)).trans
                (Cursor.passes_of_skip? hf)

end Specimen.Reader
