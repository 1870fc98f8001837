import Specimen.Reader.Escape
import Specimen.CodePointSet.Class
import Specimen.Pattern.Node
import Specimen.Pattern.Groups
/-!
Escapes outside of brackets, back-references among them. A back-reference needs a group that was opened and
closed before it.
-/

namespace Specimen.Reader

structure Scope where
  /-- How many groups the whole pattern has. -/
  total : Nat
  groups : GroupTable
  /-- The groups that are still open. -/
  openGroups : List Nat

def Scope.check (scope : Scope) (group : Nat) : Except SyntaxError Unit :=
  if (scope.groups.get? group).isNone then .error (.groupNotDefined group)
  else if scope.openGroups.contains group then .error (.groupNotClosed group)
  else .ok ()

/-- Reads a run of digits as a back-reference. More than one digit that no group of the pattern goes with
is none: the escape then stands for a character. -/
def readNumbered (scope : Scope) (c : Cursor) : Except SyntaxError (Option (Node × Cursor)) :=
  let (digits, d) := c.span (Text.isDigit 10)
  let number := Text.numeral 10 digits
  if 1 < digits.length && scope.total < number then .ok none
  else if maxGroups < number then .error (.backRefTooLarge number)
  else
    match scope.check number with
    | .ok () => .ok (some (.backRef number none, d))
    | .error reason => .error reason

def namedReference (scope : Scope) (chars : List Char) : Except SyntaxError Node :=
  let text := String.ofList chars
  if !chars.isEmpty && chars.all (Text.isDigit 10) then
    let number := Text.numeral 10 chars
    if number = 0 || maxGroups < number then .error (.backRefNumber text)
    else (scope.check number).map fun () => .backRef number none
  else
    match scope.groups.find? text with
    | none => .error (.unknownGroupName text)
    | some group => (scope.check group).map fun () => .backRef group (some text)

def readNamed (scope : Scope) (closing : Char) (c : Cursor) : Except SyntaxError (Node × Cursor) :=
  let (chars, d) := c.span (· != closing)
  match d.skip? closing with
  | none => .error .backRefUnreadable
  | some e =>
      match namedReference scope chars with
      | .ok node => .ok (node, e)
      | .error reason => .error reason

def lineBreak : Node :=
  .alt [.cat [.char '\r' false, .char '\n' false], .bracket .lineBreaks false]

def letterNode? : Char → Option (Except SyntaxError Node)
  | 'b' | 'B' => some (.error .wordBoundary)
  | 'g' => some (.error .subexpressionCall)
  | 'A' => some (.ok (.anchor .startOfString))
  | 'G' => some (.ok (.anchor .lastMatch))
  | 'z' => some (.ok (.anchor .endOfString))
  | 'Z' => some (.ok (.anchor .endOfStringOrNewline))
  | 'K' => some (.ok .empty)
  | 'R' => some (.ok lineBreak)
  | 'X' => some (.ok (.bracket .full false))
  | _ => none

def readLiteralEscape (icase : Bool) (c : Cursor) : Except SyntaxError (Node × Cursor) :=
  match readCharEscape c with
  | .ok (x, d) => .ok (.char x icase, d)
  | .error reason => .error reason

def readSetEscape (negated : Bool) (c : Cursor) : Except SyntaxError (Node × Cursor) :=
  match readProperty negated c with
  | .ok (set, d) => .ok (.bracket set false, d)
  | .error reason => .error reason

def readNameEscape (scope : Scope) (icase : Bool) (c d : Cursor) :
    Except SyntaxError (Node × Cursor) :=
  match d.next? with
  | some ('<', e) => readNamed scope '>' e
  | some ('\'', e) => readNamed scope '\'' e
  | _ => readLiteralEscape icase c

def readDigitEscape (scope : Scope) (icase : Bool) (c : Cursor) :
    Except SyntaxError (Node × Cursor) :=
  match readNumbered scope c with
  | .ok (some result) => .ok result
  | .ok none => readLiteralEscape icase c
  | .error reason => .error reason

def readEscape (scope : Scope) (icase : Bool) (c : Cursor) : Except SyntaxError (Node × Cursor) :=
  match c.next? with
  | none => .error .incompleteEscape
  | some (x, d) =>
      match CodePointSet.ofClassLetter? x, letterNode? x with
      | some set, _ => .ok (.bracket set false, d)
      | none, some (.ok node) => .ok (node, d)
      | none, some (.error reason) => .error reason
      | none, none =>
          if x = 'p' || x = 'P' then readSetEscape (x = 'P') d
          else if x = 'k' then readNameEscape scope icase c d
          else if '1' ≤ x && x ≤ '9' then readDigitEscape scope icase c
          else readLiteralEscape icase c

theorem passes_of_readNamed {scope : Scope} {closing : Char} {c d : Cursor} {node : Node}
    (h : readNamed scope closing c = .ok (node, d)) : c.Passes d := by
  simp only [readNamed] at h
  split at h
  · simp at h
  · next he =>
      split at h
      · cases h
        exact (c.reaches_span _).trans_passes (Cursor.passes_of_skip? he)
      · simp at h

theorem passes_of_readLiteralEscape {icase : Bool} {c d : Cursor} {node : Node}
    (h : readLiteralEscape icase c = .ok (node, d)) : c.Passes d := by
  simp only [readLiteralEscape] at h
  split at h
  · next hx => cases h; exact passes_of_readCharEscape hx
  · simp at h

theorem passes_of_readSetEscape {negated : Bool} {c d : Cursor} {node : Node}
    (h : readSetEscape negated c = .ok (node, d)) : c.Passes d := by
  simp only [readSetEscape] at h
  split at h
  · next hset => cases h; exact passes_of_readProperty hset
  · simp at h

theorem passes_of_readNameEscape {scope : Scope} {icase : Bool} {c d e : Cursor} {node : Node}
    (hcd : c.Passes d) (h : readNameEscape scope icase c d = .ok (node, e)) : c.Passes e := by
  simp only [readNameEscape] at h
  split at h
  · next hd => exact (hcd.trans (Cursor.passes_of_next? hd)).trans (passes_of_readNamed h)
  · next hd => exact (hcd.trans (Cursor.passes_of_next? hd)).trans (passes_of_readNamed h)
  · exact passes_of_readLiteralEscape h

theorem passes_span {p : Char → Bool} {c d : Cursor} {x : Char} (h : c.next? = some (x, d))
    (hx : p x = true) : c.Passes (c.span p).2 := by
  refine ⟨_, ?_, c.reads_span p⟩
  have := (Cursor.reads_of_next? h).rest_eq
  simp [Cursor.span, this, hx]

theorem passes_of_readNumbered {scope : Scope} {c d e : Cursor} {x : Char} {node : Node}
    (hx : c.next? = some (x, d)) (hd : Text.isDigit 10 x = true)
    (h : readNumbered scope c = .ok (some (node, e))) : c.Passes e := by
  simp only [readNumbered] at h
  split at h
  · simp at h
  · split at h
    · simp at h
    · split at h
      · cases h; exact passes_span hx hd
      · simp at h

theorem isDigit_of_le {x : Char} (h₁ : '1' ≤ x) (h₂ : x ≤ '9') : Text.isDigit 10 x = true := by
  have h₀ : '0' ≤ x := Char.le_trans (by decide) h₁
  have hn : x.toNat ≤ 57 := h₂
  simp only [Text.isDigit, Text.digit?, Text.hexDigit?, h₀, h₂, and_self, if_true]
  simp [Option.filter]
  omega

theorem passes_of_readEscape {scope : Scope} {icase : Bool} {c d : Cursor} {node : Node}
    (h : readEscape scope icase c = .ok (node, d)) : c.Passes d := by
  simp only [readEscape] at h
  split at h
  · simp at h
  · next hc =>
      have hcd := Cursor.passes_of_next? hc
      split at h
      · cases h; exact hcd
      · cases h; exact hcd
      · simp at h
      · split at h
        · exact hcd.trans (passes_of_readSetEscape h)
        · split at h
          · exact passes_of_readNameEscape hcd h
          · split at h
            · next hx =>
                simp only [Bool.and_eq_true, decide_eq_true_eq] at hx
                simp only [readDigitEscape] at h
                split at h
                · next hn =>
                    cases h
                    exact passes_of_readNumbered hc (isDigit_of_le hx.1 hx.2) hn
                · exact passes_of_readLiteralEscape h
                · simp at h
            · exact passes_of_readLiteralEscape h

end Specimen.Reader
