import Specimen.Unicode.Case
import Specimen.Unicode.Property

namespace Specimen

inductive LetterClass where
  | digit
  | space
  | word
  | hexDigit
  deriving DecidableEq, Repr

namespace LetterClass

def letter : LetterClass → (negated : Bool) → Char
  | digit, false => 'd'
  | digit, true => 'D'
  | space, false => 's'
  | space, true => 'S'
  | word, false => 'w'
  | word, true => 'W'
  | hexDigit, false => 'h'
  | hexDigit, true => 'H'

def Has : LetterClass → Nat → Prop
  | digit, x => '0'.toNat ≤ x ∧ x ≤ '9'.toNat
  | space, x => '\t'.toNat ≤ x ∧ x ≤ '\r'.toNat ∨ x = ' '.toNat
  | word, x =>
      '0'.toNat ≤ x ∧ x ≤ '9'.toNat ∨ 'A'.toNat ≤ x ∧ x ≤ 'Z'.toNat ∨ x = '_'.toNat ∨
        'a'.toNat ≤ x ∧ x ≤ 'z'.toNat
  | hexDigit, x =>
      '0'.toNat ≤ x ∧ x ≤ '9'.toNat ∨ 'A'.toNat ≤ x ∧ x ≤ 'F'.toNat ∨
        'a'.toNat ≤ x ∧ x ≤ 'f'.toNat

end LetterClass

def NegatedIf (negated : Bool) (P : Nat → Prop) (x : Nat) : Prop :=
  if negated then x ≤ maxCodePoint ∧ ¬ P x else P x

def ClosedIf (icase : Bool) (P : Nat → Prop) (x : Nat) : Prop :=
  P x ∨ icase = true ∧
    ∃ c d : Char, P c.toNat ∧ Unicode.Case.alternate? c = some d ∧ d.toNat = x

def Bracketed (icase negated : Bool) (P : Nat → Prop) (x : Nat) : Prop :=
  if negated then x ≤ maxCodePoint ∧ ¬ ClosedIf icase P x else P x

def Joint {α : Type} (has : α → Nat → Prop) (operands : List (List α)) (x : Nat) : Prop :=
  (∃ operand ∈ operands, operand ≠ []) ∧
    ∀ operand ∈ operands, operand ≠ [] → ∃ a ∈ operand, has a x

inductive SetExpr where
  | char (c : Char)
  | range (first last : Char) (ordered : first ≤ last)
  | letter (cls : LetterClass) (negated : Bool)
  | backspace
  | property (negated caret : Bool) (name : String) (named : Unicode.Property)
      (known : Unicode.Property.ofName? name = some named)
  | posix (negated : Bool) (name : String) (named : Unicode.PosixClass)
      (known : Unicode.PosixClass.ofName? name = some named)
  /-- A bracket with the operand `first`, and `more` of them behind an `&&` each. -/
  | bracket (negated : Bool) (first : List SetExpr) (more : List (List SetExpr))

namespace SetExpr

def marks : List Char := ['[', ']', '\\', '&', '-', '^', ':']

def charText (c : Char) : List Char := if c ∈ marks then ['\\', c] else [c]

def caretText (negated : Bool) : List Char := if negated then ['^'] else []

mutual

def text : SetExpr → List Char
  | char c => charText c
  | range first last _ => charText first ++ '-' :: charText last
  | letter cls negated => ['\\', cls.letter negated]
  | backspace => ['\\', 'b']
  | property negated caret name .. =>
      '\\' :: (if negated then 'P' else 'p') :: '{' :: (caretText caret ++ (name.toList ++ ['}']))
  | posix negated name .. => '[' :: ':' :: (caretText negated ++ (name.toList ++ [':', ']']))
  | bracket negated first more =>
      '[' :: (caretText negated ++ (itemsText first ++ (operandsText more ++ [']'])))

def itemsText : List SetExpr → List Char
  | [] => []
  | item :: rest => item.text ++ itemsText rest

def operandsText : List (List SetExpr) → List Char
  | [] => []
  | operand :: more => '&' :: '&' :: (itemsText operand ++ operandsText more)

end

mutual

def Has (icase : Bool) : SetExpr → Nat → Prop
  | char c => fun x => x = c.toNat
  | range first last _ => fun x => first.toNat ≤ x ∧ x ≤ last.toNat
  | letter cls negated => NegatedIf negated cls.Has
  | backspace => fun x => x = 8
  | property negated caret _ named _ =>
      NegatedIf (negated != caret) fun x => ∃ c : Char, c.toNat = x ∧ named.contains c = true
  | posix negated _ named _ =>
      NegatedIf negated fun x => ∃ c : Char, c.toNat = x ∧ named.contains c = true
  | bracket negated first more =>
      Bracketed icase negated fun x => (∃ operand ∈ first :: more, operand ≠ []) ∧
        (first ≠ [] → AnyHas icase first x) ∧ AllHave icase more x

def AnyHas (icase : Bool) : List SetExpr → Nat → Prop
  | [] => fun _ => False
  | item :: rest => fun x => item.Has icase x ∨ AnyHas icase rest x

def AllHave (icase : Bool) : List (List SetExpr) → Nat → Prop
  | [] => fun _ => True
  | operand :: more => fun x => (operand ≠ [] → AnyHas icase operand x) ∧ AllHave icase more x

end

variable {icase : Bool}

theorem itemsText_eq (items : List SetExpr) : itemsText items = items.flatMap text := by
  induction items with
  | nil => rfl
  | cons item rest ih => rw [itemsText, ih, List.flatMap_cons]

theorem operandsText_eq (operands : List (List SetExpr)) :
    operandsText operands = operands.flatMap fun operand => '&' :: '&' :: operand.flatMap text := by
  induction operands with
  | nil => rfl
  | cons operand more ih => rw [operandsText, ih, itemsText_eq, List.flatMap_cons]; rfl

theorem anyHas_iff {items : List SetExpr} {x : Nat} :
    AnyHas icase items x ↔ ∃ item ∈ items, item.Has icase x := by
  induction items with
  | nil => simp [AnyHas]
  | cons item rest ih => simp [AnyHas, ih]

theorem allHave_iff {operands : List (List SetExpr)} {x : Nat} : AllHave icase operands x ↔
    ∀ operand ∈ operands, operand ≠ [] → ∃ item ∈ operand, item.Has icase x := by
  induction operands with
  | nil => simp [AllHave]
  | cons operand more ih => simp [AllHave, anyHas_iff, ih]

theorem has_bracket (negated : Bool) (first : List SetExpr) (more : List (List SetExpr)) :
    (bracket negated first more).Has icase =
      Bracketed icase negated (Joint (Has icase) (first :: more)) := by
  rw [Has]
  congr 1
  funext x
  simp only [Joint, anyHas_iff, allHave_iff, List.forall_mem_cons]

/-- Every bracket has an item, or an `&&` as its first operand ends. -/
inductive Proper : SetExpr → Prop where
  | char (c : Char) : Proper (.char c)
  | range (first last : Char) (ordered : first ≤ last) : Proper (.range first last ordered)
  | letter (cls : LetterClass) (negated : Bool) : Proper (.letter cls negated)
  | backspace : Proper .backspace
  | property (negated caret : Bool) (name : String) (named : Unicode.Property)
      (known : Unicode.Property.ofName? name = some named) :
      Proper (.property negated caret name named known)
  | posix (negated : Bool) (name : String) (named : Unicode.PosixClass)
      (known : Unicode.PosixClass.ofName? name = some named) :
      Proper (.posix negated name named known)
  | bracket (negated : Bool) {first : List SetExpr} {more : List (List SetExpr)} :
      first ≠ [] ∨ more ≠ [] → (∀ item ∈ first, Proper item) →
      (∀ operand ∈ more, ∀ item ∈ operand, Proper item) → Proper (.bracket negated first more)

end SetExpr

end Specimen
