namespace Specimen

structure Flags where
  icase : Bool
  multiline : Bool
  extended : Bool
  deriving DecidableEq, Repr

namespace Flags

def none : Flags := ⟨false, false, false⟩

instance : Inhabited Flags := ⟨none⟩

def withLetter? (flags : Flags) : Char → Option Flags
  | 'i' => some { flags with icase := true }
  | 'm' => some { flags with multiline := true }
  | 'x' => some { flags with extended := true }
  | _ => .none

def ofChars (letters : List Char) : Flags :=
  letters.foldl (fun flags c => (flags.withLetter? c).getD flags) none

def ofLetters (letters : String) : Flags := ofChars letters.toList

def ofCodes (codes : List Nat) : Flags :=
  ofChars ((codes.filter fun n => n.isValidChar).map Char.ofNat)

def letters (flags : Flags) : List Char :=
  (if flags.multiline then ['m'] else []) ++ (if flags.icase then ['i'] else []) ++
    if flags.extended then ['x'] else []

theorem ofChars_letters (flags : Flags) : ofChars flags.letters = flags := by
  obtain ⟨i, m, x⟩ := flags
  cases i <;> cases m <;> cases x <;> rfl

def text (flags : Flags) : String := String.ofList flags.letters

end Flags

end Specimen
