import Specimen.CodePointSet.Basic
/-!
The sets that escapes stand for. They reach no further than ASCII, apart from the line breaks.
-/

namespace Specimen.CodePointSet

def ofChars (first last : Char) : Interval := ⟨first.toNat, last.toNat⟩

def digits : CodePointSet := ofIntervals [ofChars '0' '9']

def wordChars : CodePointSet :=
  ofIntervals [ofChars '0' '9', ofChars 'A' 'Z', ofChars '_' '_', ofChars 'a' 'z']

def spaces : CodePointSet := ofIntervals [ofChars '\t' '\r', ofChars ' ' ' ']

def hexDigits : CodePointSet := ofIntervals [ofChars '0' '9', ofChars 'A' 'F', ofChars 'a' 'f']

def lineBreaks : CodePointSet :=
  ofIntervals [ofChars '\n' '\r', ofChars '\u0085' '\u0085', ofChars '\u2028' '\u2029']

def full : CodePointSet := complement ∅

def dot (multiline : Bool) : CodePointSet :=
  if multiline then full else complement (ofIntervals [ofChars '\n' '\n'])

def ofClassLetter? : Char → Option CodePointSet
  | 'd' => some digits
  | 'D' => some digits.complement
  | 's' => some spaces
  | 'S' => some spaces.complement
  | 'w' => some wordChars
  | 'W' => some wordChars.complement
  | 'h' => some hexDigits
  | 'H' => some hexDigits.complement
  | _ => none

end Specimen.CodePointSet
