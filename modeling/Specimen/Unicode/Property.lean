import Specimen.Unicode.Name
import Specimen.Unicode.GeneralCategory
import Specimen.Unicode.Script
import Specimen.Unicode.BinaryProperty
/-!
Named character properties. A POSIX name wins over a binary property, that over a general category, and
that over a script.
-/

namespace Specimen.Unicode

inductive PosixClass where
  | alnum
  | alpha
  | ascii
  | blank
  | cntrl
  | digit
  | graph
  | lower
  | print
  | punct
  | space
  | upper
  | xdigit
  | word
  deriving DecidableEq, Repr

namespace PosixClass

def ofName? : String → Option PosixClass
  | "alnum" => some alnum
  | "alpha" => some alpha
  | "ascii" => some ascii
  | "blank" => some blank
  | "cntrl" => some cntrl
  | "digit" => some digit
  | "graph" => some graph
  | "lower" => some lower
  | "print" => some print
  | "punct" => some punct
  | "space" => some space
  | "upper" => some upper
  | "xdigit" => some xdigit
  | "word" => some word
  | _ => none

def isGraph (c : Char) : Bool :=
  !BinaryProperty.whiteSpace.contains c && !CategoryGroup.other.contains c

def contains : PosixClass → Char → Bool
  | alnum, c => BinaryProperty.alphabetic.contains c || GeneralCategory.of c == .decimalNumber
  | alpha, c => BinaryProperty.alphabetic.contains c
  | ascii, c => c.toNat < 0x80
  | blank, c => c == '\t' || GeneralCategory.of c == .spaceSeparator
  | cntrl, c => GeneralCategory.of c == .control
  | digit, c => GeneralCategory.of c == .decimalNumber
  | graph, c => isGraph c
  | lower, c => BinaryProperty.lowercase.contains c
  | print, c => GeneralCategory.of c == .spaceSeparator || isGraph c
  | punct, c => CategoryGroup.punctuation.contains c
  | space, c => BinaryProperty.whiteSpace.contains c
  | upper, c => BinaryProperty.uppercase.contains c
  | xdigit, c => Text.isDigit 16 c
  | word, c =>
      BinaryProperty.alphabetic.contains c || CategoryGroup.mark.contains c ||
        GeneralCategory.of c == .decimalNumber || GeneralCategory.of c == .connectorPunctuation

def members (posix : PosixClass) : CodePointSet := .ofPredicate posix.contains

end PosixClass

inductive Property where
  | posix (posix : PosixClass)
  | binary (property : BinaryProperty)
  | category (group : CategoryGroup)
  | script (script : Script)
  deriving DecidableEq, Repr

namespace Property

def ofName? (name : String) : Option Property :=
  (PosixClass.ofName? (plainName name)).map posix
    <|> (BinaryProperty.ofPlainName? (plainName name)).map binary
    <|> (CategoryGroup.ofName? name).map category
    <|> (Script.ofName? name).map script

def contains : Property → Char → Bool
  | posix p, c => p.contains c
  | binary p, c => p.contains c
  | category g, c => g.contains c
  | script s, c => Script.of c == s

def members (property : Property) : CodePointSet := .ofPredicate property.contains

end Property

end Specimen.Unicode
