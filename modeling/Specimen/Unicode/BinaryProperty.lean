import Specimen.Unicode.GeneralCategory
import Specimen.Unicode.BinaryProperty.Ranges

namespace Specimen.Unicode

inductive BinaryProperty where
  | alphabetic
  | asciiHexDigit
  | caseIgnorable
  | cased
  | dash
  | defaultIgnorableCodePoint
  | diacritic
  | emoji
  | emojiPresentation
  | extendedPictographic
  | extender
  | hexDigit
  | idContinue
  | idStart
  | ideographic
  | lowercase
  | math
  | noncharacterCodePoint
  | patternSyntax
  | patternWhiteSpace
  | quotationMark
  | sentenceTerminal
  | terminalPunctuation
  | uppercase
  | whiteSpace
  | xidContinue
  | xidStart
  | any
  | assigned
  deriving DecidableEq, Repr

namespace BinaryProperty

def ofPlainName? : String → Option BinaryProperty
  | "alphabetic" => some alphabetic
  | "ahex" | "asciihexdigit" => some asciiHexDigit
  | "ci" | "caseignorable" => some caseIgnorable
  | "cased" => some cased
  | "dash" => some dash
  | "di" | "defaultignorablecodepoint" => some defaultIgnorableCodePoint
  | "dia" | "diacritic" => some diacritic
  | "emoji" => some emoji
  | "epres" | "emojipresentation" => some emojiPresentation
  | "extpict" | "extendedpictographic" => some extendedPictographic
  | "ext" | "extender" => some extender
  | "hex" | "hexdigit" => some hexDigit
  | "idc" | "idcontinue" => some idContinue
  | "ids" | "idstart" => some idStart
  | "ideo" | "ideographic" => some ideographic
  | "lowercase" => some lowercase
  | "math" => some math
  | "nchar" | "noncharactercodepoint" => some noncharacterCodePoint
  | "patsyn" | "patternsyntax" => some patternSyntax
  | "patws" | "patternwhitespace" => some patternWhiteSpace
  | "qmark" | "quotationmark" => some quotationMark
  | "sterm" | "sentenceterminal" => some sentenceTerminal
  | "term" | "terminalpunctuation" => some terminalPunctuation
  | "uppercase" => some uppercase
  | "wspace" | "whitespace" => some whiteSpace
  | "xidc" | "xidcontinue" => some xidContinue
  | "xids" | "xidstart" => some xidStart
  | "any" => some any
  | "assigned" => some assigned
  | _ => none

def alphabeticSet : CodePointSet := readSet alphabeticText

def asciiHexDigitSet : CodePointSet := readSet asciiHexDigitText

def caseIgnorableSet : CodePointSet := readSet caseIgnorableText

def casedSet : CodePointSet := readSet casedText

def dashSet : CodePointSet := readSet dashText

def defaultIgnorableCodePointSet : CodePointSet := readSet defaultIgnorableCodePointText

def diacriticSet : CodePointSet := readSet diacriticText

def emojiSet : CodePointSet := readSet emojiText

def emojiPresentationSet : CodePointSet := readSet emojiPresentationText

def extendedPictographicSet : CodePointSet := readSet extendedPictographicText

def extenderSet : CodePointSet := readSet extenderText

def hexDigitSet : CodePointSet := readSet hexDigitText

def idContinueSet : CodePointSet := readSet idContinueText

def idStartSet : CodePointSet := readSet idStartText

def ideographicSet : CodePointSet := readSet ideographicText

def lowercaseSet : CodePointSet := readSet lowercaseText

def mathSet : CodePointSet := readSet mathText

def noncharacterCodePointSet : CodePointSet := readSet noncharacterCodePointText

def patternSyntaxSet : CodePointSet := readSet patternSyntaxText

def patternWhiteSpaceSet : CodePointSet := readSet patternWhiteSpaceText

def quotationMarkSet : CodePointSet := readSet quotationMarkText

def sentenceTerminalSet : CodePointSet := readSet sentenceTerminalText

def terminalPunctuationSet : CodePointSet := readSet terminalPunctuationText

def uppercaseSet : CodePointSet := readSet uppercaseText

def whiteSpaceSet : CodePointSet := readSet whiteSpaceText

def xidContinueSet : CodePointSet := readSet xidContinueText

def xidStartSet : CodePointSet := readSet xidStartText

def tableSet? : BinaryProperty → Option CodePointSet
  | alphabetic => some alphabeticSet
  | asciiHexDigit => some asciiHexDigitSet
  | caseIgnorable => some caseIgnorableSet
  | cased => some casedSet
  | dash => some dashSet
  | defaultIgnorableCodePoint => some defaultIgnorableCodePointSet
  | diacritic => some diacriticSet
  | emoji => some emojiSet
  | emojiPresentation => some emojiPresentationSet
  | extendedPictographic => some extendedPictographicSet
  | extender => some extenderSet
  | hexDigit => some hexDigitSet
  | idContinue => some idContinueSet
  | idStart => some idStartSet
  | ideographic => some ideographicSet
  | lowercase => some lowercaseSet
  | math => some mathSet
  | noncharacterCodePoint => some noncharacterCodePointSet
  | patternSyntax => some patternSyntaxSet
  | patternWhiteSpace => some patternWhiteSpaceSet
  | quotationMark => some quotationMarkSet
  | sentenceTerminal => some sentenceTerminalSet
  | terminalPunctuation => some terminalPunctuationSet
  | uppercase => some uppercaseSet
  | whiteSpace => some whiteSpaceSet
  | xidContinue => some xidContinueSet
  | xidStart => some xidStartSet
  | any => none
  | assigned => none

def contains (property : BinaryProperty) (c : Char) : Bool :=
  match property.tableSet? with
  | some set => set.contains c.toNat
  | none => property == any || GeneralCategory.of c != .unassigned

end BinaryProperty

end Specimen.Unicode
