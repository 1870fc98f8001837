import Specimen.Unicode.TableText
import Specimen.Unicode.Name
import Specimen.Unicode.GeneralCategory.Runs

namespace Specimen.Unicode

inductive GeneralCategory where
  | uppercaseLetter
  | lowercaseLetter
  | titlecaseLetter
  | modifierLetter
  | otherLetter
  | nonspacingMark
  | spacingMark
  | enclosingMark
  | decimalNumber
  | letterNumber
  | otherNumber
  | connectorPunctuation
  | dashPunctuation
  | openPunctuation
  | closePunctuation
  | initialPunctuation
  | finalPunctuation
  | otherPunctuation
  | mathSymbol
  | currencySymbol
  | modifierSymbol
  | otherSymbol
  | spaceSeparator
  | lineSeparator
  | paragraphSeparator
  | control
  | format
  | surrogate
  | privateUse
  | unassigned
  deriving DecidableEq, Repr

namespace GeneralCategory

def ofCode? : String → Option GeneralCategory
  | "Lu" => some uppercaseLetter
  | "Ll" => some lowercaseLetter
  | "Lt" => some titlecaseLetter
  | "Lm" => some modifierLetter
  | "Lo" => some otherLetter
  | "Mn" => some nonspacingMark
  | "Mc" => some spacingMark
  | "Me" => some enclosingMark
  | "Nd" => some decimalNumber
  | "Nl" => some letterNumber
  | "No" => some otherNumber
  | "Pc" => some connectorPunctuation
  | "Pd" => some dashPunctuation
  | "Ps" => some openPunctuation
  | "Pe" => some closePunctuation
  | "Pi" => some initialPunctuation
  | "Pf" => some finalPunctuation
  | "Po" => some otherPunctuation
  | "Sm" => some mathSymbol
  | "Sc" => some currencySymbol
  | "Sk" => some modifierSymbol
  | "So" => some otherSymbol
  | "Zs" => some spaceSeparator
  | "Zl" => some lineSeparator
  | "Zp" => some paragraphSeparator
  | "Cc" => some control
  | "Cf" => some format
  | "Cs" => some surrogate
  | "Co" => some privateUse
  | "Cn" => some unassigned
  | _ => none

def table : RunTable GeneralCategory := .ofText ofCode? runsText

def of (c : Char) : GeneralCategory := (table.covering? c.toNat).getD unassigned

end GeneralCategory

structure CategoryGroup where
  names : List String
  categories : List GeneralCategory
  deriving DecidableEq, Repr

namespace CategoryGroup

open GeneralCategory

def other : CategoryGroup :=
  ⟨["C", "Other"], [control, format, surrogate, privateUse, unassigned]⟩

def letter : CategoryGroup :=
  ⟨["L", "Letter"],
    [uppercaseLetter, lowercaseLetter, titlecaseLetter, modifierLetter, otherLetter]⟩

def casedLetter : CategoryGroup :=
  ⟨["LC", "Cased_Letter"], [uppercaseLetter, lowercaseLetter, titlecaseLetter]⟩

def mark : CategoryGroup :=
  ⟨["M", "Mark", "Combining_Mark"], [nonspacingMark, spacingMark, enclosingMark]⟩

def number : CategoryGroup :=
  ⟨["N", "Number"], [decimalNumber, letterNumber, otherNumber]⟩

def punctuation : CategoryGroup :=
  ⟨["P", "Punctuation", "punct"],
    [connectorPunctuation, dashPunctuation, openPunctuation, closePunctuation, initialPunctuation,
      finalPunctuation, otherPunctuation]⟩

def symbol : CategoryGroup :=
  ⟨["S", "Symbol"], [mathSymbol, currencySymbol, modifierSymbol, otherSymbol]⟩

def separator : CategoryGroup :=
  ⟨["Z", "Separator"], [spaceSeparator, lineSeparator, paragraphSeparator]⟩

def all : List CategoryGroup :=
  [other, letter, casedLetter, mark, number, punctuation, symbol, separator,
    ⟨["Lu", "Uppercase_Letter"], [uppercaseLetter]⟩,
    ⟨["Ll", "Lowercase_Letter"], [lowercaseLetter]⟩,
    ⟨["Lt", "Titlecase_Letter"], [titlecaseLetter]⟩,
    ⟨["Lm", "Modifier_Letter"], [modifierLetter]⟩,
    ⟨["Lo", "Other_Letter"], [otherLetter]⟩,
    ⟨["Mn", "Nonspacing_Mark"], [nonspacingMark]⟩,
    ⟨["Mc", "Spacing_Mark"], [spacingMark]⟩,
    ⟨["Me", "Enclosing_Mark"], [enclosingMark]⟩,
    ⟨["Nd", "Decimal_Number", "digit"], [decimalNumber]⟩,
    ⟨["Nl", "Letter_Number"], [letterNumber]⟩,
    ⟨["No", "Other_Number"], [otherNumber]⟩,
    ⟨["Pc", "Connector_Punctuation"], [connectorPunctuation]⟩,
    ⟨["Pd", "Dash_Punctuation"], [dashPunctuation]⟩,
    ⟨["Ps", "Open_Punctuation"], [openPunctuation]⟩,
    ⟨["Pe", "Close_Punctuation"], [closePunctuation]⟩,
    ⟨["Pi", "Initial_Punctuation"], [initialPunctuation]⟩,
    ⟨["Pf", "Final_Punctuation"], [finalPunctuation]⟩,
    ⟨["Po", "Other_Punctuation"], [otherPunctuation]⟩,
    ⟨["Sm", "Math_Symbol"], [mathSymbol]⟩,
    ⟨["Sc", "Currency_Symbol"], [currencySymbol]⟩,
    ⟨["Sk", "Modifier_Symbol"], [modifierSymbol]⟩,
    ⟨["So", "Other_Symbol"], [otherSymbol]⟩,
    ⟨["Zs", "Space_Separator"], [spaceSeparator]⟩,
    ⟨["Zl", "Line_Separator"], [lineSeparator]⟩,
    ⟨["Zp", "Paragraph_Separator"], [paragraphSeparator]⟩,
    ⟨["Cc", "Control", "cntrl"], [control]⟩,
    ⟨["Cf", "Format"], [format]⟩,
    ⟨["Cs", "Surrogate"], [surrogate]⟩,
    ⟨["Co", "Private_Use"], [privateUse]⟩,
    ⟨["Cn", "Unassigned"], [unassigned]⟩]

def ofName? (name : String) : Option CategoryGroup :=
  all.find? fun group => group.names.any fun known => looseName known == looseName name

def contains (group : CategoryGroup) (c : Char) : Bool :=
  group.categories.contains (.of c)

end CategoryGroup

end Specimen.Unicode
