namespace Specimen.Unicode

/-- Lowercase of a character as far as names in ASCII can show it: the Kelvin sign is the one character
beyond ASCII whose lowercase is an ASCII letter. -/
def foldNameChar (c : Char) : Char :=
  if c = '\u212a' then 'k' else c.toLower

def plainName (name : String) : String :=
  String.ofList ((name.toList.filter fun c => !(c == ' ' || c == '-' || c == '_')).map foldNameChar)

def isNameFiller (c : Char) : Bool :=
  c == '_' || c == '-' || c == ' ' || ('\t' ≤ c && c ≤ '\r')

def looseName (name : String) : String :=
  String.ofList ((name.toList.filter fun c => !isNameFiller c).map Char.toLower)

end Specimen.Unicode
