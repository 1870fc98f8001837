import Specimen.Unicode.Invisible

namespace Specimen.Text

def hexText (n : Nat) : String := String.ofList (Nat.toDigits 16 n)

def escaped (quote c : Char) : String :=
  if c = '\x00' then "\\0"
  else if c = '\t' then "\\t"
  else if c = '\n' then "\\n"
  else if c = '\r' then "\\r"
  else if c = '\\' then "\\\\"
  else if c = quote then String.ofList ['\\', quote]
  else if Unicode.isInvisible c then "\\u\x7b" ++ hexText c.toNat ++ "\x7d"
  else c.toString

def quotedChar (c : Char) : String := "'" ++ escaped '\'' c ++ "'"

def quoted (text : String) : String :=
  text.toList.foldl (fun out c => out ++ escaped '"' c) "\"" ++ "\""

end Specimen.Text
