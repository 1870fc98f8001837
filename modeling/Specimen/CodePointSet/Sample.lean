import Specimen.CodePointSet.Basic
/-!
The order in which the members of a set are offered as samples: a fixed order of ASCII that starts with
the newline and the letters, then all other characters by code point.
-/

namespace Specimen

def charRange (first last : Char) : List Char :=
  (List.range' first.toNat (last.toNat + 1 - first.toNat)).map Char.ofNat

def preferredAscii : List Char :=
  '\n' :: charRange 'a' 'z' ++ charRange 'A' 'Z' ++ charRange '0' '9' ++
    "!\"#%&'()*,-./:;?@[\\]_\x7b\x7d$+<=>^`|~ ".toList

def asciiOrder : List Char :=
  preferredAscii ++ (charRange '\x00' '\x7f').filter fun c => !preferredAscii.contains c

def charsBetween (limit first last : Nat) : List Char :=
  let low := List.range' first (min limit (min last 0xD7FF + 1 - first))
  let start := max first 0xE000
  let high := List.range' start (min (limit - low.length) (last + 1 - start))
  (low ++ high).map Char.ofNat

namespace CodePointSet

def beyondAscii (limit : Nat) : List Interval → List Char
  | [] => []
  | iv :: rest =>
      if limit = 0 then []
      else
        let front := charsBetween limit (max iv.first 0x80) iv.last
        front ++ beyondAscii (limit - front.length) rest

def sample (s : CodePointSet) (limit : Nat) : List Char :=
  let ascii := (asciiOrder.filter fun c => s.contains c.toNat).take limit
  ascii ++ beyondAscii (limit - ascii.length) s.intervals.toList

end CodePointSet

end Specimen
