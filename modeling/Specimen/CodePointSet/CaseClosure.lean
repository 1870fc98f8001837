import Specimen.CodePointSet.Basic
import Specimen.Unicode.Case

namespace Specimen.CodePointSet

def insertAlternate (s : CodePointSet) (c : Char) : CodePointSet :=
  match Unicode.Case.alternate? c with
  | some d => s.insert d.toNat
  | none => s

def caseClosure (s : CodePointSet) : CodePointSet :=
  s.intervals.foldl (fun closed iv => (Unicode.Case.swappedIn iv).foldl insertAlternate closed) s

end Specimen.CodePointSet
