namespace Specimen

structure Limits where
  /-- How many results a character, set, group or alternation may give. -/
  groupResults : Nat
  /-- How many repetitions beyond the least number a repeat may try. -/
  repeatVariance : Nat
  /-- How many results a sequence, a repeat and the whole pattern may give. -/
  totalResults : Nat
  deriving DecidableEq, Repr

def Limits.standard : Limits := ⟨5, 2, 10000⟩

end Specimen
