namespace Specimen

def maxCodePoint : Nat := 0x10FFFF

structure Interval where
  first : Nat
  last : Nat
  deriving DecidableEq, Repr

namespace Interval

def single (x : Nat) : Interval := ⟨x, x⟩

instance : Membership Nat Interval := ⟨fun iv x => iv.first ≤ x ∧ x ≤ iv.last⟩

theorem mem_def {iv : Interval} {x : Nat} : x ∈ iv ↔ iv.first ≤ x ∧ x ≤ iv.last := Iff.rfl

instance (iv : Interval) (x : Nat) : Decidable (x ∈ iv) :=
  inferInstanceAs (Decidable (iv.first ≤ x ∧ x ≤ iv.last))

theorem mem_single {x y : Nat} : y ∈ single x ↔ y = x := by
  simp only [mem_def, single]
  omega

/-- Compares two intervals; those that overlap or abut count as equal. -/
def mergeCompare (a b : Interval) : Ordering :=
  if a.last + 1 < b.first then .lt
  else if b.last + 1 < a.first then .gt
  else .eq

def compareTo (a : Interval) (x : Nat) : Ordering :=
  if a.last < x then .lt
  else if x < a.first then .gt
  else .eq

theorem compareTo_eq_iff {a : Interval} {x : Nat} : a.compareTo x = .eq ↔ x ∈ a := by
  simp only [compareTo, mem_def]
  split
  · simp; omega
  · split
    · simp; omega
    · simp; omega

def hull (a b : Interval) : Interval :=
  ⟨min a.first b.first, max a.last b.last⟩

def overlap? (a b : Interval) : Option Interval :=
  let first := max a.first b.first
  let last := min a.last b.last
  if first ≤ last then some ⟨first, last⟩ else none

end Interval

end Specimen
