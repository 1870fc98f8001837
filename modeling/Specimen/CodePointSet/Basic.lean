import Specimen.Search.EqualRange
import Specimen.CodePointSet.Interval
/-!
Sets of code points as sorted intervals with a gap between any two, searched by halving.
-/

namespace Specimen

structure CodePointSet where
  intervals : Array Interval
  deriving DecidableEq, Repr

namespace CodePointSet

instance : EmptyCollection CodePointSet := ⟨⟨#[]⟩⟩

instance : Inhabited CodePointSet := ⟨∅⟩

instance : Membership Nat CodePointSet := ⟨fun s x => ∃ iv ∈ s.intervals, x ∈ iv⟩

theorem mem_def {s : CodePointSet} {x : Nat} : x ∈ s ↔ ∃ iv ∈ s.intervals, x ∈ iv := Iff.rfl

theorem not_mem_empty (x : Nat) : ¬ x ∈ (∅ : CodePointSet) := by
  rintro ⟨iv, h, _⟩
  exact absurd h (Array.not_mem_empty iv)

structure WellFormed (s : CodePointSet) : Prop where
  bounded : ∀ iv ∈ s.intervals, iv.first ≤ iv.last ∧ iv.last ≤ maxCodePoint
  apart : s.intervals.toList.Pairwise fun a b => a.last + 1 < b.first

def ofIntervals (ivs : List Interval) : CodePointSet := ⟨ivs.toArray⟩

def isEmpty (s : CodePointSet) : Bool := s.intervals.isEmpty

def contains (s : CodePointSet) (x : Nat) : Bool :=
  match s.intervals[Search.partitionPoint s.intervals fun iv => iv.last < x]? with
  | some iv => iv.first ≤ x
  | none => false

def insertInterval (s : CodePointSet) (iv : Interval) : CodePointSet :=
  let merged := Search.equalRange s.intervals (·.mergeCompare iv)
  let hull := (s.intervals.extract merged.start merged.stop).foldl Interval.hull iv
  ⟨s.intervals.extract 0 merged.start ++ #[hull] ++
    s.intervals.extract merged.stop s.intervals.size⟩

def insert (s : CodePointSet) (x : Nat) : CodePointSet :=
  s.insertInterval (.single x)

def union (s t : CodePointSet) : CodePointSet :=
  if s.intervals.size < t.intervals.size then s.intervals.foldl insertInterval t
  else t.intervals.foldl insertInterval s

def gaps (start : Nat) : List Interval → List Interval
  | [] => if start ≤ maxCodePoint then [⟨start, maxCodePoint⟩] else []
  | iv :: rest =>
      if start < iv.first then ⟨start, iv.first - 1⟩ :: gaps (iv.last + 1) rest
      else gaps (iv.last + 1) rest

def complement (s : CodePointSet) : CodePointSet :=
  ofIntervals (gaps 0 s.intervals.toList)

def overlaps : List Interval → List Interval → List Interval
  | [], _ => []
  | _ :: _, [] => []
  | a :: as, b :: bs =>
      (a.overlap? b).toList ++
        if a.last < b.last then overlaps as (b :: bs) else overlaps (a :: as) bs
termination_by as bs => as.length + bs.length

def inter (s t : CodePointSet) : CodePointSet :=
  ofIntervals (overlaps s.intervals.toList t.intervals.toList)

/-- Puts `x` in front of sorted intervals that all lie above it. -/
def cover (x : Nat) : List Interval → List Interval
  | [] => [.single x]
  | iv :: rest => if iv.first = x + 1 then ⟨x, iv.last⟩ :: rest else .single x :: iv :: rest

/-- Adds the numbers below `n` that satisfy `p` to intervals that lie at or above `n`. -/
@[specialize]
def collect (p : Nat → Bool) : (n : Nat) → List Interval → List Interval
  | 0, above => above
  | n + 1, above => collect p n (if p n then cover n above else above)

@[inline]
def ofPredicate (p : Char → Bool) : CodePointSet :=
  ofIntervals <| collect (fun n => if n.isValidChar then p (Char.ofNat n) else false)
    (maxCodePoint + 1) []

end CodePointSet

end Specimen
