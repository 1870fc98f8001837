/-!
Binary search in an array. `partitionPoint` is the place where a predicate that holds on a front part
turns false; `equalRange` is the stretch of entries that a comparison calls equal.
-/

namespace Specimen.Search

variable {α : Type}

@[specialize]
def bisect (xs : Array α) (p : α → Bool) : (steps lo hi : Nat) → Nat
  | 0, lo, _ => lo
  | steps + 1, lo, hi =>
      if lo < hi then
        let mid := lo + (hi - lo) / 2
        if h : mid < xs.size then
          if p xs[mid] then bisect xs p steps (mid + 1) hi else bisect xs p steps lo mid
        else lo
      else lo

theorem le_bisect (xs : Array α) (p : α → Bool) (steps lo hi : Nat) :
    lo ≤ bisect xs p steps lo hi := by
  fun_induction bisect xs p steps lo hi <;> grind

theorem bisect_le (xs : Array α) (p : α → Bool) (steps lo hi : Nat) (h : lo ≤ hi) :
    bisect xs p steps lo hi ≤ hi := by
  fun_induction bisect xs p steps lo hi <;> grind

@[inline]
def partitionPointFrom (xs : Array α) (p : α → Bool) (start : Nat) : Nat :=
  bisect xs p (xs.size - start) start xs.size

@[inline]
def partitionPoint (xs : Array α) (p : α → Bool) : Nat :=
  partitionPointFrom xs p 0

theorem partitionPoint_le (xs : Array α) (p : α → Bool) : partitionPoint xs p ≤ xs.size :=
  bisect_le xs p _ 0 xs.size (Nat.zero_le _)

structure IndexRange where
  start : Nat
  stop : Nat
  deriving DecidableEq, Repr

@[inline]
def equalRange (xs : Array α) (compare : α → Ordering) : IndexRange :=
  let start := partitionPoint xs fun x => (compare x).isLT
  ⟨start, partitionPointFrom xs (fun x => (compare x).isLE) start⟩

theorem equalRange_start_le_stop (xs : Array α) (compare : α → Ordering) :
    (equalRange xs compare).start ≤ (equalRange xs compare).stop :=
  le_bisect xs _ _ _ _

theorem equalRange_stop_le_size (xs : Array α) (compare : α → Ordering) :
    (equalRange xs compare).stop ≤ xs.size :=
  bisect_le xs _ _ _ _ (partitionPoint_le xs _)

end Specimen.Search
