import Specimen.Unicode.TableText
import Specimen.Unicode.Case.Runs
/-!
Case alternates. Two characters alternate when each is the single-character swap of the other, so the
relation is symmetric whatever the swap table holds.
-/

namespace Specimen.Unicode.Case

/-- A run of swaps: `first` goes to `target`, and each further member, `step` apart, as far from its
own target. -/
structure SwapRun where
  first : Nat
  last : Nat
  step : Nat
  target : Nat

def SwapRun.ofWord (word : List Char) : SwapRun :=
  let (source, target) := cut '>' word
  let (range, step) := cut '/' source
  let iv := readInterval range
  ⟨iv.first, iv.last, if step.isEmpty then 1 else hexNumber step, hexNumber target⟩

def SwapRun.pairs (run : SwapRun) : List (Nat × Char) :=
  (List.range ((run.last - run.first) / run.step + 1)).map fun i =>
    (run.first + i * run.step, Char.ofNat (run.target + i * run.step))

def swaps : RunTable Char :=
  ⟨(((words runsText).flatMap fun word => (SwapRun.ofWord word).pairs).mergeSort
    fun a b => a.1 ≤ b.1).toArray⟩

def swap? (c : Char) : Option Char := swaps.find? c.toNat

def alternate? (c : Char) : Option Char :=
  (swap? c).filter fun d => d != c && swap? d == some c

theorem alternate?_eq_some_iff {c d : Char} :
    alternate? c = some d ↔ swap? c = some d ∧ d ≠ c ∧ swap? d = some c := by
  simp [alternate?, Option.filter_eq_some_iff]

theorem alternate?_symm {c d : Char} (h : alternate? c = some d) : alternate? d = some c := by
  rw [alternate?_eq_some_iff] at h ⊢
  exact ⟨h.2.2, h.2.1.symm, h.1⟩

def swappedIn (iv : Interval) : List Char :=
  let range := Search.equalRange swaps.runs fun run => (iv.compareTo run.1).swap
  ((swaps.runs.extract range.start range.stop).toList.filter fun run => run.1.isValidChar).map
    fun run => Char.ofNat run.1

end Specimen.Unicode.Case
