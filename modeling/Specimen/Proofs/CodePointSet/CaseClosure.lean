import Specimen.Proofs.CodePointSet.Members
/-!
The case closure visits only the characters that the table of swaps knows, found by a search in it. Since
the table is sorted, no character with an alternate is missed.
-/

namespace Specimen

namespace Unicode.Case

theorem swaps_sorted : swaps.runs.toList.Pairwise fun a b => a.1 ≤ b.1 := by
  rw [swaps]
  generalize ((words runsText).flatMap fun word => (SwapRun.ofWord word).pairs) = pairs
  have hsorted : (pairs.mergeSort fun a b => decide (a.1 ≤ b.1)).Pairwise fun a b =>
      decide (a.1 ≤ b.1) = true := by
    refine List.pairwise_mergeSort (fun a b c hab hbc => ?_) (fun a b => ?_) pairs
    · simp only [decide_eq_true_eq] at hab hbc ⊢
      exact Nat.le_trans hab hbc
    · simp only [Bool.or_eq_true, decide_eq_true_eq]
      exact Nat.le_total a.1 b.1
  exact hsorted.imp of_decide_eq_true

variable {c d : Char} {iv : Interval}

theorem compareTo_swap_eq_lt_iff {x : Nat} :
    (iv.compareTo x).swap = .lt ↔ ¬ iv.last < x ∧ x < iv.first := by
  simp only [Interval.compareTo]
  split
  · simp [*]
  · split <;> simp [*]

theorem compareTo_swap_eq_gt_iff {x : Nat} : (iv.compareTo x).swap = .gt ↔ iv.last < x := by
  simp only [Interval.compareTo]
  split
  · simp [*]
  · split <;> simp [*]

theorem mem_swappedIn : c ∈ swappedIn iv ↔ c.toNat ∈ iv ∧ ∃ d, (c.toNat, d) ∈ swaps.runs := by
  have hordered : swaps.runs.toList.Pairwise fun a b =>
      ((iv.compareTo b.1).swap = .lt → (iv.compareTo a.1).swap = .lt) ∧
        ((iv.compareTo a.1).swap = .gt → (iv.compareTo b.1).swap = .gt) := by
    refine swaps_sorted.imp fun {a b} hle => ?_
    simp only [compareTo_swap_eq_lt_iff, compareTo_swap_eq_gt_iff]
    omega
  obtain ⟨low, mid, high, hsplit, hlow, hmid, hhigh⟩ := Search.split_by_compare hordered
  have hrange := Search.equalRange_eq hsplit hlow hmid hhigh
  have hruns : swaps.runs = (low ++ mid ++ high).toArray := by rw [← hsplit, Array.toArray_toList]
  have hfound : (swaps.runs.extract low.length (low.length + mid.length)).toList = mid := by
    simp [hruns, List.extract_eq_take_drop]
  have hmem : ∀ run, run ∈ mid ↔ run ∈ swaps.runs ∧ run.1 ∈ iv := by
    intro run
    rw [← Array.mem_toList_iff, hsplit, ← Interval.compareTo_eq_iff, ← Ordering.swap_eq_eq]
    constructor
    · intro hrun
      exact ⟨by simp [hrun], hmid run hrun⟩
    · rintro ⟨hrun, heq⟩
      simp only [List.mem_append] at hrun
      rcases hrun with (hrun | hrun) | hrun
      · exact absurd (heq.symm.trans (hlow run hrun)) (by decide)
      · exact hrun
      · exact absurd (heq.symm.trans (hhigh run hrun)) (by decide)
  simp only [swappedIn, hrange, hfound, List.mem_map, List.mem_filter, decide_eq_true_eq, hmem]
  constructor
  · rintro ⟨⟨n, d⟩, ⟨⟨hrun, hn⟩, hvalid⟩, rfl⟩
    rw [toNat_ofNat hvalid]
    exact ⟨hn, d, hrun⟩
  · rintro ⟨hc, d, hrun⟩
    exact ⟨(c.toNat, d), ⟨⟨hrun, hc⟩, c.valid⟩, Char.ofNat_toNat c⟩

theorem mem_swappedIn_of_alternate? (h : alternate? c = some d) :
    c ∈ swappedIn iv ↔ c.toNat ∈ iv := by
  have hswap : swap? c = some d := (alternate?_eq_some_iff.1 h).1
  rw [mem_swappedIn]
  exact and_iff_left ⟨d, RunTable.mem_of_find? hswap⟩

end Unicode.Case

namespace CodePointSet.Holds

variable {s : CodePointSet} {P : Nat → Prop}

theorem insertAlternate (h : s.Holds P) (c : Char) : (s.insertAlternate c).Holds fun x =>
    P x ∨ ∃ d, Unicode.Case.alternate? c = some d ∧ d.toNat = x := by
  rw [insertAlternate_eq]
  simp only
  cases halternate : Unicode.Case.alternate? c with
  | none => exact h.of_iff fun x => by simp
  | some d =>
      refine (h.insert (toNat_le_maxCodePoint d)).of_iff fun x => ?_
      simp only [Option.some.injEq, exists_eq_left', eq_comm]

theorem insertAlternates (h : s.Holds P) (cs : List Char) :
    (cs.foldl CodePointSet.insertAlternate s).Holds fun x =>
      P x ∨ ∃ c ∈ cs, ∃ d, Unicode.Case.alternate? c = some d ∧ d.toNat = x := by
  induction cs generalizing s P with
  | nil => exact h.of_iff fun x => by simp
  | cons c rest ih =>
      rw [List.foldl_cons]
      refine (ih (h.insertAlternate c)).of_iff fun x => ?_
      simp only [List.mem_cons, exists_eq_or_imp, or_assoc]

theorem insertSwapped (h : s.Holds P) (ivs : List Interval) :
    (ivs.foldl (fun closed iv =>
      (Unicode.Case.swappedIn iv).foldl CodePointSet.insertAlternate closed) s).Holds fun x =>
        P x ∨ ∃ c d, Covered ivs c.toNat ∧ Unicode.Case.alternate? c = some d ∧ d.toNat = x := by
  induction ivs generalizing s P with
  | nil => exact h.of_iff fun x => by simp only [not_covered_nil, false_and, exists_false, or_false]
  | cons iv rest ih =>
      rw [List.foldl_cons]
      refine (ih (h.insertAlternates _)).of_iff fun x => ?_
      rw [or_assoc]
      refine or_congr Iff.rfl ⟨?_, ?_⟩
      · rintro ⟨c, d, hc, hd, hx⟩
        rcases covered_cons.1 hc with hc | hc
        · exact .inl ⟨c, (Unicode.Case.mem_swappedIn_of_alternate? hd).2 hc, d, hd, hx⟩
        · exact .inr ⟨c, d, hc, hd, hx⟩
      · rintro (⟨c, hc, d, hd, hx⟩ | ⟨c, d, hc, hd, hx⟩)
        · have hin := (Unicode.Case.mem_swappedIn_of_alternate? hd).1 hc
          exact ⟨c, d, covered_cons.2 (.inl hin), hd, hx⟩
        · exact ⟨c, d, covered_cons.2 (.inr hc), hd, hx⟩

theorem caseClosure (h : s.Holds P) : s.caseClosure.Holds fun x =>
    P x ∨ ∃ c d : Char, P c.toNat ∧ Unicode.Case.alternate? c = some d ∧ d.toNat = x := by
  rw [CodePointSet.caseClosure, ← Array.foldl_toList]
  refine (h.insertSwapped s.intervals.toList).of_iff fun x => ?_
  simp only [← mem_iff_covered, h.mem_iff]

end CodePointSet.Holds

end Specimen
