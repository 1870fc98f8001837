import Specimen.Proofs.Checked.Sets
/-!
The stretch of equal entries by two searches, neither of which meets an entry that is equal. Any search that
ends at the edge of what is less finds the stretch that a scan from the front finds.
-/

namespace Specimen.Search

open Checked (Place ensure fault)

variable {α : Type}

def Sorted (compare : α → Ordering) (xs : List α) : Prop :=
  ∃ low mid high, xs = low ++ mid ++ high ∧ (∀ x ∈ low, compare x = .lt) ∧
    (∀ x ∈ mid, compare x = .eq) ∧ ∀ x ∈ high, compare x = .gt

def scanRange (compare : α → Ordering) (xs : List α) : IndexRange :=
  let low := xs.takeWhile fun x => compare x == .lt
  let mid := (xs.drop low.length).takeWhile fun x => compare x == .eq
  ⟨low.length, low.length + mid.length⟩

/-- What is known of a search by a comparison that calls nothing equal: it ends between two entries, and if
what is less stands in front, behind that. -/
structure FindsEdges (search : List α → (α → Ordering) → Checked Place) : Prop where
  within : ∀ {xs : List α} {compare : α → Ordering}, (∀ x ∈ xs, compare x ≠ .eq) →
    ∃ i ≤ xs.length, search xs compare = .ok (.between i)
  exact : ∀ {low high : List α} {compare : α → Ordering}, (∀ x ∈ low, compare x = .lt) →
    (∀ x ∈ high, compare x = .gt) → search (low ++ high) compare = .ok (.between low.length)

def edge : Place → Checked Nat
  | .between i => return i
  | .found _ => fault .entryFound

def equalRangeBy (search : List α → (α → Ordering) → Checked Place) (xs : List α)
    (compare : α → Ordering) : Checked IndexRange := do
  let start ← edge (← search xs fun x => (compare x).then .gt)
  ensure (start ≤ xs.length) .indexTooLarge
  let length ← edge (← search (xs.drop start) fun x => (compare x).then .lt)
  return ⟨start, start + length⟩

section Ranges

variable {search : List α → (α → Ordering) → Checked Place} {xs low mid high : List α}
  {compare : α → Ordering}

theorem then_ne_eq (compare : α → Ordering) {other : Ordering} (h : other ≠ .eq) (xs : List α) :
    ∀ x ∈ xs, (compare x).then other ≠ .eq := by
  intro x _
  cases compare x with
  | lt => exact nofun
  | eq => exact h
  | gt => exact nofun

theorem equalRangeBy_of_edges {start length : Nat} (hstart : start ≤ xs.length)
    (hlow : search xs (fun x => (compare x).then .gt) = .ok (.between start))
    (hhigh : search (xs.drop start) (fun x => (compare x).then .lt) = .ok (.between length)) :
    equalRangeBy search xs compare = .ok ⟨start, start + length⟩ := by
  have hensure := Checked.ensure_of (f := .indexTooLarge) hstart
  simp only [equalRangeBy, hlow, hhigh, hensure, edge, Checked.ok_bind, Checked.pure_eq]

theorem exists_equalRangeBy (h : FindsEdges search) (xs : List α) (compare : α → Ordering) :
    ∃ range, equalRangeBy search xs compare = .ok range ∧ range.start ≤ range.stop ∧
      range.stop ≤ xs.length := by
  obtain ⟨start, hstart, hlow⟩ := h.within (then_ne_eq compare (show Ordering.gt ≠ .eq by decide) xs)
  obtain ⟨length, hlength, hhigh⟩ :=
    h.within (then_ne_eq compare (show Ordering.lt ≠ .eq by decide) (xs.drop start))
  rw [List.length_drop] at hlength
  refine ⟨_, equalRangeBy_of_edges hstart hlow hhigh, Nat.le_add_right _ _, ?_⟩
  simp only
  omega

theorem takeWhile_append_of_order {order : Ordering} (hlow : ∀ x ∈ low, compare x = order)
    (hhigh : ∀ x ∈ high, compare x ≠ order) :
    (low ++ high).takeWhile (fun x => compare x == order) = low := by
  rw [List.takeWhile_append_of_pos fun x hx => beq_iff_eq.2 (hlow x hx)]
  cases high with
  | nil => rw [List.takeWhile_nil, List.append_nil]
  | cons x rest =>
      have hx : (compare x == order) = false := beq_false_of_ne (hhigh x List.mem_cons_self)
      rw [List.takeWhile_cons, hx]
      exact List.append_nil low

theorem scanRange_append (hlow : ∀ x ∈ low, compare x = .lt) (hmid : ∀ x ∈ mid, compare x = .eq)
    (hhigh : ∀ x ∈ high, compare x = .gt) :
    scanRange compare (low ++ mid ++ high) = ⟨low.length, low.length + mid.length⟩ := by
  have hbehind : ∀ x ∈ mid ++ high, compare x ≠ .lt := by
    intro x hx
    rcases List.mem_append.1 hx with hx | hx
    · simp [hmid x hx]
    · simp [hhigh x hx]
  have hahead : ∀ x ∈ high, compare x ≠ .eq := fun x hx => by simp [hhigh x hx]
  rw [List.append_assoc, scanRange, takeWhile_append_of_order hlow hbehind, List.drop_left]
  simp only [takeWhile_append_of_order hmid hahead]

theorem equalRangeBy_of_sorted (h : FindsEdges search) (hsorted : Sorted compare xs) :
    equalRangeBy search xs compare = .ok (scanRange compare xs) := by
  obtain ⟨low, mid, high, rfl, hlow, hmid, hhigh⟩ := hsorted
  have hstart : search (low ++ mid ++ high) (fun x => (compare x).then .gt) =
      .ok (.between low.length) := by
    rw [List.append_assoc]
    refine h.exact (fun x hx => by rw [hlow x hx]; rfl) fun x hx => ?_
    rcases List.mem_append.1 hx with hx | hx
    · rw [hmid x hx]; rfl
    · rw [hhigh x hx]; rfl
  have hstop : search ((low ++ mid ++ high).drop low.length) (fun x => (compare x).then .lt) =
      .ok (.between mid.length) := by
    rw [List.append_assoc, List.drop_left]
    exact h.exact (fun x hx => by rw [hmid x hx]; rfl) fun x hx => by rw [hhigh x hx]; rfl
  have hlength : low.length ≤ (low ++ mid ++ high).length := by
    rw [List.append_assoc, List.length_append]
    exact Nat.le_add_right _ _
  rw [equalRangeBy_of_edges hlength hstart hstop, scanRange_append hlow hmid hhigh]

theorem compare_iff_of_sorted (hsorted : Sorted compare xs) (i : Nat) (h : i < xs.length) :
    (compare xs[i] = .lt ↔ i < (scanRange compare xs).start) ∧
      (compare xs[i] = .eq ↔ (scanRange compare xs).start ≤ i ∧ i < (scanRange compare xs).stop) ∧
      (compare xs[i] = .gt ↔ (scanRange compare xs).stop ≤ i) := by
  obtain ⟨low, mid, high, rfl, hlow, hmid, hhigh⟩ := hsorted
  rw [scanRange_append hlow hmid hhigh]
  simp only [List.length_append] at h ⊢
  by_cases hi : i < low.length
  · have hget : compare (low ++ mid ++ high)[i] = .lt := by
      simp only [List.append_assoc, List.getElem_append_left hi]
      exact hlow _ (List.getElem_mem hi)
    simp only [hget, reduceCtorEq, false_iff, true_iff]
    omega
  · by_cases hj : i < low.length + mid.length
    · have hget : compare (low ++ mid ++ high)[i] = .eq := by
        rw [List.getElem_append_left (by rwa [List.length_append]),
          List.getElem_append_right (Nat.le_of_not_lt hi)]
        exact hmid _ (List.getElem_mem _)
      simp only [hget, reduceCtorEq, false_iff, true_iff]
      omega
    · have hget : compare (low ++ mid ++ high)[i] = .gt := by
        rw [List.getElem_append_right (by rw [List.length_append]; omega)]
        exact hhigh _ (List.getElem_mem _)
      simp only [hget, reduceCtorEq, false_iff, true_iff]
      omega

end Ranges

section Halving

def halving (xs : List α) (compare : α → Ordering) : Checked Place :=
  Checked.search xs.toArray (fun x => return compare x) xs.length 0 xs.length

variable {xs : List α} {compare : α → Ordering}

theorem halving_eq (h : ∀ x ∈ xs, compare x ≠ .eq) : halving xs compare =
    .ok (.between (bisect xs.toArray (fun x => (compare x).isLT) xs.length 0 xs.length)) := by
  refine Checked.search_eq (fun _ _ => rfl) (fun x hx => ?_) _ _ _
  have hne := h x (List.mem_toArray.1 hx)
  cases horder : compare x with
  | lt => exact .inl rfl
  | eq => exact absurd horder hne
  | gt => exact .inr rfl

theorem halving_findsEdges : FindsEdges (halving (α := α)) := by
  refine ⟨fun h => ⟨_, ?_, halving_eq h⟩, fun {low high compare} hlow hhigh => ?_⟩
  · exact bisect_le _ _ _ _ _ (Nat.zero_le _)
  · have hne : ∀ x ∈ low ++ high, compare x ≠ .eq := by
      intro x hx
      rcases List.mem_append.1 hx with hx | hx
      · simp [hlow x hx]
      · simp [hhigh x hx]
    have hpoint : partitionPoint (low ++ high).toArray (fun x => (compare x).isLT) = low.length :=
      partitionPoint_eq rfl (fun x hx => by simp [hlow x hx]) fun x hx => by simp [hhigh x hx]
    rw [halving_eq hne]
    exact congrArg (fun i => Except.ok (Place.between i)) hpoint

theorem bisect_drop (p : α → Bool) (start steps lo hi : Nat) :
    start + bisect (xs.drop start).toArray p steps lo hi =
      bisect xs.toArray p steps (start + lo) (start + hi) := by
  induction steps generalizing lo hi with
  | zero => rfl
  | succ steps ih =>
      have hmid : start + lo + (start + hi - (start + lo)) / 2 = start + (lo + (hi - lo) / 2) := by
        rw [Nat.add_sub_add_left, Nat.add_assoc]
      simp only [bisect, hmid, Nat.add_lt_add_iff_left, List.size_toArray, List.length_drop,
        List.getElem_toArray, List.getElem_drop, Nat.lt_sub_iff_add_lt']
      split
      · split
        · split
          · exact ih _ _
          · exact ih _ _
        · rfl
      · rfl

theorem equalRangeBy_halving (xs : Array α) (compare : α → Ordering) :
    equalRangeBy halving xs.toList compare = .ok (equalRange xs compare) := by
  have hlt (x : α) : ((compare x).then .gt).isLT = (compare x).isLT := by cases compare x <;> rfl
  have hle (x : α) : ((compare x).then .lt).isLT = (compare x).isLE := by cases compare x <;> rfl
  have hstart := halving_eq (then_ne_eq compare (show Ordering.gt ≠ .eq by decide) xs.toList)
  have hlength := partitionPoint_le xs fun x => (compare x).isLT
  have hstop := halving_eq (then_ne_eq compare (show Ordering.lt ≠ .eq by decide)
    (xs.toList.drop (partitionPoint xs fun x => (compare x).isLT)))
  simp only [hlt] at hstart
  simp only [hle, List.length_drop] at hstop
  rw [← Array.length_toList] at hlength
  rw [equalRangeBy_of_edges hlength hstart hstop, bisect_drop, Nat.add_sub_cancel' hlength]
  rfl

end Halving

theorem equalRange_eq_scan (xs : Array α) (compare : α → Ordering) :
    equalRangeBy halving xs.toList compare = .ok (equalRange xs compare) ∧
      ((equalRange xs compare).start ≤ (equalRange xs compare).stop ∧
        (equalRange xs compare).stop ≤ xs.size) ∧
      (Sorted compare xs.toList → equalRange xs compare = scanRange compare xs.toList ∧
        ∀ i (h : i < xs.size), (compare xs[i] = .lt ↔ i < (equalRange xs compare).start) ∧
          (compare xs[i] = .eq ↔
            (equalRange xs compare).start ≤ i ∧ i < (equalRange xs compare).stop) ∧
          (compare xs[i] = .gt ↔ (equalRange xs compare).stop ≤ i)) ∧
      ∀ search, FindsEdges search →
        (∃ range, equalRangeBy search xs.toList compare = .ok range ∧ range.start ≤ range.stop ∧
          range.stop ≤ xs.size) ∧
        (Sorted compare xs.toList →
          equalRangeBy search xs.toList compare = .ok (equalRange xs compare)) := by
  have hscan (hsorted : Sorted compare xs.toList) :
      equalRange xs compare = scanRange compare xs.toList := by
    have hfound := equalRangeBy_of_sorted halving_findsEdges hsorted
    rw [equalRangeBy_halving] at hfound
    exact Except.ok.inj hfound
  refine ⟨equalRangeBy_halving xs compare, ⟨equalRange_start_le_stop xs compare,
    equalRange_stop_le_size xs compare⟩, fun hsorted => ⟨hscan hsorted, fun i h => ?_⟩,
    fun search hsearch => ⟨exists_equalRangeBy hsearch xs.toList compare, fun hsorted => ?_⟩⟩
  · rw [hscan hsorted]
    exact compare_iff_of_sorted hsorted i h
  · rw [hscan hsorted]
    exact equalRangeBy_of_sorted hsearch hsorted

theorem equalRange_eq_scan_repeated :
    Sorted (fun n => compare n 4) [0, 1, 2, 3, 4, 4, 4, 7, 8, 9, 9] ∧
      FindsEdges (halving (α := Nat)) ∧
      equalRange #[0, 1, 2, 3, 4, 4, 4, 7, 8, 9, 9] (fun n => compare n 4) = ⟨4, 7⟩ ∧
      equalRangeBy halving [0, 1, 2, 3, 4, 4, 4, 7, 8, 9, 9] (fun n => compare n 4) = .ok ⟨4, 7⟩ := by
  have hsorted : Sorted (fun n => compare n 4) [0, 1, 2, 3, 4, 4, 4, 7, 8, 9, 9] :=
    ⟨[0, 1, 2, 3], [4, 4, 4], [7, 8, 9, 9], rfl, by decide, by decide, by decide⟩
  obtain ⟨_, _, hscan, hsearch⟩ :=
    equalRange_eq_scan #[0, 1, 2, 3, 4, 4, 4, 7, 8, 9, 9] (fun n => compare n 4)
  have hrange := (hscan hsorted).1
  have hfound := (hsearch halving halving_findsEdges).2 hsorted
  rw [hrange] at hfound
  exact ⟨hsorted, halving_findsEdges, hrange, hfound⟩

end Specimen.Search
