import Specimen.CodePointSet.Basic

namespace Specimen

namespace Search

variable {α : Type}

theorem bisect_eq {xs : Array α} {p : α → Bool} {k : Nat}
    (hk : ∀ i (h : i < xs.size), p xs[i] = true ↔ i < k) {steps lo hi : Nat}
    (hlo : lo ≤ k) (hkhi : k ≤ hi) (hhi : hi ≤ xs.size) (hsteps : hi - lo ≤ steps) :
    bisect xs p steps lo hi = k := by
  induction steps generalizing lo hi with
  | zero =>
      simp only [bisect]
      omega
  | succ steps ih =>
      simp only [bisect]
      split
      · next hlt =>
          have hmid : lo + (hi - lo) / 2 < xs.size := by omega
          rw [dif_pos hmid]
          split
          · next hp =>
              have := (hk _ hmid).1 hp
              exact ih (by omega) hkhi hhi (by omega)
          · next hp =>
              have : ¬ lo + (hi - lo) / 2 < k := fun hlt => hp ((hk _ hmid).2 hlt)
              exact ih hlo (by omega) (by omega) (by omega)
      · omega

theorem holds_iff_lt {xs : Array α} {p : α → Bool} {front back : List α}
    (h : xs.toList = front ++ back) (hfront : ∀ x ∈ front, p x = true)
    (hback : ∀ x ∈ back, p x = false) (i : Nat) (hi : i < xs.size) :
    p xs[i] = true ↔ i < front.length := by
  obtain ⟨xs⟩ := xs
  obtain rfl : xs = front ++ back := h
  rw [List.getElem_toArray]
  constructor
  · intro hp
    refine Nat.lt_of_not_le fun hge => ?_
    rw [List.getElem_append_right hge, hback _ (List.getElem_mem _)] at hp
    cases hp
  · intro hlt
    rw [List.getElem_append_left hlt]
    exact hfront _ (List.getElem_mem _)

theorem partitionPoint_eq {xs : Array α} {p : α → Bool} {front back : List α}
    (h : xs.toList = front ++ back) (hfront : ∀ x ∈ front, p x = true)
    (hback : ∀ x ∈ back, p x = false) : partitionPoint xs p = front.length := by
  have hsize : xs.size = front.length + back.length := by
    rw [← Array.length_toList, h, List.length_append]
  exact bisect_eq (holds_iff_lt h hfront hback) (Nat.zero_le _) (by omega) (Nat.le_refl _) (by omega)

theorem equalRange_eq {xs : Array α} {compare : α → Ordering} {low mid high : List α}
    (h : xs.toList = low ++ mid ++ high) (hlow : ∀ x ∈ low, compare x = .lt)
    (hmid : ∀ x ∈ mid, compare x = .eq) (hhigh : ∀ x ∈ high, compare x = .gt) :
    equalRange xs compare = ⟨low.length, low.length + mid.length⟩ := by
  have hsize : xs.size = low.length + mid.length + high.length := by
    rw [← Array.length_toList, h, List.length_append, List.length_append]
  have hstart : partitionPoint xs (fun x => (compare x).isLT) = low.length := by
    rw [List.append_assoc] at h
    refine partitionPoint_eq h ?_ ?_
    · intro x hx
      simp [hlow x hx]
    · intro x hx
      rcases List.mem_append.1 hx with hx | hx
      · simp [hmid x hx]
      · simp [hhigh x hx]
  have hstop : partitionPointFrom xs (fun x => (compare x).isLE) low.length =
      low.length + mid.length := by
    have hle := holds_iff_lt (p := fun x => (compare x).isLE) h
      (fun x hx => by
        rcases List.mem_append.1 hx with hx | hx
        · simp [hlow x hx]
        · simp [hmid x hx])
      (fun x hx => by simp [hhigh x hx])
    rw [List.length_append] at hle
    exact bisect_eq hle (Nat.le_add_right _ _) (by omega) (Nat.le_refl _) (by omega)
  simp only [equalRange, hstart, hstop]

theorem split_by_compare {xs : List α} {compare : α → Ordering}
    (h : xs.Pairwise fun a b =>
      (compare b = .lt → compare a = .lt) ∧ (compare a = .gt → compare b = .gt)) :
    ∃ low mid high, xs = low ++ mid ++ high ∧ (∀ x ∈ low, compare x = .lt) ∧
      (∀ x ∈ mid, compare x = .eq) ∧ ∀ x ∈ high, compare x = .gt := by
  induction xs with
  | nil => exact ⟨[], [], [], by simp⟩
  | cons a rest ih =>
      obtain ⟨hfirst, hrest⟩ := List.pairwise_cons.1 h
      obtain ⟨low, mid, high, rfl, hlow, hmid, hhigh⟩ := ih hrest
      cases ha : compare a with
      | lt => exact ⟨a :: low, mid, high, rfl, List.forall_mem_cons.2 ⟨ha, hlow⟩, hmid, hhigh⟩
      | eq =>
          have hnil : low = [] := by
            refine List.eq_nil_iff_forall_not_mem.2 fun b hb => ?_
            have := (hfirst b (by simp [hb])).1 (hlow b hb)
            rw [ha] at this
            cases this
          subst hnil
          exact ⟨[], a :: mid, high, rfl, by simp, List.forall_mem_cons.2 ⟨ha, hmid⟩, hhigh⟩
      | gt =>
          refine ⟨[], [], a :: (low ++ mid ++ high), rfl, by simp, by simp, ?_⟩
          exact List.forall_mem_cons.2 ⟨ha, fun b hb => (hfirst b hb).2 ha⟩

end Search

namespace Interval

variable {a b : Interval}

theorem mergeCompare_eq_lt_iff : a.mergeCompare b = .lt ↔ a.last + 1 < b.first := by
  simp only [mergeCompare]
  split
  · simp [*]
  · split <;> simp [*]

theorem mergeCompare_eq_gt_iff :
    a.mergeCompare b = .gt ↔ ¬ a.last + 1 < b.first ∧ b.last + 1 < a.first := by
  simp only [mergeCompare]
  split
  · simp [*]
  · split <;> simp [*]

theorem mergeCompare_eq_eq_iff :
    a.mergeCompare b = .eq ↔ b.first ≤ a.last + 1 ∧ a.first ≤ b.last + 1 := by
  simp only [mergeCompare]
  split
  · simp only [reduceCtorEq, false_iff]
    omega
  · split
    · simp only [reduceCtorEq, false_iff]
      omega
    · simp only [true_iff]
      omega

end Interval

namespace CodePointSet

def Apart (ivs : List Interval) : Prop :=
  ivs.Pairwise fun a b => a.last + 1 < b.first

def Bounded (ivs : List Interval) : Prop :=
  ∀ iv ∈ ivs, iv.first ≤ iv.last ∧ iv.last ≤ maxCodePoint

theorem wellFormed_iff {s : CodePointSet} :
    s.WellFormed ↔ Bounded s.intervals.toList ∧ Apart s.intervals.toList := by
  constructor
  · intro h
    exact ⟨fun iv hiv => h.bounded iv (Array.mem_toList_iff.1 hiv), h.apart⟩
  · intro h
    exact ⟨fun iv hiv => h.1 iv (Array.mem_toList_iff.2 hiv), h.2⟩

theorem wellFormed_ofIntervals {ivs : List Interval} (hb : Bounded ivs) (ha : Apart ivs) :
    (ofIntervals ivs).WellFormed :=
  wellFormed_iff.2 ⟨hb, ha⟩

theorem split_by_mergeCompare {ivs : List Interval} (hb : Bounded ivs) (ha : Apart ivs)
    (iv : Interval) : ∃ low mid high, ivs = low ++ mid ++ high ∧
      (∀ a ∈ low, a.mergeCompare iv = .lt) ∧ (∀ a ∈ mid, a.mergeCompare iv = .eq) ∧
      ∀ a ∈ high, a.mergeCompare iv = .gt := by
  refine Search.split_by_compare (ha.imp_of_mem fun {a b} hamem hbmem hgap => ?_)
  have := (hb a hamem).1
  have := (hb b hbmem).1
  simp only [Interval.mergeCompare_eq_lt_iff, Interval.mergeCompare_eq_gt_iff]
  omega

end CodePointSet

end Specimen
