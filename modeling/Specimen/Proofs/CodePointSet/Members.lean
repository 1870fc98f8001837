import Specimen.Proofs.CodePointSet.Offered

namespace Specimen

def Covered (ivs : List Interval) (x : Nat) : Prop := ∃ iv ∈ ivs, x ∈ iv

section Covered

variable {iv : Interval} {front back rest : List Interval} {x : Nat}

theorem not_covered_nil : ¬ Covered [] x := by
  rintro ⟨iv, hiv, _⟩
  cases hiv

theorem covered_cons : Covered (iv :: rest) x ↔ x ∈ iv ∨ Covered rest x := by
  simp only [Covered, List.mem_cons, or_and_right, exists_or, exists_eq_left]

theorem covered_append : Covered (front ++ back) x ↔ Covered front x ∨ Covered back x := by
  induction front with
  | nil => simp only [List.nil_append, not_covered_nil, false_or]
  | cons iv rest ih => simp only [List.cons_append, covered_cons, ih, or_assoc]

end Covered

namespace CodePointSet

theorem mem_iff_covered {s : CodePointSet} {x : Nat} : x ∈ s ↔ Covered s.intervals.toList x := by
  simp only [mem_def, Covered, Array.mem_toList_iff]

theorem mem_ofIntervals {ivs : List Interval} {x : Nat} : x ∈ ofIntervals ivs ↔ Covered ivs x :=
  mem_iff_covered

theorem Bounded.tail {iv : Interval} {rest : List Interval} (h : Bounded (iv :: rest)) :
    Bounded rest :=
  fun other hother => h other (List.mem_cons_of_mem iv hother)

theorem mem_hull {a b : Interval} (htouch : b.first ≤ a.last + 1 ∧ a.first ≤ b.last + 1) (x : Nat) :
    x ∈ a.hull b ↔ x ∈ a ∨ x ∈ b := by
  simp only [Interval.mem_def, Interval.hull]
  omega

theorem mem_foldl_hull {mid : List Interval} {iv : Interval}
    (htouch : ∀ a ∈ mid, a.first ≤ iv.last + 1 ∧ iv.first ≤ a.last + 1) (x : Nat) :
    x ∈ mid.foldl Interval.hull iv ↔ x ∈ iv ∨ Covered mid x := by
  induction mid generalizing iv with
  | nil => simp only [List.foldl_nil, not_covered_nil, or_false]
  | cons a rest ih =>
      -- What touches the interval touches the hull, which is no smaller.
      have hgrown : ∀ b ∈ rest,
          b.first ≤ (iv.hull a).last + 1 ∧ (iv.hull a).first ≤ b.last + 1 := by
        intro b hb
        have := htouch b (List.mem_cons_of_mem a hb)
        simp only [Interval.hull]
        omega
      rw [List.foldl_cons, ih hgrown, mem_hull (htouch a List.mem_cons_self), covered_cons, or_assoc]

theorem mem_insertInterval {s : CodePointSet} (hs : s.WellFormed) (iv : Interval) (x : Nat) :
    x ∈ s.insertInterval iv ↔ x ∈ s ∨ x ∈ iv := by
  obtain ⟨hb, ha⟩ := wellFormed_iff.1 hs
  obtain ⟨low, mid, high, h, hlow, hmid, hhigh⟩ := split_by_mergeCompare hb ha iv
  have htouch : ∀ a ∈ mid, a.first ≤ iv.last + 1 ∧ iv.first ≤ a.last + 1 := by
    intro a hmem
    exact (Interval.mergeCompare_eq_eq_iff.1 (hmid a hmem)).symm
  rw [mem_iff_covered, mem_iff_covered, toList_insertInterval h hlow hmid hhigh, h, covered_append,
    covered_cons, mem_foldl_hull htouch, covered_append, covered_append]
  grind

theorem mem_foldl_insertInterval {ivs : List Interval} (hivs : Bounded ivs) {s : CodePointSet}
    (hs : s.WellFormed) (x : Nat) :
    x ∈ ivs.foldl insertInterval s ↔ x ∈ s ∨ Covered ivs x := by
  induction ivs generalizing s with
  | nil => simp only [List.foldl_nil, not_covered_nil, or_false]
  | cons iv rest ih =>
      obtain ⟨hle, hmax⟩ := hivs iv List.mem_cons_self
      rw [List.foldl_cons, ih hivs.tail (insertInterval_wellFormed hs hle hmax),
        mem_insertInterval hs, covered_cons, or_assoc]

theorem covered_gaps {ivs : List Interval} (hb : Bounded ivs) (ha : Apart ivs) {start : Nat}
    (hstart : ∀ iv ∈ ivs, start ≤ iv.first) (x : Nat) :
    Covered (gaps start ivs) x ↔ (start ≤ x ∧ x ≤ maxCodePoint) ∧ ¬ Covered ivs x := by
  induction ivs generalizing start with
  | nil =>
      simp only [gaps]
      split
      · simp only [covered_cons, not_covered_nil, or_false, Interval.mem_def, not_false_eq_true,
          and_true]
      · simp only [not_covered_nil, false_iff]
        omega
  | cons iv rest ih =>
      obtain ⟨hafter, hrest⟩ := List.pairwise_cons.1 ha
      obtain ⟨hle, hmax⟩ := hb iv List.mem_cons_self
      have hfrom := hstart iv List.mem_cons_self
      have hnext : ∀ b ∈ rest, iv.last + 1 ≤ b.first := fun b hmem => Nat.le_of_lt (hafter b hmem)
      have hbehind : Covered rest x → iv.last + 1 ≤ x := by
        rintro ⟨b, hmem, hx⟩
        exact Nat.le_trans (hnext b hmem) hx.1
      have hgaps := ih hb.tail hrest hnext
      have hgap : start < iv.first → (x ∈ (⟨start, iv.first - 1⟩ : Interval) ↔
          start ≤ x ∧ x < iv.first) := by
        intro hlt
        simp only [Interval.mem_def]
        omega
      simp only [gaps]
      split
      · next hlt =>
          rw [covered_cons, hgap hlt, hgaps, covered_cons, Interval.mem_def]
          grind
      · rw [hgaps, covered_cons, Interval.mem_def]
        grind

theorem covered_overlap? {a b : Interval} {x : Nat} :
    Covered (a.overlap? b).toList x ↔ x ∈ a ∧ x ∈ b := by
  simp only [Interval.overlap?]
  split
  · simp only [Option.toList_some, covered_cons, not_covered_nil, or_false, Interval.mem_def]
    omega
  · simp only [Option.toList_none, not_covered_nil, false_iff, Interval.mem_def]
    omega

theorem lt_of_covered {iv : Interval} {rest : List Interval} (ha : Apart (iv :: rest)) {x : Nat}
    (hx : Covered rest x) : iv.last + 1 < x := by
  obtain ⟨other, hother, hmem⟩ := hx
  exact Nat.lt_of_lt_of_le ((List.pairwise_cons.1 ha).1 other hother) hmem.1

theorem covered_overlaps {as bs : List Interval} (ha : Apart as) (hb : Apart bs) (x : Nat) :
    Covered (overlaps as bs) x ↔ Covered as x ∧ Covered bs x := by
  fun_induction overlaps as bs with
  | case1 => simp only [not_covered_nil, false_and]
  | case2 => simp only [not_covered_nil, and_false]
  | case3 a as b bs ihleft ihright =>
      have haway := lt_of_covered (x := x) ha
      have hbway := lt_of_covered (x := x) hb
      rw [covered_append, covered_overlap?]
      -- The interval that ends first meets nothing behind the other one.
      split
      · next hlt =>
          rw [ihleft (List.pairwise_cons.1 ha).2 hb, covered_cons, covered_cons]
          simp only [Interval.mem_def]
          grind
      · next hge =>
          rw [ihright ha (List.pairwise_cons.1 hb).2, covered_cons, covered_cons]
          simp only [Interval.mem_def]
          grind

theorem covered_cover {n : Nat} {above : List Interval} (hb : Bounded above) (x : Nat) :
    Covered (cover n above) x ↔ x = n ∨ Covered above x := by
  fun_cases cover n above with
  | case1 => simp only [covered_cons, Interval.mem_single]
  | case2 iv rest hnext =>
      have := (hb iv List.mem_cons_self).1
      have hgrown : x ∈ (⟨n, iv.last⟩ : Interval) ↔ x = n ∨ x ∈ iv := by
        simp only [Interval.mem_def]
        omega
      rw [covered_cons, covered_cons, hgrown, or_assoc]
  | case3 iv rest hnext => simp only [covered_cons, Interval.mem_single]

theorem covered_collect {p : Nat → Bool} {n : Nat} {above : List Interval}
    (hn : n ≤ maxCodePoint + 1) (hb : Bounded above) (ha : Apart above)
    (habove : ∀ iv ∈ above, n ≤ iv.first) (x : Nat) :
    Covered (collect p n above) x ↔ x < n ∧ p x = true ∨ Covered above x := by
  induction n generalizing above with
  | zero => simp only [collect, Nat.not_lt_zero, false_and, false_or]
  | succ n ih =>
      rw [collect]
      split
      · next hp =>
          obtain ⟨hbounded, hapart, hlow⟩ := cover_wellFormed (by omega) hb ha habove
          rw [ih (by omega) hbounded hapart hlow, covered_cover hb, ← or_assoc]
          refine or_congr ?_ Iff.rfl
          constructor
          · rintro (⟨hx, hpx⟩ | rfl)
            · exact ⟨by omega, hpx⟩
            · exact ⟨by omega, hp⟩
          · rintro ⟨hx, hpx⟩
            by_cases heq : x = n
            · exact .inr heq
            · exact .inl ⟨by omega, hpx⟩
      · next hp =>
          rw [ih (by omega) hb ha fun iv hiv => Nat.le_of_succ_le (habove iv hiv)]
          refine or_congr ?_ Iff.rfl
          constructor
          · rintro ⟨hx, hpx⟩
            exact ⟨by omega, hpx⟩
          · rintro ⟨hx, hpx⟩
            have hne : x ≠ n := by
              rintro rfl
              exact hp hpx
            exact ⟨by omega, hpx⟩

structure Holds (s : CodePointSet) (P : Nat → Prop) : Prop where
  wellFormed : s.WellFormed
  mem_iff (x : Nat) : x ∈ s ↔ P x

namespace Holds

variable {s t : CodePointSet} {P Q : Nat → Prop}

theorem members (h : s.WellFormed) : s.Holds (· ∈ s) := ⟨h, fun _ => Iff.rfl⟩

theorem of_iff (h : s.Holds P) (hiff : ∀ x, Q x ↔ P x) : s.Holds Q :=
  ⟨h.wellFormed, fun x => (h.mem_iff x).trans (hiff x).symm⟩

theorem empty : (∅ : CodePointSet).Holds fun _ => False := by
  refine ⟨empty_wellFormed, fun x => ?_⟩
  simp only [not_mem_empty]

theorem insertInterval (h : s.Holds P) {iv : Interval} (hle : iv.first ≤ iv.last)
    (hmax : iv.last ≤ maxCodePoint) : (s.insertInterval iv).Holds fun x => P x ∨ x ∈ iv := by
  refine ⟨insertInterval_wellFormed h.wellFormed hle hmax, fun x => ?_⟩
  rw [mem_insertInterval h.wellFormed, h.mem_iff]

theorem insert (h : s.Holds P) {y : Nat} (hmax : y ≤ maxCodePoint) :
    (s.insert y).Holds fun x => P x ∨ x = y := by
  have hinserted : (s.insertInterval (.single y)).Holds fun x => P x ∨ x ∈ Interval.single y :=
    h.insertInterval (Nat.le_refl y) hmax
  refine hinserted.of_iff fun x => ?_
  rw [Interval.mem_single]

theorem union (hs : s.Holds P) (ht : t.Holds Q) : (s.union t).Holds fun x => P x ∨ Q x := by
  have hadded {a b : CodePointSet} (ha : a.WellFormed) (hb : b.WellFormed) (x : Nat) :
      x ∈ b.intervals.foldl CodePointSet.insertInterval a ↔ x ∈ a ∨ x ∈ b := by
    rw [← Array.foldl_toList, mem_foldl_insertInterval (wellFormed_iff.1 hb).1 ha,
      mem_iff_covered (s := b)]
  refine ⟨union_wellFormed hs.wellFormed ht.wellFormed, fun x => ?_⟩
  rw [CodePointSet.union, ← hs.mem_iff, ← ht.mem_iff]
  split
  · rw [hadded ht.wellFormed hs.wellFormed, or_comm]
  · exact hadded hs.wellFormed ht.wellFormed x

theorem complement (h : s.Holds P) : s.complement.Holds fun x => x ≤ maxCodePoint ∧ ¬ P x := by
  obtain ⟨hb, ha⟩ := wellFormed_iff.1 h.wellFormed
  refine ⟨complement_wellFormed h.wellFormed, fun x => ?_⟩
  rw [CodePointSet.complement, mem_ofIntervals, covered_gaps hb ha fun iv _ => Nat.zero_le iv.first,
    ← mem_iff_covered, h.mem_iff]
  simp only [Nat.zero_le, true_and]

theorem inter (hs : s.Holds P) (ht : t.Holds Q) : (s.inter t).Holds fun x => P x ∧ Q x := by
  refine ⟨inter_wellFormed hs.wellFormed ht.wellFormed, fun x => ?_⟩
  rw [CodePointSet.inter, mem_ofIntervals,
    covered_overlaps (wellFormed_iff.1 hs.wellFormed).2 (wellFormed_iff.1 ht.wellFormed).2,
    ← mem_iff_covered, ← mem_iff_covered, hs.mem_iff, ht.mem_iff]

theorem ofPredicate (p : Char → Bool) :
    (CodePointSet.ofPredicate p).Holds fun x => ∃ c : Char, c.toNat = x ∧ p c = true := by
  refine ⟨ofPredicate_wellFormed p, fun x => ?_⟩
  have hcollect (valid : Nat → Bool) : x ∈ ofIntervals (collect valid (maxCodePoint + 1) []) ↔
      x < maxCodePoint + 1 ∧ valid x = true := by
    rw [mem_ofIntervals, covered_collect (Nat.le_refl _) (by simp [Bounded]) .nil (by simp)]
    simp only [not_covered_nil, or_false]
  rw [CodePointSet.ofPredicate, hcollect]
  constructor
  · rintro ⟨_, hx⟩
    split at hx
    · next hvalid => exact ⟨Char.ofNat x, toNat_ofNat hvalid, hx⟩
    · cases hx
  · rintro ⟨c, rfl, hp⟩
    have hvalid : c.toNat.isValidChar := c.valid
    rw [if_pos hvalid, Char.ofNat_toNat]
    exact ⟨Nat.lt_succ_of_le (toNat_le_maxCodePoint c), hp⟩

end Holds

end CodePointSet

end Specimen
