import Specimen.CodePointSet.CaseClosure
import Specimen.CodePointSet.Class
import Specimen.Proofs.CodePointSet.Search

namespace Specimen.CodePointSet

theorem first_foldl_hull (mid : List Interval) (iv : Interval) (bound : Nat) :
    bound < (mid.foldl Interval.hull iv).first ↔ bound < iv.first ∧ ∀ a ∈ mid, bound < a.first := by
  induction mid generalizing iv with
  | nil => simp
  | cons a rest ih =>
      simp only [List.foldl_cons, ih, Interval.hull, List.mem_cons, forall_eq_or_imp]
      constructor
      · rintro ⟨h, hrest⟩
        exact ⟨by omega, by omega, hrest⟩
      · rintro ⟨h, ha, hrest⟩
        exact ⟨by omega, hrest⟩

theorem last_foldl_hull (mid : List Interval) (iv : Interval) (bound : Nat) :
    (mid.foldl Interval.hull iv).last < bound ↔ iv.last < bound ∧ ∀ a ∈ mid, a.last < bound := by
  induction mid generalizing iv with
  | nil => simp
  | cons a rest ih =>
      simp only [List.foldl_cons, ih, Interval.hull, List.mem_cons, forall_eq_or_imp]
      constructor
      · rintro ⟨h, hrest⟩
        exact ⟨by omega, by omega, hrest⟩
      · rintro ⟨h, ha, hrest⟩
        exact ⟨by omega, hrest⟩

theorem foldl_hull_nonempty {mid : List Interval} {iv : Interval} (h : iv.first ≤ iv.last) :
    (mid.foldl Interval.hull iv).first ≤ (mid.foldl Interval.hull iv).last := by
  induction mid generalizing iv with
  | nil => exact h
  | cons a rest ih =>
      refine ih ?_
      simp only [Interval.hull]
      omega

theorem toList_insertInterval {s : CodePointSet} {iv : Interval} {low mid high : List Interval}
    (h : s.intervals.toList = low ++ mid ++ high) (hlow : ∀ a ∈ low, a.mergeCompare iv = .lt)
    (hmid : ∀ a ∈ mid, a.mergeCompare iv = .eq) (hhigh : ∀ a ∈ high, a.mergeCompare iv = .gt) :
    (s.insertInterval iv).intervals.toList = low ++ mid.foldl Interval.hull iv :: high := by
  have hrange := Search.equalRange_eq h hlow hmid hhigh
  have hs : s.intervals = (low ++ mid ++ high).toArray := by rw [← h, Array.toArray_toList]
  simp only [insertInterval, hrange]
  simp [hs, List.extract_eq_take_drop, List.take_append, List.drop_append, ← Nat.add_assoc]

theorem insertInterval_wellFormed {s : CodePointSet} {iv : Interval} (hs : s.WellFormed)
    (hiv : iv.first ≤ iv.last) (hmax : iv.last ≤ maxCodePoint) :
    (s.insertInterval iv).WellFormed := by
  obtain ⟨hb, ha⟩ := wellFormed_iff.1 hs
  obtain ⟨low, mid, high, h, hlow, hmid, hhigh⟩ := split_by_mergeCompare hb ha iv
  rw [wellFormed_iff, toList_insertInterval h hlow hmid hhigh]
  rw [h] at hb ha
  obtain ⟨hlm, hh, hlmh⟩ := List.pairwise_append.1 ha
  obtain ⟨hl, _, hlm⟩ := List.pairwise_append.1 hlm
  refine ⟨fun a hmem => ?_, List.pairwise_append.2 ⟨hl, List.pairwise_cons.2 ⟨?_, hh⟩, ?_⟩⟩
  · rcases List.mem_append.1 hmem with hmem | hmem
    · exact hb a (by simp [hmem])
    · rcases List.mem_cons.1 hmem with rfl | hmem
      · refine ⟨foldl_hull_nonempty hiv, Nat.le_of_lt_succ ((last_foldl_hull mid iv _).2 ?_)⟩
        exact ⟨Nat.lt_succ_of_le hmax, fun b hb' => Nat.lt_succ_of_le (hb b (by simp [hb'])).2⟩
      · exact hb a (by simp [hmem])
  · intro b hmem
    have hlast : (mid.foldl Interval.hull iv).last < b.first - 1 := by
      refine (last_foldl_hull mid iv _).2 ⟨?_, fun a hmid' => ?_⟩
      · have := (Interval.mergeCompare_eq_gt_iff.1 (hhigh b hmem)).2
        omega
      · have := hlmh a (by simp [hmid']) b hmem
        omega
    omega
  · intro a hmem b hmem'
    rcases List.mem_cons.1 hmem' with rfl | hmem'
    · refine (first_foldl_hull mid iv _).2
        ⟨Interval.mergeCompare_eq_lt_iff.1 (hlow a hmem), fun c hc => ?_⟩
      exact hlm a hmem c hc
    · exact hlmh a (by simp [hmem]) b hmem'

theorem insert_wellFormed {s : CodePointSet} {x : Nat} (hs : s.WellFormed) (hx : x ≤ maxCodePoint) :
    (s.insert x).WellFormed :=
  insertInterval_wellFormed hs (Nat.le_refl x) hx

theorem foldl_insertInterval_wellFormed {ivs : List Interval} {s : CodePointSet} (hivs : Bounded ivs)
    (hs : s.WellFormed) : (ivs.foldl insertInterval s).WellFormed := by
  induction ivs generalizing s with
  | nil => exact hs
  | cons iv rest ih =>
      obtain ⟨hle, hmax⟩ := hivs iv (by simp)
      exact ih (fun a ha => hivs a (by simp [ha])) (insertInterval_wellFormed hs hle hmax)

theorem union_wellFormed {s t : CodePointSet} (hs : s.WellFormed) (ht : t.WellFormed) :
    (s.union t).WellFormed := by
  simp only [union]
  split
  · rw [← Array.foldl_toList]
    exact foldl_insertInterval_wellFormed (wellFormed_iff.1 hs).1 ht
  · rw [← Array.foldl_toList]
    exact foldl_insertInterval_wellFormed (wellFormed_iff.1 ht).1 hs

theorem gaps_wellFormed {ivs : List Interval} (hb : Bounded ivs) (ha : Apart ivs) {start : Nat}
    (hstart : ∀ iv ∈ ivs, start ≤ iv.first) :
    Bounded (gaps start ivs) ∧ Apart (gaps start ivs) ∧ ∀ gap ∈ gaps start ivs, start ≤ gap.first := by
  induction ivs generalizing start with
  | nil =>
      simp only [gaps]
      split
      · next h => simp [Bounded, Apart, h]
      · simp [Bounded, Apart]
  | cons iv rest ih =>
      obtain ⟨hafter, hrest⟩ := List.pairwise_cons.1 ha
      obtain ⟨hle, hmax⟩ := hb iv (by simp)
      have hfrom := hstart iv (by simp)
      have hnext : ∀ b ∈ rest, iv.last + 1 ≤ b.first := by
        intro b hmem
        have := hafter b hmem
        omega
      obtain ⟨hgb, hga, hgs⟩ := ih (fun a h => hb a (by simp [h])) hrest hnext
      simp only [gaps]
      split
      · next hlt =>
          refine ⟨?_, List.pairwise_cons.2 ⟨fun gap hmem => ?_, hga⟩, ?_⟩
          · intro gap hmem
            rcases List.mem_cons.1 hmem with rfl | hmem
            · exact ⟨Nat.le_sub_one_of_lt hlt, by simp only; omega⟩
            · exact hgb gap hmem
          · have := hgs gap hmem
            simp only
            omega
          · intro gap hmem
            rcases List.mem_cons.1 hmem with rfl | hmem
            · exact Nat.le_refl start
            · have := hgs gap hmem
              omega
      · refine ⟨hgb, hga, fun gap hmem => ?_⟩
        have := hgs gap hmem
        omega

theorem complement_wellFormed {s : CodePointSet} (hs : s.WellFormed) : s.complement.WellFormed := by
  obtain ⟨hb, ha⟩ := wellFormed_iff.1 hs
  obtain ⟨hgb, hga, _⟩ := gaps_wellFormed hb ha fun iv _ => Nat.zero_le iv.first
  exact wellFormed_ofIntervals hgb hga

theorem within_of_overlap? {a b iv : Interval} (h : a.overlap? b = some iv) :
    iv.first ≤ iv.last ∧ (a.first ≤ iv.first ∧ iv.last ≤ a.last) ∧
      b.first ≤ iv.first ∧ iv.last ≤ b.last := by
  simp only [Interval.overlap?] at h
  split at h
  · next hle =>
      cases h
      exact ⟨hle, ⟨Nat.le_max_left _ _, Nat.min_le_left _ _⟩, Nat.le_max_right _ _, Nat.min_le_right _ _⟩
  · simp at h

theorem within_of_mem_overlaps {as bs : List Interval} {iv : Interval} (h : iv ∈ overlaps as bs) :
    iv.first ≤ iv.last ∧ (∃ a ∈ as, a.first ≤ iv.first ∧ iv.last ≤ a.last) ∧
      ∃ b ∈ bs, b.first ≤ iv.first ∧ iv.last ≤ b.last := by
  fun_induction overlaps as bs with
  | case1 => simp at h
  | case2 => simp at h
  | case3 a as b bs ihleft ihright =>
      rcases List.mem_append.1 h with h | h
      · obtain ⟨hle, ha, hb⟩ := within_of_overlap? (Option.mem_toList.1 h)
        exact ⟨hle, ⟨a, by simp, ha⟩, b, by simp, hb⟩
      · split at h
        · obtain ⟨hle, ⟨x, hx, hxiv⟩, hy⟩ := ihleft h
          exact ⟨hle, ⟨x, by simp [hx], hxiv⟩, hy⟩
        · obtain ⟨hle, hx, y, hy, hyiv⟩ := ihright h
          exact ⟨hle, hx, y, by simp [hy], hyiv⟩

theorem apart_overlaps {as bs : List Interval} (ha : Apart as) (hb : Apart bs) :
    Apart (overlaps as bs) := by
  fun_induction overlaps as bs with
  | case1 => exact .nil
  | case2 => exact .nil
  | case3 a as b bs ihleft ihright =>
      obtain ⟨hafirst, harest⟩ := List.pairwise_cons.1 ha
      obtain ⟨hbfirst, hbrest⟩ := List.pairwise_cons.1 hb
      refine List.pairwise_append.2 ⟨?_, ?_, ?_⟩
      · cases a.overlap? b <;> simp
      · split
        · exact ihleft harest hb
        · exact ihright ha hbrest
      · intro x hx y hy
        obtain ⟨_, hxa, hxb⟩ := within_of_overlap? (Option.mem_toList.1 hx)
        split at hy
        · obtain ⟨_, ⟨c, hc, hcy⟩, _⟩ := within_of_mem_overlaps hy
          have := hafirst c hc
          omega
        · obtain ⟨_, _, c, hc, hcy⟩ := within_of_mem_overlaps hy
          have := hbfirst c hc
          omega

theorem inter_wellFormed {s t : CodePointSet} (hs : s.WellFormed) (ht : t.WellFormed) :
    (s.inter t).WellFormed := by
  obtain ⟨hsb, hsa⟩ := wellFormed_iff.1 hs
  obtain ⟨_, hta⟩ := wellFormed_iff.1 ht
  refine wellFormed_ofIntervals (fun iv hiv => ?_) (apart_overlaps hsa hta)
  obtain ⟨hle, ⟨a, ha, hwithin⟩, _⟩ := within_of_mem_overlaps hiv
  have := (hsb a ha).2
  exact ⟨hle, by omega⟩

theorem cover_wellFormed {x : Nat} {above : List Interval} (hx : x ≤ maxCodePoint)
    (hb : Bounded above) (ha : Apart above) (habove : ∀ iv ∈ above, x < iv.first) :
    Bounded (cover x above) ∧ Apart (cover x above) ∧ ∀ iv ∈ cover x above, x ≤ iv.first := by
  fun_cases cover x above with
  | case1 =>
      refine ⟨?_, List.pairwise_singleton _ _, ?_⟩
      · intro iv hiv
        rw [List.mem_singleton.1 hiv]
        exact ⟨Nat.le_refl x, hx⟩
      · intro iv hiv
        rw [List.mem_singleton.1 hiv]
        exact Nat.le_refl x
  | case2 iv rest hnext =>
      obtain ⟨hfirst, hrest⟩ := List.pairwise_cons.1 ha
      obtain ⟨hiv, hlast⟩ := hb iv List.mem_cons_self
      refine ⟨?_, List.pairwise_cons.2 ⟨hfirst, hrest⟩, ?_⟩
      · intro a hmem
        rcases List.mem_cons.1 hmem with rfl | hmem
        · exact ⟨by simp only; omega, hlast⟩
        · exact hb a (List.mem_cons_of_mem iv hmem)
      · intro a hmem
        rcases List.mem_cons.1 hmem with rfl | hmem
        · exact Nat.le_refl x
        · exact Nat.le_of_lt (habove a (List.mem_cons_of_mem iv hmem))
  | case3 iv rest hnext =>
      obtain ⟨hfirst, hrest⟩ := List.pairwise_cons.1 ha
      obtain ⟨hiv, hlast⟩ := hb iv List.mem_cons_self
      have hgap := habove iv List.mem_cons_self
      refine ⟨?_, List.pairwise_cons.2 ⟨?_, ha⟩, ?_⟩
      · intro a hmem
        rcases List.mem_cons.1 hmem with rfl | hmem
        · exact ⟨Nat.le_refl x, hx⟩
        · exact hb a hmem
      · intro a hmem
        rcases List.mem_cons.1 hmem with rfl | hmem
        · simp only [Interval.single]
          omega
        · have := hfirst a hmem
          simp only [Interval.single]
          omega
      · intro a hmem
        rcases List.mem_cons.1 hmem with rfl | hmem
        · exact Nat.le_refl x
        · exact Nat.le_of_lt (habove a hmem)

theorem collect_wellFormed {p : Nat → Bool} {n : Nat} {above : List Interval} (hn : n ≤ maxCodePoint + 1)
    (hb : Bounded above) (ha : Apart above) (habove : ∀ iv ∈ above, n ≤ iv.first) :
    Bounded (collect p n above) ∧ Apart (collect p n above) := by
  induction n generalizing above with
  | zero => exact ⟨hb, ha⟩
  | succ n ih =>
      rw [collect]
      split
      · obtain ⟨hbounded, hapart, hlow⟩ := cover_wellFormed (by omega) hb ha habove
        exact ih (by omega) hbounded hapart hlow
      · exact ih (by omega) hb ha fun iv h => Nat.le_of_succ_le (habove iv h)

theorem ofPredicate_wellFormed (p : Char → Bool) : (ofPredicate p).WellFormed := by
  have h (valid : Nat → Bool) : (ofIntervals (collect valid (maxCodePoint + 1) [])).WellFormed := by
    obtain ⟨hb, ha⟩ := collect_wellFormed (p := valid) (Nat.le_refl (maxCodePoint + 1))
      (by simp [Bounded]) .nil (by simp)
    exact wellFormed_ofIntervals hb ha
  rw [ofPredicate]
  exact h _

theorem toNat_le_maxCodePoint (c : Char) : c.toNat ≤ maxCodePoint := by
  have h := c.valid
  simp only [UInt32.isValidChar, Nat.isValidChar] at h
  rw [maxCodePoint]
  change c.val.toNat ≤ 0x10FFFF
  omega

-- An equation of functions: applied to a character, the match would have the kernel search the swaps.
theorem insertAlternate_eq :
    insertAlternate = fun s c => (Unicode.Case.alternate? c).elim s fun d => s.insert d.toNat := by
  delta insertAlternate
  funext s c
  generalize Unicode.Case.alternate? c = d
  cases d with
  | none => rfl
  | some d => rfl

theorem insertAlternate_wellFormed {s : CodePointSet} (c : Char) (hs : s.WellFormed) :
    (s.insertAlternate c).WellFormed := by
  simp only [insertAlternate_eq]
  cases Unicode.Case.alternate? c with
  | none => exact hs
  | some d => exact insert_wellFormed hs (toNat_le_maxCodePoint d)

theorem caseClosure_wellFormed {s : CodePointSet} (hs : s.WellFormed) : s.caseClosure.WellFormed := by
  simp only [caseClosure]
  rw [← Array.foldl_toList]
  refine List.foldlRecOn _ _ hs fun closed hclosed iv _ => ?_
  exact List.foldlRecOn _ _ hclosed fun closed hclosed c _ => insertAlternate_wellFormed c hclosed

theorem empty_wellFormed : (∅ : CodePointSet).WellFormed :=
  wellFormed_iff.2 ⟨by simp [Bounded, EmptyCollection.emptyCollection], .nil⟩

theorem full_wellFormed : full.WellFormed := complement_wellFormed empty_wellFormed

instance (ivs : List Interval) : Decidable (Bounded ivs) :=
  inferInstanceAs (Decidable (∀ iv ∈ ivs, iv.first ≤ iv.last ∧ iv.last ≤ maxCodePoint))

instance (ivs : List Interval) : Decidable (Apart ivs) :=
  inferInstanceAs (Decidable (ivs.Pairwise fun a b => a.last + 1 < b.first))

theorem lineBreaks_wellFormed : lineBreaks.WellFormed :=
  wellFormed_ofIntervals (by decide) (by decide)

theorem dot_wellFormed (multiline : Bool) : (dot multiline).WellFormed := by
  simp only [dot]
  split
  · exact full_wellFormed
  · exact complement_wellFormed (wellFormed_ofIntervals (by decide) (by decide))

theorem digits_wellFormed : digits.WellFormed := wellFormed_ofIntervals (by decide) (by decide)

theorem hexDigits_wellFormed : hexDigits.WellFormed :=
  wellFormed_ofIntervals (by decide) (by decide)

theorem ofClassLetter?_wellFormed {x : Char} {s : CodePointSet} (h : ofClassLetter? x = some s) :
    s.WellFormed := by
  have hspaces : spaces.WellFormed := wellFormed_ofIntervals (by decide) (by decide)
  have hword : wordChars.WellFormed := wellFormed_ofIntervals (by decide) (by decide)
  simp only [ofClassLetter?] at h
  split at h
  · cases h; exact digits_wellFormed
  · cases h; exact complement_wellFormed digits_wellFormed
  · cases h; exact hspaces
  · cases h; exact complement_wellFormed hspaces
  · cases h; exact hword
  · cases h; exact complement_wellFormed hword
  · cases h; exact hexDigits_wellFormed
  · cases h; exact complement_wellFormed hexDigits_wellFormed
  · simp at h

end Specimen.CodePointSet
