import Specimen.Proofs.Checked.Fault
import Specimen.Proofs.CodePointSet.Canonical
/-!
The operations on sets with their assumptions checked: intervals that hold a code point, searches that end
between two entries, numbers of 32 bits, sets that are well formed. On well-formed sets no check fails.
-/

namespace Specimen.Checked

open CodePointSet

section Intervals

variable {a b : Interval} {ivs : List Interval}

def interval (first last : Nat) : Checked Interval := do
  ensure (first ≤ last) .emptyInterval
  ensure (last ≤ maxCodePoint) .intervalTooLarge
  return ⟨first, last⟩

theorem interval_eq_ok_iff {first last : Nat} {iv : Interval} :
    interval first last = .ok iv ↔ (first ≤ last ∧ last ≤ maxCodePoint) ∧ iv = ⟨first, last⟩ := by
  simp only [interval, ensure_bind_eq_ok_iff, pure_eq, Except.ok.injEq, and_assoc]
  rw [eq_comm (a := iv)]

theorem interval_of {first last : Nat} (hle : first ≤ last) (hmax : last ≤ maxCodePoint) :
    interval first last = .ok ⟨first, last⟩ :=
  interval_eq_ok_iff.2 ⟨⟨hle, hmax⟩, rfl⟩

def behind (iv : Interval) : Checked Nat := fits 32 (iv.last + 1)

theorem behind_of_le {iv : Interval} (h : iv.last ≤ maxCodePoint) : behind iv = .ok (iv.last + 1) := by
  have hmax : maxCodePoint + 1 < wordSize 32 := by decide
  exact fits_of_lt (by omega)

def strictlyBefore (a b : Interval) : Checked Bool := do
  let next ← behind a
  return decide (next < b.first)

theorem strictlyBefore_of_le (h : a.last ≤ maxCodePoint) :
    strictlyBefore a b = .ok (decide (a.last + 1 < b.first)) := by
  rw [strictlyBefore, behind_of_le h]
  rfl

def mergeCompare (a b : Interval) : Checked Ordering := do
  if ← strictlyBefore a b then return .lt
  else if ← strictlyBefore b a then return .gt
  else return .eq

theorem mergeCompare_of_le (ha : a.last ≤ maxCodePoint) (hb : b.last ≤ maxCodePoint) :
    mergeCompare a b = .ok (a.mergeCompare b) := by
  simp only [mergeCompare, strictlyBefore_of_le ha, strictlyBefore_of_le hb, ok_bind,
    Interval.mergeCompare, decide_eq_true_eq]
  split
  · rfl
  · split <;> rfl

def merge (a b : Interval) : Checked Interval := do
  let order ← mergeCompare a b
  ensure (order = .eq) .notMergeable
  interval (min a.first b.first) (max a.last b.last)

theorem merge_of_touch (ha : a.first ≤ a.last ∧ a.last ≤ maxCodePoint)
    (hb : b.first ≤ b.last ∧ b.last ≤ maxCodePoint) (h : b.mergeCompare a = .eq) :
    merge a b = .ok (a.hull b) := by
  have hcompare : a.mergeCompare b = .eq := by
    rw [Interval.mergeCompare_eq_eq_iff] at h ⊢
    exact h.symm
  rw [merge, mergeCompare_of_le ha.2 hb.2, hcompare]
  exact interval_of (by omega) (by omega)

theorem foldlM_merge {mid : List Interval} {iv : Interval}
    (hiv : iv.first ≤ iv.last ∧ iv.last ≤ maxCodePoint) (hmid : Bounded mid)
    (h : ∀ a ∈ mid, a.mergeCompare iv = .eq) : mid.foldlM merge iv = .ok (mid.foldl Interval.hull iv) := by
  induction mid generalizing iv with
  | nil => rfl
  | cons a rest ih =>
      have ha := hmid a List.mem_cons_self
      have hhull : (iv.hull a).first ≤ (iv.hull a).last ∧ (iv.hull a).last ≤ maxCodePoint := by
        simp only [Interval.hull]
        omega
      have htouch : ∀ b ∈ rest, b.mergeCompare (iv.hull a) = .eq := by
        intro b hb
        have hcompare := h b (List.mem_cons_of_mem a hb)
        rw [Interval.mergeCompare_eq_eq_iff] at hcompare ⊢
        simp only [Interval.hull]
        omega
      rw [List.foldlM_cons, merge_of_touch hiv ha (h a List.mem_cons_self)]
      exact ih hhull hmid.tail htouch

def ensureApart : List Interval → Checked Unit
  | a :: b :: rest => do
      let before ← strictlyBefore a b
      ensure (before = true) .notApart
      ensureApart (b :: rest)
  | _ => return ()

theorem ensureApart_eq_ok_iff (hb : Bounded ivs) : ensureApart ivs = .ok () ↔ Apart ivs := by
  induction ivs with
  | nil => exact iff_of_true rfl .nil
  | cons a rest ih =>
      have hfirst := hb a List.mem_cons_self
      cases rest with
      | nil => exact iff_of_true rfl (List.pairwise_singleton _ a)
      | cons b rest =>
          have hsecond := hb b (List.mem_cons_of_mem a List.mem_cons_self)
          simp only [ensureApart, strictlyBefore_of_le hfirst.2, ok_bind, ensure_bind_eq_ok_iff,
            decide_eq_true_eq, ih hb.tail]
          constructor
          · rintro ⟨hgap, hrest⟩
            refine List.pairwise_cons.2 ⟨fun c hc => ?_, hrest⟩
            rcases List.mem_cons.1 hc with rfl | hc
            · exact hgap
            · have := (List.pairwise_cons.1 hrest).1 c hc
              omega
          · intro h
            obtain ⟨hgap, hrest⟩ := List.pairwise_cons.1 h
            exact ⟨hgap b List.mem_cons_self, hrest⟩

def ensureBounded : List Interval → Checked Unit
  | [] => return ()
  | iv :: rest => do
      let _ ← interval iv.first iv.last
      ensureBounded rest

theorem ensureBounded_eq_ok_iff : ensureBounded ivs = .ok () ↔ Bounded ivs := by
  induction ivs with
  | nil => exact iff_of_true rfl (by simp [Bounded])
  | cons iv rest ih =>
      rw [ensureBounded, bind_eq_ok_iff, Bounded, List.forall_mem_cons, ← Bounded, ← ih]
      simp only [interval_eq_ok_iff, and_assoc, exists_and_left, exists_eq_left]

def ofSorted (ivs : List Interval) : Checked CodePointSet := do
  ensureBounded ivs
  ensureApart ivs
  return .ofIntervals ivs

theorem ofSorted_eq_ok_iff {s : CodePointSet} :
    ofSorted ivs = .ok s ↔ s.WellFormed ∧ s = .ofIntervals ivs := by
  simp only [ofSorted, bind_eq_ok_iff]
  constructor
  · rintro ⟨⟨⟩, hbounded, ⟨⟩, hapart, hs⟩
    cases hs
    have hb := ensureBounded_eq_ok_iff.1 hbounded
    exact ⟨wellFormed_ofIntervals hb ((ensureApart_eq_ok_iff hb).1 hapart), rfl⟩
  · rintro ⟨hs, rfl⟩
    obtain ⟨hb, ha⟩ := wellFormed_iff.1 hs
    exact ⟨(), ensureBounded_eq_ok_iff.2 hb, (), (ensureApart_eq_ok_iff hb).2 ha, rfl⟩

theorem ofSorted_of {s : CodePointSet} (h : s.WellFormed) : ofSorted s.intervals.toList = .ok s :=
  ofSorted_eq_ok_iff.2 ⟨h, rfl⟩

end Intervals

section Search

variable {α : Type} {xs : Array α} {compare : α → Checked Ordering} {order : α → Ordering}

inductive Place where
  | found (i : Nat)
  | between (i : Nat)

def search (xs : Array α) (compare : α → Checked Ordering) : (steps lo hi : Nat) → Checked Place
  | 0, lo, _ => return .between lo
  | steps + 1, lo, hi =>
      if lo < hi then
        let mid := lo + (hi - lo) / 2
        if h : mid < xs.size then do
          match ← compare xs[mid] with
          | .lt => search xs compare steps (mid + 1) hi
          | .gt => search xs compare steps lo mid
          | .eq => return .found mid
        else return .between lo
      else return .between lo

theorem search_eq (hcompare : ∀ x ∈ xs, compare x = .ok (order x))
    (hne : ∀ x ∈ xs, order x = .lt ∨ order x = .gt) (steps lo hi : Nat) : search xs compare steps lo hi =
      .ok (.between (Search.bisect xs (fun x => (order x).isLT) steps lo hi)) := by
  induction steps generalizing lo hi with
  | zero => rfl
  | succ steps ih =>
      simp only [search, Search.bisect]
      split
      · split
        · next hmid =>
            have hmem : xs[lo + (hi - lo) / 2] ∈ xs := Array.getElem_mem hmid
            rw [hcompare _ hmem, ok_bind]
            rcases hne _ hmem with horder | horder
            · simp only [horder, Ordering.isLT_lt, if_true, ih]
            · simp only [horder, Ordering.isLT_gt, Bool.false_eq_true, if_false, ih]
        · rfl
      · rfl

def boundary (xs : Array α) (compare : α → Checked Ordering) (start : Nat) : Checked Nat := do
  ensure (start ≤ xs.size) .indexTooLarge
  match ← search xs compare (xs.size - start) start xs.size with
  | .between i => return i
  | .found _ => fault .entryFound

theorem boundary_eq (hcompare : ∀ x ∈ xs, compare x = .ok (order x))
    (hne : ∀ x ∈ xs, order x = .lt ∨ order x = .gt) {start : Nat} (hstart : start ≤ xs.size) :
    boundary xs compare start =
      .ok (Search.partitionPointFrom xs (fun x => (order x).isLT) start) := by
  rw [boundary, ensure_of hstart, search_eq hcompare hne]
  rfl

/-- Finds the stretch of equal entries by its two ends. At neither end an entry counts as equal. -/
def equalRange (xs : Array α) (compare : α → Checked Ordering) : Checked Search.IndexRange := do
  let start ← boundary xs (fun x => do return (← compare x).then .gt) 0
  let stop ← boundary xs (fun x => do return (← compare x).then .lt) start
  return ⟨start, stop⟩

theorem equalRange_eq (hcompare : ∀ x ∈ xs, compare x = .ok (order x)) :
    equalRange xs compare = .ok (Search.equalRange xs order) := by
  have hthen (other : Ordering) : ∀ x ∈ xs, (do return (← compare x).then other : Checked Ordering) =
      .ok ((order x).then other) := by
    intro x hx
    rw [hcompare x hx]
    rfl
  have hlt (x : α) : ((order x).then .gt).isLT = (order x).isLT := by cases order x <;> rfl
  have hle (x : α) : ((order x).then .lt).isLT = (order x).isLE := by cases order x <;> rfl
  have hstart := boundary_eq (hthen .gt) (fun x _ => by cases order x <;> simp) (Nat.zero_le _)
  have hstop := boundary_eq (hthen .lt) (fun x _ => by cases order x <;> simp)
    (Search.partitionPoint_le xs fun x => (order x).isLT)
  simp only [hlt] at hstart
  simp only [hle] at hstop
  rw [equalRange, hstart, ok_bind, Search.partitionPoint] at *
  rw [hstop]
  rfl

end Search

section Operations

variable {s t : CodePointSet} {iv : Interval} {as bs ivs : List Interval}

def joinedWith (mid : Array Interval) (iv : Interval) : Checked Interval :=
  match mid.toList with
  | [] => return iv
  | [a] => interval (min a.first iv.first) (max a.last iv.last)
  | a :: b :: rest => (a :: b :: rest).foldlM merge iv

theorem joinedWith_eq {mid : List Interval} (hiv : iv.first ≤ iv.last ∧ iv.last ≤ maxCodePoint)
    (hmid : Bounded mid) (h : ∀ a ∈ mid, a.mergeCompare iv = .eq) :
    joinedWith mid.toArray iv = .ok (mid.foldl Interval.hull iv) := by
  cases mid with
  | nil => rfl
  | cons a rest =>
      cases rest with
      | nil =>
          have ha := hmid a List.mem_cons_self
          simp only [joinedWith, List.foldl_cons, List.foldl_nil, Interval.hull]
          rw [Nat.min_comm, Nat.max_comm]
          exact interval_of (by omega) (by omega)
      | cons b rest => exact foldlM_merge hiv hmid h

def insertInterval (s : CodePointSet) (new : Interval) : Checked CodePointSet := do
  let iv ← interval new.first new.last
  let merged ← equalRange s.intervals (mergeCompare · iv)
  let _ ← minus merged.stop merged.start
  let hull ← joinedWith (s.intervals.extract merged.start merged.stop) iv
  ofSorted (s.intervals.extract 0 merged.start ++ #[hull] ++
    s.intervals.extract merged.stop s.intervals.size).toList

theorem insertInterval_eq (hs : s.WellFormed) (hiv : iv.first ≤ iv.last)
    (hmax : iv.last ≤ maxCodePoint) : insertInterval s iv = .ok (s.insertInterval iv) := by
  obtain ⟨hb, ha⟩ := wellFormed_iff.1 hs
  obtain ⟨low, mid, high, h, hlow, hmid, hhigh⟩ := split_by_mergeCompare hb ha iv
  have hrange : equalRange s.intervals (mergeCompare · iv) =
      .ok (Search.equalRange s.intervals (·.mergeCompare iv)) := equalRange_eq fun a hmem =>
    mergeCompare_of_le (hs.bounded a hmem).2 hmax
  have hextract : s.intervals.extract low.length (low.length + mid.length) = mid.toArray := by
    have hs : s.intervals = (low ++ mid ++ high).toArray := by rw [← h, Array.toArray_toList]
    simp [hs, List.extract_eq_take_drop]
  have hbmid : Bounded mid := fun a hmem => hb a (by simp [h, hmem])
  have hwellFormed := insertInterval_wellFormed hs hiv hmax
  rw [insertInterval, interval_of hiv hmax, ok_bind, hrange, ok_bind,
    minus_of_le (Search.equalRange_start_le_stop _ _), ok_bind]
  simp only [CodePointSet.insertInterval, Search.equalRange_eq h hlow hmid hhigh, hextract] at hwellFormed ⊢
  rw [joinedWith_eq ⟨hiv, hmax⟩ hbmid hmid, ok_bind]
  simp only [← List.foldl_toArray] at hwellFormed ⊢
  exact ofSorted_of hwellFormed

def insert (s : CodePointSet) (x : Nat) : Checked CodePointSet := insertInterval s (.single x)

theorem insert_eq (hs : s.WellFormed) {x : Nat} (hmax : x ≤ maxCodePoint) :
    insert s x = .ok (s.insert x) :=
  insertInterval_eq hs (Nat.le_refl x) hmax

theorem foldlM_insertInterval (hivs : Bounded ivs) (hs : s.WellFormed) :
    ivs.foldlM insertInterval s = .ok (ivs.foldl CodePointSet.insertInterval s) := by
  induction ivs generalizing s with
  | nil => rfl
  | cons iv rest ih =>
      obtain ⟨hle, hmax⟩ := hivs iv List.mem_cons_self
      rw [List.foldlM_cons, insertInterval_eq hs hle hmax]
      exact ih hivs.tail (insertInterval_wellFormed hs hle hmax)

def union (s t : CodePointSet) : Checked CodePointSet :=
  if s.intervals.size < t.intervals.size then s.intervals.toList.foldlM insertInterval t
  else t.intervals.toList.foldlM insertInterval s

theorem union_eq (hs : s.WellFormed) (ht : t.WellFormed) : union s t = .ok (s.union t) := by
  simp only [union, CodePointSet.union, ← Array.foldl_toList]
  split
  · exact foldlM_insertInterval (wellFormed_iff.1 hs).1 ht
  · exact foldlM_insertInterval (wellFormed_iff.1 ht).1 hs

def gaps (start : Nat) : List Interval → Checked (List Interval)
  | [] =>
      if start ≤ maxCodePoint then do return [← interval start maxCodePoint] else return []
  | iv :: rest => do
      let next ← behind iv
      if start < iv.first then
        let gap ← interval start (← minus iv.first 1)
        return gap :: (← gaps next rest)
      else gaps next rest

theorem gaps_eq (hb : Bounded ivs) (start : Nat) : gaps start ivs = .ok (CodePointSet.gaps start ivs) := by
  induction ivs generalizing start with
  | nil =>
      simp only [gaps, CodePointSet.gaps]
      split
      · next hle => rw [interval_of hle (Nat.le_refl _)]; rfl
      · rfl
  | cons iv rest ih =>
      obtain ⟨hle, hmax⟩ := hb iv List.mem_cons_self
      simp only [gaps, CodePointSet.gaps, behind_of_le hmax, ok_bind, ih hb.tail]
      split
      · next hlt =>
          have hgap : interval start (iv.first - 1) = .ok ⟨start, iv.first - 1⟩ :=
            interval_of (Nat.le_sub_one_of_lt hlt) (by omega)
          rw [minus_of_le (by omega), ok_bind, hgap]
          rfl
      · rfl

def complement (s : CodePointSet) : Checked CodePointSet := do
  ofSorted (← gaps 0 s.intervals.toList)

theorem complement_eq (hs : s.WellFormed) : complement s = .ok s.complement := by
  rw [complement, gaps_eq (wellFormed_iff.1 hs).1]
  exact ofSorted_of (complement_wellFormed hs)

def overlap? (a b : Interval) : Checked (Option Interval) :=
  if ¬ a.last < b.first ∧ ¬ b.last < a.first then do
    return some (← interval (max a.first b.first) (min a.last b.last))
  else return none

theorem overlap?_eq {a b : Interval} (ha : a.first ≤ a.last ∧ a.last ≤ maxCodePoint)
    (hb : b.first ≤ b.last) : overlap? a b = .ok (a.overlap? b) := by
  simp only [overlap?, Interval.overlap?]
  split
  · next hmeet =>
      have hle : max a.first b.first ≤ min a.last b.last := by omega
      rw [interval_of hle (by omega), if_pos hle]
      rfl
  · next hmeet =>
      rw [if_neg (by omega)]
      rfl

def overlaps : List Interval → List Interval → Checked (List Interval)
  | [], _ => return []
  | _ :: _, [] => return []
  | a :: as, b :: bs => do
      let shared ← overlap? a b
      let rest ← if a.last < b.last then overlaps as (b :: bs) else overlaps (a :: as) bs
      return shared.toList ++ rest
termination_by as bs => as.length + bs.length

theorem overlaps_eq (ha : Bounded as) (hb : Bounded bs) :
    overlaps as bs = .ok (CodePointSet.overlaps as bs) := by
  fun_induction CodePointSet.overlaps as bs with
  | case1 => rw [overlaps]; rfl
  | case2 => rw [overlaps]; rfl
  | case3 a as b bs ihleft ihright =>
      rw [overlaps, overlap?_eq (ha a List.mem_cons_self) (hb b List.mem_cons_self).1, ok_bind]
      split
      · next hlt => rw [ihleft ha.tail hb]; rfl
      · next hlt => rw [ihright ha hb.tail]; rfl

def inter (s t : CodePointSet) : Checked CodePointSet := do
  ofSorted (← overlaps s.intervals.toList t.intervals.toList)

theorem inter_eq (hs : s.WellFormed) (ht : t.WellFormed) : inter s t = .ok (s.inter t) := by
  rw [inter, overlaps_eq (wellFormed_iff.1 hs).1 (wellFormed_iff.1 ht).1]
  exact ofSorted_of (inter_wellFormed hs ht)

end Operations

end Specimen.Checked
