import Specimen.Proofs.Checked.Sets

namespace Specimen.Checked

open CodePointSet

section Predicates

variable {p : Nat → Bool} {ivs : List Interval}

/-- Goes through so many numbers from `x` up and collects the runs that satisfy `p`; `open?` is where a
run began that has not ended. -/
def scan (p : Nat → Bool) : (steps x : Nat) → (open? : Option Nat) → Checked (List Interval)
  | 0, _, none => return []
  | 0, _, some first => do return [← interval first maxCodePoint]
  | steps + 1, x, none => scan p steps (x + 1) (if p x then some x else none)
  | steps + 1, x, some first =>
      if p x then scan p steps (x + 1) (some first)
      else do
        let run ← interval first (← minus x 1)
        return run :: (← scan p steps (x + 1) none)

/-- What a scan has to find from `x` on, behind a run that began at `first`. -/
structure Scanned (p : Nat → Bool) (x first : Nat) (ivs : List Interval) : Prop where
  bounded : Bounded ivs
  apart : Apart ivs
  above : ∀ iv ∈ ivs, first ≤ iv.first
  covered (y : Nat) : Covered ivs y ↔ first ≤ y ∧ y ≤ maxCodePoint ∧ (x ≤ y → p y = true)

namespace Scanned

variable {x first : Nat}

theorem nothing (hx : x = maxCodePoint + 1) : Scanned p x x [] := by
  refine ⟨by simp [Bounded], .nil, by simp, fun y => ?_⟩
  simp only [not_covered_nil, false_iff]
  omega

theorem last (hx : x = maxCodePoint + 1) (hfirst : first < x) :
    Scanned p x first [⟨first, maxCodePoint⟩] := by
  have hle : first ≤ maxCodePoint := by omega
  refine ⟨by simp [Bounded, hle], List.pairwise_singleton _ _, by simp, fun y => ?_⟩
  simp only [covered_cons, not_covered_nil, or_false, Interval.mem_def]
  constructor
  · rintro ⟨hlow, hhigh⟩
    exact ⟨hlow, hhigh, fun hge => by omega⟩
  · rintro ⟨hlow, hhigh, -⟩
    exact ⟨hlow, hhigh⟩

theorem taken (h : Scanned p (x + 1) first ivs) (hx : p x = true) : Scanned p x first ivs := by
  refine ⟨h.bounded, h.apart, h.above, fun y => ?_⟩
  rw [h.covered]
  grind

theorem skipped (h : Scanned p (x + 1) (x + 1) ivs) (hx : ¬ p x = true) : Scanned p x x ivs := by
  refine ⟨h.bounded, h.apart, fun iv hiv => Nat.le_of_succ_le (h.above iv hiv), fun y => ?_⟩
  rw [h.covered]
  grind

theorem ended (h : Scanned p (x + 1) (x + 1) ivs) (hx : ¬ p x = true) (hfirst : first < x)
    (hmax : x ≤ maxCodePoint) : Scanned p x first (⟨first, x - 1⟩ :: ivs) := by
  have hrun : first ≤ x - 1 ∧ x - 1 ≤ maxCodePoint := by omega
  refine ⟨List.forall_mem_cons.2 ⟨hrun, h.bounded⟩, ?_, ?_, fun y => ?_⟩
  · refine List.pairwise_cons.2 ⟨fun iv hiv => ?_, h.apart⟩
    have habove := h.above iv hiv
    have hgap : x - 1 + 1 < iv.first := by omega
    exact hgap
  · refine List.forall_mem_cons.2 ⟨Nat.le_refl first, fun iv hiv => ?_⟩
    have habove := h.above iv hiv
    omega
  · rw [covered_cons, h.covered, Interval.mem_def]
    grind

end Scanned

theorem exists_scan {steps x : Nat} (hx : x + steps = maxCodePoint + 1) :
    (∃ ivs, scan p steps x none = .ok ivs ∧ Scanned p x x ivs) ∧
      ∀ first < x, ∃ ivs, scan p steps x (some first) = .ok ivs ∧ Scanned p x first ivs := by
  induction steps generalizing x with
  | zero =>
      refine ⟨⟨[], rfl, .nothing hx⟩, fun first hfirst => ⟨_, ?_, .last hx hfirst⟩⟩
      rw [scan, interval_of (by omega) (Nat.le_refl _)]
      rfl
  | succ steps ih =>
      obtain ⟨⟨ivs, hscan, hivs⟩, hrun⟩ := ih (x := x + 1) (by omega)
      by_cases hpx : p x = true
      · refine ⟨?_, fun first hfirst => ?_⟩
        · obtain ⟨jvs, hjscan, hjvs⟩ := hrun x (Nat.lt_succ_self x)
          exact ⟨jvs, by rw [scan, if_pos hpx, hjscan], hjvs.taken hpx⟩
        · obtain ⟨jvs, hjscan, hjvs⟩ := hrun first (Nat.lt_succ_of_lt hfirst)
          exact ⟨jvs, by rw [scan, if_pos hpx, hjscan], hjvs.taken hpx⟩
      · refine ⟨⟨ivs, by rw [scan, if_neg hpx, hscan], hivs.skipped hpx⟩, fun first hfirst => ?_⟩
        have hended : interval first (x - 1) = .ok ⟨first, x - 1⟩ := interval_of (by omega) (by omega)
        refine ⟨_, ?_, hivs.ended hpx hfirst (by omega)⟩
        rw [scan, if_neg hpx, minus_of_le (by omega), ok_bind, hended, ok_bind, hscan]
        rfl

def isMember (p : Char → Bool) (n : Nat) : Bool := if n.isValidChar then p (Char.ofNat n) else false

theorem isMember_iff {p : Char → Bool} {n : Nat} :
    isMember p n = true ↔ ∃ c : Char, c.toNat = n ∧ p c = true := by
  rw [isMember]
  constructor
  · intro h
    split at h
    · next hvalid => exact ⟨Char.ofNat n, toNat_ofNat hvalid, h⟩
    · cases h
  · rintro ⟨c, rfl, hp⟩
    have hvalid : c.toNat.isValidChar := c.valid
    rw [if_pos hvalid, Char.ofNat_toNat]
    exact hp

def ofPredicate (p : Char → Bool) : Checked CodePointSet := do
  ofSorted (← scan (isMember p) (maxCodePoint + 1) 0 none)

theorem ofPredicate_eq (p : Char → Bool) : ofPredicate p = .ok (.ofPredicate p) := by
  obtain ⟨⟨ivs, hscan, hivs⟩, -⟩ := exists_scan (p := isMember p) (Nat.zero_add (maxCodePoint + 1))
  have hwellFormed := wellFormed_ofIntervals hivs.bounded hivs.apart
  have hsame : ofIntervals ivs = .ofPredicate p := by
    refine eq_of_mem_iff hwellFormed (ofPredicate_wellFormed p) fun x => ?_
    rw [mem_ofIntervals, hivs.covered, (Holds.ofPredicate p).mem_iff]
    constructor
    · rintro ⟨-, -, hx⟩
      exact isMember_iff.1 (hx (Nat.zero_le x))
    · rintro ⟨c, rfl, hp⟩
      exact ⟨Nat.zero_le _, toNat_le_maxCodePoint c, fun _ => isMember_iff.2 ⟨c, rfl, hp⟩⟩
  rw [ofPredicate, hscan, ← hsame]
  exact ofSorted_of hwellFormed

end Predicates

section Classes

variable {s : CodePointSet}

def insertAlternate (s : CodePointSet) (c : Char) : Checked CodePointSet :=
  (Unicode.Case.alternate? c).elim (.ok s) fun d => insert s d.toNat

theorem foldlM_insertAlternate (hs : s.WellFormed) (cs : List Char) :
    cs.foldlM insertAlternate s = .ok (cs.foldl CodePointSet.insertAlternate s) := by
  induction cs generalizing s with
  | nil => rfl
  | cons c rest ih =>
      have hadded : insertAlternate s c = .ok (s.insertAlternate c) := by
        simp only [insertAlternate, insertAlternate_eq]
        cases Unicode.Case.alternate? c with
        | none => rfl
        | some d => exact insert_eq hs (toNat_le_maxCodePoint d)
      rw [List.foldlM_cons, hadded]
      exact ih (insertAlternate_wellFormed c hs)

def insertAlternates (closed : CodePointSet) (iv : Interval) : Checked CodePointSet := do
  let _ ← behind iv
  (Unicode.Case.swappedIn iv).foldlM insertAlternate closed

def caseClosure (s : CodePointSet) : Checked CodePointSet :=
  s.intervals.toList.foldlM insertAlternates s

theorem caseClosure_eq (hs : s.WellFormed) : caseClosure s = .ok s.caseClosure := by
  have hfold {ivs : List Interval} {closed : CodePointSet} (hivs : Bounded ivs)
      (hclosed : closed.WellFormed) : ivs.foldlM insertAlternates closed = .ok (ivs.foldl
        (fun closed iv => (Unicode.Case.swappedIn iv).foldl CodePointSet.insertAlternate closed)
        closed) := by
    induction ivs generalizing closed with
    | nil => rfl
    | cons iv rest ih =>
        have hadded : ((Unicode.Case.swappedIn iv).foldl CodePointSet.insertAlternate
            closed).WellFormed :=
          List.foldlRecOn _ _ hclosed fun _ h c _ => insertAlternate_wellFormed c h
        rw [List.foldlM_cons, insertAlternates, behind_of_le (hivs iv List.mem_cons_self).2, ok_bind,
          foldlM_insertAlternate hclosed]
        exact ih hivs.tail hadded
  rw [caseClosure, CodePointSet.caseClosure, ← Array.foldl_toList]
  exact hfold (wellFormed_iff.1 hs).1 hs

def ofClass (positive : Bool) (s : CodePointSet) : Checked CodePointSet := do
  let made ← ofSorted s.intervals.toList
  if positive then return made else complement made

theorem ofClass_eq (hs : s.WellFormed) (positive : Bool) :
    ofClass positive s = .ok (if positive then s else s.complement) := by
  rw [ofClass, ofSorted_of hs, ok_bind]
  cases positive with
  | true => rfl
  | false => exact complement_eq hs

def ofClassLetter? : Char → Option (Checked CodePointSet)
  | 'd' => some (ofClass true digits)
  | 'D' => some (ofClass false digits)
  | 's' => some (ofClass true spaces)
  | 'S' => some (ofClass false spaces)
  | 'w' => some (ofClass true wordChars)
  | 'W' => some (ofClass false wordChars)
  | 'h' => some (ofClass true hexDigits)
  | 'H' => some (ofClass false hexDigits)
  | _ => none

theorem ofClassLetter?_eq (x : Char) : ofClassLetter? x = (CodePointSet.ofClassLetter? x).map .ok := by
  have hspaces : spaces.WellFormed := wellFormed_ofIntervals (by decide) (by decide)
  have hword : wordChars.WellFormed := wellFormed_ofIntervals (by decide) (by decide)
  simp only [ofClassLetter?, CodePointSet.ofClassLetter?, ofClass_eq digits_wellFormed,
    ofClass_eq hspaces, ofClass_eq hword, ofClass_eq hexDigits_wellFormed]
  split
  case h_9 => simp [*]
  all_goals rfl

def full : Checked CodePointSet := complement ∅

theorem full_eq : full = .ok .full := complement_eq empty_wellFormed

def dot (multiline : Bool) : Checked CodePointSet :=
  if multiline then full else ofClass false (ofIntervals [ofChars '\n' '\n'])

theorem dot_eq (multiline : Bool) : dot multiline = .ok (.dot multiline) := by
  cases multiline with
  | true => exact full_eq
  | false => exact ofClass_eq (wellFormed_ofIntervals (by decide) (by decide)) false

end Classes

end Specimen.Checked
