import Specimen.Pattern.Outline
import Specimen.Proofs.CodePointSet.CaseClosure

namespace Specimen.CodePointSet

variable {iv jv : Interval} {as bs : List Interval}

theorem first_le_of_covered (hle : iv.first ≤ iv.last) (ha : Apart (iv :: as)) {x : Nat}
    (hx : Covered (iv :: as) x) : iv.first ≤ x := by
  rcases covered_cons.1 hx with hx | hx
  · exact hx.1
  · have := lt_of_covered ha hx
    omega

theorem head_first_le (hb : Bounded (iv :: as)) (hbj : Bounded (jv :: bs)) (hj : Apart (jv :: bs))
    (h : ∀ x, Covered (iv :: as) x → Covered (jv :: bs) x) : jv.first ≤ iv.first := by
  have hle := (hb iv List.mem_cons_self).1
  have hstart : Covered (iv :: as) iv.first := covered_cons.2 (.inl ⟨Nat.le_refl _, hle⟩)
  exact first_le_of_covered (hbj jv List.mem_cons_self).1 hj (h _ hstart)

-- The number behind an interval is in no other one, so the interval ends where the members do.
theorem head_last_le (hb : Bounded (iv :: as)) (ha : Apart (iv :: as)) (hfirst : iv.first = jv.first)
    (h : ∀ x, Covered (jv :: bs) x → Covered (iv :: as) x) : jv.last ≤ iv.last := by
  have hle := (hb iv List.mem_cons_self).1
  refine Nat.le_of_not_lt fun hlt => ?_
  have hnext : Covered (jv :: bs) (iv.last + 1) := by
    refine covered_cons.2 (.inl ⟨?_, hlt⟩)
    omega
  rcases covered_cons.1 (h _ hnext) with hx | hx
  · have := hx.2
    omega
  · have := lt_of_covered ha hx
    omega

theorem eq_of_covered_iff (hab : Bounded as) (ha : Apart as) (hbb : Bounded bs) (hb : Apart bs)
    (h : ∀ x, Covered as x ↔ Covered bs x) : as = bs := by
  induction as generalizing bs with
  | nil =>
      cases bs with
      | nil => rfl
      | cons jv bs =>
          have hj := (hbb jv List.mem_cons_self).1
          have := (h jv.first).2 (covered_cons.2 (.inl ⟨Nat.le_refl _, hj⟩))
          exact absurd this not_covered_nil
  | cons iv as ih =>
      cases bs with
      | nil =>
          have hi := (hab iv List.mem_cons_self).1
          have := (h iv.first).1 (covered_cons.2 (.inl ⟨Nat.le_refl _, hi⟩))
          exact absurd this not_covered_nil
      | cons jv bs =>
          have hfirst : iv.first = jv.first := Nat.le_antisymm
            (head_first_le hbb hab ha fun x => (h x).2) (head_first_le hab hbb hb fun x => (h x).1)
          have hlast : iv.last = jv.last := Nat.le_antisymm
            (head_last_le hbb hb hfirst.symm fun x => (h x).1)
            (head_last_le hab ha hfirst fun x => (h x).2)
          have hhead : iv = jv := by
            cases iv
            cases jv
            simp only at hfirst hlast
            rw [hfirst, hlast]
          subst hhead
          have hrest : ∀ x, Covered as x ↔ Covered bs x := by
            intro x
            have hx := h x
            have hax := lt_of_covered ha (x := x)
            have hbx := lt_of_covered hb (x := x)
            rw [covered_cons, covered_cons, Interval.mem_def] at hx
            grind
          rw [ih hab.tail (List.pairwise_cons.1 ha).2 hbb.tail (List.pairwise_cons.1 hb).2 hrest]

theorem eq_of_mem_iff {s t : CodePointSet} (hs : s.WellFormed) (ht : t.WellFormed)
    (h : ∀ x, x ∈ s ↔ x ∈ t) : s = t := by
  obtain ⟨hsb, hsa⟩ := wellFormed_iff.1 hs
  obtain ⟨htb, hta⟩ := wellFormed_iff.1 ht
  have hlists : s.intervals.toList = t.intervals.toList :=
    eq_of_covered_iff hsb hsa htb hta fun x => by rw [← mem_iff_covered, ← mem_iff_covered, h]
  cases s
  cases t
  exact congrArg CodePointSet.mk (Array.toList_inj.1 hlists)

inductive Made : CodePointSet → Prop where
  | given {s : CodePointSet} : s.WellFormed → Made s
  | insertInterval {s : CodePointSet} {iv : Interval} : Made s → iv.first ≤ iv.last →
      iv.last ≤ maxCodePoint → Made (s.insertInterval iv)
  | insert {s : CodePointSet} {x : Nat} : Made s → x ≤ maxCodePoint → Made (s.insert x)
  | union {s t : CodePointSet} : Made s → Made t → Made (s.union t)
  | complement {s : CodePointSet} : Made s → Made s.complement
  | inter {s t : CodePointSet} : Made s → Made t → Made (s.inter t)
  | caseClosure {s : CodePointSet} : Made s → Made s.caseClosure
  | ofPredicate (p : Char → Bool) : Made (.ofPredicate p)

theorem Made.wellFormed {s : CodePointSet} (h : Made s) : s.WellFormed := by
  induction h with
  | given hs => exact hs
  | insertInterval _ hle hmax ih => exact insertInterval_wellFormed ih hle hmax
  | insert _ hmax ih => exact insert_wellFormed ih hmax
  | union _ _ ihs iht => exact union_wellFormed ihs iht
  | complement _ ih => exact complement_wellFormed ih
  | inter _ _ ihs iht => exact inter_wellFormed ihs iht
  | caseClosure _ ih => exact caseClosure_wellFormed ih
  | ofPredicate p => exact ofPredicate_wellFormed p

theorem operations_exact {s t : CodePointSet} (hs : s.WellFormed) (ht : t.WellFormed) :
    (∀ x, s.contains x = true ↔ ∃ iv ∈ s.intervals, x ∈ iv) ∧
      (∀ iv : Interval, iv.first ≤ iv.last → iv.last ≤ maxCodePoint →
        (s.insertInterval iv).Holds fun x => x ∈ s ∨ x ∈ iv) ∧
      (∀ y, y ≤ maxCodePoint → (s.insert y).Holds fun x => x ∈ s ∨ x = y) ∧
      ((s.union t).Holds fun x => x ∈ s ∨ x ∈ t) ∧
      (s.complement.Holds fun x => x ≤ maxCodePoint ∧ ¬ x ∈ s) ∧
      ((s.inter t).Holds fun x => x ∈ s ∧ x ∈ t) ∧
      (s.caseClosure.Holds fun x => x ∈ s ∨
        ∃ c d : Char, c.toNat ∈ s ∧ Unicode.Case.alternate? c = some d ∧ d.toNat = x) ∧
      (∀ p : Char → Bool, (ofPredicate p).Holds fun x => ∃ c : Char, c.toNat = x ∧ p c = true) ∧
      ∀ a b, Made a → Made b → (∀ x, x ∈ a ↔ x ∈ b) → a = b ∧ a.text = b.text := by
  have hsmem := Holds.members hs
  have htmem := Holds.members ht
  refine ⟨contains_iff hs, fun iv hle hmax => hsmem.insertInterval hle hmax,
    fun y hmax => hsmem.insert hmax, hsmem.union htmem, hsmem.complement, hsmem.inter htmem,
    hsmem.caseClosure, Holds.ofPredicate, fun a b ha hb h => ?_⟩
  have heq : a = b := eq_of_mem_iff ha.wellFormed hb.wellFormed h
  exact ⟨heq, congrArg CodePointSet.text heq⟩

theorem operations_exact_abutting :
    digits.WellFormed ∧ hexDigits.WellFormed ∧
      ((digits.insertInterval ⟨58, 64⟩).Holds fun x => x ∈ digits ∨ x ∈ (⟨58, 64⟩ : Interval)) ∧
      digits.complement.complement = digits := by
  have hdigits := digits_wellFormed
  obtain ⟨_, hinsert, _, _, _, _, _, _, hcanonical⟩ := operations_exact hdigits hexDigits_wellFormed
  refine ⟨hdigits, hexDigits_wellFormed, hinsert ⟨58, 64⟩ (by decide) (by decide), (hcanonical _ _
    (.complement (.complement (.given hdigits))) (.given hdigits) fun x => ?_).1⟩
  have hmax : x ∈ digits → x ≤ maxCodePoint := by
    rintro ⟨iv, hiv, hx⟩
    exact Nat.le_trans hx.2 (hdigits.bounded iv hiv).2
  rw [((Holds.members hdigits).complement.complement).mem_iff]
  grind

end Specimen.CodePointSet
