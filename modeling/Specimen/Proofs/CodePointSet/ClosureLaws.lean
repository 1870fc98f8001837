import Specimen.Proofs.CodePointSet.Canonical
/-!
Case closure is a closure operator, and one step is enough: since a swap has to swap back, the alternate of
an alternate is the character itself. What is outside of a closed set has its alternate outside too.
-/

namespace Specimen

namespace Unicode.Case

def roundTrip (swap : Char → Option Char) (c : Char) : Option Char :=
  (swap c).filter fun d => d != c && swap d == some c

theorem roundTrip_eq_some_iff {swap : Char → Option Char} {c d : Char} :
    roundTrip swap c = some d ↔ swap c = some d ∧ d ≠ c ∧ swap d = some c := by
  simp [roundTrip, Option.filter_eq_some_iff]

theorem alternate?_eq_roundTrip : alternate? = roundTrip swap? := rfl

/-- A partial involution without fixed points. -/
def Pairing (f : Char → Option Char) : Prop := ∀ a b, f a = some b → a ≠ b ∧ f b = some a

theorem roundTrip_pairing (swap : Char → Option Char) : Pairing (roundTrip swap) := by
  intro a b h
  rw [roundTrip_eq_some_iff] at h
  exact ⟨h.2.1.symm, roundTrip_eq_some_iff.2 ⟨h.2.2, h.2.1.symm, h.1⟩⟩

end Unicode.Case

namespace CodePointSet

open Unicode.Case

def Closed (s : CodePointSet) : Prop :=
  ∀ c d : Char, c.toNat ∈ s → alternate? c = some d → d.toNat ∈ s

variable {s t : CodePointSet} {c d : Char} {x : Nat}

theorem mem_caseClosure (hs : s.WellFormed) : x ∈ s.caseClosure ↔
    x ∈ s ∨ ∃ c d : Char, c.toNat ∈ s ∧ alternate? c = some d ∧ d.toNat = x :=
  (Holds.members hs).caseClosure.mem_iff x

theorem mem_caseClosure_of_mem (hs : s.WellFormed) (h : x ∈ s) : x ∈ s.caseClosure :=
  (mem_caseClosure hs).2 (.inl h)

theorem mem_caseClosure_of_alternate? (hs : s.WellFormed) (h : c.toNat ∈ s)
    (hd : alternate? c = some d) : d.toNat ∈ s.caseClosure :=
  (mem_caseClosure hs).2 (.inr ⟨c, d, h, hd, rfl⟩)

theorem caseClosure_mono (hs : s.WellFormed) (ht : t.WellFormed) (hst : ∀ x ∈ s, x ∈ t) :
    ∀ x ∈ s.caseClosure, x ∈ t.caseClosure := by
  intro x hx
  rcases (mem_caseClosure hs).1 hx with hx | ⟨c, d, hc, hd, rfl⟩
  · exact mem_caseClosure_of_mem ht (hst x hx)
  · exact mem_caseClosure_of_alternate? ht (hst _ hc) hd

theorem caseClosure_closed (hs : s.WellFormed) : s.caseClosure.Closed := by
  intro c d hc hd
  rcases (mem_caseClosure hs).1 hc with hc | ⟨a, b, ha, hb, hbc⟩
  · exact mem_caseClosure_of_alternate? hs hc hd
  · -- The character is the alternate of a member, and its own alternate is that member again.
    obtain rfl := Char.toNat_inj.1 hbc
    have hda : d = a := Option.some.inj (hd.symm.trans (alternate?_symm hb))
    exact mem_caseClosure_of_mem hs (hda ▸ ha)

theorem Closed.caseClosure_eq (hs : s.WellFormed) (h : s.Closed) : s.caseClosure = s := by
  refine eq_of_mem_iff (caseClosure_wellFormed hs) hs fun x => ⟨fun hx => ?_, mem_caseClosure_of_mem hs⟩
  rcases (mem_caseClosure hs).1 hx with hx | ⟨c, d, hc, hd, rfl⟩
  · exact hx
  · exact h c d hc hd

theorem caseClosure_caseClosure (hs : s.WellFormed) : s.caseClosure.caseClosure = s.caseClosure :=
  (caseClosure_closed hs).caseClosure_eq (caseClosure_wellFormed hs)

theorem Closed.alternate_not_mem (h : s.Closed) (hc : ¬ c.toNat ∈ s) (hd : alternate? c = some d) :
    ¬ d.toNat ∈ s :=
  fun hmem => hc (h d c hmem (alternate?_symm hd))

end CodePointSet

end Specimen
