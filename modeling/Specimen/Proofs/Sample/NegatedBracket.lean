import Specimen.Proofs.CodePointSet.ClosureLaws
import Specimen.Proofs.Reader.InStepRun
import Specimen.Proofs.Reader.PatternRun
import Specimen.Proofs.Reader.Reached
import Specimen.Proofs.Sample.Exhaustive
/-!
Negated brackets under `icase`. A bracket with a caret is read like the one without it, and comes to the
complement of what that one comes to, closed under case. Its samples stay outside of what it negates,
although case alternates are added to them once more.
-/

namespace Specimen

open Unicode.Case Reader

namespace Reader

def readOperands (icase : Bool) (c : Cursor) : Except SyntaxError (CodePointSet × Cursor) :=
  run (bracketStep icase) BracketState.size size_lt_of_bracketStep ⟨.start false, [], c⟩

theorem readOperands_wellFormed {icase : Bool} {c d : Cursor} {operand : CodePointSet}
    (h : readOperands icase c = .ok (operand, d)) : operand.WellFormed := by
  have hstart : (⟨.start false, [], c⟩ : BracketState).WellFormed := ⟨.start false, by simp⟩
  exact hstart.result h

def OpenBracket.negate (bracket : OpenBracket) : OpenBracket := { bracket with negated := true }

theorem OpenBracket.close_negate {bracket : OpenBracket} (h : bracket.negated = false) :
    bracket.negate.close true = (bracket.close true).caseClosure.complement := by
  simp only [close, negate, joined, h, if_true, Bool.false_eq_true, if_false]

inductive Negates : List OpenBracket → List OpenBracket → Prop where
  | outermost {bracket : OpenBracket} : bracket.negated = false → Negates [bracket] [bracket.negate]
  | inside (bracket : OpenBracket) {front back : List OpenBracket} : Negates front back →
      Negates (bracket :: front) (bracket :: back)

namespace Negates

variable {bracket other parent : OpenBracket} {outer others : List OpenBracket}

theorem fresh_eq (h : Negates (bracket :: outer) (other :: others)) : other.fresh = bracket.fresh := by
  cases h with
  | outermost _ => rfl
  | inside _ _ => rfl

theorem add (h : Negates (bracket :: outer) (other :: others)) (item : ClassItem) :
    Negates (bracket.add item :: outer) (other.add item :: others) := by
  cases h with
  | outermost hnegated => exact @outermost (bracket.add item) hnegated
  | inside _ houter => exact .inside _ houter

theorem nextOperand (h : Negates (bracket :: outer) (other :: others)) :
    Negates (bracket.nextOperand :: outer) (other.nextOperand :: others) := by
  cases h with
  | outermost hnegated => exact @outermost bracket.nextOperand hnegated
  | inside _ houter => exact .inside _ houter

end Negates

namespace BracketState

structure Negates (s t : BracketState) : Prop where
  cursor_eq : t.cursor = s.cursor
  brackets : Reader.Negates (s.innermost :: s.outer) (t.innermost :: t.outer)

abbrev NegatedStep : Except SyntaxError (Progress BracketState (CodePointSet × Cursor)) →
    Except SyntaxError (Progress BracketState (CodePointSet × Cursor)) → Prop :=
  Agree (Progress.Related Negates fun r q => q = (r.1.caseClosure.complement, r.2))

variable {s t : BracketState} {d : Cursor}

theorem Negates.closeBracket_related (h : s.Negates t) :
    Progress.Related Negates (fun r q => q = (r.1.caseClosure.complement, r.2))
      (closeBracket true s d) (closeBracket true t d) := by
  obtain ⟨innermost, outer, c⟩ := s
  obtain ⟨other, others, e⟩ := t
  have hbrackets : Reader.Negates (innermost :: outer) (other :: others) := h.brackets
  cases hbrackets with
  | outermost hnegated => exact .done (congrArg (·, d) (OpenBracket.close_negate hnegated))
  | inside _ houter =>
      cases houter with
      | outermost hnegated => exact .more ⟨rfl, (Reader.Negates.outermost hnegated).add _⟩
      | inside _ hrest => exact .more ⟨rfl, (Reader.Negates.inside _ hrest).add _⟩

theorem Negates.readNested_agree (h : s.Negates t) : NegatedStep (readNested s d) (readNested t d) := by
  simp only [readNested, h.cursor_eq]
  cases readPosixClass s.cursor with
  | error reason => exact .error reason
  | ok r =>
      cases r with
      | none => exact .ok (.more ⟨rfl, .inside _ h.brackets⟩)
      | some r => exact .ok (.more ⟨rfl, h.brackets.add _⟩)

theorem Negates.readMember_agree (h : s.Negates t) : NegatedStep (readMember s) (readMember t) := by
  simp only [readMember, h.cursor_eq]
  cases s.cursor.skipAll? ['&', '&'] with
  | some d => exact .ok (.more ⟨rfl, h.brackets.nextOperand⟩)
  | none =>
      cases s.cursor.skip? '[' with
      | some d => exact h.readNested_agree
      | none =>
          cases readClassItem s.cursor with
          | error reason => exact .error reason
          | ok r => exact .ok (.more ⟨rfl, h.brackets.add _⟩)

theorem Negates.bracketStep_agree (h : s.Negates t) :
    NegatedStep (bracketStep true s) (bracketStep true t) := by
  simp only [bracketStep, h.cursor_eq, h.brackets.fresh_eq]
  cases s.cursor.next? with
  | none => exact .error _
  | some r =>
      simp only
      split
      · exact .ok h.closeBracket_related
      · exact h.readMember_agree

end BracketState

theorem readBracket_of_caret {c d e : Cursor} {set : CodePointSet} (hcaret : c.next? = some ('^', d))
    (h : readBracket true c = .ok (set, e)) :
    ∃ operand, readOperands true d = .ok (operand, e) ∧ set = operand.caseClosure.complement := by
  have hstart : BracketState.Negates ⟨.start false, [], d⟩ ⟨.start true, [], d⟩ :=
    ⟨rfl, @Negates.outermost (.start false) rfl⟩
  have hopen : openBracket [] c = ⟨.start true, [], d⟩ := by
    simp only [openBracket, Cursor.skipOptional, Cursor.skip?_of_next? hcaret]
  have hagree : Agree (fun r q => q = (r.1.caseClosure.complement, r.2)) (readOperands true d)
      (readBracket true c) := by
    rw [readBracket, hopen]
    exact run_agree BracketState.Negates.bracketStep_agree hstart
  rw [h] at hagree
  cases hagree.elim with
  | inl hok =>
      obtain ⟨⟨operand, f⟩, _, hread, hset, hrelated⟩ := hok
      cases hset
      cases hrelated
      exact ⟨operand, hread, rfl⟩
  | inr herror =>
      obtain ⟨reason, _, hset⟩ := herror
      cases hset

end Reader

def Sample.Avoids (sample : Sample) (set : CodePointSet) : Prop :=
  ∃ c : Char, sample = .ofChar c ∧ ¬ c.toNat ∈ set ∧
    ∀ d, alternate? c = some d → ¬ d.toNat ∈ set

section Samples

variable {set operand : CodePointSet} {limits : Limits} {sample : Sample}

theorem exists_of_mem_bracket_samples (hset : set.WellFormed)
    (h : sample ∈ (Node.bracket set true).samples limits) :
    ∃ c : Char, sample = .ofChar c ∧
      (c.toNat ∈ set ∨ ∃ d, d.toNat ∈ set ∧ alternate? d = some c) := by
  rw [Node.samples, charSamples, List.mem_map] at h
  obtain ⟨c, hc, rfl⟩ := h
  have hmem : ∀ {d}, d ∈ set.sample limits.groupResults → d.toNat ∈ set := by
    intro d hd
    rw [CodePointSet.sample_eq_take] at hd
    exact (CodePointSet.mem_offered hset).1 (List.mem_of_mem_take hd)
  refine ⟨c, rfl, ?_⟩
  rcases mem_withAlternates.1 (List.mem_of_mem_take hc) with hc | ⟨_, d, hd, hdc⟩
  · exact .inl (hmem hc)
  · exact .inr ⟨d, hmem hd, hdc⟩

theorem avoids_of_mem_samples (hoperand : operand.WellFormed)
    (h : sample ∈ (Node.bracket operand.caseClosure.complement true).samples limits) :
    sample.Avoids operand := by
  have hclosed := CodePointSet.caseClosure_closed hoperand
  have hclosure := CodePointSet.caseClosure_wellFormed hoperand
  have houtside : ∀ {c : Char}, c.toNat ∈ operand.caseClosure.complement →
      ¬ c.toNat ∈ operand.caseClosure := fun hc =>
    (((CodePointSet.Holds.members hclosure).complement.mem_iff _).1 hc).2
  obtain ⟨c, rfl, hc⟩ := exists_of_mem_bracket_samples
    (CodePointSet.complement_wellFormed hclosure) h
  -- An alternate that sampling adds is that of a character outside of a closed set.
  have hnot : ¬ c.toNat ∈ operand.caseClosure := by
    rcases hc with hc | ⟨d, hd, hdc⟩
    · exact houtside hc
    · exact hclosed.alternate_not_mem (houtside hd) hdc
  have hinside : ∀ {x}, x ∈ operand → x ∈ operand.caseClosure :=
    CodePointSet.mem_caseClosure_of_mem hoperand
  exact ⟨c, rfl, fun hmem => hnot (hinside hmem),
    fun d hd hmem => hclosed.alternate_not_mem hnot hd (hinside hmem)⟩

end Samples

structure NegatedReading (d : Cursor) (set operand : CodePointSet) (e : Cursor) : Prop where
  operands : readOperands true d = .ok (operand, e)
  set_eq : set = operand.caseClosure.complement
  avoids : ∀ limits, ∀ sample ∈ (Node.bracket set true).samples limits, sample.Avoids operand

theorem exists_negatedReading {c d e : Cursor} {set : CodePointSet}
    (hcaret : c.next? = some ('^', d)) (h : readBracket true c = .ok (set, e)) :
    ∃ operand, NegatedReading d set operand e := by
  obtain ⟨operand, hread, rfl⟩ := readBracket_of_caret hcaret h
  have hoperand := readOperands_wellFormed hread
  exact ⟨operand, hread, rfl, fun _ _ hsample => avoids_of_mem_samples hoperand hsample⟩

theorem step_of_bracket {total : Nat} {s t : State} {c d : Cursor}
    (htrivia : skipTrivia s.flags.extended s.cursor = .ok c) (hbracket : c.next? = some ('[', d))
    (h : step total s = .ok (.more t)) :
    ∃ set e, readBracket s.flags.icase d = .ok (set, e) ∧
      t = ({ s with cursor := c } : State).add (.bracket set s.flags.icase) .admitted e := by
  have hterm : step total s = termStep total { s with cursor := c } :=
    (step_eq_behind_trivia htrivia).trans
      (step_of_mark hbracket (by decide) fun hparen => absurd hparen (by decide))
  have hread : termStep total { s with cursor := c } =
      (addBracket { s with cursor := c } d).map .more := by
    rw [termStep_eq, hbracket]
    rfl
  rw [hterm, hread, addBracket] at h
  cases hset : readBracket s.flags.icase d with
  | error reason =>
      simp only [hset] at h
      cases h
  | ok r =>
      simp only [hset] at h
      cases h
      exact ⟨r.1, r.2, rfl, rfl⟩

theorem Unicode.Case.negation_respected :
    (∀ swap, Pairing (roundTrip swap)) ∧ alternate? = roundTrip swap? ∧
      (∀ s : CodePointSet, s.WellFormed → s.caseClosure.WellFormed ∧
        (∀ x ∈ s, x ∈ s.caseClosure) ∧
        (∀ t : CodePointSet, t.WellFormed → (∀ x ∈ s, x ∈ t) →
          ∀ x ∈ s.caseClosure, x ∈ t.caseClosure) ∧
        s.caseClosure.caseClosure = s.caseClosure ∧
        ∀ c : Char, ¬ c.toNat ∈ s.caseClosure → ∀ d ∈ alternate? c, ¬ d.toNat ∈ s.caseClosure) ∧
      (∀ c d e set, c.next? = some ('^', d) → readBracket true c = .ok (set, e) →
        ∃ operand, NegatedReading d set operand e) ∧
      ∀ total s t c d, s.flags.icase = true → skipTrivia s.flags.extended s.cursor = .ok c →
        c.skipAll? ['[', '^'] = some d → step total s = .ok (.more t) →
        ∃ set operand e, NegatedReading d set operand e ∧
          t = ({ s with cursor := c } : State).add (.bracket set true) .admitted e := by
  refine ⟨roundTrip_pairing, alternate?_eq_roundTrip, fun s hs => ⟨CodePointSet.caseClosure_wellFormed hs,
    fun _ => CodePointSet.mem_caseClosure_of_mem hs, fun t ht => CodePointSet.caseClosure_mono hs ht,
    CodePointSet.caseClosure_caseClosure hs,
    fun _ hc _ => (CodePointSet.caseClosure_closed hs).alternate_not_mem hc⟩,
    fun c d e set => exists_negatedReading, ?_⟩
  intro total s t c d hicase htrivia hopen hstep
  obtain ⟨b, hbracket, hrest⟩ := Cursor.reads_cons_iff.1 (Cursor.reads_of_skipAll? hopen)
  obtain ⟨_, hcaret, hd⟩ := Cursor.reads_cons_iff.1 hrest
  obtain rfl := Cursor.reads_nil_iff.1 hd
  obtain ⟨set, e, hread, rfl⟩ := step_of_bracket htrivia hbracket hstep
  rw [hicase] at hread ⊢
  obtain ⟨operand, hnegated⟩ := exists_negatedReading hcaret hread
  exact ⟨set, operand, e, hnegated, rfl⟩

theorem exists_outside_caseClosure {s : CodePointSet} {k a b : Char} (hs : s.Holds (· = k.toNat))
    (ha : a ≠ k) (hb : b ≠ k) (hab : a ≠ b) :
    ∃ c ∈ [a, b], ¬ c.toNat ∈ s.caseClosure := by
  have houtside : ∀ c ≠ k, c.toNat ∈ s.caseClosure → alternate? k = some c := by
    intro c hc hmem
    rcases (hs.caseClosure.mem_iff _).1 hmem with h | ⟨d, e, h, hde, hec⟩
    · exact absurd (Char.toNat_inj.1 h) hc
    · rw [Char.toNat_inj.1 h, Char.toNat_inj.1 hec] at hde
      exact hde
  by_cases h : a.toNat ∈ s.caseClosure
  · refine ⟨b, by simp, fun hmem => hab (Option.some.inj ?_)⟩
    rw [← houtside a ha h, houtside b hb hmem]
  · exact ⟨a, by simp, h⟩

theorem Unicode.Case.negation_respected_letter :
    ∃ (k set : CodePointSet) (t : State), k.WellFormed ∧ (∀ x, x ∈ k ↔ x = 'k'.toNat) ∧
      (∀ x ∈ k.caseClosure, x ∈ k.caseClosure.caseClosure) ∧
      (∃ c ∈ ['b', 'c'], ¬ c.toNat ∈ k.caseClosure ∧
        ∀ d ∈ alternate? c, ¬ d.toNat ∈ k.caseClosure) ∧
      readBracket true ⟨"^k]".toList, 1⟩ = .ok (set, ⟨[], 4⟩) ∧
      NegatedReading ⟨"k]".toList, 2⟩ set k ⟨[], 4⟩ ∧
      step 0 (.start ⟨true, false, false⟩ "[^k]") = .ok (.more t) ∧
      t.branches.items = [.bracket set true] := by
  obtain ⟨_, _, hclosure, hbracket, hstep⟩ := Unicode.Case.negation_respected
  have hread : (readBracket true ⟨"^k]".toList, 1⟩).toOption.map Prod.snd = some ⟨[], 4⟩ := by
    decide +kernel
  have hoperands : (readOperands true ⟨"k]".toList, 2⟩).toOption.map Prod.fst =
      some (.ofIntervals [.single 107]) := by
    decide +kernel
  have hsteps : (stepsFrom 0 1 (.start ⟨true, false, false⟩ "[^k]")).isSome = true := by
    decide +kernel
  obtain ⟨⟨set, _⟩, hread, rfl⟩ := exists_ok_of_toOption hread
  obtain ⟨⟨operand, _⟩, hoperands, hset⟩ := exists_ok_of_toOption hoperands
  obtain ⟨_, hsteps⟩ := Option.isSome_iff_exists.1 hsteps
  obtain ⟨t, hmore, -⟩ := stepsFrom_succ hsteps
  obtain ⟨k, hnegated⟩ := hbracket ⟨"^k]".toList, 1⟩ ⟨"k]".toList, 2⟩ _ _ rfl hread
  have hk : k = .ofIntervals [.single 107] := by
    have hsame := hoperands.symm.trans hnegated.operands
    cases hsame
    exact hset
  have hwf := readOperands_wellFormed hnegated.operands
  have hmem : ∀ x, x ∈ k ↔ x = 'k'.toNat := by
    intro x
    rw [hk, CodePointSet.mem_ofIntervals, covered_cons, Interval.mem_single]
    simp [not_covered_nil]
  obtain ⟨c, hc, hout⟩ := exists_outside_caseClosure (a := 'b') (b := 'c') ⟨hwf, hmem⟩ (by decide)
    (by decide) (by decide)
  obtain ⟨hclosed, hsub, hmono, -, hswap⟩ := hclosure k hwf
  have htrivia : skipTrivia false ⟨"[^k]".toList, 0⟩ = .ok ⟨"[^k]".toList, 0⟩ := by
    refine skipTrivia_eq_self rfl fun x hx => ?_
    cases hx
    decide
  obtain ⟨twin, _, _, htwin, rfl⟩ := hstep 0 _ t _ _ rfl htrivia rfl hmore
  have hsame := hnegated.operands.symm.trans htwin.operands
  cases hsame
  refine ⟨k, set, _, hwf, hmem, hmono _ hclosed hsub, ⟨c, hc, hout, hswap c hout⟩, hread,
    hnegated, hmore, ?_⟩
  rw [hnegated.set_eq, ← htwin.set_eq]
  rfl

end Specimen
