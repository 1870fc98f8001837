import Specimen.Proofs.Sample.Choices
import Specimen.Proofs.Sample.Exactness
/-!
The counts that a repeat goes through. It leaves off as soon as enough samples are there, duplicates included,
so that it can miss samples of later counts where a shorter list is left without the duplicates.
-/

namespace Specimen

def countSamples (limit : Nat) (inner : List Sample) (count : Nat) : List Sample :=
  power limit inner count [.empty]

def samplesOfCounts (limit : Nat) (inner : List Sample) (counts : List Nat) : List Sample :=
  counts.flatMap (countSamples limit inner)

def triedCounts (limit : Nat) (inner : List Sample) (found : Nat) : List Nat → List Nat
  | [] => []
  | count :: rest =>
      if limit ≤ found then []
      else count :: triedCounts limit inner (found + (countSamples limit inner count).length) rest

variable {limit : Nat} {inner : List Sample}

theorem power_succ (limit : Nat) (inner current : List Sample) (count : Nat) :
    power limit inner (count + 1) current = product limit (power limit inner count current) inner := by
  rw [power_eq_productAll, power_eq_productAll, List.replicate_succ', productAll, List.foldl_append]
  rfl

theorem countSamples_succ (limit : Nat) (inner : List Sample) (count : Nat) :
    countSamples limit inner (count + 1) = product limit (countSamples limit inner count) inner :=
  power_succ limit inner [.empty] count

theorem countSamples_eq_take (limit : Nat) (inner : List Sample) (count : Nat) :
    countSamples limit inner (count + 1) =
      ((choices (List.replicate (count + 1) inner)).map Sample.empty.joinBehind).take limit := by
  rw [countSamples, power_eq_productAll, List.replicate_succ, productAll_eq_take]
  simp [joined]

theorem countSamples_eq_nil {count : Nat} (h : countSamples limit inner count = []) (more : Nat) :
    countSamples limit inner (count + more) = [] := by
  induction more with
  | zero => exact h
  | succ more ih => rw [← Nat.add_assoc, countSamples_succ, ih, product_nil]

theorem triedCounts_prefix_self (limit : Nat) (inner : List Sample) (found : Nat) (counts : List Nat) :
    triedCounts limit inner found counts <+: counts := by
  induction counts generalizing found with
  | nil => exact List.prefix_rfl
  | cons count rest ih =>
      rw [triedCounts]
      split
      · exact List.nil_prefix
      · exact (List.prefix_cons_inj count).2 (ih _)

theorem triedCounts_enough (limit : Nat) (inner : List Sample) (found : Nat) (counts : List Nat) :
    triedCounts limit inner found counts = counts ∨
      limit ≤ found +
        (samplesOfCounts limit inner (triedCounts limit inner found counts)).length := by
  induction counts generalizing found with
  | nil => exact .inl rfl
  | cons count rest ih =>
      rw [triedCounts]
      split
      · next henough => exact .inr (Nat.le_add_right_of_le henough)
      · rcases ih (found + (countSamples limit inner count).length) with hall | henough
        · exact .inl (by rw [hall])
        · right
          rw [samplesOfCounts, List.flatMap_cons, List.length_append]
          rw [samplesOfCounts] at henough
          omega

theorem samplesOfCounts_eq_nil {count : Nat} (h : countSamples limit inner count = [])
    {counts : List Nat} (hcounts : ∀ later ∈ counts, count ≤ later) :
    samplesOfCounts limit inner counts = [] := by
  refine List.flatMap_eq_nil_iff.2 fun later hlater => ?_
  have hnil := countSamples_eq_nil h (later - count)
  rwa [Nat.add_sub_cancel' (hcounts later hlater)] at hnil

theorem powers_eq {done : List Sample} (hdone : done.length < limit) (start more : Nat) :
    powers limit inner more (countSamples limit inner start) done =
      done.reverse ++ samplesOfCounts limit inner
        (triedCounts limit inner done.length (List.range' start (more + 1))) := by
  have hgoes : ¬ limit ≤ done.length := Nat.not_le.2 hdone
  induction more generalizing start done with
  | zero => simp [powers, samplesOfCounts, triedCounts, hgoes]
  | succ more ih =>
      rw [List.range'_succ, triedCounts, if_neg hgoes, samplesOfCounts, List.flatMap_cons,
        ← samplesOfCounts]
      simp only [powers]
      split
      · next hstop =>
          -- Either there are enough, or no later count has any.
          have hrest : samplesOfCounts limit inner (triedCounts limit inner
              (done.length + (countSamples limit inner start).length)
              (List.range' (start + 1) (more + 1))) = [] := by
            simp only [Bool.or_eq_true, decide_eq_true_eq, List.reverseAux_eq, List.length_append,
              List.length_reverse, List.isEmpty_iff] at hstop
            rcases hstop with henough | hempty
            · rw [List.range'_succ, triedCounts, if_pos (by omega)]
              rfl
            · refine samplesOfCounts_eq_nil hempty fun later hlater => ?_
              have := List.mem_range'_1.1 ((triedCounts_prefix_self _ _ _ _).subset hlater)
              omega
          rw [hrest]
          simp
      · next hmore =>
          simp only [Bool.or_eq_true, decide_eq_true_eq, not_or, Nat.not_le] at hmore
          rw [← countSamples_succ, ih hmore.1 (start + 1) (Nat.not_le.2 hmore.1)]
          simp [Nat.add_comm]

def Quantifier.counts (q : Quantifier) (variance : Nat) : List Nat :=
  List.range' q.min (q.spread variance + 1)

def Quantifier.greatest (q : Quantifier) (variance : Nat) : Nat :=
  match q.max with
  | some max => Min.min max (q.min + variance)
  | none => q.min + variance

theorem Quantifier.counts_eq {q : Quantifier} (hq : ∀ max, q.max = some max → q.min ≤ max)
    (variance : Nat) : q.counts variance = List.range' q.min (q.greatest variance + 1 - q.min) := by
  have hlength : q.spread variance + 1 = q.greatest variance + 1 - q.min := by
    rw [spread, greatest]
    cases hmax : q.max with
    | none => simp only; omega
    | some max =>
        have := hq max hmax
        simp only
        omega
  rw [counts, hlength]

theorem repeatSamples_eq (limits : Limits) (inner : List Sample) (q : Quantifier) :
    repeatSamples limits inner q =
      (samplesOfCounts limits.totalResults inner (triedCounts limits.totalResults inner 0
        (q.counts limits.repeatVariance))).eraseDups.take limits.totalResults := by
  have heq : repeatSamples limits inner q = (distinct (powers limits.totalResults inner
      (q.spread limits.repeatVariance) (countSamples limits.totalResults inner q.min) [])).take
        limits.totalResults := rfl
  rw [heq, distinct_eq_eraseDups]
  rcases Nat.eq_zero_or_pos limits.totalResults with hzero | hpos
  · rw [hzero, List.take_zero, List.take_zero]
  · rw [powers_eq hpos, List.reverse_nil, List.nil_append]
    rfl

section Duplicates

variable {α : Type} [BEq α] [LawfulBEq α] {front back : List α}

theorem take_eraseDups_prefix (front back : List α) (limit : Nat) :
    front.eraseDups.take limit <+: (front ++ back).eraseDups.take limit := by
  rw [List.eraseDups_append, List.take_append]
  exact List.prefix_append _ _

theorem take_eraseDups_append_eq_iff (limit : Nat) :
    front.eraseDups.take limit = (front ++ back).eraseDups.take limit ↔
      limit ≤ front.eraseDups.length ∨ back ⊆ front := by
  rw [List.eraseDups_append, List.take_append]
  constructor
  · intro h
    have hrest : (back.removeAll front).eraseDups.take (limit - front.eraseDups.length) = [] := by
      simpa using h.symm
    rcases List.take_eq_nil_iff.1 hrest with hzero | hnil
    · exact .inl (by omega)
    · right
      intro a ha
      by_cases hfront : a ∈ front
      · exact hfront
      · have hmem : a ∈ (back.removeAll front).eraseDups :=
          List.mem_eraseDups.2 (List.mem_filter.2 ⟨ha, by simpa using hfront⟩)
        rw [hnil] at hmem
        cases hmem
  · rintro (henough | hsubset)
    · rw [Nat.sub_eq_zero_of_le henough, List.take_zero, List.append_nil]
    · have hnil : back.removeAll front = [] :=
        List.filter_eq_nil_iff.2 fun a ha => by simpa using hsubset ha
      rw [hnil, List.eraseDups_nil, List.take_nil, List.append_nil]

end Duplicates

theorem samples_eq_take_choices (limits : Limits) (first : Node) (rest : List Node)
    (inner : List Sample) (q : Quantifier) (count : Nat) :
    (Node.cat (first :: rest)).samples limits =
        ((choices ((first :: rest).map (·.samples limits))).map Sample.empty.joinBehind).take
          limits.totalResults ∧
      repeatSamples limits inner q =
        (samplesOfCounts limits.totalResults inner (triedCounts limits.totalResults inner 0
          (q.counts limits.repeatVariance))).eraseDups.take limits.totalResults ∧
      countSamples limits.totalResults inner (count + 1) =
        ((choices (List.replicate (count + 1) inner)).map Sample.empty.joinBehind).take
          limits.totalResults := by
  refine ⟨?_, repeatSamples_eq limits inner q, countSamples_eq_take _ inner count⟩
  rw [Node.samples, catSamples_eq_productAll, List.map_cons, productAll_eq_take]
  simp [joined]

theorem loop_samples_eq_iff (limits : Limits) (body : Node) {q : Quantifier}
    (hq : ∀ max, q.max = some max → q.min ≤ max) :
    let limit := limits.totalResults
    let inner := body.samples limits
    let counts := List.range' q.min (q.greatest limits.repeatVariance + 1 - q.min)
    let all := samplesOfCounts limit inner counts
    let tried := samplesOfCounts limit inner (triedCounts limit inner 0 counts)
    (Node.loop q body).samples limits = tried.eraseDups.take limit ∧
      (Node.loop q body).samples limits <+: all.eraseDups.take limit ∧
      ((Node.loop q body).samples limits = all.eraseDups.take limit ↔
        limit ≤ tried.eraseDups.length ∨ all ⊆ tried) ∧
      (all.Nodup → (Node.loop q body).samples limits = all.take limit) := by
  intro limit inner counts all tried
  have hsamples : (Node.loop q body).samples limits = tried.eraseDups.take limit := by
    rw [Node.samples_loop hq, repeatSamples_eq, Quantifier.counts_eq hq]
  obtain ⟨later, hcounts⟩ := triedCounts_prefix_self limit inner 0 counts
  have hall : all = tried ++ samplesOfCounts limit inner later := by
    have hsplit : samplesOfCounts limit inner (triedCounts limit inner 0 counts ++ later) =
        tried ++ samplesOfCounts limit inner later := List.flatMap_append
    rwa [hcounts] at hsplit
  have hiff : (Node.loop q body).samples limits = all.eraseDups.take limit ↔
      limit ≤ tried.eraseDups.length ∨ all ⊆ tried := by
    rw [hsamples, hall, take_eraseDups_append_eq_iff, List.append_subset]
    simp only [List.Subset.refl, true_and]
  refine ⟨hsamples, ?_, hiff, fun hnodup => ?_⟩
  · rw [hsamples, hall]
    exact take_eraseDups_prefix tried _ limit
  · have htried : tried.eraseDups = tried := by
      rw [hall] at hnodup
      exact eraseDups_of_nodup (hnodup.sublist (List.sublist_append_left _ _))
    have henough : limit ≤ tried.eraseDups.length ∨ all ⊆ tried := by
      rw [htried]
      rcases triedCounts_enough limit inner 0 counts with hsame | henough
      · have heq : tried = all := congrArg (samplesOfCounts limit inner) hsame
        exact .inr (heq ▸ List.Subset.refl all)
      · rw [Nat.zero_add] at henough
        exact .inl henough
    rw [hiff.2 henough, eraseDups_of_nodup hnodup]

/-- One or no letter, repeated: the empty text comes twice before the third sample is met. -/
theorem loop_samples_optional_letter :
    let body : Node := .nonCapturing (.alt [.char 'a' false, .empty])
    let inner := body.samples ⟨5, 2, 3⟩
    (∀ max, (none : Option Nat) = some max → 0 ≤ max) ∧
      (Node.loop ⟨0, none, .greedy⟩ body).samples ⟨5, 2, 3⟩ ≠
        (samplesOfCounts 3 inner [0, 1, 2]).eraseDups.take 3 := by
  intro body inner
  have hinner : inner = [.ofChar 'a', .empty] := by
    simp only [inner, body, Node.samples, altSamples, charSamples, distinct_eq_eraseDups]
    decide
  have hq : ∀ max, (none : Option Nat) = some max → 0 ≤ max := fun max _ => Nat.zero_le max
  refine ⟨hq, fun hsame => ?_⟩
  have hiff := (loop_samples_eq_iff ⟨5, 2, 3⟩ body (q := ⟨0, none, .greedy⟩) hq).2.2.1.1 hsame
  revert hiff
  simp only [show body.samples ⟨5, 2, 3⟩ = _ from hinner]
  decide

end Specimen
