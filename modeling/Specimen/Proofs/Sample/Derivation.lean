import Specimen.Proofs.Sample.Reading
import Specimen.Proofs.Pattern.Tree
import Specimen.Unicode.Case
/-!
The strings of a pattern, derived from left to right. A derivation starts from the values that groups have
before it, and ends with the values that they have behind it.
-/

namespace Specimen

mutual

/-- `Derives variance node before text after`, with up to `variance` repetitions beyond the least number. -/
inductive Derives (variance : Nat) : Node → Env → String → Env → Prop where
  | empty {env : Env} : Derives variance .empty env "" env
  | anchor {env : Env} (kind : Anchor) : Derives variance (.anchor kind) env "" env
  | toggleRest {env : Env} (toggle : Toggle) : Derives variance (.toggleRest toggle) env "" env
  | char {env : Env} (c : Char) (icase : Bool) :
      Derives variance (.char c icase) env c.toString env
  | charAlternate {env : Env} {c d : Char} : Unicode.Case.alternate? c = some d →
      Derives variance (.char c true) env d.toString env
  | member {env : Env} {set : CodePointSet} {c : Char} (icase : Bool) : c.toNat ∈ set →
      Derives variance (.bracket set icase) env c.toString env
  | memberAlternate {env : Env} {set : CodePointSet} {c d : Char} :
      Unicode.Case.alternate? d = some c → c.toNat ∈ set →
      Derives variance (.bracket set true) env d.toString env
  | cat {env after : Env} {items : List Node} {text : String} :
      DerivesAll variance items env text after → Derives variance (.cat items) env text after
  | alt {env after : Env} {branches : List Node} {branch : Node} {text : String} :
      branch ∈ branches → Derives variance branch env text after →
      Derives variance (.alt branches) env text after
  | capture {env after : Env} {body : Node} {text : String} (group : Nat) (name : Option String) :
      Derives variance body env text after →
      Derives variance (.capture group name body) env text (after.bind group text)
  | nonCapturing {env after : Env} {body : Node} {text : String} :
      Derives variance body env text after →
      Derives variance (.nonCapturing body) env text after
  | toggleScoped {env after : Env} {body : Node} {text : String} (toggle : Toggle) :
      Derives variance body env text after →
      Derives variance (.toggleScoped toggle body) env text after
  | backRef {env : Env} (group : Nat) (name : Option String) :
      Derives variance (.backRef group name) env (env.value group) env
  | loop {env after : Env} {q : Quantifier} {body : Node} {text : String} {count : Nat} :
      q.min ≤ count → count ≤ q.min + variance → (∀ max, q.max = some max → count ≤ max) →
      DerivesAll variance (List.replicate count body) env text after →
      Derives variance (.loop q body) env text after

inductive DerivesAll (variance : Nat) : List Node → Env → String → Env → Prop where
  | nil {env : Env} : DerivesAll variance [] env "" env
  | cons {env between after : Env} {item : Node} {rest : List Node} {text later : String} :
      Derives variance item env text between → DerivesAll variance rest between later after →
      DerivesAll variance (item :: rest) env (text ++ later) after

end

variable {variance : Nat} {env after : Env} {text : String}

namespace Derives

theorem cat_iff {items : List Node} : Derives variance (.cat items) env text after ↔
    DerivesAll variance items env text after := by
  constructor
  · intro h
    cases h with
    | cat h => exact h
  · exact .cat

theorem alt_iff {branches : List Node} : Derives variance (.alt branches) env text after ↔
    ∃ branch ∈ branches, Derives variance branch env text after := by
  constructor
  · intro h
    cases h with
    | alt hmem h => exact ⟨_, hmem, h⟩
  · rintro ⟨branch, hmem, h⟩
    exact .alt hmem h

theorem capture_iff {group : Nat} {name : Option String} {body : Node} :
    Derives variance (.capture group name body) env text after ↔
      ∃ inner, Derives variance body env text inner ∧ inner.bind group text = after := by
  constructor
  · intro h
    cases h with
    | capture _ _ h => exact ⟨_, h, rfl⟩
  · rintro ⟨inner, h, rfl⟩
    exact .capture group name h

theorem nonCapturing_iff {body : Node} : Derives variance (.nonCapturing body) env text after ↔
    Derives variance body env text after := by
  constructor
  · intro h
    cases h with
    | nonCapturing h => exact h
  · exact .nonCapturing

theorem toggleScoped_iff {toggle : Toggle} {body : Node} :
    Derives variance (.toggleScoped toggle body) env text after ↔
      Derives variance body env text after := by
  constructor
  · intro h
    cases h with
    | toggleScoped _ h => exact h
  · exact .toggleScoped toggle

theorem loop_iff {q : Quantifier} {body : Node} : Derives variance (.loop q body) env text after ↔
    ∃ count, (q.min ≤ count ∧ count ≤ q.min + variance ∧ ∀ max, q.max = some max → count ≤ max) ∧
      DerivesAll variance (List.replicate count body) env text after := by
  constructor
  · intro h
    cases h with
    | loop hmin hvariance hmax h => exact ⟨_, ⟨hmin, hvariance, hmax⟩, h⟩
  · rintro ⟨count, ⟨hmin, hvariance, hmax⟩, h⟩
    exact .loop hmin hvariance hmax h

end Derives

namespace DerivesAll

theorem nil_iff : DerivesAll variance [] env text after ↔ text = "" ∧ after = env := by
  constructor
  · intro h
    cases h with
    | nil => exact ⟨rfl, rfl⟩
  · rintro ⟨rfl, rfl⟩
    exact .nil

theorem singleton_iff {item : Node} : DerivesAll variance [item] env text after ↔
    Derives variance item env text after := by
  constructor
  · intro h
    cases h with
    | cons hitem hrest =>
        obtain ⟨rfl, rfl⟩ := nil_iff.1 hrest
        rw [String.append_empty]
        exact hitem
  · intro h
    rw [← String.append_empty (s := text)]
    exact .cons h .nil

theorem append_iff {front back : List Node} :
    DerivesAll variance (front ++ back) env text after ↔
      ∃ between first later, DerivesAll variance front env first between ∧
        DerivesAll variance back between later after ∧ first ++ later = text := by
  induction front generalizing env text with
  | nil =>
      constructor
      · intro h
        exact ⟨env, "", text, .nil, h, String.empty_append⟩
      · rintro ⟨between, first, later, hfront, hback, rfl⟩
        obtain ⟨rfl, rfl⟩ := nil_iff.1 hfront
        rw [String.empty_append]
        exact hback
  | cons item rest ih =>
      constructor
      · intro h
        cases h with
        | cons hitem hrest =>
            obtain ⟨between, first, later, hfront, hback, rfl⟩ := ih.1 hrest
            exact ⟨between, _, later, .cons hitem hfront, hback, String.append_assoc⟩
      · rintro ⟨between, first, later, hfront, hback, rfl⟩
        cases hfront with
        | cons hitem hrest =>
            rw [String.append_assoc]
            exact .cons hitem (ih.2 ⟨_, _, _, hrest, hback, rfl⟩)

theorem snoc_iff {front : List Node} {item : Node} :
    DerivesAll variance (front ++ [item]) env text after ↔
      ∃ between first later, DerivesAll variance front env first between ∧
        Derives variance item between later after ∧ first ++ later = text := by
  rw [append_iff]
  simp only [singleton_iff]

end DerivesAll

theorem not_derivesAll {items : List Node} {item : Node} (hmem : item ∈ items)
    (h : ∀ env text after, ¬ Derives variance item env text after) :
    ¬ DerivesAll variance items env text after := by
  induction items generalizing env text with
  | nil => cases hmem
  | cons first rest ih =>
      intro hall
      cases hall with
      | cons hfirst hrest =>
          rcases List.mem_cons.1 hmem with rfl | hmem
          · exact h _ _ _ hfirst
          · exact ih hmem hrest

theorem not_mem_of_isEmpty {set : CodePointSet} (h : set.isEmpty = true) (x : Nat) : ¬ x ∈ set := by
  rintro ⟨iv, hiv, _⟩
  rw [CodePointSet.isEmpty, Array.isEmpty_iff] at h
  rw [h] at hiv
  exact Array.not_mem_empty iv hiv

theorem not_derives_of_alwaysFails {node : Node} (h : node.alwaysFails = true) (env : Env)
    (text : String) (after : Env) : ¬ Derives variance node env text after := by
  induction node generalizing env text after with
  | empty => cases h
  | char c icase => cases h
  | bracket set icase =>
      intro hd
      cases hd with
      | member _ hmem => exact not_mem_of_isEmpty h _ hmem
      | memberAlternate _ hmem => exact not_mem_of_isEmpty h _ hmem
  | cat items ih =>
      rw [Node.alwaysFails, Node.anyFails_eq, List.any_eq_true] at h
      obtain ⟨item, hmem, hfails⟩ := h
      rw [Derives.cat_iff]
      exact not_derivesAll hmem (ih item hmem hfails)
  | alt branches ih =>
      rw [Node.alwaysFails, Node.allFail_eq, Bool.and_eq_true, List.all_eq_true] at h
      rw [Derives.alt_iff]
      rintro ⟨branch, hmem, hd⟩
      exact ih branch hmem (h.2 branch hmem) _ _ _ hd
  | capture group name body ih =>
      rw [Derives.capture_iff]
      rintro ⟨inner, hd, _⟩
      exact ih h _ _ _ hd
  | nonCapturing body ih =>
      rw [Derives.nonCapturing_iff]
      exact ih h _ _ _
  | toggleRest toggle => cases h
  | toggleScoped toggle body ih =>
      rw [Derives.toggleScoped_iff]
      exact ih h _ _ _
  | anchor kind => cases h
  | backRef group name => cases h
  | loop q body ih =>
      rw [Node.alwaysFails, Bool.and_eq_true, decide_eq_true_eq] at h
      rw [Derives.loop_iff]
      rintro ⟨count, ⟨hmin, _, _⟩, hd⟩
      have hmem : body ∈ List.replicate count body :=
        List.mem_replicate.2 ⟨by omega, rfl⟩
      exact not_derivesAll hmem (ih h.2) hd

end Specimen
