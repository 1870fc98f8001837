import Mathlib.Data.List.Forall2
import Specimen.Proofs.Pattern.Tree
import Specimen.Proofs.Pattern.Written

namespace Specimen.Node

inductive Alike (marks : Bool → Bool → Prop) (sets : CodePointSet → CodePointSet → Prop) :
    Node → Node → Prop where
  | empty : Alike marks sets .empty .empty
  | char (c : Char) {i j : Bool} : marks i j → Alike marks sets (.char c i) (.char c j)
  | bracket {s t : CodePointSet} {i j : Bool} : sets s t → marks i j →
      Alike marks sets (.bracket s i) (.bracket t j)
  | cat {items others : List Node} : List.Forall₂ (Alike marks sets) items others →
      Alike marks sets (.cat items) (.cat others)
  | alt {branches others : List Node} : List.Forall₂ (Alike marks sets) branches others →
      Alike marks sets (.alt branches) (.alt others)
  | capture (group : Nat) (name : Option String) {body other : Node} : Alike marks sets body other →
      Alike marks sets (.capture group name body) (.capture group name other)
  | nonCapturing {body other : Node} : Alike marks sets body other →
      Alike marks sets (.nonCapturing body) (.nonCapturing other)
  | toggleRest (toggle : Toggle) : Alike marks sets (.toggleRest toggle) (.toggleRest toggle)
  | toggleScoped (toggle : Toggle) {body other : Node} : Alike marks sets body other →
      Alike marks sets (.toggleScoped toggle body) (.toggleScoped toggle other)
  | anchor (kind : Anchor) : Alike marks sets (.anchor kind) (.anchor kind)
  | backRef (group : Nat) (name : Option String) :
      Alike marks sets (.backRef group name) (.backRef group name)
  | loop (quantifier : Quantifier) {body other : Node} : Alike marks sets body other →
      Alike marks sets (.loop quantifier body) (.loop quantifier other)

namespace Alike

variable {marks : Bool → Bool → Prop} {sets : CodePointSet → CodePointSet → Prop} {node other : Node}
  {items others : List Node}

theorem isAnchor_eq (h : Alike marks sets node other) : other.isAnchor = node.isAnchor := by
  cases h <;> rfl

theorem isToggleRest_eq (h : Alike marks sets node other) :
    other.isToggleRest = node.isToggleRest := by
  cases h <;> rfl

theorem sequence (h : List.Forall₂ (Alike marks sets) items others) :
    Alike marks sets (.sequence items) (.sequence others) := by
  cases h with
  | nil => exact .empty
  | cons hfirst hrest =>
      cases hrest with
      | nil => exact hfirst
      | cons hsecond hrest => exact .cat (.cons hfirst (.cons hsecond hrest))

theorem alternation (h : List.Forall₂ (Alike marks sets) items others) :
    Alike marks sets (.alternation items) (.alternation others) := by
  cases h with
  | nil => exact .alt .nil
  | cons hfirst hrest =>
      cases hrest with
      | nil => exact hfirst
      | cons hsecond hrest => exact .alt (.cons hfirst (.cons hsecond hrest))

end Alike

theorem eq_of_forall₂ {R : Node → Node → Prop} {items others : List Node}
    (h : List.Forall₂ R items others) (hitems : ∀ item ∈ items, ∀ other, R item other → item = other) :
    items = others := by
  induction h with
  | nil => rfl
  | cons hfirst _ ih =>
      obtain ⟨heq, hrest⟩ := List.forall_mem_cons.1 hitems
      rw [heq _ hfirst, ih hrest]

theorem eq_of_alike {node other : Node} (h : Alike Eq Eq node other) : node = other := by
  induction node generalizing other with
  | cat items ih =>
      cases h with
      | cat h => rw [eq_of_forall₂ h fun item hitem _ => ih item hitem]
  | alt branches ih =>
      cases h with
      | alt h => rw [eq_of_forall₂ h fun branch hbranch _ => ih branch hbranch]
  | capture group name body ih =>
      cases h with
      | capture _ _ h => rw [ih h]
  | nonCapturing body ih =>
      cases h with
      | nonCapturing h => rw [ih h]
  | toggleScoped toggle body ih =>
      cases h with
      | toggleScoped _ h => rw [ih h]
  | loop quantifier body ih =>
      cases h with
      | loop _ h => rw [ih h]
  | char c icase =>
      cases h with
      | char _ hmark => rw [hmark]
  | bracket set icase =>
      cases h with
      | bracket hset hmark => rw [hset, hmark]
  | empty => cases h; rfl
  | toggleRest toggle => cases h; rfl
  | anchor kind => cases h; rfl
  | backRef group name => cases h; rfl

end Specimen.Node
