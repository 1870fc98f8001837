import Specimen.Proofs.Pattern.Tree

namespace Specimen.Node

def children : Node → List Node
  | cat items => items
  | alt branches => branches
  | capture _ _ body | nonCapturing body | toggleScoped _ body | loop _ body => [body]
  | empty | char _ _ | bracket _ _ | toggleRest _ | anchor _ | backRef _ _ => []

theorem induction_children {motive : Node → Prop}
    (h : ∀ node : Node, (∀ child ∈ node.children, motive child) → motive node) (node : Node) :
    motive node := by
  have hleaf (leaf : Node) (hchildren : leaf.children = []) : motive leaf :=
    h leaf fun child hchild => by rw [hchildren] at hchild; cases hchild
  have honly (parent body : Node) (hchildren : parent.children = [body]) (hbody : motive body) :
      motive parent :=
    h parent fun child hchild => by
      rw [hchildren, List.mem_singleton] at hchild
      rwa [hchild]
  induction node with
  | empty => exact hleaf _ rfl
  | char c icase => exact hleaf _ rfl
  | bracket set icase => exact hleaf _ rfl
  | cat items ih => exact h _ ih
  | alt branches ih => exact h _ ih
  | capture group name body ih => exact honly _ body rfl ih
  | nonCapturing body ih => exact honly _ body rfl ih
  | toggleRest toggle => exact hleaf _ rfl
  | toggleScoped toggle body ih => exact honly _ body rfl ih
  | anchor kind => exact hleaf _ rfl
  | backRef group name => exact hleaf _ rfl
  | loop quantifier body ih => exact honly _ body rfl ih

def isLoop : Node → Bool
  | loop _ _ => true
  | _ => false

inductive Contains : Node → Node → Prop where
  | refl (node : Node) : Contains node node
  | inside {parent child node : Node} : child ∈ parent.children → Contains child node →
      Contains parent node

variable {parent node : Node} {q : Quantifier} {body : Node}

theorem contains_iff :
    parent.Contains node ↔ node = parent ∨ ∃ child ∈ parent.children, child.Contains node := by
  constructor
  · intro h
    cases h with
    | refl => exact .inl rfl
    | inside hchild h => exact .inr ⟨_, hchild, h⟩
  · rintro (rfl | ⟨child, hchild, h⟩)
    · exact .refl _
    · exact .inside hchild h

theorem contains_loop_iff (h : parent.isLoop = false) :
    parent.Contains (.loop q body) ↔ ∃ child ∈ parent.children, child.Contains (.loop q body) := by
  rw [contains_iff]
  refine or_iff_right ?_
  rintro rfl
  cases h

theorem not_contains_loop (h : parent.isLoop = false) (hleaf : parent.children = []) :
    ¬ parent.Contains (.loop q body) := by
  rw [contains_loop_iff h, hleaf]
  simp

theorem not_contains_loop_empty : ¬ empty.Contains (.loop q body) := not_contains_loop rfl rfl

theorem contains_loop_ofItems (items : List Node) :
    (ofItems items).Contains (.loop q body) ↔ ∃ item ∈ items, item.Contains (.loop q body) := by
  match items with
  | [] => simp [ofItems, not_contains_loop_empty]
  | [item] => simp [ofItems]
  | a :: b :: rest =>
      have hcat : ofItems (a :: b :: rest) = cat (a :: b :: rest).reverse := rfl
      rw [hcat, contains_loop_iff rfl]
      simp only [children, List.mem_reverse]

theorem contains_loop_ofBranches (branches : List Node) :
    (ofBranches branches).Contains (.loop q body) ↔
      ∃ branch ∈ branches, branch.Contains (.loop q body) := by
  match branches with
  | [] => simp [ofBranches, not_contains_loop_empty]
  | [branch] => simp [ofBranches]
  | a :: b :: rest =>
      have halt : ofBranches (a :: b :: rest) = alt (a :: b :: rest).reverse := rfl
      rw [halt, contains_loop_iff rfl]
      simp only [children, List.mem_reverse]

end Specimen.Node
