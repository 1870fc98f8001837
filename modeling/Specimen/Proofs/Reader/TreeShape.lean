import Specimen.Proofs.Pattern.Children
import Specimen.Proofs.Reader.WellBuilt

namespace Specimen

namespace Node

variable {P : Node → Prop} {node : Node}

theorem each_iff_children : node.Each P ↔ P node ∧ ∀ child ∈ node.children, child.Each P := by
  cases node with
  | cat items => simp only [Each, children, eachOf_iff]
  | alt branches => simp only [Each, children, eachOf_iff]
  | capture group name body | nonCapturing body | toggleScoped toggle body | loop quantifier body =>
      simp only [Each, children, List.mem_singleton, forall_eq]
  | empty | char c icase | bracket set icase | toggleRest toggle | anchor kind | backRef group name =>
      simp only [Each, children, List.not_mem_nil, false_imp_iff, implies_true, and_true]

theorem each_iff_contains : node.Each P ↔ ∀ part, node.Contains part → P part := by
  induction node using induction_children with
  | h node ih =>
      rw [each_iff_children]
      constructor
      · rintro ⟨hnode, hchildren⟩ part hpart
        rcases contains_iff.1 hpart with rfl | ⟨child, hchild, hinside⟩
        · exact hnode
        · exact (ih child hchild).1 (hchildren child hchild) part hinside
      · intro h
        refine ⟨h node (.refl node), fun child hchild => (ih child hchild).2 fun part hpart => ?_⟩
        exact h part (.inside hchild hpart)

end Node

open Reader

theorem Pattern.shape_of_read {text : String} {flags : Flags} {p : Pattern}
    (h : Pattern.read text flags = .ok p) :
    (∀ q body, p.root.Contains (.loop q body) →
        q.min ≤ maxRepeat ∧ (∀ max, q.max = some max → q.min ≤ max ∧ max ≤ maxRepeat) ∧
          body.isCat = false ∧ body.isAnchor = false ∧ body.isToggleRest = false) ∧
      (∀ items, p.root.Contains (.cat items) →
        2 ≤ items.length ∧ ∀ item ∈ items, item.isCat = false) ∧
      (∀ branches, p.root.Contains (.alt branches) → 2 ≤ branches.length) ∧
      ∀ set icase, p.root.Contains (.bracket set icase) → set.WellFormed := by
  have hsound := Node.each_iff_contains.1 (each_sound_of_read h)
  refine ⟨fun q body hloop => ?_, fun items hcat => hsound _ hcat,
    fun branches halt => hsound _ halt, fun set icase hbracket => hsound _ hbracket⟩
  obtain ⟨⟨hmin, hmax⟩, hbody⟩ : q.Bounded ∧ body.isRepeatable = true := hsound _ hloop
  exact ⟨hmin, hmax, Node.isRepeatable_iff.1 hbody⟩

theorem Pattern.shape_of_read_stacked : ∃ p,
    Pattern.read "x(?:a|[^b-y])\x7b2\x7d?*|\\R" .none = .ok p ∧ p.root.children.length = 2 ∧
      (∀ q body, p.root.Contains (.loop q body) → q.min ≤ maxRepeat ∧ body.isCat = false) ∧
      ∀ set icase, p.root.Contains (.bracket set icase) → set.WellFormed := by
  have heval : (Pattern.read "x(?:a|[^b-y])\x7b2\x7d?*|\\R" .none).toOption.map
      (fun p => p.root.children.length) = some 2 := by
    decide +kernel
  obtain ⟨p, hp, hlength⟩ := exists_of_read heval
  obtain ⟨hloops, -, -, hsets⟩ := Pattern.shape_of_read hp
  refine ⟨p, hp, hlength, fun q body hloop => ?_, hsets⟩
  obtain ⟨hmin, -, hcat, -⟩ := hloops q body hloop
  exact ⟨hmin, hcat⟩

end Specimen
