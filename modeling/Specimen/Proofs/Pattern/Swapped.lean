import Specimen.Pattern.Node

namespace Specimen

inductive OneApart {α : Type} (R : α → α → Prop) : List α → List α → Prop where
  | head {a b : α} (rest : List α) : R a b → OneApart R (a :: rest) (b :: rest)
  | tail (a : α) {as bs : List α} : OneApart R as bs → OneApart R (a :: as) (a :: bs)

namespace OneApart

variable {α : Type} {R : α → α → Prop} {as bs : List α}

theorem isEmpty_eq (h : OneApart R as bs) : bs.isEmpty = as.isEmpty := by
  cases h <;> rfl

theorem concat (h : OneApart R as bs) (a : α) : OneApart R (as ++ [a]) (bs ++ [a]) := by
  induction h with
  | head rest hab => exact .head (rest ++ [a]) hab
  | tail b _ ih => exact .tail b ih

theorem append (front : List α) (h : OneApart R as bs) : OneApart R (front ++ as) (front ++ bs) := by
  induction front with
  | nil => exact h
  | cons a rest ih => exact .tail a ih

theorem reverse (h : OneApart R as bs) : OneApart R as.reverse bs.reverse := by
  induction h with
  | head rest hab =>
      rw [List.reverse_cons, List.reverse_cons]
      exact .append _ (.head [] hab)
  | tail a _ ih =>
      rw [List.reverse_cons, List.reverse_cons]
      exact ih.concat a

theorem single_or_longer (h : OneApart R as bs) :
    (∃ a b, as = [a] ∧ bs = [b] ∧ R a b) ∨
      ∃ a a' rest b b' other, as = a :: a' :: rest ∧ bs = b :: b' :: other := by
  cases h with
  | @head a b rest hab =>
      cases rest with
      | nil => exact .inl ⟨a, b, rfl, rfl, hab⟩
      | cons second rest => exact .inr ⟨a, second, rest, b, second, rest, rfl, rfl⟩
  | tail first hrest =>
      cases hrest with
      | @head a b rest _ => exact .inr ⟨first, a, rest, first, b, rest, rfl, rfl⟩
      | tail second _ => exact .inr ⟨first, second, _, first, second, _, rfl, rfl⟩

theorem map_eq {β : Type} (h : OneApart R as bs) {f : α → β} (hf : ∀ {a b}, R a b → f b = f a) :
    bs.map f = as.map f := by
  induction h with
  | head rest hab => rw [List.map_cons, List.map_cons, hf hab]
  | tail a _ ih => rw [List.map_cons, List.map_cons, ih]

end OneApart

namespace Node

inductive Swapped (old new : Node) : Node → Node → Prop where
  | here : Swapped old new old new
  | cat {items others : List Node} : OneApart (Swapped old new) items others →
      Swapped old new (.cat items) (.cat others)
  | alt {branches others : List Node} : OneApart (Swapped old new) branches others →
      Swapped old new (.alt branches) (.alt others)
  | capture (group : Nat) (name : Option String) {body other : Node} : Swapped old new body other →
      Swapped old new (.capture group name body) (.capture group name other)
  | nonCapturing {body other : Node} : Swapped old new body other →
      Swapped old new (.nonCapturing body) (.nonCapturing other)
  | toggleScoped (toggle : Toggle) {body other : Node} : Swapped old new body other →
      Swapped old new (.toggleScoped toggle body) (.toggleScoped toggle other)
  | loop (q : Quantifier) {body other : Node} : Swapped old new body other →
      Swapped old new (.loop q body) (.loop q other)

/-- What may stand first without moving the start of the pattern. -/
def opensPattern (node : Node) : Bool := node.isAnchor || node.isToggleRest

namespace Swapped

variable {old new : Node} {items others : List Node} {node other : Node}

theorem ofItems (h : OneApart (Swapped old new) items others) :
    Swapped old new (.ofItems items) (.ofItems others) := by
  obtain ⟨a, b, rfl, rfl, hab⟩ | ⟨a, a', rest, b, b', other, rfl, rfl⟩ := h.single_or_longer
  · exact hab
  · exact .cat h.reverse

theorem ofBranches (h : OneApart (Swapped old new) items others) :
    Swapped old new (.ofBranches items) (.ofBranches others) := by
  obtain ⟨a, b, rfl, rfl, hab⟩ | ⟨a, a', rest, b, b', other, rfl, rfl⟩ := h.single_or_longer
  · exact hab
  · exact .alt h.reverse

theorem opensPattern_eq (hplaces : new.opensPattern = old.opensPattern)
    (h : Swapped old new node other) : other.opensPattern = node.opensPattern := by
  cases h with
  | here => exact hplaces
  | cat _ | alt _ | capture _ _ _ | nonCapturing _ | toggleScoped _ _ | loop _ _ => rfl

end Swapped

end Node

end Specimen
