import Specimen.Pattern.Node
/-!
What a walk over a pattern in pre-order meets of groups: capturing groups where they begin, and
back-references, each with the numbers of the capturing groups around it.
-/

namespace Specimen

inductive Mark where
  | capture (group : Nat) (name : Option String)
  | backRef (group : Nat) (name : Option String)
  deriving DecidableEq, Repr

structure Visit where
  /-- The capturing groups around the mark, the innermost first. -/
  inside : List Nat
  mark : Mark
  deriving DecidableEq, Repr

def Visit.capture? (visit : Visit) : Option (Nat × Option String) :=
  match visit.mark with
  | .capture group name => some (group, name)
  | .backRef _ _ => none

namespace Node

mutual

def visits (inside : List Nat) : Node → List Visit
  | empty => []
  | char _ _ => []
  | bracket _ _ => []
  | cat items => visitsOf inside items
  | alt branches => visitsOf inside branches
  | capture group name body => ⟨inside, .capture group name⟩ :: visits (group :: inside) body
  | nonCapturing body => visits inside body
  | toggleRest _ => []
  | toggleScoped _ body => visits inside body
  | anchor _ => []
  | backRef group name => [⟨inside, .backRef group name⟩]
  | loop _ body => visits inside body

def visitsOf (inside : List Nat) : List Node → List Visit
  | [] => []
  | item :: rest => visits inside item ++ visitsOf inside rest

end

theorem visitsOf_append (inside : List Nat) (front back : List Node) :
    visitsOf inside (front ++ back) = visitsOf inside front ++ visitsOf inside back := by
  induction front with
  | nil => rfl
  | cons item rest ih =>
      simp only [List.cons_append, visitsOf]
      rw [ih, List.append_assoc]

theorem visitsOf_singleton (inside : List Nat) (item : Node) :
    visitsOf inside [item] = item.visits inside := by
  simp only [visitsOf, List.append_nil]

theorem visits_ofItems (inside : List Nat) (items : List Node) :
    (ofItems items).visits inside = visitsOf inside items.reverse := by
  match items with
  | [] => rfl
  | [item] => exact (visitsOf_singleton inside item).symm
  | _ :: _ :: _ => rfl

theorem visits_ofBranches (inside : List Nat) (branches : List Node) :
    (ofBranches branches).visits inside = visitsOf inside branches.reverse := by
  match branches with
  | [] => rfl
  | [branch] => exact (visitsOf_singleton inside branch).symm
  | _ :: _ :: _ => rfl

end Node

def captures (visits : List Visit) : List (Nat × Option String) :=
  visits.filterMap Visit.capture?

theorem captures_append (front back : List Visit) :
    captures (front ++ back) = captures front ++ captures back :=
  List.filterMap_append

structure RefersBack (before : List Visit) (inside : List Nat) (group : Nat) (name : Option String) :
    Prop where
  met : ∃ n, (group, n) ∈ captures before
  closed : group ∉ inside
  named : ∀ n, name = some n → (group, some n) ∈ captures before ∧
    ∀ later, group < later → (later, some n) ∉ captures before

def ReferBack (visits : List Visit) : Prop :=
  ∀ before inside group name, before ++ [⟨inside, .backRef group name⟩] <+: visits →
    RefersBack before inside group name

namespace ReferBack

variable {visits : List Visit}

theorem nil : ReferBack [] := by
  intro before inside group name hprefix
  exact absurd (List.prefix_nil.1 hprefix) (by simp)

theorem capture (h : ReferBack visits) (around : List Nat) (group : Nat) (name : Option String) :
    ReferBack (visits ++ [⟨around, .capture group name⟩]) := by
  intro before inside g n hprefix
  rcases List.prefix_concat_iff.1 hprefix with heq | hprefix
  · obtain ⟨_, hlast⟩ := List.append_inj' heq rfl
    simp at hlast
  · exact h before inside g n hprefix

theorem backRef (h : ReferBack visits) {around : List Nat} {group : Nat} {name : Option String}
    (href : RefersBack visits around group name) :
    ReferBack (visits ++ [⟨around, .backRef group name⟩]) := by
  intro before inside g n hprefix
  rcases List.prefix_concat_iff.1 hprefix with heq | hprefix
  · obtain ⟨rfl, hlast⟩ := List.append_inj' heq rfl
    simp only [List.cons.injEq, Visit.mk.injEq, Mark.backRef.injEq, and_true] at hlast
    obtain ⟨rfl, rfl, rfl⟩ := hlast
    exact href
  · exact h before inside g n hprefix

end ReferBack

end Specimen
