import Specimen.Pattern.Node

namespace Specimen.Node

@[elab_as_elim, induction_eliminator]
theorem induction {motive : Node → Prop} (empty : motive .empty)
    (char : ∀ c icase, motive (.char c icase)) (bracket : ∀ set icase, motive (.bracket set icase))
    (cat : ∀ items, (∀ item ∈ items, motive item) → motive (.cat items))
    (alt : ∀ branches, (∀ branch ∈ branches, motive branch) → motive (.alt branches))
    (capture : ∀ group name body, motive body → motive (.capture group name body))
    (nonCapturing : ∀ body, motive body → motive (.nonCapturing body))
    (toggleRest : ∀ toggle, motive (.toggleRest toggle))
    (toggleScoped : ∀ toggle body, motive body → motive (.toggleScoped toggle body))
    (anchor : ∀ kind, motive (.anchor kind)) (backRef : ∀ group name, motive (.backRef group name))
    (loop : ∀ quantifier body, motive body → motive (.loop quantifier body)) (node : Node) :
    motive node := by
  refine Node.rec (motive_1 := motive) (motive_2 := fun items => ∀ item ∈ items, motive item)
    empty char bracket cat alt capture nonCapturing toggleRest toggleScoped anchor backRef loop
    ?_ ?_ node
  · intro item h
    cases h
  · intro first rest hfirst hrest item h
    rcases List.mem_cons.1 h with rfl | h
    · exact hfirst
    · exact hrest item h

mutual

def Each (P : Node → Prop) : Node → Prop
  | cat items => P (cat items) ∧ EachOf P items
  | alt branches => P (alt branches) ∧ EachOf P branches
  | capture group name body => P (capture group name body) ∧ Each P body
  | nonCapturing body => P (nonCapturing body) ∧ Each P body
  | toggleScoped toggle body => P (toggleScoped toggle body) ∧ Each P body
  | loop quantifier body => P (loop quantifier body) ∧ Each P body
  | empty => P empty
  | char c icase => P (char c icase)
  | bracket set icase => P (bracket set icase)
  | toggleRest toggle => P (toggleRest toggle)
  | anchor kind => P (anchor kind)
  | backRef group name => P (backRef group name)

def EachOf (P : Node → Prop) : List Node → Prop
  | [] => True
  | item :: rest => Each P item ∧ EachOf P rest

end

theorem eachOf_iff {P : Node → Prop} {items : List Node} :
    EachOf P items ↔ ∀ item ∈ items, Each P item := by
  induction items with
  | nil => simp [EachOf]
  | cons item rest ih => simp [EachOf, ih]

def isCat : Node → Bool
  | cat _ => true
  | _ => false

def isRepeatable (node : Node) : Bool := !node.isCat && !node.isAnchor && !node.isToggleRest

theorem isRepeatable_iff {node : Node} : node.isRepeatable = true ↔
    node.isCat = false ∧ node.isAnchor = false ∧ node.isToggleRest = false := by
  simp only [isRepeatable, Bool.and_eq_true, Bool.not_eq_true', and_assoc]

end Specimen.Node
