import Specimen.Proofs.Pattern.Tree
/-!
The options in force along a walk over a tree. A toggle holds for what comes after it in its group, further
branches of the group among it; a group gives back the options that it began with.
-/

namespace Specimen.Node

mutual

def flagsBehind (flags : Flags) : Node → Flags
  | cat items => flagsBehindAll flags items
  | alt branches => flagsBehindAll flags branches
  | toggleRest toggle => toggle.apply flags
  | loop _ body => flagsBehind flags body
  | capture _ _ _ => flags
  | nonCapturing _ => flags
  | toggleScoped _ _ => flags
  | empty => flags
  | char _ _ => flags
  | bracket _ _ => flags
  | anchor _ => flags
  | backRef _ _ => flags

def flagsBehindAll (flags : Flags) : List Node → Flags
  | [] => flags
  | item :: rest => flagsBehindAll (flagsBehind flags item) rest

end

mutual

/-- Each node of the tree has `P` under the options that are in force where it stands. -/
def EachUnder (P : Flags → Node → Prop) (flags : Flags) : Node → Prop
  | cat items => P flags (cat items) ∧ EachOfUnder P flags items
  | alt branches => P flags (alt branches) ∧ EachOfUnder P flags branches
  | capture group name body => P flags (capture group name body) ∧ EachUnder P flags body
  | nonCapturing body => P flags (nonCapturing body) ∧ EachUnder P flags body
  | toggleScoped toggle body =>
      P flags (toggleScoped toggle body) ∧ EachUnder P (toggle.apply flags) body
  | loop quantifier body => P flags (loop quantifier body) ∧ EachUnder P flags body
  | empty => P flags empty
  | char c icase => P flags (char c icase)
  | bracket set icase => P flags (bracket set icase)
  | toggleRest toggle => P flags (toggleRest toggle)
  | anchor kind => P flags (anchor kind)
  | backRef group name => P flags (backRef group name)

def EachOfUnder (P : Flags → Node → Prop) (flags : Flags) : List Node → Prop
  | [] => True
  | item :: rest => EachUnder P flags item ∧ EachOfUnder P (flagsBehind flags item) rest

end

variable {P : Flags → Node → Prop} {flags : Flags}

theorem flagsBehindAll_append (front back : List Node) :
    flagsBehindAll flags (front ++ back) = flagsBehindAll (flagsBehindAll flags front) back := by
  induction front generalizing flags with
  | nil => rfl
  | cons item rest ih =>
      simp only [List.cons_append, flagsBehindAll]
      exact ih

theorem eachOfUnder_append {front back : List Node} : EachOfUnder P flags (front ++ back) ↔
    EachOfUnder P flags front ∧ EachOfUnder P (flagsBehindAll flags front) back := by
  induction front generalizing flags with
  | nil => simp only [List.nil_append, EachOfUnder, flagsBehindAll, true_and]
  | cons item rest ih => simp only [List.cons_append, EachOfUnder, flagsBehindAll, ih, and_assoc]

theorem flagsBehindAll_singleton (item : Node) :
    flagsBehindAll flags [item] = item.flagsBehind flags := by
  simp only [flagsBehindAll]

theorem eachOfUnder_singleton {item : Node} :
    EachOfUnder P flags [item] ↔ item.EachUnder P flags := by
  simp only [EachOfUnder, and_true]

theorem flagsBehind_ofItems (items : List Node) :
    (ofItems items).flagsBehind flags = flagsBehindAll flags items.reverse := by
  match items with
  | [] => rfl
  | [item] => exact (flagsBehindAll_singleton item).symm
  | _ :: _ :: _ => rfl

theorem eachUnder_ofItems (hempty : P flags empty) (hcat : ∀ items, P flags (cat items))
    {items : List Node} (h : EachOfUnder P flags items.reverse) : (ofItems items).EachUnder P flags := by
  match items with
  | [] => exact hempty
  | [_] => exact eachOfUnder_singleton.1 h
  | _ :: _ :: _ => exact ⟨hcat _, h⟩

theorem eachUnder_ofBranches (hempty : P flags empty) (halt : ∀ branches, P flags (alt branches))
    {branches : List Node} (h : EachOfUnder P flags branches.reverse) :
    (ofBranches branches).EachUnder P flags := by
  match branches with
  | [] => exact hempty
  | [_] => exact eachOfUnder_singleton.1 h
  | _ :: _ :: _ => exact ⟨halt _, h⟩

def Obeys (flags : Flags) : Node → Prop
  | char c icase => c ≠ '\r' → c ≠ '\n' → icase = flags.icase
  | bracket _ icase => icase = true → flags.icase = true
  | loop _ body => body.isToggleRest = false
  | _ => True

end Specimen.Node
