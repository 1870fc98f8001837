import Specimen.Flags
import Specimen.CodePointSet.Basic
/-!
Patterns as trees. Sets are resolved: negation, intersection and the closure under case alternates that a
negation needs have been carried out.
-/

namespace Specimen

inductive Anchor where
  | startOfLine
  | startOfString
  | lastMatch
  | endOfLine
  | endOfString
  | endOfStringOrNewline
  deriving DecidableEq, Repr

def Anchor.isStart : Anchor → Bool
  | .startOfLine | .startOfString | .lastMatch => true
  | .endOfLine | .endOfString | .endOfStringOrNewline => false

inductive Greediness where
  | greedy
  | lazy
  | possessive
  deriving DecidableEq, Repr

structure Quantifier where
  min : Nat
  max : Option Nat
  greediness : Greediness
  deriving DecidableEq, Repr

/-- A change of options such as `(?i-m)`. -/
structure Toggle where
  enable : Flags
  disable : Flags
  deriving DecidableEq, Repr

namespace Toggle

def none : Toggle := ⟨.none, .none⟩

def apply (toggle : Toggle) (flags : Flags) : Flags where
  icase := (flags.icase || toggle.enable.icase) && !toggle.disable.icase
  multiline := (flags.multiline || toggle.enable.multiline) && !toggle.disable.multiline
  extended := (flags.extended || toggle.enable.extended) && !toggle.disable.extended

theorem apply_none (flags : Flags) : none.apply flags = flags := by
  simp [apply, none, Flags.none]

end Toggle

inductive Node where
  | empty
  /-- One character; with `icase` also its case alternate. -/
  | char (c : Char) (icase : Bool)
  /-- One character of a set; with `icase` also the case alternates of its members. -/
  | bracket (set : CodePointSet) (icase : Bool)
  | cat (items : List Node)
  | alt (branches : List Node)
  | capture (group : Nat) (name : Option String) (body : Node)
  | nonCapturing (body : Node)
  /-- A toggle for the rest of the group that it stands in. -/
  | toggleRest (toggle : Toggle)
  | toggleScoped (toggle : Toggle) (body : Node)
  | anchor (kind : Anchor)
  | backRef (group : Nat) (name : Option String)
  | loop (quantifier : Quantifier) (body : Node)

namespace Node

instance : Inhabited Node := ⟨empty⟩

/-- A sequence of items, the last one first. -/
def ofItems : List Node → Node
  | [] => empty
  | [item] => item
  | items => cat items.reverse

/-- An alternation of branches, the last one first. -/
def ofBranches : List Node → Node
  | [] => empty
  | [branch] => branch
  | branches => alt branches.reverse

def isAnchor : Node → Bool
  | anchor _ => true
  | _ => false

def isToggleRest : Node → Bool
  | toggleRest _ => true
  | _ => false

mutual

def alwaysFails : Node → Bool
  | bracket set _ => set.isEmpty
  | cat items => anyFails items
  | alt branches => !branches.isEmpty && allFail branches
  | capture _ _ body => alwaysFails body
  | nonCapturing body => alwaysFails body
  | toggleScoped _ body => alwaysFails body
  | loop quantifier body => quantifier.min > 0 && alwaysFails body
  | empty | char _ _ | toggleRest _ | anchor _ | backRef _ _ => false

def anyFails : List Node → Bool
  | [] => false
  | item :: rest => alwaysFails item || anyFails rest

def allFail : List Node → Bool
  | [] => true
  | branch :: rest => alwaysFails branch && allFail rest

end

theorem anyFails_eq (items : List Node) : anyFails items = items.any alwaysFails := by
  induction items with
  | nil => rfl
  | cons item rest ih => simp [anyFails, ih]

theorem allFail_eq (branches : List Node) : allFail branches = branches.all alwaysFails := by
  induction branches with
  | nil => rfl
  | cons branch rest ih => simp [allFail, ih]

end Node

end Specimen
