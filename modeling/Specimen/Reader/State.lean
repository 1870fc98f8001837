import Specimen.Reader.Cursor
import Specimen.Reader.Error
import Specimen.Reader.Reference
import Specimen.Pattern.Basic

namespace Specimen.Reader

inductive Opener where
  | capture (group : Nat) (name : Option String)
  | nonCapturing
  | toggled (toggle : Toggle)
  deriving DecidableEq, Repr

namespace Opener

def node (body : Node) : Opener → Node
  | capture group name => .capture group name body
  | nonCapturing => .nonCapturing body
  | toggled toggle => .toggleScoped toggle body

def group? : Opener → Option Nat
  | capture group _ => some group
  | nonCapturing => none
  | toggled _ => none

end Opener

/-- An alternation under construction, the last branch and the last item first. -/
structure Branches where
  finished : List Node
  items : List Node

namespace Branches

def none : Branches := ⟨[], []⟩

def add (branches : Branches) (item : Node) : Branches :=
  { branches with items := item :: branches.items }

def nextBranch (branches : Branches) : Branches :=
  ⟨.ofItems branches.items :: branches.finished, []⟩

def repeatLast (branches : Branches) (q : Quantifier) : Branches :=
  match branches.items with
  | [] => branches
  | item :: rest => { branches with items := .loop q item :: rest }

def node (branches : Branches) : Node :=
  .ofBranches (.ofItems branches.items :: branches.finished)

end Branches

/-- An open group: what was read around it, and the options in force there. -/
structure OpenGroup where
  opener : Opener
  outer : Branches
  flags : Flags

/-- Whether a quantifier may come next, and if so whether what it would repeat admits it. -/
inductive Repeatable where
  | nothing
  | refused
  | admitted
  deriving DecidableEq, Repr

structure State where
  cursor : Cursor
  flags : Flags
  groups : GroupTable
  branches : Branches
  /-- The open groups, the innermost first. -/
  enclosing : List OpenGroup
  last : Repeatable

namespace State

def start (flags : Flags) (text : String) : State :=
  ⟨.ofString text, flags, ∅, .none, [], .nothing⟩

def size (s : State) : Nat := s.cursor.rest.length

def openGroups (s : State) : List Nat := s.enclosing.filterMap (·.opener.group?)

def scope (s : State) (total : Nat) : Scope := ⟨total, s.groups, s.openGroups⟩

def add (s : State) (item : Node) (last : Repeatable) (d : Cursor) : State :=
  { s with cursor := d, branches := s.branches.add item, last := last }

def enter (s : State) (opener : Opener) (inside : Flags) (d : Cursor) : State :=
  { s with
    cursor := d
    flags := inside
    branches := .none
    enclosing := ⟨opener, s.branches, s.flags⟩ :: s.enclosing
    last := .nothing }

def leave (s : State) (group : OpenGroup) (enclosing : List OpenGroup) (d : Cursor) : State :=
  { s with
    cursor := d
    flags := group.flags
    branches := group.outer.add (group.opener.node s.branches.node)
    enclosing := enclosing
    last := .admitted }

def nextBranch (s : State) (d : Cursor) : State :=
  { s with cursor := d, branches := s.branches.nextBranch, last := .nothing }

def repeatLast (s : State) (q : Quantifier) (d : Cursor) : State :=
  { s with cursor := d, branches := s.branches.repeatLast q, last := .admitted }

def toggle (s : State) (toggle : Toggle) (d : Cursor) : State :=
  { s.add (.toggleRest toggle) .refused d with flags := toggle.apply s.flags }

end State

end Specimen.Reader
