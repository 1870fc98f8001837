import Specimen.Proofs.Reader.Likeness
import Specimen.Proofs.Reader.PatternRun
/-!
Two readings in step: of the same text, the second possibly under other options, from a place further on and
behind toggles that only the second has read. Each step of one agrees with the step of the other.
-/

namespace Specimen

/-- What an item of a branch may be: no sequence, and no alternation but that of the line breaks. -/
def Node.IsItem : Node → Prop
  | .cat _ => False
  | .alt branches => .alt branches = Reader.lineBreak
  | _ => True

theorem Node.ofItems_eq (items : List Node) : ofItems items = sequence items.reverse := by
  rw [← ofItems_reverse, List.reverse_reverse]

namespace Reader

open Node

theorem isItem_of_escaped {scope : Scope} {node : Node} (h : Escaped scope node) : node.IsItem := by
  cases h with
  | lineBreak => exact rfl
  | _ => trivial

namespace Likeness

/-- Alike, and what a branch may have for an item, so that a branch of one item shows which item it is. -/
def Item (k : Likeness) (item other : Node) : Prop := item.IsItem ∧ k.Alike item other

variable {k : Likeness} {item other : Node}

theorem Item.char (x : Char) {icase other : Bool} (h : k.marks icase other) :
    k.Item (.char x icase) (.char x other) :=
  ⟨trivial, .char x h⟩

theorem Item.bracket {set twin : CodePointSet} {icase other : Bool} (hset : k.sets set twin)
    (h : k.marks icase other) : k.Item (.bracket set icase) (.bracket twin other) :=
  ⟨trivial, .bracket hset h⟩

theorem Item.anchor (kind : Anchor) : k.Item (.anchor kind) (.anchor kind) :=
  ⟨trivial, .anchor kind⟩

theorem Item.toggleRest (toggle : Toggle) : k.Item (.toggleRest toggle) (.toggleRest toggle) :=
  ⟨trivial, .toggleRest toggle⟩

theorem Item.loop (h : k.Item item other) (q : Quantifier) : k.Item (.loop q item) (.loop q other) :=
  ⟨trivial, .loop q h.2⟩

theorem Item.of_body (opener : Opener) (h : k.Alike item other) :
    k.Item (opener.node item) (opener.node other) := by
  cases opener with
  | capture group name => exact ⟨trivial, .capture group name h⟩
  | nonCapturing => exact ⟨trivial, .nonCapturing h⟩
  | toggled toggle => exact ⟨trivial, .toggleScoped toggle h⟩

end Likeness

variable {k : Likeness} {front : List Toggle}

namespace Branches

/-- Alike, but for the toggles of `front`, which the first branch of the second has ahead of the rest. -/
inductive InStep (k : Likeness) (front : List Toggle) : Branches → Branches → Prop where
  | first {items others : List Node} : List.Forall₂ k.Item items others →
      InStep k front ⟨[], items⟩ ⟨[], others ++ front.map .toggleRest⟩
  | later (finished ended : List Node) {first second items others : List Node} :
      List.Forall₂ k.Item first second → List.Forall₂ k.Alike finished ended →
      List.Forall₂ k.Item items others →
      InStep k front ⟨finished ++ [ofItems first], items⟩
        ⟨ended ++ [ofItems (second ++ front.map .toggleRest)], others⟩

namespace InStep

variable {b c : Branches}

theorem add (h : b.InStep k front c) {item other : Node} (hitem : k.Item item other) :
    (b.add item).InStep k front (c.add other) := by
  cases h with
  | first hitems => exact .first (.cons hitem hitems)
  | later finished ended hfirst hfinished hitems =>
      exact .later _ _ hfirst hfinished (.cons hitem hitems)

theorem alike_ofItems {items others : List Node} (h : List.Forall₂ k.Item items others) :
    k.Alike (ofItems items) (ofItems others) := by
  rw [ofItems_eq, ofItems_eq]
  exact .sequence (List.forall₂_reverse_iff.2 (h.imp fun _ _ hitem => hitem.2))

theorem nextBranch (h : b.InStep k front c) : b.nextBranch.InStep k front c.nextBranch := by
  cases h with
  | first hitems => exact .later [] [] hitems .nil .nil
  | later finished ended hfirst hfinished hitems =>
      exact .later _ _ hfirst (.cons (alike_ofItems hitems) hfinished) .nil

theorem repeatLast (h : b.InStep k front c) (hb : b.items ≠ []) (q : Quantifier) :
    (b.repeatLast q).InStep k front (c.repeatLast q) := by
  cases h with
  | first hitems =>
      cases hitems with
      | nil => exact absurd rfl hb
      | cons hitem hitems => exact .first (.cons (hitem.loop q) hitems)
  | later finished ended hfirst hfinished hitems =>
      cases hitems with
      | nil => exact absurd rfl hb
      | cons hitem hitems => exact .later _ _ hfirst hfinished (.cons (hitem.loop q) hitems)

theorem node_eq (h : b.InStep k front c) : ∃ items others branches rest : List Node,
    List.Forall₂ k.Item items others ∧ List.Forall₂ k.Alike branches rest ∧
      b.node = alternation (sequence items :: branches) ∧
      c.node = alternation (sequence (front.reverse.map .toggleRest ++ others) :: rest) := by
  cases h with
  | @first items others hitems =>
      refine ⟨items.reverse, others.reverse, [], [], List.forall₂_reverse_iff.2 hitems, .nil, ?_, ?_⟩
      · rw [← ofItems_eq]
        rfl
      · rw [List.map_reverse, ← List.reverse_append, ← ofItems_eq]
        rfl
  | @later finished ended first second items others hfirst hfinished hitems =>
      refine ⟨first.reverse, second.reverse, (ofItems items :: finished).reverse,
        (ofItems others :: ended).reverse, List.forall₂_reverse_iff.2 hfirst,
        List.forall₂_reverse_iff.2 (.cons (alike_ofItems hitems) hfinished), ?_, ?_⟩
      · rw [← ofBranches_reverse, ← ofItems_eq, List.reverse_cons, List.reverse_reverse]
        rfl
      · rw [← ofBranches_reverse, List.map_reverse, ← List.reverse_append, ← ofItems_eq,
          List.reverse_cons, List.reverse_reverse]
        rfl

theorem alike_node (h : b.InStep k [] c) : k.Alike b.node c.node := by
  obtain ⟨items, others, branches, rest, hitems, hbranches, hb, hc⟩ := h.node_eq
  rw [hb, hc]
  exact .alternation (.cons (.sequence (hitems.imp fun _ _ h => h.2)) hbranches)

end InStep

end Branches

/-- The alternations under construction, and those around each open group. The toggles of `front` stand
outside of all groups. -/
inductive Nested (k : Likeness) (front : List Toggle) :
    Branches → List OpenGroup → Branches → List OpenGroup → Prop where
  | outermost {b c : Branches} : b.InStep k front c → Nested k front b [] c []
  | inside {b c outer around : Branches} {groups others : List OpenGroup} {f g : Flags}
      (opener : Opener) : b.InStep k [] c → k.flags f g →
      Nested k front outer groups around others →
      Nested k front b (⟨opener, outer, f⟩ :: groups) c (⟨opener, around, g⟩ :: others)

namespace Nested

variable {b c final ended : Branches} {group : OpenGroup} {groups others : List OpenGroup}

theorem replace (h : Nested k front b groups c others)
    (himp : ∀ toggles, b.InStep k toggles c → final.InStep k toggles ended) :
    Nested k front final groups ended others := by
  cases h with
  | outermost hb => exact .outermost (himp _ hb)
  | inside opener hb hflags houter => exact .inside opener (himp _ hb) hflags houter

theorem outside (h : Nested k front b [] c others) : others = [] ∧ b.InStep k front c := by
  cases h with
  | outermost hb => exact ⟨rfl, hb⟩

theorem exists_cons (h : Nested k front b (group :: groups) c others) :
    ∃ other rest, others = other :: rest ∧ other.opener = group.opener ∧
      k.flags group.flags other.flags ∧ b.InStep k [] c ∧
      Nested k front group.outer groups other.outer rest := by
  cases h with
  | inside opener hb hflags houter => exact ⟨_, _, rfl, rfl, hflags, hb, houter⟩

theorem isEmpty_eq (h : Nested k front b groups c others) : others.isEmpty = groups.isEmpty := by
  cases h <;> rfl

theorem openGroups_eq (h : Nested k front b groups c others) :
    others.filterMap (·.opener.group?) = groups.filterMap (·.opener.group?) := by
  induction h with
  | outermost _ => rfl
  | inside opener _ _ _ ih => simp only [List.filterMap_cons, ih]

end Nested

structure State.InStep (k : Likeness) (front : List Toggle) (n : Nat) (s t : State) : Prop where
  cursor_eq : t.cursor = s.cursor.shift n
  flags : k.flags s.flags t.flags
  groups_eq : t.groups = s.groups.shift n
  nested : Nested k front s.branches s.enclosing t.branches t.enclosing
  last_eq : t.last = s.last
  /-- What a quantifier would repeat is an item of both, not a toggle of `front`. -/
  repeats : s.last = .admitted → s.branches.items ≠ []

namespace State.InStep

variable {n : Nat} {s t : State} {c d : Cursor}

theorem move (h : s.InStep k front n t) (c : Cursor) :
    { s with cursor := c }.InStep k front n { t with cursor := c.shift n } :=
  ⟨rfl, h.flags, h.groups_eq, h.nested, h.last_eq, h.repeats⟩

theorem add (h : s.InStep k front n t) {item other : Node} (hitem : k.Item item other)
    (last : Repeatable) : (s.add item last d).InStep k front n (t.add other last (d.shift n)) :=
  ⟨rfl, h.flags, h.groups_eq, h.nested.replace fun _ hb => hb.add hitem, rfl,
    fun _ => List.cons_ne_nil _ _⟩

theorem enter (h : s.InStep k front n t) (opener : Opener) {f g : Flags} (hflags : k.flags f g) :
    (s.enter opener f d).InStep k front n (t.enter opener g (d.shift n)) :=
  ⟨rfl, hflags, h.groups_eq, .inside opener (.first .nil) h.flags h.nested, rfl, nofun⟩

theorem leave (h : s.InStep k front n t) {group : OpenGroup} {groups : List OpenGroup}
    (henclosing : s.enclosing = group :: groups) :
    ∃ other others, t.enclosing = other :: others ∧
      (s.leave group groups d).InStep k front n (t.leave other others (d.shift n)) := by
  have hnested := h.nested
  rw [henclosing] at hnested
  obtain ⟨other, others, hothers, hopener, hflags, hbody, houter⟩ := hnested.exists_cons
  refine ⟨other, others, hothers, rfl, hflags, h.groups_eq, ?_, rfl, fun _ => List.cons_ne_nil _ _⟩
  refine houter.replace fun _ hb => hb.add ?_
  rw [hopener]
  exact .of_body group.opener hbody.alike_node

theorem nextBranch (h : s.InStep k front n t) :
    (s.nextBranch d).InStep k front n (t.nextBranch (d.shift n)) :=
  ⟨rfl, h.flags, h.groups_eq, h.nested.replace fun _ hb => hb.nextBranch, rfl, nofun⟩

theorem repeatLast (h : s.InStep k front n t) (hlast : s.last = .admitted) (q : Quantifier) :
    (s.repeatLast q d).InStep k front n (t.repeatLast q (d.shift n)) := by
  have hitems := h.repeats hlast
  refine ⟨rfl, h.flags, h.groups_eq, h.nested.replace fun _ hb => hb.repeatLast hitems q, rfl,
    fun _ => ?_⟩
  obtain ⟨item, rest, hs⟩ := List.exists_cons_of_ne_nil hitems
  simp only [State.repeatLast, Branches.repeatLast, hs]
  exact List.cons_ne_nil _ _

theorem toggle (h : s.InStep k front n t) (toggle : Toggle) :
    (s.toggle toggle d).InStep k front n (t.toggle toggle (d.shift n)) :=
  let added := h.add (d := d) (.toggleRest toggle) .refused
  ⟨rfl, k.apply toggle h.flags, h.groups_eq, added.nested, rfl, nofun⟩

theorem extended_eq (h : s.InStep k front n t) : t.flags.extended = s.flags.extended :=
  k.extended_eq h.flags

theorem scope_eq (h : s.InStep k front n t) (total : Nat) :
    t.scope total = (s.scope total).shift n := by
  simp only [State.scope, Scope.shift, State.openGroups, h.groups_eq, h.nested.openGroups_eq]

theorem all_eq {items others : List Node} {p : Node → Bool} (h : List.Forall₂ k.Item items others)
    (hp : ∀ item other, k.Item item other → p other = p item) : others.all p = items.all p := by
  induction h with
  | nil => rfl
  | cons hitem _ ih => rw [List.all_cons, List.all_cons, hp _ _ hitem, ih]

theorem atPatternStart_eq (h : s.InStep k front n t) : t.atPatternStart = s.atPatternStart := by
  rw [State.atPatternStart, State.atPatternStart, h.nested.isEmpty_eq]
  cases henclosing : s.enclosing with
  | cons group groups => rfl
  | nil =>
      have hnested := h.nested
      rw [henclosing] at hnested
      obtain ⟨-, hbranches⟩ := hnested.outside
      cases hs : s.branches
      cases ht : t.branches
      rw [hs, ht] at hbranches
      cases hbranches with
      | first hitems =>
          rw [List.all_append, all_eq hitems fun item other hitem => by
            rw [hitem.2.isAnchor_eq, hitem.2.isToggleRest_eq]]
          simp [Node.isToggleRest]
      | later _ _ _ _ _ =>
          have hfinished (nodes : List Node) (node : Node) : (nodes ++ [node]).isEmpty = false :=
            List.isEmpty_eq_false_iff.2 (List.concat_ne_nil node nodes)
          simp only [hfinished, Bool.and_false, Bool.false_and]

end State.InStep

end Reader

end Specimen
