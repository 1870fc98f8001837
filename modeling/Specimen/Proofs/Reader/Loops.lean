import Specimen.Proofs.Pattern.Children
import Specimen.Proofs.Reader.Escaped
import Specimen.Proofs.Reader.Reached

namespace Specimen.Reader

variable {total : Nat} {s t : State} {d : Cursor} {q : Quantifier} {body : Node}

def Branches.HasLoop (branches : Branches) (q : Quantifier) (body : Node) : Prop :=
  (∃ item ∈ branches.items, item.Contains (.loop q body)) ∨
    ∃ branch ∈ branches.finished, branch.Contains (.loop q body)

def State.HasLoop (s : State) (q : Quantifier) (body : Node) : Prop :=
  s.branches.HasLoop q body ∨ ∃ group ∈ s.enclosing, group.outer.HasLoop q body

theorem not_contains_loop_lineBreak : ¬ lineBreak.Contains (.loop q body) := by
  have hchar (x : Char) : ¬ (Node.char x false).Contains (.loop q body) :=
    Node.not_contains_loop rfl rfl
  have hbracket : ¬ (Node.bracket .lineBreaks false).Contains (.loop q body) :=
    Node.not_contains_loop rfl rfl
  rw [lineBreak, Node.contains_loop_iff rfl]
  simp only [Node.children, List.mem_cons, List.not_mem_nil, or_false, exists_eq_or_imp,
    exists_eq_left, hbracket]
  rw [Node.contains_loop_iff rfl]
  simp [Node.children, hchar]

theorem Escaped.not_contains_loop {scope : Scope} {node : Node} (h : Escaped scope node) :
    ¬ node.Contains (.loop q body) := by
  cases h with
  | lineBreak => exact not_contains_loop_lineBreak
  | empty | anchor _ | char _ _ | bracket _ | numbered _ | named _ _ =>
      exact Node.not_contains_loop rfl rfl

namespace Branches

variable {branches : Branches}

theorem hasLoop_add {item : Node} : (branches.add item).HasLoop q body ↔
    item.Contains (.loop q body) ∨ branches.HasLoop q body := by
  simp only [HasLoop, add, List.exists_mem_cons_iff, or_assoc]

theorem hasLoop_add_of_not_contains {item : Node} (h : ¬ item.Contains (.loop q body)) :
    (branches.add item).HasLoop q body ↔ branches.HasLoop q body := by
  rw [hasLoop_add, or_iff_right h]

theorem hasLoop_nextBranch : branches.nextBranch.HasLoop q body ↔ branches.HasLoop q body := by
  simp only [HasLoop, nextBranch, List.exists_mem_cons_iff, Node.contains_loop_ofItems]
  simp

theorem contains_loop_node : branches.node.Contains (.loop q body) ↔ branches.HasLoop q body := by
  rw [node, Node.contains_loop_ofBranches, List.exists_mem_cons_iff, Node.contains_loop_ofItems,
    HasLoop]

theorem not_hasLoop_none : ¬ Branches.none.HasLoop q body := by
  simp [HasLoop, Branches.none]

theorem hasLoop_repeatLast_iff {item : Node} {rest : List Node}
    (h : branches.items = item :: rest) {r : Quantifier} : (branches.repeatLast r).HasLoop q body ↔
      (q = r ∧ body = item) ∨ branches.HasLoop q body := by
  have hloop : (Node.loop r item).Contains (.loop q body) ↔
      (q = r ∧ body = item) ∨ item.Contains (.loop q body) := by
    rw [Node.contains_iff, Node.loop.injEq]
    simp [Node.children]
  simp only [HasLoop, repeatLast, h, List.exists_mem_cons_iff, hloop, or_assoc]

theorem hasLoop_repeatLast {r : Quantifier} (h : branches.HasLoop q body) :
    (branches.repeatLast r).HasLoop q body := by
  match hitems : branches.items with
  | [] => simpa only [repeatLast, hitems] using h
  | _ :: _ => exact (hasLoop_repeatLast_iff hitems).2 (.inr h)

theorem of_hasLoop_repeatLast {r : Quantifier} (h : (branches.repeatLast r).HasLoop q body) :
    (q = r ∧ ∃ rest, branches.items = body :: rest) ∨ branches.HasLoop q body := by
  match hitems : branches.items with
  | [] =>
      right
      simpa only [repeatLast, hitems] using h
  | item :: rest =>
      obtain ⟨hq, rfl⟩ | h := (hasLoop_repeatLast_iff hitems).1 h
      · exact .inl ⟨hq, rest, rfl⟩
      · exact .inr h

end Branches

theorem Opener.contains_loop_node {opener : Opener} {inside : Node} :
    (opener.node inside).Contains (.loop q body) ↔ inside.Contains (.loop q body) := by
  have honly {parent : Node} (hloop : parent.isLoop = false) (hchildren : parent.children = [inside]) :
      parent.Contains (.loop q body) ↔ inside.Contains (.loop q body) := by
    rw [Node.contains_loop_iff hloop, hchildren]
    simp
  cases opener with
  | capture group name => exact honly rfl rfl
  | nonCapturing => exact honly rfl rfl
  | toggled toggle => exact honly rfl rfl

namespace State

theorem hasLoop_add {item : Node} {last : Repeatable} (h : ¬ item.Contains (.loop q body)) :
    (s.add item last d).HasLoop q body ↔ s.HasLoop q body := by
  simp only [HasLoop, add, Branches.hasLoop_add_of_not_contains h]

theorem hasLoop_enter {opener : Opener} {inside : Flags} :
    (s.enter opener inside d).HasLoop q body ↔ s.HasLoop q body := by
  simp only [HasLoop, enter, List.exists_mem_cons_iff]
  exact or_iff_right Branches.not_hasLoop_none

theorem hasLoop_declare {name : Option String} :
    (s.declare name d).HasLoop q body ↔ s.HasLoop q body := by
  have henter : (s.enter (.capture (s.groups.count + 1) name) s.flags d).HasLoop q body ↔
      s.HasLoop q body := hasLoop_enter
  exact henter

theorem hasLoop_leave {group : OpenGroup} {enclosing : List OpenGroup}
    (he : s.enclosing = group :: enclosing) :
    (s.leave group enclosing d).HasLoop q body ↔ s.HasLoop q body := by
  simp only [HasLoop, leave, he, List.exists_mem_cons_iff, Branches.hasLoop_add,
    Opener.contains_loop_node, Branches.contains_loop_node, or_assoc]

theorem hasLoop_nextBranch : (s.nextBranch d).HasLoop q body ↔ s.HasLoop q body := by
  simp only [HasLoop, nextBranch, Branches.hasLoop_nextBranch]

theorem hasLoop_repeatLast {r : Quantifier} (h : s.HasLoop q body) :
    (s.repeatLast r d).HasLoop q body :=
  h.imp_left Branches.hasLoop_repeatLast

theorem of_hasLoop_repeatLast {r : Quantifier} (h : (s.repeatLast r d).HasLoop q body) :
    (q = r ∧ ∃ rest, s.branches.items = body :: rest) ∨ s.HasLoop q body := by
  rcases h with h | h
  · exact (Branches.of_hasLoop_repeatLast h).imp_right .inl
  · exact .inr (.inr h)

end State

theorem Opening.hasLoop_iff {c : Cursor} (h : Opening s c t) :
    t.HasLoop q body ↔ s.HasLoop q body := by
  cases h with
  | capture _ _ => exact State.hasLoop_declare
  | named _ _ _ _ _ => exact State.hasLoop_declare
  | nonCapturing _ _ => exact State.hasLoop_enter
  | toggleScoped _ _ => exact State.hasLoop_enter
  | @toggleRest _ e toggle _ _ =>
      have hadd : (s.add (.toggleRest toggle) .refused e).HasLoop q body ↔ s.HasLoop q body :=
        State.hasLoop_add (Node.not_contains_loop rfl rfl)
      exact hadd

theorem Move.hasLoop (h : Move total s t) (hs : s.HasLoop q body) : t.HasLoop q body := by
  have hadd {item : Node} {last : Repeatable} {d : Cursor} : (s.add item last d).HasLoop q body :=
    hs.imp_left fun hloop => Branches.hasLoop_add.2 (.inr hloop)
  cases h with
  | repeatLast _ _ => exact State.hasLoop_repeatLast hs
  | leave _ he => exact (State.hasLoop_leave he).2 hs
  | nextBranch _ => exact State.hasLoop_nextBranch.2 hs
  | group _ ho => exact ho.hasLoop_iff.2 hs
  | lineAnchor _ _ _ | escapedAnchor _ _ _ | escape _ _ _ | dot _ | bracket _ _ | char _ _ _ => exact hadd

theorem Move.of_hasLoop (h : Move total s t) (ht : t.HasLoop q body) :
    s.HasLoop q body ∨ s.last = .admitted ∧ (∃ rest, s.branches.items = body :: rest) ∧
      ∃ d, readQuantifier s.cursor = .ok (some (q, d)) := by
  have hleaf {item : Node} (hloop : item.isLoop = false) (hchildren : item.children = [])
      {last : Repeatable} {d : Cursor} (ht : (s.add item last d).HasLoop q body) :
      s.HasLoop q body := (State.hasLoop_add (Node.not_contains_loop hloop hchildren)).1 ht
  cases h with
  | repeatLast hq hlast =>
      obtain ⟨rfl, hitems⟩ | hs := State.of_hasLoop_repeatLast ht
      · exact .inr ⟨hlast, hitems, _, hq⟩
      · exact .inl hs
  | leave _ he => exact .inl ((State.hasLoop_leave he).1 ht)
  | nextBranch _ => exact .inl (State.hasLoop_nextBranch.1 ht)
  | group _ ho => exact .inl (ho.hasLoop_iff.1 ht)
  | escape _ he _ =>
      exact .inl ((State.hasLoop_add (Escaped.of_readEscape he).not_contains_loop).1 ht)
  | lineAnchor _ _ _ | escapedAnchor _ _ _ | dot _ | bracket _ _ | char _ _ _ =>
      exact .inl (hleaf rfl rfl ht)

theorem Reached.contains_of_hasLoop {text : String} {flags : Flags} {p : Pattern}
    (h : Reached text flags s) (hs : s.HasLoop q body) (hread : Pattern.read text flags = .ok p) :
    p.root.Contains (.loop q body) := by
  have keeps {s t : State} (hs : s.HasLoop q body)
      (hst : step (countGroups flags text.toList) s = .ok (.more t)) : t.HasLoop q body := by
    obtain ⟨_, _, _, hmove⟩ := step_more hst
    exact hmove.hasLoop hs
  obtain ⟨t, ht, henclosing, hroot⟩ := h.of_read hs keeps hread
  rw [hroot, Branches.contains_loop_node]
  simpa [State.HasLoop, henclosing] using ht

end Specimen.Reader
