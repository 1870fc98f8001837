import Specimen.Proofs.Pattern.Visits
import Specimen.Proofs.Reader.Escaped
import Specimen.Proofs.Reader.Move

namespace Specimen

namespace GroupTable

variable {table : GroupTable} {name : String} {group n : Nat}

def numbered (table : GroupTable) : List (Nat × Option String) :=
  (List.range' 1 table.count).map fun group => (group, table.name? group)

theorem get?_isSome : (table.get? group).isSome = true ↔ 1 ≤ group ∧ group ≤ table.count := by
  cases group with
  | zero => simp [get?]
  | succ n =>
      simp only [get?, count, isSome_getElem?]
      omega

theorem mem_numbered {name : Option String} : (group, name) ∈ table.numbered ↔
    1 ≤ group ∧ group ≤ table.count ∧ table.name? group = name := by
  simp only [numbered, List.mem_map, List.mem_range'_1, Prod.mk.injEq]
  constructor
  · rintro ⟨g, hg, rfl, hname⟩
    exact ⟨hg.1, by omega, hname⟩
  · rintro ⟨hlow, hhigh, hname⟩
    exact ⟨group, ⟨hlow, by omega⟩, rfl, hname⟩

theorem numbered_push (info : GroupInfo) :
    (table.push info).numbered = table.numbered ++ [(table.count + 1, info.name)] := by
  have hkept : ∀ group ∈ List.range' 1 table.count,
      (group, (table.push info).name? group) = (group, table.name? group) := by
    intro group hgroup
    have := List.mem_range'_1.1 hgroup
    rw [name?, get?_push, if_neg (by omega), name?]
  rw [numbered, count_push, List.range'_1_concat, List.map_append, List.map_congr_left hkept,
    List.map_singleton, name?, get?_push, if_pos (Nat.add_comm _ _), Nat.add_comm, numbered]
  rfl

theorem name?_ne_of_lastNamed? (h : table.lastNamed? name n = some group) {later : Nat}
    (hlow : group < later) (hhigh : later ≤ n) : table.name? later ≠ some name := by
  induction n with
  | zero => simp [lastNamed?] at h
  | succ n ih =>
      simp only [lastNamed?] at h
      split at h
      · cases h; omega
      · next hn =>
          by_cases hlater : later = n + 1
          · exact hlater ▸ hn
          · exact ih h (by omega)

end GroupTable

namespace Reader

def groupsOf (enclosing : List OpenGroup) : List Nat := enclosing.filterMap (·.opener.group?)

namespace Opener

def visits (inside : List Nat) : Opener → List Visit
  | capture group name => [⟨inside, .capture group name⟩]
  | nonCapturing => []
  | toggled _ => []

theorem visits_node (inside : List Nat) (opener : Opener) (body : Node) :
    (opener.node body).visits inside =
      opener.visits inside ++ body.visits (opener.group?.toList ++ inside) := by
  cases opener with
  | capture group name => rfl
  | nonCapturing => rfl
  | toggled toggle => rfl

end Opener

namespace Branches

def visits (inside : List Nat) (branches : Branches) : List Visit :=
  Node.visitsOf inside branches.finished.reverse ++ Node.visitsOf inside branches.items.reverse

variable (inside : List Nat) (branches : Branches)

theorem visits_add (item : Node) :
    (branches.add item).visits inside = branches.visits inside ++ item.visits inside := by
  simp only [visits, add, List.reverse_cons, Node.visitsOf_append, Node.visitsOf_singleton,
    List.append_assoc]

theorem visits_nextBranch : branches.nextBranch.visits inside = branches.visits inside := by
  simp only [visits, nextBranch, List.reverse_cons, Node.visitsOf_append, Node.visits_ofItems,
    List.reverse_nil, Node.visitsOf, List.append_nil]

theorem visits_repeatLast (q : Quantifier) :
    (branches.repeatLast q).visits inside = branches.visits inside := by
  simp only [repeatLast]
  split
  · rfl
  · next hitems =>
      simp only [visits, hitems, List.reverse_cons, Node.visitsOf_append, Node.visitsOf_singleton,
        Node.visits]

theorem visits_node : branches.node.visits inside = branches.visits inside := by
  rw [node, Node.visits_ofBranches, List.reverse_cons, Node.visitsOf_append,
    Node.visitsOf_singleton, Node.visits_ofItems, visits]

end Branches

/-- What was met up to the innermost open group, its own beginning included. -/
def visitsAround : List OpenGroup → List Visit
  | [] => []
  | group :: enclosing =>
      visitsAround enclosing ++ group.outer.visits (groupsOf enclosing) ++
        group.opener.visits (groupsOf enclosing)

namespace State

def visits (s : State) : List Visit := visitsAround s.enclosing ++ s.branches.visits s.openGroups

variable (s : State) (d : Cursor)

theorem visits_add (item : Node) (last : Repeatable) :
    (s.add item last d).visits = s.visits ++ item.visits s.openGroups := by
  simp only [visits, add, Branches.visits_add, List.append_assoc]
  rfl

theorem visits_enter (opener : Opener) (inside : Flags) :
    (s.enter opener inside d).visits = s.visits ++ opener.visits s.openGroups := by
  simp only [visits, enter, visitsAround, Branches.visits, Branches.none, List.reverse_nil,
    Node.visitsOf, List.append_nil]
  rfl

theorem visits_leave {s : State} {group : OpenGroup} {enclosing : List OpenGroup}
    (he : s.enclosing = group :: enclosing) : (s.leave group enclosing d).visits = s.visits := by
  have hopen : s.openGroups = group.opener.group?.toList ++ groupsOf enclosing := by
    rw [openGroups, he, List.filterMap_cons]
    cases group.opener.group? with
    | none => rfl
    | some g => rfl
  rw [visits, visits, he, hopen, leave]
  simp only [visitsAround, Branches.visits_add, Opener.visits_node, Branches.visits_node,
    List.append_assoc]
  rfl

theorem visits_nextBranch : (s.nextBranch d).visits = s.visits := by
  simp only [visits, nextBranch, Branches.visits_nextBranch]
  rfl

theorem visits_repeatLast (q : Quantifier) : (s.repeatLast q d).visits = s.visits := by
  simp only [visits, repeatLast, Branches.visits_repeatLast]
  rfl

end State

theorem Cursor.Reaches.offset_le {c d : Cursor} (h : c.Reaches d) : c.offset ≤ d.offset := by
  obtain ⟨read, h⟩ := h
  rw [h.offset_eq]
  exact Nat.le_add_right _ _

theorem Cursor.Passes.offset_lt {c d : Cursor} (h : c.Passes d) : c.offset < d.offset := by
  obtain ⟨read, hread, h⟩ := h
  cases read with
  | nil => exact absurd rfl hread
  | cons x xs =>
      have := x.utf8Size_pos
      rw [h.offset_eq]
      simp only [utf8Length, List.foldr_cons]
      omega

def OpensAt (text : String) (offset : Nat) : Prop :=
  ∃ before after, text.toList = before ++ '(' :: after ∧ utf8Length before = offset

theorem opensAt_of_next? {text : String} {c d : Cursor} (hreach : (Cursor.ofString text).Reaches c)
    (hc : c.next? = some ('(', d)) : OpensAt text c.offset := by
  obtain ⟨before, hbefore⟩ := hreach
  refine ⟨before, d.rest, ?_, ?_⟩
  · have hrest := (Cursor.reads_of_next? hc).rest_eq
    rw [← List.singleton_append, ← hrest]
    exact hbefore.rest_eq
  · rw [hbefore.offset_eq]
    exact (Nat.zero_add _).symm

structure State.Numbered (text : String) (s : State) : Prop where
  captures : captures s.visits = s.groups.numbered
  count : s.groups.count ≤ maxGroups
  ordered : s.groups.groups.toList.Pairwise fun a b => a.offset < b.offset
  passed : ∀ info ∈ s.groups.groups.toList, info.offset < s.cursor.offset
  opens : ∀ info ∈ s.groups.groups.toList, OpensAt text info.offset
  refer : ReferBack s.visits

namespace State.Numbered

variable {text : String} {s t : State} {d : Cursor}

theorem start (flags : Flags) : (State.start flags text).Numbered text := by
  have hvisits : (State.start flags text).visits = [] := rfl
  refine ⟨rfl, Nat.zero_le _, .nil, nofun, nofun, ?_⟩
  rw [hvisits]
  exact .nil

theorem keep (h : s.Numbered text) (hvisits : t.visits = s.visits) (hgroups : t.groups = s.groups)
    (hreach : s.cursor.Reaches t.cursor) : t.Numbered text := by
  refine ⟨?_, ?_, ?_, ?_, ?_, ?_⟩
  · rw [hvisits, hgroups, h.captures]
  · rw [hgroups]
    exact h.count
  · rw [hgroups]
    exact h.ordered
  · intro info hinfo
    rw [hgroups] at hinfo
    exact Nat.lt_of_lt_of_le (h.passed info hinfo) hreach.offset_le
  · rw [hgroups]
    exact h.opens
  · rw [hvisits]
    exact h.refer

theorem add (h : s.Numbered text) {item : Node} {last : Repeatable}
    (hitem : item.visits s.openGroups = []) (hreach : s.cursor.Reaches d) :
    (s.add item last d).Numbered text := by
  refine h.keep ?_ rfl hreach
  rw [visits_add, hitem, List.append_nil]

theorem enter (h : s.Numbered text) {opener : Opener} {inside : Flags}
    (hopener : opener.visits s.openGroups = []) (hreach : s.cursor.Reaches d) :
    (s.enter opener inside d).Numbered text := by
  refine h.keep ?_ rfl hreach
  rw [visits_enter, hopener, List.append_nil]

theorem declare (h : s.Numbered text) {name : Option String} (hcount : s.groups.count < maxGroups)
    (hopens : OpensAt text s.cursor.offset) (hpass : s.cursor.Passes d) :
    (s.declare name d).Numbered text := by
  have hvisits : (s.declare name d).visits =
      s.visits ++ [⟨s.openGroups, .capture (s.groups.count + 1) name⟩] := by
    exact visits_enter s d (.capture (s.groups.count + 1) name) s.flags
  have hgroups : (s.declare name d).groups.groups.toList =
      s.groups.groups.toList ++ [⟨name, s.cursor.offset⟩] := by
    simp only [State.declare, GroupTable.push, Array.toList_push]
  refine ⟨?_, ?_, ?_, ?_, ?_, ?_⟩
  · rw [hvisits, captures_append, h.captures]
    exact (GroupTable.numbered_push ⟨name, s.cursor.offset⟩).symm
  · rw [State.declare, GroupTable.count_push]
    exact hcount
  · rw [hgroups, List.pairwise_append]
    refine ⟨h.ordered, List.pairwise_singleton _ _, fun a ha b hb => ?_⟩
    rw [List.mem_singleton.1 hb]
    exact h.passed a ha
  · intro info hinfo
    rw [hgroups] at hinfo
    rcases List.mem_append.1 hinfo with hinfo | hinfo
    · exact Nat.lt_trans (h.passed info hinfo) hpass.offset_lt
    · rw [List.mem_singleton.1 hinfo]
      exact hpass.offset_lt
  · intro info hinfo
    rw [hgroups] at hinfo
    rcases List.mem_append.1 hinfo with hinfo | hinfo
    · exact h.opens info hinfo
    · rw [List.mem_singleton.1 hinfo]
      exact hopens
  · rw [hvisits]
    exact h.refer.capture _ _ _

theorem refersBack (h : s.Numbered text) {total group : Nat} {name : Option String}
    (hcheck : (s.scope total).check group = .ok ())
    (hname : ∀ n, name = some n → s.groups.find? n = some group) :
    RefersBack s.visits s.openGroups group name := by
  obtain ⟨hdefined, hclosed⟩ := Scope.check_ok hcheck
  obtain ⟨hlow, hhigh⟩ := GroupTable.get?_isSome.1 hdefined
  refine ⟨⟨s.groups.name? group, ?_⟩, hclosed, fun n hn => ⟨?_, fun later hlater hmem => ?_⟩⟩
  · rw [h.captures]
    exact GroupTable.mem_numbered.2 ⟨hlow, hhigh, rfl⟩
  · rw [h.captures]
    exact GroupTable.mem_numbered.2 ⟨hlow, hhigh, GroupTable.name?_of_lastNamed? (hname n hn)⟩
  · rw [h.captures] at hmem
    obtain ⟨_, hle, heq⟩ := GroupTable.mem_numbered.1 hmem
    exact GroupTable.name?_ne_of_lastNamed? (hname n hn) hlater hle heq

theorem refer_add (h : s.Numbered text) {group : Nat} {name : Option String}
    (href : RefersBack s.visits s.openGroups group name) (hreach : s.cursor.Reaches d) :
    (s.add (.backRef group name) .admitted d).Numbered text := by
  have hvisits : (s.add (.backRef group name) .admitted d).visits =
      s.visits ++ [⟨s.openGroups, .backRef group name⟩] := visits_add s d _ _
  refine ⟨?_, h.count, h.ordered, ?_, h.opens, ?_⟩
  · rw [hvisits, captures_append, h.captures]
    exact List.append_nil _
  · intro info hinfo
    exact Nat.lt_of_lt_of_le (h.passed info hinfo) hreach.offset_le
  · rw [hvisits]
    exact h.refer.backRef href

theorem escape (h : s.Numbered text) {total : Nat} {node : Node}
    (hnode : Escaped (s.scope total) node) (hreach : s.cursor.Reaches d) :
    (s.add node .admitted d).Numbered text := by
  cases hnode with
  | empty => exact h.add rfl hreach
  | anchor _ => exact h.add rfl hreach
  | lineBreak => exact h.add rfl hreach
  | char _ _ => exact h.add rfl hreach
  | bracket _ => exact h.add rfl hreach
  | numbered hcheck => exact h.refer_add (h.refersBack hcheck nofun) hreach
  | named hfind hcheck =>
      refine h.refer_add (h.refersBack hcheck fun n hn => ?_) hreach
      cases hn
      exact hfind

theorem opening (h : s.Numbered text) {c : Cursor} (hmove : Opening s c t)
    (hopens : OpensAt text s.cursor.offset) (hpass : s.cursor.Passes t.cursor) :
    t.Numbered text := by
  cases hmove with
  | capture _ hcount => exact h.declare hcount hopens hpass
  | named _ _ _ _ hcount => exact h.declare hcount hopens hpass
  | nonCapturing _ _ => exact h.enter rfl hpass.reaches
  | toggleScoped _ _ => exact h.enter rfl hpass.reaches
  | @toggleRest _ e toggle _ _ =>
      have added : (s.add (.toggleRest toggle) .refused e).Numbered text := h.add rfl hpass.reaches
      exact added.keep rfl rfl (.refl e)

theorem move (h : s.Numbered text) {total : Nat} (hreach : (Cursor.ofString text).Reaches s.cursor)
    (hpass : s.cursor.Passes t.cursor) (hmove : Move total s t) : t.Numbered text := by
  cases hmove with
  | repeatLast _ _ => exact h.keep (visits_repeatLast _ _ _) rfl hpass.reaches
  | leave _ he => exact h.keep (visits_leave _ he) rfl hpass.reaches
  | nextBranch _ => exact h.keep (visits_nextBranch _ _) rfl hpass.reaches
  | lineAnchor _ _ _ => exact h.add rfl hpass.reaches
  | escapedAnchor _ _ _ => exact h.add rfl hpass.reaches
  | escape _ he _ => exact h.escape (Escaped.of_readEscape he) hpass.reaches
  | dot _ => exact h.add rfl hpass.reaches
  | group hc ho => exact h.opening ho (opensAt_of_next? hreach hc) hpass
  | bracket _ _ => exact h.add rfl hpass.reaches
  | char _ _ _ => exact h.add rfl hpass.reaches

end State.Numbered

end Reader

open Reader

variable {text : String} {flags : Flags} {p : Pattern}

theorem Pattern.exists_numbered (h : Pattern.read text flags = .ok p) :
    ∃ s : State, s.Numbered text ∧ s.branches.node.visits [] = s.visits ∧
      p = ⟨s.branches.node, flags, s.groups⟩ := by
  obtain ⟨s, hs, _, he, rfl⟩ := read_induction (P := State.Numbered text) (.start flags)
    (fun hs hc => hs.keep rfl rfl (reaches_of_skipTrivia hc))
    (fun hs hreach _ hpass hmove => hs.move hreach hpass hmove) h
  refine ⟨s, hs, ?_, rfl⟩
  rw [Branches.visits_node, State.visits, State.openGroups, he]
  rfl

theorem Pattern.numbered_of_read (h : Pattern.read text flags = .ok p) :
    p.groupCount ≤ maxGroups ∧
      captures (p.root.visits []) =
        (List.range' 1 p.groupCount).map (fun group => (group, p.groupName? group)) ∧
      (p.groups.groups.toList.Pairwise fun a b => a.offset < b.offset) ∧
      (∀ info ∈ p.groups.groups.toList, OpensAt text info.offset) ∧
      ∀ before inside group name, before ++ [⟨inside, .backRef group name⟩] <+: p.root.visits [] →
        (1 ≤ group ∧ group ≤ p.groupCount) ∧ (∃ n, (group, n) ∈ captures before) ∧ group ∉ inside ∧
          ∀ n, name = some n → p.groupName? group = some n ∧
            ∀ later, group < later → (later, some n) ∉ captures before := by
  obtain ⟨s, hs, hvisits, rfl⟩ := Pattern.exists_numbered h
  simp only [hvisits]
  refine ⟨hs.count, hs.captures, hs.ordered, hs.opens, ?_⟩
  intro before inside group name hprefix
  obtain ⟨hmet, hclosed, hnamed⟩ := hs.refer before inside group name hprefix
  have hkept : ∀ n, (group, n) ∈ captures before → (group, n) ∈ s.groups.numbered := by
    intro n hn
    obtain ⟨rest, hrest⟩ := hprefix
    rw [← hs.captures, ← hrest, captures_append, captures_append]
    simp [hn]
  obtain ⟨n, hn⟩ := hmet
  obtain ⟨hlow, hhigh, _⟩ := GroupTable.mem_numbered.1 (hkept n hn)
  refine ⟨⟨hlow, hhigh⟩, ⟨n, hn⟩, hclosed, fun m hm => ?_⟩
  obtain ⟨hcaptured, hlast⟩ := hnamed m hm
  exact ⟨(GroupTable.mem_numbered.1 (hkept _ hcaptured)).2.2, hlast⟩

theorem Pattern.numbered_of_read_nested :
    ∃ p, Pattern.read "(x)((y)\\1)\\3" .none = .ok p ∧ p.groupCount = 3 ∧
      ∀ before inside group name, before ++ [⟨inside, .backRef group name⟩] <+: p.root.visits [] →
        1 ≤ group ∧ group ≤ 3 := by
  have heval : (Pattern.read "(x)((y)\\1)\\3" .none).toOption.map Pattern.groupCount = some 3 := by
    decide +kernel
  obtain ⟨p, hp, hcount⟩ := exists_of_read heval
  refine ⟨p, hp, hcount, fun before inside group name hprefix => ?_⟩
  obtain ⟨_, _, _, _, hrefer⟩ := Pattern.numbered_of_read hp
  exact hcount ▸ (hrefer before inside group name hprefix).1

end Specimen
