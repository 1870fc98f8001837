import Specimen.Proofs.Pattern.Swapped
import Specimen.Proofs.Reader.InStepRun
/-!
Two readings that have come to the same place of a text and differ in one item read so far. They go on
alike to the end, since no step looks into what was read.
-/

namespace Specimen.Reader

variable {old new : Node}

inductive Branches.Swapped (old new : Node) : Branches → Branches → Prop where
  | item {items others : List Node} (finished : List Node) :
      OneApart (Node.Swapped old new) items others → Swapped old new ⟨finished, items⟩ ⟨finished, others⟩
  | branch {finished ended : List Node} (items : List Node) :
      OneApart (Node.Swapped old new) finished ended → Swapped old new ⟨finished, items⟩ ⟨ended, items⟩

namespace Branches.Swapped

variable {b c : Branches}

theorem add (h : b.Swapped old new c) (item : Node) : (b.add item).Swapped old new (c.add item) := by
  cases h with
  | item finished hitems => exact .item finished (.tail item hitems)
  | branch items hfinished => exact .branch (item :: items) hfinished

theorem nextBranch (h : b.Swapped old new c) : b.nextBranch.Swapped old new c.nextBranch := by
  cases h with
  | item finished hitems => exact .branch [] (.head finished (.ofItems hitems))
  | branch items hfinished => exact .branch [] (.tail _ hfinished)

theorem repeatLast (h : b.Swapped old new c) (q : Quantifier) :
    (b.repeatLast q).Swapped old new (c.repeatLast q) := by
  cases h with
  | item finished hitems =>
      cases hitems with
      | head rest hitem => exact .item finished (.head rest (.loop q hitem))
      | tail item hrest => exact .item finished (.tail (.loop q item) hrest)
  | branch items hfinished =>
      cases items with
      | nil => exact .branch [] hfinished
      | cons item rest => exact .branch (.loop q item :: rest) hfinished

theorem node (h : b.Swapped old new c) : Node.Swapped old new b.node c.node := by
  cases h with
  | item finished hitems => exact .ofBranches (.head finished (.ofItems hitems))
  | branch items hfinished => exact .ofBranches (.tail _ hfinished)

end Branches.Swapped

theorem Opener.swapped_node {body other : Node} (h : Node.Swapped old new body other)
    (opener : Opener) : Node.Swapped old new (opener.node body) (opener.node other) := by
  cases opener with
  | capture group name => exact .capture group name h
  | nonCapturing => exact .nonCapturing h
  | toggled toggle => exact .toggleScoped toggle h

structure OpenGroup.Swapped (old new : Node) (group other : OpenGroup) : Prop where
  opener_eq : other.opener = group.opener
  outer : group.outer.Swapped old new other.outer
  flags_eq : other.flags = group.flags

inductive SwappedWithin (old new : Node) :
    Branches → List OpenGroup → Branches → List OpenGroup → Prop where
  | innermost {b c : Branches} (groups : List OpenGroup) : b.Swapped old new c →
      SwappedWithin old new b groups c groups
  | around {groups others : List OpenGroup} (b : Branches) :
      OneApart (OpenGroup.Swapped old new) groups others → SwappedWithin old new b groups b others

namespace SwappedWithin

variable {b c : Branches} {group : OpenGroup} {groups others : List OpenGroup}

theorem replace (h : SwappedWithin old new b groups c others) (change : Branches → Branches)
    (hchange : ∀ {b c : Branches}, b.Swapped old new c → (change b).Swapped old new (change c)) :
    SwappedWithin old new (change b) groups (change c) others := by
  cases h with
  | innermost groups hb => exact .innermost groups (hchange hb)
  | around b hgroups => exact .around (change b) hgroups

theorem isEmpty_eq (h : SwappedWithin old new b groups c others) : others.isEmpty = groups.isEmpty := by
  cases h with
  | innermost groups _ => rfl
  | around b hgroups => exact hgroups.isEmpty_eq

theorem openers_eq (h : SwappedWithin old new b groups c others) :
    others.map (·.opener) = groups.map (·.opener) := by
  cases h with
  | innermost groups _ => rfl
  | around b hgroups => exact hgroups.map_eq fun hgroup => hgroup.opener_eq

theorem outside (h : SwappedWithin old new b [] c others) : others = [] ∧ b.Swapped old new c := by
  cases h with
  | innermost groups hb => exact ⟨rfl, hb⟩
  | around b hgroups => cases hgroups

theorem enter (h : SwappedWithin old new b groups c others) (opener : Opener) (flags : Flags) :
    SwappedWithin old new .none (⟨opener, b, flags⟩ :: groups) .none (⟨opener, c, flags⟩ :: others) := by
  cases h with
  | innermost groups hb => exact .around .none (.head groups ⟨rfl, hb, rfl⟩)
  | around b hgroups => exact .around .none (.tail _ hgroups)

theorem leave (h : SwappedWithin old new b (group :: groups) c others) : ∃ other rest,
    others = other :: rest ∧ other.flags = group.flags ∧
      SwappedWithin old new (group.outer.add (group.opener.node b.node)) groups
        (other.outer.add (other.opener.node c.node)) rest := by
  cases h with
  | innermost groups hb =>
      refine ⟨group, _, rfl, rfl, .innermost _ (.item _ (.head _ ?_))⟩
      exact Opener.swapped_node hb.node group.opener
  | around b hone =>
      cases hone with
      | @head _ other _ hgroup =>
          refine ⟨other, _, rfl, hgroup.flags_eq, .innermost _ ?_⟩
          rw [hgroup.opener_eq]
          exact hgroup.outer.add _
      | tail _ hone => exact ⟨group, _, rfl, rfl, .around _ hone⟩

end SwappedWithin

structure State.Swapped (old new : Node) (s t : State) : Prop where
  cursor_eq : t.cursor = s.cursor
  flags_eq : t.flags = s.flags
  groups_eq : t.groups = s.groups
  last_eq : t.last = s.last
  within : SwappedWithin old new s.branches s.enclosing t.branches t.enclosing

namespace State.Swapped

variable {s t : State} {c d : Cursor}

theorem extended_eq (h : s.Swapped old new t) : t.flags.extended = s.flags.extended := by
  rw [h.flags_eq]

theorem move (h : s.Swapped old new t) (c : Cursor) :
    { s with cursor := c }.Swapped old new { t with cursor := c } :=
  ⟨rfl, h.flags_eq, h.groups_eq, h.last_eq, h.within⟩

theorem of_add (s : State) (last : Repeatable) (d : Cursor) :
    (s.add old last d).Swapped old new (s.add new last d) :=
  ⟨rfl, rfl, rfl, rfl, .innermost s.enclosing (.item _ (.head _ .here))⟩

theorem add (h : s.Swapped old new t) (item : Node) (last : Repeatable) :
    (s.add item last d).Swapped old new (t.add item last d) :=
  ⟨rfl, h.flags_eq, h.groups_eq, rfl, h.within.replace _ fun hb => hb.add item⟩

theorem enter (h : s.Swapped old new t) (opener : Opener) (inside : Flags) :
    (s.enter opener inside d).Swapped old new (t.enter opener inside d) := by
  refine ⟨rfl, rfl, h.groups_eq, rfl, ?_⟩
  simp only [State.enter, h.flags_eq]
  exact h.within.enter opener s.flags

theorem leave (h : s.Swapped old new t) {group : OpenGroup} {groups : List OpenGroup}
    (henclosing : s.enclosing = group :: groups) : ∃ other others,
      t.enclosing = other :: others ∧
        (s.leave group groups d).Swapped old new (t.leave other others d) := by
  have hwithin := h.within
  rw [henclosing] at hwithin
  obtain ⟨other, others, hothers, hflags, hleft⟩ := hwithin.leave
  exact ⟨other, others, hothers, rfl, hflags, h.groups_eq, rfl, hleft⟩

theorem nextBranch (h : s.Swapped old new t) :
    (s.nextBranch d).Swapped old new (t.nextBranch d) :=
  ⟨rfl, h.flags_eq, h.groups_eq, rfl, h.within.replace _ fun hb => hb.nextBranch⟩

theorem repeatLast (h : s.Swapped old new t) (q : Quantifier) :
    (s.repeatLast q d).Swapped old new (t.repeatLast q d) :=
  ⟨rfl, h.flags_eq, h.groups_eq, rfl, h.within.replace _ fun hb => hb.repeatLast q⟩

theorem toggle (h : s.Swapped old new t) (toggle : Toggle) :
    (s.toggle toggle d).Swapped old new (t.toggle toggle d) := by
  have hadded := h.add (d := d) (.toggleRest toggle) .refused
  refine ⟨rfl, ?_, h.groups_eq, rfl, hadded.within⟩
  simp only [State.toggle, h.flags_eq]

theorem declare (h : s.Swapped old new t) (name : Option String) :
    (s.declare name d).Swapped old new (t.declare name d) := by
  have hentered := h.enter (d := d) (.capture (s.groups.count + 1) name) s.flags
  refine ⟨rfl, h.flags_eq, ?_, rfl, ?_⟩
  · simp only [State.declare, h.groups_eq, h.cursor_eq]
  · simp only [State.declare, h.groups_eq, h.flags_eq]
    exact hentered.within

theorem scope_eq (h : s.Swapped old new t) (total : Nat) : t.scope total = s.scope total := by
  have hopen (u : State) : u.openGroups = (u.enclosing.map (·.opener)).filterMap Opener.group? := by
    rw [State.openGroups, List.filterMap_map]
    rfl
  simp only [State.scope, h.groups_eq, hopen, h.within.openers_eq]

theorem atPatternStart_eq (hplaces : new.opensPattern = old.opensPattern)
    (h : s.Swapped old new t) : t.atPatternStart = s.atPatternStart := by
  have hempty := h.within.isEmpty_eq
  simp only [State.atPatternStart, hempty]
  cases henclosing : s.enclosing with
  | cons group groups => rfl
  | nil =>
      have hwithin := h.within
      rw [henclosing] at hwithin
      obtain ⟨-, hbranches⟩ := hwithin.outside
      generalize s.branches = b at hbranches
      generalize t.branches = c at hbranches
      have hall (items : List Node) : (items.all fun item => item.isAnchor || item.isToggleRest) =
          (items.map Node.opensPattern).all id := by
        rw [List.all_map]
        rfl
      cases hbranches with
      | item finished hitems =>
          rw [hall, hall, hitems.map_eq fun hitem => hitem.opensPattern_eq hplaces]
      | branch items hfinished => rw [hfinished.isEmpty_eq]

end State.Swapped

section Steps

variable {s t : State} {c d : Cursor} {total : Nat}

abbrev SwappedStates (old new : Node) : Except SyntaxError State → Except SyntaxError State → Prop :=
  Agree (State.Swapped old new)

theorem openCapture_swapped (h : s.Swapped old new t) (name : Option String) :
    SwappedStates old new (openCapture s name d) (openCapture t name d) := by
  simp only [openCapture, h.groups_eq]
  split
  · exact .error _
  · have hdeclared := h.declare (d := d) name
    simp only [State.declare, h.groups_eq] at hdeclared
    exact .ok hdeclared

theorem openNamed_swapped (h : s.Swapped old new t) (closing : Char) :
    SwappedStates old new (openNamed s closing c) (openNamed t closing c) := by
  simp only [openNamed]
  cases readGroupName closing c with
  | error reason => exact .error reason
  | ok r => exact openCapture_swapped h (some r.1)

theorem openToggle_swapped (h : s.Swapped old new t) :
    SwappedStates old new (openToggle s c) (openToggle t c) := by
  simp only [openToggle, h.flags_eq]
  split
  · exact .ok (h.enter _ _)
  · exact .ok (h.toggle _)
  · exact .error _

theorem openSpecial_swapped (h : s.Swapped old new t) :
    SwappedStates old new (openSpecial s c) (openSpecial t c) := by
  simp only [openSpecial, h.flags_eq]
  split
  · exact .ok (h.enter .nonCapturing s.flags)
  · exact .error _
  · exact .error _
  · split
    · exact .error _
    · exact openNamed_swapped h '>'
  · exact openNamed_swapped h '\''
  · exact .error _
  · exact .error _
  · exact .error _
  · exact openToggle_swapped h

theorem readGroup_swapped (h : s.Swapped old new t) :
    SwappedStates old new (readGroup s c) (readGroup t c) := by
  simp only [readGroup]
  cases c.skip? '?' with
  | some d => exact openSpecial_swapped h
  | none => exact openCapture_swapped h none

theorem addBracket_swapped (h : s.Swapped old new t) :
    SwappedStates old new (addBracket s c) (addBracket t c) := by
  simp only [addBracket, h.flags_eq]
  cases readBracket s.flags.icase c with
  | error reason => exact .error reason
  | ok r => exact .ok (h.add _ .admitted)

theorem addChar_swapped (h : s.Swapped old new t) (x : Char) :
    (addChar s x d).Swapped old new (addChar t x d) := by
  simp only [addChar, h.flags_eq]
  exact h.add _ .admitted

theorem addBrace_swapped (h : s.Swapped old new t) :
    SwappedStates old new (addBrace s d) (addBrace t d) := by
  simp only [addBrace, h.cursor_eq]
  split
  · exact .error _
  · exact .ok (addChar_swapped h '{')

variable (hplaces : new.opensPattern = old.opensPattern)

include hplaces

theorem addAnchor_swapped (h : s.Swapped old new t) (kind : Anchor) :
    SwappedStates old new (addAnchor s kind d) (addAnchor t kind d) := by
  have hadded := h.add (d := d) (.anchor kind) .refused
  simp only [addAnchor, h.atPatternStart_eq hplaces, h.within.isEmpty_eq, h.flags_eq]
  split
  · split
    · exact .ok hadded
    · exact .error _
  · split
    · exact .error _
    · split
      · exact .error _
      · exact .ok hadded
      · exact .error _

theorem addEscape_swapped (h : s.Swapped old new t) :
    SwappedStates old new (addEscape total s c) (addEscape total t c) := by
  simp only [addEscape, h.scope_eq, h.flags_eq]
  split
  · exact .error _
  · exact addAnchor_swapped hplaces h _
  · exact .ok (h.add _ .admitted)

theorem readTerm_swapped (h : s.Swapped old new t) (x : Char) :
    SwappedStates old new (readTerm total s x d) (readTerm total t x d) := by
  simp only [readTerm, h.flags_eq]
  split
  · exact addAnchor_swapped hplaces h _
  · exact addAnchor_swapped hplaces h _
  · exact addEscape_swapped hplaces h
  · exact .ok (h.add _ .admitted)
  · exact readGroup_swapped h
  · exact addBracket_swapped h
  · exact .error _
  · exact .error _
  · exact .error _
  · exact addBrace_swapped h
  · exact .ok (addChar_swapped h _)

abbrev SwappedSteps (old new : Node) :
    Except SyntaxError (Progress State Reading) → Except SyntaxError (Progress State Reading) →
      Prop :=
  Agree (Progress.Related (State.Swapped old new)
    fun r q => q.2 = r.2 ∧ Node.Swapped old new r.1 q.1)

omit hplaces in
theorem closeGroup_swapped (h : s.Swapped old new t) :
    SwappedSteps old new (closeGroup s d) (closeGroup t d) := by
  have hempty := h.within.isEmpty_eq
  simp only [closeGroup]
  cases henclosing : s.enclosing with
  | nil =>
      rw [henclosing, List.isEmpty_nil, List.isEmpty_iff] at hempty
      rw [hempty]
      exact .error _
  | cons group groups =>
      obtain ⟨other, others, hothers, hleave⟩ := h.leave henclosing
      rw [hothers]
      exact .ok (.more hleave)

omit hplaces in
theorem endPattern_swapped (h : s.Swapped old new t) :
    SwappedSteps old new (endPattern s) (endPattern t) := by
  have hwithin := h.within
  simp only [endPattern]
  cases henclosing : s.enclosing with
  | nil =>
      rw [henclosing] at hwithin
      obtain ⟨hothers, hbranches⟩ := hwithin.outside
      rw [hothers]
      exact .ok (.done ⟨h.groups_eq, hbranches.node⟩)
  | cons group groups =>
      rw [henclosing] at hwithin
      obtain ⟨other, others, hothers, -⟩ := hwithin.leave
      rw [hothers]
      exact .error _

theorem termStep_swapped (h : s.Swapped old new t) :
    SwappedSteps old new (termStep total s) (termStep total t) := by
  rw [termStep_eq, termStep_eq, h.cursor_eq]
  split
  · exact endPattern_swapped h
  · split
    · exact closeGroup_swapped h
    · split
      · exact .ok (.more h.nextBranch)
      · exact (readTerm_swapped hplaces h _).map Progress.more Progress.more fun _ _ => .more

theorem markedStep_swapped (h : s.Swapped old new t) :
    SwappedSteps old new (markedStep total s) (markedStep total t) := by
  simp only [markedStep, h.last_eq, h.cursor_eq]
  split
  · exact termStep_swapped hplaces h
  · split
    · exact .error _
    · exact termStep_swapped hplaces h
    · split
      · exact .error _
      · exact .ok (.more (h.repeatLast _))

theorem step_swapped (h : s.Swapped old new t) :
    SwappedSteps old new (step total s) (step total t) := by
  simp only [step, h.extended_eq, h.cursor_eq]
  cases skipTrivia s.flags.extended s.cursor with
  | error reason => exact .error reason
  | ok c => exact markedStep_swapped hplaces (h.move c)

theorem patternRun_swapped (total : Nat) (h : s.Swapped old new t) :
    Agree (fun r q => q.2 = r.2 ∧ Node.Swapped old new r.1 q.1) (patternRun total s)
      (patternRun total t) :=
  run_agree (step_swapped hplaces) h

end Steps

end Specimen.Reader
