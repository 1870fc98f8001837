import Specimen.Proofs.Reader.Reached
/-!
What reading a group leaves as it was. Between the opening parenthesis of a group and its closing one, reading
goes on at a greater depth; behind it stands what stood before it, with one more item and perhaps more groups.
-/

namespace Specimen

namespace GroupTable

variable {s t u : GroupTable}

def Grows (s t : GroupTable) : Prop := s.groups.toList <+: t.groups.toList

theorem Grows.refl (s : GroupTable) : s.Grows s := List.prefix_rfl

theorem Grows.trans (h : s.Grows t) (k : t.Grows u) : s.Grows u := List.IsPrefix.trans h k

theorem Grows.count_le (h : s.Grows t) : s.count ≤ t.count := by
  have hlength := List.IsPrefix.length_le h
  rwa [Array.length_toList, Array.length_toList] at hlength

theorem grows_push (s : GroupTable) (info : GroupInfo) : s.Grows (s.push info) := by
  rw [Grows, push, Array.toList_push]
  exact List.prefix_append _ _

end GroupTable

namespace Reader

namespace State

variable {s t : State}

def depth (s : State) : Nat := s.enclosing.length

/-- For each group so far, whether reading is past its closing parenthesis. -/
def closed (s : State) : List Bool :=
  (List.range' 1 s.groups.count).map fun group => !s.openGroups.contains group

structure OpensKnown (s : State) : Prop where
  range : ∀ group ∈ s.openGroups, 1 ≤ group ∧ group ≤ s.groups.count
  nodup : s.openGroups.Nodup

theorem openGroups_enter (s : State) (opener : Opener) (inside : Flags) (d : Cursor) :
    (s.enter opener inside d).openGroups = opener.group?.toList ++ s.openGroups := by
  cases hgroup : opener.group? with
  | none => simp [openGroups, enter, hgroup]
  | some group => simp [openGroups, enter, hgroup]

theorem openGroups_declare (s : State) (name : Option String) (d : Cursor) :
    (s.declare name d).openGroups = (s.groups.count + 1) :: s.openGroups :=
  openGroups_enter s (.capture (s.groups.count + 1) name) s.flags d

theorem openGroups_eq_of_enclosing {group : OpenGroup} {enclosing : List OpenGroup}
    (h : s.enclosing = group :: enclosing) (d : Cursor) :
    s.openGroups = group.opener.group?.toList ++ (s.leave group enclosing d).openGroups := by
  cases hgroup : group.opener.group? with
  | none => simp [openGroups, leave, h, hgroup]
  | some group => simp [openGroups, leave, h, hgroup]

theorem closed_congr (hgroups : t.groups = s.groups) (hopen : t.openGroups = s.openGroups) :
    t.closed = s.closed := by
  rw [closed, closed, hgroups, hopen]

theorem closed_declare (s : State) (name : Option String) (d : Cursor) :
    (s.declare name d).closed = s.closed ++ [false] := by
  have hcount : (s.declare name d).groups.count = s.groups.count + 1 := GroupTable.count_push _ _
  rw [closed, hcount, openGroups_declare, List.range'_1_concat, List.map_append]
  congr 1
  · refine List.map_congr_left fun group hgroup => ?_
    have hle := (List.mem_range'_1.1 hgroup).2
    have hne : group ≠ s.groups.count + 1 := by omega
    simp [hne]
  · simp [Nat.add_comm]

theorem closed_of_outside (h : s.enclosing = []) : s.closed = List.replicate s.groups.count true := by
  have hopen : s.openGroups = [] := by rw [openGroups, h]; rfl
  rw [closed, hopen, List.eq_replicate_iff]
  refine ⟨by simp, fun mark hmark => ?_⟩
  obtain ⟨_, _, rfl⟩ := List.mem_map.1 hmark
  rfl

theorem closed_append (hgroups : s.groups.Grows t.groups) (hopen : t.openGroups = s.openGroups) :
    t.closed = s.closed ++ (List.range' (1 + s.groups.count) (t.groups.count - s.groups.count)).map
      fun group => !s.openGroups.contains group := by
  have hcount : t.groups.count = s.groups.count + (t.groups.count - s.groups.count) :=
    (Nat.add_sub_cancel' hgroups.count_le).symm
  rw [closed, closed, hopen, ← List.map_append, List.range'_append_1, ← hcount]

theorem closed_prefix (hgroups : s.groups.Grows t.groups) (hopen : t.openGroups = s.openGroups) :
    s.closed <+: t.closed := by
  rw [closed_append hgroups hopen]
  exact List.prefix_append _ _

theorem closed_eq (h : s.OpensKnown) (hgroups : s.groups.Grows t.groups)
    (hopen : t.openGroups = s.openGroups) :
    t.closed = s.closed ++ List.replicate (t.groups.count - s.groups.count) true := by
  rw [closed_append hgroups hopen, List.append_cancel_left_eq, List.eq_replicate_iff]
  refine ⟨by simp, fun mark hmark => ?_⟩
  obtain ⟨group, hgroup, rfl⟩ := List.mem_map.1 hmark
  have hlater := (List.mem_range'_1.1 hgroup).1
  have hclosed : group ∉ s.openGroups := fun hmem => by
    have := h.range group hmem
    omega
  simpa using hclosed

end State

section Stack

variable {s t : State} {c : Cursor} {total : Nat}

theorem Opening.grows (h : Opening s c t) : s.groups.Grows t.groups ∧ s.enclosing <:+ t.enclosing := by
  cases h with
  | capture _ _ => exact ⟨GroupTable.grows_push _ _, List.suffix_cons _ _⟩
  | named _ _ _ _ _ => exact ⟨GroupTable.grows_push _ _, List.suffix_cons _ _⟩
  | nonCapturing _ _ => exact ⟨.refl _, List.suffix_cons _ _⟩
  | toggleScoped _ _ => exact ⟨.refl _, List.suffix_cons _ _⟩
  | toggleRest _ _ => exact ⟨.refl _, List.suffix_rfl⟩

/-- A move declares a group, leaves one, or keeps the groups and their marks as they are. -/
theorem Move.groups_cases (h : Move total s t) :
    (s.groups.count < maxGroups ∧ ∃ name d, t = s.declare name d) ∨
      (∃ group enclosing d, s.enclosing = group :: enclosing ∧ t = s.leave group enclosing d) ∨
      t.groups = s.groups ∧ s.enclosing <:+ t.enclosing ∧ t.openGroups = s.openGroups ∧
        t.closed = s.closed := by
  cases h with
  | leave _ henclosing => exact .inr (.inl ⟨_, _, _, henclosing, rfl⟩)
  | group _ hopening =>
      cases hopening with
      | capture _ hcount => exact .inl ⟨hcount, _, _, rfl⟩
      | named _ _ _ _ hcount => exact .inl ⟨hcount, _, _, rfl⟩
      | nonCapturing _ _ =>
          have hopen := State.openGroups_enter s .nonCapturing s.flags
          exact .inr (.inr ⟨rfl, List.suffix_cons _ _, hopen _, State.closed_congr rfl (hopen _)⟩)
      | @toggleScoped d e toggle _ _ =>
          have hopen := State.openGroups_enter s (.toggled toggle) (toggle.apply s.flags) e
          exact .inr (.inr ⟨rfl, List.suffix_cons _ _, hopen, State.closed_congr rfl hopen⟩)
      | toggleRest _ _ => exact .inr (.inr ⟨rfl, List.suffix_rfl, rfl, rfl⟩)
  | _ => exact .inr (.inr ⟨rfl, List.suffix_rfl, rfl, rfl⟩)

theorem Move.grows_or_leaves (h : Move total s t) : s.groups.Grows t.groups ∧
    (s.enclosing <:+ t.enclosing ∨
      ∃ group enclosing d, s.enclosing = group :: enclosing ∧ t = s.leave group enclosing d) := by
  rcases h.groups_cases with ⟨-, name, d, rfl⟩ | ⟨group, enclosing, d, henclosing, rfl⟩ |
    ⟨hgroups, hsuffix, -⟩
  · exact ⟨GroupTable.grows_push _ _, .inl (List.suffix_cons _ _)⟩
  · exact ⟨.refl _, .inr ⟨_, _, _, henclosing, rfl⟩⟩
  · exact ⟨hgroups ▸ .refl _, .inl hsuffix⟩

theorem grows_or_leaves_of_step (h : step total s = .ok (.more t)) : s.groups.Grows t.groups ∧
    (s.enclosing <:+ t.enclosing ∨ ∃ group enclosing d, s.enclosing = group :: enclosing ∧
      t = s.leave group enclosing d) := by
  obtain ⟨c, _, _, hmove⟩ := step_more h
  exact hmove.grows_or_leaves

theorem depth_le_of_step (h : step total s = .ok (.more t)) : s.depth ≤ t.depth + 1 := by
  rcases (grows_or_leaves_of_step h).2 with hsuffix | ⟨group, enclosing, d, henclosing, rfl⟩
  · exact Nat.le_succ_of_le hsuffix.length_le
  · rw [State.depth, henclosing]
    exact Nat.le_refl _

end Stack

/-- Reading goes on from a state until it is no deeper than `depth`. -/
inductive Returns (total depth : Nat) : State → State → Prop where
  | back {s : State} : s.depth = depth → Returns total depth s s
  | inside {s t u : State} : depth < s.depth → step total s = .ok (.more t) →
      Returns total depth t u → Returns total depth s u

structure ReadsGroup (total : Nat) (s t : State) : Prop where
  opened : ∃ d u, s.cursor.next? = some ('(', d) ∧ readGroup s d = .ok u ∧ Returns total s.depth u t

structure Framed (s t : State) : Prop where
  passes : s.cursor.Passes t.cursor
  enclosing : t.enclosing = s.enclosing
  groups : s.groups.Grows t.groups
  item : (∃ toggle, t.branches = s.branches.add (.toggleRest toggle) ∧ t.flags = toggle.apply s.flags) ∨
    ∃ node, node.isToggleRest = false ∧ t.branches = s.branches.add node ∧ t.flags = s.flags

structure Within (s : State) (opener : Opener) (u : State) : Prop where
  passes : s.cursor.Passes u.cursor
  enclosing : ∃ inner, u.enclosing = inner ++ ⟨opener, s.branches, s.flags⟩ :: s.enclosing
  groups : s.groups.Grows u.groups

section Frames

variable {s t u : State} {c : Cursor} {opener : Opener} {total : Nat}

theorem Within.depth_lt (h : Within s opener u) : s.depth < u.depth := by
  obtain ⟨inner, henclosing⟩ := h.enclosing
  simp only [State.depth, henclosing, List.length_append, List.length_cons]
  omega

theorem framed_or_within_of_opening (hpass : s.cursor.Passes t.cursor) (h : Opening s c t) :
    Framed s t ∨ ∃ opener, Within s opener t := by
  have hgroups := h.grows.1
  cases h with
  | capture _ _ => exact .inr ⟨_, hpass, ⟨[], rfl⟩, hgroups⟩
  | named _ _ _ _ _ => exact .inr ⟨_, hpass, ⟨[], rfl⟩, hgroups⟩
  | nonCapturing _ _ => exact .inr ⟨_, hpass, ⟨[], rfl⟩, hgroups⟩
  | toggleScoped _ _ => exact .inr ⟨_, hpass, ⟨[], rfl⟩, hgroups⟩
  | toggleRest _ _ => exact .inl ⟨hpass, rfl, hgroups, .inl ⟨_, rfl, rfl⟩⟩

theorem Opener.isToggleRest_node (opener : Opener) (body : Node) :
    (opener.node body).isToggleRest = false := by
  cases opener <;> rfl

theorem Within.step (h : Within s opener u) (hstep : step total u = .ok (.more t)) :
    Framed s t ∨ Within s opener t := by
  have hpass := h.passes.trans (passes_of_step hstep)
  obtain ⟨hgrows, hstack⟩ := grows_or_leaves_of_step hstep
  have hgroups := h.groups.trans hgrows
  obtain ⟨inner, henclosing⟩ := h.enclosing
  rcases hstack with ⟨more, hmore⟩ | ⟨group, enclosing, d, hsplit, rfl⟩
  · refine .inr ⟨hpass, ⟨more ++ inner, ?_⟩, hgroups⟩
    rw [← hmore, henclosing, List.append_assoc]
  · rw [henclosing] at hsplit
    cases inner with
    | nil =>
        -- The group that is left is the one that was opened at `s`.
        obtain ⟨rfl, rfl⟩ := List.cons.inj hsplit
        exact .inl ⟨hpass, rfl, hgroups, .inr ⟨_, opener.isToggleRest_node _, rfl, rfl⟩⟩
    | cons first inner =>
        obtain ⟨-, rfl⟩ := List.cons.inj hsplit
        exact .inr ⟨hpass, ⟨inner, rfl⟩, hgroups⟩

theorem Framed.eq_of_returns (h : Framed s t) (hreturns : Returns total s.depth t u) : t = u := by
  cases hreturns with
  | back _ => rfl
  | inside hdepth _ _ => exact absurd hdepth (by rw [State.depth, State.depth, h.enclosing]; omega)

theorem Within.framed (h : Within s opener u) (hreturns : Returns total s.depth u t) : Framed s t := by
  induction hreturns with
  | back hdepth => exact absurd h.depth_lt (by omega)
  | inside _ hstep hreturns ih =>
      rcases h.step hstep with hframed | hwithin
      · exact hframed.eq_of_returns hreturns ▸ hframed
      · exact ih hwithin

theorem ReadsGroup.framed (h : ReadsGroup total s t) : Framed s t := by
  obtain ⟨d, u, hparen, hgroup, hreturns⟩ := h.opened
  have hpass : s.cursor.Passes u.cursor :=
    (Cursor.passes_of_next? hparen).trans_reaches (reaches_of_readGroup hgroup)
  rcases framed_or_within_of_opening hpass (.of_readGroup hgroup) with hframed | ⟨opener, hwithin⟩
  · exact hframed.eq_of_returns hreturns ▸ hframed
  · exact hwithin.framed hreturns

end Frames

namespace State.OpensKnown

variable {s t : State} {text : String} {flags : Flags}

theorem start (flags : Flags) (text : String) : (State.start flags text).OpensKnown :=
  ⟨fun _ hgroup => absurd hgroup List.not_mem_nil, List.nodup_nil⟩

theorem of_eq (h : s.OpensKnown) (hopen : t.openGroups = s.openGroups)
    (hgroups : s.groups.Grows t.groups) : t.OpensKnown := by
  refine ⟨fun group hgroup => ?_, hopen ▸ h.nodup⟩
  obtain ⟨hlow, hhigh⟩ := h.range group (hopen ▸ hgroup)
  exact ⟨hlow, Nat.le_trans hhigh hgroups.count_le⟩

theorem declare (h : s.OpensKnown) (name : Option String) (d : Cursor) :
    (s.declare name d).OpensKnown := by
  have hcount : (s.declare name d).groups.count = s.groups.count + 1 := GroupTable.count_push _ _
  refine ⟨?_, ?_⟩
  · intro group hgroup
    rw [openGroups_declare, List.mem_cons] at hgroup
    rw [hcount]
    rcases hgroup with rfl | hgroup
    · exact ⟨Nat.le_add_left 1 _, Nat.le_refl _⟩
    · obtain ⟨hlow, hhigh⟩ := h.range group hgroup
      exact ⟨hlow, Nat.le_succ_of_le hhigh⟩
  · rw [openGroups_declare, List.nodup_cons]
    exact ⟨fun hmem => Nat.not_succ_le_self _ (h.range _ hmem).2, h.nodup⟩

theorem leave (h : s.OpensKnown) {group : OpenGroup} {enclosing : List OpenGroup}
    (hs : s.enclosing = group :: enclosing) (d : Cursor) : (s.leave group enclosing d).OpensKnown := by
  have hopen := openGroups_eq_of_enclosing hs d
  refine ⟨fun number hnumber => h.range number ?_, ?_⟩
  · rw [hopen]
    exact List.mem_append_right _ hnumber
  · have hnodup := h.nodup
    rw [hopen] at hnodup
    exact (List.nodup_append.1 hnodup).2.1

theorem move {total : Nat} (h : s.OpensKnown) (hmove : Move total s t) : t.OpensKnown := by
  rcases hmove.groups_cases with ⟨-, name, d, rfl⟩ | ⟨group, enclosing, d, henclosing, rfl⟩ |
    ⟨hgroups, -, hopen, -⟩
  · exact h.declare name d
  · exact h.leave henclosing d
  · exact h.of_eq hopen (hgroups ▸ .refl _)

theorem closed_leave (h : s.OpensKnown) {group : OpenGroup} {enclosing : List OpenGroup}
    (hs : s.enclosing = group :: enclosing) (d : Cursor) :
    (s.leave group enclosing d).closed =
      (group.opener.group?.elim s.closed fun number => s.closed.set (number - 1) true) := by
  have hopen := openGroups_eq_of_enclosing hs d
  have hcount : (s.leave group enclosing d).groups.count = s.groups.count := rfl
  cases hgroup : group.opener.group? with
  | none =>
      rw [hgroup] at hopen
      rw [Option.elim_none, closed, closed, hopen, hcount]
      rfl
  | some number =>
      rw [hgroup] at hopen
      have hrange := h.range number (by rw [hopen]; exact List.mem_append_left _ (by simp))
      have hnodup := h.nodup
      rw [hopen, Option.toList_some, List.singleton_append, List.nodup_cons] at hnodup
      rw [Option.elim_some, closed, closed, hopen, hcount]
      refine List.ext_getElem (by simp) fun i hi hset => ?_
      rw [List.getElem_set]
      by_cases hplace : number - 1 = i
      · have hnumber : 1 + i = number := by omega
        rw [if_pos hplace]
        simp [hnumber, hnodup.1]
      · have hnumber : 1 + i ≠ number := by omega
        rw [if_neg hplace]
        simp [hnumber]

end State.OpensKnown

section Runs

variable {text : String} {flags : Flags} {p : Pattern} {s t u : State} {total : Nat}

theorem opensKnown_of_reached (h : Reached text flags s) : s.OpensKnown :=
  h.holds (.start flags text) (fun hs _ => hs.of_eq rfl (.refl _)) fun hs _ _ _ hmove => hs.move hmove

theorem Reached.of_returns {depth : Nat} (h : Reached text flags s)
    (hreturns : Returns (countGroups flags text.toList) depth s t) : Reached text flags t := by
  induction hreturns with
  | back _ => exact h
  | inside _ hstep _ ih => exact ih (h.next hstep)

theorem Reached.run_of_read (h : Reached text flags s) (hread : Pattern.read text flags = .ok p) :
    patternRun (countGroups flags text.toList) s = .ok (p.root, p.groups) := by
  rw [h.read_eq] at hread
  cases hrun : patternRun (countGroups flags text.toList) s with
  | error reason =>
      rw [hrun] at hread
      cases hread
  | ok r =>
      rw [hrun] at hread
      cases hread
      rfl

theorem exists_returns {depth : Nat} {r : Reading} (h : patternRun total s = .ok r)
    (hdepth : depth ≤ s.depth) : ∃ t, Returns total depth s t := by
  rw [patternRun] at h
  fun_induction run (step total) State.size size_lt_of_step s with
  | case1 s u hstep ih =>
      by_cases hback : s.depth = depth
      · exact ⟨s, .back hback⟩
      · -- No step leaves more than one group.
        have hdeep : depth < s.depth := by omega
        have hnext := depth_le_of_step hstep
        obtain ⟨t, hreturns⟩ := ih h (by omega)
        exact ⟨t, .inside hdeep hstep hreturns⟩
  | case2 s result hstep =>
      obtain ⟨_, _, _, henclosing, _⟩ := step_done hstep
      have houtside : s.depth = 0 := by rw [State.depth, henclosing]; rfl
      exact ⟨s, .back (by omega)⟩
  | case3 => cases h

theorem step_of_group {c d : Cursor} (hskip : skipTrivia s.flags.extended s.cursor = .ok c)
    (hparen : c.next? = some ('(', d)) :
    step total s = (readGroup { s with cursor := c } d).map .more := by
  have hcomment : d.skipAll? ['?', '#'] = none := by
    have hnone := (behindTrivia_of_skipTrivia hskip).noComment
    rwa [Cursor.skipAll?, Cursor.skip?_of_next? hparen] at hnone
  rw [step_eq_behind_trivia hskip, step_of_mark hparen (by decide) fun _ => hcomment,
    termStep_eq]
  simp only [hparen]
  rfl

theorem exists_readsGroup (h : Reached text flags s) (hread : Pattern.read text flags = .ok p)
    {c d : Cursor} (hskip : skipTrivia s.flags.extended s.cursor = .ok c)
    (hparen : c.next? = some ('(', d)) :
    ∃ t, ReadsGroup (countGroups flags text.toList) { s with cursor := c } t ∧ Reached text flags t := by
  have hstep : step (countGroups flags text.toList) s =
      (readGroup { s with cursor := c } d).map .more := step_of_group hskip hparen
  cases hgroup : readGroup { s with cursor := c } d with
  | error reason =>
      rw [hgroup] at hstep
      rw [h.read_error hstep] at hread
      cases hread
  | ok u =>
      rw [hgroup] at hstep
      have hu : Reached text flags u := h.next hstep
      have hdepth : s.depth ≤ u.depth := (Opening.of_readGroup hgroup).grows.2.length_le
      obtain ⟨t, hreturns⟩ := exists_returns (hu.run_of_read hread) hdepth
      exact ⟨t, ⟨d, u, hparen, hgroup, hreturns⟩, hu.of_returns hreturns⟩

theorem exists_last (hread : Pattern.read text flags = .ok p) : ∃ s, Reached text flags s ∧
    step (countGroups flags text.toList) s = .ok (.done (p.root, p.groups)) :=
  run_induction size_lt_of_step (P := Reached text flags)
    (Q := fun r => ∃ s, Reached text flags s ∧
      step (countGroups flags text.toList) s = .ok (.done r))
    (fun hs hstep => hs.next hstep) (fun hs hdone => ⟨_, hs, hdone⟩) .start (Reached.start.run_of_read hread)

theorem outside_of_done {r : Reading} (h : step total s = .ok (.done r)) :
    s.depth = 0 ∧ s.closed = List.replicate r.2.count true := by
  obtain ⟨_, _, _, henclosing, rfl⟩ := step_done h
  exact ⟨by rw [State.depth, henclosing]; rfl, State.closed_of_outside henclosing⟩

theorem Framed.openGroups_eq (h : Framed s t) : t.openGroups = s.openGroups := by
  rw [State.openGroups, h.enclosing]
  rfl

end Runs

theorem readsGroup_framed :
    (∀ {total : Nat} {s t : State}, ReadsGroup total s t →
      Framed s t ∧ t.depth = s.depth ∧ s.closed <+: t.closed ∧ (s.OpensKnown →
        t.closed = s.closed ++ List.replicate (t.groups.count - s.groups.count) true)) ∧
    ∀ {text : String} {flags : Flags},
      (∀ {s : State}, Reached text flags s → s.OpensKnown ∧
        (∀ name d, (s.declare name d).closed = s.closed ++ [false]) ∧
        ∀ {group enclosing}, s.enclosing = group :: enclosing → ∀ d,
          (s.leave group enclosing d).closed =
            group.opener.group?.elim s.closed fun number => s.closed.set (number - 1) true) ∧
      ∀ {p : Pattern}, Pattern.read text flags = .ok p →
        (∀ {s : State} {c d : Cursor}, Reached text flags s →
          skipTrivia s.flags.extended s.cursor = .ok c → c.next? = some ('(', d) →
          ∃ t, ReadsGroup (countGroups flags text.toList) { s with cursor := c } t ∧
            Reached text flags t) ∧
        ∃ s, Reached text flags s ∧
          step (countGroups flags text.toList) s = .ok (.done (p.root, p.groups)) ∧
          s.depth = 0 ∧ s.closed = List.replicate p.groupCount true := by
  refine ⟨fun hreads => ?_, fun {text flags} => ⟨fun hs => ?_, fun hread =>
    ⟨fun hs => exists_readsGroup hs hread, ?_⟩⟩⟩
  · have hframed := hreads.framed
    exact ⟨hframed, congrArg List.length hframed.enclosing,
      State.closed_prefix hframed.groups hframed.openGroups_eq,
      fun hopens => State.closed_eq hopens hframed.groups hframed.openGroups_eq⟩
  · have hopens := opensKnown_of_reached hs
    exact ⟨hopens, State.closed_declare _, hopens.closed_leave⟩
  · obtain ⟨s, hs, hdone⟩ := exists_last hread
    exact ⟨s, hs, hdone, outside_of_done hdone⟩

theorem readsGroup_framed_nested : ∃ p s t, Pattern.read "((a)b)(?i)" .none = .ok p ∧
    Reached "((a)b)(?i)" .none s ∧ s.closed = [true, true] ∧
    ReadsGroup 2 (.start .none "((a)b)(?i)") t ∧ t.depth = 0 ∧
    t.closed = List.replicate t.groups.count true := by
  have htwo : (Pattern.read "((a)b)(?i)" .none).toOption.map Pattern.groupCount = some 2 := by
    decide +kernel
  obtain ⟨p, hp, hcount⟩ := exists_of_read htwo
  obtain ⟨hframe, hrun⟩ := readsGroup_framed
  obtain ⟨hknown, hread⟩ := @hrun "((a)b)(?i)" .none
  obtain ⟨hgroups, s, hs, -, -, hclosed⟩ := hread hp
  obtain ⟨t, hreads, -⟩ := hgroups (c := .ofString "((a)b)(?i)") (d := ⟨"(a)b)(?i)".toList, 1⟩) .start
    (by decide +kernel) (by decide +kernel)
  obtain ⟨-, hdepth, -, hmarks⟩ := hframe hreads
  refine ⟨p, s, t, hp, hs, ?_, hreads, hdepth, hmarks (hknown .start).1⟩
  rw [hclosed, hcount]
  rfl

end Reader
end Specimen
