import Mathlib.Data.List.Chain
import Specimen.Proofs.Reader.AnnotateStep
import Specimen.Proofs.Reader.GroupCount
import Specimen.Proofs.Reader.LeadingOptions
import Specimen.Proofs.Reader.Relocate
/-!
Comments between the terms of a pattern. The text with a comment put into it is read as it is without, but for
the places of the groups behind the comment, unless the comment cuts the number of an escape in two.
-/

namespace Specimen.Reader

open Cursor

section Counting

variable {g : GroupScan} {extended : Bool} {text : List Char}

def NoControl (text : List Char) : Prop := text.IsChain fun a b => a = '\\' → b ≠ 'c' ∧ b ≠ 'C'

instance : Decidable (NoControl text) :=
  inferInstanceAs (Decidable (List.IsChain (fun a b : Char => a = '\\' → b ≠ 'c' ∧ b ≠ 'C') text))

theorem GroupScan.eq_of_plainStep_escaped {x : Char} (h : (g.plainStep x).mode = .escaped) :
    x = '\\' := by
  refine Decidable.of_not_not fun hx => ?_
  have hleave (k : GroupScan) : k.leaveGroup.mode = k.mode := by
    simp only [leaveGroup]
    split <;> rfl
  simp only [plainStep, if_neg hx] at h
  repeat' split at h
  all_goals first | cases h | (rw [hleave] at h; cases h)

theorem GroupScan.eq_of_step_escaped {x : Char} (h : (g.step x).mode = .escaped) : x = '\\' := by
  refine Decidable.of_not_not fun hx => ?_
  have hplain (k : GroupScan) : (k.plainStep x).mode ≠ .escaped :=
    fun hk => hx (eq_of_plainStep_escaped hk)
  obtain ⟨count, depth, extended, outer, mode⟩ := g
  cases mode
  all_goals
    simp only [step, optionStep] at h
    repeat' split at h
    all_goals first | cases h | exact hplain _ h

theorem ControlScan.harmless_of_noControl (h : NoControl text)
    (hfirst : g.mode = .escaped → ∀ x, text.head? = some x → x ≠ 'c' ∧ x ≠ 'C') :
    (ControlScan.mk g .none).harmless text = true := by
  induction text generalizing g with
  | nil => rfl
  | cons x rest ih =>
      have hafter : ControlScan.after g.mode x = .none := by
        simp only [ControlScan.after]
        split
        · next hmode =>
            obtain ⟨hlower, hupper⟩ := hfirst hmode x rfl
            rw [if_neg hlower, if_neg hupper]
        · rfl
      have hstep : (ControlScan.mk g .none).step x = ⟨g.step x, .none⟩ := by
        simp only [ControlScan.step, hafter]
      simp only [ControlScan.harmless, hstep, Bool.and_eq_true]
      refine ⟨by simp, ih h.tail fun hmode y hy => ?_⟩
      obtain ⟨more, rfl⟩ := List.head?_eq_some_iff.1 hy
      exact (List.isChain_cons_cons.1 h).1 (GroupScan.eq_of_step_escaped hmode)

theorem countGroups_of_noControl {flags : Flags} (h : NoControl text) :
    countGroups flags text = controlCount flags text :=
  countGroups_of_harmless (ControlScan.harmless_of_noControl h (by intro hmode; cases hmode))

/-- A character that the scans for groups take for the same, and that starts no control escape. -/
def tame (x : Char) : Char := if x = 'c' ∨ x = 'C' then 'a' else x

theorem eq_of_tame_eq {x mark : Char} (h : tame x = mark) (hmark : mark ≠ 'a') : x = mark := by
  rw [tame] at h
  split at h
  · exact absurd h.symm hmark
  · exact h

theorem tame_ne (x : Char) : tame x ≠ 'c' ∧ tame x ≠ 'C' := by
  rw [tame]
  split
  · decide
  · next h => exact not_or.1 h

theorem GroupScan.step_tame (g : GroupScan) (x : Char) : g.step (tame x) = g.step x := by
  by_cases hx : x = 'c' ∨ x = 'C'
  · rw [tame, if_pos hx]
    obtain ⟨count, depth, extended, outer, mode⟩ := g
    rcases hx with rfl | rfl
    · cases mode <;> simp [step, optionStep, plainStep]
    · cases mode <;> simp [step, optionStep, plainStep]
  · rw [tame, if_neg hx]

theorem GroupScan.foldl_tame (g : GroupScan) (text : List Char) :
    (text.map tame).foldl step g = text.foldl step g := by
  rw [List.foldl_map]
  exact congrArg (fun f => text.foldl f g) (funext fun k => funext fun x => step_tame k x)

theorem CommentBody.map_tame {body : List Char} (h : CommentBody body) : CommentBody (body.map tame) := by
  induction h with
  | nil => exact .nil
  | @char x body hescape hclose _ ih =>
      exact .char (fun heq => hescape (eq_of_tame_eq heq (by decide)))
        (fun heq => hclose (eq_of_tame_eq heq (by decide))) ih
  | escaped x _ ih => exact .escaped (tame x) ih

def Comment.tame (comment : Comment) : Comment where
  body := comment.body.map Reader.tame
  isBody := comment.isBody.map_tame
  oneLine := by
    intro hmem
    obtain ⟨x, hx, heq⟩ := List.mem_map.1 hmem
    exact comment.oneLine (eq_of_tame_eq heq (by decide) ▸ hx)

variable {flags : Flags} {u v : List Char} {comment : Comment}

theorem countGroups_tame : countGroups flags (u ++ comment.tame.text ++ v) =
    countGroups flags (u ++ comment.text ++ v) := by
  simp only [countGroups, Comment.text, Comment.tame, List.foldl_append, List.foldl_cons,
    GroupScan.foldl_tame]

theorem NoControl.tame (h : NoControl (u ++ v)) : NoControl (u ++ comment.tame.text ++ v) := by
  obtain ⟨hu, hv, -⟩ := List.isChain_append.1 h
  have htext : ∀ x ∈ comment.tame.text, x ≠ 'c' ∧ x ≠ 'C' := by
    intro x hx
    simp only [Comment.text, Comment.tame, List.mem_cons, List.mem_append, List.mem_map,
      List.not_mem_nil, or_false] at hx
    rcases hx with rfl | rfl | rfl | ⟨y, -, rfl⟩ | rfl
    · decide
    · decide
    · decide
    · exact tame_ne y
    · decide
  have hpairs : comment.tame.text.Pairwise fun a b => a = '\\' → b ≠ 'c' ∧ b ≠ 'C' :=
    List.pairwise_of_forall_mem_list fun _ _ y hy _ => htext y hy
  have hinside : NoControl comment.tame.text := hpairs.isChain
  refine (hu.append hinside fun x _ y hy _ => ?_).append hv fun x hx y _ hescape => ?_
  · cases hy
    decide
  · have hlast : u ++ comment.tame.text =
        (u ++ '(' :: '?' :: '#' :: comment.tame.body) ++ [')'] := by
      simp [Comment.text]
    rw [hlast, List.getLast?_concat] at hx
    cases hx
    cases hescape

end Counting

section Runs

variable {total : Nat} {s t : State} {c d : Cursor} {note : Note} {text : String} {flags : Flags}
  {v : List Char}

theorem patternRun_of_next (h : Relation.ReflTransGen (Next total) s t) :
    patternRun total s = patternRun total t := by
  induction h with
  | refl => rfl
  | tail _ hstep ih => exact ih.trans (run_of_more size_lt_of_step hstep)

theorem patternRun_behind_trivia (h : skipTrivia s.flags.extended s.cursor = .ok c) :
    patternRun total s = patternRun total { s with cursor := c } := by
  rw [patternRun, patternRun, run_eq, step_eq_behind_trivia h, ← run_eq]

theorem Reached.chain (h : Reached text flags t) :
    Relation.ReflTransGen (Next (countGroups flags text.toList)) (.start flags text) t := by
  induction h with
  | start => exact .refl
  | next _ hstep ih => exact ih.tail hstep

theorem countFrom_of_next (h : Relation.ReflTransGen (Next total) s t) (hnames : InertNames s.groups) :
    InertNames t.groups ∧ (ControlScan.of s.scanned .plain).countFrom s.cursor =
      (ControlScan.of t.scanned .plain).countFrom t.cursor := by
  induction h with
  | refl => exact ⟨hnames, rfl⟩
  | @tail b t _ hstep ih =>
      obtain ⟨hnames, hcount⟩ := ih
      obtain ⟨c, hc, -, hmove⟩ := step_more hstep
      have hbehind := behindTrivia_of_skipTrivia hc
      have hskip : (ControlScan.of b.scanned .plain).countFrom b.cursor =
          (ControlScan.of b.scanned .plain).countFrom c := ControlScan.countFrom_skipTrivia rfl hc
      have hmoved := State.countFrom_move (s := { b with cursor := c }) hnames hbehind hmove
      have hkept := State.inertNames_move (s := { b with cursor := c }) hnames hmove
      exact ⟨hkept, (hcount.trans hskip).trans hmoved⟩

structure Stands (note : Note) (extended : Bool) (c d : Cursor) : Prop where
  skips : skipTrivia extended c = .ok d
  place : c.rest.length = note.back ∨ d.rest.length = note.back

namespace Stands

variable {extended : Bool}

theorem skipTrivia_annotate (h : Stands note extended c d) : skipTrivia extended (c.annotate note) =
    .ok (d.shift (utf8Length note.comment.text)) := by
  rcases h.place with hplace | hplace
  · rw [skipTrivia_of_note extended hplace, h.skips]
    rfl
  · rw [Reader.skipTrivia_annotate h.skips (Nat.le_of_eq hplace.symm),
      skipTrivia_of_note extended hplace, (behindTrivia_of_skipTrivia h.skips).skipTrivia_eq]
    rfl

theorem seesEnd (h : Stands note extended c d) : SeesEnd note extended c := by
  intro hend
  rw [atPatternEnd_eq, h.skips] at hend
  rw [atPatternEnd_eq, h.skipTrivia_annotate]
  simp only [skipEndAnchor?_shift]
  cases hanchor : skipEndAnchor? d with
  | none =>
      simp only [hanchor] at hend
      exact hend
  | some e =>
      simp only [hanchor] at hend
      simp only [Option.map_some, atPatternEnd_shift, hend]

end Stands

end Runs

section Places

variable {s t : State} {d : Cursor} {text : String} {flags : Flags} {total place n : Nat}

theorem Reached.numbered (h : Reached text flags t) : t.Numbered text :=
  h.holds (.start flags) (fun hs hc => hs.keep rfl rfl (reaches_of_skipTrivia hc))
    fun hs hreach _ hpasses hmove => hs.move hreach hpasses hmove

theorem Reached.inStep_self (h : Reached text flags t) : t.InStep .exact [] 0 t := by
  induction h with
  | start => exact ⟨rfl, rfl, GroupTable.shift_zero.symm, .outermost (.first .nil), rfl, nofun⟩
  | next _ hstep ih =>
      have hagree : StepsAgree .exact [] 0 (step (countGroups flags text.toList) _)
          (step (countGroups flags text.toList) _) := step_agree ih
      rw [hstep] at hagree
      cases hagree with
      | ok hrelated =>
          cases hrelated with
          | more hnext => exact hnext

theorem ResultsInStep.eq_shift {r q : Reading} (h : ResultsInStep .exact [] n r q) :
    q = (r.1, r.2.shift n) := by
  obtain ⟨b, c, hbranches, hr, hq⟩ := h.nodes
  refine Prod.ext ?_ h.groups_eq
  rw [hq, hr]
  exact (Node.eq_of_alike hbranches.alike_node).symm

theorem Reached.patternRun_shift (h : Reached text flags t) (d : Cursor) (n : Nat) :
    patternRun total { t with cursor := d.shift n, groups := t.groups.shift n } =
      (patternRun total { t with cursor := d }).map fun r => (r.1, r.2.shift n) := by
  have hself := h.inStep_self
  have hinStep : { t with cursor := d }.InStep .exact [] n
      { t with cursor := d.shift n, groups := t.groups.shift n } :=
    ⟨rfl, hself.flags, rfl, hself.nested, rfl, hself.repeats⟩
  refine Agree.eq_map ?_
  exact (patternRun_agree hinStep).mono fun r q _ _ hrq => hrq.eq_shift

def movedBehind (place n offset : Nat) : Nat := if offset < place then offset else offset + n

theorem Reached.patternRun_moved (h : Reached text flags t)
    (hbefore : t.cursor.offset ≤ place) (hbehind : place ≤ d.offset) :
    patternRun total { t with cursor := d.shift n } =
      (patternRun total { t with cursor := d }).map
        fun r => (r.1, r.2.mapOffsets (movedBehind place n)) := by
  -- The whole run is shifted, and the groups met so far, none of them behind `place`, are moved back again.
  let back (offset : Nat) : Nat := if offset < place + n then offset - n else offset
  have hfix : FixesFrom back (d.shift n) := by
    intro offset hle
    have hfar : d.offset + n ≤ offset := hle
    exact if_neg (by omega)
  have hkept : (t.groups.shift n).mapOffsets back = t.groups := by
    rw [GroupTable.mapOffsets_shift]
    refine GroupTable.mapOffsets_eq_self fun info hinfo => ?_
    have hlt := h.numbered.passed info hinfo
    simp only [back]
    rw [if_pos (by omega), Nat.add_sub_cancel]
  have hmoved (table : GroupTable) :
      (table.shift n).mapOffsets back = table.mapOffsets (movedBehind place n) := by
    rw [GroupTable.mapOffsets_shift]
    refine congrArg (GroupTable.mapOffsets · table) (funext fun offset => ?_)
    simp only [back, movedBehind, Nat.add_lt_add_iff_right, Nat.add_sub_cancel]
  have hrelocate : { t with cursor := d.shift n } =
      State.relocate back { t with cursor := d.shift n, groups := t.groups.shift n } := by
    rw [State.relocate, hkept]
  rw [hrelocate, patternRun_relocate hfix, h.patternRun_shift]
  cases patternRun total { t with cursor := d } with
  | error reason => rfl
  | ok r =>
      simp only [Except.map, hmoved]

end Places

/-- Reading the text skips trivia, in front of a term or of a quantifier, with `v` left. Where trivia was
skipped for a quantifier in vain, it is skipped for the next term once more. -/
inductive SeeksTrivia (text : String) (flags : Flags) (v : List Char) : Prop where
  | before {s : State} : Reached text flags s → s.cursor.rest = v → SeeksTrivia text flags v
  | behind {s : State} {c : Cursor} : Reached text flags s → s.last ≠ .nothing →
      skipTrivia s.flags.extended s.cursor = .ok c → readQuantifier c = .ok none → c.rest = v →
      SeeksTrivia text flags v

/-- A text put in front of `v` makes another escape of one that reading comes to. -/
def CutsEscape (text : String) (flags : Flags) (v : List Char) : Prop :=
  ∃ s c d digits, Reached text flags s ∧ skipTrivia s.flags.extended s.cursor = .ok c ∧
    c.next? = some ('\\', d) ∧ CutsNumber (countGroups flags text.toList) d.rest v digits

section Readings

variable {text : String} {flags : Flags} {p : Pattern} {u v : List Char} {t : State} {c d : Cursor}

structure MeetsTrivia (text : String) (flags : Flags) (u v : List Char) (t : State) (d : Cursor) :
    Prop where
  text_eq : text.toList = u ++ v
  reached : Reached text flags t
  skips : skipTrivia t.flags.extended t.cursor = .ok d
  starts : t.cursor.rest = v ∨ d.rest = v

theorem SeeksTrivia.exists_meets (h : SeeksTrivia text flags v)
    (hread : Pattern.read text flags = .ok p) (htext : text.toList = u ++ v) :
    ∃ t d, MeetsTrivia text flags u v t d := by
  cases h with
  | @before t ht hrest =>
      cases hskip : skipTrivia t.flags.extended t.cursor with
      | error reason =>
          have hstep : step (countGroups flags text.toList) t = .error reason := by
            simp only [step, hskip]
          rw [ht.read_error hstep] at hread
          cases hread
      | ok d => exact ⟨t, d, htext, ht, hskip, .inl hrest⟩
  | @behind t d ht _ hskip _ hrest => exact ⟨t, d, htext, ht, hskip, .inr hrest⟩

namespace MeetsTrivia

variable (comment : Comment)

theorem stands (h : MeetsTrivia text flags u v t d) :
    Stands ⟨comment, v.length⟩ t.flags.extended t.cursor d :=
  ⟨h.skips, h.starts.imp (congrArg List.length) (congrArg List.length)⟩

theorem length_le (h : MeetsTrivia text flags u v t d) : v.length ≤ t.cursor.rest.length := by
  rcases h.starts with hrest | hrest
  · rw [hrest]
  · rw [← hrest]
    exact (reaches_of_skipTrivia h.skips).length_le

theorem offset_eq (h : MeetsTrivia text flags u v t d) (hreach : (Cursor.ofString text).Reaches c)
    (hrest : c.rest = v) : c.offset = utf8Length u := by
  obtain ⟨read, hread⟩ := hreach
  have hu : u ++ v = read ++ v := h.text_eq.symm.trans (hrest ▸ hread.rest_eq)
  rw [hread.offset_eq, List.append_cancel_right hu]
  exact Nat.zero_add _

theorem offsets (h : MeetsTrivia text flags u v t d) :
    t.cursor.offset ≤ utf8Length u ∧ utf8Length u ≤ d.offset := by
  have hreach := h.reached.reaches
  have hskips := reaches_of_skipTrivia h.skips
  rcases h.starts with hrest | hrest
  · have hplace := h.offset_eq hreach hrest
    exact ⟨Nat.le_of_eq hplace, hplace ▸ hskips.offset_le⟩
  · have hplace := h.offset_eq (hreach.trans hskips) hrest
    exact ⟨hplace ▸ hskips.offset_le, Nat.le_of_eq hplace.symm⟩

theorem annotate_start (h : MeetsTrivia text flags u v t d) :
    (State.start flags text).annotate ⟨comment, v.length⟩ =
      State.start flags (String.ofList (u ++ comment.text ++ v)) := by
  have hput : Note.putInto ⟨comment, v.length⟩ (u ++ v) = u ++ comment.text ++ v := by
    rw [Note.putInto_append (Nat.le_refl _), Note.putInto_of_length rfl, List.append_assoc]
  simp only [State.annotate, State.start, Cursor.ofString, Cursor.annotate, h.text_eq, hput,
    String.toList_ofList]

theorem chain (h : MeetsTrivia text flags u v t d) (hcut : ¬ CutsEscape text flags v) :
    Relation.ReflTransGen (Next (countGroups flags text.toList))
      (.start flags (String.ofList (u ++ comment.text ++ v))) (t.annotate ⟨comment, v.length⟩) := by
  rw [← h.annotate_start comment]
  refine h.reached.annotate ⟨u, h.text_eq.symm⟩ rfl h.length_le ?_ (h.stands comment).seesEnd
  exact fun s c e digits hs hc hx hdigits => hcut ⟨s, c, e, digits, hs, hc, hx, hdigits⟩

theorem countGroups_eq (h : MeetsTrivia text flags u v t d) (hcut : ¬ CutsEscape text flags v)
    (hcontrol : NoControl text.toList) :
    countGroups flags (u ++ comment.text ++ v) = countGroups flags text.toList := by
  have hnames : InertNames (∅ : GroupTable) := by
    intro group name hname
    cases group <;> cases hname
  -- The scan for groups agrees with reading where no control escape starts. The comment may hold such an
  -- escape, so its tame twin is counted in its place: reading skips both, and the scan takes them for the same.
  let scan := ControlScan.of t.scanned .plain
  have hplain : controlCount flags text.toList = scan.countFrom t.cursor :=
    (countFrom_of_next h.reached.chain hnames).2
  have hnoted : controlCount flags (u ++ comment.tame.text ++ v) =
      scan.countFrom (t.cursor.annotate ⟨comment.tame, v.length⟩) := by
    let text' := String.ofList (u ++ comment.tame.text ++ v)
    have hstart : controlCount flags text'.toList = (ControlScan.of (State.start flags text').scanned
        .plain).countFrom (State.start flags text').cursor := rfl
    rw [String.toList_ofList] at hstart
    exact hstart.trans (countFrom_of_next (h.chain comment.tame hcut) hnames).2
  have hskips : scan.countFrom t.cursor = scan.countFrom d :=
    ControlScan.countFrom_skipTrivia rfl h.skips
  have hover : scan.countFrom (t.cursor.annotate ⟨comment.tame, v.length⟩) = scan.countFrom d := by
    have hskips := (h.stands comment.tame).skipTrivia_annotate
    exact (ControlScan.countFrom_skipTrivia (g := t.scanned) rfl hskips).trans rfl
  have htame : NoControl (u ++ comment.tame.text ++ v) := NoControl.tame (h.text_eq ▸ hcontrol)
  calc countGroups flags (u ++ comment.text ++ v)
      = countGroups flags (u ++ comment.tame.text ++ v) := countGroups_tame.symm
    _ = controlCount flags (u ++ comment.tame.text ++ v) := countGroups_of_noControl htame
    _ = controlCount flags text.toList := by rw [hnoted, hover, hplain, hskips]
    _ = countGroups flags text.toList := (countGroups_of_noControl hcontrol).symm

end MeetsTrivia

end Readings

end Specimen.Reader

namespace Specimen

open Reader

variable {text : String} {flags : Flags} {p : Pattern} {u v : List Char}

theorem Pattern.read_commented (comment : Comment) (hread : Pattern.read text flags = .ok p)
    (htext : text.toList = u ++ v) (hcontrol : NoControl text.toList)
    (hseeks : SeeksTrivia text flags v) (hcut : ¬ CutsEscape text flags v) :
    Pattern.read (String.ofList (u ++ comment.text ++ v)) flags = .ok { p with
      groups := p.groups.mapOffsets (movedBehind (utf8Length u) (utf8Length comment.text)) } := by
  obtain ⟨t, d, h⟩ := hseeks.exists_meets hread htext
  obtain ⟨hbefore, hbehind⟩ := h.offsets
  have hskips : skipTrivia (t.annotate ⟨comment, v.length⟩).flags.extended
      (t.annotate ⟨comment, v.length⟩).cursor = _ := (h.stands comment).skipTrivia_annotate
  have hmoved : patternRun (countGroups flags text.toList)
      { t with cursor := d.shift (utf8Length comment.text) } = _ :=
    h.reached.patternRun_moved hbefore hbehind
  rw [h.reached.read_eq, patternRun_behind_trivia h.skips] at hread
  rw [Pattern.read_eq, String.toList_ofList, h.countGroups_eq comment hcut hcontrol,
    patternRun_of_next (h.chain comment hcut), patternRun_behind_trivia hskips]
  cases hrun : patternRun (countGroups flags text.toList) { t with cursor := d } with
  | error reason =>
      rw [hrun] at hread
      cases hread
  | ok r =>
      rw [hrun] at hread hmoved
      cases hread
      exact congrArg (Except.map _) hmoved

theorem Pattern.read_commented_groups : ∃ (p : Pattern) (comment : Comment),
    Pattern.read "(a)+(?<x>b)\\2" .none = .ok p ∧ comment.text = "(?#([\\)#)".toList ∧
      Pattern.read (String.ofList ("(a)".toList ++ comment.text ++ "+(?<x>b)\\2".toList)) .none =
        .ok { p with groups := p.groups.mapOffsets (movedBehind 3 9) } := by
  have hbody : CommentBody ['(', '[', '\\', ')', '#'] :=
    .char (by decide) (by decide) (.char (by decide) (by decide)
      (.escaped ')' (.char (by decide) (by decide) .nil)))
  let comment : Comment := ⟨['(', '[', '\\', ')', '#'], hbody, by decide⟩
  have hcount : (Pattern.read "(a)+(?<x>b)\\2" .none).toOption.map Pattern.groupCount = some 2 := by
    decide +kernel
  have hsteps : (stepsFrom (countGroups .none "(a)+(?<x>b)\\2".toList) 3
      (.start .none "(a)+(?<x>b)\\2")).map (·.cursor.rest) = some "+(?<x>b)\\2".toList := by
    decide +kernel
  obtain ⟨p, hread, -⟩ := exists_of_read hcount
  obtain ⟨t, ht, hrest⟩ := Option.map_eq_some_iff.1 hsteps
  refine ⟨p, comment, hread, rfl, ?_⟩
  refine Pattern.read_commented comment hread (by decide +kernel) (by decide +kernel)
    (.before (Reached.start.of_stepsFrom ht) hrest) ?_
  rintro ⟨s, c, d, digits, -, -, -, hcut⟩
  obtain ⟨x, hx, hdigit⟩ := hcut.goesOn
  rw [show "+(?<x>b)\\2".toList.head? = some '+' by decide +kernel] at hx
  cases hx
  cases hdigit

theorem Pattern.comment_cuts_octal : ∃ comment : Comment,
    (∃ p, Pattern.read "\\18" .none = .ok p) ∧ "\\18".toList = ['\\', '1'] ++ ['8'] ∧
      NoControl "\\18".toList ∧ SeeksTrivia "\\18" .none ['8'] ∧
      "\\1(?#)8".toList = ['\\', '1'] ++ comment.text ++ ['8'] ∧
      Pattern.read "\\1(?#)8" .none = .error (.groupNotDefined 1) := by
  have hcount : (Pattern.read "\\18" .none).toOption.map Pattern.groupCount = some 0 := by
    decide +kernel
  have hsteps : (stepsFrom (countGroups .none "\\18".toList) 1 (.start .none "\\18")).map
      (·.cursor.rest) = some ['8'] := by
    decide +kernel
  have hfails : (Pattern.read "\\1(?#)8" .none).map (fun _ => ()) = .error (.groupNotDefined 1) := by
    decide +kernel
  obtain ⟨p, hread, -⟩ := exists_of_read hcount
  obtain ⟨t, ht, hrest⟩ := Option.map_eq_some_iff.1 hsteps
  refine ⟨⟨[], .nil, by decide⟩, ⟨p, hread⟩, by decide +kernel, by decide +kernel,
    .before (Reached.start.of_stepsFrom ht) hrest, by decide +kernel, ?_⟩
  cases hcommented : Pattern.read "\\1(?#)8" .none with
  | error reason =>
      rw [hcommented] at hfails
      cases hfails
      rfl
  | ok p =>
      rw [hcommented] at hfails
      cases hfails

end Specimen
