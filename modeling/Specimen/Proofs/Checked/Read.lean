import Specimen.Proofs.Checked.Escape
import Specimen.Proofs.Reader.GroupFrame
import Specimen.Proofs.Reader.InStepRun
/-!
Reading a pattern with every check, the depth of nesting kept as a number. No check ever fails: it comes
to what reading without checks comes to.
-/

namespace Specimen.Checked

open Reader CodePointSet

structure Nesting where
  state : State
  depth : Nat

namespace Nesting

abbrev of (s : State) : Nesting := ⟨s, s.enclosing.length⟩

def add (t : Nesting) (item : Node) (last : Repeatable) (d : Cursor) : Nesting :=
  { t with state := t.state.add item last d }

def enter (t : Nesting) (opener : Opener) (inside : Flags) (d : Cursor) : Nesting :=
  ⟨t.state.enter opener inside d, t.depth + 1⟩

/-- Closes a group. A capturing group is entered at the place before its number. -/
def leave (t : Nesting) (group : OpenGroup) (enclosing : List OpenGroup) (d : Cursor) :
    Checked Nesting := do
  let depth ← minus t.depth 1
  let _ ← match group.opener.group? with
    | some number => minus number 1
    | none => pure 0
  return ⟨t.state.leave group enclosing d, depth⟩

end Nesting

structure InRange (s : State) : Prop where
  count : s.groups.count ≤ maxGroups
  opened : ∀ group ∈ s.openGroups, 1 ≤ group

section Groups

variable {s : State} {c d : Cursor}

def openCapture (t : Nesting) (name : Option String) (d : Cursor) : Checked Nesting :=
  if maxGroups ≤ t.state.groups.count then reject .tooManyGroups
  else do
    let groups := t.state.groups.push ⟨name, t.state.cursor.offset⟩
    let group ← fits 16 groups.count
    let opened := t.enter (.capture group name) t.state.flags d
    return { opened with state.groups := groups }

theorem openCapture_eq (name : Option String) : openCapture (.of s) name d =
    ofRead ((Reader.openCapture s name d).map .of) := by
  simp only [openCapture, Reader.openCapture]
  by_cases hcount : maxGroups ≤ s.groups.count
  · rw [if_pos hcount, if_pos hcount]
    rfl
  · have hmax : maxGroups < wordSize 16 := by decide
    have hfits : s.groups.count + 1 < wordSize 16 := by omega
    simp only [if_neg hcount, GroupTable.count_push, fits_of_lt hfits]
    rfl

def openNamed (t : Nesting) (closing : Char) (c : Cursor) : Checked Nesting := do
  let (name, d) ← ofRead (readGroupName closing c)
  openCapture t (some name) d

theorem openNamed_eq (closing : Char) : openNamed (.of s) closing c =
    ofRead ((Reader.openNamed s closing c).map .of) := by
  rw [openNamed, Reader.openNamed]
  cases readGroupName closing c with
  | error reason => rfl
  | ok r => exact openCapture_eq (some r.1)

def openToggle (t : Nesting) (c : Cursor) : Checked Nesting := do
  let (toggle, hasScope, d) ← ofRead (readToggle .none true c.rest c.offset)
  if hasScope then return t.enter (.toggled toggle) (toggle.apply t.state.flags) d
  else return { t with state := t.state.toggle toggle d }

theorem openToggle_eq : openToggle (.of s) c = ofRead ((Reader.openToggle s c).map .of) := by
  rw [openToggle, Reader.openToggle]
  cases readToggle .none true c.rest c.offset with
  | error reason => rfl
  | ok r =>
      obtain ⟨toggle, hasScope, d⟩ := r
      cases hasScope <;> rfl

def openSpecial (t : Nesting) (c : Cursor) : Checked Nesting :=
  match c.peek? with
  | some ':' => do return t.enter .nonCapturing t.state.flags (← consume ':' c)
  | some '=' => reject .lookahead
  | some '!' => reject .lookahead
  | some '<' =>
      if (c.skipAll? ['<', '=']).isSome || (c.skipAll? ['<', '!']).isSome then reject .lookbehind
      else do openNamed t '>' (← consume '<' c)
  | some '\'' => do openNamed t '\'' (← consume '\'' c)
  | some '>' => reject .atomicGroup
  | some '~' => reject .absentOperator
  | some '(' => reject .conditionalGroup
  | _ => openToggle t c

theorem openSpecial_eq : openSpecial (.of s) c = ofRead ((Reader.openSpecial s c).map .of) := by
  simp only [openSpecial, Reader.openSpecial]
  cases hnext : c.next? with
  | none =>
      rw [peek?_eq_map, hnext]
      exact openToggle_eq
  | some r =>
      obtain ⟨x, d⟩ := r
      have hconsume := consume_of_next? hnext
      have hskip (mark : Char) : (c.skipAll? [x, mark]).isSome = decide (d.peek? = some mark) := by
        simp only [Cursor.skipAll?, Cursor.skip?_of_next? hnext]
        by_cases hmark : d.peek? = some mark
        · obtain ⟨e, he⟩ := Cursor.next?_of_peek? hmark
          simp [hmark, Cursor.skip?_of_next? he]
        · simp [hmark, Cursor.skip?_eq_none hmark]
      rw [Cursor.peek?_of_next? hnext]
      split
      · next hx => cases hx; rw [hconsume]; rfl
      · next hx => cases hx; rfl
      · next hx => cases hx; rfl
      · next hx =>
          cases hx
          simp only [hskip, hconsume, ok_bind, openNamed_eq]
          by_cases hbehind : (decide (d.peek? = some '=') || decide (d.peek? = some '!')) = true
          · rw [if_pos hbehind, if_pos hbehind]
            rfl
          · rw [if_neg hbehind, if_neg hbehind]
      · next hx => cases hx; rw [hconsume]; exact openNamed_eq '\''
      · next hx => cases hx; rfl
      · next hx => cases hx; rfl
      · next hx => cases hx; rfl
      · split
        case h_9 => exact openToggle_eq
        all_goals simp_all

def readGroup (t : Nesting) : Checked Nesting := do
  let c ← consume '(' t.state.cursor
  match c.skip? '?' with
  | some d => openSpecial t d
  | none => openCapture t none c

theorem readGroup_eq (hopen : s.cursor.next? = some ('(', c)) :
    readGroup (.of s) = ofRead ((Reader.readGroup s c).map .of) := by
  have hconsume : consume '(' (Nesting.of s).state.cursor = .ok c := consume_of_next? hopen
  rw [readGroup, Reader.readGroup, hconsume, ok_bind]
  cases c.skip? '?' with
  | some d => exact openSpecial_eq
  | none => exact openCapture_eq none

end Groups

section Terms

variable {s : State} {c d : Cursor} {total : Nat}

def addAnchor (t : Nesting) (kind : Anchor) (d : Cursor) : Checked Nesting := do
  return { t with state := ← ofRead (Reader.addAnchor t.state kind d) }

theorem addAnchor_eq (kind : Anchor) : addAnchor (.of s) kind d =
    ofRead ((Reader.addAnchor s kind d).map .of) := by
  rw [addAnchor]
  cases hadd : Reader.addAnchor s kind d with
  | error reason => rfl
  | ok t =>
      obtain rfl := addAnchor_ok hadd
      rfl

def addEscape (total : Nat) (t : Nesting) (c : Cursor) : Checked Nesting := do
  match ← readEscape (t.state.scope total) t.state.flags.icase c with
  | (.anchor kind, d) => addAnchor t kind d
  | (node, d) => return t.add node .admitted d

theorem addEscape_eq (h : InRange s) : addEscape total (.of s) c =
    ofRead ((Reader.addEscape total s c).map .of) := by
  have hread : readEscape (s.scope total) s.flags.icase c =
      ofRead (Reader.readEscape (s.scope total) s.flags.icase c) := readEscape_eq h.count c
  simp only [addEscape, Reader.addEscape, hread]
  cases Reader.readEscape (s.scope total) s.flags.icase c with
  | error reason => rfl
  | ok r =>
      obtain ⟨node, d⟩ := r
      cases node with
      | anchor kind => exact addAnchor_eq kind
      | _ => rfl

def addChar (t : Nesting) (x : Char) : Checked Nesting := do
  return t.add (.char x t.state.flags.icase) .admitted (← consume x t.state.cursor)

/-- A brace that is due to be a term is none if it starts an interval. Why an interval is rejected does
not matter, but a check that fails does. -/
def barInterval (c : Cursor) : Checked Unit :=
  match readQuantifier c with
  | .ok (some _, _) => reject .nothingToRepeat
  | .error (.fault f) => fault f
  | _ => return ()

def readTerm (total : Nat) (t : Nesting) (x : Char) : Checked Nesting :=
  match x with
  | '^' => do addAnchor t .startOfLine (← consume '^' t.state.cursor)
  | '$' => do addAnchor t .endOfLine (← consume '$' t.state.cursor)
  | '\\' => do addEscape total t (← consume '\\' t.state.cursor)
  | '.' => do
      let d ← consume '.' t.state.cursor
      return t.add (.bracket (← dot t.state.flags.multiline) false) .admitted d
  | '(' => readGroup t
  | '[' => do
      let (set, d) ← readBracket t.state.flags.icase t.state.cursor
      return t.add (.bracket set t.state.flags.icase) .admitted d
  | '*' => reject .nothingToRepeat
  | '+' => reject .nothingToRepeat
  | '?' => reject .nothingToRepeat
  | '{' => do
      barInterval t.state.cursor
      addChar t '{'
  | x => addChar t x

theorem barInterval_of_some {r : Quantifier × Cursor}
    (h : Reader.readQuantifier c = .ok (some r)) : barInterval c = reject .nothingToRepeat := by
  rw [barInterval, readQuantifier_eq, h]
  rfl

theorem barInterval_of_ne (h : ∀ r, Reader.readQuantifier c ≠ .ok (some r)) :
    barInterval c = .ok () := by
  rw [barInterval, readQuantifier_eq]
  cases hread : Reader.readQuantifier c with
  | error reason => rfl
  | ok found =>
      cases found with
      | none => rfl
      | some r => exact absurd hread (h r)

theorem addChar_eq {x : Char} (hx : s.cursor.next? = some (x, d)) :
    addChar (.of s) x = .ok (.of (Reader.addChar s x d)) := by
  have hconsume : consume x (Nesting.of s).state.cursor = .ok d := consume_of_next? hx
  rw [addChar, hconsume]
  rfl

theorem addBrace_eq (hx : s.cursor.next? = some ('{', d)) :
    (barInterval s.cursor >>= fun _ => addChar (.of s) '{') =
      ofRead ((Reader.addBrace s d).map .of) := by
  rw [addChar_eq hx, Reader.addBrace]
  by_cases hq : ∃ r, Reader.readQuantifier s.cursor = .ok (some r)
  · obtain ⟨r, hr⟩ := hq
    rw [barInterval_of_some hr, hr]
    rfl
  · have hnone : ∀ r, Reader.readQuantifier s.cursor ≠ .ok (some r) := fun r hr => hq ⟨r, hr⟩
    rw [barInterval_of_ne hnone]
    split
    · next hr => exact absurd hr (hnone _)
    · rfl

theorem addBracket_eq (hx : s.cursor.next? = some ('[', d)) :
    (readBracket s.flags.icase s.cursor >>= fun r =>
      .ok ((Nesting.of s).add (.bracket r.1 s.flags.icase) .admitted r.2)) =
      ofRead ((Reader.addBracket s d).map .of) := by
  rw [readBracket_eq hx, Reader.addBracket]
  cases Reader.readBracket s.flags.icase d <;> rfl

theorem readTerm_eq (h : InRange s) {x : Char} (hx : s.cursor.next? = some (x, d)) :
    readTerm total (.of s) x = ofRead ((Reader.readTerm total s x d).map .of) := by
  have hconsume : consume x (Nesting.of s).state.cursor = .ok d := consume_of_next? hx
  simp only [readTerm]
  split
  · rw [hconsume]
    exact addAnchor_eq .startOfLine
  · rw [hconsume]
    exact addAnchor_eq .endOfLine
  · rw [hconsume]
    exact addEscape_eq h
  · rw [hconsume, dot_eq]
    rfl
  · exact readGroup_eq hx
  · exact addBracket_eq hx
  · rfl
  · rfl
  · rfl
  · exact addBrace_eq hx
  · rw [addChar_eq hx, Reader.readTerm]
    · rfl
    all_goals assumption

end Terms

section Steps

variable {s : State} {d : Cursor} {total : Nat}

/-- Ends a branch where no term and no quantifier stands. Outside of groups nothing but a closing
parenthesis can be left. -/
def endBranch (t : Nesting) : Checked (Progress Nesting Reading) :=
  match t.state.cursor.skip? '|' with
  | some d => return .more { t with state := t.state.nextBranch d }
  | none =>
      match t.state.enclosing with
      | group :: enclosing =>
          match t.state.cursor.skip? ')' with
          | some d => do return .more (← t.leave group enclosing d)
          | none => reject .unbalancedParenthesis
      | [] =>
          match t.state.cursor.peek? with
          | none => return .done (t.state.branches.node, t.state.groups)
          | some x => if x = ')' then reject .unbalancedParenthesis else fault (.unexpectedCharacter x)

theorem endBranch_of_end (hx : s.cursor.next? = none) :
    endBranch (.of s) = ofRead ((endPattern s).map (mapState .of)) := by
  have hskip (mark : Char) : s.cursor.skip? mark = none := by rw [Cursor.skip?, hx]
  have hpeek : s.cursor.peek? = none := by rw [peek?_eq_map, hx]; rfl
  simp only [endBranch, endPattern, hskip, hpeek]
  cases s.enclosing <;> rfl

theorem leave_eq (h : InRange s) {group : OpenGroup} {enclosing : List OpenGroup}
    (hs : s.enclosing = group :: enclosing) :
    (Nesting.of s).leave group enclosing d = .ok (.of (s.leave group enclosing d)) := by
  have hdepth : (Nesting.of s).depth = enclosing.length + 1 := congrArg List.length hs
  have hleave : (Nesting.of s).leave group enclosing d =
      .ok ⟨s.leave group enclosing d, enclosing.length⟩ := by
    rw [Nesting.leave, hdepth, minus_of_le (Nat.le_add_left 1 _), ok_bind]
    cases hgroup : group.opener.group? with
    | none => rfl
    | some number =>
        have hmem : number ∈ s.openGroups := by
          rw [State.openGroups, hs]
          exact List.mem_filterMap.2 ⟨group, List.mem_cons_self, hgroup⟩
        simp only [minus_of_le (h.opened number hmem)]
        rfl
  exact hleave

theorem endBranch_of_close (h : InRange s) (hx : s.cursor.next? = some (')', d)) :
    endBranch (.of s) = ofRead ((closeGroup s d).map (mapState .of)) := by
  have hbar : s.cursor.skip? '|' = none := by simp [Cursor.skip?, hx]
  have hclose : s.cursor.skip? ')' = some d := Cursor.skip?_of_next? hx
  have hpeek : s.cursor.peek? = some ')' := Cursor.peek?_of_next? hx
  simp only [endBranch, closeGroup, hbar, hclose, hpeek]
  cases henclosing : s.enclosing with
  | nil => rfl
  | cons group enclosing =>
      simp only [leave_eq h henclosing]
      rfl

theorem endBranch_of_bar (hx : s.cursor.next? = some ('|', d)) :
    endBranch (.of s) = .ok (.more (.of (s.nextBranch d))) := by
  simp only [endBranch, Cursor.skip?_of_next? hx]
  rfl

def termStep (total : Nat) (t : Nesting) : Checked (Progress Nesting Reading) :=
  match t.state.cursor.peek? with
  | none => endBranch t
  | some x => if x = ')' || x = '|' then endBranch t else do return .more (← readTerm total t x)

theorem termStep_eq (h : InRange s) :
    termStep total (.of s) = ofRead ((Reader.termStep total s).map (mapState .of)) := by
  rw [Reader.termStep_eq, termStep, peek?_eq_map]
  cases hnext : s.cursor.next? with
  | none => exact endBranch_of_end hnext
  | some r =>
      obtain ⟨x, d⟩ := r
      simp only [Option.map_some, Bool.or_eq_true, decide_eq_true_eq]
      by_cases hclose : x = ')'
      · subst hclose
        exact endBranch_of_close h hnext
      · by_cases hbar : x = '|'
        · subst hbar
          exact endBranch_of_bar hnext
        · have hterm : ¬(x = ')' ∨ x = '|') := by simp [hclose, hbar]
          rw [if_neg hterm, if_neg hclose, if_neg hbar, readTerm_eq h hnext]
          cases Reader.readTerm total s x d <;> rfl

def markedStep (total : Nat) (t : Nesting) : Checked (Progress Nesting Reading) :=
  if t.state.last = .nothing then termStep total t
  else do
    match ← readQuantifier t.state.cursor with
    | (none, c) => termStep total { t with state.cursor := c }
    | (some q, d) =>
        if t.state.last = .refused then reject .misplacedQuantifier
        else return .more { t with state := t.state.repeatLast q d }

theorem markedStep_eq (h : InRange s) :
    markedStep total (.of s) = ofRead ((Reader.markedStep total s).map (mapState .of)) := by
  simp only [markedStep, Reader.markedStep, readQuantifier_eq]
  split
  · exact termStep_eq h
  · cases Reader.readQuantifier s.cursor with
    | error reason => rfl
    | ok found =>
        cases found with
        | none => exact termStep_eq h
        | some r =>
            simp only [Except.map, ofRead_ok, ok_bind]
            dsimp only [orBack, Option.map, Option.getD]
            split <;> rfl

def step (total : Nat) (t : Nesting) : Checked (Progress Nesting Reading) := do
  let c ← ofRead (skipTrivia t.state.flags.extended t.state.cursor)
  markedStep total { t with state.cursor := c }

theorem step_eq (h : InRange s) :
    step total (.of s) = ofRead ((Reader.step total s).map (mapState .of)) := by
  rw [step, Reader.step]
  cases skipTrivia s.flags.extended s.cursor with
  | error reason => rfl
  | ok c => exact markedStep_eq (s := { s with cursor := c }) ⟨h.count, h.opened⟩

end Steps

section Runs

variable {s t : State} {text : String} {flags : Flags}

theorem count_le_of_reached (h : Reached text flags s) : s.groups.count ≤ maxGroups := by
  refine h.holds (P := fun s => s.groups.count ≤ maxGroups) (Nat.zero_le _) (fun hs _ => hs) ?_
  intro s t hs _ _ _ hmove
  rcases hmove.groups_cases with ⟨hcount, name, d, rfl⟩ | ⟨group, enclosing, d, -, rfl⟩ | ⟨hgroups, -⟩
  · rw [State.declare, GroupTable.count_push]
    exact hcount
  · exact hs
  · rwa [hgroups]

theorem inRange_of_reached (h : Reached text flags s) : InRange s :=
  ⟨count_le_of_reached h, fun group hgroup => ((opensKnown_of_reached h).range group hgroup).1⟩

def read (text : String) (flags : Flags) : Checked Pattern := do
  let total := countGroups flags text.toList
  let (root, groups) ← runWithin (step total) (text.toList.length + 1) (.of (.start flags text))
  return ⟨root, flags, groups⟩

theorem read_eq (text : String) (flags : Flags) :
    read text flags = ofRead (Pattern.read text flags) := by
  have hrun : runWithin (step (countGroups flags text.toList)) (text.toList.length + 1)
      (.of (.start flags text)) =
      ofRead (patternRun (countGroups flags text.toList) (.start flags text)) :=
    runWithin_eq Nesting.of size_lt_of_step (P := Reached text flags)
      (fun hs => step_eq (inRange_of_reached hs)) (fun hs hstep => hs.next hstep) .start
      (Nat.lt_succ_self _)
  rw [read, Pattern.read_eq, hrun]
  cases patternRun (countGroups flags text.toList) (.start flags text) <;> rfl

theorem read_faultless (text : String) (flags : Flags) :
    (∀ f, read text flags ≠ fault f) ∧ read text flags = ofRead (Pattern.read text flags) := by
  refine ⟨fun f hfault => ?_, read_eq text flags⟩
  rw [read_eq] at hfault
  exact ofRead_ne_fault _ f hfault

end Runs

section Kept

variable {s t : State} {text : String} {flags : Flags} {total : Nat}

/-- The marks of the groups, written down: a group that is declared is marked open, and a capture that ends is
marked closed at its number. -/
def marked (s t : State) (marks : List Bool) : List Bool :=
  if s.groups.count < t.groups.count then marks ++ [false]
  else if t.depth < s.depth then
    (s.enclosing.head?.bind (·.opener.group?)).elim marks fun number => marks.set (number - 1) true
  else marks

theorem marked_of_move (hs : s.OpensKnown) (h : Move total s t) : marked s t s.closed = t.closed := by
  rcases h.groups_cases with ⟨-, name, d, rfl⟩ | ⟨group, enclosing, d, henclosing, rfl⟩ |
    ⟨hgroups, hsuffix, -, hclosed⟩
  · have hcount : s.groups.count < (s.declare name d).groups.count := by
      rw [State.declare, GroupTable.count_push]
      exact Nat.lt_succ_self _
    rw [marked, if_pos hcount, State.closed_declare]
  · have hcount : ¬ s.groups.count < (s.leave group enclosing d).groups.count := Nat.lt_irrefl _
    have hdepth : (s.leave group enclosing d).depth < s.depth := by
      rw [State.depth, State.depth, henclosing]
      exact Nat.lt_succ_self _
    rw [marked, if_neg hcount, if_pos hdepth, hs.closed_leave henclosing, henclosing]
    rfl
  · have hdepth : ¬ t.depth < s.depth := Nat.not_lt.2 hsuffix.length_le
    rw [marked, hgroups, if_neg (Nat.lt_irrefl _), if_neg hdepth, hclosed]

theorem marked_of_step (hs : s.OpensKnown) (h : Reader.step total s = .ok (.more t)) :
    marked s t s.closed = t.closed := by
  obtain ⟨c, -, -, hmove⟩ := step_more h
  exact marked_of_move (s := { s with cursor := c }) (hs.of_eq rfl (.refl _)) hmove

/-- Reading with every check comes to a state, with the marks that were written down on the way. -/
inductive Kept (text : String) (flags : Flags) : Nesting → List Bool → Prop where
  | start : Kept text flags (.of (.start flags text)) []
  | next {t u : Nesting} {marks : List Bool} : Kept text flags t marks →
      step (countGroups flags text.toList) t = .ok (.more u) →
      Kept text flags u (marked t.state u.state marks)

theorem step_of_more (hs : InRange s) {u : Nesting} (h : step total (.of s) = .ok (.more u)) :
    ∃ t, Reader.step total s = .ok (.more t) ∧ u = .of t := by
  rw [step_eq hs] at h
  cases hstep : Reader.step total s with
  | error reason =>
      rw [hstep] at h
      cases h
  | ok progress =>
      rw [hstep] at h
      cases progress with
      | more t => cases h; exact ⟨t, rfl, rfl⟩
      | done result => cases h

/-- What a reader writes down, the depth of nesting and the marks of the groups, is what the groups around a
place say. -/
theorem kept_iff {t : Nesting} {marks : List Bool} : Kept text flags t marks ↔
    Reached text flags t.state ∧ t.depth = t.state.depth ∧ marks = t.state.closed := by
  constructor
  · intro h
    induction h with
    | start => exact ⟨.start, rfl, rfl⟩
    | @next t u marks _ hstep ih =>
        obtain ⟨hreached, hdepth, rfl⟩ := ih
        obtain ⟨s, depth⟩ := t
        obtain rfl : depth = s.depth := hdepth
        obtain ⟨v, hv, rfl⟩ := step_of_more (inRange_of_reached hreached) hstep
        exact ⟨hreached.next hv, rfl, marked_of_step (opensKnown_of_reached hreached) hv⟩
  · obtain ⟨s, depth⟩ := t
    rintro ⟨hreached, hdepth, rfl⟩
    obtain rfl : depth = s.depth := hdepth
    change Reached text flags s at hreached
    induction hreached with
    | start => exact .start
    | @next s t hs hstep ih =>
        have hchecked : step (countGroups flags text.toList) (.of s) = .ok (.more (.of t)) := by
          rw [step_eq (inRange_of_reached hs), hstep]
          rfl
        rw [← marked_of_step (opensKnown_of_reached hs) hstep]
        exact Kept.next ih hchecked

end Kept

end Specimen.Checked
