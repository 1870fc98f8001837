import Specimen.Proofs.Reader.BracketCount
import Specimen.Proofs.Reader.Move

namespace Specimen.Reader

namespace ControlScan

variable {g : GroupScan} {c d : Cursor}

theorem countFrom_commentEnd? {rest : List Char} {offset : Nat} (h : commentEnd? rest offset = some d) :
    (of g .groupComment).countFrom ⟨rest, offset⟩ = (of g .plain).countFrom d := by
  fun_induction commentEnd? rest offset with
  | case1 => simp at h
  | case2 => simp at h
  | case3 x rest offset ih =>
      rw [countFrom_cons, countFrom_cons]
      exact ih h
  | case4 rest offset =>
      cases h
      rw [countFrom_cons]
      rfl
  | case5 x rest offset hlone hescape hclose ih =>
      have hx : x ≠ '\\' := by
        rintro rfl
        cases rest with
        | nil => exact hlone rfl rfl
        | cons y rest => exact hescape y rest rfl rfl
      have hstep : (of g .groupComment).step x = of g .groupComment := by
        simp [step, of, after, GroupScan.step, hx, hclose]
      rw [countFrom_cons, hstep]
      exact ih h

theorem countFrom_skipLine (c : Cursor) :
    (of g .lineComment).countFrom c = (of g .plain).countFrom (skipLine c) := by
  have hspan : (c.span (· != '\n')).1.foldl step (of g .lineComment) = of g .lineComment := by
    have hline : ∀ x ∈ (c.span (· != '\n')).1, x ≠ '\n' := by
      intro x hx
      simpa using Cursor.Drifts.holds_of_mem_span hx
    generalize (c.span (· != '\n')).1 = text at hline
    induction text with
    | nil => rfl
    | cons x rest ih =>
        have hstep : (of g .lineComment).step x = of g .lineComment := by
          simp [step, of, after, GroupScan.step, hline x List.mem_cons_self]
        rw [List.foldl_cons, hstep]
        exact ih fun y hy => hline y (List.mem_cons_of_mem x hy)
  rw [countFrom_reads (Cursor.reads_span _ c), hspan]
  simp only [skipLine, Cursor.skipOptional]
  split
  · next h =>
      rw [countFrom_skip h]
      rfl
  · next h =>
      refine countFrom_congr rfl fun x d hnext => ?_
      -- A line ends at its newline or with the text.
      have hx : x ≠ '\n' := ne_of_skip?_none h hnext
      have hrest : c.rest.dropWhile (· != '\n') = x :: d.rest :=
        (Cursor.reads_of_next? hnext).rest_eq
      have hne : c.rest.dropWhile (· != '\n') ≠ [] := by
        rw [hrest]
        exact List.cons_ne_nil _ _
      have hhead := List.head_dropWhile_not (· != '\n') hne
      simp [hrest, hx] at hhead

theorem countFrom_skipTrivia (hdepth : g.bracketDepth = 0)
    (h : skipTrivia g.extended c = .ok d) :
    (of g .plain).countFrom c = (of g .plain).countFrom d := by
  generalize hextended : g.extended = extended at h
  fun_induction skipTrivia extended c with
  | case1 c b hb e he ih =>
      have hstart : ['(', '?', '#'].foldl step (of g .plain) = of g .groupComment := by
        simp [step, of, after, GroupScan.step, GroupScan.plainStep, hdepth]
      rw [countFrom_reads (Cursor.reads_of_skipAll? hb), hstart]
      exact (countFrom_commentEnd? he).trans (ih h)
  | case2 => simp at h
  | case3 c _ x b hb hblank ih =>
      simp only [Bool.and_eq_true] at hblank
      have hx : isInert x = true := isInert_of_holds hblank.2 (by decide +kernel)
      rw [countFrom_next hb, step_plain_inert hx]
      exact ih h
  | case4 c _ x b hb _ hsharp ih =>
      simp only [Bool.and_eq_true, beq_iff_eq] at hsharp
      obtain ⟨rfl, rfl⟩ := hsharp
      have hstep : (of g .plain).step '#' = of g .lineComment := by
        simp [step, of, after, GroupScan.step, GroupScan.plainStep, hdepth, hextended]
      rw [countFrom_next hb, hstep, countFrom_skipLine]
      exact ih h
  | case5 => cases h; rfl
  | case6 => cases h; rfl

theorem countFrom_parenthesis (h : c.skip? '?' = none) : (of g .parenthesis).countFrom c =
    (of { g.enterGroup with count := g.count + 1 } .plain).countFrom c := by
  refine countFrom_congr rfl fun x d hnext => ?_
  have hx : x ≠ '?' := ne_of_skip?_none h hnext
  simp [step, of, after, GroupScan.step, GroupScan.enterGroup, GroupScan.plainStep, hx]

theorem countFrom_angle (h : ∀ x d, c.next? = some (x, d) → x ≠ '=' ∧ x ≠ '!') :
    (of g .angle).countFrom c = (of { g with count := g.count + 1 } .plain).countFrom c := by
  refine countFrom_congr rfl fun x d hnext => ?_
  obtain ⟨hequals, hbang⟩ := h x d hnext
  simp [step, of, after, GroupScan.step, GroupScan.plainStep, hequals, hbang]

theorem countFrom_question (h : ∀ x d, c.next? = some (x, d) → x ≠ '#' ∧ x ≠ '\'' ∧ x ≠ '<') :
    (of g .question).countFrom c = (of g (.options g.extended true)).countFrom c := by
  refine countFrom_congr rfl fun x d hnext => ?_
  obtain ⟨hsharp, hquote, hangle⟩ := h x d hnext
  simp [step, of, after, GroupScan.step, GroupScan.optionStep, GroupScan.plainStep,
    GroupScan.enterGroup, hsharp, hquote, hangle]

theorem extended_of_withLetter? {toggle changed : Toggle} {enable : Bool} {x : Char} (flags : Flags)
    (h : withLetter? toggle enable x = some changed)
    (henable : enable = true → toggle.disable.extended = false) :
    (of g (.options (toggle.apply flags).extended enable)).step x =
        of g (.options (changed.apply flags).extended enable) ∧
      (enable = true → changed.disable.extended = false) := by
  cases enable with
  | true =>
      simp only [withLetter?, if_true, Option.map_eq_some_iff] at h
      obtain ⟨enabled, hletter, rfl⟩ := h
      have hdisable := henable rfl
      simp only [Flags.withLetter?] at hletter
      split at hletter
      · cases hletter
        simp [step, of, after, GroupScan.step, GroupScan.optionStep, Toggle.apply, hdisable]
      · cases hletter
        simp [step, of, after, GroupScan.step, GroupScan.optionStep, Toggle.apply, hdisable]
      · cases hletter
        simp [step, of, after, GroupScan.step, GroupScan.optionStep, Toggle.apply, hdisable]
      · cases hletter
  | false =>
      simp only [withLetter?, Bool.false_eq_true, if_false, Option.map_eq_some_iff] at h
      obtain ⟨disabled, hletter, rfl⟩ := h
      simp only [Flags.withLetter?] at hletter
      split at hletter
      · cases hletter
        simp [step, of, after, GroupScan.step, GroupScan.optionStep, Toggle.apply]
      · cases hletter
        simp [step, of, after, GroupScan.step, GroupScan.optionStep, Toggle.apply]
      · cases hletter
        simp [step, of, after, GroupScan.step, GroupScan.optionStep, Toggle.apply]
      · cases hletter

def afterToggle (g : GroupScan) (hasScope extended : Bool) : GroupScan :=
  if hasScope then { g.enterGroup with extended := extended } else { g with extended := extended }

theorem countFrom_readToggle {toggle changed : Toggle} {enable hasScope : Bool} {flags : Flags}
    {rest : List Char} {offset : Nat}
    (h : readToggle toggle enable rest offset = .ok (changed, hasScope, d))
    (henable : enable = true → toggle.disable.extended = false) :
    (of g (.options (toggle.apply flags).extended enable)).countFrom ⟨rest, offset⟩ =
      (of (afterToggle g hasScope (changed.apply flags).extended) .plain).countFrom d := by
  fun_induction readToggle toggle enable rest offset with
  | case1 => simp at h
  | case2 toggle enable x rest offset next hminus ih =>
      simp only [Bool.and_eq_true, decide_eq_true_eq] at hminus
      obtain ⟨rfl, rfl⟩ := hminus
      rw [countFrom_cons]
      exact ih h fun henable => absurd henable (by decide)
  | case3 toggle enable rest offset next =>
      cases h
      rw [countFrom_cons]
      rfl
  | case4 toggle enable rest offset next =>
      cases h
      have hstep : (of g (.options (changed.apply flags).extended enable)).step ':' =
          of (afterToggle g true (changed.apply flags).extended) .plain := by
        simp [step, of, after, GroupScan.step, GroupScan.optionStep, GroupScan.plainStep, afterToggle,
          GroupScan.enterGroup]
      rw [countFrom_cons, hstep]
  | case5 toggle enable x rest offset next hminus hclose hcolon changed hletter ih =>
      obtain ⟨hstep, hkept⟩ := extended_of_withLetter? (g := g) flags hletter henable
      rw [countFrom_cons, hstep]
      exact ih h hkept
  | case6 => simp at h

end ControlScan

theorem next_of_readToggle {toggle changed : Toggle} {hasScope : Bool} {c d e : Cursor} {x : Char}
    (h : readToggle toggle true c.rest c.offset = .ok (changed, hasScope, d))
    (hc : c.next? = some (x, e)) : x ≠ '#' ∧ x ≠ '\'' ∧ x ≠ '<' := by
  have hrest : c.rest = x :: e.rest := (Cursor.reads_of_next? hc).rest_eq
  rw [hrest] at h
  refine ⟨?_, ?_, ?_⟩
  · rintro rfl
    simp [readToggle, withLetter?, Flags.withLetter?] at h
  · rintro rfl
    simp [readToggle, withLetter?, Flags.withLetter?] at h
  · rintro rfl
    simp [readToggle, withLetter?, Flags.withLetter?] at h

theorem next_of_readGroupName {closing x : Char} {c d e : Cursor} {name : String}
    (h : readGroupName closing c = .ok (name, d)) (hc : c.next? = some (x, e)) :
    isNameChar x = true := by
  refine Decidable.of_not_not fun hx => ?_
  have hrest : c.rest = x :: e.rest := (Cursor.reads_of_next? hc).rest_eq
  have hnil : (c.span isNameChar).1 = [] := by
    rw [Cursor.span, hrest, List.takeWhile_cons_of_neg hx]
  simp only [readGroupName, hnil] at h
  split at h
  · simp at h
  · simp [isGroupName] at h

namespace State

def scanned (s : State) : GroupScan :=
  ⟨s.groups.count, 0, s.flags.extended, s.enclosing.map (·.flags.extended), .plain⟩

open ControlScan

variable {s t : State} {c d : Cursor}

theorem scanned_declare (s : State) (name : Option String) (d : Cursor) :
    (s.declare name d).scanned =
      { s.scanned.enterGroup with count := s.scanned.count + 1 } := by
  simp only [scanned, declare, GroupTable.count_push]
  rfl

theorem countFrom_named {mark closing : Char} {name : String} {e : Cursor}
    (hmark : c.next? = some (mark, e)) (hmarks : mark = '<' ∧ closing = '>' ∨ mark = '\'' ∧ closing = '\'')
    (hname : readGroupName closing e = .ok (name, d)) :
    (of s.scanned .question).countFrom c =
      (of { s.scanned.enterGroup with count := s.scanned.count + 1 } .plain).countFrom d := by
  rw [countFrom_next hmark]
  rcases hmarks with ⟨rfl, rfl⟩ | ⟨rfl, rfl⟩
  · have hstep : (of s.scanned .question).step '<' = of s.scanned.enterGroup .angle := rfl
    have hstart : ∀ x b, e.next? = some (x, b) → x ≠ '=' ∧ x ≠ '!' := by
      intro x b hx
      have hchar := next_of_readGroupName hname hx
      constructor
      · rintro rfl
        exact absurd hchar (by decide +kernel)
      · rintro rfl
        exact absurd hchar (by decide +kernel)
    rw [hstep, countFrom_angle hstart, countFrom_drifts (drifts_of_readGroupName rfl hname).1]
    rfl
  · have hstep : (of s.scanned .question).step '\'' =
        of { s.scanned.enterGroup with count := s.scanned.count + 1 } .plain := rfl
    rw [hstep, countFrom_drifts (drifts_of_readGroupName rfl hname).1]

theorem countFrom_toggled {toggle : Toggle} {hasScope : Bool}
    (h : readToggle .none true c.rest c.offset = .ok (toggle, hasScope, d)) :
    (of s.scanned .question).countFrom c =
      (of (afterToggle s.scanned hasScope (toggle.apply s.flags).extended) .plain).countFrom d := by
  have hstart : s.scanned.extended = (Toggle.none.apply s.flags).extended := by
    rw [Toggle.apply_none]
    rfl
  rw [countFrom_question fun x b hx => next_of_readToggle h hx, hstart]
  exact countFrom_readToggle h fun _ => rfl

theorem countFrom_opening (h : Opening s c t) :
    (of s.scanned .parenthesis).countFrom c = (of t.scanned .plain).countFrom t.cursor := by
  have hopen : (of s.scanned .parenthesis).step '?' = of s.scanned .question := rfl
  cases h with
  | capture hplain _ =>
      rw [scanned_declare, countFrom_parenthesis hplain]
      rfl
  | named hquestion hmark hmarks hname _ =>
      rw [scanned_declare, countFrom_skip hquestion, hopen]
      exact countFrom_named hmark hmarks hname
  | nonCapturing hquestion hcolon =>
      have hstep : (of s.scanned .question).step ':' = of s.scanned.enterGroup .plain := rfl
      rw [countFrom_skip hquestion, hopen, countFrom_next hcolon, hstep]
      rfl
  | toggleScoped hquestion htoggle =>
      rw [countFrom_skip hquestion, hopen]
      exact countFrom_toggled htoggle
  | toggleRest hquestion htoggle =>
      rw [countFrom_skip hquestion, hopen]
      exact countFrom_toggled htoggle

theorem countFrom_escape (hnames : InertNames s.groups) {total : Nat} {icase : Bool} {node : Node}
    (hc : c.next? = some ('\\', d)) {e : Cursor}
    (h : readEscape (s.scope total) icase d = .ok (node, e)) :
    (of s.scanned .plain).countFrom c = (of s.scanned .plain).countFrom e := by
  have hstep : (of s.scanned .plain).step '\\' = of s.scanned .escaped := rfl
  rw [countFrom_next hc, hstep, ControlScan.countFrom_escape (EscapeText.of_readEscape hnames h)]

theorem countFrom_move (hnames : InertNames s.groups) {total : Nat}
    (htrivia : BehindTrivia s.flags.extended s.cursor) (h : Move total s t) :
    (of s.scanned .plain).countFrom s.cursor = (of t.scanned .plain).countFrom t.cursor := by
  cases h with
  | repeatLast hq _ => exact countFrom_drifts (drifts_of_readQuantifier hq)
  | @leave group enclosing d hc he =>
      have hstep : (of s.scanned .plain).step ')' = of (s.leave group enclosing d).scanned .plain := by
        simp [scanned, State.leave, he, ControlScan.step, of, after, GroupScan.step,
          GroupScan.plainStep, GroupScan.leaveGroup]
      rw [countFrom_next hc, hstep]
      rfl
  | nextBranch hc => exact countFrom_drifts (.next hc rfl)
  | lineAnchor hc hx _ =>
      rcases hx with ⟨rfl, rfl⟩ | ⟨rfl, rfl⟩
      · exact countFrom_drifts (.next hc rfl)
      · exact countFrom_drifts (.next hc rfl)
  | escapedAnchor hc he _ => exact countFrom_escape hnames hc he
  | escape hc he _ => exact countFrom_escape hnames hc he
  | dot hc => exact countFrom_drifts (.next hc rfl)
  | group hc ho =>
      have hstep : (of s.scanned .plain).step '(' = of s.scanned .parenthesis := rfl
      rw [countFrom_next hc, hstep, countFrom_opening ho]
  | bracket hc hb =>
      have hstep : (of s.scanned .plain).step '[' =
          of { s.scanned with bracketDepth := 1 } (.bracketStart true) := rfl
      rw [countFrom_next hc, hstep, countFrom_readBracket rfl hb]
      rfl
  | @char x d hc hx _ =>
      have hmarks : x ∉ ['\\', '[', '(', ')'] := by
        have hall : ['\\', '[', '(', ')'] ⊆ syntaxChars := by decide
        exact fun hmem => hx (hall hmem)
      have hsharp : x = '#' → s.flags.extended = false := by
        intro heq
        cases hextended : s.flags.extended with
        | false => rfl
        | true => exact absurd heq (htrivia.noBlank x d hc hextended).2
      have hstep : s.scanned.step x = s.scanned := GroupScan.step_outside rfl rfl hmarks hsharp
      have hmode : ScanMode.plain ≠ .escaped := by decide
      rw [countFrom_next hc, step_of hmode]
      exact congrArg (fun g => (ControlScan.mk g .none).countFrom d) hstep

theorem inertNames_declare (hnames : InertNames s.groups) {name : Option String}
    (hname : ∀ n, name = some n → ∀ x ∈ n.toList, isInert x = true) :
    InertNames (s.declare name d).groups := by
  intro group n h
  simp only [declare, GroupTable.name?, GroupTable.get?_push] at h
  split at h
  · exact hname n h
  · exact hnames group n h

theorem inertNames_opening (hnames : InertNames s.groups) (h : Opening s c t) :
    InertNames t.groups := by
  cases h with
  | capture _ _ => exact inertNames_declare hnames nofun
  | named _ _ hmarks hname _ =>
      refine inertNames_declare hnames fun n hn => ?_
      cases hn
      rcases hmarks with ⟨rfl, rfl⟩ | ⟨rfl, rfl⟩
      · exact (drifts_of_readGroupName rfl hname).2
      · exact (drifts_of_readGroupName rfl hname).2
  | nonCapturing _ _ => exact hnames
  | toggleScoped _ _ => exact hnames
  | toggleRest _ _ => exact hnames

theorem inertNames_move (hnames : InertNames s.groups) {total : Nat} (h : Move total s t) :
    InertNames t.groups := by
  cases h with
  | group _ ho => exact inertNames_opening hnames ho
  | _ => exact hnames

structure Counted (flags : Flags) (text : String) (s : State) : Prop where
  names : InertNames s.groups
  count : (of s.scanned .plain).countFrom s.cursor = controlCount flags text.toList

end State

end Specimen.Reader

namespace Specimen

open Reader

variable {text : String} {flags : Flags} {p : Pattern}

theorem Pattern.groupCount_of_read (h : Pattern.read text flags = .ok p) :
    controlCount flags text.toList = p.groupCount ∧
      (countGroups flags text.toList = p.groupCount ↔
        countGroups flags text.toList = controlCount flags text.toList) ∧
      ((∀ front, front <+: text.toList →
          (front.foldl ControlScan.step (.start flags.extended)).scan =
            front.foldl GroupScan.step (.start flags.extended)) ↔
        (ControlScan.start flags.extended).harmless text.toList = true) ∧
      ((ControlScan.start flags.extended).harmless text.toList = true →
        countGroups flags text.toList = p.groupCount) := by
  have start : (State.start flags text).Counted flags text := by
    refine ⟨fun group name hname => ?_, rfl⟩
    cases group with
    | zero => cases hname
    | succ n => cases hname
  obtain ⟨s, hs, hrest, _, rfl⟩ := read_induction (P := State.Counted flags text) start
    (fun hs hc => ⟨hs.names, (ControlScan.countFrom_skipTrivia rfl hc).symm.trans hs.count⟩)
    (fun hs _ htrivia _ hmove => ⟨State.inertNames_move hs.names hmove,
      (State.countFrom_move hs.names htrivia hmove).symm.trans hs.count⟩) h
  have hcount : controlCount flags text.toList = s.groups.count := by
    rw [← hs.count, ControlScan.countFrom, hrest]
    rfl
  refine ⟨hcount, ?_, ControlScan.harmless_iff.symm, fun hharmless => ?_⟩
  · rw [hcount]
    rfl
  · exact (countGroups_of_harmless hharmless).trans hcount

theorem Pattern.groupCount_of_read_control :
    ∃ p, Pattern.read "\\cA(a)(?#()[(](?<x>b)" .none = .ok p ∧ p.groupCount = 2 ∧
      countGroups .none "\\cA(a)(?#()[(](?<x>b)".toList = p.groupCount := by
  have heval : (Pattern.read "\\cA(a)(?#()[(](?<x>b)" .none).toOption.map Pattern.groupCount =
      some 2 := by
    decide +kernel
  obtain ⟨p, hp, hcount⟩ := exists_of_read heval
  obtain ⟨_, _, _, hharmless⟩ := Pattern.groupCount_of_read hp
  exact ⟨p, hp, hcount, hharmless (by decide +kernel)⟩

example : countGroups .none "\\c[(a)".toList = 0 ∧ controlCount .none "\\c[(a)".toList = 1 := by
  decide +kernel

end Specimen
