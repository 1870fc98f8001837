import Specimen.Proofs.Reader.WrittenParts
import Specimen.Proofs.Reader.PatternRun

namespace Specimen

open Reader

variable {total : Nat}

namespace Reader

section Leaves

variable {s : State} {c d : Cursor} {node : Node}

theorem Passed.leaf (hs : s.Counts)
    (hrun : patternRun total s = patternRun total (s.add node .admitted d))
    (hcaptures : captures (node.visits s.openGroups) = []) :
    Passed total s (s.add node .admitted d) d [] (node.visits s.openGroups) where
  run := hrun
  cursor := rfl
  flags := rfl
  groups := (List.append_nil _).symm
  enclosing := rfl
  visits := State.visits_add s d node .admitted
  counts := by
    rw [State.Counts, State.visits_add, captures_append, hcaptures, List.append_nil]
    exact hs

theorem run_escape (hx : s.cursor.next? = some ('\\', c))
    (h : readEscape (s.scope total) s.flags.icase c = .ok (node, d)) (hanchor : node.isAnchor = false) :
    patternRun total s = patternRun total (s.add node .admitted d) := by
  refine run_term hx (by decide) nofun ?_
  have hterm : readTerm total s '\\' c = addEscape total s c := rfl
  rw [hterm, addEscape, h]
  cases node with
  | anchor kind => cases hanchor
  | _ => rfl

theorem run_bracket {set : CodePointSet} (hx : s.cursor.next? = some ('[', c))
    (h : readBracket s.flags.icase c = .ok (set, d)) : patternRun total s =
      patternRun total (s.add (.bracket set s.flags.icase) .admitted d) := by
  refine run_term hx (by decide) nofun ?_
  have hterm : readTerm total s '[' c = addBracket s c := rfl
  rw [hterm, addBracket, h]

theorem readEscape_of_hex {scope : Scope} {icase : Bool} (h : HexChar)
    (hc : c.Reads ('u' :: '{' :: (h.digits ++ ['}'])) d) :
    readEscape scope icase c = .ok (.char h.char icase, d) := by
  obtain ⟨e, hu, hdigits⟩ := Cursor.reads_cons_iff.1 hc
  simp [readEscape, hu, CodePointSet.ofClassLetter?, letterNode?, readLiteralEscape,
    readCharEscape_of_hex h hu hdigits]

theorem readEscape_of_name {scope : Scope} {icase : Bool} {chars : List Char}
    (hchars : ∀ x ∈ chars, x ≠ '>') (hnode : namedReference scope chars = .ok node)
    (hc : c.Reads ('k' :: '<' :: (chars ++ ['>'])) d) : readEscape scope icase c = .ok (node, d) := by
  obtain ⟨e, hk, hc⟩ := Cursor.reads_cons_iff.1 hc
  obtain ⟨f, hopen, hname⟩ := Cursor.reads_cons_iff.1 hc
  simp [readEscape, hk, CodePointSet.ofClassLetter?, letterNode?, readNameEscape, hopen,
    readNamed_of_reads hchars hnode hname]

theorem check_of_refersBack (total : Nat) {group : Nat} {name : Option String} (hs : s.Counts)
    (h : RefersBack s.visits s.openGroups group name) :
    (1 ≤ group ∧ group ≤ s.groups.count) ∧ (s.scope total).check group = .ok () ∧
      ∀ n, name = some n → s.groups.find? n = some group := by
  obtain ⟨⟨n, hmet⟩, hclosed, hnamed⟩ := h
  rw [State.Counts] at hs
  rw [hs] at hmet hnamed
  obtain ⟨hlow, hhigh, _⟩ := GroupTable.mem_numbered.1 hmet
  refine ⟨⟨hlow, hhigh⟩, ?_, fun n hn => ?_⟩
  · have hsome : (s.groups.get? group).isSome = true := GroupTable.get?_isSome.2 ⟨hlow, hhigh⟩
    have hdefined : (s.groups.get? group).isNone = false := by
      rw [← Option.not_isSome, hsome]
      rfl
    simp [Scope.check, State.scope, hdefined, hclosed]
  · obtain ⟨hcaptured, hlast⟩ := hnamed n hn
    refine GroupTable.lastNamed?_eq_some hlow hhigh (GroupTable.mem_numbered.1 hcaptured).2.2 ?_
    intro later hlater hle hname
    exact hlast later hlater (GroupTable.mem_numbered.2 ⟨by omega, hle, hname⟩)

end Leaves

section Openers

variable {s : State} {d : Cursor}

theorem run_special {t : State} {c e : Cursor} (hparen : s.cursor.next? = some ('(', c))
    (hquestion : c.next? = some ('?', e)) (hcomment : e.peek? ≠ some '#') (h : openSpecial s e = .ok t) :
    patternRun total s = patternRun total t := by
  refine run_term hparen (by decide) (fun _ => ?_) ?_
  · simp only [Cursor.skipAll?, Cursor.skip?_of_next? hquestion, Cursor.skip?_eq_none hcomment]
  · have hterm : readTerm total s '(' c = readGroup s c := rfl
    rw [hterm, readGroup, Cursor.skip?_of_next? hquestion]
    exact h

theorem run_declare {name : Option GroupName} (hc : s.cursor.Reads (Written.openerText name) d)
    (hd : d.peek? ≠ some '?') (hcount : s.groups.count < maxGroups) :
    patternRun total s = patternRun total (s.declare (name.map GroupName.name) d) := by
  have hopen (name : Option String) (d : Cursor) :
      openCapture s name d = .ok (s.declare name d) := by
    rw [openCapture, if_neg (Nat.not_le.2 hcount)]
    rfl
  cases name with
  | none =>
      obtain ⟨e, hparen, he⟩ := Cursor.reads_cons_iff.1 hc
      rw [Cursor.reads_nil_iff] at he
      rw [← he] at hd ⊢
      refine run_term hparen (by decide) (fun _ => Cursor.skipAll?_eq_none hd) ?_
      have hterm : readTerm total s '(' e = readGroup s e := rfl
      rw [hterm, readGroup, Cursor.skip?_eq_none hd]
      exact hopen none e
  | some name =>
      obtain ⟨c₁, hparen, hc⟩ := Cursor.reads_cons_iff.1 hc
      obtain ⟨c₂, hquestion, hc⟩ := Cursor.reads_cons_iff.1 hc
      obtain ⟨c₃, hangle, hname⟩ := Cursor.reads_cons_iff.1 hc
      have hcomment : c₂.peek? ≠ some '#' := by
        rw [Cursor.peek?_of_next? hangle]
        decide
      refine run_special hparen hquestion hcomment ?_
      exact (openSpecial_of_name name hangle hname).trans (hopen _ d)

theorem run_nonCapturing (hc : s.cursor.Reads ['(', '?', ':'] d) :
    patternRun total s = patternRun total (s.enter .nonCapturing s.flags d) := by
  obtain ⟨c₁, hparen, hc⟩ := Cursor.reads_cons_iff.1 hc
  obtain ⟨c₂, hquestion, hc⟩ := Cursor.reads_cons_iff.1 hc
  obtain ⟨c₃, hcolon, hc⟩ := Cursor.reads_cons_iff.1 hc
  rw [Cursor.reads_nil_iff] at hc
  have hcomment : c₂.peek? ≠ some '#' := by
    rw [Cursor.peek?_of_next? hcolon]
    decide
  refine run_special hparen hquestion hcomment ?_
  simp only [openSpecial, hcolon, hc]

end Openers

def Cursor.Unsuffixed (c : Cursor) : Prop := ∀ x, c.peek? = some x → x ≠ '?' ∧ x ≠ '+'

theorem takesSuffix_eq_false {form : RepeatForm} {x : Char} (h : x ≠ '?' ∧ x ≠ '+') :
    takesSuffix form x = false := by
  unfold takesSuffix
  split
  · exact absurd rfl h.1
  · exact absurd rfl h.2
  · exact absurd rfl h.1
  · rfl

theorem Cursor.Unsuffixed.absorbs {d : Cursor} (h : d.Unsuffixed) (w : Written) {x : Char}
    (hx : d.peek? = some x) : w.absorbs x = false := by
  cases w with
  | loop body q =>
      rw [Written.absorbs, WrittenQuantifier.absorbs, takesSuffix_eq_false (h x hx),
        Bool.and_false]
  | _ => rfl

end Reader

namespace Written

variable {V : List Visit} {c d : Cursor}

def startMarks : List Char := ['\\', '[', '(']

theorem exists_start {w : Written} (h : w.Proper) :
    ∃ x rest, w.text = x :: rest ∧ x ∈ startMarks := by
  induction h with
  | char hex => exact ⟨'\\', _, rfl, by decide⟩
  | bracket set => exact ⟨'[', _, rfl, by decide⟩
  | capture group name _ _ _ _ =>
      cases name with
      | none => exact ⟨'(', _, rfl, by decide⟩
      | some name => exact ⟨'(', _, rfl, by decide⟩
  | nonCapturing _ _ _ _ => exact ⟨'(', _, rfl, by decide⟩
  | backRef group => exact ⟨'\\', _, rfl, by decide⟩
  | namedBackRef group name => exact ⟨'\\', _, rfl, by decide⟩
  | loop _ _ ih =>
      obtain ⟨x, rest, htext, hx⟩ := ih
      exact ⟨x, _, by rw [text, htext, List.cons_append], hx⟩

theorem unsuffixed_items {items : List Written} (h : ∀ w ∈ items, w.Proper)
    (hc : c.Reads (itemsText items) d) (hd : d.Unsuffixed) : c.Unsuffixed := by
  cases items with
  | nil =>
      rw [itemsText, Cursor.reads_nil_iff] at hc
      exact hc ▸ hd
  | cons w rest =>
      obtain ⟨x, others, htext, hx⟩ := exists_start (h w List.mem_cons_self)
      rw [itemsText, htext] at hc
      intro y hy
      rw [Cursor.peek?_of_reads hc] at hy
      cases hy
      have hclear : ∀ mark ∈ startMarks, mark ≠ '?' ∧ mark ≠ '+' :=
        forall_mem_of_all (by decide)
      exact hclear x hx

theorem unsuffixed_branches {more : List (List Written)} (hc : c.Reads (branchesText more) d)
    (hd : d.Unsuffixed) : c.Unsuffixed := by
  cases more with
  | nil =>
      rw [branchesText, Cursor.reads_nil_iff] at hc
      exact hc ▸ hd
  | cons branch rest =>
      intro y hy
      rw [Cursor.peek?_of_reads hc] at hy
      cases hy
      decide

theorem unsuffixed_of_close {e : Cursor} (hx : c.next? = some (')', e)) : c.Unsuffixed := by
  intro y hy
  rw [Cursor.peek?_of_next? hx] at hy
  cases hy
  decide

def IsRead (total : Nat) (V : List Visit) (w : Written) : Prop :=
  ∀ {s : State} {d : Cursor}, s.Counts → s.cursor.Reads w.text d →
    (∀ x, d.peek? = some x → w.absorbs x = false) →
    s.visits ++ (w.node s.flags.icase).visits s.openGroups <+: V →
    ∃ t, Passed total s t d (w.groups s.cursor.offset) ((w.node s.flags.icase).visits s.openGroups) ∧
      t.branches = s.branches.add (w.node s.flags.icase) ∧ t.last = .admitted

theorem isRead_char (hex : HexChar) : (char hex).IsRead total V := by
  intro s d hs hc _ _
  obtain ⟨c, hslash, hc⟩ := Cursor.reads_cons_iff.1 hc
  exact ⟨_, .leaf hs (run_escape hslash (readEscape_of_hex hex hc) rfl) rfl, rfl, rfl⟩

theorem isRead_bracket (set : WrittenSet) : (bracket set).IsRead total V := by
  intro s d hs hc _ _
  obtain ⟨c, hopen, hc⟩ := Cursor.reads_cons_iff.1 hc
  exact ⟨_, .leaf hs (run_bracket hopen (set.readBracket_of_reads _ hc)) rfl, rfl, rfl⟩

theorem refersBack (hV : InOrder V) {before : List Visit} {inside : List Nat} {group : Nat}
    {name : Option String} (hbegins : before ++ (Node.backRef group name).visits inside <+: V) :
    RefersBack before inside group name :=
  hV.refer before inside group name hbegins

theorem isRead_backRef (hV : InOrder V) (group : Numeral 10) : (backRef group).IsRead total V := by
  intro s d hs hc _ hbegins
  obtain ⟨⟨hlow, hhigh⟩, hcheck, _⟩ := check_of_refersBack total hs
    (refersBack hV hbegins)
  have hmax : s.groups.count ≤ maxGroups :=
    hV.count_le ((List.prefix_append _ _).trans hbegins) hs
  have hnode := namedReference_of_digits group ⟨hlow, Nat.le_trans hhigh hmax⟩ hcheck
  have hclear : ∀ x ∈ group.digits, x ≠ '>' := by
    intro x hx heq
    have hdigit := group.isDigit x hx
    rw [heq] at hdigit
    revert hdigit
    decide
  obtain ⟨c, hslash, hc⟩ := Cursor.reads_cons_iff.1 hc
  exact ⟨_, .leaf hs (run_escape hslash (readEscape_of_name hclear hnode hc) rfl) rfl, rfl, rfl⟩

theorem isRead_namedBackRef (hV : InOrder V) (group : Nat) (name : GroupName) :
    (namedBackRef group name).IsRead total V := by
  intro s d hs hc _ hbegins
  obtain ⟨_, hcheck, hfind⟩ := check_of_refersBack total hs (refersBack hV hbegins)
  have hfound : (s.scope total).groups.find? name.name = some group := hfind _ rfl
  have hnode := namedReference_of_name name hfound hcheck
  have hclear : ∀ x ∈ name.chars, x ≠ '>' := by
    rintro x hx rfl
    exact not_mem_chars name (by decide) hx
  obtain ⟨c, hslash, hc⟩ := Cursor.reads_cons_iff.1 hc
  exact ⟨_, .leaf hs (run_escape hslash (readEscape_of_name hclear hnode hc) rfl) rfl, rfl, rfl⟩

theorem isRead_loop {body : Written} {q : WrittenQuantifier} (hbody : body.IsRead total V)
    (hclear : ∀ mark, q.text.head? = some mark → body.absorbs mark = false) :
    (loop body q).IsRead total V := by
  intro s d hs hc hd hbegins
  obtain ⟨e, hbodyText, hq⟩ := Cursor.reads_append_iff.1 hc
  obtain ⟨x, rest, htext, hmark⟩ : ∃ x rest, q.text = x :: rest ∧ x ∈ repeatMarks := by
    cases hspelling : q.spelling
    all_goals exact ⟨_, _, by rw [WrittenQuantifier.text, hspelling]; rfl, by decide⟩
  have hpeek : e.peek? = some x := by
    rw [Cursor.peek?_of_reads hq, htext]
    rfl
  obtain ⟨t, ht, hbranches, hlast⟩ := hbody hs hbodyText
    (fun y hy => hclear y (by rw [htext, ← hy, hpeek]; rfl)) hbegins
  have hread := readQuantifier_of_reads q hq hd
  rw [← ht.cursor] at hread hpeek
  have hstep : Passed total t (t.repeatLast q.quantifier d) d [] [] :=
    .silent ht.counts (run_quantifier hpeek hmark hread hlast) rfl rfl rfl rfl
      (State.visits_repeatLast t d q.quantifier)
  refine ⟨t.repeatLast q.quantifier d, ht.trans_silent hstep, ?_, rfl⟩
  rw [State.repeatLast, hbranches]
  rfl

theorem run_items {items : List Written} (hread : ∀ w ∈ items, w.IsRead total V)
    (hproper : ∀ w ∈ items, w.Proper) {s : State} (hs : s.Counts)
    (hc : s.cursor.Reads (itemsText items) d) (hd : d.Unsuffixed)
    (hbegins : s.visits ++ Node.visitsOf s.openGroups (itemNodes s.flags.icase items) <+: V) :
    ∃ t, Passed total s t d (itemsGroups s.cursor.offset items)
        (Node.visitsOf s.openGroups (itemNodes s.flags.icase items)) ∧
      t.branches =
        ⟨s.branches.finished, (itemNodes s.flags.icase items).reverse ++ s.branches.items⟩ := by
  induction items generalizing s with
  | nil =>
      rw [itemsText, Cursor.reads_nil_iff] at hc
      exact ⟨s, hc ▸ .refl hs, rfl⟩
  | cons w rest ih =>
      obtain ⟨e, hw, hrest⟩ := Cursor.reads_append_iff.1 hc
      have hothers : ∀ other ∈ rest, other.Proper :=
        fun other hother => hproper other (List.mem_cons_of_mem w hother)
      simp only [itemNodes, Node.visitsOf] at hbegins ⊢
      rw [← List.append_assoc] at hbegins
      have hend := unsuffixed_items hothers hrest hd
      obtain ⟨t, ht, hbranches, _⟩ := hread w List.mem_cons_self hs hw (fun x => hend.absorbs w)
        ((List.prefix_append _ _).trans hbegins)
      have hoffset : t.cursor.offset = s.cursor.offset + utf8Length w.text := by
        rw [ht.cursor, hw.offset_eq]
      obtain ⟨u, hu, hbranches'⟩ := ih
        (fun other hother => hread other (List.mem_cons_of_mem w hother)) hothers ht.counts
        (ht.cursor ▸ hrest) (by rwa [ht.visits, ht.openGroups, ht.flags])
      rw [hoffset, ht.openGroups, ht.flags] at hu
      refine ⟨u, ht.trans hu, ?_⟩
      rw [hbranches', hbranches, ht.flags, List.reverse_cons, List.append_assoc]
      rfl

theorem run_branches {more : List (List Written)}
    (hread : ∀ branch ∈ more, ∀ w ∈ branch, w.IsRead total V)
    (hproper : ∀ branch ∈ more, ∀ w ∈ branch, w.Proper) {s : State} (hs : s.Counts)
    (hc : s.cursor.Reads (branchesText more) d) (hd : d.Unsuffixed)
    (hbegins : s.visits ++ Node.visitsOf s.openGroups (branchNodes s.flags.icase more) <+: V) :
    ∃ t, Passed total s t d (branchesGroups s.cursor.offset more)
        (Node.visitsOf s.openGroups (branchNodes s.flags.icase more)) ∧
      Node.ofItems t.branches.items :: t.branches.finished = (branchNodes s.flags.icase more).reverse ++
        (Node.ofItems s.branches.items :: s.branches.finished) := by
  induction more generalizing s with
  | nil =>
      rw [branchesText, Cursor.reads_nil_iff] at hc
      exact ⟨s, hc ▸ .refl hs, rfl⟩
  | cons branch rest ih =>
      obtain ⟨c₁, hbar, hc⟩ := Cursor.reads_cons_iff.1 hc
      obtain ⟨c₂, hitems, hrest⟩ := Cursor.reads_append_iff.1 hc
      simp only [branchNodes, Node.visitsOf, Node.visits_sequence] at hbegins ⊢
      rw [← List.append_assoc] at hbegins
      have hstep : Passed total s (s.nextBranch c₁) c₁ [] [] :=
        .silent hs (run_bar hbar) rfl rfl rfl rfl (State.visits_nextBranch s c₁)
      obtain ⟨t, ht, hbranches⟩ := run_items (hread branch List.mem_cons_self)
        (hproper branch List.mem_cons_self) hstep.counts hitems (unsuffixed_branches hrest hd) (by
          rw [State.visits_nextBranch]
          exact (List.prefix_append _ _).trans hbegins)
      have hpassed := hstep.trans ht
      have hoffset : t.cursor.offset =
          s.cursor.offset + utf8Length ['|'] + utf8Length (itemsText branch) := by
        rw [ht.cursor, hitems.offset_eq, (Cursor.reads_of_next? hbar).offset_eq]
      have hstart : (s.nextBranch c₁).cursor.offset = s.cursor.offset + utf8Length ['|'] :=
        (Cursor.reads_of_next? hbar).offset_eq
      obtain ⟨u, hu, hbranches'⟩ := ih
        (fun other hother => hread other (List.mem_cons_of_mem branch hother))
        (fun other hother => hproper other (List.mem_cons_of_mem branch hother)) hpassed.counts
        (ht.cursor ▸ hrest) (by
          rw [hpassed.visits, hpassed.openGroups, hpassed.flags]
          exact hbegins)
      rw [hoffset, hpassed.openGroups, hpassed.flags] at hu
      rw [hstart] at hpassed
      refine ⟨u, hpassed.trans hu, ?_⟩
      rw [hbranches', hbranches, hpassed.flags]
      simp [State.nextBranch, Branches.nextBranch, Node.ofItems_reverse]

section Body

variable {first : List Written} {more : List (List Written)}
  (hread : ∀ branch ∈ first :: more, ∀ w ∈ branch, w.IsRead total V)
  (hproper : ∀ branch ∈ first :: more, ∀ w ∈ branch, w.Proper)

include hread hproper

theorem run_body {s : State} {e : Cursor} (hs : s.Counts) (hnone : s.branches = .none)
    (hfirst : s.cursor.Reads (itemsText first) e) (hmore : e.Reads (branchesText more) d)
    (hd : d.Unsuffixed)
    (hbegins : s.visits ++ (bodyNode s.flags.icase first more).visits s.openGroups <+: V) :
    ∃ t, Passed total s t d (bodyGroups s.cursor.offset first more)
        ((bodyNode s.flags.icase first more).visits s.openGroups) ∧
      t.branches.node = bodyNode s.flags.icase first more := by
  have hvisits : (bodyNode s.flags.icase first more).visits s.openGroups =
      Node.visitsOf s.openGroups (itemNodes s.flags.icase first) ++
        Node.visitsOf s.openGroups (branchNodes s.flags.icase more) := by
    rw [bodyNode, Node.visits_alternation, Node.visitsOf, Node.visits_sequence]
  rw [hvisits] at hbegins ⊢
  rw [← List.append_assoc] at hbegins
  obtain ⟨t, ht, hitems⟩ := run_items (hread first List.mem_cons_self)
    (hproper first List.mem_cons_self) hs hfirst (unsuffixed_branches hmore hd)
    ((List.prefix_append _ _).trans hbegins)
  obtain ⟨u, hu, hbranches⟩ := run_branches
    (fun branch hbranch => hread branch (List.mem_cons_of_mem first hbranch))
    (fun branch hbranch => hproper branch (List.mem_cons_of_mem first hbranch)) ht.counts
    (ht.cursor ▸ hmore) hd (by rwa [ht.visits, ht.openGroups, ht.flags])
  rw [ht.cursor, hfirst.offset_eq, ht.openGroups, ht.flags] at hu
  refine ⟨u, ht.trans hu, ?_⟩
  rw [Branches.node, hbranches, hitems, hnone, ht.flags, bodyNode, ← Node.ofBranches_reverse]
  simp [Branches.none, Node.ofItems_reverse]

end Body

structure Entered (total : Nat) (s t : State) (opener : Opener) (groups : List GroupInfo)
    (visits : List Visit) : Prop where
  run : patternRun total s = patternRun total t
  flags : t.flags = s.flags
  branches : t.branches = .none
  enclosing : t.enclosing = ⟨opener, s.branches, s.flags⟩ :: s.enclosing
  groups : t.groups.groups.toList = s.groups.groups.toList ++ groups
  visits : t.visits = s.visits ++ visits
  counts : t.Counts

theorem Entered.leave {s t u : State} {opener : Opener} {groups inner : List GroupInfo}
    {visits others : List Visit} {body : Node} {e : Cursor}
    (h : Entered total s t opener groups visits) (hbody : Passed total t u e inner others)
    (hnode : u.branches.node = body) (hclose : e.next? = some (')', d)) :
    ∃ t, Passed total s t d (groups ++ inner) (visits ++ others) ∧
      t.branches = s.branches.add (opener.node body) ∧ t.last = .admitted := by
  have henclosing := hbody.enclosing.trans h.enclosing
  have hvisits := State.visits_leave d henclosing
  refine ⟨u.leave ⟨opener, s.branches, s.flags⟩ s.enclosing d, ?_, ?_, rfl⟩
  · refine ⟨?_, rfl, rfl, ?_, rfl, ?_, ?_⟩
    · rw [h.run, hbody.run]
      exact run_close (by rw [hbody.cursor, hclose]) henclosing
    · have hgroups : u.groups.groups.toList = s.groups.groups.toList ++ (groups ++ inner) := by
        rw [hbody.groups, h.groups, List.append_assoc]
      exact hgroups
    · rw [hvisits, hbody.visits, h.visits, List.append_assoc]
    · rw [State.Counts, hvisits]
      exact hbody.counts
  · rw [State.leave, hnode]

theorem entered_capture (total : Nat) {s : State} {name : Option GroupName} (hs : s.Counts)
    (hc : s.cursor.Reads (openerText name) d) (hd : d.peek? ≠ some '?')
    (hcount : s.groups.count < maxGroups) :
    Entered total s (s.declare (name.map GroupName.name) d)
      (.capture (s.groups.count + 1) (name.map GroupName.name))
      [⟨name.map GroupName.name, s.cursor.offset⟩]
      [⟨s.openGroups, .capture (s.groups.count + 1) (name.map GroupName.name)⟩] := by
  have hvisits : (s.declare (name.map GroupName.name) d).visits =
      s.visits ++ [⟨s.openGroups, .capture (s.groups.count + 1) (name.map GroupName.name)⟩] :=
    State.visits_enter s d (.capture (s.groups.count + 1) (name.map GroupName.name)) s.flags
  refine ⟨run_declare hc hd hcount, rfl, rfl, rfl, ?_, hvisits, ?_⟩
  · simp only [State.declare, GroupTable.push, Array.toList_push]
  · rw [State.Counts] at hs ⊢
    rw [hvisits, captures_append, hs]
    exact (GroupTable.numbered_push ⟨_, s.cursor.offset⟩).symm

theorem entered_nonCapturing (total : Nat) {s : State} (hs : s.Counts)
    (hc : s.cursor.Reads ['(', '?', ':'] d) :
    Entered total s (s.enter .nonCapturing s.flags d) .nonCapturing [] [] := by
  have hvisits : (s.enter .nonCapturing s.flags d).visits = s.visits ++ [] :=
    State.visits_enter s d .nonCapturing s.flags
  refine ⟨run_nonCapturing hc, rfl, rfl, rfl, (List.append_nil _).symm, hvisits, ?_⟩
  rw [State.Counts, hvisits, List.append_nil]
  exact hs

section Groups

variable {first : List Written} {more : List (List Written)}
  (hread : ∀ branch ∈ first :: more, ∀ w ∈ branch, w.IsRead total V)
  (hproper : ∀ branch ∈ first :: more, ∀ w ∈ branch, w.Proper)

include hread hproper

theorem Entered.read_body {s u : State} {opener : Opener} {groups : List GroupInfo}
    {visits : List Visit} (h : Entered total s u opener groups visits)
    (hc : u.cursor.Reads (itemsText first ++ (branchesText more ++ [')'])) d)
    (hbegins : u.visits ++ (bodyNode s.flags.icase first more).visits u.openGroups <+: V) :
    ∃ t, Passed total s t d (groups ++ bodyGroups u.cursor.offset first more)
        (visits ++ (bodyNode s.flags.icase first more).visits u.openGroups) ∧
      t.branches = s.branches.add (opener.node (bodyNode s.flags.icase first more)) ∧
      t.last = .admitted := by
  obtain ⟨c₁, hfirst, hc⟩ := Cursor.reads_append_iff.1 hc
  obtain ⟨c₂, hmore, hc⟩ := Cursor.reads_append_iff.1 hc
  obtain ⟨e, hclose, he⟩ := Cursor.reads_cons_iff.1 hc
  rw [Cursor.reads_nil_iff] at he
  rw [← h.flags] at hbegins ⊢
  obtain ⟨t, ht, hnode⟩ := run_body hread hproper h.counts h.branches hfirst hmore
    (unsuffixed_of_close hclose) hbegins
  exact h.leave ht hnode (he ▸ hclose)

theorem isRead_capture (hV : InOrder V) (group : Nat) (name : Option GroupName) :
    (capture group name first more).IsRead total V := by
  intro s d hs hc _ hbegins
  obtain ⟨c, hopener, hbody⟩ := Cursor.reads_append_iff.1 hc
  have hpeek : c.peek? ≠ some '?' := by
    obtain ⟨c₁, hfirst, hc⟩ := Cursor.reads_append_iff.1 hbody
    obtain ⟨c₂, hmore, hc⟩ := Cursor.reads_append_iff.1 hc
    obtain ⟨e, hclose, _⟩ := Cursor.reads_cons_iff.1 hc
    have hstart := unsuffixed_items (hproper first List.mem_cons_self) hfirst
      (unsuffixed_branches hmore (unsuffixed_of_close hclose))
    exact fun hx => (hstart '?' hx).1 rfl
  have hvisits : ((capture group name first more).node s.flags.icase).visits s.openGroups =
      [⟨s.openGroups, .capture group (name.map GroupName.name)⟩] ++
        (bodyNode s.flags.icase first more).visits (group :: s.openGroups) := rfl
  rw [hvisits] at hbegins ⊢
  rw [← List.append_assoc] at hbegins
  obtain ⟨rfl, hcount⟩ := hV.eq_of_capture ((List.prefix_append _ _).trans hbegins) hs
  have hentered := entered_capture total hs hopener hpeek hcount
  obtain ⟨t, ht, hbranches, hlast⟩ := hentered.read_body hread hproper hbody (by
    rw [hentered.visits]
    exact hbegins)
  refine ⟨t, ?_, hbranches, hlast⟩
  have hoffset : (s.declare (name.map GroupName.name) c).cursor.offset =
      s.cursor.offset + utf8Length (openerText name) := hopener.offset_eq
  rw [hoffset] at ht
  exact ht

theorem isRead_nonCapturing : (nonCapturing first more).IsRead total V := by
  intro s d hs hc _ hbegins
  have hsplit : (nonCapturing first more).text =
      ['(', '?', ':'] ++ (itemsText first ++ (branchesText more ++ [')'])) := rfl
  rw [hsplit] at hc
  obtain ⟨c, hopener, hbody⟩ := Cursor.reads_append_iff.1 hc
  have hentered := entered_nonCapturing total hs hopener
  obtain ⟨t, ht, hbranches, hlast⟩ := hentered.read_body hread hproper hbody (by
    rw [hentered.visits, List.append_nil]
    exact hbegins)
  refine ⟨t, ?_, hbranches, hlast⟩
  have hoffset : (s.enter .nonCapturing s.flags c).cursor.offset =
      s.cursor.offset + utf8Length ['(', '?', ':'] := hopener.offset_eq
  rw [hoffset] at ht
  exact ht

end Groups

theorem forall_branches {P : Written → Prop} {first : List Written} {more : List (List Written)}
    (hfirst : ∀ w ∈ first, P w) (hmore : ∀ branch ∈ more, ∀ w ∈ branch, P w) :
    ∀ branch ∈ first :: more, ∀ w ∈ branch, P w :=
  List.forall_mem_cons.2 ⟨hfirst, hmore⟩

theorem isRead_of_proper (total : Nat) (hV : InOrder V) {w : Written} (h : w.Proper) :
    w.IsRead total V := by
  induction h with
  | char hex => exact isRead_char hex
  | bracket set => exact isRead_bracket set
  | capture group name hfirst hmore ihfirst ihmore =>
      exact isRead_capture (forall_branches ihfirst ihmore) (forall_branches hfirst hmore) hV
        group name
  | nonCapturing hfirst hmore ihfirst ihmore =>
      exact isRead_nonCapturing (forall_branches ihfirst ihmore) (forall_branches hfirst hmore)
  | backRef group => exact isRead_backRef hV group
  | namedBackRef group name => exact isRead_namedBackRef hV group name
  | loop _ hclear ih => exact isRead_loop ih hclear

end Written

theorem Pattern.read_written {p : WrittenPattern} (h : p.Proper) (flags : Flags)
    (horder : InOrder ((p.root flags.icase).visits [])) :
    Pattern.read p.text flags = .ok ⟨p.root flags.icase, flags, p.groups⟩ := by
  have hproper := Written.forall_branches h.first h.more
  have hread (total : Nat) : ∀ branch ∈ p.first :: p.more, ∀ w ∈ branch,
      w.IsRead total ((p.root flags.icase).visits []) := fun branch hbranch w hw =>
    Written.isRead_of_proper total horder (hproper branch hbranch w hw)
  obtain ⟨e, hfirst, d, hmore, hend⟩ : ∃ e, (Cursor.ofString p.text).Reads
      (Written.itemsText p.first) e ∧ ∃ d, e.Reads (Written.branchesText p.more) d ∧ d.rest = [] := by
    refine ⟨⟨Written.branchesText p.more, _⟩, ⟨?_, rfl⟩, ⟨[], _⟩, ⟨(List.append_nil _).symm, rfl⟩, rfl⟩
    rw [Cursor.ofString, WrittenPattern.text, String.toList_ofList]
  have hnext : d.next? = none := by rw [Cursor.next?, hend]
  have hunsuffixed : d.Unsuffixed := by
    intro x hx
    rw [Cursor.peek?, hend] at hx
    cases hx
  obtain ⟨t, ht, hnode⟩ := Written.run_body (hread (countGroups flags p.text.toList)) hproper
    (s := .start flags p.text) rfl rfl hfirst hmore hunsuffixed (List.prefix_refl _)
  have hgroups : t.groups = p.groups := by
    have hlist : t.groups.groups.toList = p.groups.groups.toList := ht.groups
    exact congrArg GroupTable.mk (Array.toList_inj.1 hlist)
  have hrun : patternRun (countGroups flags p.text.toList) (.start flags p.text) =
      .ok (p.root flags.icase, p.groups) := by
    rw [ht.run, run_end (ht.cursor ▸ hnext) ht.enclosing, hnode, hgroups]
    rfl
  rw [patternRun] at hrun
  simp only [Pattern.read, hrun]

theorem Pattern.read_written_repeated :
    ∃ p : WrittenPattern, p.text = "(\\u{61}*?|[\\u{62}-\\u{64}]){2}+\\k<1>" ∧ p.Proper ∧
      InOrder ((p.root true).visits []) ∧
      Pattern.read p.text ⟨true, false, true⟩ = .ok ⟨p.root true, ⟨true, false, true⟩, p.groups⟩ := by
  have hproper : WrittenPattern.Proper
      ⟨[.loop (.loop
          (.capture 1 none
            [.loop (.char ⟨⟨['6', '1'], by simp, forall_mem_of_all (by decide)⟩, by decide, by decide⟩)
              ⟨.star, .lazy, rfl, by decide, by rintro _ ⟨⟩, forall_mem_of_all (by decide)⟩]
            [[.bracket ⟨[⟨⟨⟨['6', '2'], by simp, forall_mem_of_all (by decide)⟩, by decide, by decide⟩,
              ⟨⟨['6', '4'], by simp, forall_mem_of_all (by decide)⟩, by decide, by decide⟩, by decide⟩],
              by simp, List.pairwise_singleton _ _⟩]])
          ⟨.fixed ⟨['2'], by simp, forall_mem_of_all (by decide)⟩, .greedy, rfl, by decide, by decide,
            forall_mem_of_all (by decide)⟩)
          ⟨.plus, .greedy, rfl, by decide, by rintro _ ⟨⟩, forall_mem_of_all (by decide)⟩,
        .backRef ⟨['1'], by simp, forall_mem_of_all (by decide)⟩], []⟩ := by
    refine ⟨?_, by simp⟩
    simp only [List.forall_mem_cons, List.not_mem_nil, false_imp_iff, implies_true, and_true]
    refine ⟨.loop (.loop (.capture 1 none ?_ ?_) ?_) ?_, .backRef _⟩
    · simpa using .loop (.char _) fun _ _ => rfl
    · simpa using .bracket _
    · exact fun _ _ => rfl
    · rintro mark ⟨⟩
      rfl
  have horder : InOrder [⟨[], .capture 1 none⟩, ⟨[], .backRef 1 none⟩] := by
    refine ⟨by decide, by decide, ?_⟩
    have hrefers : RefersBack [⟨[], .capture 1 none⟩] [] 1 none :=
      ⟨⟨none, by decide⟩, by decide, by simp⟩
    exact (ReferBack.nil.capture [] 1 none).backRef hrefers
  exact ⟨_, by decide, hproper, horder, Pattern.read_written hproper _ horder⟩

end Specimen
