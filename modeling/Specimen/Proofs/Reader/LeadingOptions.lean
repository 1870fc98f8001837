import Specimen.Proofs.Reader.OptionSyntax
/-!
Options in front of a pattern, as in `(?mi)a.b`, do what options given beside it do: the two readings are in
step from the end of the options on.
-/

namespace Specimen

open Reader

def Flags.leading (flags : Flags) : List Char := '(' :: '?' :: (flags.letters ++ [')'])

/-- The second is the first with a toggle ahead of the items of the first branch. -/
def Node.Preceded (toggle : Toggle) (node other : Node) : Prop :=
  ∃ items branches, (∀ item ∈ items, item.IsItem) ∧
    node = .alternation (.sequence items :: branches) ∧
    other = .alternation (.sequence (.toggleRest toggle :: items) :: branches)

namespace Reader

def Likeness.exact : Likeness where
  flags := Eq
  marks := Eq
  sets := Eq
  extended_eq h := h ▸ rfl
  apply _ h := h ▸ rfl
  icase h := h ▸ rfl
  unmarked := rfl
  same _ := rfl
  dot h := h ▸ rfl
  bracket := by
    intro f g c a b h ha hb
    rw [h, hb] at ha
    cases ha
    rfl

theorem preceded_of_inStep {toggle : Toggle} {b c : Branches} (h : b.InStep .exact [toggle] c) :
    b.node.Preceded toggle c.node := by
  obtain ⟨items, others, branches, rest, hitems, hbranches, hb, hc⟩ := h.node_eq
  obtain ⟨hitem, halike⟩ := (List.forall₂_and_left items others).1 hitems
  obtain rfl : items = others := Node.eq_of_forall₂ halike fun _ _ _ => Node.eq_of_alike
  obtain rfl : branches = rest := Node.eq_of_forall₂ hbranches fun _ _ _ => Node.eq_of_alike
  exact ⟨items, branches, hitem, hb, hc⟩

section Leading

variable {flags : Flags} {text : String} {total : Nat}

theorem scan_leading (flags : Flags) :
    flags.leading.foldl GroupScan.step (.start false) = .start flags.extended := by
  obtain ⟨i, m, x⟩ := flags
  cases i <;> cases m <;> cases x <;> rfl

theorem countGroups_leading (chars : List Char) :
    countGroups .none (flags.leading ++ chars) = countGroups flags chars := by
  have hnone : Flags.none.extended = false := rfl
  rw [countGroups, countGroups, List.foldl_append, hnone, scan_leading]

def State.behind (flags : Flags) (text : String) : State where
  cursor := (Cursor.ofString text).shift (utf8Length flags.leading)
  flags := flags
  groups := ∅
  branches := ⟨[], [.toggleRest ⟨flags, .none⟩]⟩
  enclosing := []
  last := .refused

theorem readTerm_leading (flags : Flags) (text whole : String) :
    readTerm total (.start .none whole) '('
      ⟨'?' :: (flags.letters ++ [')'] ++ text.toList), '('.utf8Size⟩ = .ok (.behind flags text) := by
  obtain ⟨i, m, x⟩ := flags
  cases i <;> cases m <;> cases x <;> rfl

-- There are eight ways to write the options, and in each of them what follows the options is not looked at.
theorem run_leading {whole : String} (h : whole.toList = flags.leading ++ text.toList) :
    patternRun total (.start .none whole) = patternRun total (.behind flags text) := by
  refine run_term ?_ (by decide) ?_ (readTerm_leading flags text whole)
  · rw [State.start, Cursor.ofString, h]
    rfl
  · obtain ⟨i, m, x⟩ := flags
    cases i <;> cases m <;> cases x <;> exact fun _ => rfl

theorem behind_inStep (flags : Flags) (text : String) :
    (State.start flags text).InStep .exact [⟨flags, .none⟩] (utf8Length flags.leading)
      { State.behind flags text with last := .nothing } :=
  ⟨rfl, rfl, GroupTable.shift_empty.symm, .outermost (.first .nil), rfl, nofun⟩

theorem termStep_last (s : State) (last : Repeatable) :
    termStep total { s with last := last } = termStep total s :=
  rfl

theorem readQuantifier_cases {c : Cursor} (h : c.peek? ≠ some '{') : readQuantifier c = .ok none ∨
    ∃ q d x e, readQuantifier c = .ok (some (q, d)) ∧ c.next? = some (x, e) ∧
      x ∈ ['*', '+', '?'] := by
  simp only [readQuantifier]
  split
  · next hc => exact .inr ⟨_, _, _, _, rfl, hc, by decide⟩
  · next hc => exact .inr ⟨_, _, _, _, rfl, hc, by decide⟩
  · next hc => exact .inr ⟨_, _, _, _, rfl, hc, by decide⟩
  · next hc => exact absurd (Cursor.peek?_of_next? hc) h
  · exact .inl rfl

theorem termStep_of_repeat {s : State} {x : Char} {d : Cursor} (hx : s.cursor.next? = some (x, d))
    (hmark : x ∈ ['*', '+', '?']) : termStep total s = .error .nothingToRepeat := by
  rw [termStep_eq, hx]
  simp only [List.mem_cons, List.not_mem_nil, or_false] at hmark
  rcases hmark with rfl | rfl | rfl <;> rfl

/-- The first steps where nothing was read here and a toggle there. A quantifier makes both fail, though not
for the same reason. -/
theorem step_behind_cases {k : Likeness} {front : List Toggle} {n : Nat} {s t : State} (total : Nat)
    (h : s.InStep k front n { t with last := .nothing }) (hrefused : t.last = .refused)
    (hbrace : ∀ c, skipTrivia s.flags.extended s.cursor = .ok c → c.peek? ≠ some '{') :
    StepsAgree k front n (step total s) (step total t) ∨
      (∃ reason, step total s = .error reason) ∧ ∃ reason, step total t = .error reason := by
  have hcursor : t.cursor = s.cursor.shift n := h.cursor_eq
  have hextended : t.flags.extended = s.flags.extended := h.extended_eq
  have hnothing : s.last = .nothing := h.last_eq.symm
  simp only [step, hcursor, hextended, skipTrivia_shift]
  cases hc : skipTrivia s.flags.extended s.cursor with
  | error reason => exact .inl (.error reason)
  | ok c =>
      have hs : markedStep total { s with cursor := c } = termStep total { s with cursor := c } :=
        if_pos hnothing
      simp only [Except.map, hs]
      obtain hnone | ⟨q, d, x, e, hq, hx, hmark⟩ := readQuantifier_cases (hbrace c hc)
      · -- no quantifier: what was read last does not matter, and the states are in step
        have ht : markedStep total { t with cursor := c.shift n } =
            termStep total { t with cursor := c.shift n } := by
          simp only [markedStep, readQuantifier_shift, hnone]
          exact ite_self _
        rw [ht, ← termStep_last { t with cursor := c.shift n } .nothing]
        exact .inl (termStep_agree (h.move c))
      · refine .inr ⟨⟨_, termStep_of_repeat hx hmark⟩, .misplacedQuantifier, ?_⟩
        simp only [markedStep, hrefused, readQuantifier_shift, hq]
        rfl

theorem patternRun_behind (h : ∀ c, skipTrivia flags.extended (.ofString text) = .ok c →
    c.peek? ≠ some '{') :
    Agree (ResultsInStep .exact [⟨flags, .none⟩] (utf8Length flags.leading))
        (patternRun total (.start flags text)) (patternRun total (.behind flags text)) ∨
      (∃ reason, patternRun total (.start flags text) = .error reason) ∧
        ∃ reason, patternRun total (.behind flags text) = .error reason := by
  obtain hagree | ⟨⟨reason, hstart⟩, cause, hbehind⟩ :=
    step_behind_cases total (behind_inStep flags text) rfl h
  · exact .inl (run_agree_of_step hagree fun _ hnext => patternRun_agree hnext)
  · refine .inr ⟨⟨reason, ?_⟩, cause, ?_⟩
    · rw [patternRun, run_eq, hstart]
    · rw [patternRun, run_eq, hbehind]

end Leading

end Reader

theorem Flags.toList_leading (flags : Flags) (text : String) :
    ("(?" ++ flags.text ++ ")" ++ text).toList = flags.leading ++ text.toList := by
  simp [leading, Flags.text]

theorem Flags.utf8Length_leading (flags : Flags) :
    ("(?" ++ flags.text ++ ")").utf8ByteSize = utf8Length flags.leading := by
  obtain ⟨i, m, x⟩ := flags
  cases i <;> cases m <;> cases x <;> decide

theorem Pattern.read_leading {flags : Flags} {text whole : String}
    (h : whole.toList = flags.leading ++ text.toList) : Pattern.read whole .none =
      (patternRun (countGroups flags text.toList) (.behind flags text)).map
        fun r => ⟨r.1, .none, r.2⟩ := by
  rw [read_eq, h, countGroups_leading, run_leading h]

theorem Pattern.read_behind_options (flags : Flags) (text : String)
    (h : ∀ c, skipTrivia flags.extended (.ofString text) = .ok c → c.peek? ≠ some '{') :
    ((∃ q, Pattern.read ("(?" ++ flags.text ++ ")" ++ text) .none = .ok q) ↔
        ∃ p, Pattern.read text flags = .ok p) ∧
      ∀ p q, Pattern.read text flags = .ok p →
        Pattern.read ("(?" ++ flags.text ++ ")" ++ text) .none = .ok q →
        p.root.Preceded ⟨flags, .none⟩ q.root ∧
          q.groups = p.groups.shift ("(?" ++ flags.text ++ ")").utf8ByteSize := by
  rw [read_leading (flags.toList_leading text), read_eq, flags.utf8Length_leading]
  obtain hagree | ⟨⟨reason, hstart⟩, cause, hbehind⟩ := patternRun_behind h
  · refine (hagree.map _ _ fun r q hrq => ?_).ok_iff
    obtain ⟨b, c, hbranches, hr, hq⟩ := hrq.nodes
    refine ⟨?_, hrq.groups_eq⟩
    simp only [hr, hq]
    exact preceded_of_inStep hbranches
  · rw [hstart, hbehind]
    exact ok_iff_of_error rfl rfl

theorem Pattern.read_behind_options_extended : ∃ p q,
    Pattern.read " #\x7b\n(?#\x7b)(a)\x7b2\x7d|(?-i)(b)" ⟨true, false, true⟩ = .ok p ∧
    Pattern.read "(?ix) #\x7b\n(?#\x7b)(a)\x7b2\x7d|(?-i)(b)" .none = .ok q ∧
    p.root.Preceded ⟨⟨true, false, true⟩, .none⟩ q.root ∧ q.groups = p.groups.shift 5 := by
  have hopens : (skipTrivia true (.ofString " #\x7b\n(?#\x7b)(a)\x7b2\x7d|(?-i)(b)")).toOption.map
      Cursor.peek? = some (some '(') := by
    decide +kernel
  have hcount : (Pattern.read " #\x7b\n(?#\x7b)(a)\x7b2\x7d|(?-i)(b)" ⟨true, false, true⟩).toOption.map
      Pattern.groupCount = some 2 := by
    decide +kernel
  obtain ⟨p, hp, -⟩ := exists_of_read hcount
  obtain ⟨haccept, hsame⟩ := Pattern.read_behind_options ⟨true, false, true⟩
    " #\x7b\n(?#\x7b)(a)\x7b2\x7d|(?-i)(b)" fun c hc => by
      rw [hc] at hopens
      rw [Option.some.inj hopens]
      decide
  obtain ⟨q, hq⟩ := haccept.2 ⟨p, hp⟩
  exact ⟨p, q, hp, hq, hsame p q hp hq⟩

end Specimen
