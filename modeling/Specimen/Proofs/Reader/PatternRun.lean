import Specimen.Proofs.Pattern.Written
import Specimen.Proofs.Reader.Inert
import Specimen.Proofs.Reader.Reads
import Specimen.Proofs.Reader.Numbering

namespace Specimen

open Reader

structure InOrder (visits : List Visit) : Prop where
  count : (captures visits).length ≤ maxGroups
  numbers : (captures visits).map Prod.fst = List.range' 1 (captures visits).length
  refer : ReferBack visits

namespace GroupTable

variable {table : GroupTable}

theorem length_numbered : table.numbered.length = table.count := by
  rw [numbered, List.length_map, List.length_range']

theorem lastNamed?_eq_some {name : String} {group n : Nat} (hlow : 1 ≤ group) (hhigh : group ≤ n)
    (hname : table.name? group = some name)
    (hlast : ∀ later, group < later → later ≤ n → table.name? later ≠ some name) :
    table.lastNamed? name n = some group := by
  induction n with
  | zero => omega
  | succ n ih =>
      rw [lastNamed?]
      by_cases heq : group = n + 1
      · rw [← heq, if_pos hname]
      · rw [if_neg (hlast (n + 1) (by omega) (Nat.le_refl _))]
        exact ih (by omega) fun later hlater hle => hlast later hlater (by omega)

end GroupTable

namespace InOrder

variable {visits before : List Visit} {inside : List Nat} {group : Nat} {name : Option String}
  {table : GroupTable}

theorem count_le (h : InOrder visits) (hbegins : before <+: visits)
    (hcounts : captures before = table.numbered) : table.count ≤ maxGroups := by
  have hlength := (hbegins.filterMap Visit.capture?).length_le
  rw [← GroupTable.length_numbered, ← hcounts]
  exact Nat.le_trans hlength h.count

theorem eq_of_capture (h : InOrder visits)
    (hbegins : before ++ [⟨inside, .capture group name⟩] <+: visits)
    (hcounts : captures before = table.numbered) :
    group = table.count + 1 ∧ table.count < maxGroups := by
  obtain ⟨rest, hrest⟩ := hbegins
  have hsplit : captures visits = captures before ++ (group, name) :: captures rest := by
    rw [← hrest, captures_append, captures_append, List.append_assoc]
    rfl
  have hlength : (captures before).length = table.count := by
    rw [hcounts, GroupTable.length_numbered]
  have hnumbers := congrArg (fun numbers => numbers[table.count]?) h.numbers
  have hcount := h.count
  simp only [hsplit, List.map_append, List.map_cons, List.length_append, List.length_cons, hlength]
    at hnumbers hcount
  refine ⟨?_, by omega⟩
  rw [List.getElem?_append_right (by simp [hlength]), List.getElem?_range' (by omega)] at hnumbers
  simp [hlength] at hnumbers
  omega

end InOrder

theorem exists_reverse_eq {α : Type} (first second : α) (rest : List α) :
    ∃ a b others, (first :: second :: rest).reverse = a :: b :: others := by
  match hlist : (first :: second :: rest).reverse with
  | [] => simp at hlist
  | [_] => simpa using congrArg List.length hlist
  | a :: b :: others => exact ⟨a, b, others, rfl⟩

namespace Node

theorem ofItems_reverse (items : List Node) : ofItems items.reverse = sequence items := by
  match items with
  | [] => rfl
  | [_] => rfl
  | first :: second :: rest =>
      obtain ⟨a, b, others, hreverse⟩ := exists_reverse_eq first second rest
      have hcat : ofItems (a :: b :: others) = cat (a :: b :: others).reverse := rfl
      rw [hreverse, hcat, ← hreverse, List.reverse_reverse]
      rfl

theorem ofBranches_reverse (first : Node) (more : List Node) :
    ofBranches (first :: more).reverse = alternation (first :: more) := by
  cases more with
  | nil => rfl
  | cons second rest =>
      obtain ⟨a, b, others, hreverse⟩ := exists_reverse_eq first second rest
      have halt : ofBranches (a :: b :: others) = alt (a :: b :: others).reverse := rfl
      rw [hreverse, halt, ← hreverse, List.reverse_reverse]
      rfl

theorem visits_sequence (inside : List Nat) (items : List Node) :
    (sequence items).visits inside = visitsOf inside items := by
  rw [← ofItems_reverse, visits_ofItems, List.reverse_reverse]

theorem visits_alternation (inside : List Nat) (first : Node) (more : List Node) :
    (alternation (first :: more)).visits inside = visitsOf inside (first :: more) := by
  rw [← ofBranches_reverse, visits_ofBranches, List.reverse_reverse]

end Node

namespace Reader

def patternRun (total : Nat) (s : State) : Except SyntaxError Reading :=
  run (step total) State.size size_lt_of_step s

def State.Counts (s : State) : Prop := captures s.visits = s.groups.numbered

/-- Reading goes on from `t`, which is where `d` is and knows `groups` and `visits` beyond those of `s`. -/
structure Passed (total : Nat) (s t : State) (d : Cursor) (groups : List GroupInfo)
    (visits : List Visit) : Prop where
  run : patternRun total s = patternRun total t
  cursor : t.cursor = d
  flags : t.flags = s.flags
  groups : t.groups.groups.toList = s.groups.groups.toList ++ groups
  enclosing : t.enclosing = s.enclosing
  visits : t.visits = s.visits ++ visits
  counts : t.Counts

theorem Passed.silent {total : Nat} {s t : State} {d : Cursor} (hs : s.Counts)
    (hrun : patternRun total s = patternRun total t) (hcursor : t.cursor = d)
    (hflags : t.flags = s.flags) (hgroups : t.groups = s.groups)
    (henclosing : t.enclosing = s.enclosing) (hvisits : t.visits = s.visits) :
    Passed total s t d [] [] where
  run := hrun
  cursor := hcursor
  flags := hflags
  groups := by rw [hgroups, List.append_nil]
  enclosing := henclosing
  visits := by rw [hvisits, List.append_nil]
  counts := by rw [State.Counts, hvisits, hgroups]; exact hs

theorem Passed.refl {total : Nat} {s : State} (h : s.Counts) : Passed total s s s.cursor [] [] :=
  .silent h rfl rfl rfl rfl rfl rfl

theorem Passed.trans {total : Nat} {s t u : State} {d e : Cursor} {groups more : List GroupInfo}
    {visits others : List Visit} (h : Passed total s t d groups visits)
    (k : Passed total t u e more others) : Passed total s u e (groups ++ more) (visits ++ others) where
  run := h.run.trans k.run
  cursor := k.cursor
  flags := k.flags.trans h.flags
  groups := by rw [k.groups, h.groups, List.append_assoc]
  enclosing := k.enclosing.trans h.enclosing
  visits := by rw [k.visits, h.visits, List.append_assoc]
  counts := k.counts

theorem Passed.trans_silent {total : Nat} {s t u : State} {d e : Cursor} {groups : List GroupInfo}
    {visits : List Visit} (h : Passed total s t d groups visits) (k : Passed total t u e [] []) :
    Passed total s u e groups visits := by
  simpa using h.trans k

theorem Passed.openGroups {total : Nat} {s t : State} {d : Cursor} {groups : List GroupInfo}
    {visits : List Visit} (h : Passed total s t d groups visits) : t.openGroups = s.openGroups := by
  rw [State.openGroups, h.enclosing]
  rfl

section Steps

variable {total : Nat} {s t : State} {c d : Cursor} {x : Char}

def repeatMarks : List Char := ['*', '+', '?', '{']

theorem readQuantifier_eq_none (h : ∀ x, c.peek? = some x → x ∉ repeatMarks) :
    readQuantifier c = .ok none := by
  unfold readQuantifier
  split
  · next hnext => exact absurd (by decide) (h _ (Cursor.peek?_of_next? hnext))
  · next hnext => exact absurd (by decide) (h _ (Cursor.peek?_of_next? hnext))
  · next hnext => exact absurd (by decide) (h _ (Cursor.peek?_of_next? hnext))
  · next hnext => exact absurd (by decide) (h _ (Cursor.peek?_of_next? hnext))
  · rfl

theorem skipTrivia_eq_self {extended : Bool} (hcomment : c.skipAll? ['(', '?', '#'] = none)
    (h : ∀ x, c.peek? = some x → isBlank x = false ∧ x ≠ '#') : skipTrivia extended c = .ok c := by
  unfold skipTrivia
  split
  · next hskip =>
      rw [hcomment] at hskip
      cases hskip
  · split
    · next x d hnext =>
        obtain ⟨hblank, hhash⟩ := h x (Cursor.peek?_of_next? hnext)
        simp [hblank, hhash]
    · rfl

theorem step_eq_markedStep (hcomment : s.cursor.skipAll? ['(', '?', '#'] = none)
    (h : ∀ x, s.cursor.peek? = some x → isBlank x = false ∧ x ≠ '#') :
    step total s = markedStep total s := by
  rw [step, skipTrivia_eq_self hcomment h]

theorem step_eq_termStep (hcomment : s.cursor.skipAll? ['(', '?', '#'] = none)
    (h : ∀ x, s.cursor.peek? = some x → isBlank x = false ∧ x ≠ '#' ∧ x ∉ repeatMarks) :
    step total s = termStep total s := by
  have hnone : readQuantifier s.cursor = .ok none := readQuantifier_eq_none fun x hx => (h x hx).2.2
  rw [step_eq_markedStep hcomment fun x hx => ⟨(h x hx).1, (h x hx).2.1⟩, markedStep, hnone]
  simp only [ite_self]

def itemMarks : List Char := ['\\', '[', '(', '|', ')']

theorem step_of_mark (hx : s.cursor.next? = some (x, d)) (hmark : x ∈ itemMarks)
    (hcomment : x = '(' → d.skipAll? ['?', '#'] = none) : step total s = termStep total s := by
  have hpeek := Cursor.peek?_of_next? hx
  refine step_eq_termStep ?_ fun y hy => ?_
  · by_cases hparen : x = '('
    · rw [hparen] at hx
      simp only [Cursor.skipAll?, Cursor.skip?_of_next? hx]
      exact hcomment hparen
    · refine Cursor.skipAll?_eq_none ?_
      rw [hpeek]
      simpa using hparen
  · have hclear : ∀ mark ∈ itemMarks, isBlank mark = false ∧ mark ≠ '#' ∧ mark ∉ repeatMarks :=
      forall_mem_of_all (by decide)
    rw [hpeek] at hy
    cases hy
    exact hclear x hmark

theorem run_term (hx : s.cursor.next? = some (x, d)) (hmark : x ∈ ['\\', '[', '('])
    (hcomment : x = '(' → d.skipAll? ['?', '#'] = none) (h : readTerm total s x d = .ok t) :
    patternRun total s = patternRun total t := by
  refine run_of_more size_lt_of_step ?_
  have hsubset : ['\\', '[', '('] ⊆ itemMarks := by decide
  rw [step_of_mark hx (hsubset hmark) hcomment]
  simp only [List.mem_cons, List.not_mem_nil, or_false] at hmark
  rcases hmark with rfl | rfl | rfl
  all_goals
    cases henclosing : s.enclosing
    all_goals simp [termStep, hx, henclosing, h]

theorem run_bar (hx : s.cursor.next? = some ('|', d)) :
    patternRun total s = patternRun total (s.nextBranch d) := by
  refine run_of_more size_lt_of_step ?_
  rw [step_of_mark hx (by decide) nofun]
  cases henclosing : s.enclosing
  all_goals simp only [termStep, hx, henclosing]

theorem run_close {group : OpenGroup} {enclosing : List OpenGroup}
    (hx : s.cursor.next? = some (')', d)) (henclosing : s.enclosing = group :: enclosing) :
    patternRun total s = patternRun total (s.leave group enclosing d) := by
  refine run_of_more size_lt_of_step ?_
  rw [step_of_mark hx (by decide) nofun]
  simp only [termStep, hx, henclosing]

theorem run_end (hx : s.cursor.next? = none) (henclosing : s.enclosing = []) :
    patternRun total s = .ok (s.branches.node, s.groups) := by
  refine run_of_done size_lt_of_step ?_
  have hpeek : ∀ x, s.cursor.peek? ≠ some x := by
    intro x h
    obtain ⟨d, hd⟩ := Cursor.next?_of_peek? h
    rw [hx] at hd
    cases hd
  rw [step_eq_termStep (Cursor.skipAll?_eq_none (hpeek _)) fun x h => absurd h (hpeek x)]
  simp only [termStep, hx, henclosing]

theorem run_quantifier {q : Quantifier} (hx : s.cursor.peek? = some x) (hmark : x ∈ repeatMarks)
    (hq : readQuantifier s.cursor = .ok (some (q, d))) (hlast : s.last = .admitted) :
    patternRun total s = patternRun total (s.repeatLast q d) := by
  refine run_of_more size_lt_of_step ?_
  have hclear : ∀ mark ∈ repeatMarks, mark ≠ '(' ∧ isBlank mark = false ∧ mark ≠ '#' :=
    forall_mem_of_all (by decide)
  obtain ⟨hparen, hblank⟩ := hclear x hmark
  rw [step_eq_markedStep (Cursor.skipAll?_eq_none (by rw [hx]; simpa using hparen)) fun y hy => by
    rw [hx] at hy
    cases hy
    exact hblank]
  simp [markedStep, hlast, hq]

end Steps

end Reader

theorem Pattern.read_eq (text : String) (flags : Flags) : Pattern.read text flags =
    (patternRun (countGroups flags text.toList) (.start flags text)).map
      fun r => ⟨r.1, flags, r.2⟩ := by
  rw [Pattern.read, patternRun]
  split <;> simp_all [Except.map]

end Specimen
