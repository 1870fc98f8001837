import Specimen.Proofs.Checked.Text
import Specimen.Proofs.Reader.Annotate
import Specimen.Proofs.Reader.SwappedRun
import Specimen.Proofs.Sample.SpelledText

namespace Specimen

open Reader

namespace WrittenRepeat

inductive Refused (r : WrittenRepeat) : SyntaxError → Prop where
  | least : maxRepeat < r.min → Refused r .repeatTooLarge
  | most {most : Nat} : r.max = some most → maxRepeat < most → Refused r .repeatTooLarge
  | reversed {most : Nat} : r.max = some most → most < r.min → Refused r .repeatReversed

theorem refused_of_bounds {r : WrittenRepeat} {reason : SyntaxError}
    (h : r.bounds = .error reason) : r.Refused reason := by
  have hmem {most : Nat} (hmost : (r.max.filter (· < endlessRepeat)) = some most) :
      r.max = some most := (Option.filter_eq_some_iff.1 hmost).1
  simp only [bounds, WrittenInterval.bounds, Option.getD_some] at h
  split at h
  · next hlarge =>
      cases h
      rw [Bool.or_eq_true, decide_eq_true_eq, Option.any_eq_true] at hlarge
      obtain hleast | ⟨most, hmost, hover⟩ := hlarge
      · exact .least hleast
      · exact .most (hmem hmost) (of_decide_eq_true hover)
  · split at h
    · next hreversed =>
        cases h
        rw [Option.any_eq_true] at hreversed
        obtain ⟨most, hmost, hover⟩ := hreversed
        exact .reversed (hmem hmost) (of_decide_eq_true hover)
    · cases h

end WrittenRepeat

namespace Reader

structure TakesSuffix (form : RepeatForm) (c : Cursor) (greediness : Greediness) (d : Cursor) :
    Prop where
  reads : c.Reads (suffixText greediness) d
  admitted : ∀ mark ∈ suffixText greediness, takesSuffix form mark = true
  complete : greediness = .greedy → ∀ x, d.peek? = some x → takesSuffix form x = false

theorem takesSuffix_suffix (form : RepeatForm) (c : Cursor) :
    TakesSuffix form c (suffix form c).1 (suffix form c).2 := by
  have taken {greediness : Greediness} {mark : Char} {d : Cursor} (hmark : c.next? = some (mark, d))
      (htext : suffixText greediness = [mark]) (htakes : takesSuffix form mark = true)
      (hne : greediness ≠ .greedy) : TakesSuffix form c greediness d := by
    refine ⟨htext ▸ Cursor.reads_of_next? hmark, fun x hx => ?_, fun h => absurd h hne⟩
    rw [htext, List.mem_singleton] at hx
    rw [hx, htakes]
  by_cases htakes : ∃ x d, c.next? = some (x, d) ∧ takesSuffix form x = true
  · obtain ⟨x, d, hx, hadmits⟩ := htakes
    simp only [takesSuffix] at hadmits
    split at hadmits
    · simp only [suffix, hx]
      exact taken hx rfl rfl (by decide)
    · simp only [suffix, hx]
      exact taken hx rfl rfl (by decide)
    · simp only [suffix, hx]
      exact taken hx rfl rfl (by decide)
    · cases hadmits
  · have hgreedy : ∀ x, c.peek? = some x → takesSuffix form x = false := by
      intro x hx
      obtain ⟨d, hd⟩ := Cursor.next?_of_peek? hx
      exact Bool.eq_false_iff.2 fun h => htakes ⟨x, d, hd, h⟩
    rw [suffix_eq_greedy hgreedy]
    refine ⟨.refl c, fun mark hmark => ?_, fun _ => hgreedy⟩
    cases hmark

section Recognised

variable {c d : Cursor} {q : Quantifier}

theorem readQuantifier_eq_none_iff : readQuantifier c = .ok none ↔
    ¬ ∃ (r : WrittenRepeat) (d : Cursor), r.isBounded = true ∧ c.Reads r.text d := by
  constructor
  · rintro hnone ⟨r, d, hbounded, hreads⟩
    rw [readQuantifier_of_spelling hbounded hreads] at hnone
    cases hbounds : r.bounds with
    | error reason => rw [hbounds] at hnone; cases hnone
    | ok bounds => rw [hbounds] at hnone; cases hnone
  · intro hnone
    refine Decidable.of_not_not fun hne => hnone ?_
    obtain ⟨r, hbounded, d, hreads⟩ := exists_spelling_of_readQuantifier_ne hne
    exact ⟨r, d, hbounded, hreads⟩

theorem refused_of_readQuantifier {reason : SyntaxError} (h : readQuantifier c = .error reason) :
    ∃ (r : WrittenRepeat) (d : Cursor), r.isBounded = true ∧ c.Reads r.text d ∧
      r.Refused reason := by
  have hne : readQuantifier c ≠ .ok none := by
    rw [h]
    exact fun h => by cases h
  obtain ⟨r, hbounded, d, hreads⟩ := exists_spelling_of_readQuantifier_ne hne
  refine ⟨r, d, hbounded, hreads, WrittenRepeat.refused_of_bounds ?_⟩
  rw [readQuantifier_of_spelling hbounded hreads] at h
  cases hbounds : r.bounds with
  | error cause => rw [hbounds] at h; cases h; rfl
  | ok bounds => rw [hbounds] at h; cases h

theorem spelled_of_readQuantifier (h : readQuantifier c = .ok (some (q, d))) :
    ∃ (r : WrittenRepeat) (e : Cursor), r.isBounded = true ∧ r.bounds = .ok (q.min, q.max) ∧
      c.Reads r.text e ∧ TakesSuffix r.form e q.greediness d := by
  obtain ⟨r, hbounded, hbounds, e, hreads, hsuffix⟩ := exists_spelling_of_readQuantifier h
  have htakes := takesSuffix_suffix r.form e
  rw [hsuffix] at htakes
  exact ⟨r, e, hbounded, hbounds, hreads, htakes⟩

end Recognised

section Brace

variable {text : String} {flags : Flags} {s : State} {c d : Cursor} {p : Pattern} {total : Nat}

structure AtBrace (text : String) (flags : Flags) (s : State) (c d : Cursor) : Prop where
  reached : Reached text flags s
  trivia : skipTrivia s.flags.extended s.cursor = .ok c
  brace : c.next? = some ('{', d)
  due : s.last = .nothing ∨ readQuantifier c = .ok none

namespace AtBrace

theorem markedStep_eq (h : AtBrace text flags s c d) :
    markedStep total { s with cursor := c } = termStep total { s with cursor := c } := by
  simp only [markedStep]
  rcases h.due with hlast | hnone
  · rw [if_pos hlast]
  · rw [hnone, ite_self]

theorem step_eq (h : AtBrace text flags s c d) :
    step total s = (addBrace { s with cursor := c } d).map .more := by
  rw [step, h.trivia]
  simp only [h.markedStep_eq, termStep_eq, h.brace]
  rfl

theorem step_of_read (h : AtBrace text flags s c d) (hread : Pattern.read text flags = .ok p) :
    (∀ r, readQuantifier c ≠ .ok (some r)) ∧
      step (countGroups flags text.toList) s =
        .ok (.more (addChar { s with cursor := c } '{' d)) := by
  have hstep : step (countGroups flags text.toList) s = _ := h.step_eq
  simp only [addBrace] at hstep
  split at hstep
  · rw [h.reached.read_error hstep] at hread
    cases hread
  · next hne => exact ⟨hne, hstep⟩

theorem exists_swapped (h : AtBrace text flags s c d) (hread : Pattern.read text flags = .ok p)
    (x : Char) : ∃ root,
      patternRun (countGroups flags text.toList) (addChar { s with cursor := c } x d) =
        .ok (root, p.groups) ∧
      Node.Swapped (.char '{' s.flags.icase) (.char x s.flags.icase) p.root root := by
  obtain ⟨-, hstep⟩ := h.step_of_read hread
  rw [(h.reached.next hstep).read_eq] at hread
  have hswapped : (addChar { s with cursor := c } '{' d).Swapped (.char '{' s.flags.icase)
      (.char x s.flags.icase) (addChar { s with cursor := c } x d) := .of_add _ .admitted d
  have hrun := patternRun_swapped (by rfl) (countGroups flags text.toList) hswapped
  obtain ⟨a, b, ha, hb, hgroups, hnodes⟩ | ⟨reason, herror, -⟩ := hrun.elim
  · rw [ha] at hread
    cases hread
    refine ⟨b.1, ?_, hnodes⟩
    rw [hb]
    exact congrArg Except.ok (Prod.ext rfl hgroups)
  · rw [herror] at hread
    cases hread

end AtBrace

end Brace

end Reader

theorem Pattern.quantifier_recognised (text : String) (flags : Flags) :
    (∀ c, readQuantifier c = .ok none ↔
      ¬ ∃ (r : WrittenRepeat) (d : Cursor), r.isBounded = true ∧ c.Reads r.text d) ∧
    (∀ c, readQuantifier c = .ok none → Checked.readQuantifier c = .ok (none, c)) ∧
    (∀ total s, readQuantifier s.cursor = .ok none → markedStep total s = termStep total s) ∧
    (∀ c reason, readQuantifier c = .error reason →
      ∃ (r : WrittenRepeat) (d : Cursor), r.isBounded = true ∧ c.Reads r.text d ∧
        r.Refused reason) ∧
    (∀ c q d, readQuantifier c = .ok (some (q, d)) →
      ∃ (r : WrittenRepeat) (e : Cursor), r.isBounded = true ∧ r.bounds = .ok (q.min, q.max) ∧
        c.Reads r.text e ∧ TakesSuffix r.form e q.greediness d) ∧
    ∀ p s c d, Pattern.read text flags = .ok p → AtBrace text flags s c d →
      let total := countGroups flags text.toList
      (∀ r, readQuantifier c ≠ .ok (some r)) ∧
      step total s = .ok (.more (addChar { s with cursor := c } '{' d)) ∧
      ∀ x, ∃ root,
        patternRun total (addChar { s with cursor := c } x d) = .ok (root, p.groups) ∧
        Node.Swapped (.char '{' s.flags.icase) (.char x s.flags.icase) p.root root ∧
        ∀ e, e.next? = some (x, d) → x ∉ '{' :: syntaxChars →
          (s.flags.extended = true → isBlank x = false ∧ x ≠ '#') →
          patternRun total { s with cursor := e } = .ok (root, p.groups) := by
  refine ⟨fun c => readQuantifier_eq_none_iff, fun c hnone => ?_, fun total s hnone => ?_,
    fun c reason => refused_of_readQuantifier, fun c q d => spelled_of_readQuantifier,
    fun p s c d hread h => ?_⟩
  · rw [Checked.readQuantifier_eq, hnone]
    rfl
  · rw [markedStep, hnone, ite_self]
  · obtain ⟨hne, hstep⟩ := h.step_of_read hread
    refine ⟨hne, hstep, fun x => ?_⟩
    obtain ⟨root, hrun, hswapped⟩ := h.exists_swapped hread x
    refine ⟨root, hrun, hswapped, fun e he hmark hblank => ?_⟩
    have hchar : patternRun (countGroups flags text.toList) { s with cursor := e } =
        patternRun (countGroups flags text.toList) (addChar { s with cursor := c } x d) :=
      run_char he hmark hblank
    exact hchar.trans hrun

theorem Pattern.quantifier_recognised_brace : ∃ p s c d,
    Pattern.read "x\x7b1" .none = .ok p ∧ AtBrace "x\x7b1" .none s c d ∧
      ∃ root, patternRun (countGroups .none "x\x7b1".toList)
          { s with cursor := ⟨'y' :: d.rest, c.offset⟩ } = .ok (root, p.groups) ∧
        Node.Swapped (.char '{' false) (.char 'y' false) p.root root := by
  let text := "x\x7b1"
  let c : Cursor := ⟨['{', '1'], 1⟩
  let s : State := addChar (.start .none text) 'x' c
  have hfirst : Reached text .none s := .of_first_char (by decide) (by decide) nofun
  have hspelled : skipTrivia false c = .ok c :=
    skipTrivia_eq_self rfl fun x hx => by cases hx; decide
  have h : AtBrace text .none s c ⟨['1'], 2⟩ := ⟨hfirst, hspelled, rfl, .inr rfl⟩
  have heval : (Pattern.read text .none).toOption.map Pattern.groupCount = some 0 := by
    decide +kernel
  obtain ⟨p, hp, _⟩ := exists_of_read heval
  obtain ⟨_, _, _, _, _, hbrace⟩ := Pattern.quantifier_recognised text .none
  obtain ⟨_, _, hany⟩ := hbrace p s c _ hp h
  obtain ⟨root, _, hswapped, hrun⟩ := hany 'y'
  refine ⟨p, s, c, _, hp, h, root, ?_, hswapped⟩
  exact hrun ⟨['y', '1'], 1⟩ rfl (by decide) fun hextended => absurd hextended Bool.false_ne_true

end Specimen
