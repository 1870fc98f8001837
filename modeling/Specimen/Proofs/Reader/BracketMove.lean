import Specimen.Reader.Bracket

namespace Specimen.Reader

inductive BracketMove (icase : Bool) (s : BracketState) :
    Progress BracketState (CodePointSet × Cursor) → Prop where
  | finish {d : Cursor} : s.cursor.next? = some (']', d) → s.innermost.fresh = false →
      s.outer = [] → BracketMove icase s (.done (s.innermost.close icase, d))
  | leave {parent : OpenBracket} {outer : List OpenBracket} {d : Cursor} :
      s.cursor.next? = some (']', d) → s.innermost.fresh = false → s.outer = parent :: outer →
      BracketMove icase s (.more ⟨parent.add (.set (s.innermost.close icase)), outer, d⟩)
  | nextOperand {d : Cursor} : s.cursor.skipAll? ['&', '&'] = some d →
      BracketMove icase s (.more ⟨s.innermost.nextOperand, s.outer, d⟩)
  | posix {set : CodePointSet} {d : Cursor} : readPosixClass s.cursor = .ok (some (set, d)) →
      BracketMove icase s (.more ⟨s.innermost.add (.set set), s.outer, d⟩)
  | nest {d : Cursor} : s.cursor.skip? '[' = some d →
      BracketMove icase s (.more (openBracket (s.innermost :: s.outer) d))
  | item {item : ClassItem} {d : Cursor} : s.cursor.skip? '[' = none →
      (∀ e, s.cursor.next? = some (']', e) → s.innermost.fresh = true) →
      readClassItem s.cursor = .ok (item, d) →
      BracketMove icase s (.more ⟨s.innermost.add item, s.outer, d⟩)

theorem BracketMove.of_readMember {icase : Bool} {s : BracketState}
    {r : Progress BracketState (CodePointSet × Cursor)}
    (hfresh : ∀ e, s.cursor.next? = some (']', e) → s.innermost.fresh = true)
    (h : readMember s = .ok r) : BracketMove icase s r := by
  simp only [readMember] at h
  split at h
  · next hd => cases h; exact .nextOperand hd
  · split at h
    · next hd =>
        simp only [readNested] at h
        split at h
        · simp at h
        · next hp => cases h; exact .posix hp
        · cases h; exact .nest hd
    · next hd =>
        split at h
        · next hi => cases h; exact .item hd hfresh hi
        · simp at h

theorem BracketMove.of_bracketStep {icase : Bool} {s : BracketState}
    {r : Progress BracketState (CodePointSet × Cursor)} (h : bracketStep icase s = .ok r) :
    BracketMove icase s r := by
  simp only [bracketStep] at h
  split at h
  · simp at h
  · next x d hc =>
      split at h
      · next hx =>
          simp only [Bool.and_eq_true, decide_eq_true_eq, Bool.not_eq_true'] at hx
          obtain ⟨rfl, hfresh⟩ := hx
          cases h
          simp only [closeBracket]
          split
          · next ho => exact .finish hc hfresh ho
          · next ho => exact .leave hc hfresh ho
      · next hx =>
          refine .of_readMember (fun e he => ?_) h
          rw [hc] at he
          cases he
          simpa using hx

variable {icase : Bool} {c d : Cursor} {set : CodePointSet}

theorem bracketSteps_induction {s : BracketState} {P : BracketState → Prop}
    {Q : CodePointSet → Cursor → Prop} (start : P s)
    (move : ∀ {s t}, P s → BracketMove icase s (.more t) → P t)
    (finish : ∀ {s set d}, P s → BracketMove icase s (.done (set, d)) → Q set d)
    (h : run (bracketStep icase) BracketState.size size_lt_of_bracketStep s = .ok (set, d)) :
    Q set d :=
  run_induction size_lt_of_bracketStep (Q := fun r => Q r.1 r.2)
    (fun hs hst => move hs (.of_bracketStep hst))
    (fun hs hsr => finish hs (.of_bracketStep hsr)) start h

theorem readBracket_induction {P : BracketState → Prop} {Q : CodePointSet → Cursor → Prop}
    (start : P (openBracket [] c))
    (move : ∀ {s t}, P s → BracketMove icase s (.more t) → P t)
    (finish : ∀ {s set d}, P s → BracketMove icase s (.done (set, d)) → Q set d)
    (h : readBracket icase c = .ok (set, d)) : Q set d :=
  bracketSteps_induction start move finish h

end Specimen.Reader
