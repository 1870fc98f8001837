import Specimen.Proofs.Reader.BracketMove
import Specimen.Proofs.Reader.EscapeText
import Specimen.Proofs.Reader.Reads

namespace Specimen.Reader

theorem readClassItem_ok {c f : Cursor} {item : ClassItem} (h : readClassItem c = .ok (item, f)) :
    ∃ head d, readClassAtom c = .ok (head, d) ∧ (d = f ∨ ∃ e last, d.skip? '-' = some e ∧
      e.peek? ≠ some ']' ∧ e.peek? ≠ some '[' ∧ readClassAtom e = .ok (last, f)) := by
  simp only [readClassItem] at h
  split at h
  · simp at h
  · next head d hhead =>
      split at h
      · cases h
        exact ⟨_, _, hhead, .inl rfl⟩
      · next e hmark =>
          split at h
          · simp at h
          · next hopen =>
              split at h
              · simp at h
              · next last g hlast =>
                  split at h
                  · cases h
                    simp only [rangeMark?] at hmark
                    split at hmark
                    · next hskip =>
                        split at hmark
                        · simp at hmark
                        · next hclose =>
                            cases hmark
                            exact ⟨head, d, hhead, .inr ⟨e, last, hskip, hclose, hopen, hlast⟩⟩
                    · simp at hmark
                  · simp at h

theorem ne_of_skip?_none {c d : Cursor} {x mark : Char} (h : c.skip? mark = none)
    (hc : c.next? = some (x, d)) : x ≠ mark := by
  rintro rfl
  simp [Cursor.skip?, hc] at h

namespace ControlScan

variable {g : GroupScan} {c d : Cursor}

theorem countFrom_posixClass {set : CodePointSet} (h : readPosixClass c = .ok (some (set, d))) :
    (of g .plain).countFrom c = (of g .plain).countFrom d := by
  simp only [readPosixClass] at h
  split at h
  · simp at h
  · next e hopen =>
      split at h
      · simp at h
      · next f hclose =>
          split at h
          · simp at h
          · cases h
            split at hclose
            · simp at hclose
            · have hinside : e.Drifts ((e.skipOptional '^').2.span Char.isAlpha).2 :=
                (Cursor.Drifts.optional '^' rfl e).trans
                  (Cursor.Drifts.span fun _ hx => isInert_of_isAlpha (Cursor.Drifts.holds_of_mem_span hx))
              have hstart : ['[', ':'].foldl step (of g .plain) =
                  of { g with bracketDepth := g.bracketDepth + 1 } .plain := by
                simp [step, of, after, GroupScan.step, GroupScan.plainStep]
              have hstop : [':', ']'].foldl step
                  (of { g with bracketDepth := g.bracketDepth + 1 } .plain) = of g .plain := by
                simp [step, of, after, GroupScan.step, GroupScan.plainStep]
              rw [countFrom_reads (Cursor.reads_of_skipAll? hopen), hstart, countFrom_drifts hinside,
                countFrom_reads (Cursor.reads_of_skipAll? hclose), hstop]

theorem countFrom_bracketStart (h : ∀ d, c.next? ≠ some (']', d)) :
    (of g (.bracketStart false)).countFrom c = (of g .plain).countFrom c := by
  refine countFrom_congr rfl fun x d hc => ?_
  have hx : x ≠ ']' := by
    rintro rfl
    exact h d hc
  simp [step, of, after, GroupScan.step, hx, GroupScan.plainStep]

theorem countFrom_openBracket (outer : List OpenBracket) (c : Cursor) :
    (of g (.bracketStart true)).countFrom c =
      (of g (.bracketStart false)).countFrom (openBracket outer c).cursor := by
  have hcaret : (of g (.bracketStart true)).step '^' = of g (.bracketStart false) := rfl
  simp only [openBracket, Cursor.skipOptional]
  split
  · next hc => rw [countFrom_skip hc, hcaret]
  · next hc =>
      refine countFrom_congr rfl fun x d hnext => ?_
      have hx : x ≠ '^' := ne_of_skip?_none hc hnext
      simp [step, of, after, GroupScan.step, GroupScan.plainStep, hx]

theorem countFrom_classAtom {item : ClassItem} (hdepth : 0 < g.bracketDepth)
    (h : readClassAtom c = .ok (item, d)) (hopen : c.peek? ≠ some '[') (hclose : c.peek? ≠ some ']') :
    (of g .plain).countFrom c = (of g .plain).countFrom d := by
  simp only [readClassAtom] at h
  split at h
  · simp at h
  · next x e hc =>
      rw [Cursor.peek?_of_next? hc] at hopen hclose
      rw [countFrom_next hc]
      split at h
      · next hx =>
          subst hx
          have hstep : (of g .plain).step '\\' = of g .escaped := rfl
          rw [hstep, countFrom_escape (EscapeText.of_readClassEscape h)]
      · next hx =>
          cases h
          have hstep : GroupScan.step { g with mode := .plain } x = { g with mode := .plain } := by
            refine GroupScan.step_inside rfl hdepth ?_
            simp only [List.mem_cons, List.not_mem_nil, or_false, not_or]
            exact ⟨hx, fun heq => hopen (heq ▸ rfl), fun heq => hclose (heq ▸ rfl)⟩
          have hmode : ScanMode.plain ≠ .escaped := by decide
          rw [step_of hmode, hstep]
          rfl

def ofBracket (g : GroupScan) (s : BracketState) : ControlScan :=
  of { g with bracketDepth := s.outer.length + 1 }
    (if s.innermost.fresh then .bracketStart false else .plain)

variable {s : BracketState}

theorem countFrom_ofBracket (h : ∀ d, c.next? ≠ some (']', d)) : (ofBracket g s).countFrom c =
    (of { g with bracketDepth := s.outer.length + 1 } .plain).countFrom c := by
  rw [ofBracket]
  split
  · exact countFrom_bracketStart h
  · rfl

theorem countFrom_firstAtom {item : ClassItem} (h : readClassAtom s.cursor = .ok (item, d))
    (hopen : s.cursor.skip? '[' = none)
    (hfresh : ∀ e, s.cursor.next? = some (']', e) → s.innermost.fresh = true) :
    (ofBracket g s).countFrom s.cursor =
      (of { g with bracketDepth := s.outer.length + 1 } .plain).countFrom d := by
  have hnext : ∃ x e, s.cursor.next? = some (x, e) := by
    simp only [readClassAtom] at h
    split at h
    · simp at h
    · next x e hc => exact ⟨x, e, hc⟩
  obtain ⟨x, e, hc⟩ := hnext
  by_cases hx : x = ']'
  · subst hx
    have hd : d = e := by
      simp only [readClassAtom, hc] at h
      cases h
      rfl
    rw [ofBracket, if_pos (hfresh e hc), countFrom_next hc, hd]
    rfl
  · have hclose : ∀ f, s.cursor.next? ≠ some (']', f) := by
      intro f hf
      rw [hc] at hf
      cases hf
      exact hx rfl
    have hpeek := Cursor.peek?_of_next? hc
    have hx' := ne_of_skip?_none hopen hc
    rw [countFrom_ofBracket hclose, countFrom_classAtom (Nat.succ_pos _) h]
    · rw [hpeek]
      simpa using hx'
    · rw [hpeek]
      simpa using hx

theorem countFrom_bracketMove {icase : Bool} {t : BracketState}
    (h : BracketMove icase s (.more t)) :
    (ofBracket g s).countFrom s.cursor = (ofBracket g t).countFrom t.cursor := by
  cases h with
  | leave hc hfresh houter =>
      rw [countFrom_next hc]
      simp [ofBracket, hfresh, houter, OpenBracket.add, step, of, after, GroupScan.step,
        GroupScan.plainStep]
  | nextOperand hamp =>
      have hclose : ∀ f, s.cursor.next? ≠ some (']', f) := by
        intro f hf
        simp [Cursor.skipAll?, Cursor.skip?, hf] at hamp
      rw [countFrom_ofBracket hclose, countFrom_reads (Cursor.reads_of_skipAll? hamp), foldl_inert]
      · rfl
      · exact List.all_eq_true.1 (by decide)
  | posix hp =>
      have hclose : ∀ f, s.cursor.next? ≠ some (']', f) := by
        intro f hf
        simp [readPosixClass, Cursor.skipAll?, Cursor.skip?, hf] at hp
      rw [countFrom_ofBracket hclose, countFrom_posixClass hp]
      rfl
  | @nest d hd =>
      have hclose : ∀ f, s.cursor.next? ≠ some (']', f) := by
        intro f hf
        simp [Cursor.skip?, hf] at hd
      have hstep : (of { g with bracketDepth := s.outer.length + 1 } .plain).step '[' =
          of { g with bracketDepth := s.outer.length + 1 + 1 } (.bracketStart true) := rfl
      rw [countFrom_ofBracket hclose, countFrom_skip hd, hstep, countFrom_openBracket]
      rfl
  | item hopen hfresh hi =>
      obtain ⟨head, d, hhead, rfl | ⟨e, last, hmark, hclose, hnest, hlast⟩⟩ := readClassItem_ok hi
      · rw [countFrom_firstAtom hhead hopen hfresh]
        rfl
      · have hdrift : d.Drifts e := Cursor.Drifts.skip hmark rfl
        rw [countFrom_firstAtom hhead hopen hfresh, countFrom_drifts hdrift,
          countFrom_classAtom (Nat.succ_pos _) hlast hnest hclose]
        rfl

theorem countFrom_readBracket {icase : Bool} {set : CodePointSet} (hdepth : g.bracketDepth = 0)
    (h : readBracket icase c = .ok (set, d)) :
    (of { g with bracketDepth := 1 } (.bracketStart true)).countFrom c =
      (of g .plain).countFrom d := by
  refine readBracket_induction
    (Q := fun _ d => (of { g with bracketDepth := 1 } (.bracketStart true)).countFrom c =
      (of g .plain).countFrom d)
    (P := fun s => (of { g with bracketDepth := 1 } (.bracketStart true)).countFrom c =
      (ofBracket g s).countFrom s.cursor) ?_ ?_ ?_ h
  · exact countFrom_openBracket [] c
  · intro s t hs hmove
    exact hs.trans (countFrom_bracketMove hmove)
  · intro s set d hs hmove
    cases hmove with
    | finish hc hfresh houter =>
        have hstep : (of { g with bracketDepth := 1 } .plain).step ']' = of g .plain := by
          simp [step, of, after, GroupScan.step, GroupScan.plainStep, hdepth]
        rw [hs, ofBracket, houter, if_neg (by simp [hfresh]), countFrom_next hc]
        exact congrArg (fun scan => scan.countFrom d) hstep

end ControlScan

end Specimen.Reader
