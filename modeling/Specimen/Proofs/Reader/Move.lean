import Specimen.Reader.Read

namespace Specimen.Reader

def State.declare (s : State) (name : Option String) (d : Cursor) : State :=
  { s.enter (.capture (s.groups.count + 1) name) s.flags d with
    groups := s.groups.push ⟨name, s.cursor.offset⟩ }

theorem openCapture_ok {s t : State} {name : Option String} {d : Cursor}
    (h : openCapture s name d = .ok t) : s.groups.count < maxGroups ∧ t = s.declare name d := by
  simp only [openCapture] at h
  split at h
  · simp at h
  · next hn => cases h; exact ⟨Nat.lt_of_not_le hn, rfl⟩

inductive Opening (s : State) (c : Cursor) : State → Prop where
  | capture : c.skip? '?' = none → s.groups.count < maxGroups → Opening s c (s.declare none c)
  | named {d e f : Cursor} {mark closing : Char} {name : String} : c.skip? '?' = some d →
      d.next? = some (mark, e) → (mark = '<' ∧ closing = '>' ∨ mark = '\'' ∧ closing = '\'') →
      readGroupName closing e = .ok (name, f) → s.groups.count < maxGroups →
      Opening s c (s.declare (some name) f)
  | nonCapturing {d e : Cursor} : c.skip? '?' = some d → d.next? = some (':', e) →
      Opening s c (s.enter .nonCapturing s.flags e)
  | toggleScoped {d e : Cursor} {toggle : Toggle} : c.skip? '?' = some d →
      readToggle .none true d.rest d.offset = .ok (toggle, true, e) →
      Opening s c (s.enter (.toggled toggle) (toggle.apply s.flags) e)
  | toggleRest {d e : Cursor} {toggle : Toggle} : c.skip? '?' = some d →
      readToggle .none true d.rest d.offset = .ok (toggle, false, e) →
      Opening s c (s.toggle toggle e)

theorem Opening.of_openNamed {s t : State} {c d e : Cursor} {mark closing : Char}
    (hq : c.skip? '?' = some d) (hd : d.next? = some (mark, e))
    (hm : mark = '<' ∧ closing = '>' ∨ mark = '\'' ∧ closing = '\'')
    (h : openNamed s closing e = .ok t) : Opening s c t := by
  simp only [openNamed] at h
  split at h
  · next hn =>
      obtain ⟨hc, rfl⟩ := openCapture_ok h
      exact .named hq hd hm hn hc
  · simp at h

theorem Opening.of_openToggle {s t : State} {c d : Cursor} (hq : c.skip? '?' = some d)
    (h : openToggle s d = .ok t) : Opening s c t := by
  simp only [openToggle] at h
  split at h
  · next ht => cases h; exact .toggleScoped hq ht
  · next ht => cases h; exact .toggleRest hq ht
  · simp at h

theorem Opening.of_openSpecial {s t : State} {c d : Cursor} (hq : c.skip? '?' = some d)
    (h : openSpecial s d = .ok t) : Opening s c t := by
  simp only [openSpecial] at h
  split at h
  · next hd => cases h; exact .nonCapturing hq hd
  · simp at h
  · simp at h
  · next hd =>
      split at h
      · simp at h
      · exact .of_openNamed hq hd (.inl ⟨rfl, rfl⟩) h
  · next hd => exact .of_openNamed hq hd (.inr ⟨rfl, rfl⟩) h
  · simp at h
  · simp at h
  · simp at h
  · exact .of_openToggle hq h

theorem Opening.of_readGroup {s t : State} {c : Cursor} (h : readGroup s c = .ok t) :
    Opening s c t := by
  simp only [readGroup] at h
  split at h
  · next hq => exact .of_openSpecial hq h
  · next hq =>
      obtain ⟨hc, rfl⟩ := openCapture_ok h
      exact .capture hq hc

def syntaxChars : List Char := [')', '|', '^', '$', '\\', '.', '(', '[', '*', '+', '?']

inductive Move (total : Nat) (s : State) : State → Prop where
  | repeatLast {q : Quantifier} {d : Cursor} : readQuantifier s.cursor = .ok (some (q, d)) →
      s.last = .admitted → Move total s (s.repeatLast q d)
  | leave {group : OpenGroup} {enclosing : List OpenGroup} {d : Cursor} :
      s.cursor.next? = some (')', d) → s.enclosing = group :: enclosing →
      Move total s (s.leave group enclosing d)
  | nextBranch {d : Cursor} : s.cursor.next? = some ('|', d) → Move total s (s.nextBranch d)
  | lineAnchor {x : Char} {kind : Anchor} {d : Cursor} : s.cursor.next? = some (x, d) →
      (x = '^' ∧ kind = .startOfLine ∨ x = '$' ∧ kind = .endOfLine) →
      addAnchor s kind d = .ok (s.add (.anchor kind) .refused d) →
      Move total s (s.add (.anchor kind) .refused d)
  | escapedAnchor {kind : Anchor} {d e : Cursor} : s.cursor.next? = some ('\\', d) →
      readEscape (s.scope total) s.flags.icase d = .ok (.anchor kind, e) →
      addAnchor s kind e = .ok (s.add (.anchor kind) .refused e) →
      Move total s (s.add (.anchor kind) .refused e)
  | escape {node : Node} {d e : Cursor} : s.cursor.next? = some ('\\', d) →
      readEscape (s.scope total) s.flags.icase d = .ok (node, e) → node.isAnchor = false →
      Move total s (s.add node .admitted e)
  | dot {d : Cursor} : s.cursor.next? = some ('.', d) →
      Move total s (s.add (.bracket (.dot s.flags.multiline) false) .admitted d)
  | group {t : State} {d : Cursor} : s.cursor.next? = some ('(', d) → Opening s d t →
      Move total s t
  | bracket {set : CodePointSet} {d e : Cursor} : s.cursor.next? = some ('[', d) →
      readBracket s.flags.icase d = .ok (set, e) →
      Move total s (s.add (.bracket set s.flags.icase) .admitted e)
  | char {x : Char} {d : Cursor} : s.cursor.next? = some (x, d) → x ∉ syntaxChars →
      (x = '{' → ∀ r, readQuantifier s.cursor ≠ .ok (some r)) → Move total s (addChar s x d)

theorem Move.of_addEscape {total : Nat} {s t : State} {d : Cursor}
    (hc : s.cursor.next? = some ('\\', d)) (h : addEscape total s d = .ok t) : Move total s t := by
  simp only [addEscape] at h
  split at h
  · simp at h
  · next he =>
      obtain rfl := addAnchor_ok h
      exact .escapedAnchor hc he h
  · next node e hnode he =>
      cases h
      refine .escape hc he ?_
      cases node with
      | anchor kind => exact absurd rfl (hnode kind)
      | _ => rfl

theorem Move.of_readTerm {total : Nat} {s t : State} {x : Char} {d : Cursor}
    (hc : s.cursor.next? = some (x, d)) (hclose : x ≠ ')') (hbar : x ≠ '|')
    (h : readTerm total s x d = .ok t) : Move total s t := by
  simp only [readTerm] at h
  split at h
  · obtain rfl := addAnchor_ok h
    exact .lineAnchor hc (.inl ⟨rfl, rfl⟩) h
  · obtain rfl := addAnchor_ok h
    exact .lineAnchor hc (.inr ⟨rfl, rfl⟩) h
  · exact .of_addEscape hc h
  · cases h; exact .dot hc
  · exact .group hc (.of_readGroup h)
  · simp only [addBracket] at h
    split at h
    · simp at h
    · next hb => cases h; exact .bracket hc hb
  · simp at h
  · simp at h
  · simp at h
  · simp only [addBrace] at h
    split at h
    · simp at h
    · next hq => cases h; exact .char hc (by decide) fun _ r hr => hq r hr
  · next hx =>
      cases h
      refine .char hc ?_ fun hx => absurd hx (by assumption)
      simp only [syntaxChars, List.mem_cons, List.not_mem_nil, or_false, not_or]
      exact ⟨hclose, hbar, by assumption, by assumption, by assumption, by assumption,
        by assumption, by assumption, by assumption, by assumption, by assumption⟩

theorem Move.of_termStep {total : Nat} {s t : State} (h : termStep total s = .ok (.more t)) :
    Move total s t := by
  simp only [termStep] at h
  split at h
  · simp at h
  · simp at h
  · simp at h
  · next hc he => cases h; exact .leave hc he
  · next hc => cases h; exact .nextBranch hc
  · next x d hbar hc houtside hinside =>
      have hclose : x ≠ ')' := by
        intro hx
        cases he : s.enclosing with
        | nil => exact houtside he hx
        | cons group enclosing => exact hinside group enclosing he hx
      split at h
      · next ht => cases h; exact .of_readTerm hc hclose hbar ht
      · simp at h

theorem Move.of_markedStep {total : Nat} {s t : State} (h : markedStep total s = .ok (.more t)) :
    Move total s t := by
  simp only [markedStep] at h
  split at h
  · exact .of_termStep h
  · next hlast =>
      split at h
      · simp at h
      · exact .of_termStep h
      · next hq =>
          split at h
          · simp at h
          · next hrefused =>
              cases h
              refine .repeatLast hq ?_
              cases hl : s.last with
              | nothing => exact absurd hl hlast
              | refused => exact absurd hl hrefused
              | admitted => rfl

theorem step_more {total : Nat} {s t : State} (h : step total s = .ok (.more t)) :
    ∃ c, skipTrivia s.flags.extended s.cursor = .ok c ∧ c.Passes t.cursor ∧
      Move total { s with cursor := c } t := by
  simp only [step] at h
  split at h
  · simp at h
  · next c hc => exact ⟨c, hc, passes_of_markedStep h, .of_markedStep h⟩

theorem termStep_done {total : Nat} {s : State} {r : Reading}
    (h : termStep total s = .ok (.done r)) :
    s.cursor.rest = [] ∧ s.enclosing = [] ∧ r = (s.branches.node, s.groups) := by
  simp only [termStep] at h
  split at h
  · next hc he =>
      cases h
      refine ⟨?_, he, rfl⟩
      simp only [Cursor.next?] at hc
      split at hc
      · assumption
      · simp at hc
  · simp at h
  · simp at h
  · simp at h
  · simp at h
  · split at h <;> simp at h

theorem step_done {total : Nat} {s : State} {r : Reading} (h : step total s = .ok (.done r)) :
    ∃ c, skipTrivia s.flags.extended s.cursor = .ok c ∧ c.rest = [] ∧ s.enclosing = [] ∧
      r = (s.branches.node, s.groups) := by
  simp only [step] at h
  split at h
  · simp at h
  · next c hc =>
      refine ⟨c, hc, ?_⟩
      simp only [markedStep] at h
      split at h
      · exact termStep_done h
      · split at h
        · simp at h
        · exact termStep_done h
        · split at h <;> simp at h

structure BehindTrivia (extended : Bool) (c : Cursor) : Prop where
  noComment : c.skipAll? ['(', '?', '#'] = none
  noBlank : ∀ x d, c.next? = some (x, d) → extended = true → isBlank x = false ∧ x ≠ '#'

theorem behindTrivia_of_skipTrivia {extended : Bool} {c d : Cursor}
    (h : skipTrivia extended c = .ok d) : BehindTrivia extended d := by
  fun_induction skipTrivia extended c with
  | case1 c b hb e he ih => exact ih h
  | case2 => simp at h
  | case3 c hc x b hb hx ih => exact ih h
  | case4 c hc x b hb hx hsharp ih => exact ih h
  | case5 c hc x b hb hx hsharp =>
      cases h
      refine ⟨hc, fun y e hy hext => ?_⟩
      rw [hb] at hy
      cases hy
      simp only [hext, Bool.true_and, Bool.not_eq_true, beq_eq_false_iff_ne] at hx hsharp
      exact ⟨hx, hsharp⟩
  | case6 c hc hb =>
      cases h
      refine ⟨hc, fun y e hy => ?_⟩
      rw [hb] at hy
      cases hy

theorem BehindTrivia.skipTrivia_eq {extended : Bool} {c : Cursor} (h : BehindTrivia extended c) :
    skipTrivia extended c = .ok c := by
  unfold skipTrivia
  split
  · next hcomment =>
      rw [h.noComment] at hcomment
      cases hcomment
  · split
    · next x d hnext =>
        cases hext : extended with
        | false => rfl
        | true =>
            obtain ⟨hblank, hhash⟩ := h.noBlank x d hnext hext
            simp [hblank, hhash]
    · rfl

theorem step_eq_behind_trivia {total : Nat} {s : State} {c : Cursor}
    (h : skipTrivia s.flags.extended s.cursor = .ok c) :
    step total s = step total { s with cursor := c } := by
  simp only [step, h, (behindTrivia_of_skipTrivia h).skipTrivia_eq]

variable {text : String} {flags : Flags} {p : Pattern}

theorem read_induction {P : State → Prop} (start : P (.start flags text))
    (trivia : ∀ {s c}, P s → skipTrivia s.flags.extended s.cursor = .ok c → P { s with cursor := c })
    (move : ∀ {s t}, P s → (Cursor.ofString text).Reaches s.cursor →
      BehindTrivia s.flags.extended s.cursor → s.cursor.Passes t.cursor →
      Move (countGroups flags text.toList) s t → P t)
    (h : Pattern.read text flags = .ok p) :
    ∃ s, P s ∧ s.cursor.rest = [] ∧ s.enclosing = [] ∧ p = ⟨s.branches.node, flags, s.groups⟩ := by
  simp only [Pattern.read] at h
  split at h
  · next root groups hrun =>
      cases h
      refine run_induction size_lt_of_step
        (P := fun s => P s ∧ (Cursor.ofString text).Reaches s.cursor)
        (Q := fun r => ∃ s, P s ∧ s.cursor.rest = [] ∧ s.enclosing = [] ∧
          (⟨r.1, flags, r.2⟩ : Pattern) = ⟨s.branches.node, flags, s.groups⟩)
        ?_ ?_ ⟨start, .refl _⟩ hrun
      · rintro s t ⟨hs, hreach⟩ hst
        obtain ⟨c, hc, hpass, hmove⟩ := step_more hst
        exact ⟨move (trivia hs hc) (hreach.trans (reaches_of_skipTrivia hc))
          (behindTrivia_of_skipTrivia hc) hpass hmove, hreach.trans (passes_of_step hst).reaches⟩
      · rintro s r ⟨hs, _⟩ hsr
        obtain ⟨c, hc, hrest, he, rfl⟩ := step_done hsr
        exact ⟨{ s with cursor := c }, trivia hs hc, hrest, he, rfl⟩
  · simp at h

theorem exists_ok_of_toOption {ε α β : Type} {x : Except ε α} {f : α → β} {b : β}
    (h : x.toOption.map f = some b) : ∃ a, x = .ok a ∧ f a = b := by
  cases x with
  | error reason => cases h
  | ok a => exact ⟨a, rfl, Option.some.inj h⟩

theorem exists_of_read {β : Type} {f : Pattern → β} {b : β}
    (h : (Pattern.read text flags).toOption.map f = some b) :
    ∃ p, Pattern.read text flags = .ok p ∧ f p = b :=
  exists_ok_of_toOption h

end Specimen.Reader
