import Specimen.Proofs.Pattern.Alike
import Specimen.Proofs.Reader.Shift
import Specimen.Proofs.Reader.OptionScope
/-!
Reading under other options. Case changes neither what text a set or an escape takes nor how it fails; a
`Likeness` says how the nodes that are read may then differ.
-/

namespace Specimen.Reader

section Brackets

structure BracketState.SameText (s t : BracketState) : Prop where
  cursor_eq : t.cursor = s.cursor
  fresh_eq : t.innermost.fresh = s.innermost.fresh
  length_eq : t.outer.length = s.outer.length

variable {icase other : Bool} {s t : BracketState} {c d : Cursor}

abbrev BracketState.StepAgree :
    Except SyntaxError (Progress BracketState (CodePointSet × Cursor)) →
      Except SyntaxError (Progress BracketState (CodePointSet × Cursor)) → Prop :=
  Agree (Progress.Related SameText fun r q => q.2 = r.2)

theorem closeBracket_related (h : s.SameText t) :
    Progress.Related BracketState.SameText (fun r q => q.2 = r.2) (closeBracket icase s d)
      (closeBracket other t d) := by
  have hlength := h.length_eq
  simp only [closeBracket]
  cases hs : s.outer with
  | nil =>
      rw [hs] at hlength
      rw [List.length_eq_zero_iff.1 hlength]
      exact .done rfl
  | cons parent outer =>
      rw [hs] at hlength
      obtain ⟨holder, others, ht⟩ := List.exists_cons_of_length_eq_add_one hlength
      rw [ht] at hlength ⊢
      exact .more ⟨rfl, rfl, Nat.succ.inj hlength⟩

theorem readNested_agree (h : s.SameText t) :
    BracketState.StepAgree (readNested s d) (readNested t d) := by
  simp only [readNested, h.cursor_eq]
  cases readPosixClass s.cursor with
  | error reason => exact .error reason
  | ok r =>
      cases r with
      | none => exact .ok (.more ⟨rfl, rfl, congrArg Nat.succ h.length_eq⟩)
      | some r => exact .ok (.more ⟨rfl, rfl, h.length_eq⟩)

theorem readMember_agree (h : s.SameText t) :
    BracketState.StepAgree (readMember s) (readMember t) := by
  simp only [readMember, h.cursor_eq]
  cases s.cursor.skipAll? ['&', '&'] with
  | some d => exact .ok (.more ⟨rfl, rfl, h.length_eq⟩)
  | none =>
      cases s.cursor.skip? '[' with
      | some d => exact readNested_agree h
      | none =>
          cases readClassItem s.cursor with
          | error reason => exact .error reason
          | ok r => exact .ok (.more ⟨rfl, rfl, h.length_eq⟩)

theorem bracketStep_agree (h : s.SameText t) :
    BracketState.StepAgree (bracketStep icase s) (bracketStep other t) := by
  simp only [bracketStep, h.cursor_eq, h.fresh_eq]
  cases s.cursor.next? with
  | none => exact .error _
  | some r =>
      simp only
      split
      · exact .ok (closeBracket_related h)
      · exact readMember_agree h

theorem readBracket_agree (icase other : Bool) (c : Cursor) :
    Agree (fun r q => q.2 = r.2) (readBracket icase c) (readBracket other c) :=
  run_agree bracketStep_agree ⟨rfl, rfl, rfl⟩

end Brackets

section Escapes

variable {scope : Scope} {icase other : Bool} {c d : Cursor}

def Remarked (icase other : Bool) (r q : Node × Cursor) : Prop :=
  q = r ∨ ∃ x, r.1 = .char x icase ∧ q = (.char x other, r.2)

theorem readLiteralEscape_agree :
    Agree (Remarked icase other) (readLiteralEscape icase c) (readLiteralEscape other c) := by
  simp only [readLiteralEscape]
  cases readCharEscape c with
  | error reason => exact .error reason
  | ok r => exact .ok (.inr ⟨r.1, rfl, rfl⟩)

theorem readNameEscape_agree :
    Agree (Remarked icase other) (readNameEscape scope icase c d)
      (readNameEscape scope other c d) := by
  simp only [readNameEscape]
  split
  · exact .refl (fun _ => .inl rfl) _
  · exact .refl (fun _ => .inl rfl) _
  · exact readLiteralEscape_agree

theorem readDigitEscape_agree :
    Agree (Remarked icase other) (readDigitEscape scope icase c) (readDigitEscape scope other c) := by
  simp only [readDigitEscape]
  split
  · exact .ok (.inl rfl)
  · exact readLiteralEscape_agree
  · exact .error _

theorem readEscape_agree :
    Agree (Remarked icase other) (readEscape scope icase c) (readEscape scope other c) := by
  simp only [readEscape]
  split
  · exact .error _
  · split
    · exact .ok (.inl rfl)
    · exact .ok (.inl rfl)
    · exact .error _
    · split
      · exact .refl (fun _ => .inl rfl) _
      · split
        · exact readNameEscape_agree
        · split
          · exact readDigitEscape_agree
          · exact readLiteralEscape_agree

end Escapes

structure Likeness where
  flags : Flags → Flags → Prop
  marks : Bool → Bool → Prop
  sets : CodePointSet → CodePointSet → Prop
  extended_eq : ∀ {f g}, flags f g → g.extended = f.extended
  apply : ∀ {f g} (toggle : Toggle), flags f g → flags (toggle.apply f) (toggle.apply g)
  icase : ∀ {f g}, flags f g → marks f.icase g.icase
  unmarked : marks false false
  same : ∀ set, sets set set
  dot : ∀ {f g}, flags f g → sets (.dot f.multiline) (.dot g.multiline)
  bracket : ∀ {f g c a b}, flags f g → readBracket f.icase c = .ok a →
    readBracket g.icase c = .ok b → sets a.1 b.1

namespace Likeness

variable (k : Likeness)

abbrev Alike : Node → Node → Prop := Node.Alike k.marks k.sets

variable {k} {scope : Scope} {icase other : Bool} {n : Nat} {c d : Cursor} {node : Node}

theorem alike_of_escaped (h : Escaped scope node)
    (hchar : ∀ x mark, node = .char x mark → k.marks mark mark) : k.Alike node node := by
  cases h with
  | empty => exact .empty
  | anchor kind => exact .anchor kind
  | lineBreak =>
      refine .alt (.cons (.cat ?_) (.cons (.bracket (k.same _) k.unmarked) .nil))
      exact .cons (.char _ k.unmarked) (.cons (.char _ k.unmarked) .nil)
  | char x mark => exact .char x (hchar x mark rfl)
  | bracket _ => exact .bracket (k.same _) k.unmarked
  | numbered _ => exact .backRef _ _
  | named _ _ => exact .backRef _ _

theorem readEscape_alike (scope : Scope) (n : Nat) (c : Cursor) (hmarks : k.marks icase other) :
    Agree (fun r q => q.2 = r.2.shift n ∧ k.Alike r.1 q.1) (readEscape scope icase c)
      (readEscape (scope.shift n) other (c.shift n)) := by
  rw [readEscape_shift]
  refine Agree.map_right (readEscape_agree.mono fun r q hr hq hrq => ?_)
  rcases hrq with rfl | ⟨x, hx, rfl⟩
  · refine ⟨rfl, alike_of_escaped (Escaped.of_readEscape hr) fun x mark hnode => ?_⟩
    obtain ⟨node, d⟩ := q
    cases hnode
    obtain rfl := icase_of_readEscape hr
    obtain rfl := icase_of_readEscape hq
    exact hmarks
  · rw [hx]
    exact ⟨rfl, .char x hmarks⟩

end Likeness

end Specimen.Reader
