import Specimen.Reader.Bracket
import Specimen.Reader.Reference
import Specimen.Proofs.Reader.ControlScan

namespace Specimen.Reader

inductive EscapeText (c d : Cursor) : Prop where
  | plain {x : Char} {e : Cursor} : c.next? = some (x, e) → x ≠ 'c' → x ≠ 'C' → e.Drifts d →
      EscapeText c d
  | control {x : Char} {e : Cursor} : c.next? = some ('c', e) → e.next? = some (x, d) →
      EscapeText c d
  | hyphenControl {x : Char} {e f : Cursor} : c.next? = some ('C', e) → e.skip? '-' = some f →
      f.next? = some (x, d) → EscapeText c d

def InertNames (table : GroupTable) : Prop :=
  ∀ group name, table.name? group = some name → ∀ x ∈ name.toList, isInert x = true

namespace EscapeText

open Cursor.Drifts

variable {c d e : Cursor} {x : Char}

theorem next_of_readControl (h : readControl c = .ok (x, d)) : ∃ y, c.next? = some (y, d) := by
  simp only [readControl] at h
  split at h
  · next y e hc =>
      split at h
      · cases h; exact ⟨y, hc⟩
      · split at h
        · cases h; exact ⟨y, hc⟩
        · simp at h
  · simp at h

theorem drifts_of_readHex (h : readHex c = .ok (x, d)) : c.Drifts d := by
  simp only [readHex] at h
  split at h
  · simp at h
  · cases h; exact spanUpTo (fun _ => isInert_of_isDigit) 2 c

theorem drifts_of_unicodeDigits? {digits : List Char} (h : unicodeDigits? c = some (digits, d)) :
    c.Drifts d := by
  simp only [unicodeDigits?] at h
  split at h
  · next hc =>
      obtain ⟨e, he, heq⟩ := Option.map_eq_some_iff.1 h
      cases heq
      exact ((skip hc rfl).trans (spanUpTo (fun _ => isInert_of_isDigit) 6 _)).trans (skip he rfl)
  · split at h
    · cases h; exact spanUpTo (fun _ => isInert_of_isDigit) 4 c
    · simp at h

theorem drifts_of_readUnicode (h : readUnicode c = .ok (x, d)) : c.Drifts d := by
  simp only [readUnicode] at h
  split at h
  · next hc =>
      split at h
      · cases h; exact drifts_of_unicodeDigits? hc
      · simp at h
  · simp at h

theorem drifts_readOctal (first : Char) (c : Cursor) : c.Drifts (readOctal first c).2 :=
  spanUpTo (fun _ => isInert_of_isDigit) 2 c

theorem of_readCharEscape (h : readCharEscape c = .ok (x, d)) : EscapeText c d := by
  simp only [readCharEscape] at h
  split at h
  · simp at h
  · next hc =>
      obtain ⟨y, hy⟩ := next_of_readControl h
      exact .control hc hy
  · next hc =>
      split at h
      · next he =>
          obtain ⟨y, hy⟩ := next_of_readControl h
          exact .hyphenControl hc he hy
      · simp at h
  · simp at h
  · next hc => exact .plain hc (by decide) (by decide) (drifts_of_readHex h)
  · next hc => exact .plain hc (by decide) (by decide) (drifts_of_readUnicode h)
  · next y e hlower hupper _ _ _ hc =>
      split at h
      · cases h; exact .plain hc hlower hupper (refl _)
      · split at h
        · cases h; exact .plain hc hlower hupper (drifts_readOctal y e)
        · cases h; exact .plain hc hlower hupper (refl _)

theorem ne_control_of_holds {p : Char → Bool} (h : p x = true) (hlower : p 'c' = false)
    (hupper : p 'C' = false) : x ≠ 'c' ∧ x ≠ 'C' := by
  constructor
  · rintro rfl
    exact absurd (hlower.symm.trans h) Bool.false_ne_true
  · rintro rfl
    exact absurd (hupper.symm.trans h) Bool.false_ne_true

theorem ne_control_of_eq_some {α : Type} {f : Char → Option α} {a : α} (h : f x = some a)
    (hlower : f 'c' = none) (hupper : f 'C' = none) : x ≠ 'c' ∧ x ≠ 'C' := by
  refine ne_control_of_holds (p := fun c => (f c).isSome) ?_ ?_ ?_
  · rw [h]
    rfl
  · rw [hlower]
    rfl
  · rw [hupper]
    rfl

theorem of_readClassEscape {item : ClassItem} (h : readClassEscape c = .ok (item, d)) :
    EscapeText c d := by
  simp only [readClassEscape] at h
  split at h
  · simp at h
  · next y e hc =>
      split at h
      · next hset =>
          cases h
          obtain ⟨hlower, hupper⟩ := ne_control_of_eq_some hset rfl rfl
          exact .plain hc hlower hupper (refl _)
      · split at h
        · next hp =>
            split at h
            · next hset =>
                cases h
                have hne := ne_control_of_holds (p := fun y => y = 'p' || y = 'P') hp rfl rfl
                exact .plain hc hne.1 hne.2 (drifts_of_readProperty hset)
            · simp at h
        · split at h
          · next hb =>
              subst hb
              cases h
              exact .plain hc (by decide) (by decide) (refl _)
          · split at h
            · next hy => cases h; exact of_readCharEscape hy
            · simp at h

theorem of_readLiteralEscape {icase : Bool} {node : Node}
    (h : readLiteralEscape icase c = .ok (node, d)) : EscapeText c d := by
  simp only [readLiteralEscape] at h
  split at h
  · next hx => cases h; exact of_readCharEscape hx
  · simp at h

theorem drifts_of_readSetEscape {negated : Bool} {node : Node}
    (h : readSetEscape negated c = .ok (node, d)) : c.Drifts d := by
  simp only [readSetEscape] at h
  split at h
  · next hset => cases h; exact drifts_of_readProperty hset
  · simp at h

variable {scope : Scope}

theorem inert_of_namedReference {chars : List Char} {node : Node} (hnames : InertNames scope.groups)
    (h : namedReference scope chars = .ok node) : ∀ y ∈ chars, isInert y = true := by
  simp only [namedReference] at h
  split at h
  · next hdigits =>
      simp only [Bool.and_eq_true, List.all_eq_true] at hdigits
      exact fun y hy => isInert_of_isDigit (hdigits.2 y hy)
  · split at h
    · simp at h
    · next group hfind =>
        have := hnames group _ (GroupTable.name?_of_lastNamed? hfind)
        rwa [String.toList_ofList] at this

theorem drifts_of_readNamed {closing : Char} {node : Node} (hnames : InertNames scope.groups)
    (hclosing : isInert closing = true) (h : readNamed scope closing c = .ok (node, d)) :
    c.Drifts d := by
  simp only [readNamed] at h
  split at h
  · simp at h
  · next he =>
      split at h
      · next hn =>
          cases h
          exact (span (inert_of_namedReference hnames hn)).trans (skip he hclosing)
      · simp at h

theorem of_readNameEscape {icase : Bool} {node : Node} (hnames : InertNames scope.groups)
    (hc : c.next? = some ('k', d)) (h : readNameEscape scope icase c d = .ok (node, e)) :
    EscapeText c e := by
  simp only [readNameEscape] at h
  split at h
  · next hd =>
      exact .plain hc (by decide) (by decide)
        ((next hd rfl).trans (drifts_of_readNamed hnames rfl h))
  · next hd =>
      exact .plain hc (by decide) (by decide)
        ((next hd rfl).trans (drifts_of_readNamed hnames rfl h))
  · exact of_readLiteralEscape h

theorem drifts_span_next {p : Char → Bool} (hp : ∀ y, p y = true → isInert y = true)
    (hc : c.next? = some (x, d)) (hx : p x = true) : d.Drifts (c.span p).2 := by
  have hread := Cursor.reads_of_next? hc
  have hspan : (c.span p).2 = (d.span p).2 := by
    simp only [Cursor.span, hread.rest_eq, hread.offset_eq, List.singleton_append,
      List.takeWhile_cons_of_pos hx, List.dropWhile_cons_of_pos hx, utf8Length, List.foldr_cons,
      List.foldr_nil, Nat.add_zero, Nat.add_assoc]
  rw [hspan]
  exact span fun y hy => hp y (holds_of_mem_span hy)

theorem of_readDigitEscape {icase : Bool} {node : Node} (hc : c.next? = some (x, d))
    (hx : Text.isDigit 10 x = true) (h : readDigitEscape scope icase c = .ok (node, e)) :
    EscapeText c e := by
  simp only [readDigitEscape] at h
  split at h
  · next hn =>
      cases h
      simp only [readNumbered] at hn
      split at hn
      · simp at hn
      · split at hn
        · simp at hn
        · split at hn
          · cases hn
            obtain ⟨hlower, hupper⟩ := ne_control_of_holds hx rfl rfl
            exact .plain hc hlower hupper (drifts_span_next (fun _ => isInert_of_isDigit) hc hx)
          · simp at hn
  · exact of_readLiteralEscape h
  · simp at h

theorem of_readEscape {icase : Bool} {node : Node} (hnames : InertNames scope.groups)
    (h : readEscape scope icase c = .ok (node, d)) : EscapeText c d := by
  simp only [readEscape] at h
  split at h
  · simp at h
  · next x e hc =>
      split at h
      · next hset =>
          cases h
          obtain ⟨hlower, hupper⟩ := ne_control_of_eq_some hset rfl rfl
          exact .plain hc hlower hupper (refl _)
      · next hletter =>
          cases h
          obtain ⟨hlower, hupper⟩ := ne_control_of_eq_some hletter rfl rfl
          exact .plain hc hlower hupper (refl _)
      · simp at h
      · split at h
        · next hp =>
            have hne := ne_control_of_holds (p := fun x => x = 'p' || x = 'P') hp rfl rfl
            exact .plain hc hne.1 hne.2 (drifts_of_readSetEscape h)
        · split at h
          · next hk =>
              subst hk
              exact of_readNameEscape hnames hc h
          · split at h
            · next hx =>
                simp only [Bool.and_eq_true, decide_eq_true_eq] at hx
                exact of_readDigitEscape hc (isDigit_of_le hx.1 hx.2) h
            · exact of_readLiteralEscape h

end EscapeText

namespace ControlScan

theorem countFrom_escape {g : GroupScan} {c d : Cursor} (h : EscapeText c d) :
    (of g .escaped).countFrom c = (of g .plain).countFrom d := by
  cases h with
  | @plain x e hc hlower hupper hdrift =>
      have hstep : (of g .escaped).step x = of g .plain := by
        simp [step, of, after, hlower, hupper, GroupScan.step]
      rw [countFrom_next hc, hstep, countFrom_drifts hdrift]
  | control hc he =>
      rw [countFrom_next hc, countFrom_next he]
      rfl
  | @hyphenControl x e f hc he hf =>
      have hhyphen : (step (of g .escaped) 'C').step '-' =
          ⟨{ g with mode := .plain }, .operand⟩ := by
        have hinert := GroupScan.step_inert (g := { g with mode := .plain }) (c := '-') rfl rfl
        simp only [step, of, after, GroupScan.step] at hinert ⊢
        simp [hinert]
      rw [countFrom_next hc, countFrom_skip he, countFrom_next hf, hhyphen]
      rfl

end ControlScan

end Specimen.Reader
