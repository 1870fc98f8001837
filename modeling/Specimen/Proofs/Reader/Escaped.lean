import Specimen.Reader.Reference
import Specimen.Proofs.CodePointSet.WellFormed

namespace Specimen.Reader

open CodePointSet

theorem Scope.check_ok {scope : Scope} {group : Nat} {u : Unit} (h : scope.check group = .ok u) :
    (scope.groups.get? group).isSome = true ∧ group ∉ scope.openGroups := by
  simp only [Scope.check] at h
  split at h
  · simp at h
  · next hdefined =>
      split at h
      · simp at h
      · next hclosed =>
          simp only [Option.isNone_iff_eq_none] at hdefined
          exact ⟨Option.isSome_iff_ne_none.2 hdefined, by simpa using hclosed⟩

theorem readProperty_wellFormed {negated : Bool} {c d : Cursor} {set : CodePointSet}
    (h : readProperty negated c = .ok (set, d)) : set.WellFormed := by
  simp only [readProperty] at h
  split at h
  · simp at h
  · split at h
    · simp at h
    · split at h
      · simp at h
      · next property _ =>
          cases h
          have hmembers : property.members.WellFormed := ofPredicate_wellFormed _
          split
          · exact complement_wellFormed hmembers
          · exact hmembers

inductive Escaped (scope : Scope) : Node → Prop where
  | empty : Escaped scope .empty
  | anchor (kind : Anchor) : Escaped scope (.anchor kind)
  | lineBreak : Escaped scope lineBreak
  | char (x : Char) (icase : Bool) : Escaped scope (.char x icase)
  | bracket {set : CodePointSet} : set.WellFormed → Escaped scope (.bracket set false)
  | numbered {group : Nat} : scope.check group = .ok () → Escaped scope (.backRef group none)
  | named {group : Nat} {name : String} : scope.groups.find? name = some group →
      scope.check group = .ok () → Escaped scope (.backRef group (some name))

namespace Escaped

variable {scope : Scope} {icase : Bool} {c d e : Cursor} {node : Node}

theorem of_letterNode? {x : Char} (h : letterNode? x = some (.ok node)) : Escaped scope node := by
  simp only [letterNode?] at h
  split at h <;> cases h
  · exact .anchor _
  · exact .anchor _
  · exact .anchor _
  · exact .anchor _
  · exact .empty
  · exact .lineBreak
  · exact .bracket full_wellFormed

theorem of_readLiteralEscape (h : readLiteralEscape icase c = .ok (node, d)) :
    Escaped scope node := by
  simp only [readLiteralEscape] at h
  split at h
  · cases h; exact .char _ _
  · simp at h

theorem of_readSetEscape {negated : Bool} (h : readSetEscape negated c = .ok (node, d)) :
    Escaped scope node := by
  simp only [readSetEscape] at h
  split at h
  · next hset => cases h; exact .bracket (readProperty_wellFormed hset)
  · simp at h

theorem of_checked {group : Nat} {checked : Node}
    (h : (scope.check group).map (fun () => checked) = .ok node) :
    scope.check group = .ok () ∧ node = checked := by
  cases hc : scope.check group with
  | error reason => simp [hc, Except.map] at h
  | ok u =>
      simp only [hc, Except.map] at h
      cases h
      exact ⟨rfl, rfl⟩

theorem of_namedReference {chars : List Char} (h : namedReference scope chars = .ok node) :
    Escaped scope node := by
  simp only [namedReference] at h
  split at h
  · split at h
    · simp at h
    · obtain ⟨hc, rfl⟩ := of_checked h
      exact .numbered hc
  · split at h
    · simp at h
    · next hfind =>
        obtain ⟨hc, rfl⟩ := of_checked h
        exact .named hfind hc

theorem of_readNamed {closing : Char} (h : readNamed scope closing c = .ok (node, d)) :
    Escaped scope node := by
  simp only [readNamed] at h
  split at h
  · simp at h
  · split at h
    · next hn => cases h; exact of_namedReference hn
    · simp at h

theorem of_readNameEscape (h : readNameEscape scope icase c d = .ok (node, e)) :
    Escaped scope node := by
  simp only [readNameEscape] at h
  split at h
  · exact of_readNamed h
  · exact of_readNamed h
  · exact of_readLiteralEscape h

theorem of_readDigitEscape (h : readDigitEscape scope icase c = .ok (node, d)) :
    Escaped scope node := by
  simp only [readDigitEscape] at h
  split at h
  · next result hn =>
      cases h
      simp only [readNumbered] at hn
      split at hn
      · simp at hn
      · split at hn
        · simp at hn
        · split at hn
          · next hc => cases hn; exact .numbered hc
          · simp at hn
  · exact of_readLiteralEscape h
  · simp at h

theorem of_readEscape (h : readEscape scope icase c = .ok (node, d)) : Escaped scope node := by
  simp only [readEscape] at h
  split at h
  · simp at h
  · split at h
    · next hset => cases h; exact .bracket (ofClassLetter?_wellFormed hset)
    · next hletter => cases h; exact of_letterNode? hletter
    · simp at h
    · split at h
      · exact of_readSetEscape h
      · split at h
        · exact of_readNameEscape h
        · split at h
          · exact of_readDigitEscape h
          · exact of_readLiteralEscape h

end Escaped

end Specimen.Reader
