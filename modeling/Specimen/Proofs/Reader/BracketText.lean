import Specimen.Proofs.Reader.BracketRun
import Specimen.Proofs.Reader.Inert

namespace Specimen

namespace CodePointSet.Holds

theorem negatedIf {s : CodePointSet} {P : Nat → Prop} (h : s.Holds P) (negated : Bool) :
    (if negated then s.complement else s).Holds (NegatedIf negated P) := by
  cases negated with
  | false => exact h
  | true => exact h.complement

end CodePointSet.Holds

namespace LetterClass

def set : LetterClass → CodePointSet
  | digit => CodePointSet.digits
  | space => CodePointSet.spaces
  | word => CodePointSet.wordChars
  | hexDigit => CodePointSet.hexDigits

theorem ofClassLetter?_letter (cls : LetterClass) (negated : Bool) :
    CodePointSet.ofClassLetter? (cls.letter negated) =
      some (if negated then cls.set.complement else cls.set) := by
  cases cls <;> cases negated <;> rfl

open CodePointSet in
theorem set_holds (cls : LetterClass) : cls.set.Holds cls.Has := by
  refine ⟨ofClassLetter?_wellFormed (ofClassLetter?_letter cls false), fun x => ?_⟩
  have hsingle (n : Nat) : n ≤ x ∧ x ≤ n ↔ x = n := by omega
  cases cls
  all_goals
    simp only [set, digits, spaces, wordChars, hexDigits, mem_ofIntervals, covered_cons,
      not_covered_nil, or_false, ofChars, Interval.mem_def, hsingle, Has]

end LetterClass

namespace Reader

theorem readProperty_of_reads (negated : Bool) {caret : Bool} {name : String} {named : Unicode.Property}
    (known : Unicode.Property.ofName? name = some named) {c d : Cursor}
    (hc : c.Reads ('{' :: (SetExpr.caretText caret ++ (name.toList ++ ['}']))) d) :
    readProperty negated c =
      .ok (if negated != caret then named.members.complement else named.members, d) := by
  have hmarks : ∀ x ∈ name.toList, x ≠ '^' ∧ x ≠ '}' := by
    intro x hx
    have hclear := not_mem_of_property known hx
    refine ⟨?_, ?_⟩
    · rintro rfl
      exact hclear (by decide)
    · rintro rfl
      exact hclear (by decide)
  obtain ⟨c₁, hopen, hc⟩ := Cursor.reads_cons_iff.1 hc
  have hcaret : '^' ∉ name.toList ++ ['}'] := by
    intro hmem
    rcases List.mem_append.1 hmem with hmem | hmem
    · exact (hmarks _ hmem).1 rfl
    · exact absurd hmem (by decide)
  obtain ⟨c₂, hcaret, hc⟩ := skipOptional_of_caretText hc fun e he =>
    Cursor.peek?_ne_of_not_mem he (List.append_ne_nil_of_right_ne_nil _ (by decide)) hcaret
  obtain ⟨c₃, hname, hc⟩ := Cursor.reads_append_iff.1 hc
  obtain ⟨c₄, hclose, hc⟩ := Cursor.reads_cons_iff.1 hc
  rw [Cursor.reads_nil_iff] at hc
  have hspan : c₂.span (· != '}') = (name.toList, c₃) := by
    refine Cursor.span_of_reads hname (fun x hx => by simpa using (hmarks x hx).2) fun x hx => ?_
    rw [Cursor.peek?_of_next? hclose] at hx
    cases hx
    rfl
  simp only [readProperty, Cursor.skip?_of_next? hopen, hcaret, hspan, Cursor.skip?_of_next? hclose,
    String.ofList_toList, known, hc]

theorem isAlpha_of_posix {name : String} {named : Unicode.PosixClass}
    (known : Unicode.PosixClass.ofName? name = some named) :
    name.toList.isEmpty = false ∧ name.toList.all Char.isAlpha = true := by
  unfold Unicode.PosixClass.ofName? at known
  split at known
  all_goals first | decide | cases known

theorem readPosixClass_of_reads {negated : Bool} {name : String} {named : Unicode.PosixClass}
    (known : Unicode.PosixClass.ofName? name = some named) {c d : Cursor}
    (hc : c.Reads ('[' :: ':' :: (SetExpr.caretText negated ++ (name.toList ++ [':', ']']))) d) :
    readPosixClass c =
      .ok (some (if negated then named.members.complement else named.members, d)) := by
  obtain ⟨hempty, hall⟩ := isAlpha_of_posix known
  have halpha := List.all_eq_true.1 hall
  have hsplit : '[' :: ':' :: (SetExpr.caretText negated ++ (name.toList ++ [':', ']'])) =
      ['[', ':'] ++ (SetExpr.caretText negated ++ (name.toList ++ [':', ']'])) := rfl
  rw [hsplit] at hc
  obtain ⟨c₁, hopen, hc⟩ := Cursor.reads_append_iff.1 hc
  have hcaret : '^' ∉ name.toList ++ [':', ']'] := by
    intro hmem
    rcases List.mem_append.1 hmem with hmem | hmem
    · exact absurd (halpha _ hmem) (by decide)
    · exact absurd hmem (by decide)
  obtain ⟨c₂, hcaret, hc⟩ := skipOptional_of_caretText hc fun e he =>
    Cursor.peek?_ne_of_not_mem he (List.append_ne_nil_of_right_ne_nil _ (by decide)) hcaret
  obtain ⟨c₃, hname, hclose⟩ := Cursor.reads_append_iff.1 hc
  have hspan : c₂.span Char.isAlpha = (name.toList, c₃) := by
    refine Cursor.span_of_reads hname halpha fun x hx => ?_
    rw [Cursor.peek?_of_reads hclose] at hx
    cases hx
    decide
  simp only [readPosixClass, Cursor.skipAll?_of_reads hopen, hcaret, hspan, hempty,
    Bool.false_eq_true, if_false, Cursor.skipAll?_of_reads hclose, String.ofList_toList, known]

structure SpellsAtom (text : List Char) (item : ClassItem) : Prop where
  starts : Starts text
  closed : text.head? ≠ some '['
  reads {c d : Cursor} : c.Reads text d → readClassAtom c = .ok (item, d)

namespace SpellsAtom

variable {icase : Bool} {text : List Char} {item : ClassItem}

theorem bracketRun (h : SpellsAtom text item) {b : OpenBracket} {outer : List OpenBracket}
    {c d : Cursor} (more : List Char) (hc : c.Reads (text ++ more) d) {read : ClassItem}
    (hread : readClassItem c = .ok (read, d)) :
    Reader.bracketRun icase ⟨b, outer, c⟩ = Reader.bracketRun icase ⟨b.add read, outer, d⟩ := by
  obtain ⟨x, rest, rfl, hx⟩ := h.starts
  have hpeek : c.peek? = some x := Cursor.peek?_of_reads hc
  refine bracketRun_item hpeek ?_ ?_ ?_ hread
  · rintro rfl
    exact hx (by decide)
  · rintro rfl
    exact hx (by decide)
  · rintro rfl
    exact h.closed rfl

theorem spells (h : SpellsAtom text item) {P : Nat → Prop} (hadds : item.Adds P) :
    Spells icase text P where
  starts := h.starts
  reads := by
    intro b outer c d hc hd
    refine ⟨item, hadds, h.bracketRun [] ?_ (readClassItem_of_atom (h.reads hc) hd)⟩
    rwa [List.append_nil]

theorem range {firstText lastText : List Char} {first last : Char}
    (hfirst : SpellsAtom firstText (.char first)) (hlast : SpellsAtom lastText (.char last))
    (hle : first ≤ last) : Spells icase (firstText ++ '-' :: lastText)
      fun x => first.toNat ≤ x ∧ x ≤ last.toNat where
  starts := hfirst.starts.append _
  reads := by
    intro b outer c d hc hd
    refine ⟨.range first last, ClassItem.adds_range hle, hfirst.bracketRun _ hc ?_⟩
    obtain ⟨c₁, hfront, hback⟩ := Cursor.reads_append_iff.1 hc
    obtain ⟨c₂, hhyphen, hback⟩ := Cursor.reads_cons_iff.1 hback
    have hclose : c₂.peek? ≠ some ']' := hlast.starts.peek?_ne hback (by decide)
    have hopen : c₂.peek? ≠ some '[' := by
      obtain ⟨x, rest, rfl, _⟩ := hlast.starts
      rw [Cursor.peek?_of_reads hback]
      exact hlast.closed
    exact readClassItem_of_range (hfirst.reads hfront) hhyphen hopen hclose (hlast.reads hback) hle

theorem escape {x : Char} {item : ClassItem} {rest : List Char}
    (h : ∀ {c d e : Cursor}, c.next? = some (x, d) → d.Reads rest e → readClassEscape c = .ok (item, e)) :
    SpellsAtom ('\\' :: x :: rest) item where
  starts := ⟨'\\', x :: rest, rfl, by decide⟩
  closed := by simp
  reads := by
    intro c d hc
    obtain ⟨e, hslash, hc⟩ := Cursor.reads_cons_iff.1 hc
    obtain ⟨f, hx, hc⟩ := Cursor.reads_cons_iff.1 hc
    simp only [readClassAtom, hslash, if_true]
    exact h hx hc

theorem char (x : Char) : SpellsAtom (SetExpr.charText x) (.char x) := by
  rw [SetExpr.charText]
  split
  · next hx =>
      refine escape fun {c d e} hmark hd => ?_
      rw [Cursor.reads_nil_iff] at hd
      simp only [SetExpr.marks, List.mem_cons, List.not_mem_nil, or_false] at hx
      rcases hx with rfl | rfl | rfl | rfl | rfl | rfl | rfl
      all_goals
        simp [readClassEscape, hmark, CodePointSet.ofClassLetter?, readCharEscape, letterEscape?, hd,
          Text.isDigit, Text.digit?, Text.hexDigit?]
  · next hx =>
      have hsubset : separators ⊆ SetExpr.marks := by decide
      have hopen : x ≠ '[' := by
        rintro rfl
        exact hx (by decide)
      have hslash : x ≠ '\\' := by
        rintro rfl
        exact hx (by decide)
      refine ⟨⟨x, [], rfl, fun hmem => hx (hsubset hmem)⟩, by simpa using hopen, fun {c d} hc => ?_⟩
      obtain ⟨e, hnext, he⟩ := Cursor.reads_cons_iff.1 hc
      rw [Cursor.reads_nil_iff] at he
      simp only [readClassAtom, hnext, if_neg hslash, he]

theorem letter (cls : LetterClass) (negated : Bool) :
    SpellsAtom ['\\', cls.letter negated]
      (.set (if negated then cls.set.complement else cls.set)) :=
  escape fun hx hd => by
    rw [Cursor.reads_nil_iff] at hd
    simp only [readClassEscape, hx, cls.ofClassLetter?_letter, hd]

theorem backspace : SpellsAtom ['\\', 'b'] (.char '\x08') :=
  escape fun hx hd => by
    rw [Cursor.reads_nil_iff] at hd
    simp [readClassEscape, hx, CodePointSet.ofClassLetter?, hd]

theorem property {negated caret : Bool} {name : String} {named : Unicode.Property}
    (known : Unicode.Property.ofName? name = some named) :
    SpellsAtom (SetExpr.property negated caret name named known).text
      (.set (if negated != caret then named.members.complement else named.members)) :=
  escape fun {c d e} hletter hd => by
    have hproperty := readProperty_of_reads negated known hd
    cases negated
    all_goals
      simp [readClassEscape, hletter, CodePointSet.ofClassLetter?, hproperty]

end SpellsAtom

variable {icase : Bool}

theorem Spells.posix {negated : Bool} {name : String} {named : Unicode.PosixClass}
    (known : Unicode.PosixClass.ofName? name = some named) :
    Spells icase (SetExpr.posix negated name named known).text
      ((SetExpr.posix negated name named known).Has icase) where
  starts := ⟨'[', _, rfl, by decide⟩
  reads := by
    intro b outer c d hc _
    obtain ⟨e, hopen, _⟩ := Cursor.reads_cons_iff.1 hc
    have hset := (CodePointSet.Holds.ofPredicate named.contains).negatedIf negated
    exact ⟨_, ClassItem.adds_set hset, bracketRun_posix hopen (readPosixClass_of_reads known hc)⟩

theorem text_bracket (negated : Bool) (first : List SetExpr) (more : List (List SetExpr)) :
    (SetExpr.bracket negated first more).text =
      '[' :: bracketBody SetExpr.text negated first more := by
  rw [SetExpr.text, SetExpr.itemsText_eq, SetExpr.operandsText_eq]
  rfl

theorem spells_of_proper {e : SetExpr} (h : e.Proper) : Spells icase e.text (e.Has icase) := by
  induction h with
  | char c => exact (SpellsAtom.char c).spells (ClassItem.adds_char c)
  | range first last ordered => exact (SpellsAtom.char first).range (.char last) ordered
  | letter cls negated =>
      exact (SpellsAtom.letter cls negated).spells
        (ClassItem.adds_set (cls.set_holds.negatedIf negated))
  | backspace => exact SpellsAtom.backspace.spells (ClassItem.adds_char '\x08')
  | property negated caret name named known =>
      exact (SpellsAtom.property known).spells
        (ClassItem.adds_set ((CodePointSet.Holds.ofPredicate named.contains).negatedIf _))
  | posix negated name named known => exact .posix known
  | bracket negated hne _ _ hfirst hmore =>
      rw [text_bracket, SetExpr.has_bracket]
      refine .bracket hne (fun operand hmem => ?_) negated
      rcases List.mem_cons.1 hmem with rfl | hmem
      · exact hfirst
      · exact hmore operand hmem

/-- The cursor `d` is where the text of the expression ends, whatever follows. -/
theorem readBracket_holds {negated : Bool} {first : List SetExpr} {more : List (List SetExpr)}
    (h : (SetExpr.bracket negated first more).Proper) (icase : Bool) {c d : Cursor}
    (hc : c.Reads (SetExpr.bracket negated first more).text d) :
    ∃ inside set, c.next? = some ('[', inside) ∧ readBracket icase inside = .ok (set, d) ∧
      set.Holds ((SetExpr.bracket negated first more).Has icase) := by
  cases h with
  | bracket _ hne hfirst hmore =>
      rw [text_bracket] at hc
      rw [SetExpr.has_bracket]
      obtain ⟨inside, hopen, hbody⟩ := Cursor.reads_cons_iff.1 hc
      have hspells : ∀ operand ∈ first :: more, ∀ item ∈ operand,
          Spells icase item.text (item.Has icase) := by
        intro operand hmem item hitem
        rcases List.mem_cons.1 hmem with rfl | hmem
        · exact spells_of_proper (hfirst item hitem)
        · exact spells_of_proper (hmore operand hmem item hitem)
      obtain ⟨set, hread, hset⟩ := exists_readBracket hne hspells hbody
      exact ⟨inside, set, hopen, hread, hset⟩

theorem readBracket_holds_nested :
    ∃ e : SetExpr, e.Proper ∧ e.text = "[^a-z[:digit:]&&[\\w]]".toList ∧
      ∃ inside set, (Cursor.ofString "[^a-z[:digit:]&&[\\w]]+").next? = some ('[', inside) ∧
        readBracket true inside = .ok (set, ⟨['+'], 21⟩) ∧ set.Holds (e.Has true) := by
  have hinner : (SetExpr.bracket false [.letter .word false] []).Proper :=
    .bracket false (.inl (by simp)) (by simpa using .letter .word false) (by simp)
  have houter : (SetExpr.bracket true [.range 'a' 'z' (by decide), .posix false "digit" .digit rfl]
      [[.bracket false [.letter .word false] []]]).Proper := by
    refine .bracket true (.inl (by simp)) ?_ (by simpa using hinner)
    simp only [List.forall_mem_cons, List.not_mem_nil, false_imp_iff, implies_true, and_true]
    exact ⟨.range _ _ _, .posix false _ _ _⟩
  exact ⟨_, houter, by decide, readBracket_holds houter true ⟨by decide, by decide⟩⟩

end Reader

end Specimen
