import Specimen.Proofs.Reader.Agree
import Specimen.Reader.Term
/-!
The same text at another place. What a reader makes of a text does not depend on where the text starts: only
the places that it gives are moved.
-/

namespace Specimen

def GroupTable.mapOffsets (f : Nat → Nat) (table : GroupTable) : GroupTable :=
  ⟨table.groups.map fun info => { info with offset := f info.offset }⟩

def GroupTable.shift (n : Nat) (table : GroupTable) : GroupTable :=
  ⟨table.groups.map fun info => { info with offset := info.offset + n }⟩

namespace GroupTable

variable {f : Nat → Nat} {n : Nat} {table : GroupTable}

@[simp]
theorem count_mapOffsets : (table.mapOffsets f).count = table.count := Array.size_map

theorem push_mapOffsets (info : GroupInfo) :
    (table.push info).mapOffsets f = (table.mapOffsets f).push ⟨info.name, f info.offset⟩ := by
  simp only [push, mapOffsets, Array.map_push]

theorem get?_mapOffsets (group : Nat) : (table.mapOffsets f).get? group =
    (table.get? group).map fun info => { info with offset := f info.offset } := by
  cases group with
  | zero => rfl
  | succ g => simp only [get?, mapOffsets, Array.getElem?_map]

theorem name?_mapOffsets (group : Nat) : (table.mapOffsets f).name? group = table.name? group := by
  rw [name?, get?_mapOffsets, name?]
  cases table.get? group <;> rfl

theorem lastNamed?_mapOffsets (name : String) (bound : Nat) :
    (table.mapOffsets f).lastNamed? name bound = table.lastNamed? name bound := by
  induction bound with
  | zero => rfl
  | succ bound ih => simp only [lastNamed?, name?_mapOffsets, ih]

theorem find?_mapOffsets (name : String) : (table.mapOffsets f).find? name = table.find? name := by
  rw [find?, count_mapOffsets, lastNamed?_mapOffsets, find?]

theorem mapOffsets_eq_self (h : ∀ info ∈ table.groups.toList, f info.offset = info.offset) :
    table.mapOffsets f = table := by
  obtain ⟨groups⟩ := table
  refine congrArg GroupTable.mk (Array.toList_inj.1 ?_)
  rw [Array.toList_map]
  refine (List.map_congr_left fun info hinfo => ?_).trans (List.map_id _)
  rw [h info hinfo]
  rfl

theorem mapOffsets_shift : (table.shift n).mapOffsets f = table.mapOffsets fun x => f (x + n) := by
  simp only [mapOffsets, shift, Array.map_map]
  rfl

@[simp]
theorem count_shift : (table.shift n).count = table.count :=
  @count_mapOffsets (· + n) table

theorem push_shift (info : GroupInfo) :
    (table.push info).shift n = (table.shift n).push ⟨info.name, info.offset + n⟩ :=
  @push_mapOffsets (· + n) table info

theorem get?_shift (group : Nat) : (table.shift n).get? group =
    (table.get? group).map fun info => { info with offset := info.offset + n } :=
  @get?_mapOffsets (· + n) table group

@[simp]
theorem find?_shift (name : String) : (table.shift n).find? name = table.find? name :=
  @find?_mapOffsets (· + n) table name

theorem shift_zero : table.shift 0 = table := by
  simp [shift]

theorem shift_empty : (∅ : GroupTable).shift n = ∅ :=
  congrArg GroupTable.mk Array.map_empty

end GroupTable

namespace Reader

namespace Cursor

def shift (n : Nat) (c : Cursor) : Cursor := ⟨c.rest, c.offset + n⟩

variable {α : Type} {n : Nat} {c : Cursor}

def shiftSnd (n : Nat) (r : α × Cursor) : α × Cursor := (r.1, r.2.shift n)

theorem shift_zero : c.shift 0 = c := rfl

@[simp]
theorem peek?_shift : (c.shift n).peek? = c.peek? := by
  simp only [peek?, shift]

@[simp]
theorem next?_shift : (c.shift n).next? = c.next?.map (shiftSnd n) := by
  simp only [next?, shift]
  cases c.rest with
  | nil => rfl
  | cons x rest => simp only [Option.map_some, shiftSnd, shift, Nat.add_right_comm]

@[simp]
theorem skip?_shift (mark : Char) : (c.shift n).skip? mark = (c.skip? mark).map (shift n) := by
  simp only [skip?, next?_shift]
  cases c.next? with
  | none => rfl
  | some r =>
      simp only [Option.map_some, shiftSnd]
      split
      · rfl
      · rfl

@[simp]
theorem skipAll?_shift (marks : List Char) :
    (c.shift n).skipAll? marks = (c.skipAll? marks).map (shift n) := by
  induction marks generalizing c with
  | nil => rfl
  | cons mark marks ih =>
      simp only [skipAll?, skip?_shift]
      cases c.skip? mark with
      | none => rfl
      | some d => exact ih

@[simp]
theorem skipOptional_shift (mark : Char) :
    (c.shift n).skipOptional mark = shiftSnd n (c.skipOptional mark) := by
  simp only [skipOptional, skip?_shift]
  cases c.skip? mark <;> rfl

@[simp]
theorem span_shift (p : Char → Bool) : (c.shift n).span p = shiftSnd n (c.span p) := by
  simp only [span, shift, shiftSnd, Nat.add_right_comm]

@[simp]
theorem spanUpTo_shift (limit : Nat) (p : Char → Bool) :
    (c.shift n).spanUpTo limit p = shiftSnd n (c.spanUpTo limit p) := by
  simp only [spanUpTo, shift, shiftSnd, Nat.add_right_comm]

end Cursor

open Cursor

variable {n : Nat} {c d : Cursor}

section Trivia

theorem commentEnd?_shift (rest : List Char) (offset : Nat) :
    commentEnd? rest (offset + n) = (commentEnd? rest offset).map (shift n) := by
  fun_induction commentEnd? rest offset with
  | case1 => rfl
  | case2 => rfl
  | case3 c rest offset ih =>
      simp only [commentEnd?]
      rw [Nat.add_right_comm offset, Nat.add_right_comm _ n, ih]
  | case4 offset rest =>
      simp only [commentEnd?, if_true, Option.map_some, shift, Nat.add_right_comm]
  | case5 offset c rest hend hescape hclose ih =>
      rw [commentEnd?, if_neg hclose, Nat.add_right_comm, ih]
      · exact hend
      · exact hescape

theorem skipLine_shift : skipLine (c.shift n) = (skipLine c).shift n := by
  simp only [skipLine, span_shift, shiftSnd, skipOptional_shift]

theorem skipTrivia_shift (extended : Bool) :
    skipTrivia extended (c.shift n) = (skipTrivia extended c).map (shift n) := by
  fun_induction skipTrivia extended c with
  | case1 c d hd e he ih =>
      rw [skipTrivia_eq, skipAll?_shift, hd]
      simp only [Option.map_some, shift]
      rw [commentEnd?_shift, he]
      exact ih
  | case2 c d hd he =>
      rw [skipTrivia_eq, skipAll?_shift, hd]
      simp only [Option.map_some, shift]
      rw [commentEnd?_shift, he]
      rfl
  | case3 c hc x d hd hx ih =>
      rw [skipTrivia_eq, skipAll?_shift, hc, next?_shift, hd]
      simp only [Option.map_none, Option.map_some, shiftSnd, hx, if_true]
      exact ih
  | case4 c hc x d hd hx hhash ih =>
      rw [skipTrivia_eq, skipAll?_shift, hc, next?_shift, hd]
      simp only [Option.map_none, Option.map_some, shiftSnd, hx, hhash, if_true, skipLine_shift]
      exact ih
  | case5 c hc x d hd hx hhash =>
      rw [skipTrivia_eq, skipAll?_shift, hc, next?_shift, hd]
      simp only [Option.map_none, Option.map_some, shiftSnd, hx, hhash]
      rfl
  | case6 c hc hd =>
      rw [skipTrivia_eq, skipAll?_shift, hc, next?_shift, hd]
      rfl

theorem skipEndAnchor?_shift : skipEndAnchor? (c.shift n) = (skipEndAnchor? c).map (shift n) := by
  simp only [skipEndAnchor?, next?_shift]
  cases c.next? with
  | none => rfl
  | some r =>
      obtain ⟨x, d⟩ := r
      simp only [Option.map_some, shiftSnd]
      split
      · next heq => cases heq; rfl
      · next heq =>
          cases heq
          simp only [next?_shift]
          cases d.next? with
          | none => rfl
          | some r =>
              obtain ⟨y, e⟩ := r
              simp only [Option.map_some, shiftSnd]
              split
              · next heq => cases heq; rfl
              · next heq => cases heq; rfl
              · simp_all
      · simp_all

theorem atPatternEnd_shift (extended : Bool) :
    atPatternEnd extended (c.shift n) = atPatternEnd extended c := by
  fun_induction atPatternEnd extended c with
  | case1 c reason hc =>
      rw [atPatternEnd_eq, skipTrivia_shift, hc]
      rfl
  | case2 c d hd e he ih =>
      rw [atPatternEnd_eq, skipTrivia_shift, hd]
      simp only [Except.map, skipEndAnchor?_shift, he, Option.map_some]
      exact ih
  | case3 c d hd he =>
      rw [atPatternEnd_eq, skipTrivia_shift, hd]
      simp only [Except.map, skipEndAnchor?_shift, he, Option.map_none]
      rfl

end Trivia

section Repeats

theorem writtenInterval_shift : writtenInterval (c.shift n) = shiftSnd n (writtenInterval c) := by
  simp only [writtenInterval, span_shift, shiftSnd, skip?_shift]
  cases (c.span (Text.isDigit 10)).2.skip? ',' with
  | none => rfl
  | some d => simp only [Option.map_some, span_shift, shiftSnd]

theorem interval?_shift : interval? (c.shift n) = (interval? c).map (shiftSnd n) := by
  simp only [interval?, writtenInterval_shift, shiftSnd, skip?_shift]
  cases (writtenInterval c).2.skip? '}' with
  | none => rfl
  | some d =>
      simp only [Option.map_some]
      split <;> rfl

theorem suffix_shift (form : RepeatForm) : suffix form (c.shift n) = shiftSnd n (suffix form c) := by
  simp only [suffix, next?_shift]
  cases c.next? with
  | none => cases form <;> rfl
  | some r =>
      obtain ⟨x, d⟩ := r
      by_cases hlazy : x = '?'
      · subst hlazy
        cases form <;> rfl
      · by_cases hpossessive : x = '+'
        · subst hpossessive
          cases form <;> rfl
        · simp [hlazy, hpossessive, shiftSnd]

theorem readQuantifier_shift :
    readQuantifier (c.shift n) = (readQuantifier c).map (Option.map (shiftSnd n)) := by
  simp only [readQuantifier, next?_shift]
  cases c.next? with
  | none => rfl
  | some r =>
      obtain ⟨x, d⟩ := r
      simp only [Option.map_some, shiftSnd]
      split
      · next heq =>
          cases heq
          simp only [suffix_shift]
          rfl
      · next heq =>
          cases heq
          simp only [suffix_shift]
          rfl
      · next heq =>
          cases heq
          simp only [suffix_shift]
          rfl
      · next heq =>
          cases heq
          simp only [interval?_shift]
          cases interval? d with
          | none => rfl
          | some w =>
              simp only [Option.map_some, shiftSnd]
              cases w.1.bounds with
              | error reason => rfl
              | ok bounds =>
                  simp only [suffix_shift]
                  rfl
      · simp_all
        rfl

end Repeats

section Escapes

theorem readControl_shift : readControl (c.shift n) = (readControl c).map (shiftSnd n) := by
  simp only [readControl, next?_shift]
  cases c.next? with
  | none => rfl
  | some r =>
      simp only [Option.map_some, shiftSnd]
      split
      · rfl
      · split <;> rfl

theorem readHex_shift : readHex (c.shift n) = (readHex c).map (shiftSnd n) := by
  simp only [readHex, spanUpTo_shift, shiftSnd]
  split <;> rfl

theorem unicodeDigits?_shift : unicodeDigits? (c.shift n) = (unicodeDigits? c).map (shiftSnd n) := by
  simp only [unicodeDigits?, skip?_shift, spanUpTo_shift, shiftSnd]
  cases c.skip? '{' with
  | none =>
      simp only [Option.map_none]
      split <;> rfl
  | some d =>
      simp only [Option.map_some, spanUpTo_shift, shiftSnd, skip?_shift]
      cases (d.spanUpTo 6 (Text.isDigit 16)).2.skip? '}' <;> rfl

theorem readUnicode_shift : readUnicode (c.shift n) = (readUnicode c).map (shiftSnd n) := by
  simp only [readUnicode, unicodeDigits?_shift]
  cases unicodeDigits? c with
  | none => rfl
  | some r =>
      simp only [Option.map_some, shiftSnd]
      cases hexChar? r.1 <;> rfl

theorem readOctal_shift (first : Char) :
    readOctal first (c.shift n) = shiftSnd n (readOctal first c) := by
  simp only [readOctal, spanUpTo_shift, shiftSnd]

theorem readCharEscape_shift :
    readCharEscape (c.shift n) = (readCharEscape c).map (shiftSnd n) := by
  simp only [readCharEscape, next?_shift]
  cases c.next? with
  | none => rfl
  | some r =>
      obtain ⟨x, d⟩ := r
      simp only [Option.map_some, shiftSnd]
      split
      · next heq => cases heq
      · next heq => cases heq; exact readControl_shift
      · next heq =>
          cases heq
          simp only [skip?_shift]
          cases d.skip? '-' with
          | none => rfl
          | some e => exact readControl_shift
      · next heq => cases heq; rfl
      · next heq => cases heq; exact readHex_shift
      · next heq => cases heq; exact readUnicode_shift
      · next hc hC hM hx hu heq =>
          cases heq
          simp_all
          cases letterEscape? x with
          | some y => rfl
          | none =>
            simp only [readOctal_shift]
            split <;> rfl

theorem readProperty_shift (negated : Bool) :
    readProperty negated (c.shift n) = (readProperty negated c).map (shiftSnd n) := by
  simp only [readProperty, skip?_shift]
  cases c.skip? '{' with
  | none => rfl
  | some d =>
      simp only [Option.map_some, skipOptional_shift, shiftSnd, span_shift, skip?_shift]
      cases ((d.skipOptional '^').2.span (· != '}')).2.skip? '}' with
      | none => rfl
      | some e =>
          simp only [Option.map_some]
          cases Unicode.Property.ofName? _ <;> rfl

end Escapes

section References

variable {scope : Scope} {icase : Bool}

def Scope.shift (n : Nat) (scope : Scope) : Scope := { scope with groups := scope.groups.shift n }

theorem check_shift (group : Nat) : (scope.shift n).check group = scope.check group := by
  simp only [Scope.check, Scope.shift, GroupTable.get?_shift, Option.isNone_map]
  rfl

theorem readNumbered_shift : readNumbered (scope.shift n) (c.shift n) =
    (readNumbered scope c).map (Option.map (shiftSnd n)) := by
  simp only [readNumbered, span_shift, shiftSnd, check_shift]
  have htotal : (scope.shift n).total = scope.total := rfl
  rw [htotal]
  split
  · rfl
  · split
    · rfl
    · cases scope.check _ <;> rfl

theorem namedReference_shift (chars : List Char) :
    namedReference (scope.shift n) chars = namedReference scope chars := by
  simp only [namedReference, check_shift]
  simp only [Scope.shift, GroupTable.find?_shift]

theorem readNamed_shift (closing : Char) :
    readNamed (scope.shift n) closing (c.shift n) = (readNamed scope closing c).map (shiftSnd n) := by
  simp only [readNamed, span_shift, shiftSnd, skip?_shift, namedReference_shift]
  cases (c.span (· != closing)).2.skip? closing with
  | none => rfl
  | some d =>
      simp only [Option.map_some]
      cases namedReference scope (c.span (· != closing)).1 <;> rfl

theorem readLiteralEscape_shift :
    readLiteralEscape icase (c.shift n) = (readLiteralEscape icase c).map (shiftSnd n) := by
  simp only [readLiteralEscape, readCharEscape_shift]
  cases readCharEscape c <;> rfl

theorem readSetEscape_shift (negated : Bool) :
    readSetEscape negated (c.shift n) = (readSetEscape negated c).map (shiftSnd n) := by
  simp only [readSetEscape, readProperty_shift]
  cases readProperty negated c <;> rfl

theorem readNameEscape_shift : readNameEscape (scope.shift n) icase (c.shift n) (d.shift n) =
    (readNameEscape scope icase c d).map (shiftSnd n) := by
  simp only [readNameEscape, next?_shift]
  cases d.next? with
  | none => exact readLiteralEscape_shift
  | some r =>
      obtain ⟨x, e⟩ := r
      simp only [Option.map_some, shiftSnd]
      split
      · next heq => cases heq; exact readNamed_shift _
      · next heq => cases heq; exact readNamed_shift _
      · simp_all
        exact readLiteralEscape_shift

theorem readDigitEscape_shift : readDigitEscape (scope.shift n) icase (c.shift n) =
    (readDigitEscape scope icase c).map (shiftSnd n) := by
  simp only [readDigitEscape, readNumbered_shift]
  cases readNumbered scope c with
  | error reason => rfl
  | ok r =>
      cases r with
      | none => exact readLiteralEscape_shift
      | some result => rfl

theorem readEscape_shift : readEscape (scope.shift n) icase (c.shift n) =
    (readEscape scope icase c).map (shiftSnd n) := by
  simp only [readEscape, next?_shift]
  cases c.next? with
  | none => rfl
  | some r =>
      obtain ⟨x, d⟩ := r
      simp only [Option.map_some, shiftSnd]
      cases CodePointSet.ofClassLetter? x with
      | some set => rfl
      | none =>
          cases letterNode? x with
          | some outcome => cases outcome <;> rfl
          | none =>
              simp only [readSetEscape_shift, readNameEscape_shift, readDigitEscape_shift,
                readLiteralEscape_shift]
              split
              · rfl
              · split
                · rfl
                · split <;> rfl

end References

section Groups

theorem readGroupName_shift (closing : Char) :
    readGroupName closing (c.shift n) = (readGroupName closing c).map (shiftSnd n) := by
  simp only [readGroupName, span_shift, shiftSnd, skip?_shift]
  cases (c.span isNameChar).2.skip? closing with
  | none => rfl
  | some d =>
      simp only [Option.map_some]
      split <;> rfl

theorem readToggle_shift (toggle : Toggle) (enable : Bool) (rest : List Char) (offset : Nat) :
    readToggle toggle enable rest (offset + n) =
      (readToggle toggle enable rest offset).map fun r => (r.1, r.2.1, r.2.2.shift n) := by
  fun_induction readToggle toggle enable rest offset with
  | case1 => rfl
  | case2 toggle enable c rest offset next hminus ih =>
      rw [readToggle, if_pos hminus, Nat.add_right_comm]
      exact ih
  | case3 toggle enable rest offset next hminus =>
      rw [readToggle, if_neg hminus, if_pos rfl, Nat.add_right_comm]
      rfl
  | case4 toggle enable rest offset next hminus hclose =>
      rw [readToggle, if_neg hminus, if_neg hclose, if_pos rfl, Nat.add_right_comm]
      rfl
  | case5 toggle enable c rest offset next hminus hclose hcolon changed hletter ih =>
      rw [readToggle, if_neg hminus, if_neg hclose, if_neg hcolon, hletter, Nat.add_right_comm]
      exact ih
  | case6 toggle enable c rest offset hminus hclose hcolon hletter =>
      rw [readToggle, if_neg hminus, if_neg hclose, if_neg hcolon, hletter]
      rfl

end Groups

section Brackets

theorem readClassEscape_shift : readClassEscape (c.shift n) = (readClassEscape c).map (shiftSnd n) := by
  simp only [readClassEscape, next?_shift]
  cases c.next? with
  | none => rfl
  | some r =>
      obtain ⟨x, d⟩ := r
      simp only [Option.map_some, shiftSnd, readProperty_shift, readCharEscape_shift]
      cases CodePointSet.ofClassLetter? x with
      | some set => rfl
      | none =>
          simp only
          split
          · cases readProperty (x = 'P') d <;> rfl
          · split
            · rfl
            · cases readCharEscape c <;> rfl

theorem readClassAtom_shift : readClassAtom (c.shift n) = (readClassAtom c).map (shiftSnd n) := by
  simp only [readClassAtom, next?_shift]
  cases c.next? with
  | none => rfl
  | some r =>
      simp only [Option.map_some, shiftSnd, readClassEscape_shift]
      split <;> rfl

theorem rangeMark?_shift : rangeMark? (c.shift n) = (rangeMark? c).map (shift n) := by
  simp only [rangeMark?, skip?_shift]
  cases c.skip? '-' with
  | none => rfl
  | some d =>
      simp only [Option.map_some, peek?_shift]
      split <;> rfl

theorem readClassItem_shift : readClassItem (c.shift n) = (readClassItem c).map (shiftSnd n) := by
  simp only [readClassItem, readClassAtom_shift]
  cases readClassAtom c with
  | error reason => rfl
  | ok first =>
      simp only [Except.map, shiftSnd, rangeMark?_shift]
      cases rangeMark? first.2 with
      | none => rfl
      | some e =>
          simp only [Option.map_some, peek?_shift, readClassAtom_shift]
          split
          · rfl
          · cases readClassAtom e with
            | error reason => rfl
            | ok last =>
                simp only [Except.map, shiftSnd]
                cases rangeItem first.1 last.1 <;> rfl

theorem readPosixClass_shift :
    readPosixClass (c.shift n) = (readPosixClass c).map (Option.map (shiftSnd n)) := by
  simp only [readPosixClass, skipAll?_shift]
  cases c.skipAll? ['[', ':'] with
  | none => rfl
  | some d =>
      simp only [Option.map_some, skipOptional_shift, shiftSnd, span_shift, skipAll?_shift]
      by_cases hempty : ((d.skipOptional '^').2.span Char.isAlpha).1.isEmpty = true
      · simp only [hempty, if_true]
        rfl
      · simp only [hempty]
        cases ((d.skipOptional '^').2.span Char.isAlpha).2.skipAll? [':', ']'] with
        | none => rfl
        | some e =>
            simp only [Option.map_some]
            cases Unicode.PosixClass.ofName? _ <;> rfl

def BracketState.shift (n : Nat) (s : BracketState) : BracketState :=
  { s with cursor := s.cursor.shift n }

theorem openBracket_shift (outer : List OpenBracket) :
    openBracket outer (c.shift n) = (openBracket outer c).shift n := by
  simp only [openBracket, skipOptional_shift, shiftSnd, BracketState.shift]

def shiftProgress (n : Nat) :
    Progress BracketState (CodePointSet × Cursor) → Progress BracketState (CodePointSet × Cursor)
  | .more s => .more (s.shift n)
  | .done r => .done (shiftSnd n r)

theorem readNested_shift (s : BracketState) :
    readNested (s.shift n) (d.shift n) = (readNested s d).map (shiftProgress n) := by
  have hcursor : (s.shift n).cursor = s.cursor.shift n := rfl
  simp only [readNested, hcursor, readPosixClass_shift]
  cases readPosixClass s.cursor with
  | error reason => rfl
  | ok r =>
      cases r with
      | none =>
          simp only [Except.map, Option.map_none, openBracket_shift]
          rfl
      | some r => rfl

theorem readMember_shift (s : BracketState) :
    readMember (s.shift n) = (readMember s).map (shiftProgress n) := by
  have hcursor : (s.shift n).cursor = s.cursor.shift n := rfl
  simp only [readMember, hcursor, skipAll?_shift, skip?_shift, readClassItem_shift]
  cases s.cursor.skipAll? ['&', '&'] with
  | some d => rfl
  | none =>
      cases s.cursor.skip? '[' with
      | some d => exact readNested_shift s
      | none => cases readClassItem s.cursor <;> rfl

theorem closeBracket_shift (icase : Bool) (s : BracketState) :
    closeBracket icase (s.shift n) (d.shift n) = shiftProgress n (closeBracket icase s d) := by
  have houter : (s.shift n).outer = s.outer := rfl
  simp only [closeBracket, houter]
  cases s.outer <;> rfl

theorem bracketStep_shift (icase : Bool) (s : BracketState) :
    bracketStep icase (s.shift n) = (bracketStep icase s).map (shiftProgress n) := by
  have hcursor : (s.shift n).cursor = s.cursor.shift n := rfl
  have hfresh : (s.shift n).innermost.fresh = s.innermost.fresh := rfl
  simp only [bracketStep, hcursor, hfresh, next?_shift, readMember_shift]
  cases s.cursor.next? with
  | none => rfl
  | some r =>
      simp only [Option.map_some, shiftSnd, closeBracket_shift]
      split <;> rfl

theorem readBracket_shift (icase : Bool) :
    readBracket icase (c.shift n) = (readBracket icase c).map (shiftSnd n) := by
  refine Agree.eq_map (run_agree (R := fun s t => t = s.shift n) ?_ (openBracket_shift []))
  rintro s _ rfl
  rw [bracketStep_shift]
  refine Agree.map_right (.refl (fun r => ?_) _)
  cases r with
  | more s => exact .more rfl
  | done r => exact .done rfl

end Brackets

end Reader

end Specimen
