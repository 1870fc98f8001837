import Specimen.Proofs.Checked.Text
import Specimen.Proofs.Reader.WellBuilt

namespace Specimen.Checked

open Reader CodePointSet

theorem peek?_eq_map (c : Cursor) : c.peek? = c.next?.map Prod.fst := by
  rw [Cursor.peek?, Cursor.next?]
  cases c.rest <;> rfl

section Items

variable {c d : Cursor} {item : ClassItem} {operand : CodePointSet}

def readClassEscape (c : Cursor) : Checked (ClassItem × Cursor) :=
  match c.peek? with
  | none => reject .incompleteEscape
  | some x =>
      match ofClassLetter? x with
      | some set => do
          let d ← consume x c
          return (.set (← set), d)
      | none =>
          if x = 'p' || x = 'P' then do
            let d ← consume x c
            let (set, e) ← readProperty (x = 'P') d
            return (.set set, e)
          else if x = 'b' then do return (.char '\x08', ← consume 'b' c)
          else do
            let (y, e) ← readCharEscape c
            return (.char y, e)

theorem readClassEscape_eq (c : Cursor) : readClassEscape c = ofRead (Reader.readClassEscape c) := by
  simp only [readClassEscape, Reader.readClassEscape, peek?_eq_map]
  cases hnext : c.next? with
  | none => rfl
  | some r =>
      obtain ⟨x, d⟩ := r
      simp only [Option.map_some, ofClassLetter?_eq, consume_of_next? hnext, ok_bind]
      cases CodePointSet.ofClassLetter? x with
      | some set => rfl
      | none =>
          simp only [Option.map_none, readProperty_eq, readCharEscape_eq]
          split
          · cases Reader.readProperty (x = 'P') d <;> rfl
          · split
            · next hx =>
                subst hx
                rw [consume_of_next? hnext]
                rfl
            · cases Reader.readCharEscape c <;> rfl

def readClassAtom (c : Cursor) : Checked (ClassItem × Cursor) :=
  match c.next? with
  | none => reject .unbalancedBracket
  | some (x, d) => if x = '\\' then readClassEscape d else return (.char x, d)

theorem readClassAtom_eq (c : Cursor) : readClassAtom c = ofRead (Reader.readClassAtom c) := by
  simp only [readClassAtom, Reader.readClassAtom, readClassEscape_eq]
  cases c.next? with
  | none => rfl
  | some r =>
      dsimp only
      split <;> rfl

def readClassItem (c : Cursor) : Checked (ClassItem × Cursor) := do
  let (first, d) ← readClassAtom c
  if d.peek? ≠ some '-' ∨ (d.skipAll? ['-', ']']).isSome then return (first, d)
  else
    let e ← consume '-' d
    if e.peek? = some '[' then reject .rangeInvalid
    else
      let (last, f) ← readClassAtom e
      return (← ofRead (rangeItem first last), f)

theorem rangeMark?_eq (d : Cursor) : rangeMark? d =
    if d.peek? ≠ some '-' ∨ (d.skipAll? ['-', ']']).isSome = true then none else d.skip? '-' := by
  by_cases hmark : d.peek? = some '-'
  · obtain ⟨e, he⟩ := Cursor.next?_of_peek? hmark
    have hskip := Cursor.skip?_of_next? he
    simp only [rangeMark?, hskip, hmark, Cursor.skipAll?, ne_eq, not_true_eq_false, false_or]
    by_cases hclose : e.peek? = some ']'
    · obtain ⟨f, hf⟩ := Cursor.next?_of_peek? hclose
      simp [hclose, Cursor.skip?_of_next? hf]
    · simp [hclose, Cursor.skip?_eq_none hclose]
  · simp [rangeMark?, hmark, Cursor.skip?_eq_none hmark]

theorem readClassItem_eq (c : Cursor) : readClassItem c = ofRead (Reader.readClassItem c) := by
  simp only [readClassItem, Reader.readClassItem, readClassAtom_eq, rangeMark?_eq]
  cases Reader.readClassAtom c with
  | error reason => rfl
  | ok r =>
      obtain ⟨first, d⟩ := r
      simp only [ofRead_ok, ok_bind]
      split
      · rfl
      · next hmark =>
          obtain ⟨hmark, -⟩ := not_or.1 hmark
          obtain ⟨e, he⟩ := Cursor.next?_of_peek? (Decidable.of_not_not hmark)
          simp only [consume_of_next? he, ok_bind, Cursor.skip?_of_next? he]
          split
          · rfl
          · cases Reader.readClassAtom e with
            | error reason => rfl
            | ok r =>
                obtain ⟨last, f⟩ := r
                simp only [ofRead_ok, ok_bind]
                cases rangeItem first last <;> rfl

def readPosixClass (c : Cursor) : Checked (Option (CodePointSet × Cursor)) :=
  match c.skipAll? ['[', ':'] with
  | none => return none
  | some d => do
      let (negated, e) := d.skipOptional '^'
      let (chars, f) ← span Char.isAlpha e
      match if chars.isEmpty then none else f.skipAll? [':', ']'] with
      | none => return none
      | some g =>
          let name := String.ofList chars
          match Unicode.PosixClass.ofName? name with
          | none => reject (.unknownPosixClass name)
          | some posix => do
              let set ← ofPredicate posix.contains
              return some (← if negated then complement set else pure set, g)

theorem readPosixClass_eq (c : Cursor) : readPosixClass c = ofRead (Reader.readPosixClass c) := by
  simp only [readPosixClass, Reader.readPosixClass, span_eq]
  cases c.skipAll? ['[', ':'] with
  | none => rfl
  | some d =>
      simp only [ok_bind]
      generalize (d.skipOptional '^').2.span Char.isAlpha = name
      cases (if name.1.isEmpty then none else name.2.skipAll? [':', ']'] : Option Cursor) with
      | none => rfl
      | some g =>
          dsimp only
          cases Unicode.PosixClass.ofName? (String.ofList name.1) with
          | none => rfl
          | some posix =>
              have hset := complement_eq (ofPredicate_wellFormed posix.contains)
              simp only [ofPredicate_eq, ok_bind, hset]
              split <;> rfl

def addTo (operand : CodePointSet) : ClassItem → Checked CodePointSet
  | .char c => insert operand c.toNat
  | .range first last => insertInterval operand ⟨first.toNat, last.toNat⟩
  | .set set => union operand set

theorem addTo_eq (hitem : item.WellFormed) (h : operand.WellFormed) :
    addTo operand item = .ok (item.addTo operand) := by
  cases item with
  | char c => exact insert_eq h (toNat_le_maxCodePoint c)
  | range first last => exact insertInterval_eq h hitem (toNat_le_maxCodePoint last)
  | set set => exact union_eq h hitem

end Items

section Brackets

variable {bracket : OpenBracket} {item : ClassItem}

def add (bracket : OpenBracket) (item : ClassItem) : Checked OpenBracket := do
  let operand ← addTo bracket.operand item
  return { bracket with operand := operand, hasItems := true, fresh := false }

theorem add_eq (h : bracket.WellFormed) (hitem : item.WellFormed) :
    add bracket item = .ok (bracket.add item) := by
  rw [add, addTo_eq hitem h.operand]
  rfl

def joined (bracket : OpenBracket) : Checked (Option CodePointSet) :=
  match bracket.left, bracket.hasItems with
  | left, false => return left
  | none, true => return some bracket.operand
  | some left, true => do return some (← inter left bracket.operand)

theorem joined_eq (h : bracket.WellFormed) : joined bracket = .ok bracket.joined := by
  obtain ⟨negated, left, operand, hasItems, fresh⟩ := bracket
  cases hasItems with
  | false => cases left <;> rfl
  | true =>
      cases left with
      | none => rfl
      | some left =>
          simp only [joined, OpenBracket.joined, inter_eq (h.left left rfl) h.operand]
          rfl

def nextOperand (bracket : OpenBracket) : Checked OpenBracket := do
  let left ← joined bracket
  return { bracket with left := left, operand := ∅, hasItems := false, fresh := false }

theorem nextOperand_eq (h : bracket.WellFormed) : nextOperand bracket = .ok bracket.nextOperand := by
  rw [nextOperand, joined_eq h]
  rfl

def close (bracket : OpenBracket) (icase : Bool) : Checked CodePointSet := do
  let set := (← joined bracket).getD ∅
  if bracket.negated then complement (← if icase then caseClosure set else pure set) else return set

theorem close_eq (h : bracket.WellFormed) (icase : Bool) :
    close bracket icase = .ok (bracket.close icase) := by
  have hset : (bracket.joined.getD ∅).WellFormed := by
    cases hjoined : bracket.joined with
    | none => exact empty_wellFormed
    | some set => exact h.joined hjoined
  simp only [close, OpenBracket.close, joined_eq h, ok_bind]
  split
  · cases icase with
    | true =>
        simp only [if_true, caseClosure_eq hset, ok_bind]
        exact complement_eq (caseClosure_wellFormed hset)
    | false => exact complement_eq hset
  · rfl

def closeBracket (icase : Bool) (s : BracketState) (d : Cursor) :
    Checked (Progress BracketState (CodePointSet × Cursor)) := do
  let set ← close s.innermost icase
  match s.outer with
  | [] => return .done (set, d)
  | parent :: outer => return .more ⟨← add parent (.set set), outer, d⟩

def openBracket (outer : List OpenBracket) (c : Cursor) : Checked BracketState := do
  return Reader.openBracket outer (← consume '[' c)

def readNested (s : BracketState) : Checked (Progress BracketState (CodePointSet × Cursor)) := do
  match ← readPosixClass s.cursor with
  | some (set, d) => return .more ⟨← add s.innermost (.set set), s.outer, d⟩
  | none => return .more (← openBracket (s.innermost :: s.outer) s.cursor)

def readMember (s : BracketState) : Checked (Progress BracketState (CodePointSet × Cursor)) :=
  match s.cursor.skipAll? ['&', '&'] with
  | some d => do return .more ⟨← nextOperand s.innermost, s.outer, d⟩
  | none =>
      if s.cursor.peek? = some '[' then readNested s
      else do
        let (item, d) ← readClassItem s.cursor
        return .more ⟨← add s.innermost item, s.outer, d⟩

def bracketStep (icase : Bool) (s : BracketState) :
    Checked (Progress BracketState (CodePointSet × Cursor)) :=
  match s.cursor.peek? with
  | none => reject .unbalancedBracket
  | some x =>
      if x = ']' && !s.innermost.fresh then do
        closeBracket icase s (← consume ']' s.cursor)
      else readMember s

variable {icase : Bool} {s : BracketState} {c d : Cursor}

theorem closeBracket_eq (h : s.WellFormed) : closeBracket icase s d =
    .ok (Reader.closeBracket icase s d) := by
  simp only [closeBracket, Reader.closeBracket, close_eq h.innermost, ok_bind]
  cases houter : s.outer with
  | nil => rfl
  | cons parent outer =>
      have hparent := h.outer parent (houter ▸ List.mem_cons_self)
      have hitem : (ClassItem.set (s.innermost.close icase)).WellFormed :=
        h.innermost.close icase
      simp only [add_eq hparent hitem]
      rfl

theorem openBracket_eq (outer : List OpenBracket) (hopen : c.next? = some ('[', d)) :
    openBracket outer c = .ok (Reader.openBracket outer d) := by
  rw [openBracket, consume_of_next? hopen]
  rfl

theorem readNested_eq (h : s.WellFormed) (hopen : s.cursor.next? = some ('[', d)) :
    readNested s = ofRead (Reader.readNested s d) := by
  simp only [readNested, Reader.readNested, readPosixClass_eq]
  cases hposix : Reader.readPosixClass s.cursor with
  | error reason => rfl
  | ok r =>
      cases r with
      | none =>
          simp only [ofRead_ok, ok_bind, openBracket_eq _ hopen]
          rfl
      | some r =>
          obtain ⟨set, e⟩ := r
          have hitem : (ClassItem.set set).WellFormed := readPosixClass_wellFormed hposix
          simp only [ofRead_ok, ok_bind, add_eq h.innermost hitem]
          rfl

theorem readMember_eq (h : s.WellFormed) : readMember s = ofRead (Reader.readMember s) := by
  simp only [readMember, Reader.readMember]
  cases s.cursor.skipAll? ['&', '&'] with
  | some d =>
      simp only [nextOperand_eq h.innermost]
      rfl
  | none =>
      dsimp only
      by_cases hopen : s.cursor.peek? = some '['
      · obtain ⟨d, hd⟩ := Cursor.next?_of_peek? hopen
        simp only [if_pos hopen, Cursor.skip?_of_next? hd]
        exact readNested_eq h hd
      · simp only [if_neg hopen, Cursor.skip?_eq_none hopen, readClassItem_eq]
        cases hitem : Reader.readClassItem s.cursor with
        | error reason => rfl
        | ok r =>
            obtain ⟨item, d⟩ := r
            simp only [ofRead_ok, ok_bind, add_eq h.innermost (readClassItem_wellFormed hitem)]
            rfl

theorem bracketStep_eq (h : s.WellFormed) :
    bracketStep icase s = ofRead (Reader.bracketStep icase s) := by
  simp only [bracketStep, Reader.bracketStep, peek?_eq_map]
  cases hnext : s.cursor.next? with
  | none => rfl
  | some r =>
      obtain ⟨x, d⟩ := r
      simp only [Option.map_some]
      split
      · next hclose =>
          rw [Bool.and_eq_true, decide_eq_true_eq] at hclose
          rw [hclose.1] at hnext
          rw [consume_of_next? hnext, ok_bind, closeBracket_eq h]
          rfl
      · exact readMember_eq h

def readBracket (icase : Bool) (c : Cursor) : Checked (CodePointSet × Cursor) := do
  runWithin (bracketStep icase) c.rest.length (← openBracket [] c)

theorem readBracket_eq (hopen : c.next? = some ('[', d)) :
    readBracket icase c = ofRead (Reader.readBracket icase d) := by
  have hstart : (Reader.openBracket [] d).WellFormed := ⟨.start _, by simp [Reader.openBracket]⟩
  have hsize : (Reader.openBracket [] d).size < c.rest.length :=
    ((Cursor.passes_of_next? hopen).trans_reaches (Cursor.reaches_skipOptional '^' d)).length_lt
  rw [readBracket, openBracket_eq [] hopen, ok_bind]
  refine runWithin_eq id size_lt_of_bracketStep (P := BracketState.WellFormed)
    (fun {s} hs => ?_) (fun hs hst => hs.move (.of_bracketStep hst)) hstart hsize
  have hsame (progress : Progress BracketState (CodePointSet × Cursor)) :
      mapState id progress = progress := by
    cases progress <;> rfl
  rw [id_eq, bracketStep_eq hs]
  cases Reader.bracketStep icase s with
  | error reason => rfl
  | ok progress => exact congrArg Except.ok (hsame progress).symm

end Brackets

end Specimen.Checked
