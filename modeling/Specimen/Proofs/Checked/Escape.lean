import Specimen.Proofs.Checked.Bracket
import Specimen.Proofs.Reader.Numbering

namespace Specimen.Checked

open Reader CodePointSet

section References

variable {scope : Scope} {table : GroupTable} {icase : Bool}

def find? (table : GroupTable) (name : String) : Checked (Option Nat) :=
  match table.find? name with
  | none => return none
  | some group => return some (← fits 16 group)

theorem le_count_of_find? {name : String} {group : Nat} (h : table.find? name = some group) :
    group ≤ table.count := by
  have hname := GroupTable.name?_of_lastNamed? h
  refine (GroupTable.get?_isSome.1 ?_).2
  rw [GroupTable.name?] at hname
  obtain ⟨info, hinfo, -⟩ := Option.bind_eq_some_iff.1 hname
  rw [hinfo]
  rfl

theorem find?_eq (h : table.count ≤ maxGroups) (name : String) :
    find? table name = .ok (table.find? name) := by
  rw [find?]
  cases hfind : table.find? name with
  | none => rfl
  | some group =>
      have hle := Nat.le_trans (le_count_of_find? hfind) h
      have hmax : maxGroups < wordSize 16 := by decide
      simp only [fits_of_lt (Nat.lt_of_le_of_lt hle hmax)]
      rfl

def namedReference (scope : Scope) (chars : List Char) : Checked Node :=
  let text := String.ofList chars
  if !chars.isEmpty && chars.all (Text.isDigit 10) then
    let number := Text.numeral 10 chars
    if number = 0 || maxGroups < number then reject (.backRefNumber text)
    else do
      ofRead (scope.check number)
      return .backRef number none
  else do
    match ← find? scope.groups text with
    | none => reject (.unknownGroupName text)
    | some group => do
        ofRead (scope.check group)
        return .backRef group (some text)

theorem namedReference_eq (h : scope.groups.count ≤ maxGroups) (chars : List Char) :
    namedReference scope chars = ofRead (Reader.namedReference scope chars) := by
  simp only [namedReference, Reader.namedReference, find?_eq h, ok_bind]
  split
  · split
    · rfl
    · cases scope.check (Text.numeral 10 chars) <;> rfl
  · cases scope.groups.find? (String.ofList chars) with
    | none => rfl
    | some group =>
        dsimp only
        cases scope.check group <;> rfl

def readNamed (scope : Scope) (closing : Char) (c : Cursor) : Checked (Node × Cursor) :=
  let (chars, d) := c.span (· != closing)
  match d.skip? closing with
  | none => reject .backRefUnreadable
  | some e => return (← namedReference scope chars, e)

theorem readNamed_eq (h : scope.groups.count ≤ maxGroups) (closing : Char) (c : Cursor) :
    readNamed scope closing c = ofRead (Reader.readNamed scope closing c) := by
  simp only [readNamed, Reader.readNamed, namedReference_eq h]
  cases (c.span (· != closing)).2.skip? closing with
  | none => rfl
  | some e =>
      dsimp only
      cases Reader.namedReference scope (c.span (· != closing)).1 <;> rfl

def readMarkedName (scope : Scope) (c : Cursor) : Checked (Node × Cursor) :=
  match c.skip? '<' with
  | some d => readNamed scope '>' d
  | none => do readNamed scope '\'' (← consume '\'' c)

def readLiteralEscape (icase : Bool) (c : Cursor) : Checked (Node × Cursor) := do
  let (x, d) ← readCharEscape c
  return (.char x icase, d)

theorem readLiteralEscape_eq (c : Cursor) :
    readLiteralEscape icase c = ofRead (Reader.readLiteralEscape icase c) := by
  rw [readLiteralEscape, Reader.readLiteralEscape, readCharEscape_eq]
  cases Reader.readCharEscape c <;> rfl

def isMarkedName (c : Cursor) : Bool :=
  (c.skipAll? ['k', '<']).isSome || (c.skipAll? ['k', '\'']).isSome

theorem readMarkedName_eq (h : scope.groups.count ≤ maxGroups) {c d : Cursor}
    (hk : c.next? = some ('k', d)) : (if isMarkedName c then readMarkedName scope d
      else readLiteralEscape icase c) = ofRead (readNameEscape scope icase c d) := by
  have hskip (mark : Char) : (c.skipAll? ['k', mark]).isSome = (d.skip? mark).isSome := by
    simp only [Cursor.skipAll?, Cursor.skip?_of_next? hk]
    cases d.skip? mark <;> rfl
  simp only [isMarkedName, hskip, readMarkedName, readNameEscape, readNamed_eq h,
    readLiteralEscape_eq]
  cases hnext : d.next? with
  | none =>
      have hnone (mark : Char) : d.skip? mark = none := by rw [Cursor.skip?, hnext]
      simp only [hnone]
      rfl
  | some r =>
      obtain ⟨x, e⟩ := r
      have hmark (mark : Char) : d.skip? mark = if x = mark then some e else none := by
        rw [Cursor.skip?, hnext]
      by_cases hangle : x = '<'
      · subst hangle
        simp [hmark]
      · by_cases hquote : x = '\''
        · subst hquote
          simp [hmark, consume_of_next? hnext]
        · simp [hmark, hangle, hquote]

def readDigitEscape (scope : Scope) (icase : Bool) (c : Cursor) : Checked (Node × Cursor) := do
  match ← ofRead (readNumbered scope c) with
  | some result => return result
  | none => readLiteralEscape icase c

theorem readDigitEscape_eq (c : Cursor) :
    readDigitEscape scope icase c = ofRead (Reader.readDigitEscape scope icase c) := by
  rw [readDigitEscape, Reader.readDigitEscape]
  cases readNumbered scope c with
  | error reason => rfl
  | ok r =>
      cases r with
      | none => exact readLiteralEscape_eq c
      | some r => rfl

end References

section Escapes

variable {scope : Scope} {icase : Bool}

def letterNode? : Char → Option (Checked Node)
  | 'R' => some do
      let set ← ofSorted lineBreaks.intervals.toList
      return .alt [.cat [.char '\r' false, .char '\n' false], .bracket set false]
  | 'X' => some do return .bracket (← full) false
  | x => (Reader.letterNode? x).map ofRead

theorem letterNode?_eq (x : Char) : letterNode? x = (Reader.letterNode? x).map ofRead := by
  unfold letterNode?
  split
  · rw [ofSorted_of lineBreaks_wellFormed]
    rfl
  · rw [full_eq]
    rfl
  · rfl

def readEscape (scope : Scope) (icase : Bool) (c : Cursor) : Checked (Node × Cursor) :=
  match c.peek? with
  | none => reject .incompleteEscape
  | some x =>
      match ofClassLetter? x, letterNode? x with
      | some set, _ => do
          let d ← consume x c
          return (.bracket (← set) false, d)
      | none, some node => do
          let node ← node
          return (node, ← consume x c)
      | none, none =>
          if x = 'p' || x = 'P' then do
            let (set, d) ← readProperty (x = 'P') (← consume x c)
            return (.bracket set false, d)
          else if x = 'k' && isMarkedName c then do readMarkedName scope (← consume 'k' c)
          else if '1' ≤ x && x ≤ '9' then readDigitEscape scope icase c
          else readLiteralEscape icase c

theorem readEscape_eq (h : scope.groups.count ≤ maxGroups) (c : Cursor) :
    readEscape scope icase c = ofRead (Reader.readEscape scope icase c) := by
  simp only [readEscape, Reader.readEscape, peek?_eq_map]
  cases hnext : c.next? with
  | none => rfl
  | some r =>
      obtain ⟨x, d⟩ := r
      simp only [Option.map_some, ofClassLetter?_eq, letterNode?_eq, consume_of_next? hnext, ok_bind]
      cases CodePointSet.ofClassLetter? x with
      | some set => rfl
      | none =>
          cases Reader.letterNode? x with
          | some node => cases node <;> rfl
          | none =>
              simp only [Option.map_none, readProperty_eq, readDigitEscape_eq, readLiteralEscape_eq]
              split
              · rw [readSetEscape]
                cases Reader.readProperty (x = 'P') d <;> rfl
              · by_cases hk : x = 'k'
                · subst hk
                  have hdigit : (decide ('1' ≤ 'k') && decide ('k' ≤ '9')) = false := by decide
                  rw [← readLiteralEscape_eq, if_pos rfl, ← readMarkedName_eq h hnext]
                  simp only [decide_true, Bool.true_and, consume_of_next? hnext, ok_bind, hdigit,
                    Bool.false_eq_true, if_false]
                · simp only [hk, decide_false, Bool.false_and, Bool.false_eq_true, if_false]
                  split <;> rfl

end Escapes

end Specimen.Checked
