import Specimen.Reader.Escape
import Specimen.Reader.Run
import Specimen.CodePointSet.Class
import Specimen.CodePointSet.CaseClosure
/-!
Bracket expressions. Open brackets are kept on a stack, so nesting needs no recursion: each step reads an
item, an `&&`, or one end of a bracket.
-/

namespace Specimen.Reader

inductive ClassItem where
  | char (c : Char)
  | range (first last : Char)
  | set (set : CodePointSet)
  deriving DecidableEq, Repr

def ClassItem.addTo (operand : CodePointSet) : ClassItem → CodePointSet
  | char c => operand.insert c.toNat
  | range first last => operand.insertInterval ⟨first.toNat, last.toNat⟩
  | set s => operand.union s

def readClassEscape (c : Cursor) : Except SyntaxError (ClassItem × Cursor) :=
  match c.next? with
  | none => .error .incompleteEscape
  | some (x, d) =>
      match CodePointSet.ofClassLetter? x with
      | some set => .ok (.set set, d)
      | none =>
          if x = 'p' || x = 'P' then
            match readProperty (x = 'P') d with
            | .ok (set, e) => .ok (.set set, e)
            | .error reason => .error reason
          else if x = 'b' then .ok (.char '\x08', d)
          else
            match readCharEscape c with
            | .ok (y, e) => .ok (.char y, e)
            | .error reason => .error reason

def readClassAtom (c : Cursor) : Except SyntaxError (ClassItem × Cursor) :=
  match c.next? with
  | none => .error .unbalancedBracket
  | some (x, d) => if x = '\\' then readClassEscape d else .ok (.char x, d)

def rangeItem : ClassItem → ClassItem → Except SyntaxError ClassItem
  | .char first, .char last =>
      if first ≤ last then .ok (.range first last) else .error (.rangeReversed first last)
  | _, _ => .error .rangeInvalid

/-- Moves past a hyphen that makes a range; one in front of a closing bracket does not. -/
def rangeMark? (c : Cursor) : Option Cursor :=
  match c.skip? '-' with
  | some d => if d.peek? = some ']' then none else some d
  | none => none

def readClassItem (c : Cursor) : Except SyntaxError (ClassItem × Cursor) :=
  match readClassAtom c with
  | .error reason => .error reason
  | .ok (first, d) =>
      match rangeMark? d with
      | none => .ok (first, d)
      | some e =>
          if e.peek? = some '[' then .error .rangeInvalid
          else
            match readClassAtom e with
            | .error reason => .error reason
            | .ok (last, f) =>
                match rangeItem first last with
                | .ok item => .ok (item, f)
                | .error reason => .error reason

def readPosixClass (c : Cursor) : Except SyntaxError (Option (CodePointSet × Cursor)) :=
  match c.skipAll? ['[', ':'] with
  | none => .ok none
  | some d =>
      let (negated, e) := d.skipOptional '^'
      let (chars, f) := e.span Char.isAlpha
      match if chars.isEmpty then none else f.skipAll? [':', ']'] with
      | none => .ok none
      | some g =>
          let name := String.ofList chars
          match Unicode.PosixClass.ofName? name with
          | none => .error (.unknownPosixClass name)
          | some posix =>
              let set := posix.members
              .ok (some (if negated then set.complement else set, g))

structure OpenBracket where
  negated : Bool
  /-- What the operands before the last `&&` come to; none if all of them are empty. -/
  left : Option CodePointSet
  operand : CodePointSet
  hasItems : Bool
  /-- Whether nothing was read, so that a closing bracket is a member. -/
  fresh : Bool

namespace OpenBracket

def start (negated : Bool) : OpenBracket := ⟨negated, none, ∅, false, true⟩

def add (bracket : OpenBracket) (item : ClassItem) : OpenBracket :=
  { bracket with operand := item.addTo bracket.operand, hasItems := true, fresh := false }

/-- The operands so far, intersected; an operand without items restricts nothing. -/
def joined (bracket : OpenBracket) : Option CodePointSet :=
  match bracket.left, bracket.hasItems with
  | left, false => left
  | none, true => some bracket.operand
  | some left, true => some (left.inter bracket.operand)

def nextOperand (bracket : OpenBracket) : OpenBracket :=
  { bracket with left := bracket.joined, operand := ∅, hasItems := false, fresh := false }

/-- The set of a bracket that closes. A negation under `icase` bars the case alternates as well. -/
def close (bracket : OpenBracket) (icase : Bool) : CodePointSet :=
  let set := bracket.joined.getD ∅
  if bracket.negated then (if icase then set.caseClosure else set).complement else set

end OpenBracket

structure BracketState where
  innermost : OpenBracket
  outer : List OpenBracket
  cursor : Cursor

def closeBracket (icase : Bool) (s : BracketState) (d : Cursor) :
    Progress BracketState (CodePointSet × Cursor) :=
  let set := s.innermost.close icase
  match s.outer with
  | [] => .done (set, d)
  | parent :: outer => .more ⟨parent.add (.set set), outer, d⟩

def openBracket (outer : List OpenBracket) (c : Cursor) : BracketState :=
  let (negated, d) := c.skipOptional '^'
  ⟨.start negated, outer, d⟩

def readNested (s : BracketState) (d : Cursor) :
    Except SyntaxError (Progress BracketState (CodePointSet × Cursor)) :=
  match readPosixClass s.cursor with
  | .error reason => .error reason
  | .ok (some (set, e)) => .ok (.more ⟨s.innermost.add (.set set), s.outer, e⟩)
  | .ok none => .ok (.more (openBracket (s.innermost :: s.outer) d))

def readMember (s : BracketState) :
    Except SyntaxError (Progress BracketState (CodePointSet × Cursor)) :=
  match s.cursor.skipAll? ['&', '&'] with
  | some d => .ok (.more ⟨s.innermost.nextOperand, s.outer, d⟩)
  | none =>
      match s.cursor.skip? '[' with
      | some d => readNested s d
      | none =>
          match readClassItem s.cursor with
          | .ok (item, d) => .ok (.more ⟨s.innermost.add item, s.outer, d⟩)
          | .error reason => .error reason

def bracketStep (icase : Bool) (s : BracketState) :
    Except SyntaxError (Progress BracketState (CodePointSet × Cursor)) :=
  match s.cursor.next? with
  | none => .error .unbalancedBracket
  | some (x, d) =>
      if x = ']' && !s.innermost.fresh then .ok (closeBracket icase s d) else readMember s

theorem passes_of_readClassEscape {c d : Cursor} {item : ClassItem}
    (h : readClassEscape c = .ok (item, d)) : c.Passes d := by
  simp only [readClassEscape] at h
  split at h
  · simp at h
  · next hc =>
      have hcd := Cursor.passes_of_next? hc
      split at h
      · cases h; exact hcd
      · split at h
        · split at h
          · next hp => cases h; exact hcd.trans (passes_of_readProperty hp)
          · simp at h
        · split at h
          · cases h; exact hcd
          · split at h
            · next hy => cases h; exact passes_of_readCharEscape hy
            · simp at h

theorem passes_of_readClassAtom {c d : Cursor} {item : ClassItem}
    (h : readClassAtom c = .ok (item, d)) : c.Passes d := by
  simp only [readClassAtom] at h
  split at h
  · simp at h
  · next hc =>
      have hcd := Cursor.passes_of_next? hc
      split at h
      · exact hcd.trans (passes_of_readClassEscape h)
      · cases h; exact hcd

theorem passes_of_rangeMark? {c d : Cursor} (h : rangeMark? c = some d) : c.Passes d := by
  simp only [rangeMark?] at h
  split at h
  · next hc =>
      split at h
      · simp at h
      · cases h; exact Cursor.passes_of_skip? hc
  · simp at h

theorem passes_of_readClassItem {c d : Cursor} {item : ClassItem}
    (h : readClassItem c = .ok (item, d)) : c.Passes d := by
  simp only [readClassItem] at h
  split at h
  · simp at h
  · next hfirst =>
      have hcd := passes_of_readClassAtom hfirst
      split at h
      · cases h; exact hcd
      · next hmark =>
          split at h
          · simp at h
          · split at h
            · simp at h
            · next hlast =>
                split at h
                · cases h
                  exact (hcd.trans (passes_of_rangeMark? hmark)).trans
                    (passes_of_readClassAtom hlast)
                · simp at h

theorem passes_of_readPosixClass {c d : Cursor} {set : CodePointSet}
    (h : readPosixClass c = .ok (some (set, d))) : c.Passes d := by
  simp only [readPosixClass] at h
  split at h
  · simp at h
  · next hc =>
      split at h
      · simp at h
      · next hg =>
          split at h
          · simp at h
          · cases h
            split at hg
            · simp at hg
            · exact (((Cursor.passes_of_skipAll? hc).trans_reaches
                (Cursor.reaches_skipOptional _ _)).trans_reaches (Cursor.reaches_span _ _)).trans
                  (Cursor.passes_of_skipAll? hg)

theorem passes_of_bracketStep {icase : Bool} {s t : BracketState}
    (h : bracketStep icase s = .ok (.more t)) : s.cursor.Passes t.cursor := by
  simp only [bracketStep] at h
  split at h
  · simp at h
  · next hc =>
      split at h
      · simp only [closeBracket] at h
        split at h
        · simp at h
        · cases h; exact Cursor.passes_of_next? hc
      · simp only [readMember] at h
        split at h
        · next hd => cases h; exact Cursor.passes_of_skipAll? hd
        · split at h
          · next hd =>
              simp only [readNested] at h
              split at h
              · simp at h
              · next he => cases h; exact passes_of_readPosixClass he
              · cases h
                exact (Cursor.passes_of_skip? hd).trans_reaches (Cursor.reaches_skipOptional _ _)
          · split at h
            · next hd => cases h; exact passes_of_readClassItem hd
            · simp at h

def BracketState.size (s : BracketState) : Nat := s.cursor.rest.length

theorem size_lt_of_bracketStep {icase : Bool} {s t : BracketState}
    (h : bracketStep icase s = .ok (.more t)) : t.size < s.size :=
  (passes_of_bracketStep h).length_lt

def readBracket (icase : Bool) (c : Cursor) : Except SyntaxError (CodePointSet × Cursor) :=
  run (bracketStep icase) BracketState.size size_lt_of_bracketStep (openBracket [] c)

theorem passes_of_bracketStep_done {icase : Bool} {s : BracketState} {set : CodePointSet} {d : Cursor}
    (h : bracketStep icase s = .ok (.done (set, d))) : s.cursor.Passes d := by
  simp only [bracketStep] at h
  split at h
  · simp at h
  · next hc =>
      split at h
      · simp only [closeBracket] at h
        split at h
        · cases h; exact Cursor.passes_of_next? hc
        · simp at h
      · simp only [readMember] at h
        split at h
        · simp at h
        · split at h
          · simp only [readNested] at h
            split at h <;> simp at h
          · split at h <;> simp at h

theorem passes_of_readBracket {icase : Bool} {c d : Cursor} {set : CodePointSet}
    (h : readBracket icase c = .ok (set, d)) : c.Passes d := by
  exact run_induction size_lt_of_bracketStep (P := fun s => c.Reaches s.cursor)
    (Q := fun r => c.Passes r.2)
    (fun hs hst => hs.trans (passes_of_bracketStep hst).reaches)
    (fun hs hsr => hs.trans_passes (passes_of_bracketStep_done hsr))
    (Cursor.reaches_skipOptional '^' c) h

end Specimen.Reader
