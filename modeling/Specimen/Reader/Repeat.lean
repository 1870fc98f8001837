import Specimen.Reader.Cursor
import Specimen.Reader.Error
import Specimen.Text.Digit
import Specimen.Pattern.Node

namespace Specimen.Reader

def maxRepeat : Nat := 100000

/-- An upper bound of this size or more counts as no bound. -/
def endlessRepeat : Nat := 0xFFFFFFFFFFFFFFFF

/-- The spelling of a quantifier, which decides what suffix it admits. -/
inductive RepeatForm where
  | symbol
  | range
  | fixed
  deriving DecidableEq, Repr

structure WrittenInterval where
  least : Option Nat
  most : Option Nat
  form : RepeatForm
  deriving DecidableEq, Repr

def number? (digits : List Char) : Option Nat :=
  if digits.isEmpty then none else some (Text.numeral 10 digits)

def writtenInterval (c : Cursor) : WrittenInterval × Cursor :=
  let (leastDigits, d) := c.span (Text.isDigit 10)
  let least := number? leastDigits
  match d.skip? ',' with
  | some e =>
      let (mostDigits, f) := e.span (Text.isDigit 10)
      (⟨least, number? mostDigits, .range⟩, f)
  | none => (⟨least, least, .fixed⟩, d)

theorem reaches_writtenInterval (c : Cursor) : c.Reaches (writtenInterval c).2 := by
  simp only [writtenInterval]
  split
  · next h =>
      exact ((c.reaches_span _).trans (Cursor.passes_of_skip? h).reaches).trans
        (Cursor.reaches_span _ _)
  · exact c.reaches_span _

def interval? (c : Cursor) : Option (WrittenInterval × Cursor) :=
  let (written, d) := writtenInterval c
  match d.skip? '}' with
  | some e => if written.least.isNone && written.most.isNone then none else some (written, e)
  | none => none

theorem passes_of_interval? {c d : Cursor} {w : WrittenInterval} (h : interval? c = some (w, d)) :
    c.Passes d := by
  simp only [interval?] at h
  split at h
  · next he =>
      split at h
      · simp at h
      · cases h
        exact (reaches_writtenInterval c).trans_passes (Cursor.passes_of_skip? he)
  · simp at h

def WrittenInterval.bounds (w : WrittenInterval) : Except SyntaxError (Nat × Option Nat) :=
  let min := w.least.getD 0
  let max := w.most.filter (· < endlessRepeat)
  if maxRepeat < min || max.any (maxRepeat < ·) then .error .repeatTooLarge
  else if max.any (· < min) then .error .repeatReversed
  else .ok (min, max)

def suffix (form : RepeatForm) (c : Cursor) : Greediness × Cursor :=
  match form, c.next? with
  | .symbol, some ('?', d) => (.lazy, d)
  | .range, some ('?', d) => (.lazy, d)
  | .symbol, some ('+', d) => (.possessive, d)
  | _, _ => (.greedy, c)

theorem reaches_suffix (form : RepeatForm) (c : Cursor) : c.Reaches (suffix form c).2 := by
  simp only [suffix]
  split
  · next h => exact (Cursor.passes_of_next? h).reaches
  · next h => exact (Cursor.passes_of_next? h).reaches
  · next h => exact (Cursor.passes_of_next? h).reaches
  · exact .refl c

def readQuantifier (c : Cursor) : Except SyntaxError (Option (Quantifier × Cursor)) :=
  let finish (min : Nat) (max : Option Nat) (form : RepeatForm) (d : Cursor) :=
    let (greediness, e) := suffix form d
    .ok (some (⟨min, max, greediness⟩, e))
  match c.next? with
  | some ('*', d) => finish 0 none .symbol d
  | some ('+', d) => finish 1 none .symbol d
  | some ('?', d) => finish 0 (some 1) .symbol d
  | some ('{', d) =>
      match interval? d with
      | some (written, e) =>
          match written.bounds with
          | .ok (min, max) => finish min max written.form e
          | .error reason => .error reason
      | none => .ok none
  | _ => .ok none

theorem passes_of_readQuantifier {c d : Cursor} {q : Quantifier}
    (h : readQuantifier c = .ok (some (q, d))) : c.Passes d := by
  simp only [readQuantifier] at h
  split at h
  · next hc => cases h; exact (Cursor.passes_of_next? hc).trans_reaches (reaches_suffix _ _)
  · next hc => cases h; exact (Cursor.passes_of_next? hc).trans_reaches (reaches_suffix _ _)
  · next hc => cases h; exact (Cursor.passes_of_next? hc).trans_reaches (reaches_suffix _ _)
  · next hc =>
      split at h
      · next he =>
          split at h
          · cases h
            exact ((Cursor.passes_of_next? hc).trans (passes_of_interval? he)).trans_reaches
              (reaches_suffix _ _)
          · simp at h
      · simp at h
  · simp at h

end Specimen.Reader
