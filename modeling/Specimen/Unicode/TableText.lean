import Specimen.Search.EqualRange
import Specimen.Text.Digit
import Specimen.CodePointSet.Basic
/-!
Tables of character data are written as text, entries parted by blanks and numbers in hexadecimal. This
module reads them and looks code points up in them.
-/

namespace Specimen.Unicode

def wordsFrom : List Char → (word : List Char) → (done : List (List Char)) → List (List Char)
  | [], [], done => done.reverse
  | [], word, done => (word.reverse :: done).reverse
  | c :: cs, word, done =>
      if c.isWhitespace then
        if word.isEmpty then wordsFrom cs [] done else wordsFrom cs [] (word.reverse :: done)
      else wordsFrom cs (c :: word) done

def words (text : String) : List (List Char) := wordsFrom text.toList [] []

def cut (mark : Char) (word : List Char) : List Char × List Char :=
  (word.takeWhile (· != mark), (word.dropWhile (· != mark)).drop 1)

def hexNumber (digits : List Char) : Nat := Text.numeral 16 digits

def readInterval (word : List Char) : Interval :=
  let (first, last) := cut '-' word
  if last.isEmpty then .single (hexNumber first) else ⟨hexNumber first, hexNumber last⟩

def readSet (text : String) : CodePointSet :=
  .ofIntervals ((words text).map readInterval)

/-- Values attached to the starts of runs of code points, in the order of the starts. -/
structure RunTable (α : Type) where
  runs : Array (Nat × α)

namespace RunTable

variable {α : Type}

def floor? (t : RunTable α) (x : Nat) : Option (Nat × α) :=
  match Search.partitionPoint t.runs fun run => run.1 ≤ x with
  | 0 => none
  | i + 1 => t.runs[i]?

theorem mem_of_floor? {t : RunTable α} {x : Nat} {run : Nat × α} (h : t.floor? x = some run) :
    run ∈ t.runs := by
  simp only [floor?] at h
  split at h
  · simp at h
  · exact Array.mem_of_getElem? h

def covering? (t : RunTable α) (x : Nat) : Option α := (t.floor? x).map (·.2)

def find? (t : RunTable α) (x : Nat) : Option α :=
  match t.floor? x with
  | some run => if run.1 = x then some run.2 else none
  | none => none

theorem mem_of_find? {t : RunTable α} {x : Nat} {a : α} (h : t.find? x = some a) :
    (x, a) ∈ t.runs := by
  simp only [find?] at h
  split at h
  · next run hrun =>
      split at h
      · next hx =>
          cases h
          subst hx
          exact mem_of_floor? hrun
      · simp at h
  · simp at h

def ofText (value? : String → Option α) (text : String) : RunTable α :=
  ⟨((words text).filterMap fun word =>
    let (first, code) := cut '=' word
    (value? (String.ofList code)).map (hexNumber first, ·)).toArray⟩

end RunTable

end Specimen.Unicode
