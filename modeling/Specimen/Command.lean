import Specimen.Limits
import Specimen.Pattern.Outline
import Specimen.Reader.Read
import Specimen.Sample.Generate

namespace Specimen

structure Invocation where
  pattern : String
  flags : Flags
  limits : Limits
  showOutline : Bool
  deriving DecidableEq, Repr

structure Outcome where
  code : Nat
  stdout : String
  stderr : String
  deriving DecidableEq, Repr

namespace Command

def maxSize : Nat := 0xFFFFFFFFFFFFFFFF

def size? (text : String) : Option Nat :=
  let digits := match text.toList with
    | '+' :: digits => digits
    | digits => digits
  let n := Text.numeral 10 digits
  if !digits.isEmpty && digits.all (Text.isDigit 10) && n ≤ maxSize then some n else none

inductive ValueOption where
  | flags
  | groupResults
  | repeatVariance
  | totalResults
  deriving DecidableEq, Repr

inductive CommandOption where
  | outline
  | value (option : ValueOption)
  deriving DecidableEq, Repr

def CommandOption.ofLongName? : String → Option CommandOption
  | "dump-ir" => some outline
  | "flags" => some (value .flags)
  | "max-group-results" => some (value .groupResults)
  | "max-repeater-variance" => some (value .repeatVariance)
  | "max-results-limit" => some (value .totalResults)
  | _ => none

structure Draft where
  pattern : Option String
  flags : Option Flags
  groupResults : Option Nat
  repeatVariance : Option Nat
  totalResults : Option Nat
  showOutline : Bool

namespace Draft

def blank : Draft := ⟨none, none, none, none, none, false⟩

def setPattern? (draft : Draft) (text : String) : Option Draft :=
  if draft.pattern.isSome then none else some { draft with pattern := some text }

def setOutline? (draft : Draft) : Option Draft :=
  if draft.showOutline then none else some { draft with showOutline := true }

def set? (draft : Draft) (value : String) : ValueOption → Option Draft
  | .flags =>
      if draft.flags.isSome then none else some { draft with flags := some (.ofLetters value) }
  | .groupResults =>
      if draft.groupResults.isSome then none
      else (size? value).map fun n => { draft with groupResults := some n }
  | .repeatVariance =>
      if draft.repeatVariance.isSome then none
      else (size? value).map fun n => { draft with repeatVariance := some n }
  | .totalResults =>
      if draft.totalResults.isSome then none
      else (size? value).map fun n => { draft with totalResults := some n }

def limits (draft : Draft) : Limits where
  groupResults := draft.groupResults.getD Limits.standard.groupResults
  repeatVariance := draft.repeatVariance.getD Limits.standard.repeatVariance
  totalResults := draft.totalResults.getD Limits.standard.totalResults

def invocation? (draft : Draft) : Option Invocation :=
  draft.pattern.map fun pattern =>
    ⟨pattern, draft.flags.getD .none, draft.limits, draft.showOutline⟩

end Draft

/-- An option as one word writes it: `--name`, `--name=value`, `-f` or `-fvalue`. -/
structure WrittenOption where
  option : CommandOption
  joined : Option String
  deriving DecidableEq, Repr

def joinedValue (text : List Char) : String := String.ofList (text.dropWhile (· == '='))

def readLongOption? (text : List Char) : Option WrittenOption :=
  let body := text.dropWhile (· == '-')
  let value := body.dropWhile (· != '=')
  (CommandOption.ofLongName? (String.ofList (body.takeWhile (· != '=')))).map fun option =>
    ⟨option, if value.isEmpty then none else some (joinedValue value)⟩

def readOption? : List Char → Option WrittenOption
  | '-' :: '-' :: text => readLongOption? text
  | '-' :: 'f' :: value =>
      some ⟨.value .flags, if value.isEmpty then none else some (joinedValue value)⟩
  | _ => none

def isOption (word : String) : Bool :=
  match word.toList with
  | '-' :: _ :: _ => true
  | _ => false

def nextValue? : List String → Option String
  | [] => none
  | word :: _ => if isOption word then none else some word

/-- Takes one word that is not `--` into account, and says whether the word after it went with it. The
outline option takes no value and passes over one in its word. -/
def readWord (draft : Draft) (word : String) (rest : List String) : Option (Draft × Bool) :=
  if !isOption word then (draft.setPattern? word).map (·, false)
  else
    match readOption? word.toList with
    | none => none
    | some ⟨.outline, _⟩ => draft.setOutline?.map (·, false)
    | some ⟨.value option, some value⟩ => (draft.set? value option).map (·, false)
    | some ⟨.value option, none⟩ =>
        (nextValue? rest).bind fun value => (draft.set? value option).map (·, true)

def readWords (draft : Draft) : (taken : Bool) → List String → Option Draft
  | _, [] => some draft
  | true, _ :: rest => readWords draft false rest
  | false, word :: rest =>
      if word = "--" then rest.foldlM Draft.setPattern? draft
      else
        match readWord draft word rest with
        | some (draft, taken) => readWords draft taken rest
        | none => none

def parse? (words : List String) : Option Invocation :=
  (readWords .blank false words).bind Draft.invocation?

def exampleLines (examples : List String) : String :=
  if examples.isEmpty then "No examples\n"
  else String.join (examples.map fun text => Text.quoted text ++ "\n")

def run (invocation : Invocation) : Outcome :=
  match Pattern.read invocation.pattern invocation.flags with
  | .error reason =>
      ⟨1, "", "Error: Error \x7b text: " ++ Text.quoted reason.message ++ " \x7d\n"⟩
  | .ok pattern =>
      let outline := if invocation.showOutline then "IR:\n" ++ pattern.outline ++ "\n" else ""
      ⟨0, outline ++ exampleLines (pattern.examples invocation.limits), ""⟩

end Command

end Specimen
