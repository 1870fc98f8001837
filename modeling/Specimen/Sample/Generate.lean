import Specimen.Limits
import Specimen.Sample.Basic
import Specimen.Sample.Distinct
import Specimen.Pattern.Basic
import Specimen.CodePointSet.Sample
import Specimen.Unicode.Case
/-!
The samples of a pattern, in a fixed order and within limits. A sequence combines the samples of its items,
the leftmost item varying slowest.
-/

namespace Specimen

def product (limit : Nat) (left right : List Sample) : List Sample :=
  match right with
  | [next] => (left.take limit).map (·.append next)
  | right =>
      let right := right.take limit
      ((left.take (limit / right.length + 1)).flatMap fun s => right.map s.append).take limit

def power (limit : Nat) (inner : List Sample) : (count : Nat) → List Sample → List Sample
  | 0, current => current
  | count + 1, current =>
      if current.isEmpty then [] else power limit inner count (product limit current inner)

/-- Collects `current` and up to `more` further powers, until there are enough, behind the samples that
are `done`, the last one first. -/
def powers (limit : Nat) (inner : List Sample) :
    (more : Nat) → (current done : List Sample) → List Sample
  | 0, current, done => (current.reverseAux done).reverse
  | more + 1, current, done =>
      let done := current.reverseAux done
      if limit ≤ done.length || current.isEmpty then done.reverse
      else powers limit inner more (product limit current inner) done

def repeatSamples (limits : Limits) (inner : List Sample) (q : Quantifier) : List Sample :=
  let limit := limits.totalResults
  let variance := match q.max with
    | some max => min limits.repeatVariance (max - q.min)
    | none => limits.repeatVariance
  (distinct (powers limit inner variance (power limit inner q.min [.empty]) [])).take limit

def charSamples (limits : Limits) (cs : List Char) (icase : Bool) : List Sample :=
  let cs := if icase then distinctChars (cs ++ cs.filterMap Unicode.Case.alternate?) else cs
  (cs.take limits.groupResults).map .ofChar

mutual

def Node.samples (limits : Limits) : Node → List Sample
  | .empty => [.empty]
  | .anchor _ => [.empty]
  | .toggleRest _ => [.empty]
  | .char c icase => charSamples limits [c] icase
  | .bracket set icase => charSamples limits (set.sample limits.groupResults) icase
  | .cat items => catSamples limits [.empty] items
  | .alt branches => (distinct (altSamples limits [] branches)).take limits.groupResults
  | .capture group _ body =>
      ((body.samples limits).take limits.groupResults).map (·.capture group)
  | .nonCapturing body => (body.samples limits).take limits.groupResults
  | .toggleScoped _ body => (body.samples limits).take limits.groupResults
  | .backRef group _ => [.backRef group]
  | .loop q body =>
      repeatSamples limits (if q.max = some 0 then [] else body.samples limits) q

def catSamples (limits : Limits) (before : List Sample) : List Node → List Sample
  | [] => before
  | item :: rest =>
      if before.isEmpty then []
      else catSamples limits (product limits.totalResults before (item.samples limits)) rest

/-- The samples of branches one after the other, behind those that are `done`, the last one first. -/
def altSamples (limits : Limits) (done : List Sample) : List Node → List Sample
  | [] => done.reverse
  | branch :: rest => altSamples limits ((branch.samples limits).reverseAux done) rest

end

def Pattern.examples (pattern : Pattern) (limits : Limits) : List String :=
  if pattern.root.alwaysFails then []
  else
    (distinct ((pattern.root.samples limits).map Sample.text)).take limits.totalResults

end Specimen
