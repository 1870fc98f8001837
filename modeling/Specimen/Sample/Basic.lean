/-!
Samples: strings under construction with the values that groups captured on the way. A back-reference to a
group that a sample has not captured stays pending, until the sample is appended to one that has.
-/

namespace Specimen

inductive Fragment where
  | text (text : String)
  | backRef (group : Nat)
  deriving DecidableEq, Hashable, Repr

namespace Fragment

def glue : List Fragment → List Fragment → List Fragment
  | [], later => later
  | [text s], text t :: later => text (s ++ t) :: later
  | first :: rest, later => first :: glue rest later

end Fragment

structure Sample where
  fragments : List Fragment
  /-- The captured values, the greatest group first. -/
  captures : List (Nat × List Fragment)
  deriving DecidableEq, Hashable, Repr

namespace Sample

def empty : Sample := ⟨[], []⟩

def ofChar (c : Char) : Sample := ⟨[.text c.toString], []⟩

def backRef (group : Nat) : Sample := ⟨[.backRef group], []⟩

def captured? (s : Sample) (group : Nat) : Option (List Fragment) := s.captures.lookup group

def resolve (s : Sample) : Fragment → List Fragment
  | .text t => [.text t]
  | .backRef group => (s.captured? group).getD [.backRef group]

def resolveAll (s : Sample) : List Fragment → List Fragment
  | [] => []
  | fragment :: rest => Fragment.glue (s.resolve fragment) (s.resolveAll rest)

def insertCapture (group : Nat) (value : List Fragment) :
    List (Nat × List Fragment) → List (Nat × List Fragment)
  | [] => [(group, value)]
  | (g, v) :: rest =>
      if g < group then (group, value) :: (g, v) :: rest
      else if g = group then (group, value) :: rest
      else (g, v) :: insertCapture group value rest

/-- Puts `next` behind `s`. Its back-references see what `s` captured, and its captures replace those
of `s`. -/
def append (s next : Sample) : Sample where
  fragments := Fragment.glue s.fragments (s.resolveAll next.fragments)
  captures := next.captures.foldl
    (fun captures (group, value) => insertCapture group (s.resolveAll value) captures) s.captures

def capture (s : Sample) (group : Nat) : Sample :=
  { s with captures := insertCapture group s.fragments s.captures }

/-- The string that a sample comes to. A back-reference that is pending still is to a group that took no
part, and adds nothing. -/
def text (s : Sample) : String :=
  s.fragments.foldl (fun out fragment =>
    match fragment with
    | .text t => out ++ t
    | .backRef _ => out) ""

end Sample

end Specimen
