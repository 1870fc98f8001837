import Specimen.Pattern.Basic
import Specimen.Text.Quoted
/-!
The outline of a pattern: a line for each node, parents before children and deeper ones further in, then a
line for each capturing group.
-/

namespace Specimen

def Interval.text (iv : Interval) : String :=
  if iv.first = iv.last then "0x" ++ Text.hexText iv.first
  else "0x" ++ Text.hexText iv.first ++ "-0x" ++ Text.hexText iv.last

def CodePointSet.text (s : CodePointSet) : String :=
  ", ".intercalate (s.intervals.toList.map Interval.text)

def Toggle.text (toggle : Toggle) : String :=
  let disabled := if toggle.disable = .none then "" else "-" ++ toggle.disable.text
  "(?" ++ toggle.enable.text ++ disabled ++ ")"

def Anchor.text : Anchor → String
  | .startOfLine => "StartOfLine"
  | .startOfString => "StartOfString"
  | .lastMatch => "LastMatch"
  | .endOfLine => "EndOfLine"
  | .endOfString => "EndOfString"
  | .endOfStringOrNewline => "EndOfStringOrNewline"

def Greediness.text : Greediness → String
  | .greedy => "Greedy"
  | .lazy => "Lazy"
  | .possessive => "Possessive"

def Quantifier.text (q : Quantifier) : String :=
  let max := match q.max with
    | some n => toString n
    | none => ""
  "\x7b" ++ toString q.min ++ "," ++ max ++ "\x7d " ++ q.greediness.text

def icaseMark (icase : Bool) : String := if icase then " icase" else ""

def Node.label : Node → String
  | .empty => "Empty"
  | .char c icase => Text.quotedChar c ++ icaseMark icase
  | .bracket set icase => "Bracket " ++ set.text ++ icaseMark icase
  | .cat _ => "Cat"
  | .alt _ => "Alt"
  | .capture group none _ => "CaptureGroup " ++ toString group
  | .capture group (some name) _ =>
      "NamedCaptureGroup " ++ toString group ++ " " ++ Text.quoted name
  | .nonCapturing _ => "NonCapturingGroup"
  | .toggleRest toggle => "OptionToggle " ++ toggle.text ++ " rest of group"
  | .toggleScoped toggle _ => "OptionToggle " ++ toggle.text ++ " scoped"
  | .anchor kind => "Anchor " ++ kind.text
  | .backRef group none => "BackRef " ++ toString group
  | .backRef group (some name) => "NamedBackRef " ++ toString group ++ " " ++ Text.quoted name
  | .loop quantifier _ => "Loop " ++ quantifier.text

structure OutlineLine where
  depth : Nat
  label : String
  deriving DecidableEq, Repr

def OutlineLine.text (line : OutlineLine) : String :=
  String.join (List.replicate line.depth "..") ++ line.label ++ "\n"

mutual

/-- The lines of a node, the last one first, before those that are `done`. -/
def Node.outlineOnto (done : List OutlineLine) (depth : Nat) : Node → List OutlineLine
  | .cat items => outlineAllOnto (⟨depth, (Node.cat items).label⟩ :: done) (depth + 1) items
  | .alt branches => outlineAllOnto (⟨depth, (Node.alt branches).label⟩ :: done) (depth + 1) branches
  | .capture group name body =>
      body.outlineOnto (⟨depth, (Node.capture group name body).label⟩ :: done) (depth + 1)
  | .nonCapturing body =>
      body.outlineOnto (⟨depth, (Node.nonCapturing body).label⟩ :: done) (depth + 1)
  | .toggleScoped toggle body =>
      body.outlineOnto (⟨depth, (Node.toggleScoped toggle body).label⟩ :: done) (depth + 1)
  | .loop quantifier body =>
      body.outlineOnto (⟨depth, (Node.loop quantifier body).label⟩ :: done) (depth + 1)
  | leaf => ⟨depth, leaf.label⟩ :: done

def Node.outlineAllOnto (done : List OutlineLine) (depth : Nat) : List Node → List OutlineLine
  | [] => done
  | node :: rest => outlineAllOnto (node.outlineOnto done depth) depth rest

end

def Node.outline (node : Node) : List OutlineLine := (node.outlineOnto [] 0).reverse

def GroupInfo.text (group : Nat) (info : GroupInfo) : String :=
  let name := match info.name with
    | some name => " <" ++ name ++ ">"
    | none => ""
  "Group " ++ toString group ++ " at " ++ toString info.offset ++ name ++ "\n"

namespace Pattern

def outline (pattern : Pattern) : String :=
  String.join (pattern.root.outline.map OutlineLine.text) ++
    String.join ((pattern.groups.groups.toList.zipIdx 1).map fun (info, group) => info.text group)

end Pattern

end Specimen
