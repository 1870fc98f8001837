import Specimen.Pattern.Basic
import Specimen.Reader.Group
import Specimen.Reader.Repeat
/-!
Patterns as they are written: trees of items together with a spelling of each, the text they make, and the
node and the groups that a reader has to find in it.
-/

namespace Specimen

open Reader

structure Numeral (base : Nat) where
  digits : List Char
  nonempty : digits ≠ []
  isDigit : ∀ c ∈ digits, Text.isDigit base c = true

def Numeral.value {base : Nat} (n : Numeral base) : Nat := Text.numeral base n.digits

structure HexChar extends Numeral 16 where
  short : digits.length ≤ 6
  valid : toNumeral.value.isValidChar

namespace HexChar

def char (h : HexChar) : Char := Char.ofNat h.value

def text (h : HexChar) : List Char := '\\' :: 'u' :: '{' :: (h.digits ++ ['}'])

end HexChar

structure HexRange where
  first : HexChar
  last : HexChar
  ordered : first.char ≤ last.char

namespace HexRange

def interval (r : HexRange) : Interval := ⟨r.first.char.toNat, r.last.char.toNat⟩

def text (r : HexRange) : List Char := r.first.text ++ '-' :: r.last.text

end HexRange

structure WrittenSet where
  ranges : List HexRange
  nonempty : ranges ≠ []
  apart : ranges.Pairwise fun a b => a.interval.last + 1 < b.interval.first

namespace WrittenSet

def set (s : WrittenSet) : CodePointSet := .ofIntervals (s.ranges.map HexRange.interval)

def text (s : WrittenSet) : List Char := '[' :: (s.ranges.flatMap HexRange.text ++ [']'])

end WrittenSet

structure GroupName where
  chars : List Char
  legal : isGroupName chars = true
  isNameChar : ∀ c ∈ chars, Reader.isNameChar c = true

def GroupName.name (n : GroupName) : String := String.ofList n.chars

inductive WrittenRepeat where
  | star
  | plus
  | optional
  | fixed (count : Numeral 10)
  | range (least most : Option (Numeral 10))

namespace WrittenRepeat

def boundText (bound : Option (Numeral 10)) : List Char := (bound.map Numeral.digits).getD []

def text : WrittenRepeat → List Char
  | star => ['*']
  | plus => ['+']
  | optional => ['?']
  | fixed count => '{' :: (count.digits ++ ['}'])
  | range least most => '{' :: (boundText least ++ ',' :: (boundText most ++ ['}']))

def form : WrittenRepeat → RepeatForm
  | star | plus | optional => .symbol
  | fixed _ => .fixed
  | range _ _ => .range

def min : WrittenRepeat → Nat
  | star | optional => 0
  | plus => 1
  | fixed count => count.value
  | range least _ => (least.map Numeral.value).getD 0

def max : WrittenRepeat → Option Nat
  | star | plus => none
  | optional => some 1
  | fixed count => some count.value
  | range _ most => most.map Numeral.value

def isBounded : WrittenRepeat → Bool
  | range none none => false
  | _ => true

def bounds (r : WrittenRepeat) : Except SyntaxError (Nat × Option Nat) :=
  WrittenInterval.bounds ⟨some r.min, r.max, r.form⟩

end WrittenRepeat

def suffixText : Greediness → List Char
  | .greedy => []
  | .lazy => ['?']
  | .possessive => ['+']

def takesSuffix : RepeatForm → Char → Bool
  | .symbol, '?' => true
  | .symbol, '+' => true
  | .range, '?' => true
  | _, _ => false

structure WrittenQuantifier where
  spelling : WrittenRepeat
  greediness : Greediness
  isBounded : spelling.isBounded = true
  small : spelling.min ≤ maxRepeat
  ordered : ∀ max, spelling.max = some max → spelling.min ≤ max ∧ max ≤ maxRepeat
  suffixed : ∀ mark ∈ suffixText greediness, takesSuffix spelling.form mark = true

namespace WrittenQuantifier

def text (q : WrittenQuantifier) : List Char := q.spelling.text ++ suffixText q.greediness

def quantifier (q : WrittenQuantifier) : Quantifier := ⟨q.spelling.min, q.spelling.max, q.greediness⟩

def absorbs (q : WrittenQuantifier) (mark : Char) : Bool :=
  q.greediness == .greedy && takesSuffix q.spelling.form mark

end WrittenQuantifier

namespace Node

def sequence : List Node → Node
  | [] => empty
  | [item] => item
  | items => cat items

def alternation : List Node → Node
  | [branch] => branch
  | branches => alt branches

end Node

/-- An item of a pattern. The contents of a group are the branch `first`, and `more` branches behind a bar
each. -/
inductive Written where
  | char (hex : HexChar)
  | bracket (set : WrittenSet)
  | capture (group : Nat) (name : Option GroupName) (first : List Written)
      (more : List (List Written))
  | nonCapturing (first : List Written) (more : List (List Written))
  | backRef (group : Numeral 10)
  | namedBackRef (group : Nat) (name : GroupName)
  | loop (body : Written) (quantifier : WrittenQuantifier)

namespace Written

def openerText : Option GroupName → List Char
  | none => ['(']
  | some name => '(' :: '?' :: '<' :: (name.chars ++ ['>'])

mutual

def text : Written → List Char
  | char hex => hex.text
  | bracket set => set.text
  | capture _ name first more =>
      openerText name ++ (itemsText first ++ (branchesText more ++ [')']))
  | nonCapturing first more =>
      '(' :: '?' :: ':' :: (itemsText first ++ (branchesText more ++ [')']))
  | backRef group => '\\' :: 'k' :: '<' :: (group.digits ++ ['>'])
  | namedBackRef _ name => '\\' :: 'k' :: '<' :: (name.chars ++ ['>'])
  | loop body quantifier => body.text ++ quantifier.text

def itemsText : List Written → List Char
  | [] => []
  | item :: rest => item.text ++ itemsText rest

def branchesText : List (List Written) → List Char
  | [] => []
  | branch :: more => '|' :: (itemsText branch ++ branchesText more)

end

mutual

def node (icase : Bool) : Written → Node
  | char hex => .char hex.char icase
  | bracket set => .bracket set.set icase
  | capture group name first more =>
      .capture group (name.map GroupName.name)
        (.alternation (.sequence (itemNodes icase first) :: branchNodes icase more))
  | nonCapturing first more =>
      .nonCapturing (.alternation (.sequence (itemNodes icase first) :: branchNodes icase more))
  | backRef group => .backRef group.value none
  | namedBackRef group name => .backRef group (some name.name)
  | loop body quantifier => .loop quantifier.quantifier (body.node icase)

def itemNodes (icase : Bool) : List Written → List Node
  | [] => []
  | item :: rest => item.node icase :: itemNodes icase rest

def branchNodes (icase : Bool) : List (List Written) → List Node
  | [] => []
  | branch :: more => .sequence (itemNodes icase branch) :: branchNodes icase more

end

mutual

def groups (offset : Nat) : Written → List GroupInfo
  | char _ => []
  | bracket _ => []
  | capture _ name first more =>
      let inside := offset + utf8Length (openerText name)
      ⟨name.map GroupName.name, offset⟩ ::
        (itemsGroups inside first ++ branchesGroups (inside + utf8Length (itemsText first)) more)
  | nonCapturing first more =>
      let inside := offset + utf8Length ['(', '?', ':']
      itemsGroups inside first ++ branchesGroups (inside + utf8Length (itemsText first)) more
  | backRef _ => []
  | namedBackRef _ _ => []
  | loop body _ => body.groups offset

def itemsGroups (offset : Nat) : List Written → List GroupInfo
  | [] => []
  | item :: rest => item.groups offset ++ itemsGroups (offset + utf8Length item.text) rest

def branchesGroups (offset : Nat) : List (List Written) → List GroupInfo
  | [] => []
  | branch :: more =>
      let inside := offset + utf8Length ['|']
      itemsGroups inside branch ++ branchesGroups (inside + utf8Length (itemsText branch)) more

end

def bodyNode (icase : Bool) (first : List Written) (more : List (List Written)) : Node :=
  .alternation (.sequence (itemNodes icase first) :: branchNodes icase more)

def bodyGroups (offset : Nat) (first : List Written) (more : List (List Written)) :
    List GroupInfo :=
  itemsGroups offset first ++ branchesGroups (offset + utf8Length (itemsText first)) more

def absorbs : Written → Char → Bool
  | loop _ quantifier, mark => quantifier.absorbs mark
  | _, _ => false

/-- No quantifier starts with a mark that the quantifier before it would absorb. -/
inductive Proper : Written → Prop where
  | char (hex : HexChar) : Proper (.char hex)
  | bracket (set : WrittenSet) : Proper (.bracket set)
  | capture (group : Nat) (name : Option GroupName) {first : List Written}
      {more : List (List Written)} : (∀ item ∈ first, Proper item) →
      (∀ branch ∈ more, ∀ item ∈ branch, Proper item) → Proper (.capture group name first more)
  | nonCapturing {first : List Written} {more : List (List Written)} :
      (∀ item ∈ first, Proper item) → (∀ branch ∈ more, ∀ item ∈ branch, Proper item) →
      Proper (.nonCapturing first more)
  | backRef (group : Numeral 10) : Proper (.backRef group)
  | namedBackRef (group : Nat) (name : GroupName) : Proper (.namedBackRef group name)
  | loop {body : Written} {quantifier : WrittenQuantifier} : Proper body →
      (∀ mark, quantifier.text.head? = some mark → body.absorbs mark = false) →
      Proper (.loop body quantifier)

end Written

structure WrittenPattern where
  first : List Written
  more : List (List Written)

namespace WrittenPattern

def text (p : WrittenPattern) : String :=
  String.ofList (Written.itemsText p.first ++ Written.branchesText p.more)

def root (icase : Bool) (p : WrittenPattern) : Node := Written.bodyNode icase p.first p.more

def groups (p : WrittenPattern) : GroupTable := ⟨(Written.bodyGroups 0 p.first p.more).toArray⟩

structure Proper (p : WrittenPattern) : Prop where
  first : ∀ item ∈ p.first, item.Proper
  more : ∀ branch ∈ p.more, ∀ item ∈ branch, item.Proper

end WrittenPattern

end Specimen
