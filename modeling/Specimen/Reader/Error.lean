namespace Specimen.Reader

inductive SyntaxError where
  | unbalancedParenthesis
  | unbalancedBracket
  | unterminatedComment
  | nothingToRepeat
  | misplacedQuantifier
  | repeatTooLarge
  | repeatReversed
  | misplacedStartAnchor
  | misplacedEndAnchor
  | lookahead
  | lookbehind
  | atomicGroup
  | absentOperator
  | conditionalGroup
  | wordBoundary
  | subexpressionCall
  | groupNameUnreadable
  | groupNameInvalid (name : String)
  | tooManyGroups
  | unknownModifier (letter : Char)
  | rangeInvalid
  | rangeReversed (first last : Char)
  | unknownPosixClass (name : String)
  | propertyUnreadable
  | unknownProperty (name : String)
  | incompleteEscape
  | controlEscape
  | metaEscape
  | hexEscape
  | unicodeEscape
  | backRefTooLarge (number : Nat)
  | backRefUnreadable
  | backRefNumber (text : String)
  | unknownGroupName (name : String)
  | groupNotClosed (group : Nat)
  | groupNotDefined (group : Nat)
  deriving DecidableEq, Repr

namespace SyntaxError

def message : SyntaxError → String
  | unbalancedParenthesis => "Unbalanced parenthesis"
  | unbalancedBracket => "Unbalanced bracket"
  | unterminatedComment => "Unterminated comment"
  | nothingToRepeat => "Nothing to repeat"
  | misplacedQuantifier => "Quantifier not allowed here"
  | repeatTooLarge => "Repeat count too large"
  | repeatReversed => "Invalid quantifier: upper bound is smaller than lower bound"
  | misplacedStartAnchor => "Start anchors are only supported at the start of the pattern"
  | misplacedEndAnchor => "End anchors are only supported at the end of the pattern"
  | lookahead => "Lookahead assertions are not supported"
  | lookbehind => "Lookbehind assertions are not supported"
  | atomicGroup => "Atomic groups are not supported"
  | absentOperator => "Absent operators are not supported"
  | conditionalGroup => "Conditional groups are not supported"
  | wordBoundary => "Word boundaries are not supported"
  | subexpressionCall => "Subexpression calls (\\g) are not supported"
  | groupNameUnreadable => "Invalid group name"
  | groupNameInvalid name => "Invalid group name <" ++ name ++ ">"
  | tooManyGroups => "Capture group count limit exceeded"
  | unknownModifier letter => "Invalid group modifier: " ++ letter.toString
  | rangeInvalid => "Invalid character range"
  | rangeReversed first last =>
      "Empty range in character class: " ++ first.toString ++ "-" ++ last.toString
  | unknownPosixClass name => "Invalid POSIX bracket type: " ++ name
  | propertyUnreadable => "Invalid character property name"
  | unknownProperty name => "Invalid character property name \x7b" ++ name ++ "\x7d"
  | incompleteEscape => "Incomplete escape"
  | controlEscape => "Invalid control escape"
  | metaEscape => "Meta escapes are not supported"
  | hexEscape => "Invalid hex escape"
  | unicodeEscape => "Invalid Unicode escape"
  | backRefTooLarge number => "Backreference \\" ++ toString number ++ " too large"
  | backRefUnreadable => "Invalid backreference name"
  | backRefNumber text => "Invalid backreference number <" ++ text ++ ">"
  | unknownGroupName name => "Undefined group name <" ++ name ++ ">"
  | groupNotClosed group =>
      "Backreference \\" ++ toString group ++ " refers to a group that is not closed"
  | groupNotDefined group =>
      "Backreference \\" ++ toString group ++ " refers to a group that is not defined"

end SyntaxError

end Specimen.Reader
