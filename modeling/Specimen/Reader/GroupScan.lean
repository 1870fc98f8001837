import Specimen.Flags
/-!
A scan that counts the capturing groups of a pattern ahead of reading it. It knows escapes, brackets,
comments and option letters, one character at a time.
-/

namespace Specimen.Reader

inductive ScanMode where
  | plain
  /-- Behind a backslash. -/
  | escaped
  /-- Behind the opening mark of a bracket, with its caret yet to come or not. -/
  | bracketStart (caret : Bool)
  | lineComment
  | groupComment
  | groupCommentEscaped
  /-- Behind `(`. -/
  | parenthesis
  /-- Behind `(?`. -/
  | question
  /-- Behind `(?<`. -/
  | angle
  /-- Among option letters: the extended mode they come to, and what a letter does. -/
  | options (extended enable : Bool)
  deriving DecidableEq, Repr

structure GroupScan where
  count : Nat
  bracketDepth : Nat
  extended : Bool
  /-- The extended mode outside each open group, the innermost first. -/
  outer : List Bool
  mode : ScanMode
  deriving DecidableEq, Repr

namespace GroupScan

def start (extended : Bool) : GroupScan := ⟨0, 0, extended, [], .plain⟩

def enterGroup (s : GroupScan) : GroupScan := { s with outer := s.extended :: s.outer }

def leaveGroup (s : GroupScan) : GroupScan :=
  match s.outer with
  | [] => s
  | extended :: outer => { s with extended := extended, outer := outer }

def plainStep (s : GroupScan) (c : Char) : GroupScan :=
  let s := { s with mode := .plain }
  if c = '\\' then { s with mode := .escaped }
  else if c = '[' then
    { s with bracketDepth := s.bracketDepth + 1, mode := .bracketStart true }
  else if 0 < s.bracketDepth then
    if c = ']' then { s with bracketDepth := s.bracketDepth - 1 } else s
  else if c = '#' && s.extended then { s with mode := .lineComment }
  else if c = ')' then s.leaveGroup
  else if c = '(' then { s with mode := .parenthesis }
  else s

def optionStep (s : GroupScan) (extended enable : Bool) (c : Char) : GroupScan :=
  if c = 'x' then { s with mode := .options enable enable }
  else if c = '-' then { s with mode := .options extended false }
  else if c = 'i' || c = 'm' then { s with mode := .options extended enable }
  else if c = ')' then { s with extended := extended, mode := .plain }
  else plainStep { s.enterGroup with extended := extended } c

def step (s : GroupScan) (c : Char) : GroupScan :=
  match s.mode with
  | .plain => s.plainStep c
  | .escaped => { s with mode := .plain }
  | .bracketStart caret =>
      if caret && c = '^' then { s with mode := .bracketStart false }
      else if c = ']' then { s with mode := .plain }
      else s.plainStep c
  | .lineComment => if c = '\n' then { s with mode := .plain } else s
  | .groupComment =>
      if c = '\\' then { s with mode := .groupCommentEscaped }
      else if c = ')' then { s with mode := .plain }
      else s
  | .groupCommentEscaped => { s with mode := .groupComment }
  | .parenthesis =>
      if c = '?' then { s with mode := .question }
      else plainStep { s.enterGroup with count := s.count + 1 } c
  | .question =>
      if c = '#' then { s with mode := .groupComment }
      else if c = '\'' then { s.enterGroup with count := s.count + 1, mode := .plain }
      else if c = '<' then { s.enterGroup with mode := .angle }
      else s.optionStep s.extended true c
  | .angle =>
      if c = '=' || c = '!' then s.plainStep c
      else plainStep { s with count := s.count + 1 } c
  | .options extended enable => s.optionStep extended enable c

/-- The count at the end of the text, where a group may have just been opened. -/
def total (s : GroupScan) : Nat :=
  match s.mode with
  | .parenthesis | .angle => s.count + 1
  | _ => s.count

end GroupScan

def countGroups (flags : Flags) (text : List Char) : Nat :=
  (text.foldl GroupScan.step (.start flags.extended)).total

end Specimen.Reader
