namespace Specimen

def maxGroups : Nat := 65535

/-- A capturing group: its name, if it has one, and the byte offset of its opening parenthesis. -/
structure GroupInfo where
  name : Option String
  offset : Nat
  deriving DecidableEq, Repr

/-- The capturing groups of a pattern in the order of their opening parentheses, counted from one. -/
structure GroupTable where
  groups : Array GroupInfo
  deriving DecidableEq, Repr

namespace GroupTable

instance : EmptyCollection GroupTable := ⟨⟨#[]⟩⟩

def count (table : GroupTable) : Nat := table.groups.size

def push (table : GroupTable) (info : GroupInfo) : GroupTable := ⟨table.groups.push info⟩

theorem count_push (table : GroupTable) (info : GroupInfo) :
    (table.push info).count = table.count + 1 := by
  simp [count, push]

def get? (table : GroupTable) : (group : Nat) → Option GroupInfo
  | 0 => none
  | n + 1 => table.groups[n]?

theorem get?_push (table : GroupTable) (info : GroupInfo) (group : Nat) :
    (table.push info).get? group =
      if group = table.count + 1 then some info else table.get? group := by
  cases group with
  | zero => simp [get?]
  | succ n => simp [get?, push, count, Array.getElem?_push]

def name? (table : GroupTable) (group : Nat) : Option String :=
  (table.get? group).bind (·.name)

def lastNamed? (table : GroupTable) (name : String) : (n : Nat) → Option Nat
  | 0 => none
  | n + 1 => if table.name? (n + 1) = some name then some (n + 1) else table.lastNamed? name n

theorem name?_of_lastNamed? {table : GroupTable} {name : String} {n group : Nat}
    (h : table.lastNamed? name n = some group) : table.name? group = some name := by
  induction n with
  | zero => simp [lastNamed?] at h
  | succ n ih =>
      simp only [lastNamed?] at h
      split at h
      · next hn => cases h; exact hn
      · exact ih h

def find? (table : GroupTable) (name : String) : Option Nat :=
  table.lastNamed? name table.count

end GroupTable

end Specimen
