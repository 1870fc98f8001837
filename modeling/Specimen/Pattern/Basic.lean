import Specimen.Pattern.Node
import Specimen.Pattern.Groups

namespace Specimen

structure Pattern where
  root : Node
  flags : Flags
  groups : GroupTable

namespace Pattern

def groupCount (pattern : Pattern) : Nat := pattern.groups.count

def groupName? (pattern : Pattern) (group : Nat) : Option String := pattern.groups.name? group

def groupNames (pattern : Pattern) : List (Option String) :=
  pattern.groups.groups.toList.map (·.name)

end Pattern

end Specimen
