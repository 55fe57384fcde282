import Roster.CommandLine.Invocation

/-!
# Asking for a dry run

Any command line can be made a dry run by writing the flag in front of it. Level by level, nothing else
is found than before, and the flag can be given in front because it is not given at the first level
already.
-/

namespace Roster.CommandLine

namespace Found

variable {found found' : Found}

end Found

namespace Level

variable {level : Level}

end Level

/-! ## What a command line turns out to be -/

variable {invocation : Invocation} {found : Found} {words : List String}

/-- The same invocation as a dry run. -/
def Invocation.dry (invocation : Invocation) : Invocation :=
  { invocation with dryRun := true }

/-- Read what follows the name of a command or of a group of commands. -/
def readEntry (name : String) (rest : List String) (found : Found) : Reading :=
  match entries.lookup name with
  | some (.leaf leaf) => descend found fun found => readLeaf [name] leaf [found] rest
  | some (.group bare leaves) => descend found fun found => readGroup name bare leaves [found] rest
  | none => .refused

end Roster.CommandLine
