import Roster.Role

/-!
# What may stand on a command line

A command line is read level by level. At each level there are settings, and either commands, one
of which leads to the next level, or places for words.
-/

namespace Roster.CommandLine

/-- Something that can be set at a level. -/
structure Setting where
  name : String
  /-- What the value is called; a setting without one is a flag. -/
  value : Option String := none
  about : String := ""
  /-- The value when it is left out. -/
  default : Option String := none
  required : Bool := false
  /-- Whether the value has to be a role. -/
  isRole : Bool := false
  deriving DecidableEq, Repr

namespace Setting

/-- A setting with a value. -/
def valued (name value : String) (about : String := "") : Setting :=
  { name, value := some value, about }

/-- Whether a value is one for this setting. -/
def accepts (setting : Setting) (value : String) : Bool :=
  !setting.isRole || (Role.parse value).isOk

end Setting

/-- The settings that concern every command. -/
def sharedSettings : List Setting :=
  [{ name := "dry-run", about := "Dry-run mode: run against the store without saving changes" },
   .valued "as" "ACTING" "User id to act as"]

/-- A place for words. -/
structure Place where
  name : String
  about : String := ""
  required : Bool := true
  /-- Whether there is place for any number of words. -/
  many : Bool := false
  deriving DecidableEq, Repr

/-- What may stand at one level of a command line. -/
structure Level where
  about : String := ""
  settings : List Setting := sharedSettings
  places : List Place := []
  /-- The commands that lead to the next level, and what they are about. -/
  commands : List (String × String) := []
  /-- Whether there has to be a command where there are some. -/
  commandRequired : Bool := true
  /-- Whether help can be asked for. -/
  hasHelp : Bool := true
  /-- Whether the version can be asked for. -/
  hasVersion : Bool := false
  deriving DecidableEq, Repr

namespace Level

/-- The setting of a name. -/
def setting? (level : Level) (name : String) : Option Setting :=
  level.settings.find? fun setting => setting.name = name

/-- Whether there is place for one word more than some number. -/
def hasPlace (level : Level) (count : Nat) : Bool :=
  level.places.any Place.many || count < level.places.length

/-- Whether a word is one of the commands. -/
def hasCommand (level : Level) (word : String) : Bool :=
  level.commands.any fun command => command.1 = word

end Level

end Roster.CommandLine
