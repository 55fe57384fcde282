import Roster.CommandLine.Level

/-!
# How a command is used

Help says what a command is about, shows what may follow it and lists its commands, its places for
words and its settings, each in two columns.
-/

namespace Roster.CommandLine

/-- A line with an entry in a first column of some width. -/
def row (width : Nat) (entry : String × String) : String :=
  "  " ++ entry.1 ++ String.ofList (List.replicate (width + 2 - entry.1.length) ' ') ++ entry.2

/-- A heading and the lines below it, or nothing if there are none. -/
def block? (heading : String) (entries : List (String × String)) : Option (List String) :=
  if entries.isEmpty then none
  else
    let width := entries.foldl (fun width entry => max width entry.1.length) 2
    some ((heading ++ ":") :: entries.map (row width))

/-- How a setting is written. -/
def Setting.usage (setting : Setting) : String :=
  match setting.value with
  | some value => "--" ++ setting.name ++ " <" ++ value ++ ">"
  | none => "--" ++ setting.name

/-- What a setting is about, and its value when it is left out. -/
def Setting.description (setting : Setting) : String :=
  match setting.default with
  | some value =>
    let preset := "[default: " ++ value ++ "]"
    if setting.about.isEmpty then preset else setting.about ++ " " ++ preset
  | none => setting.about

/-- How a place is written. -/
def Place.usage (place : Place) : String :=
  (if place.required then "<" ++ place.name ++ ">" else "[" ++ place.name ++ "]") ++
    (if place.many then "..." else "")

namespace Level

/-- The entries of a level's commands; help is the last one. -/
def commandEntries (level : Level) : List (String × String) :=
  if level.commands.isEmpty then []
  else level.commands ++ [("help", "Print this message or the help of the given subcommand(s)")]

/-- The settings of a level: the shared ones among its own, by position and then by name. -/
def orderedSettings (level : Level) : List Setting :=
  let own := level.settings.filter (· ∉ sharedSettings)
  let shared := level.settings.filter (· ∈ sharedSettings)
  let before (a b : Setting × Nat) : Bool :=
    a.2 < b.2 || (a.2 = b.2 && a.1.name ≤ b.1.name)
  ((own.zipIdx ++ shared.zipIdx).mergeSort before).map (·.1)

/-- The entries of what can be set and asked for. -/
def settingEntries (level : Level) : List (String × String) :=
  level.orderedSettings.map (fun setting => ("    " ++ setting.usage, setting.description)) ++
    (if level.hasHelp then [("-h, --help", "Print help")] else []) ++
    (if level.hasVersion then [("-V, --version", "Print version")] else [])

/-- What follows the names of the commands that lead to a level. -/
def usage (level : Level) : List String :=
  (if level.settings.any fun setting => !setting.required then ["[OPTIONS]"] else []) ++
    (level.settings.filter Setting.required).map Setting.usage ++
    level.places.map Place.usage ++
    (if level.commands.isEmpty then []
      else if level.commandRequired then ["<COMMAND>"] else ["[COMMAND]"])

/-- The lines that tell how the level behind some commands is used. -/
def help (level : Level) (program : String) (path : List String) : List String :=
  let sections := [block? "Commands" level.commandEntries,
    block? "Arguments" (level.places.map fun place => (place.usage, place.about)),
    block? "Options" level.settingEntries].filterMap id
  (if level.about.isEmpty then [] else [level.about, ""]) ++
    ("Usage: " ++ " ".intercalate (program :: path ++ level.usage)) ::
    sections.flatMap fun lines => "" :: lines

/-- The level behind the command that asks for help. -/
def ofHelp : Level where
  about := "Print this message or the help of the given subcommand(s)"
  settings := []
  places := [{
    name := "COMMAND"
    about := "Print help for the subcommand(s)"
    required := false
    many := true }]
  hasHelp := false

end Level

end Roster.CommandLine
