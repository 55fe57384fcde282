import Roster.CommandLine.Level

/-!
# Sorting the words of a command line

A word that begins with a hyphen is a setting unless two hyphens stand before it. A value that
stands in a word of its own is looked at when the next setting or place is reached, or at the end
of the command line; so what is wrong with it may go unnoticed before help is given.
-/

namespace Roster.CommandLine

/-- What has been found at a level. -/
structure Found where
  /-- The settings with their values. -/
  values : List (String × String) := []
  flags : List String := []
  /-- The words in their order. -/
  words : List String := []
  /-- A setting whose value has not been looked at. -/
  pending : Option (Setting × String) := none
  deriving DecidableEq, Repr

namespace Found

/-- Add a setting and its value, which must be one for it; each setting is given at most once. -/
def addValue? (found : Found) (setting : Setting) (value : String) : Option Found :=
  if (found.values.lookup setting.name).isSome || !setting.accepts value then none
  else some { found with values := found.values ++ [(setting.name, value)] }

/-- Add a flag; each one is given at most once. -/
def addFlag? (found : Found) (name : String) : Option Found :=
  if name ∈ found.flags then none else some { found with flags := found.flags ++ [name] }

/-- Add the value that has not been looked at. -/
def settle? (found : Found) : Option Found :=
  match found.pending with
  | some (setting, value) => { found with pending := none }.addValue? setting value
  | none => some found

end Found

/-- How the reading of a level ends. -/
inductive Ending
  /-- The command line is at its end. -/
  | ended (found : Found)
  /-- A command leads to the next level. -/
  | entered (command : String) (rest : List String) (found : Found)
  | version
  | help (rest : List String)
  /-- Something may not stand where it stands. -/
  | refused
  deriving DecidableEq, Repr

/-- What a single word is. -/
inductive Kind
  | command
  /-- The command that asks for help. -/
  | helpCommand
  /-- Two hyphens, after which no word is a setting. -/
  | separator
  | flag (name : String)
  /-- A setting whose value is the next word. -/
  | setting (setting : Setting)
  /-- A setting that brings its value along. -/
  | assignment (setting : Setting) (value : String)
  | word
  | version
  | help
  | unknown

/-- Whether a word cannot be the value of the setting before it. -/
def isHyphenated (word : String) : Bool :=
  match word.toList with
  | '-' :: _ :: _ => true
  | _ => false

namespace Level

/-- What a setting with two hyphens is, given what follows the hyphens. -/
def kindOfLong (level : Level) (body : List Char) : Kind :=
  match body.span (· ≠ '=') with
  | (name, []) =>
    let name := String.ofList name
    match level.setting? name with
    | some setting => if setting.value.isSome then .setting setting else .flag name
    | none =>
      if name = "help" && level.hasHelp then .help
      else if name = "version" && level.hasVersion then .version
      else .unknown
  | (name, _ :: value) =>
    match level.setting? (String.ofList name) with
    | some setting =>
      if setting.value.isSome then .assignment setting (String.ofList value) else .unknown
    | none => .unknown

/-- What a word is at this level. -/
def kindOf (level : Level) (word : String) : Kind :=
  if level.hasCommand word then .command
  else if word = "help" && !level.commands.isEmpty then .helpCommand
  else
    match word.toList with
    | ['-', '-'] => .separator
    | '-' :: '-' :: body => level.kindOfLong body
    | '-' :: 'h' :: _ => if level.hasHelp then .help else .unknown
    | '-' :: 'V' :: _ => if level.hasVersion then .version else .unknown
    | '-' :: _ :: _ => .unknown
    | _ => .word

/-- Take the words that are left as they are. -/
def takeWords (level : Level) : Found → List String → Ending
  | found, [] => .ended found
  | found, word :: rest =>
    if level.hasPlace found.words.length then
      level.takeWords { found with words := found.words ++ [word] } rest
    else .refused

/-- Sort the words of this level. -/
def scan (level : Level) : Found → List String → Ending
  | found, [] =>
    match found.settle? with
    | some found => .ended found
    | none => .refused
  | found, word :: rest =>
    match level.kindOf word, found.settle? with
    | .command, _ => .entered word rest found
    | .helpCommand, _ => .help rest
    | _, none => .refused
    | .separator, some found => level.takeWords found rest
    | .flag name, some found =>
      match found.addFlag? name with
      | some found => level.scan found rest
      | none => .refused
    | .assignment setting value, some found =>
      match found.addValue? setting value with
      | some found => level.scan found rest
      | none => .refused
    | .setting setting, some found =>
      match rest with
      | value :: rest =>
        if isHyphenated value then .refused
        else level.scan { found with pending := some (setting, value) } rest
      | [] => .refused
    | .word, some found =>
      if level.hasPlace found.words.length then
        level.scan { found with words := found.words ++ [word] } rest
      else .refused
    | .version, some _ => .version
    | .help, some _ => .help []
    | .unknown, some _ => .refused

end Level

end Roster.CommandLine
