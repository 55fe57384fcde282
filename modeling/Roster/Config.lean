import Roster.Access.Policy
import Roster.Toml.Reader
import Roster.Toml.Writer

/-!
# Configuration

The configuration says where the store is kept, how the service is reached and which policy is in
force. It is read from a TOML text, in which everything may be left out, and some of it can be
overridden by environment variables.
-/

namespace Roster

/-- The variables of the environment. -/
abbrev Environment := List (String × String)

/-- What can be configured. -/
structure Config where
  /-- The path of the snapshot. -/
  dataPath : String
  defaultPolicy : Option PolicyId := none
  /-- The address on which the service is reached. -/
  apiBind : String := "127.0.0.1:8080"
  /-- The secret with which tokens are signed. -/
  secret : Option String := none
  policy : Policy := []
  deriving DecidableEq, Repr

namespace Config

/-- A name within a folder. -/
def join (folder name : String) : String :=
  if folder.isEmpty then name
  else if folder.toList.getLast? = some '/' then folder ++ name
  else folder ++ "/" ++ name

/-- The folder for the files of this program. -/
def folder (environment : Environment) : String :=
  let home := (environment.lookup "HOME").getD ""
  join (if home.isEmpty then "." else home) ".tenantry"

/-- The path of the configuration file. -/
def path (environment : Environment) : String :=
  (environment.lookup "TENANTRY_CONFIG_PATH").getD (join (folder environment) "config.toml")

/-- The configuration in which nothing is set. -/
def default (environment : Environment) : Config :=
  { dataPath := join (folder environment) "data.json" }

/-! ## Reading -/

/-- A text. -/
def text? : Toml → Option String
  | .text s => some s
  | _ => none

/-- An array of texts. -/
def texts? : Toml → Option (List String)
  | .array items => items.mapM text?
  | _ => none

/-- The value of a name that must be there. -/
def required {α : Type} (entries : Toml.Entries) (name : String) (read : Toml → Option α) :
    Option α :=
  (entries.lookup name).bind read

/-- The value of a name, or a default when it is left out. -/
def defaulted {α : Type} (entries : Toml.Entries) (name : String) (read : Toml → Option α)
    (default : α) : Option α :=
  match entries.lookup name with
  | some value => read value
  | none => some default

/-- A rule in the entries of a table. -/
def ruleOfEntries? (entries : Toml.Entries) : Option PolicyRule := do
  let role ← required entries "role" text?
  let resource ← required entries "resource" text?
  let actions ← defaulted entries "actions" texts? []
  return { role, resource, actions }

/-- A rule, as a table or as an array of what the table would hold; more items do not matter. -/
def rule? : Toml → Option PolicyRule
  | .table _ entries => ruleOfEntries? entries
  | .array (role :: resource :: rest) => do
    let actions ← (rest.head?.map texts?).getD (some [])
    return { role := ← text? role, resource := ← text? resource, actions }
  | _ => none

/-- The rules of a policy. -/
def policy? : Toml → Option Policy
  | .array items => items.mapM rule?
  | .tables elements => elements.mapM ruleOfEntries?
  | _ => none

/-- The configuration in the entries of a text. -/
def ofEntries? (environment : Environment) (entries : Toml.Entries) : Option Config := do
  let unset := default environment
  let defaultPolicy ← defaulted entries "default_policy" (fun v => (text? v).map some) none
  return {
    dataPath := ← defaulted entries "data_path" text? unset.dataPath
    defaultPolicy := defaultPolicy.map Ident.mk
    apiBind := ← defaulted entries "api_bind" text? unset.apiBind
    secret := ← defaulted entries "jwt_secret" (fun v => (text? v).map some) none
    policy := ← defaulted entries "policy_rules" policy? [] }

/-- The configuration that a text describes. -/
def ofText? (environment : Environment) (s : String) : Option Config := do
  ofEntries? environment (← Toml.ofText? s)

/-- The configuration after the environment has been heard; an empty policy means none. -/
def overridden (environment : Environment) (config : Config) : Config where
  dataPath := (environment.lookup "TENANTRY_DATA_PATH").getD config.dataPath
  defaultPolicy :=
    match environment.lookup "TENANTRY_DEFAULT_POLICY" with
    | some policy => if policy.isEmpty then none else some ⟨policy⟩
    | none => config.defaultPolicy
  apiBind := (environment.lookup "TENANTRY_API_BIND").getD config.apiBind
  secret := (environment.lookup "TENANTRY_JWT_SECRET").or config.secret
  policy := config.policy

/-- Why a configuration cannot be loaded. -/
inductive Fault
  /-- There is something in place of the file that is no text. -/
  | unreadable
  /-- The text of the file describes no configuration. -/
  | malformed
  deriving DecidableEq, Repr

/-- The sentence people read. -/
def Fault.message : Fault → String
  | unreadable => "Failed to read config file"
  | malformed => "Failed to parse config file"

/-- The configuration of a file, if there is one, and of the environment. -/
def load (environment : Environment) (file : Option String) : Except Fault Config :=
  match file with
  | some s =>
    match ofText? environment s with
    | some config => .ok (overridden environment config)
    | none => .error .malformed
  | none => .ok (overridden environment (default environment))

/-! ## Writing -/

/-- A rule as a table of its own. -/
def ruleText (rule : PolicyRule) : String :=
  "\n[[policy_rules]]\n" ++ Toml.entryLine "role" (Toml.quote rule.role) ++
    Toml.entryLine "resource" (Toml.quote rule.resource) ++
    Toml.entryLine "actions" (Toml.quoteAll rule.actions)

/-- A line for a value that is set. -/
def optionalLine (key : String) : Option String → String
  | some value => Toml.entryLine key (Toml.quote value)
  | none => ""

/-- The text that describes a configuration. -/
def toText (config : Config) : String :=
  Toml.entryLine "data_path" (Toml.quote config.dataPath) ++
    optionalLine "default_policy" (config.defaultPolicy.map Ident.text) ++
    Toml.entryLine "api_bind" (Toml.quote config.apiBind) ++
    optionalLine "jwt_secret" config.secret ++
    (match config.policy with
      | [] => Toml.entryLine "policy_rules" "[]"
      | rules => String.join (rules.map ruleText))

/-- The configuration without its secret, for people to read. -/
def masked (config : Config) : Config :=
  { config with secret := config.secret.map fun _ => "********" }

end Config

end Roster
