import Roster.CommandLine.Host
import Roster.Proofs.Courses
import Roster.Proofs.Files
import Roster.Proofs.Grantings

/-!
# Command lines that fail

A command line reads the words, the configuration and the file of the store, carries out one
instruction, and writes the store back. Writing back what has been read is no change, so a failure
leaves every path of the host as it was as long as the instruction leaves the store as it was. All
instructions do so when they fail, except the one that gives several roles within a workspace.
-/

namespace Roster.CommandLine

/-! ## Hosts -/

namespace Host

variable {host : Host} {path : String} {file : Option String}

/-- The host with a text in a file, if there is any text. -/
def keep (host : Host) (path : String) : Option String → Host
  | some contents => host.write path contents
  | none => host

/-- Some path of one host does not read like the same path of another. -/
def Differs (host host' : Host) : Prop :=
  ∃ path, host'.files.look path ≠ host.files.look path

/-- A host reads like itself. -/
theorem not_differs_self (host : Host) : ¬ host.Differs host :=
  fun ⟨_, hpath⟩ => hpath rfl

/-- Keeping what is there anyway changes nothing. -/
theorem not_differs_keep_self (h : host.files.look path = .ofFile file) :
    ¬ host.Differs (host.keep path file) := by
  rintro ⟨other, hother⟩
  cases file with
  | none => exact hother rfl
  | some contents => exact hother (Files.look_write_self h other)

end Host

/-! ## Instructions -/

open Course

/-- The store of a desk. -/
def Desk.store (desk : Desk) : Store :=
  desk.directory.store

namespace Console

variable {α : Type} {action : Action α}

/-- An action at a terminal: its error becomes a refusal. -/
theorem lift_apply (action : Action α) (moment : Moment) (desk : Desk) :
    (liftM action : Console α) moment desk =
      match action.perform moment desk.directory with
      | (.ok value, directory) => .ok value { desk with directory }
      | (.error error, directory) => .error (.refused error) { desk with directory } := by
  change ofAction action moment desk = _
  unfold ofAction Action.perform
  cases action moment desk.directory <;> rfl

/-- A terminal carries actions out. -/
theorem carries_lift (action : Action α) :
    Carries Desk.directory action (liftM action : Console α) where
  ok := fun h => ⟨_, by rw [lift_apply, h], rfl⟩
  error := fun h => ⟨_, _, by rw [lift_apply, h], rfl⟩

/-- Saying lines cannot fail. -/
theorem sure_sayAll (lines : List String) : Sure (sayAll lines) :=
  fun _ _ => ⟨_, _, rfl⟩

/-- What only looks around at a terminal: actions that do, lines that are said, values and failures. -/
inductive Looks : {α : Type} → Console α → Prop
  | lift {α : Type} {action : Action α} (h : action.Looks) : Looks (liftM action)
  | saying (lines : List String) : Looks (sayAll lines)
  | value {α : Type} (a : α) : Looks (pure a)
  | fails {α : Type} (failure : Failure) : Looks (throw failure : Console α)
  | bind {α β : Type} {console : Console α} {f : α → Console β} (h : Looks console)
    (hf : ∀ a, Looks (f a)) : Looks (console >>= f)

/-- Looking around at a terminal does nothing to the store. -/
theorem Looks.quiet {console : Console α} (h : Looks console) : Quiet Desk.store console := by
  induction h with
  | lift hlooks => exact (carries_lift _).quiet hlooks
  | saying lines => exact fun _ _ => rfl
  | value a => exact quiet_pure a
  | fails failure => exact quiet_throw failure
  | bind _ _ ihfirst ihsecond => exact ihfirst.bind ihsecond

end Console

open Console

variable {terms : Terms}

namespace Terms

/-- The terms of a rehearsal. -/
def dry (terms : Terms) : Terms :=
  { terms with dryRun := true }

/-- The terms on which changes are saved. -/
def real (terms : Terms) : Terms :=
  { terms with dryRun := false }

/-- Terms are those of a rehearsal, or those on which changes are saved. -/
theorem eq_dry_or_real (terms : Terms) : terms = terms.dry ∨ terms = terms.real := by
  obtain ⟨_, _, _ | _, _⟩ := terms
  · exact .inr rfl
  · exact .inl rfl

/-- Looking the acting user up is looking around. -/
theorem looks_operator (terms : Terms) : terms.operator.Looks := by
  unfold operator
  split
  · exact .lift (Accounts.looks_operatorFor _ _)
  · exact .fails _

end Terms

namespace Console

/-- What is said in the end, in rehearsal and in earnest: some lines, and that something is done. -/
inductive Closes (terms : Terms) : Console Unit → Console Unit → Prop
  | done (message : String) :
    Closes terms (terms.dry.sayDone message) (terms.real.sayDone message)
  | saying (lines : List String) {dry real : Console Unit} (h : Closes terms dry real) :
    Closes terms (sayAll lines >>= fun _ => dry) (sayAll lines >>= fun _ => real)

/-- What is said in the end cannot fail. -/
theorem Closes.sure {dry real : Console Unit} (h : Closes terms dry real) : Sure dry ∧ Sure real := by
  induction h with
  | done message => exact ⟨sure_sayAll _, sure_sayAll _⟩
  | saying lines _ ih =>
    exact ⟨(sure_sayAll lines).bind fun _ => ih.1, (sure_sayAll lines).bind fun _ => ih.2⟩

/-- What acts once at a terminal, in rehearsal and in earnest: it looks around and is at an end, or it
carries out one action that acts once and closes. -/
inductive ActsOnce (terms : Terms) : Console Unit → Console Unit → Prop
  | looks {console : Console Unit} (h : console.Looks) : ActsOnce terms console console
  | acts {α : Type} {action : Action α} {dry real : α → Console Unit} (h : action.ActsOnce)
    (hclose : ∀ a, Closes terms (dry a) (real a)) :
    ActsOnce terms (liftM action >>= dry) (liftM action >>= real)
  | after {α : Type} {console : Console α} {dry real : α → Console Unit} (h : console.Looks)
    (hf : ∀ a, ActsOnce terms (dry a) (real a)) :
    ActsOnce terms (console >>= dry) (console >>= real)

/-- What acts once leaves the store as it was if it fails. -/
theorem ActsOnce.atomic {dry real : Console Unit} (h : ActsOnce terms dry real) :
    Atomic Desk.store dry ∧ Atomic Desk.store real := by
  induction h with
  | looks h => exact ⟨h.quiet.atomic, h.quiet.atomic⟩
  | acts h hclose =>
    have haction := (carries_lift _).atomic h
    exact ⟨haction.bind_sure fun a => (hclose a).sure.1, haction.bind_sure fun a => (hclose a).sure.2⟩
  | after h _ ih =>
    exact ⟨h.quiet.bind_atomic fun a => (ih a).1, h.quiet.bind_atomic fun a => (ih a).2⟩

end Console

/-- A change of a workspace acts once. -/
theorem actsOnce_changeWorkspace (message : String) {change : Operator → Action Workspace}
    (h : ∀ operator, (change operator).ActsOnce) :
    ActsOnce terms (changeWorkspace terms.dry message change)
      (changeWorkspace terms.real message change) :=
  .after terms.looks_operator fun operator => .acts (h operator) fun _ => .saying _ (.done message)

/-- Taking integrations out acts once, be it one or several. -/
theorem actsOnce_takeIntegrationsOut (id : WorkspaceId) (operator : Operator)
    (integrations : List IntegrationId) :
    (takeIntegrationsOut id operator integrations).ActsOnce := by
  unfold takeIntegrationsOut
  split <;> exact Workspaces.actsOnce_edit rfl _ _ _ _

/-- Every instruction acts once, unless it gives roles within a workspace or has to ask first whether
to go on. -/
theorem actsOnce_carryOut {instruction : Instruction}
    (hother : ∀ user roles workspace, instruction ≠ .assignRoles user roles (some workspace))
    (hconfirmed : ∀ id, instruction ≠ .removeWorkspace id false) :
    ActsOnce terms (carryOut terms.dry instruction) (carryOut terms.real instruction) := by
  cases instruction with
  | signup name email subject =>
    exact .acts (Accounts.actsOnce_signup _ _) fun _ => .saying _ (.saying _ (.done _))
  | searchUser query =>
    refine .looks (terms.looks_operator.bind fun _ => (Looks.lift (Accounts.looks_search _ _)).bind
      fun found => ?_)
    cases found with
    | none => exact .saying _
    | some user => exact .saying _
  | showUser id =>
    refine .looks (terms.looks_operator.bind fun _ => (Looks.lift (Accounts.looks_fetch _ _)).bind
      fun found => ?_)
    cases found with
    | nil => exact .fails _
    | cons user _ => exact .saying _
  | createWorkspace name aliasName owner =>
    exact actsOnce_changeWorkspace _ fun operator => .after (.known _) fun _ =>
      .returning (Workspaces.actsOnce_create _ _ _ _) Prod.fst
  | listWorkspaces =>
    exact .looks (terms.looks_operator.bind fun _ => (Looks.lift (.known _)).bind fun _ =>
      (Looks.lift (Workspaces.looks_findByUser _ _)).bind fun _ => .saying _)
  | showWorkspace id =>
    refine .looks (terms.looks_operator.bind fun _ => (Looks.lift (Workspaces.looks_fetch _ _)).bind
      fun found => ?_)
    cases found with
    | nil => exact .fails _
    | cons ws _ => exact .saying _
  | removeWorkspace id confirmed =>
    cases confirmed with
    | false => exact absurd rfl (hconfirmed id)
    | true =>
      exact .after terms.looks_operator fun operator =>
        .acts (Workspaces.actsOnce_remove id operator) fun _ => .done _
  | addMember id user role =>
    exact actsOnce_changeWorkspace _ fun _ => Workspaces.actsOnce_addUserMember _ _ _
  | removeMembers id users =>
    exact actsOnce_changeWorkspace _ fun _ => Workspaces.actsOnce_removeMultipleUserMembers _ _ _
  | updateWorkspace | transferOwnership | updateMember | addIntegration | updateIntegration =>
    exact actsOnce_changeWorkspace _ fun _ => Workspaces.actsOnce_edit rfl _ _ _ _
  | removeIntegrations id integrations =>
    exact actsOnce_changeWorkspace _ fun _ => actsOnce_takeIntegrationsOut _ _ _
  | createRole name => exact .acts (AccessRoles.actsOnce_create name) fun _ => .saying _ (.done _)
  | renameRole id name => exact .acts (.run rfl _ _) fun _ => .saying _ (.done _)
  | listRoles => exact .looks ((Looks.lift AccessRoles.looks_all).bind fun _ => .saying _)
  | removeRole id => exact .acts (.run rfl _ _) fun _ => .done _
  | assignRoles user roles workspace =>
    cases workspace with
    | none => exact .acts (.run rfl _ _) fun _ => .done _
    | some workspace => exact absurd rfl (hother user roles workspace)
  | listHolders => exact .looks ((Looks.lift Grants.looks_holders).bind fun _ => .saying _)
  | check user resource action workspace =>
    exact .looks ((Looks.lift (Permissions.looks_check _ _ _ _)).bind fun _ => .saying _)
  | showConfig | initConfig => exact .looks (.value ())

/-- An instruction that fails leaves the store as it was, unless it gives roles within a workspace. -/
theorem atomic_carryOut {instruction : Instruction}
    (hother : ∀ user roles workspace, instruction ≠ .assignRoles user roles (some workspace)) :
    Atomic Desk.store (carryOut terms instruction) := by
  by_cases hconfirmed : ∃ id, instruction = .removeWorkspace id false
  · obtain ⟨id, rfl⟩ := hconfirmed
    refine terms.looks_operator.quiet.bind_atomic fun operator => ?_
    have hremove : Atomic Desk.store (do Workspaces.remove id operator
                                         terms.sayDone "Workspace removed" : Console Unit) :=
      ((carries_lift _).atomic (Workspaces.actsOnce_remove id operator)).bind_sure fun _ =>
        sure_sayAll _
    split
    · have hconfirm : Looks (confirm id) := (Looks.saying _).bind fun _ => .fails _
      exact hconfirm.quiet.bind_atomic fun _ => hremove
    · exact hremove
  · have hacts : ActsOnce terms _ _ :=
      actsOnce_carryOut hother fun id h => hconfirmed ⟨id, h⟩
    obtain hterms | hterms := terms.eq_dry_or_real
    · exact hterms ▸ hacts.atomic.1
    · exact hterms ▸ hacts.atomic.2

/-- Roles within a workspace are all granted, or they are cut short. -/
theorem carryOut_assignRoles_error {user : UserId} {roles : List RoleId} {workspace : WorkspaceId}
    {moment : Moment} {desk desk' : Desk} {failure : Failure}
    (h : carryOut terms (.assignRoles user roles (some workspace)) moment desk = .error failure desk') :
    ∃ directory₁, Grants.CutShort user workspace moment desk.directory roles directory₁ ∧
      desk'.store = directory₁.store := by
  simp only [carryOut, bind_apply, lift_apply] at h
  cases hgrants : (grantAll user workspace roles).perform moment desk.directory with
  | mk outcome directory =>
    cases outcome with
    | ok value => rw [hgrants] at h; exact nomatch h
    | error error =>
      rw [hgrants] at h
      cases h
      exact Grants.cutShort_of_grantAll hgrants

/-! ## Runs -/

/-- The moment at which the store of a host is worked on: its file may be in the way. -/
def storeMoment (host : Host) (moment : Moment) (config : Config) : Moment :=
  { moment with writeFault := moment.writeFault.or (host.files.storeFault? config.dataPath) }

/-- A command line gives roles within a workspace and is to save them, but they are cut short: what is
left is the host with the store as the roles before the refused one have made it. -/
inductive GrantsCutShort (host : Host) (moment : Moment) (words : List String) : Host → Prop
  | intro {invocation : Invocation} {user : UserId} {roles : List RoleId} {workspace : WorkspaceId}
    {config : Config} {file : Option String} {store : Store} {directory₁ : Directory}
    (hread : read words = .run invocation)
    (hasked : invocation.instruction = .assignRoles user roles (some workspace))
    (hsaved : invocation.dryRun = false) (hconfig : loadConfig host = .ok config)
    (hfile : host.files.look config.dataPath = .ofFile file)
    (hopen : Store.open? file true = some store)
    (hcut : Grants.CutShort user workspace (storeMoment host moment config) { store } roles
      directory₁) :
    GrantsCutShort host moment words (host.keep config.dataPath directory₁.store.file)

variable {host host' : Host} {moment : Moment} {words : List String} {instruction : Instruction}
  {store : Store} {lines : List String} {config : Config} {invocation : Invocation}
  {file : Option String}

/-- An instruction that fails leaves the store as it was, or it gives roles and they are cut short. -/
theorem operate_cases (h : (operate terms instruction moment store lines).1.exitCode ≠ 0) :
    (operate terms instruction moment store lines).2 = store ∨
      ∃ user roles workspace directory₁, instruction = .assignRoles user roles (some workspace) ∧
        Grants.CutShort user workspace moment { store } roles directory₁ ∧
        (operate terms instruction moment store lines).2 = directory₁.store := by
  unfold operate at *
  cases hends : carryOut terms instruction moment { directory := { store }, lines } with
  | ok value desk =>
    rw [hends] at h
    exact absurd rfl h
  | error failure desk =>
    by_cases hgrants : ∃ user roles workspace, instruction = .assignRoles user roles (some workspace)
    · obtain ⟨user, roles, workspace, rfl⟩ := hgrants
      obtain ⟨directory₁, hcut, hstore⟩ := carryOut_assignRoles_error hends
      exact .inr ⟨user, roles, workspace, directory₁, rfl, hcut, hstore⟩
    · refine .inl (atomic_carryOut (fun user roles workspace hasked => hgrants ?_) _ _ _ _ hends)
      exact ⟨user, roles, workspace, hasked⟩

/-- Grants that are cut short fail on a store. -/
theorem operate_of_cutShort {user : UserId} {roles : List RoleId} {workspace : WorkspaceId}
    {directory₁ : Directory}
    (h : Grants.CutShort user workspace moment { store } roles directory₁) :
    (operate terms (.assignRoles user roles (some workspace)) moment store lines).1.exitCode ≠ 0 ∧
      (operate terms (.assignRoles user roles (some workspace)) moment store lines).2 =
        directory₁.store := by
  obtain ⟨error, directory', hgrants, hstore⟩ := h.grantAll
  simp only [operate, carryOut, bind_apply, lift_apply, hgrants]
  exact ⟨Nat.one_ne_zero, hstore⟩

/-- What an invocation makes of a store that has been opened, and how it ends. -/
def operateOpened (host : Host) (moment : Moment) (config : Config) (invocation : Invocation)
    (store : Store) : Outcome × Store :=
  operate
    { defaultPolicy := config.defaultPolicy, policy := config.policy, dryRun := invocation.dryRun,
      acting := invocation.acting }
    invocation.instruction (storeMoment host moment config) store
    (if invocation.dryRun then [dryRunNotice] else [])

/-- An instruction is carried out on a store that can be opened, and then the store is kept. -/
theorem operateOn_of_open (hopen : Store.open? file (!invocation.dryRun) = some store) :
    operateOn host moment config invocation file =
      ((operateOpened host moment config invocation store).1,
        host.keep config.dataPath (operateOpened host moment config invocation store).2.file) := by
  simp only [operateOn, hopen, operateOpened, storeMoment]
  split <;> rename_i hfile <;> rw [hfile] <;> rfl

/-- A store that is opened keeps what stands in its file. -/
theorem file_of_open {attached : Bool} (h : Store.open? file attached = some store) :
    store.file = file ∧ store.attached = attached := by
  unfold Store.open? at h
  cases hload : Store.load? file with
  | none => exact nomatch hload ▸ h
  | some tables =>
    rw [hload] at h
    cases h
    exact ⟨rfl, rfl⟩

/-- An invocation that fails on the store in a file leaves every path as it was, or it gives roles and
they are cut short. -/
theorem operateOn_cases (hfile : host.files.look config.dataPath = .ofFile file)
    (h : (operateOn host moment config invocation file).1.exitCode ≠ 0) :
    ¬ host.Differs (operateOn host moment config invocation file).2 ∨
      ∃ user roles workspace store directory₁,
        invocation.instruction = .assignRoles user roles (some workspace) ∧
        invocation.dryRun = false ∧ Store.open? file true = some store ∧
        Grants.CutShort user workspace (storeMoment host moment config) { store } roles directory₁ ∧
        (operateOn host moment config invocation file).2 =
          host.keep config.dataPath directory₁.store.file := by
  cases hopen : Store.open? file (!invocation.dryRun) with
  | none =>
    simp only [operateOn, hopen]
    exact .inl host.not_differs_self
  | some store =>
    obtain ⟨hkept, hattached⟩ := file_of_open hopen
    rw [operateOn_of_open hopen] at h ⊢
    obtain hsame | ⟨user, roles, workspace, directory₁, hasked, hcut, hstore⟩ := operate_cases h
    · refine .inl ?_
      rw [operateOpened, hsame, hkept]
      exact Host.not_differs_keep_self hfile
    · rw [operateOpened, hstore]
      cases hdry : invocation.dryRun with
      | false =>
        rw [hdry] at hopen
        exact .inr ⟨user, roles, workspace, store, directory₁, hasked, rfl, hopen, hcut, rfl⟩
      | true =>
        -- A dry run works on a store that is not kept in its file.
        refine .inl ?_
        rw [hcut.file_of_detached (by rw [hattached, hdry]; rfl), hkept]
        exact Host.not_differs_keep_self hfile

/-- What is read at the path of a store as nothing or as a text is a file, or there is none. -/
theorem operateOnHost_of_look (hfile : host.files.look config.dataPath = .ofFile file) :
    operateOnHost host moment config invocation = operateOn host moment config invocation file := by
  cases file <;> rw [operateOnHost, hfile] <;> rfl

/-- Saying what is configured or writing a first configuration changes nothing if it fails. -/
theorem not_differs_initConfig (h : (initConfig host).1.exitCode ≠ 0) :
    ¬ host.Differs (initConfig host).2 := by
  simp only [initConfig] at h ⊢
  split at h
  · exact absurd rfl h
  all_goals exact host.not_differs_self

/-- An invocation that fails leaves every path as it was, or it gives roles and they are cut short. -/
theorem perform_cases (hread : read words = .run invocation)
    (h : (perform host moment invocation).1.exitCode ≠ 0) :
    ¬ host.Differs (perform host moment invocation).2 ∨
      GrantsCutShort host moment words (perform host moment invocation).2 := by
  unfold perform at *
  split at h
  · exact .inl host.not_differs_self
  · exact .inl (not_differs_initConfig h)
  · cases hconfig : loadConfig host with
    | error fault => exact .inl host.not_differs_self
    | ok config =>
      simp only [hconfig] at h ⊢
      obtain ⟨file, hfile⟩ | hunreadable := (host.files.look config.dataPath).eq_ofFile_or
      · rw [operateOnHost_of_look hfile] at h ⊢
        obtain hsame | ⟨user, roles, workspace, store, directory₁, hasked, hsaved, hopen, hcut, hleft⟩ :=
          operateOn_cases hfile h
        · exact .inl hsame
        · rw [hleft]
          exact .inr (.intro hread hasked hsaved hconfig hfile hopen hcut)
      · rw [operateOnHost, hunreadable]
        exact .inl host.not_differs_self

/-- A command line that fails leaves every path as it was, or it gives roles and they are cut short. -/
theorem run_cases (h : (run host moment words).1.exitCode ≠ 0) :
    ¬ host.Differs (run host moment words).2 ∨
      GrantsCutShort host moment words (run host moment words).2 := by
  unfold run at *
  split at h
  · rename_i hread
    exact perform_cases hread h
  all_goals exact .inl host.not_differs_self

/-- Grants that are cut short fail, and what was granted before stays granted. -/
theorem GrantsCutShort.run (h : GrantsCutShort host moment words host') :
    (run host moment words).1.exitCode ≠ 0 ∧ (CommandLine.run host moment words).2 = host' := by
  obtain ⟨hread, hasked, hsaved, hconfig, hfile, hopen, hcut⟩ := h
  rename_i invocation user roles workspace config file store directory₁
  have hperform : CommandLine.run host moment words = operateOn host moment config invocation file := by
    rw [CommandLine.run, hread, ← operateOnHost_of_look hfile]
    simp only [perform, hasked, hconfig]
  rw [hperform, operateOn_of_open (by rw [hsaved]; exact hopen), operateOpened, hasked]
  obtain ⟨hfails, hstore⟩ := operate_of_cutShort hcut
  rw [hstore]
  exact ⟨hfails, rfl⟩

end Roster.CommandLine
