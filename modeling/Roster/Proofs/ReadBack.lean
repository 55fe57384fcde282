import Roster.Proofs.Isolation
import Roster.Proofs.PersonalWorkspaces
import Roster.Proofs.Settlements
import Roster.Proofs.Visibility

/-!
# What is saved and what is loaded

A workspace that is loaded goes through the same door as a new one: it needs an id and, if it is
personal, a sole owner, its name loses its blank ends, and one without a name is untitled. Of all
changes to a workspace only a new name can conflict with this, as it is taken verbatim.
-/

namespace Roster

open Time (Instant)

/-! ## Mutations -/

namespace Workspace

/-- A change that a workspace offers, with its arguments. -/
inductive Mutation
  | rename (name : String)
  | updateAlias (aliasName : String)
  | updateEmail (email : String)
  | updateProfile (profile : WorkspaceProfile)
  | setPolicy (policy : Option PolicyId)
  | join (user : UserId) (role : Option Role) (invitedBy : UserId)
  | leave (user : UserId)
  | updateUserRole (user : UserId) (role : Role)
  | addIntegration (integration : IntegrationId) (role : Option Role) (invitedBy : UserId)
  | updateIntegrationRole (integration : IntegrationId) (role : Role)
  | deleteIntegration (integration : IntegrationId)
  | deleteIntegrations (integrations : List IntegrationId)

namespace Mutation

/-- Make the change at some time, if the workspace allows it. -/
def on (now : Instant) (ws : Workspace) : Mutation → Except Error Workspace
  | rename name => .ok (ws.rename now name)
  | updateAlias aliasName => .ok (ws.updateAlias now aliasName)
  | updateEmail email => .ok (ws.updateEmail now email)
  | updateProfile profile => .ok (ws.updateProfile now profile)
  | setPolicy policy => .ok (ws.setPolicy now policy)
  | join user role invitedBy => ws.join now user role invitedBy
  | leave user => ws.leave now user
  | updateUserRole user role => ws.updateUserRole now user role
  | addIntegration integration role invitedBy => ws.addIntegration now integration role invitedBy
  | updateIntegrationRole integration role => ws.updateIntegrationRole now integration role
  | deleteIntegration integration => ws.deleteIntegration now integration
  | deleteIntegrations integrations => ws.deleteIntegrations now integrations

/-- The name that a change gives. -/
def name? : Mutation → Option String
  | rename name => some name
  | _ => none

end Mutation

/-- A workspace after some changes, each made at its time; one that is refused changes nothing. -/
def mutated (ws : Workspace) (changes : List (Instant × Mutation)) : Workspace :=
  changes.foldl (fun ws change => (change.2.on change.1 ws).toOption.getD ws) ws

/-- The name that the last of some changes to give one gives. -/
def lastName? (changes : List (Instant × Mutation)) : Option String :=
  changes.reverse.findSome? fun change => change.2.name?

/-- A workspace has been changed in nothing that loading it looks at, unless it was given a name: it
has kept its id, its users if they are fixed, and whether they are. -/
structure Retains (given : Option String) (ws ws' : Workspace) : Prop where
  id : ws'.id = ws.id
  name : ws'.name = given.getD ws.name
  fixed : ws'.members.fixed = ws.members.fixed
  users : ws.members.fixed = true → ws'.members.users = ws.members.users

variable {ws ws' ws'' : Workspace} {given given' : Option String} {now : Instant}

namespace Retains

/-- A workspace that is not changed retains everything. -/
theorem refl (ws : Workspace) : ws.Retains none ws :=
  ⟨rfl, rfl, rfl, fun _ => rfl⟩

/-- What is retained by one change and the next is retained by both; a later name counts more. -/
theorem trans (h : ws.Retains given ws') (h' : ws'.Retains given' ws'') :
    ws.Retains (given'.or given) ws'' where
  id := h'.id.trans h.id
  name := by
    rw [h'.name, h.name]
    cases given' <;> rfl
  fixed := h'.fixed.trans h.fixed
  users := fun hfixed => (h'.users (h.fixed.trans hfixed)).trans (h.users hfixed)

/-- A change of members retains what it should if it leaves fixed users alone. -/
theorem of_changeMembers {change : Members → Except Error Members}
    (hsteady : ∀ {members members'}, change members = .ok members' → members.Steady members')
    (h : ws.changeMembers now change = .ok ws') : ws.Retains none ws' := by
  obtain ⟨members, hmembers, rfl⟩ := changeMembers_eq_ok.1 h
  exact ⟨rfl, rfl, (hsteady hmembers).fixed, (hsteady hmembers).users⟩

/-- What was fit to be given out stays so. -/
theorem restorable (h : ws.Retains given ws') (hws : ws.Restorable) : ws'.Restorable := by
  refine ⟨h.id ▸ hws.1, fun hpersonal => ?_⟩
  have hfixed : ws.members.fixed = true := h.fixed.symm.trans hpersonal
  have hsole := hws.2 hfixed
  unfold soleOwner Members.count Members.usersByRole at hsole ⊢
  rwa [h.users hfixed]

end Retains

/-- A change that is made retains everything but the name, and that unless it gives one. -/
theorem Mutation.retains {mutation : Mutation} (h : mutation.on now ws = .ok ws') :
    ws.Retains mutation.name? ws' := by
  cases mutation with
  | rename | updateAlias | updateEmail | updateProfile | setPolicy =>
    obtain rfl := Except.ok.inj h
    exact ⟨rfl, rfl, rfl, fun _ => rfl⟩
  | join user role invitedBy =>
    exact .of_changeMembers Members.steady_of_join h
  | leave user =>
    exact .of_changeMembers Members.steady_of_leave h
  | updateUserRole user role =>
    exact .of_changeMembers Members.steady_of_updateUserRole h
  | addIntegration integration role invitedBy =>
    exact .of_changeMembers (fun hadd => .inl (Members.sameUsers_of_addIntegration hadd)) h
  | updateIntegrationRole integration role =>
    exact .of_changeMembers
      (fun hupdate => .inl (Members.sameUsers_of_updateIntegrationRole hupdate)) h
  | deleteIntegration integration =>
    exact .of_changeMembers (fun hdelete => .inl (Members.sameUsers_of_deleteIntegration hdelete)) h
  | deleteIntegrations integrations =>
    exact .of_changeMembers
      (fun hdelete => .inl (Members.sameUsers_of_deleteIntegrations hdelete)) h

/-- A change that is refused gives no name. -/
theorem Mutation.name?_of_refused {mutation : Mutation} {error : Error}
    (h : mutation.on now ws = .error error) : mutation.name? = none := by
  cases mutation with
  | rename => exact nomatch h
  | _ => rfl

/-- The first of some changes gives the name if no later one does. -/
theorem lastName?_cons (change : Instant × Mutation) (rest : List (Instant × Mutation)) :
    lastName? (change :: rest) = (lastName? rest).or change.2.name? := by
  simp only [lastName?, List.reverse_cons, List.findSome?_append, List.findSome?_cons,
    List.findSome?_nil]
  cases change.2.name? <;> rfl

/-- Changes in whatever number retain everything but the name, and that unless one of them gives
one; then it is the one given last. -/
theorem retains_mutated (ws : Workspace) (changes : List (Instant × Mutation)) :
    ws.Retains (lastName? changes) (ws.mutated changes) := by
  induction changes generalizing ws with
  | nil => exact .refl ws
  | cons change rest ih =>
    rw [lastName?_cons]
    change ws.Retains _ (mutated ((change.2.on change.1 ws).toOption.getD ws) rest)
    cases hon : change.2.on change.1 ws with
    | ok ws' => exact (Mutation.retains hon).trans (ih ws')
    | error error =>
      rw [Mutation.name?_of_refused hon]
      exact (Retains.refl ws).trans (ih ws)

/-! ## Names -/

/-- A name that is not empty and has no blank ends. -/
def Tidy (name : String) : Prop :=
  name ≠ "" ∧ Text.trim name = name

instance (name : String) : Decidable (Tidy name) :=
  inferInstanceAs (Decidable (_ ∧ _))

/-- The tidy names are those that do not change when they are given to a workspace that is built. -/
theorem titled_eq_self_iff {name : String} : titled name = name ↔ Tidy name := by
  unfold titled Tidy
  dsimp only
  split
  · rename_i hblank
    rw [String.isEmpty_iff] at hblank
    refine iff_of_false ?_ ?_
    · rintro rfl
      exact absurd hblank (by decide)
    · rintro ⟨hsome, htrim⟩
      exact hsome (htrim.symm.trans hblank)
  · rename_i hsome
    refine ⟨fun htrim => ⟨?_, htrim⟩, And.right⟩
    rintro rfl
    exact hsome (String.isEmpty_iff.2 htrim)

/-- A workspace loses nothing by a tidied name exactly when its name is tidied already. -/
theorem withTitled_eq_self_iff (ws : Workspace) :
    { ws with name := titled ws.name } = ws ↔ titled ws.name = ws.name := by
  constructor
  · intro hsame
    have hname := congrArg Workspace.name hsame
    dsimp only at hname
    exact hname
  · intro hname
    rw [hname]

/-- The name of a workspace that is built is tidy. -/
theorem titled_of_build {plan : Plan} (h : plan.build now = .ok ws) : titled ws.name = ws.name := by
  obtain ⟨id, members, -, -, -, -, hws⟩ := build_eq_ok.1 h
  have hname : ws.name = titled (plan.name.getD "") := by rw [hws]
  rw [hname, titled_titled]

/-- The name of a workspace that is given out is tidy. -/
theorem titled_of_restore (h : ws.restore = .ok ws') : titled ws'.name = ws'.name := by
  obtain ⟨-, hws'⟩ := restore_eq_ok.1 h
  have hname : ws'.name = titled ws.name := by rw [hws']
  rw [hname, titled_titled]

/-- A workspace whose name was tidy has a tidy name unless it was given one that is not. -/
theorem Retains.titled_eq_self_iff (h : ws.Retains given ws') (hname : titled ws.name = ws.name) :
    titled ws'.name = ws'.name ↔ ∀ name, given = some name → Tidy name := by
  rw [h.name]
  cases given with
  | none => simpa using hname
  | some name => simpa using Workspace.titled_eq_self_iff

end Workspace

/-- A workspace is stored as it is and fit to be given out, and its name is tidy unless it was given
one that is not. -/
structure Workspace.Stored (ws : Workspace) (given : Option String) (t : Tables) : Prop where
  row : t.workspaces.get? ws.id = some ws
  restorable : ws.Restorable
  name : Workspace.titled ws.name = ws.name ↔ ∀ name, given = some name → Workspace.Tidy name

/-- A workspace that retains what loading looks at of one that is given out may be filed. -/
theorem Workspace.Stored.of_shows {t : Tables} {id : WorkspaceId} {ws ws' : Workspace}
    {given : Option String} (hshows : t.Shows id ws) (hretains : ws.Retains given ws')
    (base : Tables) : ws'.Stored given (base.fileWorkspace ws') := by
  obtain ⟨row, -, hrestore⟩ := hshows
  exact ⟨Tables.get?_fileWorkspace.2 (.inl ⟨rfl, rfl⟩),
    hretains.restorable (Workspace.restorable_of_restore hrestore),
    hretains.titled_eq_self_iff (Workspace.titled_of_restore hrestore)⟩

/-! ## Through one session -/

namespace Hub

variable {hub : Hub} {session : Session} {moment : Moment} {t t' : Tables} {command : Command}
variable {ws ws' ws'' : Workspace}

/-- A command that the tables allow which a session sees is carried out through the session, if the
snapshot can be written, and then the session sees what the command has made of the tables. -/
theorem tell_of_seen (hseen : hub.seen session = .ok t) (hwritable : hub.store.Writable moment)
    (hon : command.on t = .ok t') :
    ∃ hub', hub.tell moment session command = .ok hub' ∧ hub'.seen session = .ok t' := by
  obtain hplain | ⟨number, tx, htx, hsession⟩ | ⟨error, hforeign⟩ := hub.transactionOf_cases session
  · rw [seen, hplain] at hseen
    obtain rfl := Except.ok.inj hseen
    refine ⟨{ hub with store := hub.store.holding t' }, ?_, ?_⟩
    · rw [tell_of_plain_eq moment hplain, hon]
      exact congrArg (Except.map _) (Store.commit_of_writable hwritable t')
    · have hplain' :
          transactionOf { hub with store := hub.store.holding t' } session = .ok none := hplain
      rw [seen, hplain']
      rfl
  · rw [seen, hsession] at hseen
    obtain rfl : tx.draft.tables = t := Except.ok.inj hseen
    have happlies : Draft.tables <$> command.apply tx.draft = .ok t' :=
      (Draft.map_tables_apply command tx.draft).trans hon
    obtain ⟨draft, happly, rfl⟩ := map_eq_ok.1 happlies
    let hub' : Hub := { hub with transactions := hub.transactions.set number { tx with draft } }
    have htx' : hub'.transactions[number]? = some { tx with draft } :=
      List.getElem?_set_self (List.getElem?_eq_some_iff.1 htx).1
    refine ⟨hub', ?_, ?_⟩
    · rw [tell_of_transaction moment hsession, happly]
      rfl
    · have hown : session = hub.session number := session_of_transactionOf hsession
      have hsession' : hub'.transactionOf session = .ok (some (number, { tx with draft })) :=
        hown ▸ transactionOf_session htx'
      rw [seen, hsession']
      rfl
  · rw [seen, hforeign] at hseen
    exact nomatch hseen

/-- A workspace that is saved through a session is found there as another one. -/
def ReadsBack (hub : Hub) (moment : Moment) (session : Session) (ws ws' : Workspace) : Prop :=
  ∃ hub', hub.tell moment session (.saveWorkspaces .none [ws]) = .ok hub' ∧
    hub'.ask session (.workspace .none ws.id) = .ok ws'

/-- What a workspace is found as is one thing. -/
theorem ReadsBack.unique (h : hub.ReadsBack moment session ws ws')
    (h' : hub.ReadsBack moment session ws ws'') : ws' = ws'' := by
  obtain ⟨hub₁, htell, hask⟩ := h
  obtain ⟨hub₂, htell', hask'⟩ := h'
  obtain rfl := Except.ok.inj (htell.symm.trans htell')
  exact Except.ok.inj (hask.symm.trans hask')

/-- A workspace that is fit to be given out is found as it was saved, under its name
as a workspace that is built bears it. -/
theorem readsBack_of_restorable (hseen : hub.seen session = .ok t)
    (hwritable : hub.store.Writable moment) (hws : ws.Restorable) :
    hub.ReadsBack moment session ws { ws with name := Workspace.titled ws.name } := by
  have hon : (Command.saveWorkspaces .none [ws]).on t = .ok (t.fileWorkspace ws) := rfl
  obtain ⟨hub', htell, hseen'⟩ := tell_of_seen hseen hwritable hon
  refine ⟨hub', htell, ask_eq_ok.2 ⟨_, hseen', Query.answer_workspace.2 ?_⟩⟩
  exact ⟨ws, Tables.get?_fileWorkspace.2 (.inl ⟨rfl, rfl⟩), Workspace.restore_eq_ok.2 ⟨hws, rfl⟩⟩

end Hub

/-! ## Through the operations on workspaces -/

namespace Workspaces

open Program

variable {ids : Nat → String} {s s' : Draft × Nat} {operator : Operator} {moment : Moment}
  {directory directory' : Directory} {id : WorkspaceId} {ws ws' : Workspace}
  {given : Option String}

/-- Applying the default policy changes nothing that loading looks at. -/
theorem retains_withDefaultPolicy (operator : Operator) (now : Instant) (ws : Workspace) :
    ws.Retains none (withDefaultPolicy operator now ws) := by
  rw [withDefaultPolicy_eq]
  exact ⟨rfl, rfl, rfl, fun _ => rfl⟩

/-- A workspace that is rearranged retains everything that loading looks at. -/
theorem retains_of_rearranged {now : Instant} (h : ws.Rearranged operator now ws') :
    ws.Retains none ws' := by
  obtain ⟨regrouped, ⟨hsteady, hrest⟩, rfl⟩ := h
  have hregrouped : ws.Retains none regrouped := by
    rw [hrest]
    exact ⟨rfl, rfl, hsteady.fixed, hsteady.users⟩
  exact hregrouped.trans (retains_withDefaultPolicy operator now regrouped)

/-- A new workspace is stored as it is returned. -/
theorem stored_of_create {name aliasName : String} {firstUser : UserId} {held : Operator}
    (h : (create name aliasName firstUser operator).perform moment directory =
      (.ok (ws, held), directory')) :
    ws.Stored none directory'.store.tables := by
  obtain ⟨user, id, -, -, -, -, -, hbuild, htables⟩ := create_inversion h
  rw [htables]
  exact ⟨Tables.get?_fileWorkspace.2 (.inl ⟨rfl, rfl⟩), Workspace.restorable_of_build hbuild,
    iff_of_true (Workspace.titled_of_build hbuild) nofun⟩

end Workspaces

namespace Operation

/-- The name that an operation gives to a workspace that is there. -/
def newName? : Operation → Option String
  | updateWorkspace _ change => change.name
  | _ => none

variable {operator reader : Operator} {operation : Operation} {action : Action Workspace}
  {moment : Moment} {directory directory' : Directory} {ws : Workspace} {user : UserId}

/-- What an operation makes of a workspace retains everything but the name, and that unless it gives
one. -/
theorem retains_of_makes {now : Instant} {ws' : Workspace} (h : operation.Makes operator now ws ws') :
    ws.Retains operation.newName? ws' := by
  cases operation with
  | updateWorkspace id change =>
    obtain rfl : ws' = change.made operator now ws := h
    exact ⟨rfl, rfl, rfl, fun _ => rfl⟩
  | _ => exact Workspaces.retains_of_rearranged h

/-- The workspace that an operation returns is the stored one. -/
theorem stored_of_returned (hreturned : operation.returned? operator = some action)
    (h : action.perform moment directory = (.ok ws, directory')) :
    ws.Stored operation.newName? directory'.store.tables := by
  obtain ⟨id, -, hshows, hmade, -, htables⟩ | ⟨name, aliasName, firstUser, held, rfl, hcreate⟩ :=
    cases_of_returned hreturned h
  · rw [htables]
    exact .of_shows hshows (retains_of_makes hmade) _
  · exact Workspaces.stored_of_create hcreate

/-- A stored workspace is fetched by whoever may read it, under its name as a workspace that is
built bears it. -/
theorem perform_fetch_stored {given : Option String} (h : ws.Stored given directory.store.tables)
    (huser : reader.user = some user) (hreadable : ws.id ∈ reader.allReadable) (moment : Moment) :
    (Workspaces.fetch [ws.id] reader).perform moment directory =
      (.ok [{ ws with name := Workspace.titled ws.name }], directory) := by
  have hread : (Workspaces.readableFilter reader).canRead ws.id = true :=
    Filter.canRead_ofReadable.2 hreadable
  have hrestore : ws.restore = .ok { ws with name := Workspace.titled ws.name } :=
    Workspace.restore_eq_ok.2 ⟨h.restorable, rfl⟩
  have hanswer : (Query.workspaces (Workspaces.readableFilter reader) [ws.id]).answer
      directory.store.tables = .ok [{ ws with name := Workspace.titled ws.name }] := by
    simp [Query.answer, Query.refusal?, Query.search, hread, h.row, hrestore]
  rw [Workspaces.perform_fetch huser, hanswer]

end Operation

/-! ## Loading what was saved -/

namespace Workspace

/-- What is found of a workspace that was given a name or none: the workspace under its name as a
workspace that is built bears it, and so the workspace as it was exactly when the name it was given,
if any, is tidy. -/
def FoundTidied (ws : Workspace) (given : Option String) (Found : Workspace → Prop) : Prop :=
  Found { ws with name := titled ws.name } ∧ (Found ws ↔ ∀ name, given = some name → Tidy name)

/-- A workspace is found tidied if it is the only one found and its name is tidy unless it was given
one that is not. -/
theorem foundTidied_of_unique {ws : Workspace} {given : Option String} {Found : Workspace → Prop}
    (hfound : Found { ws with name := titled ws.name })
    (hunique : ∀ {ws₁ ws₂}, Found ws₁ → Found ws₂ → ws₁ = ws₂)
    (hname : titled ws.name = ws.name ↔ ∀ name, given = some name → Tidy name) :
    ws.FoundTidied given Found := by
  refine ⟨hfound, ?_⟩
  rw [← hname, ← withTitled_eq_self_iff]
  constructor
  · exact hunique hfound
  · intro hsame
    rwa [hsame] at hfound

/-- A workspace that was built and changed in whatever way is found tidied through the session it is
saved through. -/
theorem readsBack_mutated {plan : Plan} {start : Instant} {built : Workspace} {hub : Hub}
    {session : Session} {moment : Moment} {t : Tables} (hbuild : plan.build start = .ok built)
    (hseen : hub.seen session = .ok t) (hwritable : hub.store.Writable moment)
    (changes : List (Instant × Mutation)) :
    (built.mutated changes).FoundTidied (lastName? changes)
      (hub.ReadsBack moment session (built.mutated changes)) := by
  have hretains := built.retains_mutated changes
  have hfit := hretains.restorable (restorable_of_build hbuild)
  exact foundTidied_of_unique (Hub.readsBack_of_restorable hseen hwritable hfit)
    (fun h₁ h₂ => h₁.unique h₂) (hretains.titled_eq_self_iff (titled_of_build hbuild))

/-- What an operation on workspaces returns is found tidied when it is fetched later by somebody who
may read it. -/
theorem fetched_returned (moment : Moment) {operation : Operation} {operator reader : Operator}
    {action : Action Workspace} {earlier : Moment} {directory directory' : Directory}
    {ws : Workspace} {user : UserId} (hreturned : operation.returned? operator = some action)
    (h : action.perform earlier directory = (.ok ws, directory'))
    (huser : reader.user = some user) (hreadable : ws.id ∈ reader.allReadable) :
    ws.FoundTidied operation.newName? fun found =>
      (Workspaces.fetch [ws.id] reader).perform moment directory' = (.ok [found], directory') := by
  have hstored := Operation.stored_of_returned hreturned h
  refine foundTidied_of_unique (Operation.perform_fetch_stored hstored huser hreadable moment) ?_
    hstored.name
  intro ws₁ ws₂ h₁ h₂
  have hsame := h₁.symm.trans h₂
  simp only [Prod.mk.injEq, Except.ok.injEq, List.cons.injEq, and_true] at hsame
  exact hsame

/-- Whenever a workspace is saved, it is loaded as it was, and whenever one is fetched that an
operation has returned, it is as it was, unless the last name that it was given is not tidy; then
all but its name is as it was. -/
theorem loaded_as_saved_iff (moment : Moment) :
    (∀ {plan : Plan} {start : Instant} {built : Workspace} {hub : Hub} {session : Session}
      {t : Tables}, plan.build start = .ok built → hub.seen session = .ok t →
      hub.store.Writable moment → ∀ changes : List (Instant × Mutation),
        (built.mutated changes).FoundTidied (lastName? changes)
          (hub.ReadsBack moment session (built.mutated changes))) ∧
    ∀ {operation : Operation} {operator reader : Operator} {action : Action Workspace}
      {earlier : Moment} {directory directory' : Directory} {ws : Workspace} {user : UserId},
      operation.returned? operator = some action →
      action.perform earlier directory = (.ok ws, directory') → reader.user = some user →
      ws.id ∈ reader.allReadable →
        ws.FoundTidied operation.newName? fun found =>
          (Workspaces.fetch [ws.id] reader).perform moment directory' = (.ok [found], directory') :=
  ⟨readsBack_mutated, fetched_returned moment⟩

/-! ### A new name for the team -/

namespace NewName

/-- A team that ann owns, under some name. -/
def team (name : String) : Workspace where
  id := ⟨"team"⟩
  name
  aliasName := ""
  email := ""
  profile := {}
  members := .ofOwner ⟨"ann"⟩ false
  policy := none
  updatedAt := .epoch

/-- A store with the team in it. -/
def store (name : String) : Store where
  tables := ({} : Tables).fileWorkspace (team name)
  file := none
  attached := false

/-- Ann, who owns the team. -/
def ann : Operator :=
  { user := some ⟨"ann"⟩, owning := [⟨"team"⟩] }

/-- Ann gives the team another name. -/
def christening (name : String) : Operation :=
  .updateWorkspace ⟨"team"⟩ { name := some name }

/-- The team is built under a name that is tidied. -/
theorem build_team :
    Plan.build { id := some ⟨"team"⟩, name := some " Team ", owner := some ⟨"ann"⟩ } .epoch =
      .ok (team "Team") := by
  rfl

/-- A team that bob joins and that is given a tidy name is found as it was saved, and a tidy name
that an operation gives is fetched as it was returned. -/
theorem loaded_as_saved_crew :
    Hub.ReadsBack { store := store "Team" } .epoch .plain
        ((team "Team").mutated [(.epoch, .join ⟨"bob"⟩ none ⟨"ann"⟩), (.epoch, .rename "Crew")])
        ((team "Team").mutated [(.epoch, .join ⟨"bob"⟩ none ⟨"ann"⟩), (.epoch, .rename "Crew")]) ∧
      (Workspaces.fetch [⟨"team"⟩] ann).perform .epoch { store := store "Crew" } =
        (.ok [team "Crew"], { store := store "Crew" }) := by
  have htidy : ∀ name, some "Crew" = some name → Tidy name := by
    intro name hname
    obtain rfl := Option.some.inj hname
    decide
  have hseen : Hub.seen { store := store "Team" } .plain = .ok (store "Team").tables := rfl
  have hreturned : (christening "Crew").returned? ann = some (Workspaces.update _ _ ann) := rfl
  have hperform : (Workspaces.update ⟨"team"⟩ { name := some "Crew" } ann).perform .epoch
      { store := store "Team" } = (.ok (team "Crew"), { store := store "Crew" }) := rfl
  constructor
  · exact ((loaded_as_saved_iff .epoch).1 build_team hseen nofun _).2.2 htidy
  · exact ((loaded_as_saved_iff .epoch).2 hreturned hperform rfl (by decide)).2.2 htidy

/-- A name with blank ends is saved and returned as it was given, and loaded and fetched without
them. -/
theorem untidy_name_lost :
    Plan.build { id := some ⟨"team"⟩, name := some " Team ", owner := some ⟨"ann"⟩ } .epoch =
        .ok (team "Team") ∧
      (team "Team").mutated [(.epoch, .rename " Crew ")] = team " Crew " ∧
      Hub.ReadsBack { store := store "Team" } .epoch .plain (team " Crew ") (team "Crew") ∧
      ¬ Hub.ReadsBack { store := store "Team" } .epoch .plain (team " Crew ") (team " Crew ") ∧
      (Workspaces.update ⟨"team"⟩ { name := some " Crew " } ann).perform .epoch
        { store := store "Team" } = (.ok (team " Crew "), { store := store " Crew " }) ∧
      (Workspaces.fetch [⟨"team"⟩] ann).perform .epoch { store := store " Crew " } =
        (.ok [team "Crew"], { store := store " Crew " }) := by
  have hread : Hub.ReadsBack { store := store "Team" } .epoch .plain (team " Crew ")
      (team "Crew") := ⟨_, rfl, rfl⟩
  refine ⟨build_team, rfl, hread, fun hsame => ?_, rfl, rfl⟩
  exact absurd (congrArg Workspace.name (hread.unique hsame)) (by decide)

end NewName

end Workspace

end Roster
