import Roster.Proofs.Ownership

/-!
# Whose authority an operation has

A client has the operator of a user looked up at one time and asks for operations with it later,
while others use the directory in between. An operation is checked against what the operator
lists, not against what is stored by then. So whoever did something that takes an owner was an
owner when they were looked up, or opened the workspace since; and they still are one, unless
something has been done in between that takes their seat from them.
-/

namespace Roster

/-! ## Clients -/

/-- What can happen at a desk: a client has the operator of a user looked up, or asks for an
operation with the operator they hold. -/
inductive Step
  | lookUp (client : Nat) (moment : Moment) (defaultPolicy : Option PolicyId) (user : UserId)
  | ask (client : Nat) (moment : Moment) (defaultPolicy : Option PolicyId) (operation : Operation)

/-- A store that is used by clients, and the operators they hold. -/
structure Desk where
  store : Store
  held : Nat → Option Operator

namespace Desk

/-- A desk without rows and operators. -/
def blank (label : Nat) (file : Option String) (attached : Bool) : Desk where
  store := .blank label file attached
  held := fun _ => none

/-- The desk with another store, and an operator in the hands of a client. -/
def hand (desk : Desk) (store : Store) (client : Nat) (operator : Operator) : Desk where
  store
  held := fun other => if other = client then some operator else desk.held other

/-- A client holds what they were handed. -/
theorem held_hand_self (desk : Desk) (store : Store) (client : Nat) (operator : Operator) :
    (desk.hand store client operator).held client = some operator :=
  if_pos rfl

/-- Other clients hold what they held before. -/
theorem held_hand_of_ne {desk : Desk} {store : Store} {client other : Nat} {operator : Operator}
    (h : other ≠ client) : (desk.hand store client operator).held other = desk.held other :=
  if_neg h

/-- Nothing changes when a client is handed what they hold. -/
theorem hand_of_held {desk : Desk} {client : Nat} {operator : Operator}
    (h : desk.held client = some operator) : desk.hand desk.store client operator = desk := by
  unfold hand
  congr
  funext other
  split
  · rename_i hsame
    rw [hsame, h]
  · rfl

/-- What comes of a step. -/
def step (desk : Desk) : Step → Desk
  | .lookUp client moment defaultPolicy user =>
    match (Accounts.operatorFor defaultPolicy user).perform moment { store := desk.store } with
    | (.ok operator, directory) => desk.hand directory.store client operator
    | (.error _, directory) => { desk with store := directory.store }
  | .ask client moment defaultPolicy operation =>
    match desk.held client with
    | none => desk
    | some operator =>
      let call : Call := { moment, defaultPolicy, operator, operation }
      let (outcome, store) := call.perform desk.store
      desk.hand store client (call.held outcome)

/-- The desk after some steps, the first one first. -/
def run (desk : Desk) (steps : List Step) : Desk :=
  steps.foldl step desk

/-- In a step, a client has an operation carried out that succeeds. They come to it with one
operator and hold another one, or the same, afterwards. -/
def Does (desk : Desk) (step : Step) (client : Nat) (operator : Operator) (operation : Operation)
    (held : Operator) : Prop :=
  ∃ moment defaultPolicy store, step = .ask client moment defaultPolicy operation ∧
    desk.held client = some operator ∧
      Call.perform { moment, defaultPolicy, operator, operation } desk.store = (.ok held, store)

/-- Whoever does something holds the operator they come with. -/
theorem Does.holds {desk : Desk} {step : Step} {client : Nat} {operator held : Operator}
    {operation : Operation} (h : desk.Does step client operator operation held) :
    desk.held client = some operator := by
  obtain ⟨_, _, _, -, hheld, -⟩ := h
  exact hheld

/-- In a step, something is done that takes the seat of an owner in a workspace from them. -/
def Unseats (desk : Desk) (owner : UserId) (id : WorkspaceId) (step : Step) : Prop :=
  ∃ client operator operation held, desk.Does step client operator operation held ∧
    operation.Unseats operator owner id

/-- In a step, a client opens a workspace for a first user, which they count among their own from
then on. -/
def Opens (desk : Desk) (client : Nat) (firstUser : UserId) (id : WorkspaceId) (step : Step) :
    Prop :=
  ∃ operator name aliasName held,
    desk.Does step client operator (.createWorkspace name aliasName firstUser) held ∧
      id ∉ operator.owning ∧ id ∈ held.owning

/-- In a step, an owner loses their seat in a workspace, or the client who acts for them opens it
for somebody else. -/
def Parts (client : Nat) (owner : UserId) (id : WorkspaceId) (desk : Desk) (step : Step) : Prop :=
  desk.Unseats owner id step ∨ ∃ firstUser, firstUser ≠ owner ∧ desk.Opens client firstUser id step

/-- Something happens at some time in the course of some steps. -/
def Sometime (desk : Desk) (E : Desk → Step → Prop) (steps : List Step) : Prop :=
  ∃ done step rest, steps = done ++ step :: rest ∧ E (desk.run done) step

end Desk

/-- A client has the operator of a user looked up. -/
def Step.LooksUp (client : Nat) (user : UserId) : Step → Prop
  | lookUp other _ _ asked => other = client ∧ asked = user
  | ask .. => False

/-- The workspace that an operation takes an owner of. -/
def Operation.takesOwner? : Operation → Option WorkspaceId
  | removeWorkspace id => some id
  | operation => operation.edited?

/-! ## Operators -/

namespace Operator

variable {operator : Operator} {id other : WorkspaceId}

/-- The user who acts stays the same when a workspace is new. -/
@[simp]
theorem addNewWorkspace_user (operator : Operator) (id : WorkspaceId) :
    (operator.addNewWorkspace id).user = operator.user := by
  unfold addNewWorkspace
  split <;> rfl

/-- A new workspace is owned next to those that were owned before. -/
theorem mem_owning_addNewWorkspace :
    other ∈ (operator.addNewWorkspace id).owning ↔ other = id ∨ other ∈ operator.owning := by
  unfold addNewWorkspace
  split
  · rename_i hlisted
    refine ⟨.inr, fun h => h.elim ?_ fun hother => hother⟩
    rintro rfl
    exact hlisted
  · simp [or_comm]

end Operator

namespace Operation.Effect

variable {operator held : Operator} {operation : Operation} {t t' : Tables}

/-- An operation that takes an owner of a workspace succeeds only for an operator who lists it. -/
theorem listed (heffect : Effect operator t operation held t') {id : WorkspaceId}
    (hid : operation.takesOwner? = some id) : id ∈ operator.owning := by
  cases heffect with
  | edit hedited heffect =>
    obtain ⟨-, howning, -, -, -⟩ := heffect
    have hsame : operation.takesOwner? = operation.edited? := by
      cases operation with
      | removeWorkspace => exact nomatch hedited
      | _ => rfl
    rw [hsame, hedited] at hid
    exact Option.some.inj hid ▸ howning
  | leave hleaving heffect =>
    cases operation with
    | removeUserMember | removeMultipleUserMembers => exact nomatch hid
    | _ => exact nomatch hleaving
  | removeWorkspace heffect =>
    obtain ⟨-, howning, -, -, -⟩ := heffect
    exact Option.some.inj hid ▸ howning
  | _ => exact nomatch hid

/-- The operator whom the caller holds afterwards is the one they came with, or counts a workspace
that has been opened. -/
theorem held_cases (heffect : Effect operator t operation held t') :
    held = operator ∨ ∃ name aliasName firstUser id,
      operation = .createWorkspace name aliasName firstUser ∧ Opening operator firstUser t id t' ∧
        held = operator.addNewWorkspace id := by
  cases heffect with
  | createWorkspace heffect => exact .inr ⟨_, _, _, _, rfl, heffect, rfl⟩
  | _ => exact .inl rfl

end Operation.Effect

/-- An owner stays one through an operation that succeeds and does not take their seat. -/
theorem Operation.Effect.owns {operator held : Operator} {operation : Operation} {t t' : Tables}
    (heffect : Effect operator t operation held t') (hsound : t.Sound) {owner : UserId}
    {id : WorkspaceId} (howns : t.Owns owner id)
    (hkept : ¬ operation.Unseats operator owner id) : t'.Owns owner id := by
  obtain ⟨member, hseat, hrole, henabled⟩ := howns
  exact ⟨member, heffect.seat hsound hseat hrole hkept, hrole, henabled⟩

/-- The first user of a workspace that is opened owns it. -/
theorem Opening.owns {operator : Operator} {firstUser : UserId} {t t' : Tables} {id : WorkspaceId}
    (h : Opening operator firstUser t id t') : t'.Owns firstUser id := by
  obtain ⟨-, -, -, -, hmembers⟩ := h
  refine ⟨.new .owner firstUser, ⟨_, Tables.get?_fileWorkspace.2 (.inl ⟨rfl, rfl⟩), ?_⟩, rfl, rfl⟩
  rw [hmembers, Members.ofOwner, Table.get?_insert, if_pos rfl]

/-! ## Steps -/

namespace Desk

variable {desk desk' : Desk} {step : Step} {client : Nat} {user : UserId} {id : WorkspaceId}

/-- Whoever does something that takes an owner of a workspace lists it. -/
theorem Does.listed {operator held : Operator} {operation : Operation}
    (h : desk.Does step client operator operation held) (hfiled : desk.store.tables.Filed)
    (hid : operation.takesOwner? = some id) : id ∈ operator.owning := by
  obtain ⟨moment, defaultPolicy, _, -, -, hcall⟩ := h
  obtain ⟨_, herror⟩ | ⟨_, _, -, heffect⟩ :=
    Call.perform_cases { moment, defaultPolicy, operator, operation } hfiled
  · exact nomatch hcall.symm.trans herror
  · exact heffect.listed hid

/-- What a step comes to: a client holds an operator who has just been looked up, or nothing
changes, or an operation is done. -/
inductive Turn (desk : Desk) (step : Step) : Desk → Prop
  | lookedUp {client : Nat} {user : UserId} {operator : Operator} (hstep : step.LooksUp client user)
    (hactor : operator.user = some user)
    (hbacked : ∀ id ∈ operator.owning, desk.store.tables.Owns user id) :
    Turn desk step (desk.hand desk.store client operator)
  | idle (hask : ∀ client user, ¬ step.LooksUp client user) : Turn desk step desk
  | done {client : Nat} {operator : Operator} {operation : Operation} {held : Operator}
    {store' : Store} (hdoes : desk.Does step client operator operation held)
    (heffect : Operation.Effect operator desk.store.tables operation held store'.tables) :
    Turn desk step (desk.hand store' client held)

/-- What a step at a desk with sound tables comes to. -/
theorem turn_of_step (hsound : desk.store.tables.Sound) (step : Step) :
    desk.Turn step (desk.step step) := by
  cases step with
  | lookUp client moment defaultPolicy user =>
    obtain ⟨operator, hlookup⟩ :
        ∃ operator, (Accounts.operatorFor defaultPolicy user).perform moment
          { store := desk.store } = (.ok operator, { store := desk.store }) :=
      Accounts.exists_operatorFor _ _ _ hsound
    obtain ⟨-, hactor, hbacked⟩ := Accounts.backed_of_operatorFor hsound.filed hlookup
    simp only [Desk.step, hlookup]
    exact .lookedUp ⟨rfl, rfl⟩ hactor hbacked
  | ask client moment defaultPolicy operation =>
    simp only [Desk.step]
    cases hheld : desk.held client with
    | none => exact .idle fun _ _ hlookup => hlookup
    | some operator =>
      obtain ⟨error, hcall⟩ | ⟨held, store', hcall, heffect⟩ :=
        Call.perform_cases { moment, defaultPolicy, operator, operation } hsound.filed
      · simp only [hcall, Call.held]
        rw [hand_of_held hheld]
        exact .idle fun _ _ hlookup => hlookup
      · simp only [hcall, Call.held]
        exact .done ⟨moment, defaultPolicy, store', rfl, hheld, hcall⟩ heffect

/-- Every step keeps the tables sound. -/
theorem Turn.sound (h : desk.Turn step desk') (hsound : desk.store.tables.Sound) :
    desk'.store.tables.Sound := by
  cases h with
  | lookedUp | idle => exact hsound
  | done _ heffect => exact heffect.sound hsound

/-- The operator whom a client holds after a step in which they look nobody up is the one they held
before, but may list a workspace that they have opened in this step for a first user. -/
theorem Turn.held_before (h : desk.Turn step desk')
    (hlookup : ∀ asked, ¬ step.LooksUp client asked) {operator' : Operator}
    (hheld : desk'.held client = some operator') :
    ∃ operator, desk.held client = some operator ∧ operator'.user = operator.user ∧
      ∀ id ∈ operator'.owning, id ∉ operator.owning →
        ∃ firstUser, desk.Opens client firstUser id step ∧
          desk'.store.tables.Owns firstUser id := by
  cases h with
  | @lookedUp other user _ hstep =>
    have hne : client ≠ other := by
      rintro rfl
      exact hlookup _ hstep
    rw [held_hand_of_ne hne] at hheld
    exact ⟨operator', hheld, rfl, fun id hlisted hnew => absurd hlisted hnew⟩
  | idle => exact ⟨operator', hheld, rfl, fun id hlisted hnew => absurd hlisted hnew⟩
  | @done asking operator operation held store' hdoes heffect =>
    by_cases hsame : client = asking
    · subst hsame
      rw [held_hand_self] at hheld
      obtain rfl := Option.some.inj hheld
      refine ⟨operator, hdoes.holds, ?_⟩
      obtain rfl | ⟨name, aliasName, firstUser, new, rfl, hopening, rfl⟩ := heffect.held_cases
      · exact ⟨rfl, fun id hlisted hnew => absurd hlisted hnew⟩
      · refine ⟨operator.addNewWorkspace_user new, fun id hlisted hnew => ?_⟩
        obtain rfl := (Operator.mem_owning_addNewWorkspace.1 hlisted).resolve_right hnew
        exact ⟨firstUser, ⟨operator, name, aliasName, _, hdoes, hnew, hlisted⟩, hopening.owns⟩
    · rw [held_hand_of_ne hsame] at hheld
      exact ⟨operator', hheld, rfl, fun id hlisted hnew => absurd hlisted hnew⟩

/-- An owner stays one in a step that does not take their seat. -/
theorem Turn.owns (h : desk.Turn step desk') (hsound : desk.store.tables.Sound)
    (howns : desk.store.tables.Owns user id) (hkept : ¬ desk.Unseats user id step) :
    desk'.store.tables.Owns user id := by
  cases h with
  | lookedUp | idle => exact howns
  | done hdoes heffect =>
    exact heffect.owns hsound howns fun hunseats => hkept ⟨_, _, _, _, hdoes, hunseats⟩

/-- What a step comes to in which a client has the operator of a user looked up: whoever they hold
then acts for this user and lists only what this user owns. -/
theorem held_of_lookUp (hsound : desk.store.tables.Sound) (hlookup : step.LooksUp client user)
    {operator : Operator} (hheld : (desk.step step).held client = some operator) :
    operator.user = some user ∧ ∀ id ∈ operator.owning,
      desk.store.tables.Owns user id ∧ (desk.step step).store.tables.Owns user id := by
  have hturn := turn_of_step hsound step
  generalize desk.step step = desk' at hturn hheld ⊢
  cases step with
  | ask => exact hlookup.elim
  | lookUp client' moment defaultPolicy user' =>
    obtain ⟨rfl, rfl⟩ := hlookup
    cases hturn with
    | lookedUp hstep hactor hbacked =>
      obtain ⟨rfl, rfl⟩ := hstep
      rw [held_hand_self] at hheld
      obtain rfl := Option.some.inj hheld
      exact ⟨hactor, fun id hlisted => ⟨hbacked id hlisted, hbacked id hlisted⟩⟩
    | idle hask => exact (hask _ _ ⟨rfl, rfl⟩).elim
    | done hdoes =>
      obtain ⟨_, _, _, hstep, -⟩ := hdoes
      exact nomatch hstep

/-! ## Runs -/

/-- Sound tables stay sound at a desk. -/
theorem sound_run (hsound : desk.store.tables.Sound) (steps : List Step) :
    (desk.run steps).store.tables.Sound := by
  induction steps generalizing desk with
  | nil => exact hsound
  | cons step steps ih => exact ih ((turn_of_step hsound step).sound hsound)

/-- What every step keeps, unless something happens in it, holds after a run or this has happened
at some time. -/
theorem holds_of_run {P : Desk → Prop} {E : Desk → Step → Prop} {steps : List Step}
    (hkeeps : ∀ desk desk', ∀ step ∈ steps, desk.store.tables.Sound → desk.Turn step desk' →
      P desk → ¬ E desk step → P desk')
    (hsound : desk.store.tables.Sound) (h : P desk) :
    P (desk.run steps) ∨ desk.Sometime E steps := by
  induction steps generalizing desk with
  | nil => exact .inl h
  | cons step steps ih =>
    have hturn := turn_of_step hsound step
    by_cases hevent : E desk step
    · exact .inr ⟨[], step, steps, rfl, hevent⟩
    · have hnext := hkeeps desk _ step List.mem_cons_self hsound hturn h hevent
      refine (ih (fun desk desk' later hlater => ?_) (hturn.sound hsound) hnext).imp_right ?_
      · exact hkeeps desk desk' later (List.mem_cons_of_mem _ hlater)
      · rintro ⟨done, later, rest, rfl, hlater⟩
        exact ⟨step :: done, later, rest, rfl, hlater⟩

/-- What every step keeps holds after a run. -/
theorem holds_of_run' {P : Desk → Prop} {steps : List Step}
    (hkeeps : ∀ desk desk', ∀ step ∈ steps, desk.Turn step desk' → P desk → P desk')
    (hsound : desk.store.tables.Sound) (h : P desk) : P (desk.run steps) := by
  obtain hholds | ⟨_, _, _, -, hevent⟩ :=
    holds_of_run (P := P) (E := fun _ _ => False)
      (fun desk desk' step hstep _ hturn h _ => hkeeps desk desk' step hstep hturn h) hsound h
  · exact hholds
  · exact hevent.elim

section Unchanged

variable {steps : List Step} (hsound : desk.store.tables.Sound)
  (hlast : ∀ step ∈ steps, ∀ asked, ¬ step.LooksUp client asked)

include hsound hlast

/-- Only who has an operator looked up comes to hold one. -/
theorem held_eq_none_of_run (h : desk.held client = none) : (desk.run steps).held client = none := by
  refine holds_of_run' (P := fun desk => desk.held client = none) ?_ hsound h
  intro desk desk' step hstep hturn hnone
  refine Option.eq_none_iff_forall_ne_some.2 fun operator' hheld' => ?_
  obtain ⟨operator, hheld, -⟩ := hturn.held_before (hlast step hstep) hheld'
  exact nomatch hnone.symm.trans hheld

/-- A client acts for the same user until they have another one looked up. -/
theorem user_of_run (h : ∀ operator, desk.held client = some operator → operator.user = some user) :
    ∀ operator, (desk.run steps).held client = some operator → operator.user = some user := by
  refine holds_of_run'
    (P := fun desk => ∀ operator, desk.held client = some operator → operator.user = some user) ?_
    hsound h
  intro desk desk' step hstep hturn hactor operator' hheld'
  obtain ⟨operator, hheld, huser, -⟩ := hturn.held_before (hlast step hstep) hheld'
  exact huser.trans (hactor operator hheld)

/-- A workspace that is not on the list of a client comes there only when they open it. -/
theorem not_listed_of_run
    (h : ∀ operator, desk.held client = some operator → id ∉ operator.owning) :
    (∀ operator, (desk.run steps).held client = some operator → id ∉ operator.owning) ∨
      desk.Sometime (fun desk step => ∃ firstUser, desk.Opens client firstUser id step) steps := by
  refine holds_of_run
    (P := fun desk => ∀ operator, desk.held client = some operator → id ∉ operator.owning) ?_
    hsound h
  intro desk desk' step hstep _ hturn hlacks hopens operator' hheld' hlisted
  obtain ⟨operator, hheld, -, hnew⟩ := hturn.held_before (hlast step hstep) hheld'
  obtain ⟨firstUser, hopened, -⟩ := hnew id hlisted (hlacks operator hheld)
  exact hopens ⟨firstUser, hopened⟩

/-- A user who owns a workspace that a client lists for them goes on owning it until something
parts them from it. -/
theorem owns_of_run (h : ∀ operator, desk.held client = some operator → id ∈ operator.owning →
    desk.store.tables.Owns user id) :
    (∀ operator, (desk.run steps).held client = some operator → id ∈ operator.owning →
      (desk.run steps).store.tables.Owns user id) ∨
        desk.Sometime (Parts client user id) steps := by
  refine holds_of_run
    (P := fun desk => ∀ operator, desk.held client = some operator → id ∈ operator.owning →
      desk.store.tables.Owns user id) ?_ hsound h
  intro desk desk' step hstep hsound hturn howns hparts operator' hheld' hlisted
  obtain ⟨operator, hheld, -, hnew⟩ := hturn.held_before (hlast step hstep) hheld'
  by_cases hbefore : id ∈ operator.owning
  · exact hturn.owns hsound (howns operator hheld hbefore) fun hunseats => hparts (.inl hunseats)
  · obtain ⟨firstUser, hopened, hfirst⟩ := hnew id hlisted hbefore
    by_contra hlost
    refine hparts (.inr ⟨firstUser, ?_, hopened⟩)
    rintro rfl
    exact hlost hfirst

end Unchanged

end Desk

/-- Among some steps there is a last one in which a client has an operator looked up, if there is
one at all. -/
theorem Step.last_lookUp (client : Nat) (steps : List Step) :
    (∀ step ∈ steps, ∀ asked, ¬ step.LooksUp client asked) ∨
      ∃ before lookup between user, steps = before ++ lookup :: between ∧
        lookup.LooksUp client user ∧ ∀ step ∈ between, ∀ asked, ¬ step.LooksUp client asked := by
  induction steps with
  | nil => exact .inl fun step hstep => absurd hstep List.not_mem_nil
  | cons step steps ih =>
    obtain hnone | ⟨before, lookup, between, user, rfl, hlookup, hlast⟩ := ih
    · by_cases hlookup : ∃ user, step.LooksUp client user
      · obtain ⟨user, hlookup⟩ := hlookup
        exact .inr ⟨[], step, steps, user, rfl, hlookup, hnone⟩
      · exact .inl (List.forall_mem_cons.2 ⟨not_exists.1 hlookup, hnone⟩)
    · exact .inr ⟨step :: before, lookup, between, user, rfl, hlookup, hlast⟩

/-! ## Authority -/

namespace Desk

/-- Whoever does something that takes an owner of a workspace, at a desk that was blank at first,
acts for the user whom they had looked up last. This user owned the workspace at that time, or the
client has opened it since; and they own it now, unless something has parted them from it since. -/
theorem authority (label : Nat) (file : Option String) (attached : Bool) {steps : List Step}
    {step : Step} {client : Nat} {operator held : Operator} {operation : Operation}
    {id : WorkspaceId}
    (hdoes : ((blank label file attached).run steps).Does step client operator operation held)
    (hid : operation.takesOwner? = some id) :
    ∃ before lookup between user, steps = before ++ lookup :: between ∧
      lookup.LooksUp client user ∧ (∀ later ∈ between, ∀ asked, ¬ later.LooksUp client asked) ∧
      operator.user = some user ∧
      (((blank label file attached).run before).store.tables.Owns user id ∨
        ((blank label file attached).run (before ++ [lookup])).Sometime
          (fun desk later => ∃ firstUser, desk.Opens client firstUser id later) between) ∧
      (((blank label file attached).run steps).store.tables.Owns user id ∨
        ((blank label file attached).run (before ++ [lookup])).Sometime
          (Parts client user id) between) := by
  have hblank : (blank label file attached).store.tables.Sound :=
    Store.sound_blank label file attached
  have hheld := hdoes.holds
  have hlisted := hdoes.listed (sound_run hblank steps).filed hid
  obtain hnone | ⟨before, lookup, between, user, rfl, hlookup, hlast⟩ := Step.last_lookUp client steps
  · exact nomatch (held_eq_none_of_run hblank hnone rfl).symm.trans hheld
  refine ⟨before, lookup, between, user, rfl, hlookup, hlast, ?_⟩
  have hpast := sound_run hblank before
  have hnow : (blank label file attached).run (before ++ lookup :: between) =
      (((blank label file attached).run before).step lookup).run between := List.foldl_append
  have hthen : (blank label file attached).run (before ++ [lookup]) =
      ((blank label file attached).run before).step lookup := List.foldl_append
  rw [hnow] at hheld ⊢
  rw [hthen]
  have hlooked := (turn_of_step hpast lookup).sound hpast
  have hfresh {other : Operator}
      (hheld : (((blank label file attached).run before).step lookup).held client = some other) :=
    held_of_lookUp hpast hlookup hheld
  refine ⟨user_of_run hlooked hlast (fun _ h => (hfresh h).1) operator hheld, ?_, ?_⟩
  · by_cases howned : ((blank label file attached).run before).store.tables.Owns user id
    · exact .inl howned
    · refine .inr ((not_listed_of_run hlooked hlast fun _ h hthere => ?_).resolve_left ?_)
      · exact howned ((hfresh h).2 id hthere).1
      · exact fun hlacks => hlacks operator hheld hlisted
  · refine (owns_of_run hlooked hlast fun _ h hthere => ?_).imp_left ?_
    · exact ((hfresh h).2 id hthere).2
    · exact fun howns => howns operator hheld hlisted

/-- Two users come to own a workspace and are looked up, each for a client of their own; then the
first one makes the second one a reader. -/
def twoOwners : List Step :=
  let moment : Moment := { Moment.epoch with ids := fun _ => "team" }
  [.lookUp 0 moment none ⟨"ann"⟩,
    .ask 0 moment none (.signup
      { name := "Ann"
        email := "ann@example.com"
        user := some ⟨"ann"⟩
        workspace := some ⟨"ann-home"⟩ }),
    .ask 0 moment none (.signup
      { name := "Bob"
        email := "bob@example.com"
        user := some ⟨"bob"⟩
        workspace := some ⟨"bob-home"⟩ }),
    .ask 0 moment none (.createWorkspace "Team" "" ⟨"ann"⟩),
    .ask 0 moment none (.addUserMember ⟨"team"⟩ [(⟨"bob"⟩, .owner)]),
    .lookUp 1 moment none ⟨"ann"⟩,
    .lookUp 2 moment none ⟨"bob"⟩,
    .ask 1 moment none (.updateUserMember ⟨"team"⟩ ⟨"bob"⟩ .reader)]

/-- What the second client still holds after that. -/
def bobBefore : Operator where
  user := some ⟨"bob"⟩
  owning := [⟨"bob-home"⟩, ⟨"team"⟩]

/-- The second one can make the first one a reader, too. -/
theorem does_after_twoOwners :
    ((blank 0 none false).run twoOwners).Does
      (.ask 2 .epoch none
        (.updateUserMember ⟨"team"⟩ ⟨"ann"⟩ .reader))
      2 bobBefore (.updateUserMember ⟨"team"⟩ ⟨"ann"⟩ .reader) bobBefore :=
  ⟨_, none, _, rfl, by decide +kernel, Prod.ext (by decide +kernel) rfl⟩

/-- By then they do not own the workspace any more. -/
theorem not_owns_after_twoOwners :
    ¬ ((blank 0 none false).run twoOwners).store.tables.Owns ⟨"bob"⟩ ⟨"team"⟩ := by
  rintro ⟨member, ⟨ws, hws, hmember⟩, hrole, -⟩
  have hreader : ((((blank 0 none false).run twoOwners).store.tables.workspaces.get? ⟨"team"⟩).bind
      fun ws => ws.members.users.get? ⟨"bob"⟩).map Member.role = some .reader := by decide +kernel
  rw [hws, Option.bind_some, hmember, Option.map_some, hrole] at hreader
  exact nomatch hreader

/-- The operator of someone who has been demoted meanwhile still does what takes an owner. -/
theorem outdated_operator_succeeds :
    ¬ ∀ (label : Nat) (file : Option String) (attached : Bool) (steps : List Step) (step : Step)
        (client : Nat) (operator held : Operator) (operation : Operation) (id : WorkspaceId),
        ((blank label file attached).run steps).Does step client operator operation held →
          operation.takesOwner? = some id →
            ∃ user, operator.user = some user ∧
              ((blank label file attached).run steps).store.tables.Owns user id := by
  intro h
  obtain ⟨user, hactor, howns⟩ := h _ _ _ _ _ _ _ _ _ _ does_after_twoOwners rfl
  obtain rfl := Option.some.inj hactor
  exact not_owns_after_twoOwners howns

/-- Before somebody who is no owner any more does what takes an owner, something has parted them
from the workspace, and it has happened after they were looked up. -/
theorem parted_in_twoOwners :
    ∃ before lookup between, twoOwners = before ++ lookup :: between ∧
      lookup.LooksUp 2 ⟨"bob"⟩ ∧
      ((blank 0 none false).run (before ++ [lookup])).Sometime (Parts 2 ⟨"bob"⟩ ⟨"team"⟩)
        between := by
  obtain ⟨before, lookup, between, user, hsteps, hlookup, -, hactor, -, hnow⟩ :=
    authority 0 none false does_after_twoOwners rfl
  obtain rfl := Option.some.inj hactor
  exact ⟨before, lookup, between, hsteps, hlookup, hnow.resolve_left not_owns_after_twoOwners⟩

end Desk

end Roster
