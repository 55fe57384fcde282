import Roster.Proofs.Atomicity

/-!
# Calls with an operator in hand

Callers lend their operator to an operation, which may change it: who creates a workspace counts it
among their own from then on. A change of the operator that has been made before a failure stays made,
as what has been done to the directory does. Since operators are changed only once nothing can fail any
more, a call that fails leaves the tables, the snapshot and the operator as they were, and no
transaction open.
-/

namespace Roster

/-- Something done with an operator in hand. When it fails, what it did before remains, to the directory
as well as to the operator. -/
abbrev InHand := ReaderT Moment (EStateM Error (Directory × Operator))

namespace InHand

variable {α β : Type} {moment : Moment} {s : Directory × Operator}

/-- What comes of it, and the directory and the operator that it leaves behind. -/
def perform (work : InHand α) (moment : Moment) (s : Directory × Operator) :
    Except Error α × Directory × Operator :=
  match work moment s with
  | .ok value s => (.ok value, s)
  | .error error s => (.error error, s)

/-- An action on the directory, to which the operator is lent as it is. -/
def ofAction (action : Action α) : InHand α := fun moment s =>
  match action moment s.1 with
  | .ok value directory => .ok value (directory, s.2)
  | .error error directory => .error error (directory, s.2)

instance : MonadLift Action InHand := ⟨ofAction⟩

/-- The operator in hand. -/
def operator : InHand Operator :=
  fun _ s => .ok s.2 s

/-- Change the operator in hand. -/
def change (f : Operator → Operator) : InHand Unit :=
  fun _ s => .ok () (s.1, f s.2)

/-- A failure does not undo a change of the operator. -/
example (id : WorkspaceId) (s : Directory × Operator) :
    (do change (·.addNewWorkspace id); throw .invalidId : InHand Unit).perform moment s =
      (.error .invalidId, s.1, s.2.addNewWorkspace id) := rfl

/-- One thing after another: the second only if the first succeeds. -/
theorem perform_bind (work : InHand α) (f : α → InHand β) :
    (work >>= f).perform moment s =
      match work.perform moment s with
      | (.ok a, s₁) => (f a).perform moment s₁
      | (.error error, s₁) => (.error error, s₁) := by
  simp only [perform, bind, ReaderT.bind, EStateM.bind]
  cases work moment s <;> rfl

/-- The operator in hand is there to be looked at. -/
theorem perform_operator : operator.perform moment s = (.ok s.2, s) :=
  rfl

/-- An action comes to what it comes to on the directory. -/
theorem perform_lift (action : Action α) :
    (liftM action : InHand α).perform moment s =
      ((action.perform moment s.1).1, (action.perform moment s.1).2, s.2) := by
  change (ofAction action).perform moment s = _
  unfold perform ofAction Action.perform
  cases action moment s.1 <;> rfl

end InHand

/-- Create a team workspace with one owner; from then on the operator in hand counts it as their own. -/
def Workspaces.createInHand (name aliasName : String) (firstUser : UserId) : InHand Workspace := do
  let operator ← InHand.operator
  let _ ← Action.ofExcept operator.actor
  let now ← Action.now
  let ws ← Usecase.run { transactional := true } (some operator)
    (establish name aliasName firstUser (operator.policy none) now)
  InHand.change (·.addNewWorkspace ws.id)
  return ws

namespace Operation

/-- Carry an operation out with the operator in hand, under the default policy that is configured. All
operations but one are lent the operator as it is. -/
def inHand (defaultPolicy : Option PolicyId) : Operation → InHand Unit
  | createWorkspace name aliasName firstUser => do
    let _ ← Workspaces.createInHand name aliasName firstUser
    return
  | operation => do
    let operator ← InHand.operator
    let _ ← operation.act defaultPolicy operator
    return

/-- An operation creates a workspace, or it is lent the operator as it is and gives it back. -/
theorem creates_or_lent (defaultPolicy : Option PolicyId) (operation : Operation) :
    (∃ name aliasName firstUser, operation = .createWorkspace name aliasName firstUser) ∨
      (operation.inHand defaultPolicy = do
        let operator ← InHand.operator
        let _ ← operation.act defaultPolicy operator
        return) ∧
      ∀ operator, ∃ (α : Type) (work : Action α),
        operation.act defaultPolicy operator = work >>= fun _ => pure operator := by
  cases operation with
  | createWorkspace name aliasName firstUser => exact .inl ⟨name, aliasName, firstUser, rfl⟩
  | _ => exact .inr ⟨rfl, fun _ => ⟨_, _, rfl⟩⟩

/-- Carried out with an operator in hand, an operation comes to what it comes to for that operator, and
what is in hand afterwards is the operator that results, or the same one if it fails. -/
theorem perform_inHand (defaultPolicy : Option PolicyId) (operation : Operation) (moment : Moment)
    (directory : Directory) (operator : Operator) :
    (operation.inHand defaultPolicy).perform moment (directory, operator) =
      match (operation.act defaultPolicy operator).perform moment directory with
      | (.ok held, directory') => (.ok (), directory', held)
      | (.error error, directory') => (.error error, directory', operator) := by
  obtain ⟨name, aliasName, firstUser, rfl⟩ | ⟨hinHand, hlent⟩ :=
    operation.creates_or_lent defaultPolicy
  · simp only [inHand, Workspaces.createInHand, act, Workspaces.create, InHand.perform_bind,
      InHand.perform_lift, Action.perform_bind, Action.perform_ofExcept, Action.perform_now,
      InHand.perform_operator]
    cases operator.actor with
    | error error => rfl
    | ok user =>
      dsimp only
      generalize (Usecase.run { transactional := true } (some operator)
        (Workspaces.establish name aliasName firstUser (operator.policy none)
          moment.now)).perform moment directory = founded
      obtain ⟨error | ws, directory'⟩ := founded <;> rfl
  · obtain ⟨α, work, hwork⟩ := hlent operator
    simp only [hinHand, InHand.perform_bind, InHand.perform_operator, InHand.perform_lift, hwork,
      Action.perform_bind, Action.perform_pure]
    obtain ⟨error | value, directory'⟩ := work.perform moment directory <;> rfl

end Operation

/-! ## Through sessions -/

namespace Hub

/-- How work with an operator in hand unfolds through the sessions of a hub, where some ids have been
drawn before: its actions unfold one after the other, up to the first that fails, and what is done to
the operator in between is done for good. -/
inductive Handles (moment : Moment) :
    {α : Type} → InHand α → Hub × Nat × Operator → Except Error α × Hub × Nat × Operator → Prop
  | action {α : Type} {action : Action α} {hub hub' : Hub} {drawn drawn' : Nat}
    {outcome : Except Error α} (h : Unfolds moment action (hub, drawn) (outcome, hub', drawn'))
    (operator : Operator) :
    Handles moment (liftM action) (hub, drawn, operator) (outcome, hub', drawn', operator)
  | operator (s : Hub × Nat × Operator) : Handles moment InHand.operator s (.ok s.2.2, s)
  | change (f : Operator → Operator) (s : Hub × Nat × Operator) :
    Handles moment (InHand.change f) s (.ok (), s.1, s.2.1, f s.2.2)
  | bindOk {α β : Type} {work : InHand α} {f : α → InHand β} {s s₁ : Hub × Nat × Operator} {a : α}
    {run : Except Error β × Hub × Nat × Operator} (hfirst : Handles moment work s (.ok a, s₁))
    (hsecond : Handles moment (f a) s₁ run) :
    Handles moment (work >>= f) s run
  | bindError {α β : Type} {work : InHand α} {f : α → InHand β} {s s₁ : Hub × Nat × Operator}
    {error : Error} (hfirst : Handles moment work s (.error error, s₁)) :
    Handles moment (work >>= f) s (.error error, s₁)

/-- However work with an operator in hand unfolds, it comes to what it comes to on the directory, with
the same operator left in hand, and no transaction is open in the end. -/
theorem Handles.agrees {α : Type} {moment : Moment} {work : InHand α} {s : Hub × Nat × Operator}
    {run : Except Error α × Hub × Nat × Operator} (h : Handles moment work s run)
    (hfree : s.1.gateFree = true) :
    run.2.1.gateFree = true ∧
      work.perform moment ({ store := s.1.store, drawn := s.2.1 }, s.2.2) =
        (run.1, { store := run.2.1.store, drawn := run.2.2.1 }, run.2.2.2) := by
  induction h with
  | action h operator =>
    have hagrees := h.agrees hfree
    rw [InHand.perform_lift, hagrees.result_eq]
    exact ⟨hagrees.gateFree, rfl⟩
  | operator s => exact ⟨hfree, rfl⟩
  | change f s => exact ⟨hfree, rfl⟩
  | bindOk _ _ ihfirst ihsecond =>
    obtain ⟨hfree₁, hfirst⟩ := ihfirst hfree
    rw [InHand.perform_bind, hfirst]
    exact ihsecond hfree₁
  | bindError _ ih =>
    obtain ⟨hfree₁, hfirst⟩ := ih hfree
    rw [InHand.perform_bind, hfirst]
    exact ⟨hfree₁, rfl⟩

end Hub

namespace InHand

variable {α β : Type}

/-- Work that can be done through sessions whenever no transaction is open. -/
def Runnable (work : InHand α) : Prop :=
  ∀ moment (s : Hub × Nat × Operator), s.1.gateFree = true → ∃ run, Hub.Handles moment work s run

/-- Work that can be done may go on with work that can be done. -/
theorem Runnable.bind {work : InHand α} {f : α → InHand β} (h : work.Runnable)
    (hf : ∀ a, (f a).Runnable) : (work >>= f).Runnable := by
  intro moment s hfree
  obtain ⟨⟨outcome, s₁⟩, hfirst⟩ := h moment s hfree
  cases outcome with
  | error error => exact ⟨_, .bindError hfirst⟩
  | ok a =>
    obtain ⟨run, hsecond⟩ := hf a moment s₁ (hfirst.agrees hfree).1
    exact ⟨run, .bindOk hfirst hsecond⟩

/-- An action that can be run can be run with an operator in hand. -/
theorem runnable_lift {action : Action α} (h : action.Runnable) :
    (liftM action : InHand α).Runnable := by
  intro moment ⟨hub, drawn, operator⟩ hfree
  obtain ⟨⟨outcome, hub', drawn'⟩, hrun⟩ := h moment (hub, drawn) hfree
  exact ⟨_, .action hrun operator⟩

/-- A value can be given out. -/
theorem runnable_pure (a : α) : (pure a : InHand α).Runnable :=
  runnable_lift (Action.looks_pure a).runnable

/-- The operator in hand can be looked at. -/
theorem runnable_operator : operator.Runnable :=
  fun _ s _ => ⟨_, .operator s⟩

/-- The operator in hand can be changed. -/
theorem runnable_change (f : Operator → Operator) : (change f).Runnable :=
  fun _ s _ => ⟨_, .change f s⟩

end InHand

/-- Every operation can be carried out with an operator in hand. -/
theorem Operation.runnable_inHand (defaultPolicy : Option PolicyId) (operation : Operation) :
    (operation.inHand defaultPolicy).Runnable := by
  obtain ⟨name, aliasName, firstUser, rfl⟩ | ⟨hinHand, -⟩ := operation.creates_or_lent defaultPolicy
  · have hwork : (Workspaces.createInHand name aliasName firstUser).Runnable :=
      InHand.runnable_operator.bind fun operator =>
        (InHand.runnable_lift (Action.Looks.known _).runnable).bind fun _ =>
        (InHand.runnable_lift Action.Looks.now.runnable).bind fun now =>
        (InHand.runnable_lift (Action.ActsOnce.run rfl _ _).runnable).bind fun ws =>
        (InHand.runnable_change _).bind fun _ => InHand.runnable_pure ws
    exact hwork.bind fun _ => InHand.runnable_pure ()
  · rw [hinHand]
    exact InHand.runnable_operator.bind fun operator =>
      (InHand.runnable_lift (operation.actsOnce_act defaultPolicy operator).runnable).bind fun _ =>
      InHand.runnable_pure ()

/-! ## Calls that fail -/

namespace Call

/-- How a call unfolds through the sessions of a hub, where some ids have been drawn before, with the
operator of the caller in hand: how it ends, and the hub, the number of ids drawn and the operator that
it leaves behind. -/
def Unfolds (call : Call) (hub : Hub) (drawn : Nat)
    (run : Except Error Unit × Hub × Nat × Operator) : Prop :=
  Hub.Handles call.moment (call.operation.inHand call.defaultPolicy) (hub, drawn, call.operator) run

/-- However a call unfolds while no transaction is open, it returns what it returns on the directory,
leaves the store that it leaves there and the operator whom the caller is said to hold, and no
transaction is open in the end. -/
theorem Unfolds.agrees {call : Call} {hub hub' : Hub} {drawn drawn' : Nat}
    {outcome : Except Error Unit} {operator' : Operator}
    (h : call.Unfolds hub drawn (outcome, hub', drawn', operator')) (hfree : hub.gateFree = true) :
    hub'.gateFree = true ∧
      ∃ result, (call.operation.act call.defaultPolicy call.operator).perform call.moment
          { store := hub.store, drawn } = (result, { store := hub'.store, drawn := drawn' }) ∧
        outcome = result.map (fun _ => ()) ∧ operator' = call.held result := by
  obtain ⟨hfree', hperform⟩ := Hub.Handles.agrees h hfree
  refine ⟨hfree', ?_⟩
  rw [Operation.perform_inHand] at hperform
  match hact : (call.operation.act call.defaultPolicy call.operator).perform call.moment
      { store := hub.store, drawn } with
  | (.ok held, directory') =>
    rw [hact] at hperform
    cases hperform
    exact ⟨_, rfl, rfl, rfl⟩
  | (.error error, directory') =>
    rw [hact] at hperform
    cases hperform
    exact ⟨_, rfl, rfl, rfl⟩

/-- A call that fails changes nothing: while no transaction is open the call can be made, and
however it unfolds, no transaction is open in the end, and if it fails then the tables and the
snapshot are as before and the operator in the hand of the caller is as it was. -/
theorem unchanged_of_error (call : Call) (hub : Hub) (drawn : Nat) (hfree : hub.gateFree = true) :
    (∃ run, call.Unfolds hub drawn run) ∧
      ∀ outcome hub' drawn' operator',
        call.Unfolds hub drawn (outcome, hub', drawn', operator') →
          hub'.gateFree = true ∧
            ∀ error, outcome = .error error →
              hub'.store = hub.store ∧ operator' = call.operator := by
  refine ⟨call.operation.runnable_inHand call.defaultPolicy call.moment (hub, drawn, call.operator)
    hfree, fun outcome hub' drawn' operator' hrun => ?_⟩
  obtain ⟨hfree', result, hact, rfl, rfl⟩ := hrun.agrees hfree
  refine ⟨hfree', fun error hfails => ?_⟩
  cases result with
  | ok held => exact nomatch hfails
  | error error =>
    exact ⟨(call.operation.actsOnce_act call.defaultPolicy call.operator).store_of_error hact, rfl⟩

/-- A call that founds a workspace for a user, with them as the operator in hand. -/
def foundingCrew : Call where
  moment := { Moment.epoch with ids := fun _ => "crew", writeFault := some "disk full" }
  defaultPolicy := none
  operator := { user := some ⟨"ann"⟩ }
  operation := .createWorkspace "Crew" "crew" ⟨"ann"⟩

/-- The user, on a store that is kept in a file. -/
def annAlone : Store where
  tables :=
    { users := Table.empty.insert ⟨"ann"⟩
        { id := ⟨"ann"⟩
          name := "Ann"
          email := "ann@example.com"
          identities := []
          workspace := ⟨"ann-home"⟩
          profile := {}
          updatedAt := .epoch } }
  file := none
  attached := true

/-- The disk is full, so the call fails at its very end, when the workspace has been made: the store is
as it was, and the operator does not count the workspace among their own. -/
theorem unchanged_of_full_disk :
    ∃ hub' drawn' operator',
      foundingCrew.Unfolds { store := annAlone } 0
        (.error (.storage "disk full"), hub', drawn', operator') ∧
      hub'.gateFree = true ∧ hub'.store = annAlone ∧ operator' = { user := some ⟨"ann"⟩ } := by
  obtain ⟨⟨⟨outcome, hub', drawn', operator'⟩, hrun⟩, hunchanged⟩ :=
    unchanged_of_error foundingCrew { store := annAlone } 0 rfl
  have houtcome : outcome = .error (.storage "disk full") := by
    obtain ⟨-, result, hact, rfl, -⟩ := hrun.agrees rfl
    obtain rfl : .error (.storage "disk full") = result := congrArg Prod.fst hact
    rfl
  subst houtcome
  obtain ⟨hfree, hsame⟩ := hunchanged _ _ _ _ hrun
  exact ⟨hub', drawn', operator', hrun, hfree, hsame _ rfl⟩

end Call

end Roster
