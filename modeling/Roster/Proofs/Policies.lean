import Roster.Proofs.Settlements

/-!
# The default policy

An operation that changes the members of a workspace puts it under the default policy of the
operator if it had no policy, and a new workspace comes under it from the start. A change of the
workspace itself puts it under the policy that it names, and under none if it names the empty one;
if it names no policy, then nothing is done about the policy.
-/

namespace Roster

open Time (Instant)

/-- Whoever is told from where a workspace is given out finds its policy in the row. -/
theorem Tables.Shows.policy {t : Tables} {id : WorkspaceId} {ws : Workspace} (h : t.Shows id ws) :
    ∃ row, t.workspaces.get? id = some row ∧ ws.policy = row.policy := by
  obtain ⟨row, hrow, hrestore⟩ := h
  obtain ⟨-, hws⟩ := Workspace.restore_eq_ok.1 hrestore
  exact ⟨row, hrow, by rw [hws]⟩

/-- A workspace that is rearranged comes under the default policy if it had none. -/
theorem Workspace.Rearranged.policy {operator : Operator} {now : Instant} {ws ws' : Workspace}
    (h : ws.Rearranged operator now ws') : ws'.policy = ws.policy.or operator.defaultPolicy := by
  obtain ⟨regrouped, hregrouped, rfl⟩ := h
  rw [Workspaces.withDefaultPolicy_eq, hregrouped.rest]

namespace Operation

/-- The policy that an operation names. -/
def namedPolicy? : Operation → Option PolicyId
  | updateWorkspace _ change => change.policy
  | _ => none

/-- An operation names the empty policy. -/
def ClearsPolicy (operation : Operation) : Prop :=
  ∃ policy, operation.namedPolicy? = some policy ∧ policy.text.isEmpty = true

/-- The policy of the workspace that an operation changes, before it does. -/
def policyBefore (t : Tables) (operation : Operation) : Option PolicyId :=
  (operation.revised?.bind t.workspaces.get?).bind Workspace.policy

/-- The policy under which an operation leaves a workspace that was under some policy or none. -/
def policyAfter (operator : Operator) (before : Option PolicyId) : Operation → Option PolicyId
  | updateWorkspace _ change =>
    (change.policy.map fun policy => operator.policy (some policy)).getD before
  | _ => before.or operator.defaultPolicy

/-- A change of the workspace itself names no policy and finds none. -/
def OverlooksPolicy (t : Tables) (operation : Operation) : Prop :=
  operation.policyBefore t = none ∧
    ∃ id change, operation = updateWorkspace id change ∧ change.policy = none

variable {operator : Operator} {operation : Operation} {action : Action Workspace}
  {moment : Moment} {directory directory' : Directory} {ws : Workspace}

/-- What an operation makes of a workspace is under the policy under which it leaves one. -/
theorem policy_of_makes {now : Instant} {ws' : Workspace} (h : operation.Makes operator now ws ws') :
    ws'.policy = operation.policyAfter operator ws.policy := by
  cases operation with
  | updateWorkspace id change =>
    obtain rfl : ws' = change.made operator now ws := h
    rfl
  | _ => exact Workspace.Rearranged.policy h

/-- The workspace that an operation returns is stored under the policy under which the operation
leaves it, and no other workspace changes. -/
theorem policy_of_returned (hreturned : operation.returned? operator = some action)
    (h : action.perform moment directory = (.ok ws, directory')) :
    ws.policy = operation.policyAfter operator (operation.policyBefore directory.store.tables) ∧
      ∀ key, directory'.store.tables.workspaces.get? key =
        if ws.id = key then some ws else directory.store.tables.workspaces.get? key := by
  obtain ⟨id, hid, hshows, hmade, hsame, htables⟩ |
      ⟨name, aliasName, firstUser, held, rfl, hcreate⟩ := cases_of_returned hreturned h
  · obtain ⟨row, hrow, hpolicy⟩ := hshows.policy
    constructor
    · rw [policy_of_makes hmade, hpolicy, policyBefore, hid, Option.bind_some, hrow, Option.bind_some]
    · intro key
      rw [htables, Tables.fileWorkspace, Table.get?_insert, hsame.workspaces]
  · obtain ⟨user, id, -, -, -, -, -, hbuild, htables⟩ := Workspaces.create_inversion hcreate
    obtain ⟨_, _, -, -, -, -, rfl⟩ := Workspace.build_eq_ok.1 hbuild
    refine ⟨rfl, fun key => ?_⟩
    rw [htables, Tables.fileWorkspace, Table.get?_insert]

/-- Where a default policy is configured, an operation leaves a workspace without a policy exactly
if it names the empty one, or names none and finds none. -/
theorem policyAfter_eq_none_iff {default : PolicyId} (hdefault : operator.defaultPolicy = some default)
    (t : Tables) :
    operation.policyAfter operator (operation.policyBefore t) = none ↔
      operation.ClearsPolicy ∨ operation.OverlooksPolicy t := by
  cases operation with
  | updateWorkspace id change =>
    cases hnamed : change.policy with
    | none => simp [policyAfter, ClearsPolicy, OverlooksPolicy, namedPolicy?, hnamed]
    | some policy =>
      simp [policyAfter, ClearsPolicy, OverlooksPolicy, namedPolicy?, hnamed, Operator.policy]
  | _ => simp [policyAfter, ClearsPolicy, OverlooksPolicy, namedPolicy?, hdefault]

/-- An operation that names no policy leaves a workspace under the policy that it finds. -/
theorem policyAfter_of_some {before : PolicyId} (hnamed : operation.namedPolicy? = none) :
    operation.policyAfter operator (some before) = some before := by
  cases operation with
  | updateWorkspace id change =>
    have hnone : change.policy = none := hnamed
    rw [policyAfter, hnone]
    rfl
  | _ => rfl

/-- A change that names no policy does not name the empty one. -/
theorem OverlooksPolicy.not_clears {t : Tables} (h : operation.OverlooksPolicy t) :
    ¬ operation.ClearsPolicy := by
  obtain ⟨-, id, change, rfl, hnone⟩ := h
  rintro ⟨policy, hnamed, -⟩
  exact absurd (hnamed.symm.trans hnone) (Option.some_ne_none policy)

/-- An operation that returns a workspace, for an operator with a default policy, stores it under a
policy unless it names the empty one, with one exception: a change that names no policy, of a
workspace that has none. A workspace that has a policy keeps it unless the operation names one, and
the other workspaces stay as they are. -/
theorem policed_iff {default : PolicyId} (hdefault : operator.defaultPolicy = some default)
    (hreturned : operation.returned? operator = some action)
    (h : action.perform moment directory = (.ok ws, directory')) :
    directory'.store.tables.workspaces.get? ws.id = some ws ∧
      (ws.policy ≠ none ∨ operation.ClearsPolicy ↔
        ¬ operation.OverlooksPolicy directory.store.tables) ∧
      (∀ policy, operation.policyBefore directory.store.tables = some policy →
        operation.namedPolicy? = none → ws.policy = some policy) ∧
      ∀ key, key ≠ ws.id → directory'.store.tables.workspaces.get? key =
        directory.store.tables.workspaces.get? key := by
  obtain ⟨hpolicy, hrows⟩ := policy_of_returned hreturned h
  refine ⟨by rw [hrows, if_pos rfl], ?_, ?_, ?_⟩
  · rw [hpolicy, Ne, policyAfter_eq_none_iff hdefault]
    constructor
    · rintro (hsome | hclears) hoverlooks
      · exact hsome (.inr hoverlooks)
      · exact hoverlooks.not_clears hclears
    · intro hnot
      by_cases hclears : operation.ClearsPolicy
      · exact .inr hclears
      · exact .inl (not_or.2 ⟨hclears, hnot⟩)
  · intro policy hbefore hnamed
    rw [hpolicy, hbefore, policyAfter_of_some hnamed]
  · intro key hother
    rw [hrows, if_neg hother.symm]

/-! ### A team without a policy -/

end Operation

namespace Operation.Unpoliced

/-- The policy under which workspaces are to come by default. -/
def basic : PolicyId := ⟨"basic"⟩

/-- A team that ann owns, under some policy or none. -/
def team (name : String) (policy : Option PolicyId) : Workspace where
  id := ⟨"team"⟩
  name
  aliasName := ""
  email := ""
  profile := {}
  members := .ofOwner ⟨"ann"⟩ false
  policy
  updatedAt := .epoch

/-- A directory in which the team is all there is. -/
def directory (team : Workspace) : Directory where
  store := { tables := ({} : Tables).fileWorkspace team, file := none, attached := false }

/-- Ann, who owns the team, where a default policy is configured. -/
def ann : Operator :=
  { user := some ⟨"ann"⟩, owning := [⟨"team"⟩], defaultPolicy := some basic }

/-- Ann gives the team another name and says nothing about its policy. -/
def christening : Operation :=
  .updateWorkspace ⟨"team"⟩ { name := some "Crew" }

/-- Ann takes no integration out of the team, which is a change of its members all the same. -/
def inspection : Operation :=
  .removeIntegrations ⟨"team"⟩ []

/-- The team comes under the default policy when its integrations are gone through, and keeps it when
it gets another name. -/
theorem policed_team :
    ((team "Team" (some basic)).policy ≠ none ∨ inspection.ClearsPolicy) ∧
      (team "Crew" (some basic)).policy = some basic := by
  have hreturned : inspection.returned? ann =
      some (Workspaces.removeIntegrations ⟨"team"⟩ [] ann) := rfl
  have hinspected : (Workspaces.removeIntegrations ⟨"team"⟩ [] ann).perform .epoch
      (directory (team "Team" none)) =
        (.ok (team "Team" (some basic)), directory (team "Team" (some basic))) := rfl
  have hreturned' : christening.returned? ann =
      some (Workspaces.update ⟨"team"⟩ { name := some "Crew" } ann) := rfl
  have hchristened : (Workspaces.update ⟨"team"⟩ { name := some "Crew" } ann).perform .epoch
      (directory (team "Team" (some basic))) =
        (.ok (team "Crew" (some basic)), directory (team "Crew" (some basic))) := rfl
  have hfound : ¬ inspection.OverlooksPolicy (directory (team "Team" none)).store.tables := by
    rintro ⟨-, _, _, hupdate, -⟩
    exact nomatch hupdate
  constructor
  · exact (policed_iff rfl hreturned hinspected).2.1.2 hfound
  · exact (policed_iff rfl hreturned' hchristened).2.2.1 basic rfl rfl

/-- When a team without a policy gets another name, then it remains without one, although a default
policy is configured and the empty policy was not named. -/
theorem not_policed_christening :
    ann.defaultPolicy = some basic ∧
      (Workspaces.update ⟨"team"⟩ { name := some "Crew" } ann).perform .epoch
        (directory (team "Team" none)) = (.ok (team "Crew" none), directory (team "Crew" none)) ∧
      (directory (team "Crew" none)).store.tables.workspaces.get? ⟨"team"⟩ =
        some (team "Crew" none) ∧
      ¬ ((team "Crew" none).policy ≠ none ∨ christening.ClearsPolicy) := by
  refine ⟨rfl, rfl, rfl, ?_⟩
  rintro (hsome | ⟨policy, hnamed, -⟩)
  · exact hsome rfl
  · exact nomatch hnamed

end Operation.Unpoliced

end Roster
