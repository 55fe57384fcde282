import Roster.Proofs.Filters

/-!
# The order of filters

Filters are merged list by list, and a merged list is in the order of the first one, with its
repetitions. So the filters that two orders of a chain lead to differ; but nothing is done with them
except to ask what may be read and what may be written, and to this they give the same answers.
-/

namespace Roster

/-! ## Filters that allow the same -/

namespace Filter

variable {a b start filter : Filter} {filters others : List Filter}

/-- Two filters let the same workspaces be read and the same ones be written. -/
structure Alike (a b : Filter) : Prop where
  canRead : a.canRead = b.canRead
  canWrite : a.canWrite = b.canWrite

/-- A filter that is narrowed by other filters, one after the other. -/
def narrowed (start : Filter) (filters : List Filter) : Filter :=
  filters.foldl merge start

/-- To narrow a filter is to begin a chain with it. -/
theorem narrowed_eq_ofList (start : Filter) (filters : List Filter) :
    start.narrowed filters = ofList (start :: filters) := by
  have hstart : none.merge start = start := rfl
  rw [ofList, List.foldl_cons, hstart, narrowed]

/-- Whether a test is passed by all of some items only depends on which items there are. -/
theorem all_congr_mem (test : Filter → Bool) (hsame : ∀ filter, filter ∈ filters ↔ filter ∈ others) :
    filters.all test = others.all test := by
  rw [Bool.eq_iff_iff, List.all_eq_true, List.all_eq_true]
  exact forall_congr' fun filter => imp_congr_left (hsame filter)

/-- Chains of the same filters allow the same, in whatever order and however often each filter is in
them. -/
theorem alike_ofList (hsame : ∀ filter, filter ∈ filters ↔ filter ∈ others) :
    (ofList filters).Alike (ofList others) where
  canRead := by
    funext id
    rw [canRead_ofList, canRead_ofList, all_congr_mem (·.lists id) hsame,
      all_congr_mem writesFreely hsame, all_congr_mem (·.canWrite id) hsame]
  canWrite := by
    funext id
    rw [canWrite_ofList, canWrite_ofList, all_congr_mem (·.canWrite id) hsame]

/-- A filter that is narrowed by the same filters allows the same. -/
theorem alike_narrowed (start : Filter)
    (hsame : ∀ filter, filter ∈ filters ↔ filter ∈ others) :
    (start.narrowed filters).Alike (start.narrowed others) := by
  rw [narrowed_eq_ofList, narrowed_eq_ofList]
  exact alike_ofList fun filter => by rw [List.mem_cons, List.mem_cons, hsame]

end Filter

/-! ## Calls through a filter -/

variable {α : Type} {a b : Filter}

/-- The question put through a filter, if it is one for workspaces. -/
def Query.through (filter : Filter) : Query α → Query α
  | workspace _ id => workspace filter id
  | workspaces _ ids => workspaces filter ids
  | workspacesOf _ member => workspacesOf filter member
  | workspaceNamed _ name => workspaceNamed filter name
  | workspaceAliased _ aliasName => workspaceAliased filter aliasName
  | query => query

/-- The change put through a filter, if it is one of workspaces. -/
def Command.through (filter : Filter) : Command → Command
  | createWorkspace _ ws => createWorkspace filter ws
  | saveWorkspaces _ workspaces => saveWorkspaces filter workspaces
  | removeWorkspace _ id => removeWorkspace filter id
  | removeWorkspaces _ ids => removeWorkspaces filter ids
  | command => command

/-- The course in which all workspaces are reached through a filter. -/
def Program.through (filter : Filter) : Program α → Program α
  | finish outcome => finish outcome
  | ask query next => ask (query.through filter) fun reply => (next reply).through filter
  | tell command next => tell (command.through filter) fun reply => (next reply).through filter
  | draw next => draw fun id => (next id).through filter

/-- Whether a question can be refused without looking does not depend on the filter. -/
theorem Query.refusal?_through (query : Query α) (filter : Filter) :
    (query.through filter).refusal? = query.refusal? := by
  cases query <;> rfl

/-- What is found depends on what the filter lets be read. -/
theorem Query.search_through (h : a.Alike b) (query : Query α) (t : Tables) :
    (query.through a).search t = (query.through b).search t := by
  cases query with
  | workspace | workspaces | workspacesOf | workspaceNamed | workspaceAliased =>
    simp only [through, search, h.canRead]
  | _ => rfl

/-- A command is refused because of what the filter does not let be written. -/
theorem Command.refusal?_through (h : a.Alike b) (command : Command) :
    (command.through a).refusal? = (command.through b).refusal? := by
  have hpermits : (command.through a).writes.2.all (command.through a).writes.1.canWrite =
      (command.through b).writes.2.all (command.through b).writes.1.canWrite := by
    cases command with
    | createWorkspace | saveWorkspaces | removeWorkspace | removeWorkspaces =>
      simp only [through, writes, h.canWrite]
    | _ => rfl
  exact if_congr (iff_of_eq (congrArg (· = true) hpermits)) rfl rfl

/-- What a command does to a draft does not depend on the filter. -/
theorem Command.change_through (command : Command) (filter : Filter) :
    (command.through filter).change = command.change := by
  funext draft
  cases command <;> rfl

/-- What comes of a command depends on what the filter lets be written. -/
theorem Command.apply_through (h : a.Alike b) (command : Command) :
    (command.through a).apply = (command.through b).apply := by
  funext draft
  rw [apply, apply, refusal?_through h, change_through, change_through]

namespace Hub

/-- Filters that allow the same let the same be found. -/
theorem ask_through (h : a.Alike b) (hub : Hub) (session : Session) (query : Query α) :
    hub.ask session (query.through a) = hub.ask session (query.through b) := by
  rw [ask_eq, ask_eq, Query.refusal?_through, Query.refusal?_through,
    funext (Query.search_through h query)]

/-- Filters that allow the same let the same be changed. -/
theorem tell_through (h : a.Alike b) (hub : Hub) (moment : Moment) (session : Session)
    (command : Command) :
    hub.tell moment session (command.through a) = hub.tell moment session (command.through b) := by
  simp only [tell, Store.execute, Command.refusal?_through h, Command.change_through,
    Command.apply_through h]

/-- Whatever is asked and told in whatever course, filters that allow the same lead to the same. -/
theorem perform_through (h : a.Alike b) (moment : Moment) (session : Session) (program : Program α)
    (hub : Hub) (drawn : Nat) :
    perform moment session (program.through a) hub drawn =
      perform moment session (program.through b) hub drawn := by
  induction program generalizing hub drawn with
  | finish outcome => rfl
  | ask query next ih =>
    simp only [Program.through, perform, ask_through h]
    exact ih _ hub drawn
  | tell command next ih =>
    simp only [Program.through, perform, tell_through h]
    cases hub.tell moment session (command.through b) with
    | ok hub => exact ih _ hub drawn
    | error error => exact ih _ hub drawn
  | draw next ih => exact ih _ hub (drawn + 1)

/-- However a store is narrowed by some filters, in whatever order and however often each of them is
used: whoever asks or tells something through it, in a transaction or outside, gets the same answer or
is refused for the same reason, and leaves the same behind, in a single call and in any course of
calls. -/
theorem narrowed_in_any_order (start : Filter) {filters others : List Filter}
    (hsame : ∀ filter, filter ∈ filters ↔ filter ∈ others) (hub : Hub) (moment : Moment)
    (session : Session) :
    (∀ {α : Type} (query : Query α),
      hub.ask session (query.through (start.narrowed filters)) =
        hub.ask session (query.through (start.narrowed others))) ∧
    (∀ command : Command,
      hub.tell moment session (command.through (start.narrowed filters)) =
        hub.tell moment session (command.through (start.narrowed others))) ∧
    ∀ {α : Type} (program : Program α) (drawn : Nat),
      perform moment session (program.through (start.narrowed filters)) hub drawn =
        perform moment session (program.through (start.narrowed others)) hub drawn := by
  have halike := Filter.alike_narrowed start hsame
  exact ⟨ask_through halike hub session, tell_through halike hub moment session,
    fun program drawn => perform_through halike moment session program hub drawn⟩

/-! ### Two teams, listed in either order -/

namespace TwoTeams

/-- Both teams may be read, and one of them may be written. -/
def forward : Filter :=
  { readable := some [⟨"a"⟩, ⟨"b"⟩], writable := some [⟨"a"⟩] }

/-- Both teams may be read. -/
def backward : Filter :=
  .ofReadable [⟨"b"⟩, ⟨"a"⟩]

/-- The merged filters are not equal, but the team is found through both, and removed through
neither. -/
theorem narrowed_either_way :
    Filter.none.narrowed [forward, backward] ≠ Filter.none.narrowed [backward, forward, backward] ∧
      (∀ filter, filter ∈ [forward, backward] ↔ filter ∈ [backward, forward, backward]) ∧
      (desertion ⟨"b"⟩).ask .plain
          ((Query.workspace .none ⟨"b"⟩).through (Filter.none.narrowed [forward, backward])) =
        .ok (.deserted ⟨"b"⟩) ∧
      (desertion ⟨"b"⟩).ask .plain
          ((Query.workspace .none ⟨"b"⟩).through
            (Filter.none.narrowed [backward, forward, backward])) =
        .ok (.deserted ⟨"b"⟩) ∧
      (desertion ⟨"b"⟩).tell .epoch .plain
          ((Command.removeWorkspace .none ⟨"b"⟩).through
            (Filter.none.narrowed [backward, forward, backward])) =
        .error .operationDenied := by
  have hsame : ∀ filter, filter ∈ [forward, backward] ↔ filter ∈ [backward, forward, backward] :=
    fun filter => by simp [or_comm]
  obtain ⟨hask, htell, -⟩ :=
    narrowed_in_any_order .none hsame (desertion ⟨"b"⟩) .epoch .plain
  have hfound : (desertion ⟨"b"⟩).ask .plain
      ((Query.workspace .none ⟨"b"⟩).through (Filter.none.narrowed [forward, backward])) =
        .ok (.deserted ⟨"b"⟩) := ask_desertion (by decide) (by decide)
  have hdenied : (desertion ⟨"b"⟩).tell .epoch .plain
      ((Command.removeWorkspace .none ⟨"b"⟩).through (Filter.none.narrowed [forward, backward])) =
        .error .operationDenied := rfl
  exact ⟨by decide, hsame, hfound, (hask _).symm.trans hfound, (htell _).symm.trans hdenied⟩

end TwoTeams

end Hub

end Roster
