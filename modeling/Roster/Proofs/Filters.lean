import Roster.Proofs.Memberships
import Roster.Proofs.Sweeps
import Roster.Proofs.Transactions

/-!
# Chains of filters

Each filter of a chain is meant to narrow what the ones before it allow. For writing this is so.
What may be read depends on both lists of a filter, though, while filters are merged one list at a
time: a filter that limits writing can open a workspace for reading again that another one closes.
-/

namespace Roster

/-! ## Merging -/

namespace Filter

variable {filters : List Filter} {id : WorkspaceId}

/-- Whether a workspace is on the list of those that may be read, if there is such a list. -/
def lists (filter : Filter) (id : WorkspaceId) : Bool :=
  filter.readable.all fun ids => id ∈ ids

/-- Whether there is no limit to writing. -/
def writesFreely (filter : Filter) : Bool :=
  filter.writable.isNone

/-- What is listed may be read and, where writing is limited, what may be written. -/
theorem canRead_eq (filter : Filter) (id : WorkspaceId) :
    filter.canRead id = (filter.lists id || !filter.writesFreely && filter.canWrite id) := by
  obtain ⟨readable, writable⟩ := filter
  cases readable <;> cases writable <;> rfl

/-- Where two lists meet is what is on both of them, and everything is on a missing list. -/
theorem all_meet (a b : Option (List WorkspaceId)) (id : WorkspaceId) :
    ((meet a b).all fun ids => id ∈ ids) =
      ((a.all fun ids => id ∈ ids) && b.all fun ids => id ∈ ids) := by
  cases a <;> cases b <;> simp [meet]

/-- Merged filters list what both of them list. -/
theorem lists_merge (a b : Filter) (id : WorkspaceId) :
    (a.merge b).lists id = (a.lists id && b.lists id) :=
  all_meet a.readable b.readable id

/-- Merged filters let a workspace be written that both of them let be written. -/
theorem canWrite_merge (a b : Filter) (id : WorkspaceId) :
    (a.merge b).canWrite id = (a.canWrite id && b.canWrite id) :=
  all_meet a.writable b.writable id

/-- Merged filters leave writing free if both of them do. -/
theorem writesFreely_merge (a b : Filter) :
    (a.merge b).writesFreely = (a.writesFreely && b.writesFreely) := by
  simp only [merge, writesFreely]
  cases a.writable <;> cases b.writable <;> rfl

/-- A test that two merged filters pass exactly when both of them do is passed by a chain exactly
when each filter in it passes. -/
theorem test_ofList (test : Filter → Bool) (hnone : test none = true)
    (hmerge : ∀ a b : Filter, test (a.merge b) = (test a && test b)) (filters : List Filter) :
    test (ofList filters) = filters.all test := by
  have hfold (start : Filter) :
      test (filters.foldl merge start) = (test start && filters.all test) := by
    induction filters generalizing start with
    | nil => exact (Bool.and_true _).symm
    | cons filter rest ih => rw [List.foldl_cons, ih, hmerge, List.all_cons, Bool.and_assoc]
  rw [ofList, hfold, hnone, Bool.true_and]

/-- Through a chain a workspace may be written if each filter allows it. -/
theorem canWrite_ofList (filters : List Filter) (id : WorkspaceId) :
    (ofList filters).canWrite id = filters.all (·.canWrite id) :=
  test_ofList (·.canWrite id) rfl (canWrite_merge · · id) filters

/-- Through a chain a workspace may be read if each filter lists it, and also if some filter limits
writing and each allows the workspace to be written. -/
theorem canRead_ofList (filters : List Filter) (id : WorkspaceId) :
    (ofList filters).canRead id =
      (filters.all (·.lists id) || !filters.all writesFreely && filters.all (·.canWrite id)) := by
  rw [canRead_eq, canWrite_ofList, test_ofList writesFreely rfl writesFreely_merge,
    test_ofList (·.lists id) rfl (lists_merge · · id)]

/-- A chain opens a workspace again: a filter keeps it from being read, while some filter limits
writing and none keeps it from being written. -/
def Reopens (filters : List Filter) (id : WorkspaceId) : Prop :=
  (∃ filter ∈ filters, filter.canRead id = false) ∧
    (∃ filter ∈ filters, filter.writesFreely = false) ∧
    ∀ filter ∈ filters, filter.canWrite id = true

instance : Decidable (Reopens filters id) :=
  inferInstanceAs (Decidable (_ ∧ _))

/-- Opening a workspace again is the one way in which a chain lets it be read against one of its
filters. -/
theorem reopens_iff :
    Reopens filters id ↔
      (∃ filter ∈ filters, filter.canRead id = false) ∧ (ofList filters).canRead id = true := by
  have hlisted (hlists : filters.all (·.lists id) = true) :
      ¬ ∃ filter ∈ filters, filter.canRead id = false := by
    rintro ⟨filter, hfilter, hclosed⟩
    rw [canRead_eq, List.all_eq_true.1 hlists filter hfilter] at hclosed
    exact absurd hclosed (by simp)
  refine and_congr_right fun hclosed => ?_
  rw [canRead_ofList, Bool.eq_false_iff.2 fun hlists => hlisted hlists hclosed]
  simp

end Filter

/-! ## Finders and commands -/

namespace Query

variable {α : Type} {query : Query α} {filter : Filter} {given : α → List Workspace} {t : Tables}
variable {answer : α} {ws : Workspace}

/-- The filter of a query for workspaces, and the workspaces in its answer. -/
def finder? {α : Type} : Query α → Option (Filter × (α → List Workspace))
  | workspace filter _ => some (filter, fun ws => [ws])
  | workspaces filter _ => some (filter, id)
  | workspacesOf filter _ => some (filter, id)
  | workspaceNamed filter _ => some (filter, fun ws => [ws])
  | workspaceAliased filter _ => some (filter, fun ws => [ws])
  | _ => none

/-- What is answered has been found by searching the tables. -/
theorem search_of_answer (h : query.answer t = .ok answer) : query.search t = .ok answer := by
  unfold Query.answer at h
  split at h
  · exact nomatch h
  · exact h

/-- One workspace is given out as the row that was found for it is restored. -/
theorem row_of_found {p : Workspace → Prop} {what : String} {o : Option Workspace}
    (hrow : ∀ row, o = some row → p row) (h : (found what o >>= Workspace.restore) = .ok ws) :
    ∃ row, p row ∧ row.restore = .ok ws := by
  obtain ⟨row, hfound, hrestore⟩ := bind_eq_ok.1 h
  exact ⟨row, hrow row (found_eq_ok.1 hfound), hrestore⟩

/-- Many workspaces are given out as the rows that were found for them are restored. -/
theorem row_of_mapM {p : Workspace → Prop} {rows workspaces : List Workspace}
    (hrows : ∀ row ∈ rows, p row) (h : rows.mapM Workspace.restore = .ok workspaces)
    (hws : ws ∈ workspaces) : ∃ row, p row ∧ row.restore = .ok ws := by
  obtain ⟨row, hrow, hrestore⟩ := (mapM_eq_ok h).2 ws hws
  exact ⟨row, hrows row hrow, hrestore⟩

/-- A workspace in an answer is restored from a row that the filter of the query lets be read. -/
theorem row_of_answer (hfinder : query.finder? = some (filter, given)) (hfiled : t.Filed)
    (hanswer : query.answer t = .ok answer) (hws : ws ∈ given answer) :
    ∃ row : Workspace, filter.canRead row.id = true ∧ row.restore = .ok ws := by
  have h := search_of_answer hanswer
  cases query with
  | workspace filter' key =>
    obtain ⟨rfl, rfl⟩ := Prod.mk.inj (Option.some.inj hfinder)
    obtain rfl := List.mem_singleton.1 hws
    obtain ⟨hcanRead, row, hrow, hrestore⟩ := answer_workspace_iff.1 hanswer
    exact ⟨row, by rwa [hfiled.workspaces hrow], hrestore⟩
  | workspaces filter' ids =>
    obtain ⟨rfl, rfl⟩ := Prod.mk.inj (Option.some.inj hfinder)
    refine row_of_mapM (fun row hrow => ?_) h hws
    obtain ⟨key, hkey, hrow⟩ := List.mem_filterMap.1 hrow
    rw [hfiled.workspaces hrow]
    exact (List.mem_filter.1 hkey).2
  | workspacesOf filter' member =>
    obtain ⟨rfl, rfl⟩ := Prod.mk.inj (Option.some.inj hfinder)
    refine row_of_mapM (fun row hrow => ?_) h hws
    exact (Bool.and_eq_true_iff.1 (List.mem_filter.1 hrow).2).2
  | workspaceNamed filter' name =>
    obtain ⟨rfl, rfl⟩ := Prod.mk.inj (Option.some.inj hfinder)
    obtain rfl := List.mem_singleton.1 hws
    refine row_of_found (fun row hrow => ?_) h
    have hchosen := List.find?_some hrow
    exact (Bool.and_eq_true_iff.1 hchosen).2
  | workspaceAliased filter' aliasName =>
    obtain ⟨rfl, rfl⟩ := Prod.mk.inj (Option.some.inj hfinder)
    obtain rfl := List.mem_singleton.1 hws
    refine row_of_found (fun row hrow => ?_) h
    have hchosen := List.find?_some hrow
    exact (Bool.and_eq_true_iff.1 hchosen).2
  | _ => nomatch hfinder

end Query

/-- A command is refused unless its filter lets it write everything it writes. -/
theorem Command.refusal?_eq_none {command : Command} :
    command.refusal? = none ↔ ∀ id ∈ command.writes.2, command.writes.1.canWrite id = true := by
  simp [refusal?]

/-- A command that is carried out through any session is not refused. -/
theorem Hub.refusal?_of_tell {hub hub' : Hub} {moment : Moment} {session : Session}
    {command : Command} (h : hub.tell moment session command = .ok hub') :
    command.refusal? = none := by
  unfold tell at h
  cases hrefusal : command.refusal? with
  | none => rfl
  | some error =>
    rw [hrefusal] at h
    exact nomatch h

/-! ## Narrowing -/

/-- A team that nobody has joined. -/
def Workspace.deserted (id : WorkspaceId) : Workspace where
  id
  name := untitled
  aliasName := ""
  email := ""
  profile := {}
  members := .empty
  policy := none
  updatedAt := .epoch

/-- The hub of a store with nothing in it but a team that nobody has joined. -/
def Hub.desertion (id : WorkspaceId) : Hub where
  store.tables.workspaces := Table.insert ∅ id (.deserted id)
  store.file := none
  store.attached := false

/-- The deserted team is filed under its own id. -/
theorem Hub.filed_desertion (id : WorkspaceId) : (desertion id).store.tables.Filed := by
  refine Tables.Filed.withWorkspaces (by decide : Tables.Filed {}) fun {key ws} hrow => ?_
  change Table.get? (Table.insert ∅ id (Workspace.deserted id)) key = some ws at hrow
  rw [Table.get?_insert] at hrow
  split at hrow
  · obtain rfl := Option.some.inj hrow
    assumption
  · exact nomatch hrow

/-- The deserted team is found by whoever may read it. -/
theorem Hub.ask_desertion {filter : Filter} {id : WorkspaceId} (hid : id.text.isEmpty = false)
    (hreads : filter.canRead id = true) :
    (desertion id).ask .plain (.workspace filter id) = .ok (.deserted id) := by
  have hshows : (desertion id).store.tables.Shows id (.deserted id) := by
    refine ⟨.deserted id, ?_, Workspace.restore_eq_ok.2 ⟨⟨hid, nofun⟩, ?_⟩⟩
    · exact (Table.get?_insert ..).trans (if_pos rfl)
    · have htitled : Workspace.titled Workspace.untitled = Workspace.untitled := by decide
      rw [Workspace.deserted, htitled]
  exact Hub.ask_eq_ok.2 ⟨_, rfl, Query.answer_workspace_iff.2 ⟨hreads, hshows⟩⟩

namespace Filter

variable {filters : List Filter} {id : WorkspaceId}

/-- A chain narrows what is read: whatever is stored and asked, the workspace is given out only if
each filter lets it be read. -/
def NarrowsReading (filters : List Filter) (id : WorkspaceId) : Prop :=
  ∀ {α : Type} (query : Query α) (given : α → List Workspace) (hub : Hub) (session : Session)
    (t : Tables) (answer : α) (ws : Workspace),
    query.finder? = some (ofList filters, given) → hub.seen session = .ok t → t.Filed →
      hub.ask session query = .ok answer → ws ∈ given answer → ws.id = id →
        ∀ filter ∈ filters, filter.canRead id = true

/-- A chain narrows what is written: whatever is stored, a command that writes or removes the
workspace is accepted only if each filter lets it be written. -/
def NarrowsWriting (filters : List Filter) (id : WorkspaceId) : Prop :=
  ∀ (hub hub' : Hub) (moment : Moment) (session : Session) (command : Command),
    command.writes.1 = ofList filters → id ∈ command.writes.2 →
      hub.tell moment session command = .ok hub' →
        ∀ filter ∈ filters, filter.canWrite id = true

/-- Reading is narrowed unless the chain opens the workspace again. A workspace without an id is
never given out, whatever the chain is. -/
theorem narrowsReading_iff :
    NarrowsReading filters id ↔ id.text.isEmpty = true ∨ ¬ Reopens filters id := by
  constructor
  · intro hnarrows
    by_contra hopen
    obtain ⟨hid, hopens⟩ := not_or.1 hopen
    obtain ⟨⟨filter, hfilter, hclosed⟩, hreads⟩ := reopens_iff.1 (not_not.1 hopens)
    have hfound := Hub.ask_desertion (Bool.eq_false_iff.2 hid) hreads
    have hread := hnarrows _ _ _ .plain _ _ _ rfl rfl (Hub.filed_desertion id) hfound
      List.mem_cons_self rfl filter hfilter
    exact Bool.eq_false_iff.1 hclosed hread
  · intro hclosed α query given hub session t answer ws hfinder hseen hfiled hask hws hid
    subst hid
    obtain ⟨t', hseen', hanswer⟩ := Hub.ask_eq_ok.1 hask
    obtain rfl := Except.ok.inj (hseen.symm.trans hseen')
    obtain ⟨row, hreads, hrestore⟩ := Query.row_of_answer hfinder hfiled hanswer hws
    obtain ⟨⟨hid, -⟩, rfl⟩ := Workspace.restore_eq_ok.1 hrestore
    have hopens := hclosed.resolve_left (Bool.eq_false_iff.1 hid)
    intro filter hfilter
    by_contra hfalse
    exact hopens (reopens_iff.2 ⟨⟨filter, hfilter, Bool.eq_false_iff.2 hfalse⟩, hreads⟩)

/-- Writing is narrowed by every chain. -/
theorem narrowsWriting (filters : List Filter) (id : WorkspaceId) : NarrowsWriting filters id := by
  intro hub hub' moment session command hwrites hid htell
  have hcanWrite := Command.refusal?_eq_none.1 (Hub.refusal?_of_tell htell) id hid
  rw [hwrites, canWrite_ofList] at hcanWrite
  exact List.all_eq_true.1 hcanWrite

/-- A chain narrows what is read of a workspace with an id exactly when it does not open the
workspace again, and it always narrows what is written. -/
theorem narrows_iff (filters : List Filter) (id : WorkspaceId) :
    (NarrowsReading filters id ↔ id.text.isEmpty = true ∨ ¬ Reopens filters id) ∧
      NarrowsWriting filters id :=
  ⟨narrowsReading_iff, narrowsWriting filters id⟩

/-- Two filters: the first lets nothing but one team be read, the second nothing but another team
be written. -/
def readOneWriteOther : List Filter :=
  [ofReadable [⟨"a"⟩], { writable := some [⟨"b"⟩] }]

/-- Though the first of the two filters keeps the other team from being read, it is found through
both of them. -/
theorem not_narrowsReading_readOneWriteOther :
    (ofReadable [⟨"a"⟩]).canRead ⟨"b"⟩ = false ∧
      (Hub.desertion ⟨"b"⟩).ask .plain (.workspace (ofList readOneWriteOther) ⟨"b"⟩) =
        .ok (.deserted ⟨"b"⟩) ∧
      ¬ NarrowsReading readOneWriteOther ⟨"b"⟩ := by
  have hclosed : (ofReadable [⟨"a"⟩]).canRead ⟨"b"⟩ = false := by decide
  have hfound : (Hub.desertion ⟨"b"⟩).ask .plain (.workspace (ofList readOneWriteOther) ⟨"b"⟩) =
      .ok (.deserted ⟨"b"⟩) := Hub.ask_desertion (by decide) (by decide)
  refine ⟨hclosed, hfound, fun hnarrows => ?_⟩
  have hread := hnarrows _ _ _ .plain _ _ _ rfl rfl (Hub.filed_desertion ⟨"b"⟩) hfound
    List.mem_cons_self rfl _ List.mem_cons_self
  rw [hclosed] at hread
  exact Bool.false_ne_true hread

end Filter

end Roster
