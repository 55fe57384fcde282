import Roster.Proofs.Filters
import Roster.Proofs.ReadBack
import Roster.Proofs.SessionScopes

/-!
# Finding again what was filed through filters

A workspace that is filed through a chain of filters is found again through the same chain if it may
be read. It has been written, but this does not mean that it may be read: where no filter of the chain
limits writing, everything may be written, and only what each filter lists may be read.
-/

namespace Roster

open Time (Instant)

/-! ## Filing a workspace -/

/-- The commands that file one workspace, whether or not there may be one under its id. -/
def Command.filing (filter : Filter) (ws : Workspace) : List Command :=
  [createWorkspace filter ws, saveWorkspaces filter [ws]]

/-- A command that is carried out on a draft is not refused. -/
theorem Command.refusal?_of_apply {command : Command} {draft draft' : Draft}
    (h : command.apply draft = .ok draft') : command.refusal? = none := by
  unfold apply at h
  cases hrefusal : command.refusal? with
  | none => rfl
  | some error =>
    rw [hrefusal] at h
    exact nomatch h

/-- A workspace is filed only through a filter that lets it be written, and under its own id. -/
theorem Command.filed_of_on {filter : Filter} {ws : Workspace} {command : Command}
    (hcommand : command ∈ filing filter ws) {t t' : Tables} (h : command.on t = .ok t') :
    filter.canWrite ws.id = true ∧ t'.workspaces.get? ws.id = some ws := by
  obtain ⟨draft, happly, rfl⟩ := map_eq_ok.1 h
  have hrefusal := refusal?_of_apply happly
  have hwrites := refusal?_eq_none.1 hrefusal
  rw [apply_of_refusal?_eq_none hrefusal] at happly
  have hfiled : (Draft.putWorkspace { tables := t } ws).tables.workspaces.get? ws.id = some ws :=
    Tables.get?_fileWorkspace.2 (.inl ⟨rfl, rfl⟩)
  obtain rfl | hcommand := List.mem_cons.1 hcommand
  · obtain ⟨-, rfl⟩ := refusing_eq_ok.1 happly
    exact ⟨hwrites ws.id List.mem_cons_self, hfiled⟩
  · obtain rfl := List.mem_singleton.1 hcommand
    obtain rfl := Except.ok.inj happly
    exact ⟨hwrites ws.id List.mem_cons_self, hfiled⟩

namespace Hub

variable {hub hub' : Hub} {moment : Moment} {session : Session} {command : Command}

/-- The session of a transaction sees a new draft of it. -/
theorem seen_redraft {number : Nat} {tx : Transaction} (htx : hub.transactions[number]? = some tx)
    (draft : Draft) : (hub.redraft number draft).seen (hub.session number) = .ok draft.tables := by
  have htx' : (hub.redraft number draft).transactions[number]? = some { tx with draft } := by
    rw [redraft_eq htx]
    exact List.getElem?_set_self (List.getElem?_eq_some_iff.1 htx).1
  have hsession : (hub.redraft number draft).transactionOf (hub.session number) =
      .ok (some (number, { tx with draft })) := transactionOf_session htx'
  rw [seen, hsession]
  rfl

/-- When a command has been carried out through a session, the session sees what the command has made
of what it saw before. -/
theorem seen_of_tell (h : hub.tell moment session command = .ok hub') :
    ∃ t t', hub.seen session = .ok t ∧ command.on t = .ok t' ∧ hub'.seen session = .ok t' := by
  obtain hplain | ⟨number, tx, htx, hsession⟩ | ⟨error, hrefused⟩ := hub.transactionOf_cases session
  · rw [tell_of_plain_eq moment hplain] at h
    obtain ⟨store, hcommit, rfl⟩ := map_eq_ok.1 h
    obtain ⟨t', hon, hcommit⟩ := bind_eq_ok.1 hcommit
    obtain ⟨hwritable, rfl⟩ := Store.commit_eq_ok_iff.1 hcommit
    have hplain' : transactionOf { hub with store := hub.store.holding t' } session = .ok none :=
      hplain
    refine ⟨hub.store.tables, t', ?_, hon, ?_⟩
    · rw [seen, hplain]
      rfl
    · rw [seen, hplain']
      rfl
  · rw [tell_of_transaction moment hsession] at h
    obtain ⟨draft, happly, rfl⟩ := map_eq_ok.1 h
    have hon : command.on tx.draft.tables = .ok draft.tables :=
      (Draft.map_tables_apply command tx.draft).symm.trans (congrArg (Draft.tables <$> ·) happly)
    refine ⟨tx.draft.tables, draft.tables, ?_, hon, ?_⟩
    · rw [seen, hsession]
      rfl
    · rw [← redraft_eq htx, session_of_transactionOf hsession]
      exact seen_redraft htx draft
  · rw [tell_of_error moment hrefused] at h
    cases h

/-- A workspace that is fit to be given out and has been filed through a filter is found through it by
its id if it may be read, under its name as a workspace that is built bears it; otherwise it is said
that there is none. -/
theorem ask_filed {filter : Filter} {ws : Workspace} (hfit : ws.Restorable)
    (hcommand : command ∈ Command.filing filter ws)
    (htell : hub.tell moment session command = .ok hub') :
    hub'.ask session (.workspace filter ws.id) =
      if filter.canRead ws.id then .ok { ws with name := Workspace.titled ws.name }
      else .error (.notFound ("workspace " ++ ws.id.text)) := by
  obtain ⟨t, t', -, hon, hseen⟩ := seen_of_tell htell
  obtain ⟨-, hrow⟩ := Command.filed_of_on hcommand hon
  cases hread : filter.canRead ws.id with
  | true =>
    have hshows : t'.Shows ws.id { ws with name := Workspace.titled ws.name } :=
      ⟨ws, hrow, Workspace.restore_eq_ok.2 ⟨hfit, rfl⟩⟩
    exact ask_eq_ok.2 ⟨t', hseen, Query.answer_workspace_iff.2 ⟨hread, hshows⟩⟩
  | false =>
    rw [ask_eq, hseen]
    change (found _ ((t'.workspaces.get? ws.id).filter fun _ => filter.canRead ws.id) >>= _) = _
    rw [hrow, hread]
    rfl

end Hub

/-! ## Through chains of filters -/

/-- What a chain lets be written it lets be read if each filter lists it or some filter limits
writing, and otherwise not. -/
theorem Filter.canRead_ofList_of_canWrite {filters : List Filter} {id : WorkspaceId}
    (hwrite : (ofList filters).canWrite id = true) :
    (ofList filters).canRead id = true ↔
      (∀ filter ∈ filters, filter.lists id = true) ∨
        ∃ filter ∈ filters, filter.writesFreely = false := by
  rw [canWrite_ofList] at hwrite
  rw [canRead_ofList, hwrite]
  simp

namespace Workspace

/-- A workspace that was built, changed in whatever way and then filed through a chain of filters, in
a transaction or outside, is found through the same chain and session exactly when each filter lists
it as one that may be read or some filter limits writing. It is found under its name as a workspace
that is built bears it, and otherwise it is said that there is none. -/
theorem found_where_filed_iff {plan : Plan} {start : Instant} {built : Workspace}
    (hbuild : plan.build start = .ok built) (changes : List (Instant × Mutation))
    (filters : List Filter) {hub hub' : Hub} {moment : Moment} {session : Session} {command : Command}
    (hcommand : command ∈ Command.filing (.ofList filters) (built.mutated changes))
    (htell : hub.tell moment session command = .ok hub') :
    let ws := built.mutated changes
    let again := hub'.ask session (.workspace (.ofList filters) ws.id)
    ((∃ found, again = .ok found ∧ found.id = ws.id) ↔
      (∀ filter ∈ filters, filter.lists ws.id = true) ∨
        ∃ filter ∈ filters, filter.writesFreely = false) ∧
    (again = .ok { ws with name := titled ws.name } ∨
      again = .error (.notFound ("workspace " ++ ws.id.text))) := by
  intro ws again
  have hfit : ws.Restorable :=
    (built.retains_mutated changes).restorable (restorable_of_build hbuild)
  have hagain : again = _ := Hub.ask_filed hfit hcommand htell
  obtain ⟨t, t', -, hon, -⟩ := Hub.seen_of_tell htell
  have hwrite := (Command.filed_of_on hcommand hon).1
  rw [hagain, ← Filter.canRead_ofList_of_canWrite hwrite]
  cases (Filter.ofList filters).canRead ws.id <;> simp

/-! ### A team that is filed and not found -/

namespace UnlistedTeam

/-- Only another team may be read. -/
def reading : Filter :=
  .ofReadable [⟨"a"⟩]

/-- Only the team may be written. -/
def writing : Filter :=
  { writable := some [⟨"b"⟩] }

/-- A store without a snapshot and with nothing in it, in which a transaction has begun. -/
def hub : Hub where
  store := { tables := {}, file := none, attached := false }
  transactions := [{ draft := { tables := {} } }]

/-- The team is built without members. -/
theorem build_team : Plan.build { id := some ⟨"b"⟩ } .epoch = .ok (deserted ⟨"b"⟩) := by
  rfl

/-- The team under a name with blank ends is saved in the transaction, through both limits. -/
def saving : Command :=
  .saveWorkspaces (.ofList [reading, writing])
    [(deserted ⟨"b"⟩).mutated [(.epoch, .rename " Team ")]]

/-- Where writing is limited to the team, it is found though it is not listed. -/
theorem found_unlisted :
    ∃ hub', hub.tell .epoch (hub.session 0) saving = .ok hub' ∧
      ∃ found, hub'.ask (hub.session 0) (.workspace (.ofList [reading, writing]) ⟨"b"⟩) = .ok found ∧
        found.id = ⟨"b"⟩ := by
  obtain ⟨hub', htell⟩ : ∃ hub', hub.tell .epoch (hub.session 0) saving = .ok hub' := ⟨_, rfl⟩
  have hlimited : ∃ filter ∈ [reading, writing], filter.writesFreely = false :=
    ⟨writing, by simp, rfl⟩
  have hagain := found_where_filed_iff build_team [(.epoch, .rename " Team ")] [reading, writing]
    (List.mem_cons_of_mem _ List.mem_cons_self) htell
  exact ⟨hub', htell, hagain.1.2 (.inr hlimited)⟩

/-- Where writing is not limited, the team may be filed, by either command, and is then not found. -/
theorem not_found_unlisted :
    Plan.build { id := some ⟨"b"⟩ } .epoch = .ok (deserted ⟨"b"⟩) ∧
      ∀ command ∈ Command.filing (.ofList [reading]) (deserted ⟨"b"⟩),
        ∃ hub', hub.tell .epoch .plain command = .ok hub' ∧
          hub'.ask .plain (.workspace (.ofList [reading]) ⟨"b"⟩) =
            .error (.notFound "workspace b") := by
  refine ⟨build_team, fun command hcommand => ?_⟩
  obtain rfl | hcommand := List.mem_cons.1 hcommand
  · exact ⟨_, rfl, rfl⟩
  · obtain rfl := List.mem_singleton.1 hcommand
    exact ⟨_, rfl, rfl⟩

end UnlistedTeam

end Workspace

end Roster
