import Roster.Proofs.Transparency

/-!
# Usecases are carried out completely or not at all

A usecase may be run with any program, which decides on each of its calls by the replies to the calls
before it. What is reported of the run are these calls and replies as well as the outcome. In a
transaction the replies are those that the committed tables would give if the calls were made on them
directly, and everything that the program has written is committed in the end, or nothing is. Outside
a transaction each call is made on the committed tables for good. For a caller who does not pass the
check no call is made at all.
-/

namespace Roster

/-! ## Calls made directly on tables -/

namespace Tables

/-- Make a call directly on tables. A command that is refused changes nothing. -/
def serve (t : Tables) : (errand : Errand) → Except Error errand.Answer × Tables
  | .ask query => (query.answer t, t)
  | .tell command =>
    match command.on t with
    | .ok t => (.ok (), t)
    | .error error => (.error error, t)

/-- Make calls directly on tables, one after the other. -/
def serveAll : Tables → List Errand → List Reply × Tables
  | t, [] => ([], t)
  | t, errand :: rest =>
    let (reply, t) := t.serve errand
    let (replies, t) := serveAll t rest
    (⟨errand, reply⟩ :: replies, t)

/-- The first call is made, and then the others on the tables that it leaves. -/
theorem serveAll_cons {t t₁ t₂ : Tables} {errand : Errand} {reply : Except Error errand.Answer}
    {replies : List Reply} (hfirst : t.serve errand = (reply, t₁))
    (hrest : t₁.serveAll (replies.map Sigma.fst) = (replies, t₂)) :
    t.serveAll (errand :: replies.map Sigma.fst) = (⟨errand, reply⟩ :: replies, t₂) := by
  simp only [serveAll, hfirst, hrest]

end Tables

/-! ## The calls of a program -/

/-- A commit fails exactly when there is a snapshot to be kept that cannot be written. -/
theorem Store.commit_eq_error_iff {store : Store} {moment : Moment} {t : Tables} {error : Error} :
    store.commit moment t = .error error ↔
      store.attached = true ∧
        ∃ reason, moment.writeFault = some reason ∧ error = .storage reason := by
  unfold commit
  cases store.attached <;> cases moment.writeFault <;> simp [eq_comm]

/-- Who does not pass a check is denied. -/
theorem Requirements.eq_operationDenied {requirements : Requirements} {operator : Option Operator}
    {error : Error} (h : requirements.check operator = .error error) : error = .operationDenied := by
  unfold check at h
  split at h
  · exact nomatch h
  · split at h
    · exact nomatch h
    · exact (Except.error.inj h).symm

/-- A program whose calls are replied to as listed makes just these calls and comes to an outcome.
It is also said how many ids have been drawn before and afterwards. -/
inductive Program.Plays {α : Type} (ids : Nat → String) :
    Program α → (before : Nat) → List Reply → Except Error α → (after : Nat) → Prop
  | finish (outcome : Except Error α) (drawn : Nat) :
    Plays ids (.finish outcome) drawn [] outcome drawn
  | ask {β : Type} {query : Query β} {next : Except Error β → Program α} {before after : Nat}
    {reply : Except Error β} {rest : List Reply} {outcome : Except Error α}
    (h : Plays ids (next reply) before rest outcome after) :
    Plays ids (.ask query next) before (⟨.ask query, reply⟩ :: rest) outcome after
  | tell {command : Command} {next : Except Error Unit → Program α} {before after : Nat}
    {reply : Except Error Unit} {rest : List Reply} {outcome : Except Error α}
    (h : Plays ids (next reply) before rest outcome after) :
    Plays ids (.tell command next) before (⟨.tell command, reply⟩ :: rest) outcome after
  | draw {next : String → Program α} {before after : Nat} {calls : List Reply}
    {outcome : Except Error α} (h : Plays ids (next (ids before)) (before + 1) calls outcome after) :
    Plays ids (.draw next) before calls outcome after

/-- The replies decide what a program comes to. -/
theorem Program.Plays.unique {α : Type} {ids : Nat → String} {body : Program α}
    {before after after' : Nat} {calls : List Reply} {outcome outcome' : Except Error α}
    (h : body.Plays ids before calls outcome after)
    (h' : body.Plays ids before calls outcome' after') : outcome = outcome' := by
  induction h with
  | finish outcome drawn =>
    cases h'
    rfl
  | ask h ih | tell h ih =>
    cases h' with
    | _ h' => exact ih h'
  | draw h ih =>
    cases h' with
    | draw h' => exact ih h'

namespace Hub

variable {α : Type} {moment : Moment} {hub : Hub} {number : Nat} {tx : Transaction}

/-- What is reported of a run: the outcome, the calls that were made with their replies, and the hub
and the number of drawn ids that are left behind. -/
structure Report (α : Type) where
  outcome : Except Error α
  calls : List Reply
  hub : Hub
  drawn : Nat

/-- One more call comes before all others. -/
def Report.after (report : Report α) (call : Reply) : Report α :=
  { report with calls := call :: report.calls }

/-- Run a program through a session, where some ids have been drawn before, and report its calls. -/
def report (moment : Moment) (session : Session) : Program α → Hub → (drawn : Nat) → Report α
  | .finish outcome, hub, drawn => { outcome, calls := [], hub, drawn }
  | .ask query next, hub, drawn =>
    let reply := hub.ask session query
    (report moment session (next reply) hub drawn).after ⟨.ask query, reply⟩
  | .tell command next, hub, drawn =>
    let (reply, hub) := hub.serve moment session (.tell command)
    (report moment session (next reply) hub drawn).after ⟨.tell command, reply⟩
  | .draw next, hub, drawn => report moment session (next (moment.ids drawn)) hub (drawn + 1)

/-- Run a program through a session if the caller passes the check. -/
def attempt (hub : Hub) (moment : Moment) (session : Session) (requirements : Requirements)
    (operator : Option Operator) (body : Program α) (drawn : Nat) : Report α :=
  match requirements.check operator with
  | .error error => { outcome := .error error, calls := [], hub, drawn }
  | .ok () => report moment session body hub drawn

/-- Run a usecase through sessions. One that needs a transaction begins it, and has to wait while
another transaction is open. -/
def undertake? (hub : Hub) (moment : Moment) (usecase : Usecase) (operator : Option Operator)
    (body : Program α) (drawn : Nat) : Option (Report α) :=
  if usecase.transactional then
    match hub.begin? with
    | none => none
    | some (number, begun) =>
      let work := begun.attempt moment (begun.session number) usecase.requirements operator body drawn
      let (outcome, ended) := work.hub.close moment number work.outcome
      some { work with outcome, hub := ended }
  else some (hub.attempt moment .plain usecase.requirements operator body drawn)

/-! ### What is reported -/

/-- Apart from the calls, the report says what the run comes to. -/
theorem perform_eq_report (session : Session) (body : Program α) (hub : Hub) (drawn : Nat) :
    Hub.perform moment session body hub drawn =
      ((report moment session body hub drawn).outcome, (report moment session body hub drawn).hub,
        (report moment session body hub drawn).drawn) := by
  induction body generalizing hub drawn with
  | finish outcome => rfl
  | ask query next ih => exact ih _ hub drawn
  | tell command next ih =>
    simp only [Hub.perform, report, serve]
    cases hub.tell moment session command with
    | ok hub => exact ih _ hub drawn
    | error error => exact ih _ hub drawn
  | draw next ih => exact ih _ hub (drawn + 1)

/-- The program has made the calls that are reported, and has come to the outcome by their
replies. -/
theorem plays_report (session : Session) (body : Program α) (hub : Hub) (drawn : Nat) :
    body.Plays moment.ids drawn (report moment session body hub drawn).calls
      (report moment session body hub drawn).outcome
      (report moment session body hub drawn).drawn := by
  induction body generalizing hub drawn with
  | finish outcome => exact .finish outcome drawn
  | ask query next ih => exact .ask (ih _ hub drawn)
  | tell command next ih => exact .tell (ih _ _ drawn)
  | draw next ih => exact .draw (ih _ hub (drawn + 1))

/-- The calls that are reported have been made through the session, one after the other. -/
theorem serveAll_report (session : Session) (body : Program α) (hub : Hub) (drawn : Nat) :
    hub.serveAll session
        ((report moment session body hub drawn).calls.map fun call => (moment, call.1)) =
      ((report moment session body hub drawn).calls,
        (report moment session body hub drawn).hub) := by
  induction body generalizing hub drawn with
  | finish outcome => rfl
  | ask query next ih =>
    have hrest := ih (hub.ask session query) hub drawn
    simp only [report, Report.after, List.map_cons, serveAll, serve, hrest]
    rfl
  | tell command next ih =>
    have hrest := ih (hub.serve moment session (.tell command)).1
      (hub.serve moment session (.tell command)).2 drawn
    simp only [report, Report.after, List.map_cons, serveAll, hrest]
  | draw next ih => exact ih _ hub (drawn + 1)

/-- In a transaction, calls are replied to as if they were made directly on the tables of its draft,
and the draft comes to the tables that this would leave. -/
theorem serveAll_onDraft (body : Program α) (htx : hub.transactions[number]? = some tx)
    (drawn : Nat) :
    tx.draft.tables.serveAll
        ((report moment (hub.session number) body hub drawn).calls.map Sigma.fst) =
      ((report moment (hub.session number) body hub drawn).calls,
        (body.onDraft moment.ids tx.draft drawn).2.1.tables) := by
  -- A command replaces the transaction by one with another draft, so none of them is kept fixed.
  induction body generalizing hub tx drawn with
  | finish outcome => rfl
  | ask query next ih =>
    have hrest := ih (query.answer tx.draft.tables) htx drawn
    simp only [report, Report.after, List.map_cons, Tables.serveAll, Tables.serve, Program.onDraft,
      ask_session htx, hrest]
  | tell command next ih =>
    have hon := Draft.map_tables_apply command tx.draft
    have htell := tell_of_transaction moment (transactionOf_session htx) command
    cases happly : command.apply tx.draft with
    | error error =>
      rw [happly] at hon htell
      have hserve : hub.serve moment (hub.session number) (.tell command) = (.error error, hub) := by
        simp only [serve, htell, Except.map]
      have hdirect : tx.draft.tables.serve (.tell command) = (.error error, tx.draft.tables) := by
        simp only [Tables.serve, ← hon, Except.map]
      simp only [report, hserve, Report.after, Program.onDraft, happly]
      exact Tables.serveAll_cons hdirect (ih (.error error) htx drawn)
    | ok draft =>
      rw [happly] at hon htell
      let told : Hub := { hub with transactions := hub.transactions.set number { tx with draft } }
      have hserve : hub.serve moment (hub.session number) (.tell command) = (.ok (), told) := by
        simp only [serve, htell, Except.map, told]
      have hdirect : tx.draft.tables.serve (.tell command) = (.ok (), draft.tables) := by
        simp only [Tables.serve, ← hon, Except.map]
      have htold : told.transactions[number]? = some { tx with draft } :=
        List.getElem?_set_self (List.getElem?_eq_some_iff.1 htx).1
      simp only [report, hserve, Report.after, Program.onDraft, happly]
      exact Tables.serveAll_cons hdirect (ih (.ok ()) htold drawn)
  | draw next ih => exact ih _ htx (drawn + 1)

/-- As long as the snapshot can be written, a call through a plain session is replied to as if it
were made directly on the committed tables, and leaves there what this would leave. -/
theorem serve_plain (hub : Hub) (hwritable : hub.store.Writable moment) (errand : Errand) :
    ∃ plain, hub.serve moment .plain errand = ((hub.store.tables.serve errand).1, plain) ∧
      plain.store.tables = (hub.store.tables.serve errand).2 ∧ plain.store.Writable moment := by
  cases errand with
  | ask query => exact ⟨hub, congrArg (·, hub) (ask_of_plain rfl query), rfl, hwritable⟩
  | tell command =>
    have htell : hub.tell moment .plain command = _ := tell_of_plain_eq moment rfl command
    cases hon : command.on hub.store.tables with
    | error error =>
      simp only [hon] at htell
      have hserve : hub.serve moment .plain (.tell command) = (.error error, hub) := by
        simp only [serve, htell, bind, Except.bind, Except.map]
      exact ⟨hub, by simp only [hserve, Tables.serve, hon], by simp only [Tables.serve, hon],
        hwritable⟩
    | ok t =>
      have hcommit := Store.commit_of_writable hwritable t
      simp only [hon, bind, Except.bind, hcommit] at htell
      have hserve : hub.serve moment .plain (.tell command) =
          (.ok (), { hub with store := hub.store.holding t }) := by
        simp only [serve, htell, Except.map]
      exact ⟨{ hub with store := hub.store.holding t }, by simp only [hserve, Tables.serve, hon],
        by simp only [Tables.serve, hon, Store.holding], hwritable⟩

/-- As long as the snapshot can be written, calls through a plain session are made directly on the
committed tables. -/
theorem serveAll_plain (hub : Hub) (hwritable : hub.store.Writable moment) (errands : List Errand) :
    hub.store.tables.serveAll errands =
      ((hub.serveAll .plain (errands.map (moment, ·))).1,
        (hub.serveAll .plain (errands.map (moment, ·))).2.store.tables) := by
  induction errands generalizing hub with
  | nil => rfl
  | cons errand rest ih =>
    obtain ⟨plain, hserve, htables, hwritable'⟩ := hub.serve_plain hwritable errand
    simp only [Tables.serveAll, List.map_cons, serveAll, hserve, ← htables, ih plain hwritable']

/-! ### Usecases -/

/-- Apart from the calls, the report of a usecase in a transaction says what the transaction comes
to. -/
theorem transact?_eq_undertake? (hub : Hub) {usecase : Usecase}
    (htransactional : usecase.transactional = true) (operator : Option Operator) (body : Program α)
    (drawn : Nat) :
    hub.transact? moment usecase.requirements operator body drawn =
      match hub.undertake? moment usecase operator body drawn with
      | none => none
      | some run => some (run.outcome, run.hub, run.drawn) := by
  simp only [transact?, undertake?, htransactional, if_true, attempt]
  cases hub.begin? with
  | none => rfl
  | some begun =>
    simp only [Option.bind_eq_bind, Option.bind_some]
    cases usecase.requirements.check operator with
    | error error => rfl
    | ok _ =>
      simp only [perform_eq_report]
      rfl

/-- A usecase in a transaction cannot be undertaken while another transaction is open. -/
theorem undertake?_eq_none_iff (hub : Hub) {usecase : Usecase} {operator : Option Operator}
    {body : Program α} {drawn : Nat} :
    hub.undertake? moment usecase operator body drawn = none ↔
      usecase.transactional = true ∧ hub.gateFree = false := by
  unfold undertake? begin?
  cases usecase.transactional <;> cases hub.gateFree <;> simp

/-- What a usecase comes to through sessions is what it comes to on the directory, and it leaves no
transaction open. -/
theorem perform_run_of_undertake? {usecase : Usecase} {operator : Option Operator}
    {body : Program α} {drawn : Nat} {run : Report α}
    (hrun : hub.undertake? moment usecase operator body drawn = some run) :
    (usecase.run operator body).perform moment { store := hub.store, drawn } =
        (run.outcome, { store := run.hub.store, drawn := run.drawn }) ∧
      (hub.gateFree = true → run.hub.gateFree = true) := by
  cases htransactional : usecase.transactional with
  | true =>
    have hfree : hub.gateFree = true := by
      by_contra hgate
      have hnone : hub.undertake? moment usecase operator body drawn = none :=
        hub.undertake?_eq_none_iff.2 ⟨htransactional, Bool.eq_false_iff.2 hgate⟩
      exact nomatch hrun.symm.trans hnone
    obtain ⟨run', hrun', hagrees⟩ := transact?_agrees moment hfree htransactional operator body drawn
    rw [transact?_eq_undertake? hub htransactional, hrun] at hrun'
    obtain rfl := Option.some.inj hrun'
    exact ⟨hagrees.result_eq, fun _ => hagrees.gateFree⟩
  | false =>
    rw [undertake?, htransactional] at hrun
    obtain rfl := Option.some.inj hrun
    rw [Usecase.run, htransactional, Action.perform_bind, Action.perform_ofExcept, attempt]
    cases usecase.requirements.check operator with
    | error error => exact ⟨rfl, id⟩
    | ok _ =>
      have hperform : Hub.perform moment .plain body hub drawn = _ := perform_plain body hub drawn
      simp only [perform_eq_report, Prod.mk.injEq] at hperform
      obtain ⟨houtcome, hhub, hdrawn⟩ := hperform
      rw [houtcome, hhub, hdrawn]
      exact ⟨Usecase.perform_runPlain body, id⟩

/-- In a transaction, the calls of a program whose caller passes the check are made through the
session of the transaction that has just begun. -/
theorem calls_of_undertake? {usecase : Usecase} (htransactional : usecase.transactional = true)
    {operator : Option Operator} (hcheck : usecase.requirements.check operator = .ok ())
    {body : Program α} {drawn : Nat} {run : Report α}
    (hrun : hub.undertake? moment usecase operator body drawn = some run) :
    let begun := { hub with
      transactions := hub.transactions ++ [{ draft := { tables := hub.store.tables } }] }
    let work := report moment (begun.session hub.transactions.length) body begun drawn
    run.calls = work.calls ∧ run.drawn = work.drawn := by
  unfold undertake? begin? attempt at hrun
  rw [if_pos htransactional, hcheck] at hrun
  cases hfree : hub.gateFree with
  | false =>
    rw [hfree] at hrun
    exact nomatch hrun
  | true =>
    rw [hfree] at hrun
    obtain rfl := Option.some.inj hrun
    exact ⟨rfl, rfl⟩

/-- In a transaction, a program whose caller passes the check works on a draft of the committed
tables. Its calls are replied to as if they were made directly on these tables, and the draft comes
to what this would leave of them. -/
theorem onDraft_of_undertake? {usecase : Usecase} (htransactional : usecase.transactional = true)
    {operator : Option Operator} (hcheck : usecase.requirements.check operator = .ok ())
    {body : Program α} {drawn : Nat} {run : Report α}
    (hrun : hub.undertake? moment usecase operator body drawn = some run) :
    ∃ own draft,
      body.onDraft moment.ids { tables := hub.store.tables } drawn = (own, draft, run.drawn) ∧
        body.Plays moment.ids drawn run.calls own run.drawn ∧
        hub.store.tables.serveAll (run.calls.map Sigma.fst) = (run.calls, draft.tables) := by
  obtain ⟨hcalls, hdrawn⟩ := calls_of_undertake? htransactional hcheck hrun
  let opened : Transaction := { draft := { tables := hub.store.tables } }
  let begun : Hub := { hub with transactions := hub.transactions ++ [opened] }
  let work := report moment (begun.session hub.transactions.length) body begun drawn
  have hwork : (work.outcome, work.hub, work.drawn) = _ :=
    (perform_eq_report _ body begun drawn).symm.trans
      (perform_last body hub.store hub.transactions opened drawn)
  have houtcome : work.outcome = (body.onDraft moment.ids opened.draft drawn).1 :=
    congrArg Prod.fst hwork
  have hended : work.drawn = (body.onDraft moment.ids opened.draft drawn).2.2 :=
    congrArg (·.2.2) hwork
  have hopened : begun.transactions[hub.transactions.length]? = some opened :=
    List.getElem?_concat_length
  rw [hcalls, hdrawn]
  refine ⟨work.outcome, (body.onDraft moment.ids opened.draft drawn).2.1, ?_,
    plays_report _ body begun drawn, serveAll_onDraft body hopened drawn⟩
  rw [houtcome]
  exact congrArg (_, _, ·) hended.symm

/-- A transaction whose caller passes the check comes to what its program ends with by the replies,
and then commits what the calls, made directly on the tables as they were, leave of them. -/
theorem settled_of_undertake? {usecase : Usecase} (htransactional : usecase.transactional = true)
    {operator : Option Operator} (hcheck : usecase.requirements.check operator = .ok ())
    {body : Program α} {drawn : Nat} {run : Report α}
    (hrun : hub.undertake? moment usecase operator body drawn = some run) :
    ∃ own t, body.Plays moment.ids drawn run.calls own run.drawn ∧
      hub.store.tables.serveAll (run.calls.map Sigma.fst) = (run.calls, t) ∧
      match own with
      | .error error => run.outcome = .error error ∧ run.hub.store = hub.store
      | .ok value =>
        match hub.store.commit moment t with
        | .error error => run.outcome = .error error ∧ run.hub.store = hub.store
        | .ok store => run.outcome = .ok value ∧ run.hub.store = store := by
  obtain ⟨own, draft, hran, hplays, hdirect⟩ := onDraft_of_undertake? htransactional hcheck hrun
  have hagrees := (perform_run_of_undertake? hrun).1
  rw [Usecase.perform_run htransactional, hcheck] at hagrees
  simp only [Usecase.perform_runTransaction, Usecase.opening, hran] at hagrees
  refine ⟨own, draft.tables, hplays, hdirect, ?_⟩
  cases own with
  | error error =>
    simp only [Prod.mk.injEq, Directory.mk.injEq] at hagrees
    exact ⟨hagrees.1.symm, hagrees.2.1.symm⟩
  | ok value =>
    cases hcommit : hub.store.commit moment draft.tables with
    | error error =>
      simp only [hcommit, Prod.mk.injEq, Directory.mk.injEq] at hagrees ⊢
      exact ⟨hagrees.1.symm, hagrees.2.1.symm⟩
    | ok store =>
      simp only [hcommit, Prod.mk.injEq, Directory.mk.injEq] at hagrees ⊢
      exact ⟨hagrees.1.symm, hagrees.2.1.symm⟩

/-- A caller who does not pass the check is denied before any call is made. -/
theorem denied_of_undertake? {usecase : Usecase} {operator : Option Operator} {error : Error}
    (hcheck : usecase.requirements.check operator = .error error) {body : Program α} {drawn : Nat}
    {run : Report α} (hrun : hub.undertake? moment usecase operator body drawn = some run) :
    run.outcome = .error error ∧ run.calls = [] ∧ run.drawn = drawn ∧
      run.hub.store = hub.store := by
  have hagrees := (perform_run_of_undertake? hrun).1
  rw [Usecase.run, hcheck, Action.perform_bind, Action.perform_ofExcept] at hagrees
  simp only [Prod.mk.injEq, Directory.mk.injEq] at hagrees
  refine ⟨hagrees.1.symm, ?_, hagrees.2.2.symm, hagrees.2.1.symm⟩
  unfold undertake? attempt at hrun
  simp only [hcheck] at hrun
  split at hrun
  · cases hbegin : hub.begin? with
    | none =>
      rw [hbegin] at hrun
      cases hrun
    | some begun =>
      rw [hbegin] at hrun
      rw [← Option.some.inj hrun]
  · rw [← Option.some.inj hrun]

/-- A program without a transaction, whose caller passes the check, makes its calls through a plain
session, each for itself. -/
theorem plain_of_undertake? {usecase : Usecase} (hplain : usecase.transactional = false)
    {operator : Option Operator} (hcheck : usecase.requirements.check operator = .ok ())
    {body : Program α} {drawn : Nat} {run : Report α}
    (hrun : hub.undertake? moment usecase operator body drawn = some run) :
    run = report moment .plain body hub drawn := by
  unfold undertake? attempt at hrun
  simp only [hplain, hcheck] at hrun
  exact (Option.some.inj hrun).symm

/-- A transaction is committed completely or not at all. -/
structure Settles (hub : Hub) (moment : Moment) (requirements : Requirements)
    (operator : Option Operator) (body : Program α) (drawn : Nat) (run : Report α) : Prop where
  /-- The program is told what it would be told if it made its calls directly on the tables as they
  were. -/
  replies : (hub.store.tables.serveAll (run.calls.map Sigma.fst)).1 = run.calls
  /-- A value is returned exactly when the caller passes the check, the program ends with this value
  by the replies to its calls, and the snapshot can be written. -/
  succeeds (value : α) : run.outcome = .ok value ↔
    requirements.check operator = .ok () ∧
      body.Plays moment.ids drawn run.calls (.ok value) run.drawn ∧ hub.store.Writable moment
  /-- When a value is returned, the tables that the calls, made directly on the tables as they were,
  leave of them are committed. -/
  commits (value : α) : run.outcome = .ok value →
    run.hub.store = hub.store.holding (hub.store.tables.serveAll (run.calls.map Sigma.fst)).2
  /-- When an error is returned, the store is as it was. The error is the denial, or the program's
  own, or that of the snapshot which could not be written for a program that had ended well. -/
  fails (error : Error) : run.outcome = .error error →
    run.hub.store = hub.store ∧
      (requirements.check operator = .error error ∨
        requirements.check operator = .ok () ∧
          (body.Plays moment.ids drawn run.calls (.error error) run.drawn ∨
            ∃ value reason, body.Plays moment.ids drawn run.calls (.ok value) run.drawn ∧
              hub.store.attached = true ∧ moment.writeFault = some reason ∧
              error = .storage reason))

/-- A transaction whose caller does not pass the check is not committed at all. -/
theorem Settles.of_denied {requirements : Requirements} {operator : Option Operator} {error : Error}
    (hcheck : requirements.check operator = .error error) {body : Program α} {drawn : Nat}
    {run : Report α} (houtcome : run.outcome = .error error) (hcalls : run.calls = [])
    (hstore : run.hub.store = hub.store) :
    Settles hub moment requirements operator body drawn run where
  replies := by
    rw [hcalls]
    rfl
  succeeds value := by simp [houtcome, hcheck]
  commits value hok := nomatch houtcome.symm.trans hok
  fails error' herror := by
    obtain rfl := Except.error.inj (houtcome.symm.trans herror)
    exact ⟨hstore, .inl hcheck⟩

/-- A transaction whose caller passes the check is committed completely or not at all. -/
theorem Settles.of_undertake? {usecase : Usecase} (htransactional : usecase.transactional = true)
    {operator : Option Operator} (hcheck : usecase.requirements.check operator = .ok ())
    {body : Program α} {drawn : Nat} {run : Report α}
    (hrun : hub.undertake? moment usecase operator body drawn = some run) :
    Settles hub moment usecase.requirements operator body drawn run := by
  obtain ⟨own, t, hplays, hdirect, hsettled⟩ := settled_of_undertake? htransactional hcheck hrun
  cases own with
  | error error =>
    obtain ⟨houtcome, hstore⟩ := hsettled
    exact {
      replies := by rw [hdirect]
      succeeds := fun value => by
        refine ⟨fun hok => (nomatch houtcome.symm.trans hok), ?_⟩
        rintro ⟨-, hplays', -⟩
        exact nomatch hplays.unique hplays'
      commits := fun value hok => nomatch houtcome.symm.trans hok
      fails := fun error' herror => by
        obtain rfl := Except.error.inj (houtcome.symm.trans herror)
        exact ⟨hstore, .inr ⟨hcheck, .inl hplays⟩⟩ }
  | ok value =>
    cases hcommit : hub.store.commit moment t with
    | error error =>
      obtain ⟨houtcome, hstore⟩ : run.outcome = .error error ∧ run.hub.store = hub.store := by
        simpa only [hcommit] using hsettled
      obtain ⟨hattached, reason, hfault, hreason⟩ := Store.commit_eq_error_iff.1 hcommit
      exact {
        replies := by rw [hdirect]
        succeeds := fun value => by
          refine ⟨fun hok => (nomatch houtcome.symm.trans hok), ?_⟩
          rintro ⟨-, -, hwritable⟩
          exact nomatch hfault.symm.trans (hwritable hattached)
        commits := fun value hok => nomatch houtcome.symm.trans hok
        fails := fun error' herror => by
          obtain rfl := Except.error.inj (houtcome.symm.trans herror)
          exact ⟨hstore, .inr ⟨hcheck, .inr ⟨value, reason, hplays, hattached, hfault, hreason⟩⟩⟩ }
    | ok store =>
      obtain ⟨houtcome, hstore⟩ : run.outcome = .ok value ∧ run.hub.store = store := by
        simpa only [hcommit] using hsettled
      obtain ⟨hwritable, rfl⟩ := Store.commit_eq_ok_iff.1 hcommit
      exact {
        replies := by rw [hdirect]
        succeeds := fun value' => by
          rw [houtcome]
          refine ⟨fun hok => ⟨hcheck, hok ▸ hplays, hwritable⟩, ?_⟩
          rintro ⟨-, hplays', -⟩
          exact hplays.unique hplays'
        commits := fun value' _ => by rw [hstore, hdirect]
        fails := fun error herror => nomatch houtcome.symm.trans herror }

/-- A usecase is carried out completely or not at all. -/
structure AllOrNothing (hub : Hub) (moment : Moment) (usecase : Usecase)
    (operator : Option Operator) (body : Program α) (drawn : Nat) (run : Report α) : Prop where
  /-- On the directory the usecase comes to the same. -/
  agrees : (usecase.run operator body).perform moment { store := hub.store, drawn } =
    (run.outcome, { store := run.hub.store, drawn := run.drawn })
  /-- Who does not pass the check is denied, and nothing has been done. -/
  denied : usecase.requirements.check operator ≠ .ok () →
    run.outcome = .error .operationDenied ∧ run.calls = [] ∧ run.drawn = drawn ∧
      run.hub.store = hub.store
  /-- With a transaction, everything or nothing is committed. -/
  settles : usecase.transactional = true →
    Settles hub moment usecase.requirements operator body drawn run
  /-- Without a transaction, the calls are made through a plain session, each for itself, and what the
  program ends with by their replies is returned. As long as the snapshot can be written, these calls
  are made directly on the committed tables. -/
  plain : usecase.transactional = false → usecase.requirements.check operator = .ok () →
    hub.serveAll .plain (run.calls.map fun call => (moment, call.1)) = (run.calls, run.hub) ∧
      body.Plays moment.ids drawn run.calls run.outcome run.drawn ∧
      (hub.store.Writable moment →
        hub.store.tables.serveAll (run.calls.map Sigma.fst) = (run.calls, run.hub.store.tables))
  /-- No transaction is left open. -/
  gateFree : hub.gateFree = true → run.hub.gateFree = true

/-- A usecase can be undertaken unless it needs a transaction while another one is open. However its
program decides on its calls, it is then carried out completely or not at all. -/
theorem usecases_all_or_nothing (hub : Hub) (moment : Moment) (usecase : Usecase)
    (operator : Option Operator) (body : Program α) (drawn : Nat) :
    (hub.undertake? moment usecase operator body drawn = none ↔
      usecase.transactional = true ∧ hub.gateFree = false) ∧
    ∀ run, hub.undertake? moment usecase operator body drawn = some run →
      AllOrNothing hub moment usecase operator body drawn run := by
  refine ⟨hub.undertake?_eq_none_iff, fun run hrun => ?_⟩
  obtain ⟨hagrees, hgate⟩ := perform_run_of_undertake? hrun
  cases hcheck : usecase.requirements.check operator with
  | error error =>
    obtain rfl := Requirements.eq_operationDenied hcheck
    obtain ⟨houtcome, hcalls, hdrawn, hstore⟩ := denied_of_undertake? hcheck hrun
    exact {
      agrees := hagrees
      denied := fun _ => ⟨houtcome, hcalls, hdrawn, hstore⟩
      settles := fun _ => .of_denied hcheck houtcome hcalls hstore
      plain := fun _ hok => nomatch hcheck.symm.trans hok
      gateFree := hgate }
  | ok _ =>
    exact {
      agrees := hagrees
      denied := fun hdenied => absurd hcheck hdenied
      settles := fun htransactional => .of_undertake? htransactional hcheck hrun
      plain := fun hplain _ => by
        obtain rfl := plain_of_undertake? hplain hcheck hrun
        let run := report moment .plain body hub drawn
        have hmade : hub.serveAll .plain (run.calls.map fun call => (moment, call.1)) = _ :=
          serveAll_report .plain body hub drawn
        refine ⟨hmade, plays_report _ body hub drawn, fun hwritable => ?_⟩
        rw [hub.serveAll_plain hwritable, List.map_map]
        exact congrArg (fun made => (made.1, made.2.store.tables)) hmade
      gateFree := hgate }

end Hub

end Roster
