import Roster.Proofs.Regroupings

/-!
# Members who are brought in

Whether users can be brought into a workspace is a matter of the whole list: all of them must have
an account, none may be a member and none may be listed twice. So the order of the list makes no
difference, and neither does it whether they are brought in all together or one after the other.
-/

namespace Roster

open Time (Instant)

/-! ## Members with newcomers -/

namespace Members

variable {members members' : Members} {users : Table .user User} {inviter user : UserId}
  {role : Role} {newcomers reordered : List (UserId × Role)}

/-- A user who has an account joins. -/
def enlist (users : Table .user User) (inviter : UserId) (newcomer : UserId × Role)
    (members : Members) : Except Error Members :=
  if users.contains newcomer.1 then members.join newcomer.1 (some newcomer.2) inviter
  else .error (.notFound ("user " ++ newcomer.1.text))

/-- Users with an account join exactly when they can join. -/
theorem enlist_eq_ok {newcomer : UserId × Role} :
    members.enlist users inviter newcomer = .ok members' ↔
      users.contains newcomer.1 = true ∧
        members.join newcomer.1 (some newcomer.2) inviter = .ok members' := by
  unfold enlist
  cases users.contains newcomer.1 <;> simp

/-- Users join only where the users are not fixed. -/
theorem steady_of_enlist {newcomer : UserId × Role}
    (h : members.enlist users inviter newcomer = .ok members') : members.Steady members' :=
  steady_of_join (enlist_eq_ok.1 h).2

/-- The members with newcomers next to them. -/
def welcoming (inviter : UserId) (newcomers : List (UserId × Role)) (members : Members) : Members :=
  { members with
    users := newcomers.foldl (fun users newcomer =>
      users.insert newcomer.1 (.new newcomer.2 inviter)) members.users }

/-- The first newcomer is welcomed before the others. -/
theorem welcoming_cons (inviter : UserId) (newcomer : UserId × Role)
    (newcomers : List (UserId × Role)) (members : Members) :
    members.welcoming inviter (newcomer :: newcomers) =
      (members.welcoming inviter [newcomer]).welcoming inviter newcomers :=
  rfl

/-- Whoever is no newcomer is there as before. -/
theorem get?_welcoming_of_not_mem (huser : user ∉ newcomers.map Prod.fst) :
    (members.welcoming inviter newcomers).users.get? user = members.users.get? user := by
  induction newcomers generalizing members with
  | nil => rfl
  | cons newcomer rest ih =>
    rw [List.map_cons, List.mem_cons, not_or] at huser
    rw [welcoming_cons, ih huser.2]
    exact (Table.get?_insert ..).trans (if_neg (Ne.symm huser.1))

/-- A newcomer who is listed once is there with the role that is listed. -/
theorem get?_welcoming_of_mem (hnodup : (newcomers.map Prod.fst).Nodup)
    (hmem : (user, role) ∈ newcomers) :
    (members.welcoming inviter newcomers).users.get? user = some (.new role inviter) := by
  induction newcomers generalizing members with
  | nil => exact nomatch hmem
  | cons newcomer rest ih =>
    obtain ⟨hfirst, hrest⟩ := List.nodup_cons.1 hnodup
    rw [welcoming_cons]
    obtain rfl | hmem := List.mem_cons.1 hmem
    · rw [get?_welcoming_of_not_mem hfirst]
      exact (Table.get?_insert ..).trans (if_pos rfl)
    · exact ih hrest hmem

/-- Some users have been brought in: each of them is an enabled member with the role that was
listed, no host and the user who brought them in, and everything else is as before. -/
structure BroughtIn (inviter : UserId) (newcomers : List (UserId × Role))
    (members members' : Members) : Prop where
  welcomed : ∀ user role, (user, role) ∈ newcomers → members'.users.get? user =
    some { role, disabled := false, invitedBy := inviter, host := none }
  others : ∀ user, user ∉ newcomers.map Prod.fst →
    members'.users.get? user = members.users.get? user
  integrations : members'.integrations = members.integrations
  fixed : members'.fixed = members.fixed

/-- Newcomers who are listed once have been brought in when they have been welcomed. -/
theorem broughtIn_welcoming (honce : (newcomers.map Prod.fst).Nodup) :
    members.BroughtIn inviter newcomers (members.welcoming inviter newcomers) where
  welcomed _ _ hmem := get?_welcoming_of_mem honce hmem
  others _ huser := get?_welcoming_of_not_mem huser
  integrations := rfl
  fixed := rfl

/-- Newcomers who are listed once may be welcomed in any order. -/
theorem welcoming_perm (hperm : reordered.Perm newcomers)
    (hnodup : (newcomers.map Prod.fst).Nodup) :
    members.welcoming inviter reordered = members.welcoming inviter newcomers := by
  have hkeys := hperm.map Prod.fst
  have husers : (members.welcoming inviter reordered).users =
      (members.welcoming inviter newcomers).users := by
    apply Table.ext_get?
    intro user
    by_cases huser : user ∈ newcomers.map Prod.fst
    · obtain ⟨⟨_, role⟩, hmem, rfl⟩ := List.mem_map.1 huser
      rw [get?_welcoming_of_mem hnodup hmem,
        get?_welcoming_of_mem (hkeys.nodup_iff.2 hnodup) (hperm.mem_iff.2 hmem)]
    · rw [get?_welcoming_of_not_mem huser, get?_welcoming_of_not_mem (mt hkeys.mem_iff.1 huser)]
  exact congrArg (fun users => { members with users }) husers

/-- Newcomers may be brought in: they have accounts, are no members yet and are listed once. -/
structure Awaits (users : Table .user User) (newcomers : List (UserId × Role)) (members : Members) :
    Prop where
  exist : ∀ user ∈ newcomers.map Prod.fst, users.contains user = true
  new : ∀ user ∈ newcomers.map Prod.fst, members.users.contains user = false
  once : (newcomers.map Prod.fst).Nodup

/-- The order of the newcomers does not matter. -/
theorem Awaits.perm (h : members.Awaits users newcomers) (hperm : reordered.Perm newcomers) :
    members.Awaits users reordered where
  exist user huser := h.exist user ((hperm.map Prod.fst).mem_iff.1 huser)
  new user huser := h.new user ((hperm.map Prod.fst).mem_iff.1 huser)
  once := (hperm.map Prod.fst).nodup_iff.2 h.once

/-- Several newcomers may be brought in when the first may be, and then the others. -/
theorem awaits_cons_iff (inviter : UserId) {newcomer : UserId × Role} :
    members.Awaits users (newcomer :: newcomers) ↔
      (users.contains newcomer.1 = true ∧ members.users.get? newcomer.1 = none) ∧
        (members.welcoming inviter [newcomer]).Awaits users newcomers := by
  have hlater (user : UserId) :
      (members.welcoming inviter [newcomer]).users.contains user = false ↔
        newcomer.1 ≠ user ∧ members.users.contains user = false := by
    rw [← Bool.not_eq_true, ← Bool.not_eq_true, ← not_or]
    exact not_congr (Table.contains_insert ..)
  constructor
  · rintro ⟨hexist, hnew, honce⟩
    rw [List.map_cons] at hexist hnew honce
    obtain ⟨hfirst, hrest⟩ := List.nodup_cons.1 honce
    refine ⟨⟨hexist _ List.mem_cons_self,
      Table.contains_eq_false_iff.1 (hnew _ List.mem_cons_self)⟩,
      fun user huser => hexist user (List.mem_cons_of_mem _ huser), fun user huser => ?_, hrest⟩
    refine (hlater user).2 ⟨?_, hnew user (List.mem_cons_of_mem _ huser)⟩
    rintro rfl
    exact hfirst huser
  · rintro ⟨⟨hexists, hfree⟩, hexist, hnew, honce⟩
    refine ⟨List.forall_mem_cons.2 ⟨hexists, hexist⟩,
      List.forall_mem_cons.2 ⟨Table.contains_eq_false_iff.2 hfree, fun user huser =>
        ((hlater user).1 (hnew user huser)).2⟩, List.nodup_cons.2 ⟨fun hmem => ?_, honce⟩⟩
    exact ((hlater newcomer.1).1 (hnew newcomer.1 hmem)).1 rfl

/-- Users who join one after the other are welcomed exactly when they may all be brought in. -/
theorem foldlM_enlist_eq_ok (hopen : members.fixed = false) :
    newcomers.foldlM (fun members newcomer => members.enlist users inviter newcomer) members =
        .ok members' ↔
      members.Awaits users newcomers ∧ members' = members.welcoming inviter newcomers := by
  induction newcomers generalizing members with
  | nil =>
    rw [List.foldlM_nil, pure_eq_ok]
    exact (and_iff_right ⟨nofun, nofun, .nil⟩).symm
  | cons newcomer rest ih =>
    have hopen' : (members.welcoming inviter [newcomer]).fixed = false := hopen
    rw [List.foldlM_cons, bind_eq_ok, awaits_cons_iff inviter]
    simp only [enlist_eq_ok, join_eq_ok, Option.getD_some]
    constructor
    · rintro ⟨_, ⟨hexists, -, hfree, rfl⟩, hrest⟩
      obtain ⟨hawaits, rfl⟩ := (ih hopen').1 hrest
      exact ⟨⟨⟨hexists, hfree⟩, hawaits⟩, rfl⟩
    · rintro ⟨⟨⟨hexists, hfree⟩, hawaits⟩, rfl⟩
      exact ⟨_, ⟨hexists, hopen, hfree, rfl⟩, (ih hopen').2 ⟨hawaits, rfl⟩⟩

/-- Users join one after the other as they do with their accounts being looked up first. -/
theorem foldlM_enlist_eq_ok_iff_join :
    newcomers.foldlM (fun members newcomer => members.enlist users inviter newcomer) members =
        .ok members' ↔
      (∀ user ∈ newcomers.map Prod.fst, users.contains user = true) ∧
        newcomers.foldlM (fun members newcomer =>
          members.join newcomer.1 (some newcomer.2) inviter) members = .ok members' := by
  induction newcomers generalizing members with
  | nil => exact (and_iff_right nofun).symm
  | cons newcomer rest ih =>
    simp only [List.foldlM_cons, bind_eq_ok, enlist_eq_ok, ih, List.map_cons, List.forall_mem_cons]
    constructor
    · rintro ⟨next, ⟨hexists, hjoin⟩, hexist, hrest⟩
      exact ⟨⟨hexists, hexist⟩, next, hjoin, hrest⟩
    · rintro ⟨⟨hexists, hexist⟩, next, hjoin, hrest⟩
      exact ⟨next, ⟨hexists, hjoin⟩, hexist, hrest⟩

/-- Newcomers are brought into a team only. -/
theorem open_of_foldlM_enlist (hsome : newcomers ≠ [])
    (h : newcomers.foldlM (fun members newcomer => members.enlist users inviter newcomer) members =
      .ok members') : members.fixed = false := by
  match newcomers, hsome with
  | newcomer :: rest, _ =>
    rw [List.foldlM_cons, bind_eq_ok] at h
    obtain ⟨next, henlist, -⟩ := h
    exact (join_eq_ok.1 (enlist_eq_ok.1 henlist).2).1

end Members

namespace Workspaces

open Program

variable {operator : Operator} {id : WorkspaceId} {directory : Directory} {moment : Moment}
  {inviter : UserId} {newcomers : List (UserId × Role)}

/-- No user is missing when all of them have accounts. -/
theorem firstMissing_eq_none_iff {t : Tables} (hfiled : t.Filed) {ids : List UserId} :
    firstMissing ids (ids.filterMap t.users.get?) = none ↔
      ∀ id ∈ ids, t.users.contains id = true := by
  refine ⟨fun h id hid => contains_of_firstMissing hfiled h hid, fun h => ?_⟩
  refine List.find?_eq_none.2 fun id hid => ?_
  obtain ⟨user, huser⟩ := Table.contains_iff.1 (h id hid)
  have hany : (ids.filterMap t.users.get?).any (·.id = id) = true :=
    List.any_eq_true.2 ⟨user, List.mem_filterMap.2 ⟨id, hid, huser⟩,
      decide_eq_true (hfiled.users huser)⟩
  rw [hany]
  exact Bool.false_ne_true

/-- What is done to a workspace when users are brought in. -/
def bringingIn (operator : Operator) (newcomers : List (UserId × Role)) (inviter : UserId)
    (now : Instant) (ws : Workspace) : Program Workspace := do
  notPersonal ws
  let ids := distinct (newcomers.map (·.1))
  if let some missing := firstMissing ids (← .query (.users ids)) then
    throw (.notFound ("user " ++ missing.text))
  settled operator now
    (newcomers.foldlM (fun ws (member, role) => ws.join now member (some role) inviter) ws)

/-- This is done when users are brought in. -/
theorem addUserMember_eq (id : WorkspaceId) (newcomers : List (UserId × Role))
    (operator : Operator) :
    addUserMember id newcomers operator = (do
      let _ ← Action.ofExcept operator.actor
      if newcomers.isEmpty then throw .noSpecifiedUsers
      edit (ownership id) id operator unchecked (bringingIn operator newcomers)) :=
  rfl

/-- Users are brought in exactly when they join one after the other, all of them with accounts. -/
theorem ends_bringingIn {ids : Nat → String} {s s' : Draft × Nat} (hfiled : s.1.tables.Filed)
    (hsome : newcomers ≠ []) {now : Instant} {ws ws' : Workspace} :
    (bringingIn operator newcomers inviter now ws).Ends ids s ws' s' ↔
      s' = s ∧ ∃ members, newcomers.foldlM (fun members newcomer =>
          members.enlist s.1.tables.users inviter newcomer) ws.members = .ok members ∧
        ws' = withDefaultPolicy operator now { ws with members, updatedAt := now } := by
  have hjoining {joined : Workspace} :
      newcomers.foldlM (fun ws newcomer => ws.join now newcomer.1 (some newcomer.2) inviter) ws =
          .ok joined ↔
        ∃ members, newcomers.foldlM (fun members newcomer =>
            members.join newcomer.1 (some newcomer.2) inviter) ws.members = .ok members ∧
          joined = { ws with members, updatedAt := now } :=
    Workspace.foldlM_changeMembers_eq_ok hsome
  unfold bringingIn
  simp only [ends_bind, ends_notPersonal, ends_query]
  constructor
  · rintro ⟨_, _, ⟨hteam, rfl⟩, _, _, ⟨hanswer, rfl⟩, hends⟩
    obtain rfl := ok_eq_ok_comm.1 hanswer
    split at hends
    · simp at hends
    · rename_i hmissing
      obtain ⟨joined, hjoin, rfl, rfl⟩ := ends_settled.1 hends
      obtain ⟨members, hmembers, rfl⟩ := hjoining.1 hjoin
      have hexist := (firstMissing_eq_none_iff hfiled).1
        (Option.eq_none_iff_forall_ne_some.2 hmissing)
      exact ⟨rfl, members, Members.foldlM_enlist_eq_ok_iff_join.2
        ⟨fun user huser => hexist user (mem_distinct.2 huser), hmembers⟩, rfl⟩
  · rintro ⟨rfl, members, hmembers, rfl⟩
    have hteam := Members.open_of_foldlM_enlist hsome hmembers
    obtain ⟨hexist, hjoin⟩ := Members.foldlM_enlist_eq_ok_iff_join.1 hmembers
    refine ⟨(), s', ⟨hteam, rfl⟩, _, s', ⟨rfl, rfl⟩, ?_⟩
    have hnone := (firstMissing_eq_none_iff hfiled).2 fun user huser =>
      hexist user (mem_distinct.1 huser)
    rw [hnone]
    exact ends_settled.2 ⟨_, hjoining.2 ⟨members, hjoin, rfl⟩, rfl, rfl⟩

/-- To bring users in gives a workspace other members: those whom the list of users makes join. -/
theorem regroups_addUserMember (huser : operator.user = some inviter)
    (howning : id ∈ operator.owning) (users : Table .user User) (hsome : newcomers ≠ []) :
    Regroups operator users id
      (fun members => newcomers.foldlM (fun members newcomer =>
        members.enlist users inviter newcomer) members)
      (addUserMember id newcomers operator) := by
  intro moment directory directory' ws hfiled husers
  rw [addUserMember_eq, Action.perform_bind, Action.perform_ofExcept, Operator.actor_eq_ok.2 huser]
  dsimp only
  rw [if_neg (mt List.isEmpty_iff.1 hsome)]
  have hedit : Regroups operator users id
      (fun members => newcomers.foldlM (fun members newcomer =>
        members.enlist users inviter newcomer) members)
      (edit (ownership id) id operator unchecked (bringingIn operator newcomers)) := by
    refine regroups_edit huser howning fun {moment directory ws ws' s} hfiled husers => ?_
    obtain rfl := husers
    exact ends_bringingIn hfiled hsome
  exact hedit moment directory directory' ws hfiled husers

/-- Where rows are filed under their own ids and the snapshot can always be written, an owner of a
stored team that can be restored brings users into it exactly when all of them have accounts, none
is a member and none is listed twice; and then each of them is a member as it was listed, and
nothing else is touched. In any other order the users are brought in or refused alike. They are
brought in all together exactly when they are brought in one after the other. Each time, what is
left behind differs in the time of the last change of the team at most. -/
theorem brings_in_iff (directory : Directory) (hfiled : directory.store.tables.Filed)
    (huser : operator.user = some inviter) (howning : id ∈ operator.owning) {row : Workspace}
    (hrow : directory.store.tables.workspaces.get? id = some row)
    (hrestores : ∃ restored, row.restore = .ok restored) (hteam : row.isPersonal = false)
    (hsome : newcomers ≠ []) (hwritable : directory.store.Writable moment) :
    let outcome (moment : Moment) (newcomers : List (UserId × Role)) :=
      (addUserMember id newcomers operator).perform moment directory
    ((∃ ws directory', outcome moment newcomers = (.ok ws, directory')) ↔
      (∀ user ∈ newcomers.map Prod.fst, directory.store.tables.users.contains user = true) ∧
        (∀ user ∈ newcomers.map Prod.fst, row.members.users.contains user = false) ∧
        (newcomers.map Prod.fst).Nodup) ∧
    (∀ ws directory', outcome moment newcomers = (.ok ws, directory') →
      directory'.store.tables.workspaces.get? id = some ws ∧
        directory.store.tables.Restaffed operator moment.now row
          (row.members.BroughtIn inviter newcomers) directory'.store.tables) ∧
    (∀ reordered moment', reordered.Perm newcomers → directory.store.Writable moment' →
      ((∃ ws directory', outcome moment newcomers = (.ok ws, directory')) ↔
        ∃ ws directory', outcome moment' reordered = (.ok ws, directory')) ∧
      (outcome moment newcomers).2.store.tables.AlikeButStamp id
        (outcome moment' reordered).2.store.tables) ∧
    ∀ steps : List (Moment × UserId × Role), steps.map Prod.snd = newcomers →
      (∀ step ∈ steps, directory.store.Writable step.1) →
        let singly := Action.inTurn (fun newcomer => addUserMember id [newcomer] operator) steps
          directory
        ((∃ ws directory', outcome moment newcomers = (.ok ws, directory')) ↔
          ∃ directory', singly = .ok directory') ∧
        ∀ ws directory₁ directory₂, outcome moment newcomers = (.ok ws, directory₁) →
          singly = .ok directory₂ →
            directory₁.store.tables.AlikeButStamp id directory₂.store.tables := by
  intro outcome
  have hfit := Workspace.exists_restore_iff.1 hrestores
  have hown := hfiled.workspaces hrow
  let users := directory.store.tables.users
  have hregroups {listed : List (UserId × Role)} (hlisted : listed ≠ []) :=
    regroups_addUserMember huser howning users hlisted
  have henlists {listed : List (UserId × Role)} {members : Members} :
      listed.foldlM (fun members newcomer => members.enlist users inviter newcomer) row.members =
          .ok members ↔
        row.members.Awaits users listed ∧ members = row.members.welcoming inviter listed :=
    Members.foldlM_enlist_eq_ok hteam
  refine ⟨?_, ?_, ?_, ?_⟩
  · rw [(hregroups hsome).exists_ok_iff hfiled hrow hfit hwritable]
    simp only [henlists, exists_and_left, exists_eq, and_true]
    exact ⟨fun h => ⟨h.exist, h.new, h.once⟩, fun ⟨hexist, hnew, honce⟩ => ⟨hexist, hnew, honce⟩⟩
  · intro ws directory' hok
    obtain ⟨members, hmembers, rfl, rfl⟩ :=
      ((hregroups hsome).perform_eq_ok hfiled hrow hfit hwritable).1 hok
    obtain ⟨hawaits, rfl⟩ := henlists.1 hmembers
    exact ⟨hown ▸ Tables.get?_fileWorkspace_withMembers ..,
      Tables.restaffed_fileWorkspace (Members.broughtIn_welcoming hawaits.once) ..⟩
  · intro reordered moment' hperm hwritable'
    have hreordered : reordered ≠ [] := by
      rintro rfl
      exact hsome hperm.nil_eq.symm
    refine (hregroups hsome).alike hfiled hrow hfit (hregroups hreordered)
      (actsOnce_addUserMember ..) (actsOnce_addUserMember ..) hwritable hwritable' fun members => ?_
    rw [henlists, henlists]
    constructor
    · rintro ⟨hawaits, rfl⟩
      exact ⟨hawaits.perm hperm, (Members.welcoming_perm hperm hawaits.once).symm⟩
    · rintro ⟨hawaits, rfl⟩
      have hback := hawaits.perm hperm.symm
      exact ⟨hback, Members.welcoming_perm hperm hback.once⟩
  · rintro steps rfl hsteps
    refine (hregroups hsome).alike_inTurn hfiled hrow hfit (fun newcomer => ?_)
      Members.steady_of_enlist (by simpa using hsome) hwritable hsteps fun _ => Iff.rfl
    refine (hregroups (List.cons_ne_nil newcomer [])).congr fun {members members'} => ?_
    simp only [List.foldlM_cons, List.foldlM_nil, bind_pure]

end Workspaces

/-! ### Newcomers to a crew -/

namespace Workspaces.Crew

/-- Somebody with an account. -/
def account (name : String) : User where
  id := ⟨name⟩
  name
  email := name ++ "@crew.example"
  identities := []
  workspace := ⟨name ++ "-home"⟩
  profile := {}
  updatedAt := .epoch

/-- Nina and noah have accounts, next to the crew. -/
def recruiting : Directory where
  store :=
    { tables :=
        { workspaces := Table.empty.insert crew.id crew
          users := (Table.empty.insert ⟨"nina"⟩ (account "nina")).insert ⟨"noah"⟩ (account "noah") }
      file := none
      attached := false }

/-- Olga can bring nina and noah in, together or first noah and then nina a minute later, but she
cannot bring nina in twice. -/
theorem brings_in_recruits :
    let recruits : List (UserId × Role) := [(⟨"nina"⟩, .reader), (⟨"noah"⟩, .writer)]
    (∃ ws directory',
      (addUserMember crew.id recruits olga).perform .epoch recruiting = (.ok ws, directory') ∧
      recruiting.store.tables.Restaffed olga Moment.epoch.now crew
        (crew.members.BroughtIn ⟨"olga"⟩ recruits) directory'.store.tables) ∧
    (∃ directory', Action.inTurn (fun recruit => addUserMember crew.id [recruit] olga)
      [(.epoch, ⟨"noah"⟩, .writer), (later, ⟨"nina"⟩, .reader)] recruiting = .ok directory') ∧
    ¬ ∃ ws directory',
      (addUserMember crew.id [(⟨"nina"⟩, .reader), (⟨"nina"⟩, .writer)] olga).perform .epoch
        recruiting = (.ok ws, directory') := by
  intro recruits
  have hfiled : recruiting.store.tables.Filed := by decide
  have hwritable (moment : Moment) : recruiting.store.Writable moment := nofun
  have hrestores : ∃ restored, crew.restore = .ok restored :=
    Workspace.exists_restore_iff.2 ⟨by decide, nofun⟩
  have howning : crew.id ∈ olga.owning := List.mem_singleton_self _
  have hlaws (listed : List (UserId × Role)) (hsome : listed ≠ []) :=
    brings_in_iff recruiting hfiled rfl howning rfl hrestores rfl hsome (hwritable .epoch)
  obtain ⟨hiff, hbrought, -, -⟩ := hlaws recruits (by decide)
  obtain ⟨ws, directory', hok⟩ := hiff.2 ⟨by decide, by decide, by decide⟩
  obtain ⟨hiff', -, -, hsingly⟩ := hlaws recruits.reverse (by decide)
  obtain ⟨hiff'', -, -, -⟩ := hlaws [(⟨"nina"⟩, .reader), (⟨"nina"⟩, .writer)] (by decide)
  refine ⟨⟨ws, directory', hok, (hbrought ws directory' hok).2⟩, ?_, ?_⟩
  · have hreversed := hiff'.2 ⟨by decide, by decide, by decide⟩
    exact (hsingly [(.epoch, ⟨"noah"⟩, .writer), (later, ⟨"nina"⟩, .reader)] rfl
      fun _ _ => hwritable _).1.1 hreversed
  · rw [hiff'']
    rintro ⟨-, -, honce⟩
    exact absurd honce (by decide)

end Workspaces.Crew

end Roster
