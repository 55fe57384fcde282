import Roster.Proofs.PersonalWorkspaces
import Roster.Proofs.Removals

/-!
# Members who are taken out one by one

It makes no difference whether members are taken out of a workspace all together or one after the
other, each by a call of its own. One way succeeds exactly when the other does, since who may be taken
out after others does not depend on how these went; and but for the time of its last change the
workspace is left behind as the same.
-/

namespace Roster

/-- A list without repetitions stays as it is. -/
theorem distinct_of_nodup {α : Type} [DecidableEq α] {as : List α} (h : as.Nodup) :
    distinct as = as := by
  induction as with
  | nil => rfl
  | cons a rest ih =>
    obtain ⟨hfirst, hrest⟩ := List.nodup_cons.1 h
    rw [distinct, ih hrest]
    refine congrArg (a :: ·) (List.filter_eq_self.2 fun b hb => decide_eq_true ?_)
    rintro rfl
    exact hfirst hb

/-! ## What is left behind twice -/

/-- Of two rows under one key the later one stays. -/
theorem Table.insert_insert {kind : Entity} {ρ : Type} (table : Table kind ρ) (key : Ident kind)
    (row row' : ρ) : (table.insert key row).insert key row' = table.insert key row' := by
  apply Table.ext_get?
  intro k
  rw [get?_insert, get?_insert, get?_insert]
  split <;> rfl

/-- To rewrite all rows twice is to rewrite them once. -/
theorem Table.mapRows_mapRows {kind : Entity} {ρ : Type} (table : Table kind ρ) (f g : ρ → ρ) :
    (table.mapRows f).mapRows g = table.mapRows (g ∘ f) := by
  apply Table.ext_get?
  intro key
  rw [get?_mapRows, get?_mapRows, get?_mapRows, Option.map_map]

/-- To commit other tables is the same when some have been committed before. -/
theorem Store.holding_holding (store : Store) (t t' : Tables) :
    (store.holding t).holding t' = store.holding t' := by
  unfold holding
  cases store.attached <;> rfl

/-- What has been unbound once need not be unbound again. -/
theorem Permittable.unbind_unbind (p : Permittable) (workspaces : List WorkspaceId) :
    (p.unbind workspaces).unbind workspaces = p.unbind workspaces := by
  simp only [unbind, List.filter_filter, Bool.and_self]

/-- To leave one after the other is to leave together. -/
theorem Members.without_without (members : Members) (first : UserId) (rest : List UserId) :
    (members.without [first]).without rest = members.without (first :: rest) :=
  rfl

variable {operator : Operator} {now now' : Time.Instant} {row : Workspace} {t : Tables}

/-- A workspace that users have left, one and then others, is left behind as if they had left
together. -/
theorem Workspace.afterRemoval_cons (operator : Operator) (now now' : Time.Instant) (first : UserId)
    (rest : List UserId) (row : Workspace) :
    (row.afterRemoval operator now [first]).afterRemoval operator now' rest =
      row.afterRemoval operator now' (first :: rest) := by
  have hpolicy : (row.policy.or operator.defaultPolicy).or operator.defaultPolicy =
      row.policy.or operator.defaultPolicy := by
    rw [Option.or_assoc, Option.or_self]
  simp only [afterRemoval, titled_titled, hpolicy, Members.without_without]

/-- The time at which users are taken out is only the time of the last change. -/
theorem Workspace.afterRemoval_stamp (operator : Operator) (now now' : Time.Instant)
    (leaving : List UserId) (row : Workspace) :
    row.afterRemoval operator now' leaving =
      { row.afterRemoval operator now leaving with updatedAt := now' } := by
  simp only [afterRemoval]

/-- The tables are left behind as if all had left together. -/
theorem Tables.afterRemoval_cons (operator : Operator) (now now' : Time.Instant) (first : UserId)
    (rest : List UserId) (row : Workspace) (t : Tables) :
    (t.afterRemoval operator now [first] row).afterRemoval operator now' rest
        (row.afterRemoval operator now [first]) =
      t.afterRemoval operator now' (first :: rest) row := by
  have hrewrite : (fun p : Permittable => if p.user ∈ rest then p.unbind [row.id] else p) ∘
      (fun p => if p.user ∈ [first] then p.unbind [row.id] else p) =
        fun p => if p.user ∈ first :: rest then p.unbind [row.id] else p := by
    funext p
    by_cases hfirst : p.user = first
    · by_cases hrest : p.user ∈ rest <;>
        simp [hfirst, Permittable.unbind_unbind]
    · simp [hfirst]
  simp only [afterRemoval, Workspace.afterRemoval_cons, Workspace.afterRemoval_id,
    Table.insert_insert, Table.mapRows_mapRows, hrewrite]

/-- The directory is left behind as if all had left together. -/
theorem Directory.afterRemoval_cons (operator : Operator) (now now' : Time.Instant) (first : UserId)
    (rest : List UserId) (row : Workspace) (directory : Directory) :
    (directory.afterRemoval operator now [first] row).afterRemoval operator now' rest
        (row.afterRemoval operator now [first]) =
      directory.afterRemoval operator now' (first :: rest) row := by
  have htables : (directory.store.holding
      (directory.store.tables.afterRemoval operator now [first] row)).tables =
        directory.store.tables.afterRemoval operator now [first] row := rfl
  simp only [afterRemoval, Store.holding_holding, htables, Tables.afterRemoval_cons]

namespace Tables

/-- Every permittable keeps its id and its user. -/
theorem resembles_afterRemoval (operator : Operator) (now : Time.Instant) (leaving : List UserId)
    (row : Workspace) (t : Tables) : t.Resembles (t.afterRemoval operator now leaving row) := by
  intro key q hq
  rw [afterRemoval, Table.get?_mapRows, Option.map_eq_some_iff] at hq
  obtain ⟨p, hp, rfl⟩ := hq
  refine ⟨p, hp, ?_⟩
  split <;> exact ⟨rfl, rfl⟩

/-- Rows stay under their own ids, and users with their permittables. -/
theorem Keyed.afterRemoval (h : t.Keyed) (operator : Operator) (now : Time.Instant)
    (leaving : List UserId) (row : Workspace) :
    (t.afterRemoval operator now leaving row).Keyed where
  workspaces hws := by
    obtain ⟨rfl, rfl⟩ | ⟨-, hws⟩ := Table.get?_insert_eq_some.1 hws
    · exact Workspace.afterRemoval_id ..
    · exact h.workspaces hws
  users := h.users
  roles := h.roles
  permittables hp := by
    obtain ⟨p, hrow, hid, -⟩ := resembles_afterRemoval operator now leaving row t hp
    exact hid.trans (h.permittables hrow)
  onePermittable hp hp' hsame := by
    obtain ⟨p, hrow, -, huser⟩ := resembles_afterRemoval operator now leaving row t hp
    obtain ⟨p', hrow', -, huser'⟩ := resembles_afterRemoval operator now leaving row t hp'
    exact h.onePermittable hrow hrow' (huser.symm.trans (hsame.trans huser'))

/-- The workspace is given out as it is left behind. -/
theorem get?_afterRemoval (operator : Operator) (now : Time.Instant) (leaving : List UserId)
    (row : Workspace) (t : Tables) :
    (t.afterRemoval operator now leaving row).workspaces.get? row.id =
      some (row.afterRemoval operator now leaving) :=
  (Table.get?_insert ..).trans (if_pos rfl)

/-- Two tables differ in nothing but the time of the last change of a workspace. -/
structure AlikeButStamp (id : WorkspaceId) (t t' : Tables) : Prop where
  workspace : ∃ ws stamp, t.workspaces.get? id = some ws ∧
    t'.workspaces.get? id = some { ws with updatedAt := stamp }
  workspaces : ∀ other, other ≠ id → t'.workspaces.get? other = t.workspaces.get? other
  users : t'.users = t.users
  roles : t'.roles = t.roles
  permittables : t'.permittables = t.permittables

/-- The time at which users are taken out is seen nowhere else. -/
theorem alikeButStamp_afterRemoval (operator : Operator) (now now' : Time.Instant)
    (leaving : List UserId) (row : Workspace) (t : Tables) :
    AlikeButStamp row.id (t.afterRemoval operator now leaving row)
      (t.afterRemoval operator now' leaving row) where
  workspace := ⟨row.afterRemoval operator now leaving, now', get?_afterRemoval .., by
    rw [get?_afterRemoval, Workspace.afterRemoval_stamp operator now now']⟩
  workspaces other hother := by
    simp only [afterRemoval, Table.get?_insert, if_neg hother.symm]
  users := rfl
  roles := rfl
  permittables := rfl

end Tables

/-- A team from which users have been taken out can still be given out. -/
theorem Workspace.Restorable.afterRemoval (h : row.Restorable) (hteam : row.members.fixed = false)
    (operator : Operator) (now : Time.Instant) (leaving : List UserId) :
    (row.afterRemoval operator now leaving).Restorable :=
  ⟨h.1, fun hpersonal => nomatch hteam.symm.trans hpersonal⟩

/-! ## One by one -/

namespace Workspaces

variable {id : WorkspaceId} {directory directory' : Directory} {moment : Moment}

/-- Take members out one after the other, each at its moment, up to the first who cannot be taken
out. -/
def removeOneByOne (id : WorkspaceId) (operator : Operator) :
    List (Moment × UserId) → Directory → Except Error Directory
  | [], directory => .ok directory
  | (moment, member) :: rest, directory =>
    match (removeUserMember id member operator).perform moment directory with
    | (.ok _, directory) => removeOneByOne id operator rest directory
    | (.error error, _) => .error error

/-- A single member is taken out exactly when the member may be. -/
theorem removeUserMember_eq_ok (hkeyed : directory.store.tables.Keyed) {member : UserId}
    {ws : Workspace} :
    (removeUserMember id member operator).perform moment directory = (.ok ws, directory') ↔
      directory.store.Writable moment ∧ ∃ user row, operator.user = some user ∧
        id ∈ operator.allReadable ∧ directory.store.tables.workspaces.get? id = some row ∧
        row.Restorable ∧ row.members.Parts user [member] ∧
        ws = row.afterRemoval operator moment.now [member] ∧
        directory' = directory.afterRemoval operator moment.now [member] row := by
  rw [removeUserMember, removeMultipleUserMembers_eq_ok hkeyed,
    distinct_of_nodup (List.nodup_singleton member)]
  exact and_iff_right (List.cons_ne_nil member [])

/-- A member who may be taken out is taken out. -/
theorem removeOneByOne_cons (hkeyed : directory.store.tables.Keyed)
    (hwritable : directory.store.Writable moment) {user member : UserId}
    (huser : operator.user = some user) (hreadable : id ∈ operator.allReadable)
    (hrow : directory.store.tables.workspaces.get? id = some row) (hfit : row.Restorable)
    (hparts : row.members.Parts user [member]) (rest : List (Moment × UserId)) :
    removeOneByOne id operator ((moment, member) :: rest) directory =
      removeOneByOne id operator rest (directory.afterRemoval operator moment.now [member] row) := by
  have hsingle : (removeUserMember id member operator).perform moment directory =
      (.ok (row.afterRemoval operator moment.now [member]),
        directory.afterRemoval operator moment.now [member] row) :=
    (removeUserMember_eq_ok hkeyed).2
      ⟨hwritable, user, row, huser, hreadable, hrow, hfit, hparts, rfl, rfl⟩
  simp only [removeOneByOne, hsingle]

/-- Members who may be taken out together are taken out one after the other. -/
theorem removeOneByOne_of_parts {steps : List (Moment × UserId)} (hsome : steps ≠ [])
    (hkeyed : directory.store.tables.Keyed)
    (hwritable : ∀ step ∈ steps, directory.store.Writable step.1) {user : UserId}
    (huser : operator.user = some user) (hreadable : id ∈ operator.allReadable)
    (hrow : directory.store.tables.workspaces.get? id = some row) (hfit : row.Restorable)
    (hnodup : (steps.map Prod.snd).Nodup) (hparts : row.members.Parts user (steps.map Prod.snd)) :
    ∃ now, removeOneByOne id operator steps directory =
      .ok (directory.afterRemoval operator now (steps.map Prod.snd) row) := by
  induction steps generalizing directory row with
  | nil => exact absurd rfl hsome
  | cons step rest ih =>
    obtain ⟨moment, member⟩ := step
    have hmoment := hwritable _ List.mem_cons_self
    obtain rfl | hrest := eq_or_ne rest []
    · rw [removeOneByOne_cons hkeyed hmoment huser hreadable hrow hfit hparts]
      exact ⟨moment.now, rfl⟩
    · obtain ⟨hfirst, hothers⟩ := (Members.parts_cons_iff hnodup (by simpa using hrest)).1 hparts
      rw [removeOneByOne_cons hkeyed hmoment huser hreadable hrow hfit hfirst]
      -- The others are taken out of what the first call has left behind.
      let next := directory.afterRemoval operator moment.now [member] row
      have hown := hkeyed.workspaces hrow
      have hnext : next.store.tables.workspaces.get? id =
          some (row.afterRemoval operator moment.now [member]) :=
        hown ▸ Tables.get?_afterRemoval ..
      have hkeyed' : next.store.tables.Keyed := hkeyed.afterRemoval ..
      obtain ⟨now, hsingly⟩ := ih hrest hkeyed'
        (fun step hstep => hwritable step (List.mem_cons_of_mem _ hstep)) hnext
        (hfit.afterRemoval hfirst.team ..) (List.nodup_cons.1 hnodup).2 hothers
      exact ⟨now, hsingly.trans (congrArg Except.ok (Directory.afterRemoval_cons ..))⟩

/-- Members who are taken out one after the other may be taken out together. -/
theorem parts_of_removeOneByOne {steps : List (Moment × UserId)} (hsome : steps ≠ [])
    (hkeyed : directory.store.tables.Keyed) (hnodup : (steps.map Prod.snd).Nodup)
    (h : removeOneByOne id operator steps directory = .ok directory') :
    ∃ user row, operator.user = some user ∧ id ∈ operator.allReadable ∧
      directory.store.tables.workspaces.get? id = some row ∧ row.Restorable ∧
      row.members.Parts user (steps.map Prod.snd) := by
  induction steps generalizing directory with
  | nil => exact absurd rfl hsome
  | cons step rest ih =>
    obtain ⟨moment, member⟩ := step
    simp only [removeOneByOne] at h
    split at h
    · rename_i ws next hsingle
      obtain ⟨-, user, row, huser, hreadable, hrow, hfit, hfirst, -, rfl⟩ :=
        (removeUserMember_eq_ok hkeyed).1 hsingle
      refine ⟨user, row, huser, hreadable, hrow, hfit, ?_⟩
      obtain rfl | hrest := eq_or_ne rest []
      · exact hfirst
      · have hown := hkeyed.workspaces hrow
        let next := directory.afterRemoval operator moment.now [member] row
        have hnext : next.store.tables.workspaces.get? id =
            some (row.afterRemoval operator moment.now [member]) :=
          hown ▸ Tables.get?_afterRemoval ..
        obtain ⟨user', row', huser', -, hrow', -, hothers⟩ :=
          ih hrest (hkeyed.afterRemoval ..) (List.nodup_cons.1 hnodup).2 h
        obtain rfl := Option.some.inj (huser.symm.trans huser')
        obtain rfl := Option.some.inj (hnext.symm.trans hrow')
        exact (Members.parts_cons_iff hnodup (by simpa using hrest)).2 ⟨hfirst, hothers⟩
    · exact nomatch h

/-- Where rows are filed under their own ids, no user has two permittables and the snapshot can always
be written, different members are taken out of a workspace all together exactly when they are taken
out one after the other; and the tables are then the same but for the time of the last change of the
workspace. -/
theorem together_iff_one_by_one (directory : Directory) (hkeyed : directory.store.tables.Keyed)
    (operator : Operator) (id : WorkspaceId) {steps : List (Moment × UserId)} (hsome : steps ≠ [])
    (hnodup : (steps.map Prod.snd).Nodup) (hsteps : ∀ step ∈ steps, directory.store.Writable step.1)
    {moment : Moment} (hwritable : directory.store.Writable moment) :
    let together :=
      (removeMultipleUserMembers id (steps.map Prod.snd) operator).perform moment directory
    let singly := removeOneByOne id operator steps directory
    ((∃ ws directory', together = (.ok ws, directory')) ↔ ∃ directory', singly = .ok directory') ∧
    ∀ ws directory₁ directory₂, together = (.ok ws, directory₁) → singly = .ok directory₂ →
      directory₁.store.tables.AlikeButStamp id directory₂.store.tables := by
  intro together singly
  have hmembers : steps.map Prod.snd ≠ [] := by simpa using hsome
  constructor
  · constructor
    · rintro ⟨ws, directory', hok⟩
      obtain ⟨-, -, user, row, huser, hreadable, hrow, hfit, hparts, -⟩ :=
        (removeMultipleUserMembers_eq_ok hkeyed).1 hok
      rw [distinct_of_nodup hnodup] at hparts
      obtain ⟨now, hsingly⟩ := removeOneByOne_of_parts hsome hkeyed hsteps huser hreadable hrow hfit
        hnodup hparts
      exact ⟨_, hsingly⟩
    · rintro ⟨directory', hok⟩
      obtain ⟨user, row, huser, hreadable, hrow, hfit, hparts⟩ :=
        parts_of_removeOneByOne hsome hkeyed hnodup hok
      rw [← distinct_of_nodup hnodup] at hparts
      exact ⟨_, _, (removeMultipleUserMembers_eq_ok hkeyed).2 ⟨hmembers, hwritable, user, row, huser,
        hreadable, hrow, hfit, hparts, rfl, rfl⟩⟩
  · intro ws directory₁ directory₂ htogether hsingly
    obtain ⟨-, -, user, row, huser, hreadable, hrow, hfit, hparts, -, rfl⟩ :=
      (removeMultipleUserMembers_eq_ok hkeyed).1 htogether
    rw [distinct_of_nodup hnodup] at hparts ⊢
    obtain ⟨now, hsingly'⟩ := removeOneByOne_of_parts hsome hkeyed hsteps huser hreadable hrow hfit
      hnodup hparts
    obtain rfl := Except.ok.inj (hsingly'.symm.trans hsingly)
    have hown := hkeyed.workspaces hrow
    exact hown ▸ Tables.alikeButStamp_afterRemoval ..

end Workspaces

/-! ### A crew with two owners -/

namespace Workspaces.Crew

/-- A minute after everything else. -/
def later : Moment :=
  { Moment.epoch with now := .addSeconds .epoch 60 }

/-- Olga can take dave and herself out together, or dave first and herself a minute later, and what
is left behind is the same. -/
theorem alike_farewell :
    ∃ ws directory₁ directory₂,
      (removeMultipleUserMembers crew.id [⟨"dave"⟩, ⟨"olga"⟩] olga).perform .epoch directory =
        (.ok ws, directory₁) ∧
      removeOneByOne crew.id olga [(.epoch, ⟨"dave"⟩), (later, ⟨"olga"⟩)] directory =
        .ok directory₂ ∧
      directory₁.store.tables.AlikeButStamp crew.id directory₂.store.tables := by
  have hkeyed : directory.store.tables.Keyed := by decide
  have hwritable (moment : Moment) : directory.store.Writable moment := nofun
  have hparts : crew.members.Parts ⟨"olga"⟩ (distinct [⟨"dave"⟩, ⟨"olga"⟩]) :=
    ⟨rfl, by decide, ⟨⟨"otto"⟩, by decide, rfl⟩, .inr ⟨rfl, by decide⟩⟩
  have htogether := (removeMultipleUserMembers_eq_ok hkeyed).2 ⟨by decide, hwritable .epoch,
    ⟨"olga"⟩, crew, rfl, (by decide : crew.id ∈ olga.allReadable), rfl, ⟨by decide, nofun⟩, hparts,
    rfl, rfl⟩
  obtain ⟨hiff, halike⟩ := @together_iff_one_by_one directory hkeyed olga crew.id
    [(.epoch, ⟨"dave"⟩), (later, ⟨"olga"⟩)] (by simp) (by decide) (fun _ _ => hwritable _) .epoch
    (hwritable .epoch)
  obtain ⟨directory₂, hsingly⟩ := hiff.1 ⟨_, _, htogether⟩
  exact ⟨_, _, directory₂, htogether, hsingly, halike _ _ _ htogether hsingly⟩

end Workspaces.Crew

end Roster
