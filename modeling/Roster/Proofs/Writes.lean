import Roster.Proofs.Drafts

/-!
# What commands write, row by row

A row has its place under a key of one of the four tables. Carried out on some tables, a command
either is refused or writes and removes the rows under certain keys, and it leaves the others alone.
A draft records exactly these keys, however many commands it has been through.
-/

namespace Roster

/-- The place of a row: one of the tables, and a key there. -/
inductive Key
  | workspace (id : WorkspaceId)
  | user (id : UserId)
  | role (id : RoleId)
  | permittable (id : PermittableId)
  deriving DecidableEq, Repr

/-- What stands under a key. -/
def Key.Row : Key → Type
  | workspace _ => Workspace
  | user _ => User
  | role _ => AccessRole
  | permittable _ => Permittable

namespace Tables

/-- The row under a key, if there is one. -/
def row? (t : Tables) : (key : Key) → Option key.Row
  | .workspace id => t.workspaces.get? id
  | .user id => t.users.get? id
  | .role id => t.roles.get? id
  | .permittable id => t.permittables.get? id

end Tables

namespace Command

/-- What a command makes of tables. -/
def on (command : Command) (t : Tables) : Except Error Tables :=
  (command.apply { tables := t }).map Draft.tables

/-- A command that is carried out on some tables writes or removes the row under a key. Of several
workspaces to remove only those that are there count. -/
def Affects (t : Tables) (key : Key) : Command → Prop
  | createWorkspace _ ws => key = .workspace ws.id
  | saveWorkspaces _ workspaces => ∃ ws ∈ workspaces, key = .workspace ws.id
  | removeWorkspace _ id => key = .workspace id
  | removeWorkspaces _ ids => ∃ id ∈ ids, key = .workspace id ∧ t.workspaces.contains id = true
  | saveUser user => key = .user user.id
  | removeUser id => key = .user id
  | saveRole role => key = .role role.id
  | removeRole id => key = .role id
  | savePermittable p => key = .permittable p.id
  | removePermittable id => key = .permittable id

end Command

namespace Tables

/-- The tables after some commands, the first one first; one that is refused changes nothing. -/
def after (t : Tables) (commands : List Command) : Tables :=
  commands.foldl (fun t command => (command.on t).toOption.getD t) t

/-- Among some commands that are carried out one after another, one that succeeds writes or removes
the row under a key. -/
def Written (t : Tables) (commands : List Command) (key : Key) : Prop :=
  ∃ earlier command later t', commands = earlier ++ command :: later ∧
    command.on (t.after earlier) = .ok t' ∧ command.Affects (t.after earlier) key

variable {t t' : Tables} {commands : List Command} {command : Command} {key : Key} {error : Error}

/-- After one more command that succeeds, the tables are what it made of them. -/
theorem after_concat_of_ok (h : command.on (t.after commands) = .ok t') :
    t.after (commands ++ [command]) = t' := by
  unfold after at h ⊢
  rw [List.foldl_append, List.foldl_cons, List.foldl_nil, h]
  rfl

/-- After one more command that is refused, the tables are as before. -/
theorem after_concat_of_error (h : command.on (t.after commands) = .error error) :
    t.after (commands ++ [command]) = t.after commands := by
  unfold after at h ⊢
  rw [List.foldl_append, List.foldl_cons, List.foldl_nil, h]
  rfl

/-- A row has been written by some commands and one more exactly when it was written before or is
written by the last one. -/
theorem written_concat : t.Written (commands ++ [command]) key ↔
    t.Written commands key ∨
      ∃ t', command.on (t.after commands) = .ok t' ∧ command.Affects (t.after commands) key := by
  constructor
  · rintro ⟨earlier, other, later, t', hsplit, hon, haffects⟩
    obtain rfl | ⟨later, last, rfl⟩ := later.eq_nil_or_concat
    · obtain ⟨rfl, hlast⟩ := List.append_inj' hsplit rfl
      obtain rfl := List.singleton_inj.1 hlast
      exact .inr ⟨t', hon, haffects⟩
    · rw [List.concat_eq_append, ← List.cons_append, ← List.append_assoc] at hsplit
      obtain ⟨rfl, -⟩ := List.append_inj' hsplit rfl
      exact .inl ⟨earlier, other, later, t', rfl, hon, haffects⟩
  · rintro (⟨earlier, other, later, t', rfl, hon, haffects⟩ | ⟨t', hon, haffects⟩)
    · exact ⟨earlier, other, later ++ [command], t', by simp, hon, haffects⟩
    · exact ⟨commands, command, [], t', rfl, hon, haffects⟩

end Tables

/-! ## Drafts -/

namespace Draft

variable {draft draft' : Draft} {command : Command} {key : Key}

/-- The row under a key was written or removed in the draft. -/
def Touches (draft : Draft) : Key → Prop
  | .workspace id => id ∈ draft.touched.workspaces
  | .user id => id ∈ draft.touched.users
  | .role id => id ∈ draft.touched.roles
  | .permittable id => id ∈ draft.touched.permittables

/-- A draft that has just begun has touched nothing. -/
theorem not_touches_begun (t : Tables) (key : Key) : ¬ Draft.Touches { tables := t } key := by
  cases key <;> exact List.not_mem_nil

/-- Of a touched key the draft's row is laid over other tables. -/
theorem row?_layOver_of_touches (t : Tables) (h : draft.Touches key) :
    (draft.layOver t).row? key = draft.tables.row? key := by
  cases key <;> exact (Table.get?_overlay ..).trans (if_pos h)

/-- Under other keys the tables that a draft is laid over keep their rows. -/
theorem row?_layOver_of_not_touches (t : Tables) (h : ¬ draft.Touches key) :
    (draft.layOver t).row? key = t.row? key := by
  cases key <;> exact (Table.get?_overlay ..).trans (if_neg h)

/-- Filing workspaces touches just their keys. -/
theorem touches_foldl_putWorkspace (workspaces : List Workspace) :
    (workspaces.foldl putWorkspace draft).Touches key ↔
      draft.Touches key ∨ ∃ ws ∈ workspaces, key = .workspace ws.id := by
  induction workspaces generalizing draft with
  | nil => simp
  | cons ws rest ih =>
    rw [List.foldl_cons, ih]
    cases key <;> simp [Touches, putWorkspace, or_assoc, or_left_comm]

/-- Removing what is there of some workspaces touches just what is there. -/
theorem touches_foldl_dropIfThere (ids : List WorkspaceId) :
    (ids.foldl Command.dropIfThere draft).Touches key ↔ draft.Touches key ∨
      ∃ id ∈ ids, key = .workspace id ∧ draft.tables.workspaces.contains id = true := by
  induction ids generalizing draft with
  | nil => simp
  | cons first rest ih =>
    rw [List.foldl_cons, ih, Command.dropIfThere]
    split
    · rename_i hthere
      cases key with
      | workspace id =>
        by_cases hid : id = first
        · simp [Touches, dropWorkspace, hid, hthere]
        · have hrest : (∃ id' ∈ rest, Key.workspace id = .workspace id' ∧
                (draft.dropWorkspace first).tables.workspaces.contains id' = true) ↔
              ∃ id' ∈ rest, Key.workspace id = .workspace id' ∧
                draft.tables.workspaces.contains id' = true := by
            refine exists_congr fun id' => and_congr_right fun _ => and_congr_right fun hkey => ?_
            obtain rfl := Key.workspace.inj hkey
            simp [dropWorkspace, Ne.symm hid]
          rw [hrest]
          simp [Touches, dropWorkspace, hid]
      | user id | role id | permittable id => simp [Touches, dropWorkspace]
    · rename_i hfree
      simp [hfree]

/-- A command that succeeds touches just the keys that it affects. -/
theorem touches_of_apply (h : command.apply draft = .ok draft') :
    draft'.Touches key ↔ draft.Touches key ∨ command.Affects draft.tables key := by
  have hchange := Command.change_of_apply h
  cases command with
  | createWorkspace filter ws =>
    obtain ⟨-, rfl⟩ := refusing_eq_ok.1 hchange
    cases key <;> simp [Touches, putWorkspace, Command.Affects, or_comm]
  | saveWorkspaces filter workspaces =>
    obtain rfl := ok_eq_ok_comm.1 hchange
    exact touches_foldl_putWorkspace workspaces
  | removeWorkspace filter id =>
    obtain ⟨-, rfl⟩ := refusing_eq_ok.1 hchange
    cases key <;> simp [Touches, dropWorkspace, Command.Affects, or_comm]
  | removeWorkspaces filter ids =>
    obtain rfl := ok_eq_ok_comm.1 hchange
    exact touches_foldl_dropIfThere ids
  | saveUser user =>
    obtain ⟨-, rfl⟩ := refusing_eq_ok.1 hchange
    cases key <;> simp [Touches, putUser, Command.Affects, or_comm]
  | removeUser id =>
    obtain ⟨-, rfl⟩ := refusing_eq_ok.1 hchange
    cases key <;> simp [Touches, dropUser, Command.Affects, or_comm]
  | saveRole role =>
    obtain ⟨-, rfl⟩ := refusing_eq_ok.1 hchange
    cases key <;> simp [Touches, putRole, Command.Affects, or_comm]
  | removeRole id =>
    obtain ⟨-, rfl⟩ := refusing_eq_ok.1 hchange
    cases key <;> simp [Touches, dropRole, Command.Affects, or_comm]
  | savePermittable p =>
    obtain ⟨-, rfl⟩ := refusing_eq_ok.1 hchange
    cases key <;> simp [Touches, putPermittable, Command.Affects, or_comm]
  | removePermittable id =>
    obtain ⟨-, rfl⟩ := refusing_eq_ok.1 hchange
    cases key <;> simp [Touches, dropPermittable, Command.Affects, or_comm]

/-! ### What was touched before does not matter -/

/-- Filing workspaces makes of the tables what it makes of them in any other draft of them. -/
theorem tables_foldl_putWorkspace (workspaces : List Workspace)
    (h : draft.tables = draft'.tables) :
    (workspaces.foldl putWorkspace draft).tables =
      (workspaces.foldl putWorkspace draft').tables := by
  induction workspaces generalizing draft draft' with
  | nil => exact h
  | cons ws rest ih => exact ih (by simp only [putWorkspace, h])

/-- Removing workspaces makes of the tables what it makes of them in any other draft of them. -/
theorem tables_foldl_dropIfThere (ids : List WorkspaceId) (h : draft.tables = draft'.tables) :
    (ids.foldl Command.dropIfThere draft).tables =
      (ids.foldl Command.dropIfThere draft').tables := by
  induction ids generalizing draft draft' with
  | nil => exact h
  | cons id rest ih =>
    refine ih ?_
    simp only [Command.dropIfThere, h]
    split
    · simp only [dropWorkspace, h]
    · exact h

/-- A command makes of a draft's tables what it makes of them in any other draft. -/
theorem map_tables_apply (command : Command) (draft : Draft) :
    (command.apply draft).map Draft.tables = command.on draft.tables := by
  unfold Command.on Command.apply
  cases command.refusal? with
  | some error => rfl
  | none =>
    cases command with
    | saveWorkspaces filter workspaces =>
      exact congrArg Except.ok (tables_foldl_putWorkspace workspaces rfl)
    | removeWorkspaces filter ids => exact congrArg Except.ok (tables_foldl_dropIfThere ids rfl)
    | createWorkspace filter ws | removeWorkspace filter id | saveUser user | removeUser id
    | saveRole role | removeRole id | savePermittable p | removePermittable id =>
      simp only [Command.change]
      split <;> rfl

end Draft

end Roster
