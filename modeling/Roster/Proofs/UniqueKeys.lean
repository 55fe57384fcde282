import Mathlib.Tactic.ByContra
import Roster.Proofs.Operations
import Roster.Proofs.Sweeps
import Roster.Proofs.Transactions

/-!
# Keys that no two records share

Users are told apart by their address, access roles by their name and permittables by their user.
Every command makes sure of this among the rows that it sees. A transaction sees a copy of the
tables, though, and what it touched is laid over tables that plain sessions may have changed
meanwhile; whether the keys are still unique then is a matter of the touched rows and of those that
stay.
-/

namespace Roster

/-! ## Rows laid over a table -/

namespace Table

variable {kind : Entity} {ρ : Type} {own : ρ → Ident kind} {alike : ρ → ρ → Prop}
  {touched : List (Ident kind)} {target staged : Table kind ρ}

/-- A row that is laid over a table is like a row that stays. -/
def Clash (alike : ρ → ρ → Prop) (target staged : Table kind ρ) (touched : List (Ident kind)) :
    Prop :=
  ∃ key ∈ touched, ∃ key', key' ∉ touched ∧ ∃ row row', staged.get? key = some row ∧
    target.get? key' = some row' ∧ alike row row'

/-- The rows under some keys are filed under their own ids, and unlike every other row that is
filed under its own id. -/
structure Vetted (own : ρ → Ident kind) (alike : ρ → ρ → Prop) (keys : List (Ident kind))
    (table : Table kind ρ) : Prop where
  filed : table.FiledOn own keys
  separate : ∀ {key key' row row'}, key ∈ keys → table.get? key = some row →
    table.get? key' = some row' → own row' = key' → alike row row' → key = key'

namespace Vetted

/-- There is nothing to be said of the rows under no keys. -/
theorem nil (table : Table kind ρ) : Vetted own alike [] table where
  filed := nofun
  separate := nofun

/-- A row may be filed under its own id if it is unlike all that have another id. -/
theorem insert (h : staged.Vetted own alike touched) (hsymm : ∀ {row row'}, alike row row' → alike row' row) {row : ρ}
    (hunlike : ∀ key other, staged.get? key = some other → own other ≠ own row →
      ¬ alike other row) :
    (staged.insert (own row) row).Vetted own alike (own row :: touched) where
  filed := h.filed.insert row
  separate := by
    intro key key' r r' hkey hr hr' hown halike
    obtain ⟨rfl, rfl⟩ | ⟨hne, hr⟩ := get?_insert_eq_some.1 hr
    · obtain ⟨hsame, -⟩ | ⟨hne', hr'⟩ := get?_insert_eq_some.1 hr'
      · exact hsame
      · exact absurd (hsymm halike) (hunlike _ _ hr' (hown ▸ hne'.symm))
    · have htouched := (List.mem_cons.1 hkey).resolve_left hne.symm
      obtain ⟨-, rfl⟩ | ⟨-, hr'⟩ := get?_insert_eq_some.1 hr'
      · exact absurd halike (hunlike _ _ hr (h.filed htouched hr ▸ hne.symm))
      · exact h.separate htouched hr hr' hown halike

/-- A row may be taken away. -/
theorem erase (h : staged.Vetted own alike touched) (key : Ident kind) :
    (staged.erase key).Vetted own alike (key :: touched) where
  filed := h.filed.erase key
  separate := by
    intro key₁ key₂ row₁ row₂ hkey hrow₁ hrow₂ hown halike
    obtain ⟨hne, hrow₁⟩ := get?_erase_eq_some.1 hrow₁
    obtain ⟨-, hrow₂⟩ := get?_erase_eq_some.1 hrow₂
    exact h.separate ((List.mem_cons.1 hkey).resolve_left hne.symm) hrow₁ hrow₂ hown halike

/-- Vetted rows do not clash with the table that they were staged for if its rows are filed under
their own ids. -/
theorem not_clash (h : staged.Vetted own alike touched) (hagree : AgreeOff touched staged target)
    (hfiled : ∀ {key row}, target.get? key = some row → own row = key) :
    ¬ Clash alike target staged touched := by
  rintro ⟨key, hkey, key', hkey', row, row', hrow, hrow', halike⟩
  rw [← hagree key' hkey'] at hrow'
  obtain rfl := h.separate hkey hrow hrow' (hfiled (hagree key' hkey' ▸ hrow')) halike
  exact hkey' hkey

/-- Rows that are filed under their own ids remain so when vetted rows are laid over them. -/
theorem filed_overlay (h : staged.FiledOn own touched)
    (hfiled : ∀ {key row}, target.get? key = some row → own row = key) {key : Ident kind} {row : ρ}
    (hrow : (target.overlay staged touched).get? key = some row) : own row = key := by
  rw [get?_overlay] at hrow
  split at hrow
  · exact h ‹_› hrow
  · exact hfiled hrow

/-- When vetted rows are laid over a table in which no two rows are alike, this remains so unless
one of them clashes with a row that stays. -/
theorem separates_overlay_iff (h : staged.Vetted own alike touched)
    (hsymm : ∀ {row row'}, alike row row' → alike row' row) (htarget : target.Separates alike) :
    (target.overlay staged touched).Separates alike ↔ ¬ Clash alike target staged touched := by
  constructor
  · rintro hseparates ⟨key, hkey, key', hkey', row, row', hrow, hrow', halike⟩
    have hlaid : (target.overlay staged touched).get? key = some row := by
      rw [get?_overlay, if_pos hkey, hrow]
    have hstays : (target.overlay staged touched).get? key' = some row' := by
      rw [get?_overlay, if_neg hkey', hrow']
    obtain rfl := hseparates hlaid hstays halike
    exact hkey' hkey
  · intro hclash key key' row row' hrow hrow' halike
    rw [get?_overlay] at hrow hrow'
    split at hrow <;> split at hrow'
    · rename_i hkey hkey'
      exact h.separate hkey hrow hrow' (h.filed hkey' hrow') halike
    · rename_i hkey hkey'
      exact absurd ⟨key, hkey, key', hkey', row, row', hrow, hrow', halike⟩ hclash
    · rename_i hkey hkey'
      exact absurd ⟨key', hkey', key, hkey, row', row, hrow', hrow, hsymm halike⟩ hclash
    · exact htarget hrow hrow' halike

end Vetted

end Table

/-! ## Drafts -/

/-- Two users have one address. -/
def User.SameEmail (user user' : User) : Prop :=
  user.email = user'.email

/-- Two access roles have one name. -/
def AccessRole.SameName (role role' : AccessRole) : Prop :=
  role.name = role'.name

/-- Two permittables belong to one user. -/
def Permittable.SameUser (p p' : Permittable) : Prop :=
  p.user = p'.user

/-- No two users have one address, no two access roles one name, and no two permittables one
user. -/
structure Tables.UniqueKeys (t : Tables) : Prop where
  emails : t.users.Separates User.SameEmail
  names : t.roles.Separates AccessRole.SameName
  holders : t.permittables.Separates Permittable.SameUser

namespace Draft

variable {draft draft' : Draft} {t : Tables}

/-- A row that the draft touched has the key of one of the rows that it leaves in some tables. -/
def Clashes (draft : Draft) (t : Tables) : Prop :=
  Table.Clash User.SameEmail t.users draft.tables.users draft.touched.users ∨
    Table.Clash AccessRole.SameName t.roles draft.tables.roles draft.touched.roles ∨
    Table.Clash Permittable.SameUser t.permittables draft.tables.permittables
      draft.touched.permittables

/-- What a draft touched is filed under its own ids, and has keys that the rest of the draft does
not have. -/
structure Vetted (draft : Draft) : Prop where
  workspaces : draft.tables.workspaces.FiledOn Workspace.id draft.touched.workspaces
  users : draft.tables.users.Vetted User.id User.SameEmail draft.touched.users
  roles : draft.tables.roles.Vetted AccessRole.id AccessRole.SameName draft.touched.roles
  permittables :
    draft.tables.permittables.Vetted Permittable.id Permittable.SameUser draft.touched.permittables

namespace Vetted

/-- A draft that has just begun has touched nothing. -/
theorem begun (t : Tables) : Draft.Vetted { tables := t } where
  workspaces := fun _ _ h => absurd h List.not_mem_nil
  users := .nil _
  roles := .nil _
  permittables := .nil _

/-- Every command vets what it touches. -/
theorem apply (h : draft.Vetted) {command : Command} (happly : command.apply draft = .ok draft') :
    draft'.Vetted := by
  have hchange := Command.change_of_apply happly
  cases command with
  | createWorkspace filter ws =>
    obtain ⟨-, rfl⟩ := refusing_eq_ok.1 hchange
    exact { h with workspaces := h.workspaces.insert ws }
  | saveWorkspaces filter workspaces =>
    obtain rfl := ok_eq_ok_comm.1 hchange
    exact List.foldlRecOn workspaces _ h fun _ hd ws _ =>
      { hd with workspaces := hd.workspaces.insert ws }
  | removeWorkspace filter id =>
    obtain ⟨-, rfl⟩ := refusing_eq_ok.1 hchange
    exact { h with workspaces := h.workspaces.erase id }
  | removeWorkspaces filter ids =>
    obtain rfl := ok_eq_ok_comm.1 hchange
    refine List.foldlRecOn ids _ h fun d hd id _ => ?_
    split
    · exact { hd with workspaces := hd.workspaces.erase id }
    · exact hd
  | saveUser user =>
    obtain ⟨hfree, rfl⟩ := Command.apply_saveUser.1 happly
    exact { h with users := h.users.insert Eq.symm hfree }
  | removeUser id =>
    obtain ⟨-, rfl⟩ := Command.apply_removeUser.1 happly
    exact { h with users := h.users.erase id }
  | saveRole role =>
    obtain ⟨hfree, rfl⟩ := Command.apply_saveRole.1 happly
    exact { h with roles := h.roles.insert Eq.symm hfree }
  | removeRole id =>
    obtain ⟨-, rfl⟩ := Command.apply_removeRole.1 happly
    exact { h with roles := h.roles.erase id }
  | savePermittable p =>
    obtain ⟨hfree, rfl⟩ := Command.apply_savePermittable.1 happly
    exact { h with permittables := h.permittables.insert Eq.symm hfree }
  | removePermittable id =>
    obtain ⟨-, rfl⟩ := Command.apply_removePermittable.1 happly
    exact { h with permittables := h.permittables.erase id }

/-- A vetted draft does not clash with the tables it was begun on if their rows are filed under
their own ids. -/
theorem not_clashes (h : draft.Vetted) (htracks : draft.Tracks t) (hfiled : t.Filed) :
    ¬ draft.Clashes t := by
  rintro (husers | hroles | hpermittables)
  · exact h.users.not_clash htracks.users hfiled.users husers
  · exact h.roles.not_clash htracks.roles hfiled.roles hroles
  · exact h.permittables.not_clash htracks.permittables hfiled.permittables hpermittables

/-- Laying a vetted draft over tables leaves rows under their own ids. -/
theorem filed_layOver (h : draft.Vetted) (hfiled : t.Filed) : (draft.layOver t).Filed where
  workspaces := Table.Vetted.filed_overlay h.workspaces hfiled.workspaces
  users := Table.Vetted.filed_overlay h.users.filed hfiled.users
  roles := Table.Vetted.filed_overlay h.roles.filed hfiled.roles
  permittables := Table.Vetted.filed_overlay h.permittables.filed hfiled.permittables

/-- Laying a vetted draft over tables leaves the keys unique unless it clashes with them. -/
theorem uniqueKeys_layOver_iff (h : draft.Vetted) (hunique : t.UniqueKeys) :
    (draft.layOver t).UniqueKeys ↔ ¬ draft.Clashes t := by
  have hemails := h.users.separates_overlay_iff Eq.symm hunique.emails
  have hnames := h.roles.separates_overlay_iff Eq.symm hunique.names
  have hholders := h.permittables.separates_overlay_iff Eq.symm hunique.holders
  rw [Clashes, not_or, not_or, ← hemails, ← hnames, ← hholders]
  exact ⟨fun h => ⟨h.emails, h.names, h.holders⟩, fun ⟨he, hn, hh⟩ => ⟨he, hn, hh⟩⟩

end Vetted

end Draft

/-! ## Schedules -/

namespace Hub

/-- What can happen on a hub: a transaction begins or, as long as it is open, is marked to be
committed or not, given up, or ended; or a command is carried out through a session. -/
inductive Event
  | begin
  | tell (session : Session) (command : Command)
  | mark (number : Nat) (marked : Bool)
  | drop (number : Nat)
  | finish (number : Nat)

/-- Something that happens at some moment. -/
structure Turn where
  moment : Moment
  event : Event

/-- Whether a transaction has begun and not ended. -/
def isOpen (hub : Hub) (number : Nat) : Bool :=
  hub.transactions[number]?.any fun tx => !tx.ended

/-- The hub after a turn. Nothing happens when a transaction has to wait, a command is refused, or
a transaction is spoken of that is not open. -/
def take (hub : Hub) (turn : Turn) : Hub :=
  match turn.event with
  | .begin => (hub.begin?.map Prod.snd).getD hub
  | .tell session command =>
    match hub.tell turn.moment session command with
    | .ok hub => hub
    | .error _ => hub
  | .mark number marked => if hub.isOpen number then hub.mark number marked else hub
  | .drop number => if hub.isOpen number then hub.drop number else hub
  | .finish number => if hub.isOpen number then (hub.finish turn.moment number).2 else hub

/-- The hub after a schedule, the first turn first. -/
def after (hub : Hub) (schedule : List Turn) : Hub :=
  schedule.foldl take hub

/-- The draft that an event commits if the snapshot can be written: what a command makes of the
committed tables when its session belongs to no transaction, and the draft of an open transaction
that is marked when it ends. -/
def staged? (hub : Hub) : Event → Option Draft
  | .tell session command =>
    match hub.transactionOf session with
    | .ok none => (command.apply { tables := hub.store.tables }).toOption
    | _ => none
  | .finish number =>
    (hub.transactions[number]?.filter fun tx => !tx.ended && tx.marked).map Transaction.draft
  | _ => none

/-- A turn commits a draft that has touched a row with the key of a row that stays. -/
def Clashes (hub : Hub) (turn : Turn) : Prop :=
  ∃ draft store, hub.staged? turn.event = some draft ∧
    hub.store.install turn.moment draft = .ok store ∧ draft.Clashes hub.store.tables

variable {hub : Hub} {turn : Turn}

/-- A session belongs to no transaction or to one that the hub has begun, or it is refused. -/
theorem transactionOf_cases (hub : Hub) (session : Session) :
    hub.transactionOf session = .ok none ∨
      (∃ number tx, hub.transactions[number]? = some tx ∧
        hub.transactionOf session = .ok (some (number, tx))) ∨
      ∃ error, hub.transactionOf session = .error error := by
  unfold transactionOf
  split
  · rename_i store number
    split
    · cases htx : hub.transactions[number]? with
      | none => exact .inr (.inr ⟨_, rfl⟩)
      | some tx => exact .inr (.inl ⟨number, tx, htx, rfl⟩)
    · exact .inr (.inr ⟨_, rfl⟩)
  · exact .inl rfl

/-- A draft that an event is to commit is what a command makes of the committed tables, or belongs to
an open transaction that is marked and ends. -/
theorem staged_cases {event : Event} {draft : Draft} (hstaged : hub.staged? event = some draft) :
    (∃ session command, event = .tell session command ∧ hub.transactionOf session = .ok none ∧
      command.apply { tables := hub.store.tables } = .ok draft) ∨
    ∃ number tx, event = .finish number ∧ hub.transactions[number]? = some tx ∧
      tx.ended = false ∧ tx.marked = true ∧ tx.draft = draft := by
  cases event with
  | begin | mark number marked | drop number => exact nomatch hstaged
  | tell session command =>
    simp only [staged?] at hstaged
    split at hstaged
    · exact .inl ⟨session, command, rfl, ‹_›, toOption_eq_some.1 hstaged⟩
    · exact nomatch hstaged
  | finish number =>
    obtain ⟨tx, htx, hdraft⟩ := Option.map_eq_some_iff.1 hstaged
    obtain ⟨htx, hmarked⟩ := Option.filter_eq_some_iff.1 htx
    rw [Bool.and_eq_true, Bool.not_eq_true'] at hmarked
    exact .inr ⟨number, tx, rfl, htx, hmarked.1, hmarked.2, hdraft⟩

/-- Through a session that is refused nothing is carried out. -/
theorem tell_of_refused (moment : Moment) {session : Session} {error : Error}
    (hsession : hub.transactionOf session = .error error) (command : Command) :
    ∃ error, hub.tell moment session command = .error error := by
  unfold tell
  rw [hsession]
  cases command.refusal? <;> exact ⟨_, rfl⟩

/-- A command on the committed tables commits the rows that it touches. -/
theorem execute_eq_install (store : Store) (moment : Moment) (command : Command) :
    store.execute moment command =
      command.apply { tables := store.tables } >>= store.install moment := by
  unfold Store.execute
  cases happly : command.apply { tables := store.tables } with
  | error error => rfl
  | ok draft =>
    have htracks := (Draft.Tracks.begun store.tables).change (Command.change_of_apply happly)
    exact (Store.install_eq_commit htracks).symm

/-- The end of a transaction commits its draft if it is marked. -/
theorem store_finish (moment : Moment) {number : Nat} {tx : Transaction}
    (htx : hub.transactions[number]? = some tx) :
    (hub.finish moment number).2.store =
      if tx.marked then (hub.store.install moment tx.draft).toOption.getD hub.store
      else hub.store := by
  obtain ⟨draft, marked, ended⟩ := tx
  simp only [finish, htx]
  cases marked with
  | false => rfl
  | true =>
    dsimp only
    cases hub.store.install moment draft <;> rfl

/-- A turn leaves the store as it was unless there is a draft that can be committed. -/
theorem store_take (hub : Hub) (turn : Turn) :
    (hub.take turn).store =
      ((hub.staged? turn.event).bind fun draft =>
        (hub.store.install turn.moment draft).toOption).getD hub.store := by
  obtain ⟨moment, event⟩ := turn
  cases event with
  | begin =>
    simp only [take, begin?, staged?]
    split <;> rfl
  | mark number marked | drop number =>
    simp only [take, staged?]
    split <;> rfl
  | tell session command =>
    simp only [take, staged?]
    obtain hplain | ⟨number, tx, htx, hsession⟩ | ⟨error, hrefused⟩ :=
      hub.transactionOf_cases session
    · rw [tell_of_plain moment hplain, execute_eq_install, hplain]
      cases command.apply { tables := hub.store.tables } with
      | error error => rfl
      | ok draft =>
        have hbind : Except.ok draft >>= hub.store.install moment = hub.store.install moment draft := rfl
        have hstaged : ((Except.ok draft : Except Error Draft).toOption.bind fun draft =>
            (hub.store.install moment draft).toOption) = (hub.store.install moment draft).toOption := rfl
        rw [hbind, hstaged]
        cases hub.store.install moment draft <;> rfl
    · rw [tell_of_transaction moment hsession, hsession]
      cases command.apply tx.draft <;> rfl
    · obtain ⟨error, htell⟩ := tell_of_refused moment hrefused command
      rw [htell, hrefused]
      rfl
  | finish number =>
    simp only [take, staged?, isOpen]
    obtain htx | ⟨tx, htx⟩ := (hub.transactions[number]?).eq_none_or_eq_some
    · simp only [htx, Option.any_none, Bool.false_eq_true, if_false]
      rfl
    · simp only [htx, Option.any_some, Option.filter_some, apply_ite Hub.store,
        store_finish moment htx]
      cases tx.ended <;> cases tx.marked <;> rfl

/-- What a turn does to the committed tables: it lays a draft over them, or it commits none and
leaves them as they were. -/
theorem tables_take (hub : Hub) (turn : Turn) :
    (∃ draft store, hub.staged? turn.event = some draft ∧
      hub.store.install turn.moment draft = .ok store ∧
      (hub.take turn).store.tables = draft.layOver hub.store.tables) ∨
    (¬ hub.Clashes turn ∧ (hub.take turn).store.tables = hub.store.tables) := by
  have hstore := hub.store_take turn
  cases hstaged : hub.staged? turn.event with
  | none =>
    refine .inr ⟨?_, by rw [hstore, hstaged]; rfl⟩
    rintro ⟨draft, store, hstaged', -⟩
    exact nomatch hstaged.symm.trans hstaged'
  | some draft =>
    cases hinstall : hub.store.install turn.moment draft with
    | error error =>
      refine .inr ⟨?_, by rw [hstore, hstaged, Option.bind_some, hinstall]; rfl⟩
      rintro ⟨draft', store, hstaged', hinstall', -⟩
      obtain rfl := Option.some.inj (hstaged.symm.trans hstaged')
      exact nomatch hinstall.symm.trans hinstall'
    | ok store =>
      refine .inl ⟨draft, store, rfl, hinstall, ?_⟩
      rw [hstore, hstaged, Option.bind_some, hinstall]
      exact Store.tables_of_commit hinstall

/-- All drafts of a hub are vetted. -/
def Vetted (hub : Hub) : Prop :=
  ∀ tx ∈ hub.transactions, tx.draft.Vetted

/-- On a hub where no transaction has begun there are no drafts. -/
theorem vetted_fresh (store : Store) : Hub.Vetted { store } := by
  simp [Vetted]

namespace Vetted

/-- A draft that a turn is to commit is vetted. -/
theorem staged (h : hub.Vetted) {event : Event} {draft : Draft}
    (hstaged : hub.staged? event = some draft) : draft.Vetted := by
  obtain ⟨session, command, -, -, happly⟩ | ⟨number, tx, -, htx, -, -, rfl⟩ := staged_cases hstaged
  · exact (Draft.Vetted.begun _).apply happly
  · exact h tx (List.mem_of_getElem? htx)

/-- Changing what is to become of a transaction leaves its draft alone. -/
theorem modify (h : hub.Vetted) (store : Store) (number : Nat) (f : Transaction → Transaction)
    (hf : ∀ tx, (f tx).draft = tx.draft) :
    Hub.Vetted { store, transactions := hub.transactions.modify number f } := by
  intro tx htx
  obtain ⟨i, hi⟩ := List.mem_iff_getElem?.1 htx
  rw [List.getElem?_modify] at hi
  obtain ⟨tx₀, htx₀, rfl⟩ := Option.map_eq_some_iff.1 hi
  split
  · rw [hf]
    exact h _ (List.mem_of_getElem? htx₀)
  · exact h _ (List.mem_of_getElem? htx₀)

/-- After any turn, all drafts are vetted. -/
theorem take (h : hub.Vetted) (turn : Turn) : (hub.take turn).Vetted := by
  obtain ⟨moment, event⟩ := turn
  cases event with
  | begin =>
    simp only [Hub.take, begin?]
    split
    · intro tx htx
      obtain htx | htx := List.mem_append.1 htx
      · exact h tx htx
      · obtain rfl := List.mem_singleton.1 htx
        exact .begun _
    · exact h
  | mark number marked =>
    simp only [Hub.take]
    split
    · exact h.modify _ number _ fun _ => by rfl
    · exact h
  | drop number =>
    simp only [Hub.take]
    split
    · exact h.modify _ number _ fun _ => by rfl
    · exact h
  | finish number =>
    simp only [Hub.take, finish]
    split
    · split
      · split
        · exact h.modify _ number _ fun _ => by rfl
        · exact h.modify _ number _ fun _ => by rfl
      · exact h.modify _ number _ fun _ => by rfl
    · exact h
  | tell session command =>
    simp only [Hub.take]
    obtain hplain | ⟨number, tx, htx, hsession⟩ | ⟨error, hrefused⟩ :=
      hub.transactionOf_cases session
    · rw [tell_of_plain moment hplain]
      cases hub.store.execute moment command <;> exact h
    · rw [tell_of_transaction moment hsession]
      cases happly : command.apply tx.draft with
      | error error => exact h
      | ok draft =>
        intro tx' htx'
        obtain htx' | rfl := List.mem_or_eq_of_mem_set htx'
        · exact h tx' htx'
        · exact (h tx (List.mem_of_getElem? htx)).apply happly
    · obtain ⟨error, htell⟩ := tell_of_refused moment hrefused command
      rw [htell]
      exact h

end Vetted

/-- A turn leaves the keys unique exactly when it does not clash. -/
theorem uniqueKeys_take_iff (hvetted : hub.Vetted) (hunique : hub.store.tables.UniqueKeys) :
    (hub.take turn).store.tables.UniqueKeys ↔ ¬ hub.Clashes turn := by
  obtain ⟨draft, store, hstaged, hinstall, htables⟩ | ⟨hclash, htables⟩ := hub.tables_take turn
  · rw [htables, (hvetted.staged hstaged).uniqueKeys_layOver_iff hunique]
    refine not_congr ⟨?_, ?_⟩
    · exact fun hclash => ⟨draft, store, hstaged, hinstall, hclash⟩
    · rintro ⟨draft', store', hstaged', -, hclash⟩
      obtain rfl := Option.some.inj (hstaged.symm.trans hstaged')
      exact hclash
  · rw [htables]
    exact iff_of_true hunique hclash

/-- A turn leaves rows under their own ids. -/
theorem filed_take (hvetted : hub.Vetted) (hfiled : hub.store.tables.Filed) :
    (hub.take turn).store.tables.Filed := by
  obtain ⟨draft, store, hstaged, -, htables⟩ | ⟨-, htables⟩ := hub.tables_take turn
  · rw [htables]
    exact (hvetted.staged hstaged).filed_layOver hfiled
  · rw [htables]
    exact hfiled

/-- Where rows are under their own ids, only the end of a transaction clashes, and only once the
committed tables are no longer those it began on but for what it touched. -/
theorem Clashes.finish (hclash : hub.Clashes turn) (hvetted : hub.Vetted)
    (hfiled : hub.store.tables.Filed) :
    ∃ number tx, turn.event = .finish number ∧ hub.transactions[number]? = some tx ∧
      ¬ tx.draft.Tracks hub.store.tables := by
  obtain ⟨draft, store, hstaged, -, hclash⟩ := hclash
  have hnot := (hvetted.staged hstaged).not_clashes (t := hub.store.tables)
  obtain ⟨session, command, -, -, happly⟩ | ⟨number, tx, hevent, htx, -, -, rfl⟩ :=
    staged_cases hstaged
  · have htracks := (Draft.Tracks.begun hub.store.tables).change (Command.change_of_apply happly)
    exact absurd hclash (hnot htracks hfiled)
  · exact ⟨number, tx, hevent, htx, fun htracks => hnot htracks hfiled hclash⟩

/-- Along a schedule on a hub whose drafts are vetted, unique keys remain unique exactly as long as no
turn clashes. -/
theorem uniqueKeys_after_iff (hvetted : hub.Vetted) (hunique : hub.store.tables.UniqueKeys)
    (schedule : List Turn) :
    (∀ n, (hub.after (schedule.take n)).store.tables.UniqueKeys) ↔
      ∀ n turn, schedule[n]? = some turn → ¬ (hub.after (schedule.take n)).Clashes turn := by
  induction schedule generalizing hub with
  | nil => exact iff_of_true (fun n => by rwa [List.take_nil]) fun n turn hturn => nomatch hturn
  | cons first rest ih =>
    constructor
    · intro hall n turn hturn
      cases n with
      | zero =>
        obtain rfl := Option.some.inj hturn
        exact (uniqueKeys_take_iff hvetted hunique).1 (hall 1)
      | succ n => exact (ih (hvetted.take first) (hall 1)).1 (fun n => hall (n + 1)) n turn hturn
    · intro hnone n
      cases n with
      | zero => exact hunique
      | succ n =>
        have hfirst := (uniqueKeys_take_iff hvetted hunique).2 (hnone 0 first rfl)
        exact (ih (hvetted.take first) hfirst).2 (fun n => hnone (n + 1)) n

/-- Along a schedule on a hub whose drafts are vetted, the drafts remain vetted and rows remain under
their own ids. -/
theorem vetted_after (hvetted : hub.Vetted) (hfiled : hub.store.tables.Filed)
    (schedule : List Turn) :
    (hub.after schedule).Vetted ∧ (hub.after schedule).store.tables.Filed := by
  induction schedule generalizing hub with
  | nil => exact ⟨hvetted, hfiled⟩
  | cons first rest ih => exact ih (hvetted.take first) (filed_take hvetted hfiled)

/-- Whatever is done through plain sessions and through those of transactions, unique keys remain
unique exactly as long as no turn clashes. Where rows are under their own ids, only the end of a
transaction ever clashes, once the committed tables have been changed behind its back. -/
theorem uniqueKeys_throughout_iff {store : Store} (hunique : store.tables.UniqueKeys)
    (schedule : List Turn) :
    ((∀ n, (Hub.after { store } (schedule.take n)).store.tables.UniqueKeys) ↔
      ∀ n turn, schedule[n]? = some turn →
        ¬ (Hub.after { store } (schedule.take n)).Clashes turn) ∧
    (store.tables.Filed → ∀ n turn, (Hub.after { store } (schedule.take n)).Clashes turn →
      ∃ number tx, turn.event = .finish number ∧
        (Hub.after { store } (schedule.take n)).transactions[number]? = some tx ∧
        ¬ tx.draft.Tracks (Hub.after { store } (schedule.take n)).store.tables) := by
  refine ⟨uniqueKeys_after_iff (vetted_fresh store) hunique schedule, fun hfiled n turn hclash => ?_⟩
  obtain ⟨hvetted, hfiled⟩ := vetted_after (vetted_fresh store) hfiled (schedule.take n)
  exact hclash.finish hvetted hfiled

/-- A transaction and a plain session save two users with one address, and neither sees the other. -/
def oneAddress : List Turn :=
  let user (id : String) : User :=
    { id := ⟨id⟩
      name := id
      email := "post@example.com"
      identities := []
      workspace := ⟨id⟩
      profile := {}
      updatedAt := .epoch }
  [⟨.epoch, .begin⟩,
    ⟨.epoch, .tell (.transaction 0 0) (.saveUser (user "ann"))⟩,
    ⟨.epoch, .tell .plain (.saveUser (user "bob"))⟩,
    ⟨.epoch, .mark 0 true⟩,
    ⟨.epoch, .finish 0⟩]

/-- An empty store has no keys that could be shared, and its rows are under their own ids. -/
theorem uniqueKeys_blank (label : Nat) (file : Option String) (attached : Bool) :
    (Store.blank label file attached).tables.UniqueKeys ∧
      (Store.blank label file attached).tables.Filed :=
  ⟨⟨Table.separates_empty _, Table.separates_empty _, Table.separates_empty _⟩,
    ⟨nofun, nofun, nofun, nofun⟩⟩

/-- Afterwards both users are there. -/
theorem not_uniqueKeys_oneAddress :
    ¬ (Hub.after { store := .blank 0 none false } oneAddress).store.tables.UniqueKeys := by
  intro h
  let users := (Hub.after { store := .blank 0 none false } oneAddress).store.tables.users
  have hann : users.get? ⟨"ann"⟩ = some _ := rfl
  have hbob : users.get? ⟨"bob"⟩ = some _ := rfl
  exact absurd (h.emails hann hbob rfl) (by decide)

/-- Unique keys do not survive every schedule. -/
theorem keys_shared_after_merge :
    ¬ ∀ (store : Store) (schedule : List Turn), store.tables.UniqueKeys →
      (Hub.after { store } schedule).store.tables.UniqueKeys :=
  fun h => not_uniqueKeys_oneAddress (h _ oneAddress (uniqueKeys_blank 0 none false).1)

/-- It is the end of the transaction that goes wrong there. -/
theorem clash_in_oneAddress :
    ∃ n turn number, oneAddress[n]? = some turn ∧ turn.event = .finish number ∧
      (Hub.after { store := .blank 0 none false } (oneAddress.take n)).Clashes turn := by
  obtain ⟨hunique, hfiled⟩ := uniqueKeys_blank 0 none false
  obtain ⟨hkept, hends⟩ := uniqueKeys_throughout_iff hunique oneAddress
  by_contra hnone
  refine not_uniqueKeys_oneAddress (hkept.2 (fun n turn hturn hclash => hnone ?_) 5)
  obtain ⟨number, tx, hevent, -, -⟩ := hends hfiled n turn hclash
  exact ⟨n, turn, number, hturn, hevent, hclash⟩

end Hub

end Roster
