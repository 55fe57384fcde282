import Roster.Proofs.Ownership
import Roster.Proofs.UniqueKeys

/-!
# What tells users, access roles and workspaces apart

Users are told apart by their addresses and by the subjects under which they log in, access roles by
their names, and workspaces by their aliases, as far as they have one. Every operation looks for
the first record with such a key before it files one, so along every run no two records come to
share one, and what is stored is stored in its normal form.
-/

namespace Roster

/-- Two users log in as one subject. -/
def User.SharesSubject (user user' : User) : Prop :=
  ∃ identity ∈ user.identities, user'.hasSubject identity.subject = true

/-- Two workspaces have one alias, and not just none. -/
def Workspace.SameAlias (ws ws' : Workspace) : Prop :=
  ws.aliasName ≠ "" ∧ ws.aliasName = ws'.aliasName

/-- No two users have one address or log in as one subject, no two access roles have one name, and no
two workspaces have one alias; addresses are stored in their normal form, and names of access roles
are not empty and have no blank ends. -/
structure Tables.Identifying (t : Tables) : Prop where
  emails : t.users.Separates User.SameEmail
  normal : ∀ {id user}, t.users.get? id = some user → normalizeEmail user.email = .ok user.email
  subjects : t.users.Separates User.SharesSubject
  names : t.roles.Separates AccessRole.SameName
  named : ∀ {id role}, t.roles.get? id = some role → role.name ≠ "" ∧ Text.trim role.name = role.name
  aliases : t.workspaces.Separates Workspace.SameAlias

/-- Who shares a subject with somebody does so mutually. -/
theorem User.SharesSubject.symm {user user' : User} (h : user.SharesSubject user') :
    user'.SharesSubject user := by
  obtain ⟨identity, hidentity, hshared⟩ := h
  obtain ⟨identity', hidentity', hsame⟩ := List.any_eq_true.1 hshared
  refine ⟨identity', hidentity', List.any_eq_true.2 ⟨identity, hidentity, ?_⟩⟩
  exact decide_eq_true (of_decide_eq_true hsame).symm

/-- Who has an alias in common with another workspace does so mutually. -/
theorem Workspace.SameAlias.symm {ws ws' : Workspace} (h : ws.SameAlias ws') :
    ws'.SameAlias ws :=
  ⟨h.2 ▸ h.1, h.2.symm⟩

namespace Tables.Identifying

variable {t t' : Tables}

/-- The permittables do not matter. -/
theorem congr (h : t.Identifying) (hworkspaces : t'.workspaces = t.workspaces)
    (husers : t'.users = t.users) (hroles : t'.roles = t.roles) : t'.Identifying where
  emails := husers ▸ h.emails
  normal := fun hu => h.normal (husers ▸ hu)
  subjects := husers ▸ h.subjects
  names := hroles ▸ h.names
  named := fun hr => h.named (hroles ▸ hr)
  aliases := hworkspaces ▸ h.aliases

/-- Permittables may be rewritten. -/
theorem rewrite (h : t.Identifying) {rewrite : Permittable → Permittable}
    (hrewrites : t.Rewrites rewrite t') : t'.Identifying :=
  h.congr hrewrites.workspaces hrewrites.users hrewrites.roles

/-! ## Users -/

/-- A user may be filed under an address that is in its normal form and free, if no other user logs in
as they do. -/
theorem fileUser (h : t.Identifying)
    (hfiled : ∀ {id user}, t.users.get? id = some user → user.id = id) {user : User}
    (hnormal : normalizeEmail user.email = .ok user.email) (haddress : t.AddressFree user)
    (hsubjects : ∀ id other, t.users.get? id = some other → id ≠ user.id →
      ¬ other.SharesSubject user) :
    (t.fileUser user).Identifying :=
  { h with
    emails := h.emails.insert Eq.symm fun id other hother hne =>
      haddress id other hother (hfiled hother ▸ hne)
    normal := fun hu => by
      obtain ⟨-, rfl⟩ | ⟨-, hu⟩ := Table.get?_insert_eq_some.1 hu
      · exact hnormal
      · exact h.normal hu
    subjects := h.subjects.insert User.SharesSubject.symm hsubjects }

/-- A user who is revised may be filed in their place. -/
theorem fileRevised (h : t.Identifying)
    (hfiled : ∀ {id user}, t.users.get? id = some user → user.id = id) {me : UserId}
    {user user' : User} (huser : t.users.get? me = some user) (hid : user'.id = user.id)
    (hidentities : user'.identities = user.identities)
    (hemail : user'.email = user.email ∨ normalizeEmail user'.email = .ok user'.email)
    (haddress : t.AddressFree user') : (t.fileUser user').Identifying := by
  have hnormal : normalizeEmail user'.email = .ok user'.email := by
    obtain hsame | hnormal := hemail
    · rw [hsame]
      exact h.normal huser
    · exact hnormal
  refine h.fileUser hfiled hnormal haddress fun id other hother hne hshared => ?_
  rw [hid, hfiled huser] at hne
  refine hne (h.subjects hother huser ?_)
  obtain ⟨identity, hidentity, hsame⟩ := hshared
  refine ⟨identity, hidentity, ?_⟩
  rw [User.hasSubject, ← hidentities]
  exact hsame

/-! ## Workspaces -/

/-- A workspace may be filed whose alias no other workspace has. -/
theorem fileWorkspace (h : t.Identifying) {ws : Workspace}
    (halias : ∀ id other, t.workspaces.get? id = some other → id ≠ ws.id →
      ¬ other.SameAlias ws) : (t.fileWorkspace ws).Identifying :=
  { h with aliases := h.aliases.insert Workspace.SameAlias.symm halias }

/-- An alias that may be taken is an alias of the excepted workspace only. -/
theorem eq_except_of_aliasFree (h : t.Identifying)
    (hfiled : ∀ {id ws}, t.workspaces.get? id = some ws → ws.id = id) {ws other : Workspace}
    {except : Option WorkspaceId} (hfree : t.AliasFree ws.aliasName except) {id : WorkspaceId}
    (hother : t.workspaces.get? id = some other) (hsame : other.SameAlias ws) :
    some id = except := by
  obtain ⟨hsome, halias⟩ := hsame
  have hfirst := hfree.resolve_left fun hnone => hsome (halias.trans hnone)
  cases hfind : t.workspaces.values.find? (·.aliasName = ws.aliasName) with
  | none =>
    have htest := Table.test_of_find?_values_eq_none hfind hother
    exact absurd halias (of_decide_eq_false htest)
  | some first =>
    obtain ⟨key, hkey, htest⟩ := Table.get?_of_find?_values hfind
    have hboth : other.SameAlias first := ⟨hsome, halias.trans (of_decide_eq_true htest).symm⟩
    rw [h.aliases hother hkey hboth, ← hfiled hkey]
    exact hfirst first hfind

/-- A workspace may be filed in the place of a stored one under its alias or one that may be taken. -/
theorem fileSuccessor (h : t.Identifying)
    (hfiled : ∀ {id ws}, t.workspaces.get? id = some ws → ws.id = id) {id : WorkspaceId}
    {ws ws' : Workspace} (hshows : t.Shows id ws) (hid : ws'.id = id)
    (halias : ws'.aliasName = ws.aliasName ∨ t.AliasFree ws'.aliasName (some id)) :
    (t.fileWorkspace ws').Identifying := by
  refine h.fileWorkspace fun key other hother hne hsame => ?_
  rw [hid] at hne
  obtain hkept | hfree := halias
  · obtain ⟨row, hrow, hrowAlias⟩ := hshows.aliasName
    exact hne (h.aliases hother hrow ⟨hsame.1, hsame.2.trans (hkept.trans hrowAlias)⟩)
  · exact hne (Option.some.inj (h.eq_except_of_aliasFree hfiled hfree hother hsame))

/-- A workspace without an alias may be filed. -/
theorem fileUnaliased (h : t.Identifying) {ws : Workspace} (hnone : ws.aliasName = "") :
    (t.fileWorkspace ws).Identifying :=
  h.fileWorkspace fun _ _ _ _ hsame => hsame.1 (hsame.2.trans hnone)

/-! ## Access roles -/

/-- An access role may be filed under a name that is fit and free. -/
theorem of_roleFiling (h : t.Identifying)
    (hfiled : ∀ {id role}, t.roles.get? id = some role → role.id = id)
    (hfiling : RoleFiling t t') : t'.Identifying := by
  obtain ⟨role, hnamed, hunique⟩ := hfiling
  refine
    { h with
      names := h.names.insert Eq.symm fun id other hother hne =>
        hunique id other hother (hfiled hother ▸ hne)
      named := fun hr => ?_ }
  obtain ⟨-, rfl⟩ | ⟨-, hr⟩ := Table.get?_insert_eq_some.1 hr
  · exact hnamed
  · exact h.named hr

/-! ## Going for good -/

/-- When a user goes for good, the workspaces that remain keep their aliases. -/
theorem of_withdrawal (h : t.Identifying) {operator : Operator}
    (hwithdrawal : Withdrawal operator t t') : t'.Identifying := by
  obtain @⟨me, user, closed, -, -, hfates, hnothing, -, husers, hroles, -⟩ := hwithdrawal
  have hbefore {id : WorkspaceId} {ws : Workspace} (hws : t'.workspaces.get? id = some ws) :
      ∃ row, t.workspaces.get? id = some row ∧ ws.aliasName = row.aliasName := by
    cases hrow : t.workspaces.get? id with
    | none => exact nomatch hws.symm.trans (hnothing hrow)
    | some row =>
      have hfate := hfates hrow
      rw [hws] at hfate
      cases hfate with
      | spared => exact ⟨ws, rfl, rfl⟩
      | left _ _ _ _ _ halias => exact ⟨row, rfl, halias⟩
  exact
    { emails := husers ▸ h.emails.erase me
      normal := fun hu => by
        rw [husers] at hu
        exact h.normal (Table.get?_erase_eq_some.1 hu).2
      subjects := husers ▸ h.subjects.erase me
      names := hroles ▸ h.names
      named := fun hr => h.named (hroles ▸ hr)
      aliases := fun id id' ws ws' hws hws' hsame => by
        obtain ⟨row, hrow, halias⟩ := hbefore hws
        obtain ⟨row', hrow', halias'⟩ := hbefore hws'
        rw [Workspace.SameAlias, halias, halias'] at hsame
        exact h.aliases hrow hrow' hsame }

end Tables.Identifying

/-- Every operation that succeeds leaves records told apart. -/
theorem Operation.Effect.identifying {operator held : Operator} {operation : Operation}
    {t t' : Tables} (heffect : Effect operator t operation held t') (hfiled : t.Filed)
    (h : t.Identifying) : t'.Identifying := by
  cases heffect with
  | createWorkspace heffect =>
    obtain ⟨-, -, hfree, -, -, halias⟩ := heffect
    refine h.fileWorkspace fun key other hother hne hsame => ?_
    exact nomatch h.eq_except_of_aliasFree hfiled.workspaces halias hother hsame
  | edit _ heffect =>
    obtain ⟨-, -, hshows, hid, -, halias⟩ := heffect
    exact h.fileSuccessor hfiled.workspaces hshows (hid.trans (hfiled.id_of_shows hshows)) halias
  | leave _ heffect =>
    obtain ⟨-, hshows, hid, -, -, hrewrites, halias⟩ := heffect
    refine (h.rewrite hrewrites).fileSuccessor
      (fun hws => hfiled.workspaces (hrewrites.workspaces ▸ hws)) (hshows.congr hrewrites.workspaces)
      (hid.trans (hfiled.id_of_shows hshows)) (.inl halias)
  | @removeWorkspace id _ heffect =>
    obtain ⟨-, -, -, -, hrewrites⟩ := heffect
    have herased : Tables.Identifying { t with workspaces := t.workspaces.erase id } :=
      { h with aliases := h.aliases.erase id }
    exact herased.rewrite hrewrites
  | signup heffect | signupNewSubject heffect =>
    obtain ⟨-, -, -, -, -, -, halias, hemail, haddress, hsubjects⟩ := heffect
    refine Tables.Identifying.fileUnaliased ?_ halias
    refine h.fileUser hfiled.users hemail haddress fun id other hother _ hshared => ?_
    obtain ⟨identity, hidentity, hsame⟩ := hshared.symm
    exact nomatch hsame.symm.trans (hsubjects identity hidentity id other hother)
  | updateMe heffect =>
    cases heffect with
    | sameName _ huser hid _ _ hidentities hemail haddress =>
      exact h.fileRevised hfiled.users huser hid hidentities hemail haddress
    | newName _ huser hid _ hshows hid' _ _ _ hidentities hemail haddress halias =>
      have hhome := h.fileSuccessor hfiled.workspaces hshows
        (hid'.trans (hfiled.id_of_shows hshows)) (.inl halias)
      exact hhome.fileRevised hfiled.users huser hid hidentities hemail haddress
  | removeMe heffect => exact h.of_withdrawal heffect
  | createRole heffect | updateRole heffect => exact h.of_roleFiling hfiled.roles heffect
  | removeRole heffect =>
    obtain ⟨hrewrites⟩ := heffect
    have hrewritten := h.rewrite hrewrites
    exact
      { hrewritten with
        names := hrewritten.names.erase _
        named := fun hr => hrewritten.named (Table.get?_erase_eq_some.1 hr).2 }
  | updatePermittable heffect | addNewRole heffect =>
    obtain ⟨_⟩ := heffect
    exact h.congr rfl rfl rfl
  | signupKnownSubject | addKnownRole => exact h

/-- A call leaves records told apart, whoever makes it. -/
theorem Tables.Identifying.of_call {store : Store} (h : store.tables.Identifying)
    (hfiled : store.tables.Filed) (call : Call) : (call.perform store).2.tables.Identifying := by
  obtain ⟨error, hcall⟩ | ⟨held, store', hcall, heffect⟩ := call.perform_cases hfiled
  · rw [hcall]
    exact h
  · rw [hcall]
    exact heffect.identifying hfiled h

/-- Sound tables in which records are told apart remain so along every run. -/
theorem Store.identifying_after_of_sound {store : Store} (hsound : store.tables.Sound)
    (h : store.tables.Identifying) (calls : List Call) : (store.after calls).tables.Identifying := by
  induction calls generalizing store with
  | nil => exact h
  | cons call calls ih => exact ih (hsound.of_call call) (h.of_call hsound.filed call)

/-- There is nothing to be told apart in an empty store. -/
theorem Store.identifying_blank (label : Nat) (file : Option String) (attached : Bool) :
    (Store.blank label file attached).tables.Identifying where
  emails := Table.separates_empty _
  normal := nofun
  subjects := Table.separates_empty _
  names := Table.separates_empty _
  named := nofun
  aliases := Table.separates_empty _

/-- Whatever is done on an empty store, whoever does it, what tells users, access roles and workspaces
apart is stored in its normal form and shared by no two of them. -/
theorem Store.identifying_after (label : Nat) (file : Option String) (attached : Bool)
    (calls : List Call) : ((Store.blank label file attached).after calls).tables.Identifying :=
  identifying_after_of_sound (sound_blank label file attached)
    (identifying_blank label file attached) calls

end Roster
