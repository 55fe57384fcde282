import Roster.Proofs.RecordShapes

/-!
# Snapshots hold what they were made of

Every record of the directory is read back from its JSON form. So the snapshot of some tables
holds just these tables, whatever texts and instants are in their rows.
-/

namespace Roster

open Json (Record Shape)

/-! ## The records of the directory -/

/-- A membership is read back. -/
theorem Member.reads_json (member : Member) : Member.record.shape.Reads member.json member := by
  obtain ⟨role, disabled, invitedBy, host⟩ := member
  have hrole : Role.shape.Reads role.json role := Shape.reads_word role.ofName?_name
  cases host with
  | none =>
    refine Record.reads_record (by decide) (List.sublist_append_left _ ["host"]) ?_
    exact ((Record.Finds.required rfl hrole).map _)
      |>.seq (.defaulted rfl (Shape.reads_bool disabled) false)
      |>.seq (.required rfl (Shape.reads_ident invitedBy))
      |>.seq (.missing rfl _ none)
  | some host =>
    have hhost : (Shape.nullable Shape.text).Reads (.text host) (some host) := ⟨trivial, rfl⟩
    refine Record.reads_record (by decide) (.refl _) ?_
    exact ((Record.Finds.required rfl hrole).map _)
      |>.seq (.defaulted rfl (Shape.reads_bool disabled) false)
      |>.seq (.required rfl (Shape.reads_ident invitedBy))
      |>.seq (.defaulted rfl hhost none)

/-- A workspace profile is read back. -/
theorem WorkspaceProfile.reads_json (profile : WorkspaceProfile) :
    WorkspaceProfile.record.shape.Reads profile.json profile := by
  refine Record.reads_record (by decide) (.refl _) ?_
  exact ((Record.Finds.defaulted rfl (Shape.reads_text profile.description) "").map _)
    |>.seq (.defaulted rfl (Shape.reads_text profile.website) "")
    |>.seq (.defaulted rfl (Shape.reads_text profile.location) "")
    |>.seq (.defaulted rfl (Shape.reads_text profile.billingEmail) "")
    |>.seq (.defaulted rfl (Shape.reads_text profile.photoUrl) "")

/-- A workspace is read back. -/
theorem Workspace.reads_json (ws : Workspace) : Workspace.record.shape.Reads ws.json ws := by
  refine Record.reads_record (by decide) (.refl _) ?_
  exact ((Record.Finds.required rfl (Shape.reads_ident ws.id)).map _)
    |>.seq (.required rfl (Shape.reads_text ws.name))
    |>.seq (.defaulted rfl (Shape.reads_text ws.aliasName) "")
    |>.seq (.defaulted rfl (Shape.reads_text ws.email) "")
    |>.seq (.defaulted rfl (WorkspaceProfile.reads_json ws.profile) {})
    |>.seq (.defaulted rfl (Shape.reads_bool ws.isPersonal) false)
    |>.seq (.defaulted rfl (Shape.reads_table Member.reads_json ws.members.users) ∅)
    |>.seq (.defaulted rfl (Shape.reads_table Member.reads_json ws.members.integrations) ∅)
    |>.seq (.defaulted rfl (Shape.reads_ident? ws.policy) none)
    |>.seq (.required rfl (Shape.reads_instant ws.updatedAt))

/-- An identity is read back. -/
theorem Identity.reads_json (identity : Identity) :
    Identity.record.shape.Reads identity.json identity := by
  refine Record.reads_record (by decide) (.refl _) ?_
  exact ((Record.Finds.required rfl (Shape.reads_text identity.provider)).map _)
    |>.seq (.required rfl (Shape.reads_text identity.subject))

/-- A user profile is read back. -/
theorem UserProfile.reads_json (profile : UserProfile) :
    UserProfile.record.shape.Reads profile.json profile := by
  have htheme : Theme.shape.Reads profile.theme.json profile.theme :=
    Shape.reads_word profile.theme.ofName?_name
  refine Record.reads_record (by decide) (.refl _) ?_
  exact ((Record.Finds.defaulted rfl (Shape.reads_text profile.lang) "").map _)
    |>.seq (.defaulted rfl htheme .default)
    |>.seq (.defaulted rfl (Shape.reads_text profile.description) "")
    |>.seq (.defaulted rfl (Shape.reads_text profile.website) "")
    |>.seq (.defaulted rfl (Shape.reads_text profile.photoUrl) "")

/-- A user is read back. -/
theorem User.reads_json (user : User) : User.record.shape.Reads user.json user := by
  refine Record.reads_record (by decide) (.refl _) ?_
  exact ((Record.Finds.required rfl (Shape.reads_ident user.id)).map _)
    |>.seq (.required rfl (Shape.reads_text user.name))
    |>.seq (.required rfl (Shape.reads_text user.email))
    |>.seq (.defaulted rfl (Shape.reads_list Identity.reads_json user.identities) [])
    |>.seq (.required rfl (Shape.reads_ident user.workspace))
    |>.seq (.defaulted rfl (UserProfile.reads_json user.profile) {})
    |>.seq (.required rfl (Shape.reads_instant user.updatedAt))

/-- An access role is read back. -/
theorem AccessRole.reads_json (role : AccessRole) :
    AccessRole.record.shape.Reads role.json role := by
  refine Record.reads_record (by decide) (.refl _) ?_
  exact ((Record.Finds.required rfl (Shape.reads_ident role.id)).map _)
    |>.seq (.required rfl (Shape.reads_text role.name))

/-- A binding is read back. -/
theorem Binding.reads_json (binding : Binding) :
    Binding.record.shape.Reads binding.json binding := by
  refine Record.reads_record (by decide) (.refl _) ?_
  exact ((Record.Finds.required rfl (Shape.reads_ident binding.workspace)).map _)
    |>.seq (.required rfl (Shape.reads_ident binding.role))

/-- A permittable is read back. -/
theorem Permittable.reads_json (p : Permittable) : Permittable.record.shape.Reads p.json p := by
  refine Record.reads_record (by decide) (.refl _) ?_
  exact ((Record.Finds.required rfl (Shape.reads_ident p.id)).map _)
    |>.seq (.required rfl (Shape.reads_ident p.user))
    |>.seq (.defaulted rfl (Shape.reads_list Shape.reads_ident p.roles) [])
    |>.seq (.defaulted rfl (Shape.reads_list Binding.reads_json p.bindings) [])

/-- All tables are read back. -/
theorem Tables.reads_json (t : Tables) : Tables.record.shape.Reads t.json t := by
  refine Record.reads_record (by decide) (.refl _) ?_
  exact ((Record.Finds.defaulted rfl (Shape.reads_table Workspace.reads_json t.workspaces) ∅).map _)
    |>.seq (.defaulted rfl (Shape.reads_table User.reads_json t.users) ∅)
    |>.seq (.defaulted rfl (Shape.reads_table AccessRole.reads_json t.roles) ∅)
    |>.seq (.defaulted rfl (Shape.reads_table Permittable.reads_json t.permittables) ∅)

/-! ## Snapshots -/

/-- A text that begins with a character that is no blank does not become empty by trimming. -/
theorem Text.trim_ne_empty {c : Char} (h : isBlank c = false) (cs : List Char) :
    (trim (String.ofList (c :: cs))).isEmpty = false := by
  have hnot : dropBlankEnd (c :: cs) ≠ [] := by
    intro hnil
    have hall := List.dropWhile_eq_nil_iff.1 (List.reverse_eq_nil_iff.1 hnil)
    have hblank := hall c (List.mem_reverse.2 List.mem_cons_self)
    exact Bool.false_ne_true (h.symm.trans hblank)
  rw [trim, String.toList_ofList, trimChars, List.dropWhile_cons_of_neg (by simp [h])]
  simpa [String.isEmpty_iff] using hnot

/-- A snapshot is not blank. -/
theorem Tables.toSnapshot_not_blank (t : Tables) : (Text.trim t.toSnapshot).isEmpty = false := by
  have hwrite : ∃ cs, t.json.write (.lines 0) = '{' :: cs := by
    rw [json, Json.record, List.map_cons, Json.write]
    exact ⟨_, rfl⟩
  obtain ⟨cs, hwrite⟩ := hwrite
  rw [toSnapshot, Json.pretty, hwrite]
  exact Text.trim_ne_empty (by decide) cs

/-- The snapshot of some tables holds just these tables. -/
theorem Tables.ofSnapshot?_toSnapshot (t : Tables) : ofSnapshot? t.toSnapshot = some t := by
  have hread : Json.read t.toSnapshot.toList = (t.json, some []) := by
    rw [toSnapshot, Json.pretty, String.toList_ofList]
    exact Json.read_write t.reads_json.plain _
  rw [ofSnapshot?, t.toSnapshot_not_blank, Shape.readWhole, hread, Shape.takeWhole,
    t.reads_json.reads]
  rfl

end Roster
