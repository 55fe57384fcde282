import Roster.Proofs.Outsiders

/-!
# Who can give access roles

Only callers whom the policy lets manage access roles get past the routes that change these roles or
give them to users. What other requests do to permittables on the way, when a workspace or a user goes
or a member leaves, only takes roles away.
-/

namespace Roster

/-- No access role has changed, and every permittable lists no more than it did before. -/
structure Tables.Curtails (t t' : Tables) : Prop where
  roles : t'.roles = t.roles
  permittables : ∀ {id p'}, t'.permittables.get? id = some p' →
    ∃ p, t.permittables.get? id = some p ∧ p'.Shrinks p

namespace Tables.Curtails

variable {t t' : Tables}

/-- Where access roles and permittables are as they were, nothing was given. -/
theorem of_same (hroles : t'.roles = t.roles) (hpermittables : t'.permittables = t.permittables) :
    t.Curtails t' where
  roles := hroles
  permittables := fun {_ p'} hp' => ⟨p', hpermittables ▸ hp', .refl p'⟩

/-- Where permittables have been rewritten so that each lists no more than before, nothing was
given. -/
theorem of_rewrites {rewrite : Permittable → Permittable} (h : t.Rewrites rewrite t')
    (hshrinks : ∀ p, (rewrite p).Shrinks p) : t.Curtails t' where
  roles := h.roles
  permittables := fun hp' => by
    rw [h.permittables, Option.map_eq_some_iff] at hp'
    obtain ⟨p, hp, rfl⟩ := hp'
    exact ⟨p, hp, hshrinks p⟩

end Tables.Curtails

/-- Operations on workspaces and accounts give no access roles. -/
theorem Operation.Effect.curtails {operator held : Operator} {operation : Operation} {t t' : Tables}
    (h : Effect operator t operation held t') (hordinary : ¬ operation.Governs) (hkeyed : t.Keyed) :
    t.Curtails t' := by
  cases h with
  | createWorkspace heffect | signup heffect | signupNewSubject heffect =>
    obtain ⟨_⟩ := heffect
    exact .of_same rfl rfl
  | edit _ heffect =>
    obtain ⟨-⟩ := heffect
    exact .of_same rfl rfl
  | signupKnownSubject => exact .of_same rfl rfl
  | updateMe heffect => cases heffect <;> exact .of_same rfl rfl
  | leave _ heffect =>
    obtain ⟨-, -, -, -, -, hrewrites⟩ := heffect
    obtain ⟨hroles, hpermittables⟩ := Tables.Curtails.of_rewrites hrewrites fun p => by
      split
      · exact p.shrinks_unbind _
      · exact .refl p
    exact ⟨hroles, hpermittables⟩
  | removeWorkspace heffect =>
    obtain ⟨-, -, -, -, hrewrites⟩ := heffect
    obtain ⟨hroles, hpermittables⟩ := Tables.Curtails.of_rewrites hrewrites fun p =>
      p.shrinks_unbind _
    exact ⟨hroles, hpermittables⟩
  | removeMe heffect =>
    obtain ⟨-, -, -, -, -, -, hroles, hpermittables⟩ := heffect
    refine ⟨hroles, fun {id p'} hp' => ?_⟩
    rw [hpermittables hkeyed, Option.bind_eq_some_iff] at hp'
    obtain ⟨p, hp, hrest⟩ := hp'
    split at hrest
    · exact nomatch hrest
    · obtain rfl := Option.some.inj hrest
      exact ⟨p, hp, p.shrinks_unbind _⟩
  | createRole | updateRole | removeRole | updatePermittable | addNewRole | addKnownRole =>
    exact absurd trivial hordinary

namespace Http

/-- Where no user has two permittables, a request changes no access role and gives none to anybody,
wherever it is sent, unless its caller has signed up and passes a check of the permission to manage
access roles. -/
theorem curtails_of_answer (service : Service) (request : Request) (moment : Moment)
    (directory : Directory) (hkeyed : directory.store.tables.Keyed)
    (hdenied : ∀ caller directory' user,
      service.authenticate request.authorization moment directory = .ok caller directory' →
        caller.user = some user →
          ((Permissions.check service.policy user.id { kind := "role" } "manage").perform moment
            directory).1 = .ok false) :
    directory.store.tables.Curtails (service.answer request moment directory).2.store.tables := by
  obtain hsame | ⟨caller, hcaller, hdeed⟩ := answer_deed hkeyed.filed
  · rw [hsame]
    exact .of_same rfl rfl
  · cases hdeed with
    | nothing hsame =>
      rw [hsame]
      exact .of_same rfl rfl
    | operation hordinary heffect => exact heffect.curtails hordinary hkeyed
    | governing hmay =>
      obtain ⟨user, huser, hallowed⟩ := hmay
      have hrefused := hdenied caller directory user hcaller huser
      rw [Permissions.perform_check] at hrefused
      exact nomatch hallowed.symm.trans (Except.ok.inj hrefused)

/-- Bob does not hold the role that lets one manage access roles, so his leaving the team gives none
to anybody. -/
theorem Leaving.curtails_leaving :
    Leaving.directory.store.tables.Curtails
      (TwoGrants.service.answer Leaving.request TwoGrants.moment Leaving.directory).2.store.tables := by
  refine curtails_of_answer TwoGrants.service Leaving.request TwoGrants.moment Leaving.directory
    (by decide) fun caller directory' user hcaller huser => ?_
  cases Leaving.authenticate_leaving.symm.trans hcaller
  obtain rfl := Option.some.inj huser
  rfl

end Http

end Roster
