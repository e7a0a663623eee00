import Mapapi.TaskWrites
import Mapapi.Participation
import Mapapi.Collaborations
import Mapapi.Tasks

/-!
# Editing collaborations, suggesting partners

`CollaborationDetailView` (`PUT`, `PATCH`, `DELETE`) and
`PartnerSuggestionListCreateView.post`.

The serializer of a collaboration does not let a client write its status or
its user. It lets the client write its role, as long as it is not the
leader's, and its incident: a row can be moved. Only the pair of incident and
user has to stay unique.
-/

namespace Mapapi

open Lib

/-! ## CollaborationDetailView -/

/-- The queryset of a request that writes: the rows of the requester and those
of the incidents he has taken, or every row for a super admin or a member of
the staff. A row outside it is a 404. `isStaff` is the column `is_staff` of
the users. -/
def Db.writableCollaboration? (isStaff : UserId → Bool) (db : Db) (user : User)
    (id : CollaborationId) : Option Collaboration :=
  (db.collaborationById? id).filter fun c =>
    isStaff user.id || user.isSuperuser || decide (c.user = user.id) ||
      (db.incidentOf c).any fun incident => decide (incident.takenBy = some user.id)

/-- The fields are those of a creation; a PATCH may leave out the incident,
which a creation needs. -/
def editFieldErrors (partialUpdate : Bool) (data : CollaborationData) (db : Db) :
    List FieldError :=
  (collaborationFieldErrors db data).filter fun error =>
    !(partialUpdate && decide (data.incident = .absent ∧ error.field = "incident"))

/-- The row with the values that were sent. Its status and its user stay,
since the serializer reads neither from the body. -/
def CollaborationData.over (c : Collaboration) (data : CollaborationData) : Collaboration :=
  { c with
    incident := data.incident.over c.incident
    role := data.role.over c.role
    endDate := data.endDate.overNullable c.endDate
    motivation := data.motivation.stripped.overNullable c.motivation
    otherOption := data.otherOption.stripped.overNullable c.otherOption }

/-- Save the row `c` in the place of `old`. It may have moved to another incident,
unless the user has a row there (the integrity error of the unique constraint).
The receivers see no change of status and do nothing. -/
def Db.replaceCollaboration (old c : Collaboration) (db : Db) : Bool × Db :=
  if c.incident = old.incident then
    (true, { db with collaborations := db.collaborations.put c })
  else if (db.collaboration? c.incident c.user).isSome then (false, db)
  else
    (true, { db with
      collaborations := (db.collaborations.erase (old.incident, old.user)).put c })

/-- `CollaborationDetailView.put`, and `patch` with `partialUpdate`.
`validate` looks at the incident that the row would be about, and asks whether
it is closed; who leads it, and whether the row was accepted by somebody, is
not asked. -/
def editCollaboration (isStaff : UserId → Bool) (now : Instant) (auth : Option UserId)
    (id : CollaborationId) (partialUpdate : Bool) (data : CollaborationData) : View :=
  authenticate auth fun user => do
  match ← Prog.read fun db => db.writableCollaboration? isStaff user id with
  | none => pure (.error 404 "Not found.")
  | some c =>
    let errors ← Prog.read (editFieldErrors partialUpdate data)
    refuseIf (!errors.isEmpty) (.invalid errors) do
    match ← Prog.read fun db => db.incidents.get? (data.incident.over c.incident) with
    | none => pure .crash
    | some incident =>
      match validateCollaboration now data incident with
      | some message =>
        pure (.invalid [{ field := "non_field_errors", problem := .text message }])
      | none => do
        if ← Prog.atomic (Db.replaceCollaboration c (data.over c)) then
          pure (.ok 200 (.collaboration (data.over c)))
        else pure .crash

/-- `CollaborationDetailView.delete`, for the rows of the same queryset. An
accepted collaboration can be deleted, by its user or by whoever has taken the
incident. -/
def removeCollaboration (isStaff : UserId → Bool) (auth : Option UserId) (id : CollaborationId) :
    View :=
  authenticate auth fun user => do
  match ← Prog.read fun db => db.writableCollaboration? isStaff user id with
  | none => pure (.error 404 "Not found.")
  | some c => do
    Prog.modify (Db.deleteCollaboration c)
    pure (.ok 204 .noContent)

/-! ## PartnerSuggestionListCreateView -/

structure SuggestionData where
  incident : Arg IncidentId
  suggestedPartner : Arg UserId
  suggestedOrganisation : Arg OrganisationId
  suggestedRole : Arg SuggestionRole
  justification : Arg String
  deriving DecidableEq

def relatedProblem {α : Type} (known : α → Bool) : Arg α → Option FieldProblem
  | .absent => none
  | .null => some .null
  | .invalid => some .invalid
  | .value a => if known a then none else some .doesNotExist

def requiredProblem {α : Type} : Arg α → Option FieldProblem
  | .absent => some .required
  | .null => some .null
  | .invalid => some .invalid
  | .value _ => none

/-- The errors of the fields. The two ways to name a partner may both be left
out here; that one of them is needed is for `validate` to say. -/
def suggestionFieldErrors (db : Db) (data : SuggestionData) : List FieldError :=
  fieldErrors
    [("suggested_organisation",
        relatedProblem (fun o => (db.organisations.get? o).isSome) data.suggestedOrganisation),
      ("suggested_role", requiredProblem data.suggestedRole),
      ("justification", match data.justification.stripped with
        | .value s => if s = "" then some .blank else none
        | other => requiredProblem other),
      ("incident", incidentFieldProblem db data.incident),
      ("suggested_partner",
        relatedProblem (fun u => (db.users.get? u).isSome) data.suggestedPartner)]

def Db.bureauAgentsOf (db : Db) (organisation : OrganisationId) : List User :=
  db.users.select fun user =>
    decide (user.organisationMember = some organisation ∧ user.orgRole = some .bureauAgent)

def Db.suggestionExists (db : Db) (i : IncidentId) (partner : UserId) : Bool :=
  db.partnerSuggestions.rows.any fun s =>
    decide (s.incident = i ∧ s.suggestedPartner = partner)

/-- The partner that is meant: the user that was sent, or an admin or else a bureau
agent of the organisation that was sent. -/
def suggestedUser (db : Db) (data : SuggestionData) : Except FieldError UserId :=
  match data.suggestedPartner.toOption,
      data.suggestedOrganisation.toOption.bind db.organisations.get? with
  | some u, _ => .ok u
  | none, some organisation =>
    match (firstByPk (db.adminsOf organisation.id)).or
        (firstByPk (db.bureauAgentsOf organisation.id)) with
    | some user => .ok user.id
    | none => .error {
        field := "suggested_organisation"
        problem := .text ("L'organisation '" ++ organisation.name ++
          "' n'a aucun admin ou bureau_agent. Impossible de la suggérer comme partenaire.") }
  | none, none => .error {
      field := "suggested_partner"
      problem := .text ("Vous devez fournir 'suggested_partner' (id user) ou " ++
        "'suggested_organisation' (id organisation).") }

/-- `PartnerSuggestionSerializer.validate`, on the incident that was sent: it
is open, and the partner that is meant neither collaborates on it nor was
suggested for it. -/
def validateSuggestion (db : Db) (data : SuggestionData) (incident : Incident) :
    Except FieldError UserId :=
  let refused (message : String) : Except FieldError UserId :=
    .error { field := "non_field_errors", problem := .text message }
  if incident.isResolved then
    refused "Impossible de suggérer un partenaire sur un incident clôturé."
  else
    match suggestedUser db data with
    | .error error => .error error
    | .ok partner =>
      if (db.collaboration? incident.id partner).any fun c => decide (c.status = .accepted) then
        refused "Cette organisation collabore déjà sur l'incident."
      else if db.suggestionExists incident.id partner then
        refused "Cette organisation a déjà été invitée ou suggérée pour cet incident."
      else .ok partner

/-- `PartnerSuggestionSerializer(data=...).is_valid()`: the partner that is
meant, and the role. -/
def suggestionIsValid (data : SuggestionData) (db : Db) :
    Except (List FieldError) (UserId × SuggestionRole) :=
  match suggestionFieldErrors db data, data.incident.toOption.bind db.incidents.get?,
      data.suggestedRole.toOption with
  | [], some incident, some role =>
    match validateSuggestion db data incident with
    | .error error => .error [error]
    | .ok partner => .ok (partner, role)
  | errors, _, _ => .error errors

/-- The pair of incident and partner is unique. A second suggestion fails in
the database, after all the checks. -/
def Db.insertSuggestion (suggestion : PartnerSuggestion) (db : Db) :
    Option PartnerSuggestion × Db :=
  if db.suggestionExists suggestion.incident suggestion.suggestedPartner then (none, db)
  else
    let suggestion := { suggestion with id := db.partnerSuggestions.freshKey }
    (some suggestion, { db with partnerSuggestions := db.partnerSuggestions.put suggestion })

/-- `PartnerSuggestionListCreateView.post`. What was validated is the incident that
was sent, what is stored is the incident of the URL. -/
def suggestPartner (auth : Option UserId) (i : IncidentId) (data : SuggestionData) : View :=
  authenticate auth fun user =>
  permitLeaderOrContributor user i do
  match ← Prog.read (suggestionIsValid data) with
  | .error errors => pure (.invalid errors)
  | .ok (partner, role) =>
    match ← Prog.read fun db => db.incidents.get? i with
    | none => pure .crash
    | some incident =>
      refuseIf incident.isResolved (.invalid [{
        field := ""
        problem := .text
          "Impossible de suggérer un partenaire : l'incident est clôturé." }]) do
      match ← Prog.atomic (Db.insertSuggestion { id := 0, incident := i, suggestedBy := user.id
                                                 suggestedPartner := partner
                                                 suggestedRole := role, status := .pending }) with
      | none => pure .crash
      | some suggestion => pure (.ok 201 (.suggestion suggestion))

/-! ## What the requests do -/

section Runs

variable {isStaff : UserId → Bool} {db : Db} {now : Instant} {auth : Option UserId}
  {i : IncidentId} {id : CollaborationId} {partialUpdate : Bool} {data : CollaborationData}
  {c : Collaboration} {incident : Incident} {out : Response × Db}

/-- The request edits the row `c`; it passes every check. -/
structure Edits (isStaff : UserId → Bool) (db : Db) (now : Instant) (auth : Option UserId)
    (id : CollaborationId) (partialUpdate : Bool) (data : CollaborationData)
    (c : Collaboration) (incident : Incident) : Prop where
  row : ∃ user, db.authenticated auth = some user ∧
    db.writableCollaboration? isStaff user id = some c
  fields : editFieldErrors partialUpdate data db = []
  about : db.incidents.get? (data.over c).incident = some incident
  valid : validateCollaboration now data incident = none
  free : (data.over c).incident = c.incident ∨
    db.collaboration? (data.over c).incident c.user = none

theorem collaboration?_of_writable {user : User}
    (h : db.writableCollaboration? isStaff user id = some c) :
    db.collaboration? c.incident c.user = some c :=
  Db.collaboration?_of_byId (Option.filter_eq_some_iff.mp h).1

/-- An edit replaces the row by what the fields make of it. The status is none
of the fields, so an accepted row stays accepted, whatever its new role and
incident. -/
theorem editCollaboration_run
    (h : (editCollaboration isStaff now auth id partialUpdate data).run db = out) :
    Refused db out ∨ ∃ c incident, Edits isStaff db now auth id partialUpdate data c incident ∧
      out.2 = (db.replaceCollaboration c (data.over c)).2 := by
  unfold editCollaboration at h
  rcases authenticate_run h with h | ⟨user, hauth, h⟩
  · exact Or.inl h
  rw [Prog.run_bind, Prog.run_read] at h
  cases hrow : db.writableCollaboration? isStaff user id with
  | none =>
      rw [hrow] at h
      exact Or.inl (pure_run (by decide) h)
  | some c =>
      rw [hrow, Prog.run_bind, Prog.run_read] at h
      rcases refuseIf_run (Nat.le_refl _) h with h | ⟨herrors, h⟩
      · exact Or.inl h
      rw [Prog.run_bind, Prog.run_read] at h
      cases hinc : db.incidents.get? (data.incident.over c.incident) with
      | none =>
          rw [hinc] at h
          exact Or.inl (pure_run (by decide) h)
      | some incident =>
          rw [hinc] at h
          dsimp only at h
          cases hvalid : validateCollaboration now data incident with
          | some message =>
              rw [hvalid] at h
              exact Or.inl (pure_run (Nat.le_refl _) h)
          | none =>
              rw [hvalid, Prog.run_bind, Prog.run_atomic] at h
              by_cases hfree : (data.over c).incident = c.incident ∨
                  db.collaboration? (data.over c).incident c.user = none
              · refine Or.inr ⟨c, incident, ⟨⟨user, hauth, hrow⟩, by simpa using herrors, hinc,
                  hvalid, hfree⟩, ?_⟩
                rw [← h, Prog.run_ite]
                split <;> rfl
              · rw [not_or] at hfree
                have htaken : (db.collaboration? (data.over c).incident
                    (data.over c).user).isSome = true := Option.isSome_iff_ne_none.mpr hfree.2
                rw [Db.replaceCollaboration, if_neg hfree.1, if_pos htaken] at h
                exact Or.inl (pure_run (by decide) h)

/-- Forwards: a request that passes the checks stores the row and answers with
it. -/
theorem Edits.run (h : Edits isStaff db now auth id partialUpdate data c incident) :
    ((editCollaboration isStaff now auth id partialUpdate data).run db).2 =
      (db.replaceCollaboration c (data.over c)).2 := by
  obtain ⟨⟨user, hauth, hrow⟩, hfields, habout, hvalid, -⟩ := h
  have habout' : db.incidents.get? (data.incident.over c.incident) = some incident := habout
  unfold editCollaboration
  rw [authenticate_passes hauth, Prog.run_bind, Prog.run_read, hrow, Prog.run_bind, Prog.run_read,
    hfields]
  dsimp only
  rw [refuseIf_passes (show (!([] : List FieldError).isEmpty) = false from rfl), Prog.run_bind,
    Prog.run_read, habout']
  dsimp only
  rw [hvalid, Prog.run_bind, Prog.run_atomic, Prog.run_ite]
  split <;> rfl

theorem incidents_replaceCollaboration (old c : Collaboration) :
    (db.replaceCollaboration old c).2.incidents = db.incidents := by
  unfold Db.replaceCollaboration
  split
  · rfl
  · split <;> rfl

/-- The rows are keyed by incident and user. An edit that moves a row to
another incident therefore frees one seat and fills another one. -/
theorem seats_replaceCollaboration {old : Collaboration} (huser : c.user = old.user)
    (hfree : c.incident = old.incident ∨ db.collaboration? c.incident c.user = none)
    (j : IncidentId) (v : UserId) :
    (db.replaceCollaboration old c).2.seats j v =
      if j = c.incident ∧ v = c.user then some c.seat
      else if j = old.incident ∧ v = old.user then none
      else db.seats j v := by
  unfold Db.replaceCollaboration
  split
  · rename_i hsame
    unfold Db.seats Db.collaboration?
    rw [Table.get?_put, huser, hsame]
    by_cases hkey : j = old.incident ∧ v = old.user
    · obtain ⟨rfl, rfl⟩ := hkey
      rw [if_pos (show (old.incident, old.user) = key c from Prod.ext hsame.symm huser.symm),
        if_pos ⟨rfl, rfl⟩]
      rfl
    · have hne : (j, v) ≠ key c := fun heq =>
        hkey ⟨(congrArg Prod.fst heq).trans hsame, (congrArg Prod.snd heq).trans huser⟩
      rw [if_neg hne, if_neg hkey, if_neg hkey]
  · rename_i hmoved
    rw [hfree.resolve_left hmoved]
    unfold Db.seats Db.collaboration?
    rw [Option.isSome_none, if_neg (by decide), Table.get?_put, Table.get?_erase]
    by_cases hkey : j = c.incident ∧ v = c.user
    · obtain ⟨rfl, rfl⟩ := hkey
      rw [if_pos (show (c.incident, c.user) = key c from rfl), if_pos ⟨rfl, rfl⟩]
      rfl
    · rw [if_neg (show (j, v) ≠ key c from fun heq => hkey (Prod.mk.inj heq)), if_neg hkey]
      by_cases hold : j = old.incident ∧ v = old.user
      · rw [if_pos (show (j, v) = (old.incident, old.user) from Prod.ext hold.1 hold.2),
          if_pos hold]
        rfl
      · rw [if_neg fun heq => hold (Prod.mk.inj heq), if_neg hold]

theorem Edits.seats (h : Edits isStaff db now auth id partialUpdate data c incident)
    (j : IncidentId) (v : UserId) :
    (db.replaceCollaboration c (data.over c)).2.seats j v =
      if j = (data.over c).incident ∧ v = c.user then some (data.over c).seat
      else if j = c.incident ∧ v = c.user then none
      else db.seats j v := by
  have huser : (data.over c).user = c.user := rfl
  exact seats_replaceCollaboration huser h.free j v

theorem removeCollaboration_run (h : (removeCollaboration isStaff auth id).run db = out) :
    Refused db out ∨ ∃ c, out.2 = db.deleteCollaboration c := by
  unfold removeCollaboration at h
  rcases authenticate_run h with h | ⟨user, -, h⟩
  · exact Or.inl h
  rw [Prog.run_bind, Prog.run_read] at h
  cases hrow : db.writableCollaboration? isStaff user id with
  | none =>
      rw [hrow] at h
      exact Or.inl (pure_run (by decide) h)
  | some c =>
      rw [hrow] at h
      exact Or.inr ⟨c, h ▸ rfl⟩

theorem insertSuggestion_taken {suggestion : PartnerSuggestion}
    (h : db.suggestionExists suggestion.incident suggestion.suggestedPartner = true) :
    db.insertSuggestion suggestion = (none, db) :=
  if_pos h

theorem insertSuggestion_free {suggestion : PartnerSuggestion}
    (h : db.suggestionExists suggestion.incident suggestion.suggestedPartner = false) :
    db.insertSuggestion suggestion =
      (some { suggestion with id := db.partnerSuggestions.freshKey },
        { db with
          partnerSuggestions :=
            db.partnerSuggestions.put
              { suggestion with id := db.partnerSuggestions.freshKey } }) :=
  if_neg (ne_true_of_eq_false h)

/-- The request passes every check, and suggests the partner `p`. -/
structure Suggests (db : Db) (auth : Option UserId) (i : IncidentId) (data : SuggestionData)
    (p : UserId) : Prop where
  allowed : ∃ user, db.authenticated auth = some user ∧ db.worksOn user i = true
  valid : ∃ role, suggestionIsValid data db = .ok (p, role)
  opened : ∃ incident, db.incidents.get? i = some incident ∧ incident.isResolved = false
  free : db.suggestionExists i p = false

theorem Suggests.run {data : SuggestionData} {p : UserId} (h : Suggests db auth i data p) :
    ∃ s, s.incident = i ∧ s.suggestedPartner = p ∧
      db.partnerSuggestions.get? (key s) = none ∧
      (suggestPartner auth i data).run db = (.ok 201 (.suggestion s),
        { db with partnerSuggestions := db.partnerSuggestions.put s }) := by
  obtain ⟨⟨user, hauth, hworks⟩, ⟨role, hvalid⟩, ⟨incident, hinc, hopen⟩, hfree⟩ := h
  refine ⟨{ id := db.partnerSuggestions.freshKey, incident := i, suggestedBy := user.id
            suggestedPartner := p, suggestedRole := role, status := .pending },
    rfl, rfl, Table.get?_freshKey _, ?_⟩
  unfold suggestPartner
  rw [authenticate_passes hauth, permitLeaderOrContributor_passes hworks]
  simp only [Prog.run_bind, Prog.run_read, hvalid, hinc]
  rw [refuseIf_passes hopen, Prog.run_bind, Prog.run_atomic, insertSuggestion_free hfree]
  rfl

/-- A suggestion that is stored has passed every check of the serializer and
names the user that it was resolved to. -/
theorem suggests_of_run {data : SuggestionData} (h : (suggestPartner auth i data).run db = out) :
    Refused db out ∨ ∃ p, Suggests db auth i data p := by
  unfold suggestPartner at h
  rcases authenticate_run h with h | ⟨user, hauth, h⟩
  · exact Or.inl h
  rcases permitLeaderOrContributor_run h with h | ⟨hworks, h⟩
  · exact Or.inl h
  rw [Prog.run_bind, Prog.run_read] at h
  cases hvalid : suggestionIsValid data db with
  | error errors =>
      rw [hvalid] at h
      exact Or.inl (pure_run (Nat.le_refl _) h)
  | ok valid =>
      rw [hvalid] at h
      dsimp only at h
      rw [Prog.run_bind, Prog.run_read] at h
      cases hinc : db.incidents.get? i with
      | none =>
          rw [hinc] at h
          exact Or.inl (pure_run (by decide) h)
      | some incident =>
          rw [hinc] at h
          rcases refuseIf_run (Nat.le_refl _) h with h | ⟨hopen, h⟩
          · exact Or.inl h
          rw [Prog.run_bind, Prog.run_atomic] at h
          cases hfree : db.suggestionExists i valid.1 with
          | true =>
              rw [insertSuggestion_taken hfree] at h
              exact Or.inl (pure_run (by decide) h)
          | false =>
              exact Or.inr ⟨valid.1, ⟨user, hauth, hworks⟩, ⟨valid.2, hvalid⟩,
                ⟨incident, hinc, hopen⟩, hfree⟩

theorem suggestPartner_run {data : SuggestionData} (h : (suggestPartner auth i data).run db = out) :
    Refused db out ∨
      ∃ suggestion, out.2 =
        { db with partnerSuggestions := db.partnerSuggestions.put suggestion } := by
  rcases suggests_of_run h with h | ⟨p, hsuggests⟩
  · exact Or.inl h
  · obtain ⟨s, -, -, -, hrun⟩ := hsuggests.run
    exact Or.inr ⟨s, by rw [← h, hrun]⟩

end Runs

end Mapapi
