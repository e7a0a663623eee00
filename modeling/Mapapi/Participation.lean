import Mapapi.Seats

/-!
# Partner suggestions and the discussion

Two more ways to become a collaborator of an incident:

- `PartnerSuggestionAcceptView` creates, or re-activates, the collaboration of
  the suggested partner;
- `DiscussionMessageView` gives a collaboration to whoever may take part in the
  discussion without having one: on an internal incident every member of the
  owning organisation, otherwise the user who has taken the incident. Reading
  the discussion is enough.

Both go through `get_or_create`, so the receivers of a new collaboration run
inside its transaction: where they find nobody to write to they delete the
row, and the code goes on with a row that is not stored any more. What is left
is said in terms of seats (`suggestedSeat`, `OpensDiscussion`).
-/

namespace Mapapi

open Lib

/-! ## PartnerSuggestionAcceptView and PartnerSuggestionRejectView -/

/-- `PartnerSuggestion.objects.get(pk=..., incident_id=...)` and the check that
nobody has answered it yet. -/
def getSuggestion (i : IncidentId) (pk : SuggestionId) (view : PartnerSuggestion → View) :
    View := do
  match ← Prog.read fun db =>
      (db.partnerSuggestions.get? pk).filter fun s => decide (s.incident = i) with
  | none => pure (.error 404 "Suggestion non trouvée.")
  | some suggestion =>
    refuseIf (decide (suggestion.status ≠ .pending))
      (.error 400 ("Cette suggestion est déjà " ++ suggestion.status.value ++ ".")) <|
    view suggestion

/-- The answer is stored last, over the suggestion that was read. -/
def answerSuggestion (suggestion : PartnerSuggestion) (status : SuggestionStatus) : View := do
  let answered := { suggestion with status := status }
  Prog.modify fun db => { db with partnerSuggestions := db.partnerSuggestions.put answered }
  pure (.ok 200 (.suggestion answered))

/-- The row of a partner whose suggestion is accepted is accepted from the
start: the suggestion was the request, and the leader has answered. -/
def PartnerSuggestion.collaboration (suggestion : PartnerSuggestion) : Collaboration :=
  Db.newCollaboration suggestion.incident suggestion.suggestedPartner
    suggestion.suggestedRole.toCollabRole .accepted

/-- `get_or_create` by the id of the incident: the receivers load it. -/
def getOrCreateSuggested (suggestion : PartnerSuggestion) :
    Prog Db (Option (Collaboration × Bool)) :=
  getOrCreate suggestion.collaboration fun db =>
    match db.incidents.get? suggestion.incident with
    | none => (none, db)
    | some incident => db.createCollaborationAtomic incident suggestion.collaboration

/-- `PartnerSuggestionAcceptView.post`. A partner who has a row gets the
suggested role in it, accepted, whatever the row was before. Neither the state
of the incident nor the expiry of the row is looked at. -/
def acceptSuggestion (auth : Option UserId) (i : IncidentId) (pk : SuggestionId) : View :=
  authenticate auth fun user =>
  permitLeader user i <|
  getSuggestion i pk fun suggestion => do
  match ← getOrCreateSuggested suggestion with
  | none => pure .crash
  | some (_, true) => answerSuggestion suggestion .accepted
  | some (row, false) => do
    Prog.modify (Db.saveCollaboration { row with
      role := suggestion.suggestedRole.toCollabRole, status := .accepted })
    answerSuggestion suggestion .accepted

def rejectSuggestion (auth : Option UserId) (i : IncidentId) (pk : SuggestionId) : View :=
  authenticate auth fun user =>
  permitLeader user i <|
  getSuggestion i pk fun suggestion =>
  answerSuggestion suggestion .rejected

/-! ## DiscussionMessageView -/

/-- `get_or_create` of a leader collaboration; a row that is not accepted
becomes accepted and keeps its role. So somebody whose request was declined is
let in again, with the role he had asked for. -/
def joinDiscussion (incident : Incident) (user : User)
    (view : Collaboration → View) : View := do
  match ← getOrCreateCollaboration incident
      (Db.newCollaboration incident.id user.id .leader .accepted) with
  | none => pure .crash
  | some (c, _) =>
    if c.status = .accepted then view c
    else do
      Prog.modify (Db.saveCollaboration { c with status := .accepted })
      view { c with status := .accepted }

/-- `_get_user_collaboration`: the row with which the user takes part in the
discussion, and where there is none, whether the user may be given one. On an
internal incident that goes by the organisation, and a row of any other kind
does not help. -/
def getUserCollaboration (i : IncidentId) (user : User)
    (view : Incident → Collaboration → View) : View :=
  getIncident i "Incident introuvable." fun incident =>
  if incident.takeInChargeMode = some .internal then do
    let owner ← Prog.read fun db => db.user? incident.takenBy
    match owner.bind User.organisationMember with
    | none => pure (.error 404 "Discussion indisponible pour cet incident.")
    | some organisation =>
      refuseIf (decide (user.organisationMember ≠ some organisation)) (.error 404
        ("Cet incident est en mode interne, réservé à l'organisation " ++
          "qui l'a pris en charge.")) <|
      joinDiscussion incident user (view incident)
  else do
    match ← Prog.read fun db => (db.collaboration? i user.id).filter fun c =>
        decide (c.status = .accepted) with
    | some c => view incident c
    | none =>
      if incident.takenBy = some user.id then joinDiscussion incident user (view incident)
      else pure (.error 404 "Vous ne participez pas à la discussion de cet incident.")

def Db.messagesOf (db : Db) (i : IncidentId) : List DiscussionMessage :=
  db.discussionMessages.filter fun m => decide (m.incident = i)

/-- `DiscussionMessageView.list`, without the cursor. -/
def readDiscussion (auth : Option UserId) (i : IncidentId) : View :=
  authenticate auth fun user =>
  let list : View := do
    let messages ← Prog.read fun db => db.messagesOf i
    pure (.ok 200 (.messages messages))
  if isSuperAdmin user then list else getUserCollaboration i user fun _ _ => list

/-- The body of a post: a text, and whether an audio or a document comes along. -/
structure DiscussionData where
  message : Arg String
  media : Arg Unit
  recipient : RawId
  deriving DecidableEq

/-- `DiscussionMessageSerializer`: at least a text or a file. The text is
looked at as its `CharField` leaves it, so blanks are no text. -/
def discussionErrors (data : DiscussionData) : List FieldError :=
  if data.message = .invalid then [{ field := "message", problem := .invalid }]
  else if data.media = .invalid then [{ field := "attachment", problem := .invalid }]
  else if presentText data.message.stripped.toOption = none ∧ data.media.toOption = none then
    [{ field := "non_field_errors",
       problem := .text "Un message doit contenir du texte, un audio ou une pièce jointe." }]
  else []

/-- The user a post is addressed to; an unknown one is ignored. -/
def getRecipient (recipient : RawId) (view : Option UserId → View) : View :=
  match recipient with
  | .absent => view none
  | .malformed => pure .crash
  | .uuid id => do
    let recipient ← Prog.read fun db => db.users.get? id
    view (recipient.map User.id)

def discussionClosed : Response :=
  .error 400 "Cet incident est résolu, la discussion est terminée."

/-- Store a post of `user`, who takes part with the row `c`. -/
def storeMessage (i : IncidentId) (user : User) (data : DiscussionData) (incident : Incident)
    (c : Collaboration) : View :=
  refuseIf incident.isResolved discussionClosed <|
  getRecipient data.recipient fun recipient => do
  let message : DiscussionMessage :=
    { incident := i, collaboration := c.id, sender := user.id,
      message := data.message.stripped.toOption, recipient := recipient }
  Prog.modify fun db => { db with discussionMessages := db.discussionMessages ++ [message] }
  pure (.ok 201 (.message message))

/-- `DiscussionMessageView.create`. The branch of a super admin never sets the
collaboration that the message is saved with, so it ends in an error. -/
def postDiscussion (auth : Option UserId) (i : IncidentId) (data : DiscussionData) : View :=
  authenticate auth fun user =>
  refuseIf (!(discussionErrors data).isEmpty) (.invalid (discussionErrors data)) <|
  if isSuperAdmin user then do
    match ← Prog.read fun db => db.incidents.get? i with
    | none => pure .crash
    | some incident => if incident.isResolved then pure discussionClosed else pure .crash
  else getUserCollaboration i user (storeMessage i user data)

/-! ## What the requests do -/

variable {db : Db} {auth : Option UserId} {i : IncidentId} {pk : SuggestionId} {user : User}
  {incident : Incident} {out : Response × Db}

theorem getSuggestion_run {view : PartnerSuggestion → View}
    (h : (getSuggestion i pk view).run db = out) :
    Refused db out ∨
      ∃ suggestion, db.partnerSuggestions.get? pk = some suggestion ∧
        suggestion.incident = i ∧ suggestion.status = .pending ∧
        (view suggestion).run db = out := by
  unfold getSuggestion at h
  rw [Prog.run_bind, Prog.run_read] at h
  cases hrow : (db.partnerSuggestions.get? pk).filter fun s => decide (s.incident = i) with
  | none =>
      rw [hrow] at h
      exact Or.inl (pure_run (by decide) h)
  | some suggestion =>
      rw [hrow] at h
      obtain ⟨hget, hincident⟩ := Option.filter_eq_some_iff.mp hrow
      rcases refuseIf_run (Nat.le_refl _) h with h | ⟨hpending, h⟩
      · exact Or.inl h
      · exact Or.inr ⟨suggestion, hget, by simpa using hincident, by simpa using hpending, h⟩

/-- The row of the suggested partner, new or re-activated. A new row goes away
again when the receivers have nobody to write to. -/
def suggestedSeat (db : Db) (suggestion : PartnerSuggestion) : Option Seat :=
  let i := suggestion.incident
  let u := suggestion.suggestedPartner
  let role := suggestion.suggestedRole.toCollabRole
  if (db.seats i u).isSome ∨
      (db.incidents.get? i).any fun incident => db.receivesAtomic incident u role then
    some { role := role, status := .accepted }
  else none

theorem suggestedSeat_eq_some {suggestion : PartnerSuggestion} {s : Seat}
    (h : suggestedSeat db suggestion = some s) :
    s = { role := suggestion.suggestedRole.toCollabRole, status := .accepted } := by
  unfold suggestedSeat at h
  dsimp only at h
  split at h
  · exact (Option.some.inj h).symm
  · cases h

theorem suggestedSeat_ne_leader {suggestion : PartnerSuggestion} :
    suggestedSeat db suggestion ≠ some Seat.leader := by
  intro h
  have hrole := (Seat.mk.inj (suggestedSeat_eq_some h)).1
  cases hsuggested : suggestion.suggestedRole <;> rw [hsuggested] at hrole <;> cases hrole

theorem suggestedSeat_existing {suggestion : PartnerSuggestion} {row : Collaboration}
    (hrow : db.collaboration? suggestion.incident suggestion.suggestedPartner = some row) :
    suggestedSeat db suggestion =
      some { role := suggestion.suggestedRole.toCollabRole, status := .accepted } := by
  refine if_pos (Or.inl ?_)
  rw [Db.seats, hrow]
  rfl

theorem suggestedSeat_new {suggestion : PartnerSuggestion}
    (hnone : db.collaboration? suggestion.incident suggestion.suggestedPartner = none)
    (hinc : db.incidents.get? suggestion.incident = some incident) :
    suggestedSeat db suggestion =
      if db.receivesAtomic incident suggestion.suggestedPartner
        suggestion.suggestedRole.toCollabRole then
        some { role := suggestion.suggestedRole.toCollabRole, status := .accepted }
      else none := by
  have hseat : db.seats suggestion.incident suggestion.suggestedPartner = none :=
    congrArg (Option.map Collaboration.seat) hnone
  simp [suggestedSeat, hseat, hinc]

section Accepted

variable {suggestion : PartnerSuggestion} (hauth : db.authenticated auth = some user)
  (hleads : db.leads user suggestion.incident = true)
  (hget : db.partnerSuggestions.get? pk = some suggestion) (hpending : suggestion.status = .pending)

include hauth hleads hget hpending

theorem acceptSuggestion_passes :
    (acceptSuggestion auth suggestion.incident pk).run db =
      match (getOrCreateSuggested suggestion).run db with
      | (none, db') => (.crash, db')
      | (some (_, true), db') => (answerSuggestion suggestion .accepted).run db'
      | (some (row, false), db') =>
        (answerSuggestion suggestion .accepted).run (db'.saveCollaboration { row with
          role := suggestion.suggestedRole.toCollabRole, status := .accepted }) := by
  have hfind : (db.partnerSuggestions.get? pk).filter
      (fun s => decide (s.incident = suggestion.incident)) = some suggestion := by
    simp [hget]
  unfold acceptSuggestion
  rw [authenticate_passes hauth, permitLeader_passes hleads]
  unfold getSuggestion
  rw [Prog.run_bind, Prog.run_read, hfind]
  dsimp only
  rw [refuseIf_passes (by simp [hpending]), Prog.run_bind]
  obtain ⟨_ | ⟨row, _ | _⟩, db'⟩ := (getOrCreateSuggested suggestion).run db <;> rfl

/-- The partner has a row: it is rewritten, whatever it was. -/
theorem acceptSuggestion_existing {row : Collaboration}
    (hrow : db.collaboration? suggestion.incident suggestion.suggestedPartner = some row) :
    (acceptSuggestion auth suggestion.incident pk).run db =
      (answerSuggestion suggestion .accepted).run (db.saveCollaboration { row with
        role := suggestion.suggestedRole.toCollabRole, status := .accepted }) := by
  have hrun : (getOrCreateSuggested suggestion).run db = (some (row, false), db) := by
    unfold getOrCreateSuggested getOrCreate
    rw [Prog.run_bind, Prog.run_read, show db.collaboration? suggestion.collaboration.incident
      suggestion.collaboration.user = some row from hrow]
    rfl
  rw [acceptSuggestion_passes hauth hleads hget hpending, hrun]

theorem acceptSuggestion_new {incident : Incident}
    (hnone : db.collaboration? suggestion.incident suggestion.suggestedPartner = none)
    (hinc : db.incidents.get? suggestion.incident = some incident) :
    (acceptSuggestion auth suggestion.incident pk).run db =
      (answerSuggestion suggestion .accepted).run
        (db.createCollaborationAtomic incident suggestion.collaboration).2 := by
  have hcreated : (db.createCollaborationAtomic incident suggestion.collaboration).1 =
      some { suggestion.collaboration with id := db.freshCollaborationId } := by
    rw [Db.createCollaborationAtomic, show db.collaboration? suggestion.collaboration.incident
      suggestion.collaboration.user = none from hnone]
    rfl
  have hrun : (getOrCreateSuggested suggestion).run db =
      (some ({ suggestion.collaboration with id := db.freshCollaborationId }, true),
        (db.createCollaborationAtomic incident suggestion.collaboration).2) := by
    unfold getOrCreateSuggested getOrCreate
    simp only [Prog.run_bind, Prog.run_read]
    rw [show db.collaboration? suggestion.collaboration.incident suggestion.collaboration.user =
      none from hnone]
    simp only [Prog.run_bind, Prog.run_atomic, hinc, hcreated, Prog.run_pure]
  rw [acceptSuggestion_passes hauth hleads hget hpending, hrun]

end Accepted

/-- Accepting a suggestion sets the seat of the partner first and answers the
suggestion last. The suggestion has to be pending; the seat that is set
depends on whether the partner already has a row. -/
theorem acceptSuggestion_run (h : (acceptSuggestion auth i pk).run db = out) :
    Refused db out ∨
      ∃ user suggestion db', db.authenticated auth = some user ∧ db.leads user i = true ∧
        db.partnerSuggestions.get? pk = some suggestion ∧ suggestion.incident = i ∧
        suggestion.status = .pending ∧
        Db.SetsSeat db db' i suggestion.suggestedPartner (suggestedSeat db suggestion) ∧
        out = (answerSuggestion suggestion .accepted).run db' := by
  have hout := h
  unfold acceptSuggestion at h
  rcases authenticate_run h with h | ⟨user, hauth, h⟩
  · exact Or.inl h
  rcases permitLeader_run h with h | ⟨hleads, h⟩
  · exact Or.inl h
  rcases getSuggestion_run h with h | ⟨suggestion, hget, rfl, hpending, h⟩
  · exact Or.inl h
  cases hrow : db.collaboration? suggestion.incident suggestion.suggestedPartner with
  | some row =>
      obtain ⟨hincident, huser⟩ := Db.collaboration?_key hrow
      rw [acceptSuggestion_existing hauth hleads hget hpending hrow] at hout
      refine Or.inr ⟨user, suggestion, _, hauth, hleads, hget, rfl, hpending, ?_, hout.symm⟩
      rw [suggestedSeat_existing hrow]
      exact Db.setsSeat_saveCollaboration (c := { row with
        role := suggestion.suggestedRole.toCollabRole, status := .accepted }) hincident huser
  | none =>
      cases hinc : db.incidents.get? suggestion.incident with
      | none =>
          unfold getOrCreateSuggested getOrCreate at h
          simp only [Prog.run_bind, Prog.run_read, Prog.run_atomic, hinc,
            show db.collaboration? suggestion.collaboration.incident
              suggestion.collaboration.user = none from hrow] at h
          exact Or.inl (pure_run (by decide) h)
      | some incident =>
          rw [acceptSuggestion_new hauth hleads hget hpending hrow hinc] at hout
          refine Or.inr ⟨user, suggestion, _, hauth, hleads, hget, rfl, hpending, ?_, hout.symm⟩
          rw [suggestedSeat_new hrow hinc]
          exact Db.setsSeat_createCollaborationAtomic incident (c := suggestion.collaboration) hrow

theorem rejectSuggestion_run (h : (rejectSuggestion auth i pk).run db = out) :
    Refused db out ∨
      ∃ suggestion, out = (answerSuggestion suggestion .rejected).run db := by
  unfold rejectSuggestion at h
  rcases authenticate_run h with h | ⟨user, -, h⟩
  · exact Or.inl h
  rcases permitLeader_run h with h | ⟨-, h⟩
  · exact Or.inl h
  rcases getSuggestion_run h with h | ⟨suggestion, -, -, -, h⟩
  · exact Or.inl h
  exact Or.inr ⟨suggestion, h.symm⟩

/-- The discussion lets `user` in, although `user` has no accepted row. -/
structure EntersDiscussion (db : Db) (incident : Incident) (user : User) : Prop where
  access : incident.takeInChargeMode = some .internal ∧
      (∃ owner organisation, db.user? incident.takenBy = some owner ∧
        owner.organisationMember = some organisation ∧
        user.organisationMember = some organisation) ∨
    incident.takeInChargeMode ≠ some .internal ∧ incident.takenBy = some user.id

theorem joinDiscussion_run {view : Collaboration → View}
    (htaken : (db.user? incident.takenBy).isSome)
    (h : (joinDiscussion incident user view).run db = out) :
    ∃ c db', Db.SetsSeat db db' incident.id user.id
        (some (Seat.admitted (db.seats incident.id user.id))) ∧
      (view c).run db' = out := by
  unfold joinDiscussion at h
  rw [Prog.run_bind] at h
  generalize hget : (getOrCreateCollaboration incident
    (Db.newCollaboration incident.id user.id .leader .accepted)).run db = result at h
  obtain ⟨result, db1⟩ := result
  obtain ⟨row, created, rfl, hincident, huser, hseat, hset⟩ :=
    Db.getOrCreateLeader_run incident htaken hget
  have hadmitted : some (Seat.admitted (db.seats incident.id user.id)) =
      some { row.seat with status := .accepted } := by
    rw [hseat]
    cases db.seats incident.id user.id <;> rfl
  simp only [Prog.run_ite] at h
  split at h
  · rename_i haccepted
    have hsame : { row.seat with status := .accepted } = row.seat := by
      rw [← haccepted]
      rfl
    refine ⟨row, db1, ?_, h⟩
    rw [hadmitted, hsame, hseat]
    cases hold : db.seats incident.id user.id with
    | none => rwa [hold] at hset
    | some s => rwa [hold] at hset
  · refine ⟨_, _, ?_, h⟩
    rw [hadmitted]
    exact hset.trans (Db.setsSeat_saveCollaboration (c := { row with status := .accepted })
      hincident huser)

/-- The discussion refuses somebody or lets them in. Whoever is let in has a
seat afterwards: the one held before, or, for a member of the owning
organisation, the seat of a leader. So to open a discussion is a write, and
reading it is one too. -/
theorem getUserCollaboration_run {view : Incident → Collaboration → View}
    (huser : db.users.get? user.id = some user)
    (h : (getUserCollaboration i user view).run db = out) :
    Refused db out ∨
      ∃ incident, db.incidents.get? i = some incident ∧
        ((∃ c, (view incident c).run db = out) ∨
          EntersDiscussion db incident user ∧
            ∃ c db', Db.SetsSeat db db' i user.id (some (Seat.admitted (db.seats i user.id))) ∧
              (view incident c).run db' = out) := by
  unfold getUserCollaboration at h
  rcases getIncident_run h with h | ⟨incident, hinc, h⟩
  · exact Or.inl h
  have hid : incident.id = i := Table.key_of_get? hinc
  subst hid
  rw [Prog.run_ite] at h
  split at h
  · rename_i hmode
    simp only [Prog.run_bind, Prog.run_read] at h
    cases howner : (db.user? incident.takenBy).bind User.organisationMember with
    | none =>
        rw [howner] at h
        exact Or.inl (pure_run (by decide) h)
    | some organisation =>
        rw [howner] at h
        obtain ⟨owner, hown, horganisation⟩ := Option.bind_eq_some_iff.mp howner
        rcases refuseIf_run (Nat.le_of_ble_eq_true rfl) h with h | ⟨hmember, h⟩
        · exact Or.inl h
        have henters : EntersDiscussion db incident user :=
          ⟨Or.inl ⟨hmode, owner, organisation, hown, horganisation, by simpa using hmember⟩⟩
        exact Or.inr ⟨incident, hinc, Or.inr ⟨henters,
          joinDiscussion_run (Option.isSome_iff_exists.mpr ⟨owner, hown⟩) h⟩⟩
  · rename_i hmode
    simp only [Prog.run_bind, Prog.run_read] at h
    cases hrow : (db.collaboration? incident.id user.id).filter fun c =>
        decide (c.status = .accepted) with
    | some c =>
        rw [hrow] at h
        exact Or.inr ⟨incident, hinc, Or.inl ⟨c, h⟩⟩
    | none =>
        rw [hrow] at h
        simp only [Prog.run_ite] at h
        split at h
        · rename_i htaken
          have hsome : (db.user? incident.takenBy).isSome := by
            rw [htaken]
            exact Option.isSome_iff_exists.mpr ⟨user, huser⟩
          exact Or.inr ⟨incident, hinc, Or.inr ⟨⟨Or.inr ⟨hmode, htaken⟩⟩,
            joinDiscussion_run hsome h⟩⟩
        · exact Or.inl (pure_run (by decide) h)

/-- What opening the discussion of `i` leaves: every seat as it was, or the
seat of a user who entered. Reading and posting share it, since both begin by
looking for the collaboration of the requester. -/
def OpensDiscussion (db : Db) (auth : Option UserId) (i : IncidentId) (db' : Db) : Prop :=
  (∃ u, Db.SetsSeat db db' i u (db.seats i u)) ∨
    ∃ user incident, db.authenticated auth = some user ∧ isSuperAdmin user = false ∧
      db.incidents.get? i = some incident ∧ EntersDiscussion db incident user ∧
      Db.SetsSeat db db' i user.id (some (Seat.admitted (db.seats i user.id)))

theorem readDiscussion_run (h : (readDiscussion auth i).run db = out) :
    Refused db out ∨ OpensDiscussion db auth i out.2 := by
  unfold readDiscussion at h
  rcases authenticate_run h with h | ⟨user, hauth, h⟩
  · exact Or.inl h
  have huser := (authenticated_id hauth).2
  rw [Prog.run_ite] at h
  split at h
  · subst h
    exact Or.inr (Or.inl ⟨user.id, Db.SetsSeat.self⟩)
  · rename_i hsuper
    rcases getUserCollaboration_run huser h with
      h | ⟨incident, hinc, ⟨c, rfl⟩ | ⟨henters, c, db', hset, rfl⟩⟩
    · exact Or.inl h
    · exact Or.inr (Or.inl ⟨user.id, Db.SetsSeat.self⟩)
    · exact Or.inr (Or.inr ⟨user, incident, hauth, by simpa using hsuper, hinc, henters, hset⟩)

/-- On an internal incident, reading is enough to be let in. -/
theorem readDiscussion_internal {owner : User} {organisation : OrganisationId}
    (hauth : db.authenticated auth = some user) (hsuper : isSuperAdmin user = false)
    (hinc : db.incidents.get? i = some incident)
    (hmode : incident.takeInChargeMode = some .internal)
    (howner : db.user? incident.takenBy = some owner)
    (horganisation : owner.organisationMember = some organisation)
    (hmember : user.organisationMember = some organisation) :
    Db.SetsSeat db ((readDiscussion auth i).run db).2 i user.id
      (some (Seat.admitted (db.seats i user.id))) := by
  have hid : incident.id = i := Table.key_of_get? hinc
  subst hid
  have hrun : (readDiscussion auth incident.id).run db = (joinDiscussion incident user fun _ => do
      let messages ← Prog.read fun db => db.messagesOf incident.id
      pure (.ok 200 (.messages messages))).run db := by
    unfold readDiscussion getUserCollaboration
    rw [authenticate_passes hauth, hsuper, Prog.run_ite, if_neg (by decide),
      getIncident_passes hinc, if_pos hmode, Prog.run_bind, Prog.run_read, howner,
      Option.bind_some, horganisation]
    exact refuseIf_passes (by simp [hmember])
  obtain ⟨c, db', hset, hout⟩ :=
    joinDiscussion_run (Option.isSome_iff_exists.mpr ⟨owner, howner⟩) hrun.symm
  rwa [← hout]

theorem getRecipient_run {recipient : RawId} {view : Option UserId → View}
    (h : (getRecipient recipient view).run db = out) :
    Refused db out ∨ ∃ user, (view user).run db = out := by
  unfold getRecipient at h
  cases recipient with
  | absent => exact Or.inr ⟨none, h⟩
  | malformed => exact Or.inl (pure_run (by decide) h)
  | uuid id => exact Or.inr ⟨_, h⟩

/-- Storing a message does not show in any seat. -/
theorem storeMessage_run {db' : Db} {u : UserId} {s : Option Seat} {data : DiscussionData}
    {c : Collaboration} (hset : Db.SetsSeat db db' i u s)
    (h : (storeMessage i user data incident c).run db' = out) :
    Db.SetsSeat db out.2 i u s := by
  unfold storeMessage at h
  rcases refuseIf_run (by decide) h with ⟨h, -⟩ | ⟨-, h⟩
  · rwa [h]
  rcases getRecipient_run h with ⟨h, -⟩ | ⟨recipient, rfl⟩
  · rwa [h]
  · exact hset.withMessages _

/-- Posting sets the seat that opening the discussion sets, and nothing else
in the store but the message: the errors of the body are found before. -/
theorem postDiscussion_run {data : DiscussionData}
    (h : (postDiscussion auth i data).run db = out) :
    Refused db out ∨ discussionErrors data = [] ∧ OpensDiscussion db auth i out.2 := by
  unfold postDiscussion at h
  rcases authenticate_run h with h | ⟨user, hauth, h⟩
  · exact Or.inl h
  have huser := (authenticated_id hauth).2
  rcases refuseIf_run (show 400 ≤ Response.status (.invalid _) from Nat.le_refl 400) h with
    h | ⟨hdata, h⟩
  · exact Or.inl h
  have hvalid : discussionErrors data = [] := by simpa using hdata
  rw [Prog.run_ite] at h
  split at h
  · rw [Prog.run_bind, Prog.run_read] at h
    cases hinc : db.incidents.get? i with
    | none =>
        rw [hinc] at h
        exact Or.inl (pure_run (by decide) h)
    | some incident =>
        simp only [hinc, Prog.run_ite] at h
        split at h
        · exact Or.inl (pure_run (by decide) h)
        · exact Or.inl (pure_run (by decide) h)
  · rename_i hsuper
    rcases getUserCollaboration_run huser h with
      h | ⟨incident, hinc, ⟨c, h⟩ | ⟨henters, c, db', hset, h⟩⟩
    · exact Or.inl h
    · exact Or.inr ⟨hvalid, Or.inl ⟨user.id, storeMessage_run Db.SetsSeat.self h⟩⟩
    · exact Or.inr ⟨hvalid, Or.inr ⟨user, incident, hauth, by simpa using hsuper, hinc, henters,
        storeMessage_run hset h⟩⟩

end Mapapi
