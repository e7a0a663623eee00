import Mapapi.Server

/-!
# What a successful join leaves behind

Four requests announce that somebody has joined an incident:
`CollaborationView.post`, `TakeInChargeView` in the roles contributor and
observer, each element of `BulkCollaborationRequestView` listed under
`created`, and `PartnerSuggestionAcceptView`. All of them go on after the save
as if the row they have created were there. The receivers of the row may have
deleted it again: they write to the user in `taken_by`, and cancel the
collaboration when there is nobody or no address.

So an announced row is there exactly when the join reaches somebody. Where it
does not, the incident may still be opened for it.
-/

namespace Mapapi

open Lib

/-! ## Joins and their announcements -/

/-- The ways to a new row that are announced to the client, and so those in
which the receiver of the row can take back what was announced. -/
inductive Join where
  | request (auth : Option UserId) (data : CollaborationData)
  | take (auth : Option UserId) (i : IncidentId) (mode : Choice TakeInChargeMode)
      (role : Choice CollabRole)
  | bulk (auth : Option UserId) (requests : Option (List BulkItem))
  | suggestion (auth : Option UserId) (i : IncidentId) (pk : SuggestionId)

def Join.view (now : Instant) : Join → View
  | request auth data => requestCollaboration now auth data
  | take auth i mode role => takeInCharge now auth i mode role
  | bulk auth requests => bulkRequest now auth requests
  | suggestion auth i pk => acceptSuggestion auth i pk

def Join.op : Join → Op
  | request auth data => .requestCollaboration auth data
  | take auth i mode role => .takeInCharge auth i mode role
  | bulk auth requests => .bulkRequest auth requests
  | suggestion auth i pk => .acceptSuggestion auth i pk

theorem Join.effect_op (now : Instant) (db : Db) (join : Join) :
    join.op.effect now db = ((join.view now).run db).2 := by
  cases join <;> rfl

/-- A row that an answer tells about. -/
structure Announcement where
  incident : IncidentId
  user : UserId
  seat : Seat
  deriving DecidableEq

def Collaboration.announcement (c : Collaboration) : Announcement :=
  { incident := c.incident, user := c.user, seat := c.seat }

/-- The rows that the body of an answer tells about. An accepted suggestion is
answered with the suggestion, whose partner has joined in the suggested role. -/
def Reply.announced : Reply → List Announcement
  | collaboration c => [c.announcement]
  | takenInCharge _ _ (some role) (some status) _ _ c =>
    [{ incident := c.incident, user := c.user, seat := { role := role, status := status } }]
  | bulk created _ _ => created.map Collaboration.announcement
  | suggestion s =>
    [{ incident := s.incident, user := s.suggestedPartner
       seat := { role := s.suggestedRole.toCollabRole, status := .accepted } }]
  | _ => []

/-- The rows that a successful answer tells about. -/
def Response.announced : Response → List Announcement
  | ok status reply => if status < 400 then reply.announced else []
  | _ => []

/-- The mode of a row that is there. It decides, besides the role, whether a
seat is kept. -/
def Db.mode? (db : Db) (i : IncidentId) : Option (Option TakeInChargeMode) :=
  (db.incidents.get? i).map Incident.takeInChargeMode

/-- The announcement holds after the request: the row is there as announced.
Without a row the mode of the incident would at least be what it was. The
second half matters because the mode is saved after the row, whether or not
the row is still there. -/
structure Announcement.Kept (a : Announcement) (db db' : Db) : Prop where
  row : db'.seats a.incident a.user = some a.seat
  mode : db'.seats a.incident a.user = none → db'.mode? a.incident = db.mode? a.incident

/-! ## When a join reaches somebody -/

/-- The user in `taken_by` is `u` itself, or has an e-mail address. -/
def Db.reaches (db : Db) (i : IncidentId) (u : UserId) : Bool :=
  (db.incidents.get? i).any fun incident =>
    (db.user? incident.takenBy).any fun leader => decide (leader.id = u ∨ leader.email ≠ "")

/-- The same inside a transaction, where the text for the leader has to fit. -/
def Db.reachesAtomic (db : Db) (i : IncidentId) (u : UserId) : Bool :=
  (db.incidents.get? i).any fun incident =>
    (db.user? incident.takenBy).any fun leader =>
      decide (leader.id = u ∨
        leader.email ≠ "" ∧ (db.requestMessage incident u).length ≤ maxTextLength)

/-- The join of `u` to `i` reaches somebody. A suggestion about a partner that
has a row already needs nobody. -/
def Join.Reaches (db : Db) (i : IncidentId) (u : UserId) : Join → Prop
  | suggestion .. => (db.seats i u).isSome = true ∨ db.reachesAtomic i u = true
  | _ => db.reaches i u = true

/-- The request is about this incident, for this user. -/
def Join.Asks (db : Db) (i : IncidentId) (u : UserId) : Join → Prop
  | request auth data => auth = some u ∧ data.incident = .value i
  | take auth j _ _ => auth = some u ∧ j = i
  | bulk auth requests =>
    auth = some u ∧ ∃ items, requests = some items ∧ ∃ item ∈ items, item.incident = .uuid i
  | suggestion _ j pk =>
    j = i ∧ ∃ s, db.partnerSuggestions.get? pk = some s ∧ s.incident = i ∧ s.suggestedPartner = u

variable {db db' : Db} {now : Instant} {auth : Option UserId} {user : User} {i : IncidentId}
  {u : UserId} {role : CollabRole}

theorem receives_eq_reaches {incident : Incident} (hinc : db.incidents.get? i = some incident)
    (hrole : role ≠ .leader) : db.receives incident.takenBy u role = db.reaches i u := by
  simp [Db.receives, Db.reaches, hinc, hrole]

theorem receivesAtomic_eq_reachesAtomic {incident : Incident}
    (hinc : db.incidents.get? i = some incident) (hrole : role ≠ .leader) :
    db.receivesAtomic incident u role = db.reachesAtomic i u := by
  simp [Db.receivesAtomic, Db.reachesAtomic, hinc, hrole]

theorem Db.SameRows.reaches (h : Db.SameRows db db') : db'.reaches i u = db.reaches i u := by
  unfold Db.reaches Db.user?
  rw [h.incidents, h.users]

/-! ## When an announcement is kept -/

theorem Announcement.kept_iff {a : Announcement} (reached : Bool)
    (h : db'.seats a.incident a.user = if reached then some a.seat else none) :
    a.Kept db db' ↔ reached = true := by
  cases reached with
  | false =>
      refine ⟨fun hkept => ?_, fun hreached => nomatch hreached⟩
      exact nomatch h.symm.trans hkept.row
  | true => exact ⟨fun _ => rfl, fun _ => ⟨h, fun hnone => nomatch h.symm.trans hnone⟩⟩

/-- What has become of an announcement: it is about what was asked, and the row
is there if somebody was reached. -/
structure Announcement.Settled (a : Announcement) (db db' : Db) (join : Join) : Prop where
  asked : join.Asks db a.incident a.user
  kept : a.Kept db db' ↔ join.Reaches db a.incident a.user

theorem seats_joinIncident (incident : Incident) : (db.joinIncident incident).seats = db.seats := by
  unfold Db.joinIncident
  split <;> rfl

/-- A refusal announces nothing. -/
theorem Refused.announced {out : Response × Db} (h : Refused db out) : out.1.announced = [] := by
  obtain ⟨response, db'⟩ := out
  cases response with
  | ok status reply => exact if_neg (Nat.not_lt.mpr h.2)
  | refused | invalid | unauthorized | crash => rfl

theorem Announcement.settled {a : Announcement} {join : Join}
    (hasked : join.Asks db a.incident a.user)
    (hseat : db'.seats a.incident a.user =
      if db.reaches a.incident a.user then some a.seat else none)
    (hjoin : join.Reaches db a.incident a.user ↔ db.reaches a.incident a.user = true) :
    a.Settled db db' join :=
  ⟨hasked, (Announcement.kept_iff _ hseat).trans hjoin.symm⟩

theorem settled_request {data : CollaborationData} {a : Announcement}
    (ha : a ∈ ((requestCollaboration now auth data).run db).1.announced) :
    a.Settled db ((requestCollaboration now auth data).run db).2 (.request auth data) := by
  rcases requestCollaboration_run (Eq.refl ((requestCollaboration now auth data).run db)) with
    h | ⟨user, valid, db', hauth, -, hvalid, -, hset, ⟨id, hreply⟩, hout⟩
  · rw [h.announced] at ha
    cases ha
  obtain ⟨hdata, hinc, -, -, hleader⟩ := collaborationIsValid_ok hvalid
  rw [hreply] at ha
  obtain rfl : a = _ := List.mem_singleton.mp ha
  refine Announcement.settled ⟨(authenticated_id hauth).1, hdata⟩ ?_ Iff.rfl
  have hseats : ((requestCollaboration now auth data).run db).2.seats = db'.seats := by
    rw [hout]
    split <;> rfl
  rw [hseats, hset.seats, if_pos ⟨rfl, rfl⟩, receives_eq_reaches hinc (getD_ne_leader hleader)]
  rfl

theorem createUserAction_announced {action : String} {reply : UserAction → Response}
    (h : ∀ logged, (reply logged).announced = []) :
    ((createUserAction u action fun logged => pure (reply logged)).run db).1.announced = [] := by
  rcases Db.createUserAction_run (Eq.refl ((createUserAction u action fun logged =>
    pure (reply logged)).run db)) with ⟨-, hout⟩ | hout
  · rw [hout]
    rfl
  · rw [← hout]
    exact h _

theorem takeInternal_announced {incident : Incident} :
    ((takeInternal now user incident).run db).1.announced = [] := by
  unfold takeInternal refuseIf
  simp only [Prog.run_ite, Prog.run_bind, Prog.run_modify]
  split
  · rfl
  split
  · rfl
  split
  · rfl
  · exact createUserAction_announced fun _ => rfl

theorem takeLeader_announced {incident : Incident} :
    ((takeLeader now user incident).run db).1.announced = [] := by
  unfold takeLeader refuseIf
  simp only [Prog.run_ite, Prog.run_bind, Prog.run_modify, Prog.run_atomic]
  split
  · rfl
  split
  · rfl
  · simp only [Prog.run_bind, Prog.run_atomic]
    exact createUserAction_announced fun _ => rfl

theorem settled_take {mode : Choice TakeInChargeMode} {choice : Choice CollabRole}
    {a : Announcement} (ha : a ∈ ((takeInCharge now auth i mode choice).run db).1.announced) :
    a.Settled db ((takeInCharge now auth i mode choice).run db).2 (.take auth i mode choice) := by
  rcases takeInCharge_run (Eq.refl ((takeInCharge now auth i mode choice).run db)) with
    h | ⟨user, incident, hauth, -, hinc, -, ⟨-, h⟩ | ⟨role, -, -, h⟩⟩
  · rw [h.announced] at ha
    cases ha
  · rw [← h, takeInternal_announced] at ha
    cases ha
  rcases takeCollaborative_run h with h | ⟨-, hnone, ⟨-, h⟩ | ⟨hrole, h⟩⟩
  · rw [h.announced] at ha
    cases ha
  · rw [← h, takeLeader_announced] at ha
    cases ha
  obtain rfl : incident.id = i := Table.key_of_get? hinc
  obtain ⟨db', -, hset, hout | ⟨message, data, id, action, hout⟩⟩ := takeJoin_run hnone h
  · rw [hout] at ha
    cases ha
  rw [hout] at ha ⊢
  obtain rfl : a = _ := List.mem_singleton.mp ha
  refine Announcement.settled ⟨(authenticated_id hauth).1, rfl⟩ ?_ Iff.rfl
  have hseats : ((db'.joinIncident incident).logAction user.id action).seats = db'.seats :=
    seats_joinIncident incident
  rw [hseats, hset.seats, if_pos ⟨rfl, rfl⟩, receives_eq_reaches hinc hrole]
  rfl

/-! ### Bulk requests -/

/-- A row that a bulk request of `user` has created, while the request goes on:
for an incident among `listed`, and there if it reaches somebody. -/
structure BulkRow (db : Db) (user : User) (listed : IncidentId → Prop) (row : Collaboration) :
    Prop where
  owner : row.user = user.id
  listed : listed row.incident
  seat : db.seats row.incident user.id =
    if db.reaches row.incident user.id then some row.seat else none

/-- A later element may be about the same incident only when the row did not
stay, and then its row does not stay either. -/
theorem BulkRow.later {listed : IncidentId → Prop} {row : Collaboration} {s : Seat}
    (h : BulkRow db user listed row) (hfree : db.seats i user.id = none)
    (hset : Db.SetsSeat db db' i user.id (if db.reaches i user.id then some s else none)) :
    BulkRow db' user listed row := by
  refine ⟨h.owner, h.listed, ?_⟩
  rw [hset.rows.reaches, hset.seats]
  by_cases hi : row.incident = i
  · have hseat := h.seat
    rw [hi, hfree] at hseat
    rw [if_pos ⟨hi, rfl⟩, hi]
    cases hreach : db.reaches i user.id with
    | true => exact nomatch hseat.trans (if_pos hreach)
    | false => rfl
  · rw [if_neg fun hsame => hi hsame.1]
    exact h.seat

/-- Whatever a bulk request announces as created is a row of its own list, and
is there when the request ends. The induction is on the items; a row that an
earlier item has created is still there after the later ones, which are about
the same user. -/
theorem bulkItems_created (listed : IncidentId → Prop) {items : List BulkItem} {index : Nat}
    {created : List Collaboration} {errors : List BulkError} {out : Response × Db}
    (hlisted : ∀ item ∈ items, ∀ j, item.incident = .uuid j → listed j)
    (hcreated : ∀ row ∈ created, BulkRow db user listed row)
    (h : (bulkItems now user index created errors items).run db = out) :
    Db.SameRows db out.2 ∧ ∀ a ∈ out.1.announced,
      ∃ row, a = row.announcement ∧ BulkRow out.2 user listed row := by
  induction items generalizing index created errors db with
  | nil =>
      subst h
      refine ⟨Db.SameRows.refl, fun a ha => ?_⟩
      have hstatus : (if errors.isEmpty then 201 else 207) < 400 := by split <;> decide
      have hreply : ((bulkItems now user index created errors []).run db).1.announced =
          created.map Collaboration.announcement := if_pos hstatus
      rw [hreply] at ha
      obtain ⟨row, hrow, rfl⟩ := List.mem_map.mp ha
      exact ⟨row, rfl, hcreated row hrow⟩
  | cons item rest ih =>
      have hrest : ∀ item ∈ rest, ∀ j, item.incident = .uuid j → listed j :=
        fun item hitem => hlisted item (List.mem_cons_of_mem _ hitem)
      rcases bulkItems_cons_run h with
        rfl | ⟨created', _, db', hrun, ⟨rfl, rfl⟩ | ⟨valid, id, hitem, hvalid, hfree, rfl, -, hset⟩⟩
      · exact ⟨Db.SameRows.refl, fun a ha => nomatch ha⟩
      · exact ih hrest hcreated hrun
      obtain ⟨-, hinc, -, -, hleader⟩ := collaborationIsValid_ok hvalid
      rw [receives_eq_reaches hinc (getD_ne_leader hleader)] at hset
      have hnone : db.seats valid.incident.id user.id = none :=
        congrArg (Option.map Collaboration.seat) hfree
      have hrows' : ∀ row ∈ created ++ [{ valid.row user.id .pending with id := id }],
          BulkRow db' user listed row := by
        intro row hrow
        rcases List.mem_append.mp hrow with hold | hnew
        · exact (hcreated row hold).later hnone hset
        · obtain rfl := List.mem_singleton.mp hnew
          refine ⟨rfl, hlisted item List.mem_cons_self _ hitem, ?_⟩
          rw [hset.rows.reaches, hset.seats, if_pos ⟨rfl, rfl⟩]
          rfl
      obtain ⟨hsame, hannounced⟩ := ih hrest hrows' hrun
      exact ⟨hset.rows.trans hsame, hannounced⟩

theorem settled_bulk {requests : Option (List BulkItem)} {a : Announcement}
    (ha : a ∈ ((bulkRequest now auth requests).run db).1.announced) :
    a.Settled db ((bulkRequest now auth requests).run db).2 (.bulk auth requests) := by
  rcases bulkRequest_run (Eq.refl ((bulkRequest now auth requests).run db)) with
    h | ⟨user, items, hauth, -, rfl, h⟩
  · rw [h.announced] at ha
    cases ha
  obtain ⟨hrows, hannounced⟩ := bulkItems_created
    (fun j => ∃ item ∈ items, item.incident = .uuid j)
    (fun item hitem j hj => ⟨item, hitem, hj⟩) (fun _ hrow => absurd hrow List.not_mem_nil) h
  obtain ⟨row, rfl, hrow⟩ := hannounced a ha
  have hseat := hrow.seat
  rw [hrows.reaches, ← hrow.owner] at hseat
  exact Announcement.settled
    ⟨(authenticated_id hauth).1.trans (congrArg some hrow.owner.symm), items, rfl, hrow.listed⟩
    hseat Iff.rfl

/-! ### Suggestions -/

theorem settled_suggestion {pk : SuggestionId} {a : Announcement}
    (ha : a ∈ ((acceptSuggestion auth i pk).run db).1.announced) :
    a.Settled db ((acceptSuggestion auth i pk).run db).2 (.suggestion auth i pk) := by
  rcases acceptSuggestion_run (Eq.refl ((acceptSuggestion auth i pk).run db)) with
    h | ⟨user, s, db', -, -, hget, rfl, -, hset, hout⟩
  · rw [h.announced] at ha
    cases ha
  rw [hout] at ha ⊢
  obtain rfl : a = _ := List.mem_singleton.mp ha
  refine ⟨⟨rfl, s, hget, rfl, rfl⟩, ?_⟩
  have hrole : s.suggestedRole.toCollabRole ≠ .leader := by cases s.suggestedRole <;> decide
  have hreached : ((db.incidents.get? s.incident).any fun incident =>
      db.receivesAtomic incident s.suggestedPartner s.suggestedRole.toCollabRole) =
      db.reachesAtomic s.incident s.suggestedPartner := by
    cases hinc : db.incidents.get? s.incident with
    | none => rw [Db.reachesAtomic, hinc]; rfl
    | some incident => exact receivesAtomic_eq_reachesAtomic hinc hrole
  have hseat : ((answerSuggestion s .accepted).run db').2.seats s.incident s.suggestedPartner =
      suggestedSeat db s :=
    (hset.seats _ _).trans (if_pos ⟨rfl, rfl⟩)
  unfold suggestedSeat at hseat
  dsimp only at hseat
  rw [hreached] at hseat
  refine (Announcement.kept_iff (decide ((db.seats s.incident s.suggestedPartner).isSome = true ∨
    db.reachesAtomic s.incident s.suggestedPartner = true)) ?_).trans decide_eq_true_iff
  rw [hseat]
  exact if_congr decide_eq_true_iff.symm rfl rfl

/-! ## In any run -/

theorem Join.settled (join : Join) {a : Announcement}
    (ha : a ∈ ((join.view now).run db).1.announced) :
    a.Settled db ((join.view now).run db).2 join := by
  cases join with
  | request auth data => exact settled_request ha
  | take auth i mode role => exact settled_take ha
  | bulk auth requests => exact settled_bulk ha
  | suggestion auth i pk => exact settled_suggestion ha

/-- Whatever has happened before, a join leaves the row it announces if and
only if it reaches somebody. The run before it is arbitrary, since the
endpoints read all that decides from the store. -/
theorem announcement_kept_iff (db₀ : Db) (events : List Event) (now : Instant) (join : Join)
    (a : Announcement) (ha : a ∈ ((join.view now).run (db₀.exec events)).1.announced) :
    join.Asks (db₀.exec events) a.incident a.user ∧
      (a.Kept (db₀.exec events) ((join.view now).run (db₀.exec events)).2 ↔
        join.Reaches (db₀.exec events) a.incident a.user) :=
  ⟨(join.settled ha).asked, (join.settled ha).kept⟩

def joinStore : Db :=
  Db.start [{ id := 1, name := "Voirie" }, { id := 2, name := "Eaux" }]
    [.member 2 "voirie@map.ml" .orgAdmin 1, .member 3 "eaux@map.ml" .orgAdmin 2]
    (.new 1 (some "Fuite") "Bamako" "01-02-2025")

def contribute : Join :=
  .request (some 3)
    { incident := .value 1, role := .value .contributor, endDate := .absent
      motivation := .absent, otherOption := .absent }

theorem announcement_kept_led :
    let db := joinStore.exec [⟨0, .takeInCharge (some 2) 1 (.one .collaborative) (.one .leader)⟩]
    let a : Announcement := { incident := 1, user := 3, seat := ⟨.contributor, .pending⟩ }
    a ∈ ((contribute.view 1).run db).1.announced ∧ a.Kept db ((contribute.view 1).run db).2 := by
  intro db a
  have ha : a ∈ ((contribute.view 1).run db).1.announced := by decide
  have hreaches : db.reaches 1 3 = true := by decide
  exact ⟨ha, (announcement_kept_iff joinStore _ 1 contribute a ha).2.mpr hreaches⟩

/-- Nobody leads the incident: the request is accepted at once, the row is
deleted, and the incident is open to others although nobody is there. -/
theorem announced_row_deleted :
    joinStore.Fresh ∧
      let a : Announcement := { incident := 1, user := 3, seat := ⟨.contributor, .accepted⟩ }
      let out := (contribute.view 1).run joinStore
      out.1.status = 201 ∧ a ∈ out.1.announced ∧ ¬ a.Kept joinStore out.2 ∧
        out.2.seats 1 3 = none ∧ joinStore.mode? 1 = some none ∧
        out.2.mode? 1 = some (some .collaborative) := by
  refine ⟨Db.start_fresh _ _, by decide, by decide, fun hkept => ?_, by decide, by decide,
    by decide⟩
  exact absurd hkept.row (by decide)

end Mapapi
