import Mapapi.Joining
import Mapapi.BulkFold
import Mapapi.Failures

/-!
# What the leader of an incident is told

The receiver `notify_organisation_on_collaboration` writes a notification to the user
in `taken_by` about each new row of somebody else. Its text puts three fields of the
store together and is not cut, so it may not fit its column; the receiver catches the
error. Outside a transaction the row is stored and nobody is told. Inside the
transaction of `get_or_create` the row goes as well, and the view does not notice.

The four endpoints that create such rows are those of `Joining.lean`.
-/

namespace Mapapi

open Lib

/-! ## Notifications about a collaboration -/

namespace Db

/-- The foreign key of a notification points to a collaboration. So nothing is
about a row that is not there yet, and what is counted for a new row is about
the new row. -/
def NoticesLinked (db : Db) : Prop :=
  ∀ n ∈ db.notifications, ∀ id, n.colaboration = some id →
    ∃ c ∈ db.collaborations.rows, c.id = id

/-- The notifications that tell `leader` of a request for collaboration. -/
def noticesOf (db : Db) (leader : UserId) (c : Collaboration) : List Notification :=
  db.notifications.filter fun n => decide (n.user = leader ∧
    n.notifType = .collaborationRequest ∧ n.colaboration = some c.id ∧
      n.incident = some c.incident)

/-- The user has a collaboration on the incident, and `leader` is told of it, once. -/
def LeaderTold (db : Db) (leader : UserId) (i : IncidentId) (u : UserId) : Prop :=
  ∃ c, db.collaboration? i u = some c ∧ (db.noticesOf leader c).length = 1

/-- The text of the notice names the organisation that asks, the title, the
zone and the date, and goes into a column of 255 characters without being cut. -/
def NoticeFits (db : Db) (incident : Incident) (u : UserId) : Prop :=
  (db.requestMessage incident u).length ≤ maxTextLength

instance (db : Db) (incident : Incident) (u : UserId) : Decidable (db.NoticeFits incident u) :=
  inferInstanceAs (Decidable (_ ≤ _))

variable {db db' : Db} {incident : Incident} {c d : Collaboration} {leader : User}
  {l u v : UserId} {i j : IncidentId}

theorem leaderTold_congr (hcollaborations : db'.collaborations = db.collaborations)
    (hnotifications : db'.notifications = db.notifications) :
    db'.LeaderTold l i u ↔ db.LeaderTold l i u := by
  unfold LeaderTold collaboration? noticesOf
  rw [hcollaborations, hnotifications]

theorem SameRows.noticeFits (h : SameRows db db') :
    db'.NoticeFits incident u ↔ db.NoticeFits incident u := by
  unfold NoticeFits requestMessage requestingOrganisation organisationOf
  rw [h.users, h.organisations]

theorem SameRows.user? (h : SameRows db db') (u : Option UserId) : db'.user? u = db.user? u := by
  unfold Db.user?
  rw [h.users]

theorem freshCollaborationId_not_mem (hc : c ∈ db.collaborations.rows) :
    c.id ≠ db.freshCollaborationId := by
  intro hid
  refine above_not_mem (db.collaborations.rows.map Collaboration.id) ?_
  rw [show above (db.collaborations.rows.map Collaboration.id) = c.id from hid.symm]
  exact List.mem_map_of_mem hc

/-- No notification points to a row that is not there yet. -/
theorem NoticesLinked.fresh (h : db.NoticesLinked) :
    ∀ n ∈ db.notifications, n.colaboration ≠ some db.freshCollaborationId := by
  intro n hn hid
  obtain ⟨c, hc, hcid⟩ := h n hn _ hid
  exact freshCollaborationId_not_mem hc hcid

/-! ## One new row -/

theorem insertCollaboration_led (hleader : db.user? incident.takenBy = some leader)
    (hother : ¬ (leader.id = c.user ∨ c.role = .leader)) (hmail : leader.email ≠ "") :
    (db.insertCollaboration incident c).2.collaborations = db.collaborations.put c ∧
      (db.insertCollaboration incident c).2.notifications = db.notifications ++
        if (db.requestMessage incident c.user).length ≤ maxTextLength then
          [{ user := leader.id, notifType := .collaborationRequest
             message := db.requestMessage incident c.user
             colaboration := some c.id, incident := some incident.id }]
        else [] := by
  have huser : ({ db with collaborations := db.collaborations.put c }.wsPushCollaborationCreated
      incident c).user? incident.takenBy = db.user? incident.takenBy := rfl
  have htext : ({ db with collaborations := db.collaborations.put c }.wsPushCollaborationCreated
      incident c).requestMessage incident c.user = db.requestMessage incident c.user := rfl
  unfold insertCollaboration notifyOrganisationOnCollaboration
  dsimp only
  rw [huser, htext, hleader]
  dsimp only
  rw [if_neg hother, if_pos hmail]
  split
  · exact ⟨rfl, rfl⟩
  · exact ⟨rfl, (List.append_nil _).symm⟩

theorem leaderTold_insert_iff (hleader : db.user? incident.takenBy = some leader)
    (hother : ¬ (leader.id = c.user ∨ c.role = .leader)) (hmail : leader.email ≠ "")
    (hincident : c.incident = incident.id)
    (hfresh : ∀ n ∈ db.notifications, n.colaboration ≠ some c.id) :
    (db.insertCollaboration incident c).2.LeaderTold leader.id c.incident c.user ↔
      db.NoticeFits incident c.user := by
  obtain ⟨hrows, hnotices⟩ := insertCollaboration_led (c := c) hleader hother hmail
  have hrow : (db.insertCollaboration incident c).2.collaboration? c.incident c.user = some c := by
    unfold collaboration?
    rw [hrows]
    exact (Table.get?_put ..).trans (if_pos rfl)
  have hold : db.noticesOf leader.id c = [] := by
    refine List.filter_eq_nil_iff.mpr fun n hn => ?_
    have hne := hfresh n hn
    simp [hne]
  have hof : (db.insertCollaboration incident c).2.noticesOf leader.id c =
      if (db.requestMessage incident c.user).length ≤ maxTextLength then
        [{ user := leader.id, notifType := .collaborationRequest
           message := db.requestMessage incident c.user
           colaboration := some c.id, incident := some incident.id }]
      else [] := by
    unfold noticesOf
    rw [hnotices, List.filter_append, show List.filter _ db.notifications = [] from hold]
    split <;> simp [hincident]
  unfold LeaderTold NoticeFits
  rw [hrow]
  simp only [Option.some.injEq, exists_eq_left', hof]
  split <;> simp [*]

/-- The receiver touches nothing that belongs to another row. -/
theorem notifyOrganisation_other (db : Db) (incident : Incident) (c : Collaboration)
    (hne : ¬ (j = c.incident ∧ v = c.user)) (hid : d.id ≠ c.id) :
    (db.notifyOrganisationOnCollaboration incident c).2.collaboration? j v =
        db.collaboration? j v ∧
      (db.notifyOrganisationOnCollaboration incident c).2.noticesOf l d = db.noticesOf l d := by
  have hdelete : (db.deleteCollaboration c).collaboration? j v = db.collaboration? j v ∧
      (db.deleteCollaboration c).noticesOf l d = db.noticesOf l d := by
    constructor
    · unfold collaboration? deleteCollaboration
      rw [Table.get?_erase, if_neg]
      exact fun h => hne ⟨congrArg Prod.fst h, congrArg Prod.snd h⟩
    · unfold noticesOf deleteCollaboration
      rw [List.filter_filter]
      refine List.filter_congr fun n _ => ?_
      by_cases hn : n.colaboration = some d.id
      · simp [hn, hid]
      · simp [hn]
  unfold notifyOrganisationOnCollaboration
  split
  · split
    · exact ⟨rfl, rfl⟩
    · split
      · dsimp only
        split
        · refine ⟨rfl, ?_⟩
          unfold noticesOf notify
          rw [List.filter_append]
          simp [Ne.symm hid]
        · exact ⟨rfl, rfl⟩
      · exact hdelete
  · exact hdelete

theorem createCollaboration_other (incident : Incident) (hne : ¬ (j = c.incident ∧ v = c.user))
    (hd : db.collaboration? j v = some d) :
    (db.createCollaboration incident c).2.collaboration? j v = some d ∧
      (db.createCollaboration incident c).2.noticesOf l d = db.noticesOf l d := by
  unfold createCollaboration
  split
  · exact ⟨hd, rfl⟩
  · dsimp only
    have hid : d.id ≠ db.freshCollaborationId :=
      freshCollaborationId_not_mem (Table.mem_of_get? hd)
    obtain ⟨hrow, hnotices⟩ := notifyOrganisation_other (l := l)
      ({ db with
        collaborations := db.collaborations.put { c with id := db.freshCollaborationId }
        }.wsPushCollaborationCreated incident { c with id := db.freshCollaborationId })
      incident { c with id := db.freshCollaborationId } hne hid
    refine ⟨hrow.trans ?_, hnotices⟩
    refine (Table.get?_put ..).trans ((if_neg fun h => hne ?_).trans hd)
    exact ⟨congrArg Prod.fst h, congrArg Prod.snd h⟩

theorem leaderTold_create_other (incident : Incident) (hne : ¬ (j = c.incident ∧ v = c.user))
    (hsome : (db.collaboration? j v).isSome = true) :
    ((db.createCollaboration incident c).2.collaboration? j v).isSome = true ∧
      ((db.createCollaboration incident c).2.LeaderTold l j v ↔ db.LeaderTold l j v) := by
  obtain ⟨d, hd⟩ := Option.isSome_iff_exists.mp hsome
  obtain ⟨hrow, hnotices⟩ := createCollaboration_other (l := l) incident hne hd
  unfold LeaderTold
  rw [hrow, hd]
  simp only [Option.isSome_some, Option.some.injEq, exists_eq_left', hnotices, true_and]

theorem isSome_create_led (hfree : db.collaboration? c.incident c.user = none)
    (hleader : db.user? incident.takenBy = some leader)
    (hother : ¬ (leader.id = c.user ∨ c.role = .leader)) (hmail : leader.email ≠ "") :
    ((db.createCollaboration incident c).2.collaboration? c.incident c.user).isSome = true := by
  unfold createCollaboration
  rw [hfree]
  obtain ⟨hrows, -⟩ := insertCollaboration_led
    (c := { c with id := db.freshCollaborationId }) hleader hother hmail
  have hput : (db.collaborations.put { c with id := db.freshCollaborationId }).get?
      (c.incident, c.user) = some { c with id := db.freshCollaborationId } :=
    (Table.get?_put ..).trans (if_pos rfl)
  rw [← hrows] at hput
  exact Option.isSome_iff_exists.mpr ⟨_, hput⟩

/-! Every write keeps the foreign key. -/

theorem NoticesLinked.deleteCollaboration (h : db.NoticesLinked)
    (hc : db.collaboration? c.incident c.user = some c) :
    (db.deleteCollaboration c).NoticesLinked := by
  intro n hn id hid
  obtain ⟨hn, hkept⟩ := List.mem_filter.mp hn
  have hne : id ≠ c.id := by
    rintro rfl
    exact of_decide_eq_true hkept hid
  obtain ⟨d, hd, rfl⟩ := h n hn id hid
  refine ⟨d, List.mem_filter.mpr ⟨hd, ?_⟩, rfl⟩
  have hkey : key d ≠ (c.incident, c.user) := by
    intro hkey
    have hget := Table.get?_of_mem hd
    rw [hkey] at hget
    exact hne (congrArg Collaboration.id (Option.some.inj (hget.symm.trans hc)))
  simp [hkey]

/-- A notice that is written for a new row points at that row, which is there
by then: the receiver runs after the insert. -/
theorem NoticesLinked.insertCollaboration (h : db.NoticesLinked)
    (hfree : db.collaboration? c.incident c.user = none) :
    (db.insertCollaboration incident c).2.NoticesLinked := by
  have hrows : (db.collaborations.put c).rows = db.collaborations.rows ++ [c] :=
    Table.rows_put _ _ hfree
  have hput : ({ db with collaborations := db.collaborations.put c }.wsPushCollaborationCreated
      incident c).NoticesLinked := by
    intro n hn id hid
    obtain ⟨d, hd, hdid⟩ := h n hn id hid
    exact ⟨d, by
      show d ∈ (db.collaborations.put c).rows
      rw [hrows]
      exact List.mem_append_left _ hd, hdid⟩
  have hrow : ({ db with collaborations := db.collaborations.put c }.wsPushCollaborationCreated
      incident c).collaboration? c.incident c.user = some c :=
    (Table.get?_put ..).trans (if_pos rfl)
  unfold Db.insertCollaboration notifyOrganisationOnCollaboration
  split
  · split
    · exact hput
    · split
      · dsimp only
        split
        · intro n hn id hid
          rcases List.mem_append.mp hn with hold | hnew
          · exact hput n hold id hid
          · obtain rfl := List.mem_singleton.mp hnew
            exact ⟨c, Table.mem_put_self _ _, Option.some.inj hid⟩
        · exact hput
      · exact hput.deleteCollaboration hrow
  · exact hput.deleteCollaboration hrow

theorem NoticesLinked.createCollaboration (h : db.NoticesLinked) :
    (db.createCollaboration incident c).2.NoticesLinked := by
  unfold Db.createCollaboration
  split
  · exact h
  · rename_i hfree
    refine h.insertCollaboration ?_
    simpa using hfree

theorem NoticesLinked.dropOld (h : db.NoticesLinked) (i : IncidentId) (u : UserId) :
    ((dropOld (db.collaboration? i u)).run db).2.NoticesLinked := by
  cases hold : db.collaboration? i u with
  | none => exact h
  | some old =>
      obtain ⟨rfl, rfl⟩ := collaboration?_key hold
      exact h.deleteCollaboration hold

/-! Outside a transaction and inside. -/

theorem leaderTold_create_iff (incident : Incident) (h : db.NoticesLinked)
    (hfree : db.collaboration? c.incident c.user = none)
    (hleader : db.user? incident.takenBy = some leader)
    (hother : ¬ (leader.id = c.user ∨ c.role = .leader)) (hmail : leader.email ≠ "")
    (hincident : c.incident = incident.id) :
    (db.createCollaboration incident c).2.LeaderTold leader.id c.incident c.user ↔
      db.NoticeFits incident c.user := by
  unfold createCollaboration
  rw [hfree]
  exact leaderTold_insert_iff (c := { c with id := db.freshCollaborationId }) hleader hother hmail
    hincident h.fresh

theorem leaderTold_createAtomic_iff (h : db.NoticesLinked)
    (hfree : db.collaboration? c.incident c.user = none)
    (hleader : db.user? incident.takenBy = some leader)
    (hother : ¬ (leader.id = c.user ∨ c.role = .leader)) (hmail : leader.email ≠ "")
    (hincident : c.incident = incident.id) :
    (db.createCollaborationAtomic incident c).2.LeaderTold leader.id c.incident c.user ↔
      db.NoticeFits incident c.user := by
  have htold := leaderTold_insert_iff (c := { c with id := db.freshCollaborationId }) hleader
    hother hmail hincident h.fresh
  have hfailed := insertCollaboration_failed db incident { c with id := db.freshCollaborationId }
  unfold createCollaborationAtomic
  rw [hfree]
  dsimp only
  cases hfail : (db.insertCollaboration incident { c with id := db.freshCollaborationId }).1 with
  | false => simpa [hfail] using htold
  | true =>
      obtain ⟨leader', hleader', -, -, hlong⟩ := hfailed.mp hfail
      have hnotfits : ¬ db.NoticeFits incident c.user := Nat.not_le.mpr hlong
      refine iff_of_false ?_ hnotfits
      rintro ⟨row, hrow, -⟩
      simp [hfree] at hrow

end Db

/-! ## The four endpoints -/

section Joins

variable {db : Db} {now : Instant} {auth : Option UserId} {user leader : User} {i : IncidentId}
  {incident : Incident} {a : Announcement}

/-- The join stores a new row. An accepted suggestion does so for a partner who has
none; the others announce new rows only. -/
def Join.Creates (db : Db) (a : Announcement) : Join → Prop
  | suggestion .. => db.collaboration? a.incident a.user = none
  | _ => True

/-- The user in `taken_by` is somebody else than the one who joins, and can be
written to. -/
structure Db.LedByOther (db : Db) (incident : Incident) (leader : User) (u : UserId) : Prop where
  known : db.incidents.get? incident.id = some incident
  leads : db.user? incident.takenBy = some leader
  other : leader.id ≠ u
  mail : leader.email ≠ ""

/-- The same for a request: the receiver is the same, whatever way the row has
come. -/
theorem told_request {data : CollaborationData} (hlinked : db.NoticesLinked)
    (ha : a ∈ ((requestCollaboration now auth data).run db).1.announced)
    (hid : a.incident = incident.id) (hled : db.LedByOther incident leader a.user) :
    ((requestCollaboration now auth data).run db).2.LeaderTold leader.id a.incident a.user ↔
      db.NoticeFits incident a.user := by
  rcases requestCollaboration_run (Eq.refl ((requestCollaboration now auth data).run db)) with
    h | ⟨user, valid, -, hauth, hoperative, hvalid, hold, -, ⟨id, hreply⟩, -⟩
  · rw [h.announced] at ha
    cases ha
  rw [hreply] at ha
  obtain rfl : a = _ := List.mem_singleton.mp ha
  obtain ⟨-, hinc, -, -, hrole⟩ := collaborationIsValid_ok hvalid
  have hsame : valid.incident = incident := by
    have hknown := hled.known
    rw [← hid] at hknown
    exact Option.some.inj (hinc.symm.trans hknown)
  have hdrop := dropOld_run db valid.incident.id user.id
  have hfree : ((dropOld (db.collaboration? valid.incident.id user.id)).run db).2.collaboration?
      valid.incident.id user.id = none := by
    have hseat := hdrop.seats valid.incident.id user.id
    rw [if_pos ⟨rfl, rfl⟩] at hseat
    exact Option.map_eq_none_iff.mp hseat
  have htold := Db.leaderTold_create_iff valid.incident
    (c := valid.row user.id (requestStatus valid.incident valid.role))
    (hlinked.dropOld valid.incident.id user.id) hfree
    ((hdrop.rows.user? _).trans (hsame ▸ hled.leads))
    (not_or.mpr ⟨hled.other, getD_ne_leader hrole⟩) hled.mail rfl
  rw [(request_served hauth hoperative hvalid hold).2, ← hsame]
  refine Iff.trans ?_ (htold.trans hdrop.rows.noticeFits)
  unfold Db.servedSingle
  dsimp only
  split <;> exact Db.leaderTold_congr rfl rfl

/-- Taking part through `TakeInChargeView` tells the leader exactly if the
notice fits its column: a text that is too long makes the insert fail, and the
receiver swallows the error. -/
theorem told_take {mode : Choice TakeInChargeMode} {choice : Choice CollabRole}
    (hlinked : db.NoticesLinked)
    (ha : a ∈ ((takeInCharge now auth i mode choice).run db).1.announced)
    (hid : a.incident = incident.id) (hled : db.LedByOther incident leader a.user) :
    ((takeInCharge now auth i mode choice).run db).2.LeaderTold leader.id a.incident a.user ↔
      db.NoticeFits incident a.user := by
  rcases takeInCharge_run (Eq.refl ((takeInCharge now auth i mode choice).run db)) with
    h | ⟨user, row, -, -, hinc, -, ⟨-, h⟩ | ⟨role, -, -, h⟩⟩
  · rw [h.announced] at ha
    cases ha
  · rw [← h, takeInternal_announced] at ha
    cases ha
  rcases takeCollaborative_run h with h | ⟨-, hnone, ⟨-, h⟩ | ⟨hrole, h⟩⟩
  · rw [h.announced] at ha
    cases ha
  · rw [← h, takeLeader_announced] at ha
    cases ha
  obtain ⟨db', hstored, -, hout | ⟨message, data, id, action, hout⟩⟩ := takeJoin_run hnone h
  · rw [hout] at ha
    cases ha
  rw [hout] at ha ⊢
  obtain rfl : a = _ := List.mem_singleton.mp ha
  have hrow : row = incident := by
    have hrowid : row.id = i := Table.key_of_get? hinc
    have hknown := hled.known
    rw [← hid] at hknown
    exact Option.some.inj ((hrowid ▸ hinc).symm.trans hknown)
  subst hrow
  have htold := Db.leaderTold_create_iff row
    (c := Db.newCollaboration row.id user.id role (joinStatus row role)) hlinked hnone hled.leads
    (not_or.mpr ⟨hled.other, hrole⟩) hled.mail rfl
  rw [← hstored] at htold
  refine Iff.trans ?_ htold
  unfold Db.joinIncident
  split <;> exact Db.leaderTold_congr rfl rfl

/-- What is known of a row that a bulk request of `user` has created, while the request
goes on. -/
structure BulkTold (db : Db) (user : User) (row : Collaboration) : Prop where
  owner : row.user = user.id
  told : ∀ incident leader, row.incident = incident.id → db.LedByOther incident leader user.id →
    (db.collaboration? incident.id user.id).isSome = true ∧
      (db.LeaderTold leader.id incident.id user.id ↔ db.NoticeFits incident user.id)

theorem Db.LedByOther.of_sameRows {db' : Db} {u : UserId} (hrows : Db.SameRows db db')
    (h : db'.LedByOther incident leader u) : db.LedByOther incident leader u where
  known := by rw [← hrows.incidents]; exact h.known
  leads := by rw [← hrows.user?]; exact h.leads
  other := h.other
  mail := h.mail

theorem BulkTold.later {db' : Db} {row : Collaboration} {valid : ValidCollaboration}
    {status : CollabStatus} (h : BulkTold db user row)
    (hfree : db.collaboration? valid.incident.id user.id = none) (hrows : Db.SameRows db db')
    (hcreate : (db.createCollaboration valid.incident (valid.row user.id status)).2 = db') :
    BulkTold db' user row := by
  refine ⟨h.owner, fun incident leader hid hled => ?_⟩
  obtain ⟨hsome, htold⟩ := h.told incident leader hid (hled.of_sameRows hrows)
  have hne : ¬ (incident.id = valid.incident.id ∧ user.id = user.id) := by
    rintro ⟨hsame, -⟩
    rw [hsame, hfree] at hsome
    cases hsome
  obtain ⟨hsome', htold'⟩ := Db.leaderTold_create_other (l := leader.id)
    (c := valid.row user.id status) valid.incident hne hsome
  rw [hcreate] at hsome' htold'
  exact ⟨hsome', htold'.trans (htold.trans hrows.noticeFits.symm)⟩

theorem BulkTold.new {db' : Db} {id : CollaborationId} {valid : ValidCollaboration}
    {status : CollabStatus} (hlinked : db.NoticesLinked)
    (hinc : db.incidents.get? valid.incident.id = some valid.incident)
    (hrole : valid.role.getD .contributor ≠ .leader)
    (hfree : db.collaboration? valid.incident.id user.id = none) (hrows : Db.SameRows db db')
    (hcreate : (db.createCollaboration valid.incident (valid.row user.id status)).2 = db') :
    BulkTold db' user { valid.row user.id status with id := id } := by
  refine ⟨rfl, fun incident leader hid hled => ?_⟩
  have hled := hled.of_sameRows hrows
  have hsame : valid.incident = incident := by
    have hknown := hled.known
    rw [← hid] at hknown
    exact Option.some.inj (hinc.symm.trans hknown)
  subst hsame
  have hother := not_or.mpr ⟨hled.other, hrole⟩
  have hsome := Db.isSome_create_led (c := valid.row user.id status) hfree hled.leads hother
    hled.mail
  have htold := Db.leaderTold_create_iff valid.incident (c := valid.row user.id status) hlinked
    hfree hled.leads hother hled.mail rfl
  rw [hcreate] at hsome htold
  exact ⟨hsome, htold.trans hrows.noticeFits.symm⟩

/-- In a list, each row is told of by itself. An item that comes later cannot
take back what the leader has been told. -/
theorem bulkItems_told {items : List BulkItem} {index : Nat} {created : List Collaboration}
    {errors : List BulkError} {out : Response × Db} (hlinked : db.NoticesLinked)
    (hcreated : ∀ row ∈ created, BulkTold db user row)
    (h : (bulkItems now user index created errors items).run db = out) :
    Db.SameRows db out.2 ∧ ∀ a ∈ out.1.announced,
      ∃ row, a = row.announcement ∧ BulkTold out.2 user row := by
  induction items generalizing index created errors db with
  | nil =>
      subst h
      refine ⟨Db.SameRows.refl, fun a ha => ?_⟩
      have hstatus : (if errors.isEmpty then 201 else 207) < 400 := by split <;> decide
      have hreply : ((bulkItems now user index created errors []).run db).1.announced =
          created.map Collaboration.announcement := if_pos hstatus
      rw [hreply] at ha
      obtain ⟨row, hrow, rfl⟩ := List.mem_map.mp ha
      exact ⟨row, rfl, hcreated row hrow⟩
  | cons item rest ih =>
      rcases bulkItems_cons_run h with rfl | ⟨created', _, db', hrun,
        ⟨rfl, rfl⟩ | ⟨valid, id, -, hvalid, hfree, rfl, hcreate, hset⟩⟩
      · exact ⟨Db.SameRows.refl, fun a ha => nomatch ha⟩
      · exact ih hlinked hcreated hrun
      obtain ⟨-, hinc, -, -, hrole⟩ := collaborationIsValid_ok hvalid
      have hstore : (db.createCollaboration valid.incident (valid.row user.id .pending)).2 =
          db' := by rw [hcreate]
      have hlinked' : db'.NoticesLinked := hstore ▸ hlinked.createCollaboration
      obtain ⟨hsame, hannounced⟩ := ih hlinked' (fun row hrow => by
        rcases List.mem_append.mp hrow with hold | hnew
        · exact (hcreated row hold).later hfree hset.rows hstore
        · obtain rfl := List.mem_singleton.mp hnew
          exact BulkTold.new hlinked hinc (getD_ne_leader hrole) hfree hset.rows hstore) hrun
      exact ⟨hset.rows.trans hsame, hannounced⟩

theorem told_bulk {requests : Option (List BulkItem)} (hlinked : db.NoticesLinked)
    (ha : a ∈ ((bulkRequest now auth requests).run db).1.announced)
    (hid : a.incident = incident.id) (hled : db.LedByOther incident leader a.user) :
    ((bulkRequest now auth requests).run db).2.LeaderTold leader.id a.incident a.user ↔
      db.NoticeFits incident a.user := by
  rcases bulkRequest_run (Eq.refl ((bulkRequest now auth requests).run db)) with
    h | ⟨user, items, -, -, -, h⟩
  · rw [h.announced] at ha
    cases ha
  obtain ⟨hrows, hannounced⟩ := bulkItems_told hlinked
    (fun _ hrow => absurd hrow List.not_mem_nil) h
  obtain ⟨row, rfl, hrow⟩ := hannounced a ha
  have huser : row.announcement.user = user.id := hrow.owner
  rw [hid, huser]
  rw [huser] at hled
  have hled' : ((bulkRequest now auth requests).run db).2.LedByOther incident leader user.id :=
    ⟨by rw [hrows.incidents]; exact hled.known, by rw [hrows.user?]; exact hled.leads,
      hled.other, hled.mail⟩
  exact (hrow.told incident leader hid hled').2.trans hrows.noticeFits

theorem told_suggestion {pk : SuggestionId} (hlinked : db.NoticesLinked)
    (ha : a ∈ ((acceptSuggestion auth i pk).run db).1.announced)
    (hnone : db.collaboration? a.incident a.user = none)
    (hid : a.incident = incident.id) (hled : db.LedByOther incident leader a.user) :
    ((acceptSuggestion auth i pk).run db).2.LeaderTold leader.id a.incident a.user ↔
      db.NoticeFits incident a.user := by
  rcases acceptSuggestion_run (Eq.refl ((acceptSuggestion auth i pk).run db)) with
    h | ⟨user, s, db', hauth, hleads, hget, rfl, hpending, -, hout⟩
  · rw [h.announced] at ha
    cases ha
  rw [hout] at ha
  obtain rfl : a = _ := List.mem_singleton.mp ha
  have hinc : db.incidents.get? s.incident = some incident := by
    have hknown := hled.known
    rwa [← hid] at hknown
  have hrole : s.suggestedRole.toCollabRole ≠ .leader := by cases s.suggestedRole <;> decide
  have htold := Db.leaderTold_createAtomic_iff (c := s.collaboration) hlinked hnone hled.leads
    (not_or.mpr ⟨hled.other, hrole⟩) hled.mail hid
  rw [acceptSuggestion_new hauth hleads hget hpending hnone hinc]
  exact (Db.leaderTold_congr rfl rfl).trans htold

end Joins

/-- Where somebody else leads, a join that stores a new row tells the leader
of it, once, exactly when the text fits. It is one row for one leader in each
of the four endpoints; what differs is whether the row stays when the text
does not fit. -/
theorem leader_told_iff (db : Db) (now : Instant) (join : Join) (a : Announcement)
    (incident : Incident) (leader : User) (hlinked : db.NoticesLinked)
    (ha : a ∈ ((join.view now).run db).1.announced) (hnew : join.Creates db a)
    (hid : a.incident = incident.id) (hled : db.LedByOther incident leader a.user) :
    ((join.view now).run db).2.LeaderTold leader.id a.incident a.user ↔
      db.NoticeFits incident a.user := by
  cases join with
  | request auth data => exact told_request hlinked ha hid hled
  | take auth i mode role => exact told_take hlinked ha hid hled
  | bulk auth requests => exact told_bulk hlinked ha hid hled
  | suggestion auth i pk => exact told_suggestion hlinked ha hnew hid hled

def ledIncident (title : String) : Incident :=
  { Incident.new 1 (some title) "Bamako" "01-02-2025" with
    etat := .taken, takenBy := some 2, takeInChargeMode := some .collaborative }

/-- The incident, and the admins of two organisations. -/
def noticeStore (title : String) : Db :=
  Db.start [{ id := 1, name := "Voirie" }, { id := 2, name := "Eaux" }]
    [.member 2 "voirie@map.ml" .orgAdmin 1, .member 3 "eaux@map.ml" .orgAdmin 2]
    (ledIncident title)

def contributorAsked : Announcement :=
  { incident := 1, user := 3, seat := ⟨.contributor, .pending⟩ }

theorem ledByOther_noticeStore (title : String) :
    (noticeStore title).LedByOther (ledIncident title) (.member 2 "voirie@map.ml" .orgAdmin 1) 3 :=
  ⟨rfl, rfl, by decide, by decide⟩

theorem leader_told_short :
    ((contribute.view 1).run (noticeStore "Fuite")).2.LeaderTold 2 1 3 :=
  (leader_told_iff (noticeStore "Fuite") 1 contribute contributorAsked (ledIncident "Fuite")
    (.member 2 "voirie@map.ml" .orgAdmin 1) (fun _ hn => nomatch hn) (by decide) trivial rfl
    (ledByOther_noticeStore "Fuite")).mpr (by decide)

/-- The request of user 3 is stored and answered 201, and the leader is not told. -/
theorem leader_not_told :
    (titleOf 250).length = 250 ∧
      (noticeStore (titleOf 250)).LedByOther (ledIncident (titleOf 250))
        (.member 2 "voirie@map.ml" .orgAdmin 1) 3 ∧
        ((contribute.view 1).run (noticeStore (titleOf 250))).1.status = 201 ∧
          contributorAsked ∈ ((contribute.view 1).run (noticeStore (titleOf 250))).1.announced ∧
            ¬ ((contribute.view 1).run (noticeStore (titleOf 250))).2.LeaderTold 2 1 3 := by
  have ha : contributorAsked ∈
      ((contribute.view 1).run (noticeStore (titleOf 250))).1.announced :=
    List.mem_singleton.mpr rfl
  have hlinked : (noticeStore (titleOf 250)).NoticesLinked :=
    fun n hn => nomatch (hn : n ∈ [])
  refine ⟨length_titleOf 250, ledByOther_noticeStore (titleOf 250), rfl, ha, fun h => ?_⟩
  have hfits := (told_request hlinked ha rfl (ledByOther_noticeStore (titleOf 250))).mp h
  have hmessage : (noticeStore (titleOf 250)).requestMessage (ledIncident (titleOf 250)) 3 =
      "L'organisation " ++ "Eaux" ++ " souhaite collaborer sur l'incident " ++ titleOf 250 ++
        " (Zone: " ++ "Bamako" ++ ", Date: " ++ "01-02-2025" ++ ")" := rfl
  unfold Db.NoticeFits at hfits
  rw [show contributorAsked.user = 3 from rfl, hmessage] at hfits
  simp only [String.length_append, length_titleOf] at hfits
  revert hfits
  decide

end Mapapi
