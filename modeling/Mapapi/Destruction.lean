import Mapapi.UserRemoval
import Mapapi.Workflow

/-!
# How incidents are destroyed

The trash is the way to destroy an incident: a super admin empties it
(`BulkForceDeleteIncidentsView`), or an incident has been in it for thirty days
(`purge_expired_trash`). Other rows take incidents along when they go: the user who has
reported them, an indicator, and the communities and zones of users. And the serializer
lets `PUT` and `POST` write the two columns of the trash.

In a run without these (`Lapses`), an incident in the trash is never dated
before it was moved there (`lastMoved_of_inTrash`). That is the invariant: the
purge compares `deleted_at` and nothing else, so the date is what keeps an
incident for its thirty days.
-/

namespace Mapapi

open Lib

/-! ## The store -/

abbrev IndicateurId := Nat

abbrev CommunauteId := Nat

abbrev ZoneId := Nat

structure Site where
  db : Db
  indicateurOf : IncidentId → Option IndicateurId
  communauteOf : UserId → Option CommunauteId
  zoneOf : CommunauteId → Option ZoneId

/-- The serializer accepts a new incident, which has no task, and its id is new. -/
def IncidentData.AcceptedNew (data : IncidentData) (db : Db) (id : IncidentId)
    (createdOn : String) : Prop :=
  incidentFieldErrors data db = [] ∧
    validateIncident [] (data.over (.new id none "" createdOn)) = none ∧
    db.incidents.get? id = none

instance (data : IncidentData) (db : Db) (id : IncidentId) (createdOn : String) :
    Decidable (data.AcceptedNew db id createdOn) :=
  inferInstanceAs (Decidable (_ ∧ _ ∧ _))

/-- A creation writes all the fields of the serializer, those of the trash
included: an incident can be created inside the trash, and dated. -/
def createIncident (id : IncidentId) (createdOn : String) (data : IncidentData) (db : Db) : Db :=
  if data.AcceptedNew db id createdOn then
    db.saveIncident (data.over (.new id none "" createdOn))
  else db

/-- `IndicateurAPIView.delete`, which anybody may call. -/
def Site.deleteIndicateur (k : IndicateurId) (s : Site) : Site :=
  { s with
    db := (s.db.incidents.select fun row => decide (s.indicateurOf row.id = some k)).foldl
      (fun db row => db.deleteIncident row.id) s.db }

def Site.deleteUsers (p : User → Bool) (s : Site) : Site :=
  { s with db := (s.db.users.select p).foldl (fun db user => db.deleteUser user.id) s.db }

/-- `CommunauteAPIView.delete`, which anybody may call: the users of a community go
with it. -/
def Site.deleteCommunaute (k : CommunauteId) (s : Site) : Site :=
  s.deleteUsers fun user => decide (s.communauteOf user.id = some k)

/-- `ZoneAPIView.delete`, which anybody may call: the communities of a zone go with it. -/
def Site.deleteZone (z : ZoneId) (s : Site) : Site :=
  s.deleteUsers fun user => decide ((s.communauteOf user.id).bind s.zoneOf = some z)

/-! ## Runs -/

/-- A write that leaves the incidents there are, and their trash. -/
def LeavesTrash (write : Site → Site) : Prop := ∀ s i, (write s).db.bin? i = s.db.bin? i

/-- An operation that may touch the trash of an incident or destroy it, with
everything else under `other`: any write that leaves the incidents there are,
and their trash. -/
inductive SiteOp where
  | trash (op : TrashOp)
  | create (id : IncidentId) (createdOn : String) (data : IncidentData)
  | put (auth : Option UserId) (i : IncidentId) (data : IncidentData) (mailSent : Bool)
  | removeUser (request : UserRemoval)
  | deleteIndicateur (k : IndicateurId)
  | deleteCommunaute (k : CommunauteId)
  | deleteZone (z : ZoneId)
  /-- Any other operation. -/
  | other (write : Site → Site) (leaves : LeavesTrash write)

structure SiteEvent where
  now : Instant
  op : SiteOp

def SiteOp.effect (now : Instant) (s : Site) : SiteOp → Site
  | trash op => { s with db := op.effect now s.db }
  | create id createdOn data => { s with db := createIncident id createdOn data s.db }
  | put auth i data mailSent => { s with db := ((putIncident auth i data mailSent).run s.db).2 }
  | removeUser request => { s with db := (request.view s.db).2 }
  | deleteIndicateur k => s.deleteIndicateur k
  | deleteCommunaute k => s.deleteCommunaute k
  | deleteZone z => s.deleteZone z
  | other write _ => write s

def Site.step (s : Site) (event : SiteEvent) : Site := event.op.effect event.now s

/-! ## The record of the trash -/

/-- The incident exists and is in the trash. One that has been destroyed is
not. -/
def Site.InTrash (s : Site) (i : IncidentId) : Prop := (s.db.bin? i).any Bin.deleted = true

instance (s : Site) (i : IncidentId) : Decidable (s.InTrash i) :=
  inferInstanceAs (Decidable (_ = true))

/-- The instant at which an event moves the incident into the trash: a deletion
records it (`TrashEvent.trashes`), otherwise it is the instant of the event. -/
def SiteEvent.moves (s : Site) (i : IncidentId) (event : SiteEvent) : Option Instant :=
  match event.op with
  | .trash op => (TrashEvent.mk event.now op).trashes s.db i
  | _ => if ¬ s.InTrash i ∧ (s.step event).InTrash i then some event.now else none

/-- The incident was last moved into the trash at `t`, and is there since then. -/
def LastMoved (start : Site) (events : List SiteEvent) (i : IncidentId) (t : Instant) : Prop :=
  Last Site.step (fun s event => event.moves s i = some t)
    (fun s event => (event.moves s i).isSome = true ∨ ¬ (s.step event).InTrash i) start events

/-! ## Lapses -/

def Db.Reports (db : Db) (u : UserId) : Prop :=
  ∃ i row, db.incidents.get? i = some row ∧ row.userId = some u

/-- The body puts the row into the trash, or leaves it there, with a date before `t`. -/
def IncidentData.Backdates (data : IncidentData) (row : Incident) (t : Instant) : Prop :=
  (data.over row).isDeleted = true ∧ ∃ d, (data.over row).deletedAt = some d ∧ d < t

/-- The event destroys incidents outside the trash, or dates one before it was moved
there. -/
def Lapses (start : Site) (past : List SiteEvent) (event : SiteEvent) : Prop :=
  let s := exec Site.step start past
  match event.op with
  | .removeUser request => request.Permitted s.db ∧ s.db.Reports request.target
  | .deleteIndicateur k => ∃ i row, s.db.incidents.get? i = some row ∧ s.indicateurOf i = some k
  | .deleteCommunaute k => ∃ user ∈ s.db.users.rows, s.communauteOf user.id = some k ∧
      s.db.Reports user.id
  | .deleteZone z => ∃ user ∈ s.db.users.rows,
      (s.communauteOf user.id).bind s.zoneOf = some z ∧ s.db.Reports user.id
  | .put auth i data _ => ∃ row, s.db.incidents.get? i = some row ∧ data.Accepted s.db auth row ∧
      (row.isDeleted = false ∧ data.Backdates row event.now ∨
        row.isDeleted = true ∧ ∃ t, LastMoved start past i t ∧ data.Backdates row t)
  | .create id createdOn data => data.AcceptedNew s.db id createdOn ∧
      data.Backdates (.new id none "" createdOn) event.now
  | _ => False

/-! ## What the operations do to the trash -/

section Effects

variable {s : Site} {db : Db} {u : UserId} {i j : IncidentId}

theorem Incident.pinProgress_bin (row : Incident) : row.pinProgress.bin = row.bin := by
  unfold Incident.pinProgress
  split <;> rfl

theorem bin?_saveIncident (row : Incident) :
    (db.saveIncident row).bin? j = if j = row.id then some row.bin else db.bin? j := by
  unfold Db.bin?
  rw [Db.incidents_saveIncident]
  split
  · rw [Option.map_some, Incident.pinProgress_bin]
  · rfl

theorem bin?_createIncident (db : Db) (id j : IncidentId) (createdOn : String)
    (data : IncidentData) :
    (createIncident id createdOn data db).bin? j =
      if data.AcceptedNew db id createdOn ∧ j = id then
        some (data.over (.new id none "" createdOn)).bin
      else db.bin? j := by
  unfold createIncident
  split
  · rename_i haccepted
    rw [bin?_saveIncident]
    simp only [haccepted, true_and]
    rfl
  · rename_i hrefused
    rw [if_neg fun h => hrefused h.1]

theorem bin?_putIncident (db : Db) (auth : Option UserId) (i j : IncidentId)
    (data : IncidentData) (mailSent : Bool) :
    ((putIncident auth i data mailSent).run db).2.bin? j = db.bin? j ∨
      j = i ∧ ∃ row, db.incidents.get? i = some row ∧ data.Accepted db auth row ∧
        ((putIncident auth i data mailSent).run db).2.bin? j = some (data.over row).bin := by
  rcases putIncident_run (Eq.refl ((putIncident auth i data mailSent).run db)) with
    ⟨hrefused, -⟩ | ⟨row, hrow, haccepted, hout⟩
  · rw [hrefused.1]
    exact Or.inl rfl
  · have hid : (data.over row).id = i := Table.key_of_get? hrow
    rw [hout, bin?_saveIncident, hid]
    split
    · rename_i hj
      exact Or.inr ⟨hj, row, hrow, haccepted, rfl⟩
    · exact Or.inl rfl

theorem bin?_deleteUser (h : ¬ db.Reports u) : (db.deleteUser u).bin? j = db.bin? j := by
  unfold Db.bin?
  rw [get?_deleteUser]
  cases hrow : db.incidents.get? j with
  | none => rfl
  | some row =>
      have hkept : row.userId ≠ some u := fun hreported => h ⟨j, row, hrow, hreported⟩
      rw [Option.filter_some, if_pos (by simpa using hkept)]
      rfl

theorem Db.Reports.of_deleteUser {v : UserId} (h : (db.deleteUser u).Reports v) : db.Reports v := by
  obtain ⟨i, row', hrow', hreported⟩ := h
  obtain ⟨row, hrow, -, rfl⟩ := get?_deleteUser_eq_some.mp hrow'
  exact ⟨i, row, hrow, hreported⟩

theorem bin?_deleteUsers {p : User → Bool}
    (h : ∀ user ∈ s.db.users.rows, p user = true → ¬ s.db.Reports user.id) :
    (s.deleteUsers p).db.bin? j = s.db.bin? j := by
  have hfold : ∀ (users : List User) (db : Db), (∀ user ∈ users, ¬ db.Reports user.id) →
      (users.foldl (fun db user => db.deleteUser user.id) db).bin? j = db.bin? j := by
    intro users
    induction users with
    | nil => exact fun _ _ => rfl
    | cons user rest ih =>
        intro db hnone
        rw [List.foldl_cons, ih _ fun user' huser' hreports =>
          hnone user' (List.mem_cons_of_mem _ huser') hreports.of_deleteUser]
        exact bin?_deleteUser (hnone user List.mem_cons_self)
  refine hfold _ s.db fun user huser => ?_
  obtain ⟨hmem, hp⟩ := List.mem_filter.mp huser
  exact h user hmem hp

theorem bin?_deleteIndicateur {k : IndicateurId}
    (h : ∀ i row, s.db.incidents.get? i = some row → s.indicateurOf i ≠ some k) :
    (s.deleteIndicateur k).db.bin? j = s.db.bin? j := by
  unfold Db.bin?
  refine congrArg (Option.map Incident.bin) ((get?_foldl_select fun row =>
    decide (s.indicateurOf row.id = some k)).trans ?_)
  cases hrow : s.db.incidents.get? j with
  | none => rfl
  | some row =>
      have hid : row.id = j := Table.key_of_get? hrow
      have hother := h j row hrow
      rw [Option.filter_some, if_pos (by simpa [hid] using hother)]

end Effects

/-! ## What the trash remembers -/

section Remembered

variable {start : Site} {past : List SiteEvent} {event : SiteEvent} {i : IncidentId}

/-- What an event makes of the trash of an incident: it is gone, by an operation on the
trash; or it is not in it; or it has been moved there, and is not dated earlier; or it
stays there, with a date that is late enough. -/
inductive Outcome (start : Site) (past : List SiteEvent) (event : SiteEvent) (i : IncidentId) :
    Option Bin → Option Bin → Prop
  | gone (before) (hgone : before = none ∨ ∃ op, event.op = .trash op) :
      Outcome start past event i before none
  | outside (before b) (hdeleted : b.deleted = false) : Outcome start past event i before (some b)
  | moved (before b t) (hmoves : event.moves (exec Site.step start past) i = some t)
      (hdated : ∀ d, b.deletedAt = some d → t ≤ d) : Outcome start past event i before (some b)
  | stays (b b') (hmoves : event.moves (exec Site.step start past) i = none)
      (hdeleted : b.deleted = true)
      (hdated : ∀ t, LastMoved start past i t → (∀ d, b.deletedAt = some d → t ≤ d) →
        ∀ d, b'.deletedAt = some d → t ≤ d) : Outcome start past event i (some b) (some b')

theorem Outcome.same {before : Option Bin}
    (hmoves : event.moves (exec Site.step start past) i = none ∨ before.any Bin.deleted = false) :
    Outcome start past event i before before := by
  cases before with
  | none => exact .gone none (Or.inl rfl)
  | some b =>
      cases hb : b.deleted with
      | false => exact .outside _ b hb
      | true =>
          rcases hmoves with hmoves | hout
          · exact .stays b b hmoves hb fun _ _ hdated => hdated
          · rw [Option.any_some, hb] at hout
            cases hout

theorem moves_of_bin?_eq {s : Site} (hop : ∀ op, event.op ≠ .trash op)
    (hsame : (s.step event).db.bin? i = s.db.bin? i) : event.moves s i = none := by
  unfold SiteEvent.moves
  split
  · rename_i op heq
    exact absurd heq (hop op)
  · refine if_neg fun h => h.1 ?_
    unfold Site.InTrash at h ⊢
    rw [← hsame]
    exact h.2

/-- Operations other than those of the trash can still write `deleted_at`,
through the serializer of an incident. They count as movements in the sense of
`LastMoved` when they put an incident into the trash, and otherwise leave the
instant it was moved at. -/
theorem Outcome.written {b : Bin} {before : Option Bin}
    (hop : ∀ op, event.op ≠ .trash op)
    (hbefore : (exec Site.step start past).db.bin? i = before)
    (hafter : ((exec Site.step start past).step event).db.bin? i = some b)
    (hmoved : before.any Bin.deleted = false → b.deleted = true →
      ∀ d, b.deletedAt = some d → event.now ≤ d)
    (hstays : before.any Bin.deleted = true → b.deleted = true →
      ∀ t, LastMoved start past i t → ∀ d, b.deletedAt = some d → t ≤ d) :
    Outcome start past event i before (some b) := by
  cases hb : b.deleted with
  | false => exact .outside _ b hb
  | true =>
      have hin : ((exec Site.step start past).step event).InTrash i := by
        unfold Site.InTrash
        rw [hafter, Option.any_some, hb]
      cases hbin : before.any Bin.deleted with
      | false =>
          have hout : ¬ (exec Site.step start past).InTrash i := by
            unfold Site.InTrash
            rw [hbefore, hbin]
            exact Bool.false_ne_true
          refine .moved _ b event.now ?_ (hmoved hbin hb)
          unfold SiteEvent.moves
          split
          · rename_i op heq
            exact absurd heq (hop op)
          · exact if_pos ⟨hout, hin⟩
      | true =>
          obtain ⟨b₀, rfl, hb₀⟩ := (Option.any_eq_true ..).mp hbin
          refine .stays b₀ b ?_ hb₀ fun t hlast _ => hstays hbin hb t hlast
          unfold SiteEvent.moves
          split
          · rename_i op heq
            exact absurd heq (hop op)
          · refine if_neg fun h => h.1 ?_
            unfold Site.InTrash
            rw [hbefore, hbin]

theorem Outcome.untouched (hop : ∀ op, event.op ≠ .trash op)
    (hsame : ((exec Site.step start past).step event).db.bin? i =
      (exec Site.step start past).db.bin? i) :
    Outcome start past event i ((exec Site.step start past).db.bin? i)
      (((exec Site.step start past).step event).db.bin? i) := by
  rw [hsame]
  exact .same (Or.inl (moves_of_bin?_eq hop hsame))

theorem outcome_trash (now : Instant) (op : TrashOp) :
    Outcome start past ⟨now, .trash op⟩ i ((exec Site.step start past).db.bin? i)
      (((exec Site.step start past).step ⟨now, .trash op⟩).db.bin? i) := by
  have hstep : ((exec Site.step start past).step ⟨now, .trash op⟩).db =
      (exec Site.step start past).db.trashStep ⟨now, op⟩ := rfl
  rw [hstep]
  rcases @bin?_trashStep (exec Site.step start past).db ⟨now, op⟩ i with
    hgone | ⟨t, htrashes, hafter⟩ | ⟨b, hafter, hrestored⟩ | ⟨htrashes, -, hsame⟩
  · rw [hgone]
    exact .gone _ (Or.inr ⟨op, rfl⟩)
  · rw [hafter]
    exact .moved _ _ t htrashes fun d hd => Int.le_of_eq (Option.some.inj hd)
  · rw [hafter]
    exact .outside _ b hrestored
  · rw [hsame]
    exact .same (Or.inl htrashes)

/-- An event that is no lapse keeps the dates of the trash right. -/
theorem outcome_step (hfree : ¬ Lapses start past event) :
    Outcome start past event i ((exec Site.step start past).db.bin? i)
      (((exec Site.step start past).step event).db.bin? i) := by
  obtain ⟨now, op⟩ := event
  cases op with
  | trash op => exact outcome_trash now op
  | create id createdOn data =>
      have hafter := bin?_createIncident (exec Site.step start past).db id i createdOn data
      by_cases hwritten : data.AcceptedNew (exec Site.step start past).db id createdOn ∧ i = id
      · rw [if_pos hwritten] at hafter
        obtain ⟨haccepted, rfl⟩ := hwritten
        have hbefore := bin?_none haccepted.2.2
        have hstep : ((exec Site.step start past).step ⟨now, .create i createdOn data⟩).db.bin? i =
          some (data.over (.new i none "" createdOn)).bin := hafter
        rw [hstep]
        refine .written (by simp) rfl hstep (fun _ hdeleted d hd => ?_) fun hin => ?_
        · exact Int.not_lt.mp fun hlt => hfree ⟨haccepted, hdeleted, d, hd, hlt⟩
        · rw [hbefore] at hin
          cases hin
      · rw [if_neg hwritten] at hafter
        exact .untouched (by simp) hafter
  | put auth j data mailSent =>
      rcases bin?_putIncident (exec Site.step start past).db auth j i data mailSent with
        hsame | ⟨rfl, row, hrow, haccepted, hafter⟩
      · exact .untouched (by simp) hsame
      · have hbefore := bin?_of_get? hrow
        have hstep : ((exec Site.step start past).step
          ⟨now, .put auth i data mailSent⟩).db.bin? i = some (data.over row).bin := hafter
        rw [hstep]
        refine .written (by simp) rfl hstep (fun hout hdeleted d hd => ?_)
          fun hin hdeleted t hlast d hd => ?_
        · rw [hbefore] at hout
          exact Int.not_lt.mp fun hlt =>
            hfree ⟨row, hrow, haccepted, Or.inl ⟨hout, hdeleted, d, hd, hlt⟩⟩
        · rw [hbefore] at hin
          exact Int.not_lt.mp fun hlt =>
            hfree ⟨row, hrow, haccepted, Or.inr ⟨hin, t, hlast, hdeleted, d, hd, hlt⟩⟩
  | removeUser request =>
      refine .untouched (by simp) ?_
      by_cases hpermitted : request.Permitted (exec Site.step start past).db
      · have hnone : ¬ (exec Site.step start past).db.Reports request.target :=
          fun hreports => hfree ⟨hpermitted, hreports⟩
        refine (congrArg (Db.bin? · i) (view_of_permitted hpermitted)).trans ?_
        exact bin?_deleteUser hnone
      · exact congrArg (Db.bin? · i) (view_of_refused hpermitted)
  | deleteIndicateur k =>
      refine .untouched (by simp) (bin?_deleteIndicateur fun j row hrow hk => hfree ?_)
      exact ⟨j, row, hrow, hk⟩
  | deleteCommunaute k =>
      refine .untouched (by simp) (bin?_deleteUsers fun user huser hk hreports => hfree ?_)
      exact ⟨user, huser, of_decide_eq_true hk, hreports⟩
  | deleteZone z =>
      refine .untouched (by simp) (bin?_deleteUsers fun user huser hz hreports => hfree ?_)
      exact ⟨user, huser, of_decide_eq_true hz, hreports⟩
  | other write leaves => exact .untouched (by simp) (leaves _ i)

/-- An incident in the trash is not dated before its last move there. -/
theorem lastMoved_of_inTrash (hout : ∀ i, ¬ start.InTrash i) {events : List SiteEvent}
    (hfree : ∀ pre event rest, events = pre ++ event :: rest → ¬ Lapses start pre event) {b : Bin}
    (hb : (exec Site.step start events).db.bin? i = some b) (hdeleted : b.deleted = true) :
    ∃ t, LastMoved start events i t ∧ ∀ d, b.deletedAt = some d → t ≤ d := by
  induction events using List.reverseRecOn generalizing b with
  | nil =>
      refine absurd ?_ (hout i)
      unfold Site.InTrash
      rw [show start.db.bin? i = some b from hb, Option.any_some, hdeleted]
  | append_singleton past event ih =>
      have hpast : ∀ pre event' rest, past = pre ++ event' :: rest → ¬ Lapses start pre event' :=
        fun pre event' rest heq => hfree pre event' (rest ++ [event]) (by simp [heq])
      have houtcome := outcome_step (i := i) (hfree past event [] rfl)
      rw [exec_snoc] at hb
      unfold LastMoved
      rw [hb] at houtcome
      generalize hbefore : (exec Site.step start past).db.bin? i = before at houtcome
      cases houtcome with
      | outside _ _ hrestored => exact absurd (hdeleted.symm.trans hrestored) (by decide)
      | moved _ _ t hmoves hdated => exact ⟨t, last_snoc.mpr (Or.inl hmoves), hdated⟩
      | stays b₀ _ hmoves hdeleted₀ hdated =>
          obtain ⟨t, hlast, hdate⟩ := ih hpast hbefore hdeleted₀
          refine ⟨t, last_snoc.mpr (Or.inr ⟨hlast, ?_⟩), hdated t hlast hdate⟩
          rintro (hmoved | hleft)
          · rw [hmoves] at hmoved
            cases hmoved
          · refine hleft ?_
            unfold Site.InTrash
            rw [hb, Option.any_some, hdeleted]

end Remembered

/-! ## The two ways -/

/-- Two operations of the trash destroy: the forced deletion by a super admin,
of what is in the trash, and the purge, of what has been in it for too long. -/
theorem destroyed_by_trash {db : Db} {now : Instant} {op : TrashOp} {i : IncidentId} {b : Bin}
    (hbefore : db.bin? i = some b) (hafter : (op.effect now db).bin? i = none) :
    (∃ auth ids, op = .bulkForceDelete auth ids ∧ db.superAdmin auth = true ∧ b.deleted = true) ∨
      op = .purgeExpiredTrash ∧ b.expired now = true := by
  cases op with
  | delete auth j =>
      simp only [TrashOp.effect, bin?_deleteIncident_view, hbefore] at hafter
      split at hafter <;> cases hafter
  | bulkDelete auth ids =>
      simp only [TrashOp.effect, bin?_bulkDelete, hbefore] at hafter
      split at hafter <;> cases hafter
  | restore auth j =>
      simp only [TrashOp.effect, bin?_restoreIncident, hbefore] at hafter
      split at hafter <;> cases hafter
  | bulkRestore auth ids =>
      simp only [TrashOp.effect, bin?_bulkRestore, hbefore] at hafter
      split at hafter <;> cases hafter
  | bulkForceDelete auth ids =>
      simp only [TrashOp.effect, bin?_bulkForceDelete, hbefore] at hafter
      split at hafter
      · cases hafter
      · rename_i turn hturn
        obtain ⟨user, huser, -⟩ := Option.bind_eq_some_iff.mp hturn
        obtain ⟨hauth, hsuper⟩ := Option.filter_eq_some_iff.mp huser
        refine Or.inl ⟨auth, ids, rfl, ?_, ?_⟩
        · unfold Db.superAdmin
          rw [hauth, Option.any_some, hsuper]
        · simpa [Option.filter] using hafter
  | purgeExpiredTrash =>
      simp only [TrashOp.effect, bin?_purgeExpiredTrash, hbefore] at hafter
      exact Or.inr ⟨rfl, by simpa [Option.filter] using hafter⟩

/-- Along a run without lapses, an incident is destroyed in the trash by a
super admin, or by a purge more than thirty days after it was last moved
there. The first half is the last step of the run; the second one needs the
dates, and so the whole run. -/
theorem destroyed_through_trash (start : Site) (events : List SiteEvent)
    (hout : ∀ i, ¬ start.InTrash i)
    (hfree : ∀ past event rest, events = past ++ event :: rest → ¬ Lapses start past event)
    {past : List SiteEvent} {event : SiteEvent} {rest : List SiteEvent} {i : IncidentId}
    (hevents : events = past ++ event :: rest)
    (hbefore : (exec Site.step start past).db.incidents.get? i ≠ none)
    (hafter : ((exec Site.step start past).step event).db.incidents.get? i = none) :
    (∃ auth ids, event.op = .trash (.bulkForceDelete auth ids) ∧
        (exec Site.step start past).db.superAdmin auth = true ∧
        (exec Site.step start past).InTrash i) ∨
      event.op = .trash .purgeExpiredTrash ∧
        ∃ t, LastMoved start past i t ∧ t + days 30 < event.now := by
  have houtcome := outcome_step (i := i) (hfree past event rest hevents)
  obtain ⟨b, hb⟩ : ∃ b, (exec Site.step start past).db.bin? i = some b := by
    obtain ⟨row, hrow⟩ := Option.ne_none_iff_exists'.mp hbefore
    exact ⟨row.bin, bin?_of_get? hrow⟩
  have hgone := bin?_none hafter
  rw [hb, hgone] at houtcome
  obtain ⟨op, hop⟩ : ∃ op, event.op = .trash op := by
    cases houtcome with
    | gone _ hgone => exact hgone.resolve_left (Option.some_ne_none b)
  have hstep : ((exec Site.step start past).step event).db =
      op.effect event.now (exec Site.step start past).db := by
    unfold Site.step
    rw [hop]
    rfl
  rw [hstep] at hgone
  rw [hop]
  rcases destroyed_by_trash hb hgone with ⟨auth, ids, rfl, hsuper, hdeleted⟩ | ⟨rfl, hexpired⟩
  · refine Or.inl ⟨auth, ids, rfl, hsuper, ?_⟩
    unfold Site.InTrash
    rw [hb, Option.any_some, hdeleted]
  · refine Or.inr ⟨rfl, ?_⟩
    obtain ⟨hdeleted, hdate⟩ := (Bool.and_eq_true ..).mp hexpired
    obtain ⟨d, hd, hold⟩ := (Option.any_eq_true ..).mp hdate
    have hpast : ∀ pre event' rest', past = pre ++ event' :: rest' → ¬ Lapses start pre event' := by
      intro pre event' rest' heq
      exact hfree pre event' (rest' ++ event :: rest) (by simp [hevents, heq])
    obtain ⟨t, hlast, hdated⟩ := lastMoved_of_inTrash hout hpast hb hdeleted
    refine ⟨t, hlast, Int.add_lt_of_lt_sub_right ?_⟩
    exact Int.lt_of_le_of_lt (hdated d hd) (of_decide_eq_true hold)

def Site.of (db : Db) : Site where
  db := db
  indicateurOf := fun _ => none
  communauteOf := fun _ => none
  zoneOf := fun _ => none

/-- The incident is deleted, and purged on the thirty-first day. -/
theorem destroyed_through_trash_purged :
    ∃ t, LastMoved (.of trashStore) [⟨0, .trash (.delete (some 1) 1)⟩] 1 t ∧
      t + days 30 < days 31 := by
  have hout : ∀ i, ¬ (Site.of trashStore).InTrash i := by
    intro i hin
    obtain ⟨b, hb, hdeleted⟩ := (Option.any_eq_true ..).mp hin
    obtain ⟨row, hrow, rfl⟩ := Option.map_eq_some_iff.mp hb
    obtain rfl := List.mem_singleton.mp (Table.mem_of_get? hrow)
    cases hdeleted
  have hsplit : ([⟨0, .trash (.delete (some 1) 1)⟩, ⟨days 31, .trash .purgeExpiredTrash⟩] :
      List SiteEvent) = [⟨0, .trash (.delete (some 1) 1)⟩] ++
        ⟨days 31, .trash .purgeExpiredTrash⟩ :: [] := rfl
  have hfree : ∀ past event rest, ([⟨0, .trash (.delete (some 1) 1)⟩,
      ⟨days 31, .trash .purgeExpiredTrash⟩] : List SiteEvent) = past ++ event :: rest →
        ¬ Lapses (.of trashStore) past event := by
    intro past event rest heq
    have hmem : event ∈ past ++ event :: rest := by simp
    rw [← heq] at hmem
    rcases List.mem_pair.mp hmem with rfl | rfl <;> exact id
  rcases destroyed_through_trash (.of trashStore) _ hout hfree hsplit (i := 1)
    (by decide) (by decide) with ⟨auth, ids, hop, -⟩ | ⟨-, hlast⟩
  · cases hop
  · exact hlast

/-- A `PUT` that puts the incident into the trash, dated a long time ago. -/
def IncidentData.backdated : IncidentData :=
  { IncidentData.only "Bamako" .declared with isDeleted := .value true, deletedAt := .value 0 }

/-- An incident outside the trash goes with the citizen who has reported it; and the
purge destroys one that was moved into the trash on the day before. -/
theorem destroyed_otherwise :
    ((Site.of reportedStore).db.incidents.get? 1).isSome = true ∧
      ¬ (Site.of reportedStore).InTrash 1 ∧
      ((Site.of reportedStore).step
        ⟨days 1, .removeUser (.user (some 1) 5)⟩).db.incidents.get? 1 = none ∧
    ((Site.of trashStore).step
        ⟨days 40, .put none 1 .backdated true⟩).db.incidents.get? 1 ≠ none ∧
      (((Site.of trashStore).step ⟨days 40, .put none 1 .backdated true⟩).step
        ⟨days 41, .trash .purgeExpiredTrash⟩).db.incidents.get? 1 = none ∧
      ¬ ∃ t, LastMoved (.of trashStore) [⟨days 40, .put none 1 .backdated true⟩] 1 t ∧
        t + days 30 < days 41 := by
  refine ⟨by decide, by decide, by decide, by decide, by decide, ?_⟩
  rintro ⟨t, hlast, hold⟩
  rcases last_snoc.mp (show Last _ _ _ _ ([] ++ [_]) from hlast) with hmoves | ⟨hnil, -⟩
  · have hmoved : SiteEvent.moves (.of trashStore) 1 ⟨days 40, .put none 1 .backdated true⟩ =
        some (days 40) := by decide
    obtain rfl := Option.some.inj (hmoved.symm.trans hmoves)
    exact absurd hold (by decide)
  · exact not_last_nil hnil

end Mapapi
