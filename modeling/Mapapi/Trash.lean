import Mapapi.IncidentPut
import Mapapi.Refinement

/-!
# The trash

An incident is put into the trash by `IncidentAPIView.delete` or by
`BulkDeleteIncidentsView`, taken out again by `RestoreIncidentView` or
`BulkRestoreIncidentsView`, and destroyed there by `BulkForceDeleteIncidentsView`
or, thirty days later, by `purge_expired_trash`.

The single deletion dates an incident anew when it is in the trash already, the
bulk deletion leaves it alone; a restoration clears `is_deleted` and keeps
`deleted_at`. A bulk view treats the ids of its body one after the other, and
each deletion reads the clock: an item carries the instant at which its turn
comes.

All of them look at two columns of an incident and write no other (`Bin`). So
what a request does is said as a function on the bin of each incident, and a
loop over a list of ids acts on an incident by its first turn about it: later
turns find what the first has left, and leave it.
-/

namespace Mapapi

open Lib

/-! ## Saving -/

/-- `save(update_fields=...)` of `inst`, when `write` copies the listed columns to
the stored row; a finished incident is pinned to 100 % along with them. -/
def Db.saveTrash (inst : Incident) (write : Incident → Incident)
    (hwrite : ∀ row, (write row).id = row.id) (db : Db) : Db :=
  { db with
    incidents := db.incidents.update inst.id (fun row => inst.writeColumns [] (write row))
      fun row => (inst.writeColumns_id [] (write row)).trans (hwrite row) }

def Db.moveToTrash (now : Instant) (inst : Incident) (db : Db) : Db :=
  db.saveTrash inst (fun row => { row with isDeleted := true, deletedAt := some now }) fun _ => rfl

/-- The instant stays. An incident that is outside of the trash can have been
there. -/
def Db.takeFromTrash (inst : Incident) (db : Db) : Db :=
  db.saveTrash inst (fun row => { row with isDeleted := false }) fun _ => rfl

def Db.trashed? (db : Db) (i : IncidentId) : Option Incident :=
  (db.incidents.get? i).filter Incident.isDeleted

/-! ## Single endpoints -/

def isSuperAdminOrOrgOwnIncidentMessage : String :=
  "Seul un super administrateur peut supprimer un incident."

def isSuperAdminMessage : String := "Seul un super administrateur peut effectuer cette action."

/-- `IncidentAPIView.delete`. The view lets everybody in and checks the object
permission by hand. -/
def deleteIncident (now : Instant) (auth : Option UserId) (i : IncidentId) : View := do
  let user ← Prog.read fun db => db.authenticated auth
  refuseIf (auth.isSome && user.isNone) .unauthorized <|
    getIncident i "" fun incident =>
    permit (user.any isSuperAdmin) isSuperAdminOrOrgOwnIncidentMessage do
    Prog.modify (Db.moveToTrash now incident)
    pure (.ok 204 .noContent)

/-- `RestoreIncidentView.post`. `deleted_at` stays on the row, so a restored
incident still has the date of its last trashing. -/
def restoreIncident (auth : Option UserId) (i : IncidentId) : View :=
  authenticate auth fun user =>
  permit user.isSuperuser isSuperAdminMessage do
  match ← Prog.read fun db => db.trashed? i with
  | none => pure (.error 404 "Incident non trouvé dans la corbeille.")
  | some incident => do
    Prog.modify (Db.takeFromTrash incident)
    pure (.ok 200 (.incident none { incident with isDeleted := false }.pinProgress))

/-! ## Bulk endpoints -/

/-- An element of `incident_ids`: its text, and the id it is read as. One id has
several texts. -/
structure BulkValue where
  id : RawId
  text : String
  deriving DecidableEq

/-- An element, and when its turn comes. -/
structure BulkId where
  value : BulkValue
  now : Instant

def BulkId.id (item : BulkId) : RawId := item.value.id

structure BulkReport where
  done : List BulkValue
  unauthorized : List BulkValue
  notFound : List BulkValue

inductive ItemOutcome where
  | done
  | unauthorized
  | notFound

def BulkReport.add (report : BulkReport) (value : BulkValue) : ItemOutcome → BulkReport
  | .done => { report with done := report.done ++ [value] }
  | .unauthorized => { report with unauthorized := report.unauthorized ++ [value] }
  | .notFound => { report with notFound := report.notFound ++ [value] }

abbrev BulkView := Prog Db (Except Response (BulkReport × String))

/-- The elements one after the other. A malformed id ends the request with an
error; what was done before it stays. A null is not found. -/
def bulkLoop (act : IncidentId → Instant → Prog Db ItemOutcome) (done : String)
    (report : BulkReport) : List BulkId → BulkView
  | [] => pure (.ok (report, toString report.done.length ++ done))
  | item :: rest =>
    match item.id with
    | .malformed => pure (.error .crash)
    | .absent => bulkLoop act done (report.add item.value .notFound) rest
    | .uuid i => do
      let outcome ← act i item.now
      bulkLoop act done (report.add item.value outcome) rest

/-- What the three bulk views share; `none` is an `incident_ids` that is not a list. -/
def bulkView (auth : Option UserId) (ids : Option (List BulkId)) (allowed : User → Bool)
    (done : String) (act : User → IncidentId → Instant → Prog Db ItemOutcome) : BulkView := do
  match ← Prog.read fun db => db.authenticated auth with
  | none => pure (.error .unauthorized)
  | some user =>
    if allowed user then
      match ids with
      | some (item :: rest) => bulkLoop (act user) done ⟨[], [], []⟩ (item :: rest)
      | _ => pure (.error (.error 400 "incident_ids doit être une liste non vide."))
    else pure (.error (.error 403 isSuperAdminMessage))

/-- One turn of `BulkDeleteIncidentsView.post`. For who may not delete, the
element is listed as unauthorized; what is in the trash already counts as done
and keeps its date. -/
def trashItem (user : User) (i : IncidentId) (now : Instant) : Prog Db ItemOutcome := do
  match ← Prog.read fun db => db.incidents.get? i with
  | none => pure .notFound
  | some incident =>
    if isSuperAdmin user then
      if incident.isDeleted then pure .done
      else do
        Prog.modify (Db.moveToTrash now incident)
        pure .done
    else pure .unauthorized

def restoreItem (_user : User) (i : IncidentId) (_now : Instant) : Prog Db ItemOutcome := do
  match ← Prog.read fun db => db.trashed? i with
  | none => pure .notFound
  | some incident => do
    Prog.modify (Db.takeFromTrash incident)
    pure .done

/-- Only what is in the trash can be deleted for good. Who may do it is
checked for the whole list. -/
def forceDeleteItem (_user : User) (i : IncidentId) (_now : Instant) : Prog Db ItemOutcome := do
  match ← Prog.read fun db => db.trashed? i with
  | none => pure .notFound
  | some incident => do
    Prog.modify (Db.deleteIncident incident.id)
    pure .done

def bulkDelete (auth : Option UserId) (ids : Option (List BulkId)) : BulkView :=
  bulkView auth ids (fun _ => true) " incident(s) supprimé(s)." trashItem

def bulkRestore (auth : Option UserId) (ids : Option (List BulkId)) : BulkView :=
  bulkView auth ids User.isSuperuser " incident(s) restauré(s)." restoreItem

def bulkForceDelete (auth : Option UserId) (ids : Option (List BulkId)) : BulkView :=
  bulkView auth ids User.isSuperuser " incident(s) supprimé(s) définitivement." forceDeleteItem

/-! ## What the trash shows -/

structure Bin where
  deleted : Bool
  deletedAt : Option Instant
  deriving DecidableEq

def Bin.restored (b : Bin) : Bin := { b with deleted := false }

/-- A purge at `now` destroys the incident. -/
def Bin.expired (now : Instant) (b : Bin) : Bool :=
  b.deleted && b.deletedAt.any fun d => decide (d < now - days 30)

/-- The two columns of the trash, which no rule of the database keeps
together. -/
def Incident.bin (incident : Incident) : Bin := ⟨incident.isDeleted, incident.deletedAt⟩

def Db.bin? (db : Db) (i : IncidentId) : Option Bin := (db.incidents.get? i).map Incident.bin

def Db.superAdmin (db : Db) (auth : Option UserId) : Bool :=
  (db.authenticated auth).any isSuperAdmin

/-- The instant of the first turn of an incident, if the loop reaches it. -/
def firstTurn (i : IncidentId) : List BulkId → Option Instant
  | [] => none
  | item :: rest =>
    match item.id with
    | .malformed => none
    | .absent => firstTurn i rest
    | .uuid j => if j = i then some item.now else firstTurn i rest

section Effects

variable {db : Db} {auth : Option UserId} {now : Instant} {i j : IncidentId}

theorem writeColumns_bin (inst row : Incident) : (inst.writeColumns [] row).bin = row.bin := by
  unfold Incident.writeColumns Incident.savedColumns
  split <;> rfl

theorem bin?_saveTrash {inst : Incident} {write : Incident → Incident}
    {hwrite : ∀ row, (write row).id = row.id} {g : Bin → Bin}
    (hbin : ∀ row, (write row).bin = g row.bin) :
    (db.saveTrash inst write hwrite).bin? j =
      if j = inst.id then (db.bin? j).map g else db.bin? j := by
  unfold Db.bin? Db.saveTrash
  rw [Table.get?_update]
  split
  · simp only [Option.map_map]
    exact congrArg (Option.map · _) (funext fun row => (writeColumns_bin ..).trans (hbin row))
  · rfl

theorem bin?_moveToTrash {inst : Incident} :
    (db.moveToTrash now inst).bin? j =
      if j = inst.id then (db.bin? j).map (fun _ => ⟨true, some now⟩) else db.bin? j :=
  bin?_saveTrash fun _ => rfl

theorem bin?_takeFromTrash {inst : Incident} :
    (db.takeFromTrash inst).bin? j =
      if j = inst.id then (db.bin? j).map Bin.restored else db.bin? j :=
  bin?_saveTrash fun _ => rfl

theorem get?_deleteIncident :
    (db.deleteIncident i).incidents.get? j = if j = i then none else db.incidents.get? j :=
  Table.get?_erase ..

theorem bin?_deleteIncident :
    (db.deleteIncident i).bin? j = if j = i then none else db.bin? j := by
  unfold Db.bin?
  rw [get?_deleteIncident]
  split <;> rfl

theorem bin?_of_get? {incident : Incident} (h : db.incidents.get? i = some incident) :
    db.bin? i = some incident.bin := by
  rw [Db.bin?, h, Option.map_some]

theorem bin?_none (h : db.incidents.get? i = none) : db.bin? i = none := by
  rw [Db.bin?, h, Option.map_none]

/-- The bin of an incident that is not in the trash, or not there. -/
theorem bin?_of_trashed_none (h : db.trashed? i = none) :
    ∀ b, db.bin? i = some b → b.deleted = false := by
  rintro b hb
  obtain ⟨incident, hinc, rfl⟩ := Option.map_eq_some_iff.mp hb
  rw [Db.trashed?, hinc, Option.filter_eq_none_iff] at h
  simpa [Incident.bin] using h incident rfl

theorem bin?_restored_of_outside (h : ∀ b, db.bin? i = some b → b.deleted = false) :
    (db.bin? i).map Bin.restored = db.bin? i := by
  cases hb : db.bin? i with
  | none => rfl
  | some b =>
      have hout := h b hb
      rw [Option.map_some, Bin.restored, ← hout]

theorem trashed?_eq_some {incident : Incident} (h : db.trashed? i = some incident) :
    db.incidents.get? i = some incident ∧ incident.isDeleted = true ∧ incident.id = i := by
  obtain ⟨hinc, hdeleted⟩ := Option.filter_eq_some_iff.mp h
  exact ⟨hinc, hdeleted, Table.key_of_get? hinc⟩

/-- The single deletion writes the instant again when the incident is in the
trash already, which postpones its purge. -/
theorem bin?_deleteIncident_view :
    ((deleteIncident now auth i).run db).2.bin? j =
      if j = i ∧ db.superAdmin auth = true then (db.bin? j).map (fun _ => ⟨true, some now⟩)
      else db.bin? j := by
  unfold deleteIncident Db.superAdmin
  simp only [Prog.run_bind, Prog.run_read]
  generalize hrefused : (auth.isSome && (db.authenticated auth).isNone) = refuse
  cases refuse with
  | true =>
      rw [Bool.and_eq_true, Option.isNone_iff_eq_none] at hrefused
      simp [refuseIf, hrefused.2]
  | false =>
      rw [refuseIf_passes rfl]
      unfold getIncident permit
      simp only [Prog.run_bind, Prog.run_read]
      cases hinc : db.incidents.get? i with
      | none =>
          simp only [Prog.run_pure]
          split
          · rename_i h
            rw [h.1, bin?_none hinc]
            rfl
          · rfl
      | some incident =>
          simp only [Prog.run_ite, Prog.run_bind, Prog.run_modify, Prog.run_pure]
          split
          · rename_i hsuper
            rw [bin?_moveToTrash, show incident.id = i from Table.key_of_get? hinc]
            simp [hsuper]
          · rename_i hsuper
            simp [hsuper]

theorem bin?_restoreIncident :
    ((restoreIncident auth i).run db).2.bin? j =
      if j = i ∧ db.superAdmin auth = true then (db.bin? j).map Bin.restored else db.bin? j := by
  unfold restoreIncident Db.superAdmin
  cases huser : db.authenticated auth with
  | none => simp [authenticate, huser]
  | some user =>
      rw [authenticate_passes huser]
      unfold permit
      simp only [Option.any_some, isSuperAdmin_eq, Prog.run_ite, Prog.run_bind, Prog.run_read,
        Prog.run_pure]
      split
      · rename_i hsuper
        cases htrash : db.trashed? i with
        | none =>
            simp only [Prog.run_pure]
            split
            · rename_i h
              rw [h.1]
              exact (bin?_restored_of_outside (bin?_of_trashed_none htrash)).symm
            · rfl
        | some incident =>
            simp only [Prog.run_bind, Prog.run_modify, Prog.run_pure]
            rw [bin?_takeFromTrash, (trashed?_eq_some htrash).2.2]
            simp [hsuper]
      · rename_i hsuper
        simp [hsuper]

/-- One turn of the bulk deletion leaves what is in the trash as it is. -/
def Bin.trashedOnce (now : Instant) (b : Bin) : Bin :=
  if b.deleted then b else ⟨true, some now⟩

/-- Unlike the single deletion, an item of a list that is already in the trash
keeps the instant it was trashed at. -/
theorem bin?_trashItem {user : User} :
    ((trashItem user i now).run db).2.bin? j =
      if j = i then if isSuperAdmin user then (db.bin? j).map (Bin.trashedOnce now) else db.bin? j
      else db.bin? j := by
  unfold trashItem
  simp only [Prog.run_bind, Prog.run_read]
  cases hinc : db.incidents.get? i with
  | none =>
      simp only [Prog.run_pure]
      split
      · rename_i hj
        rw [hj, bin?_none hinc]
        split <;> rfl
      · rfl
  | some incident =>
      simp only [Prog.run_ite, Prog.run_bind, Prog.run_modify, Prog.run_pure]
      have hbin := bin?_of_get? hinc
      by_cases hsuper : isSuperAdmin user = true
      · rw [if_pos hsuper, if_pos hsuper]
        by_cases hdeleted : incident.isDeleted = true
        · rw [if_pos hdeleted]
          split
          · rename_i hj
            simp [hj, hbin, Bin.trashedOnce, Incident.bin, hdeleted]
          · rfl
        · rw [if_neg hdeleted, bin?_moveToTrash, show incident.id = i from Table.key_of_get? hinc]
          split
          · rename_i hj
            simp [hj, hbin, Bin.trashedOnce, Incident.bin, hdeleted]
          · rfl
      · rw [if_neg hsuper, if_neg hsuper, ite_self]

theorem bin?_restoreItem {user : User} :
    ((restoreItem user i now).run db).2.bin? j =
      if j = i then (db.bin? j).map Bin.restored else db.bin? j := by
  unfold restoreItem
  simp only [Prog.run_bind, Prog.run_read]
  cases htrash : db.trashed? i with
  | none =>
      simp only [Prog.run_pure]
      split
      · rename_i hj
        rw [hj]
        exact (bin?_restored_of_outside (bin?_of_trashed_none htrash)).symm
      · rfl
  | some incident =>
      simp only [Prog.run_bind, Prog.run_modify, Prog.run_pure]
      rw [bin?_takeFromTrash, (trashed?_eq_some htrash).2.2]

theorem bin?_forceDeleteItem {user : User} :
    ((forceDeleteItem user i now).run db).2.bin? j =
      if j = i then (db.bin? j).filter (fun b => !b.deleted) else db.bin? j := by
  unfold forceDeleteItem
  simp only [Prog.run_bind, Prog.run_read]
  cases htrash : db.trashed? i with
  | none =>
      simp only [Prog.run_pure]
      split
      · rename_i hj
        rw [hj]
        cases hb : db.bin? i with
        | none => rfl
        | some b => simp [Option.filter, bin?_of_trashed_none htrash b hb]
      · rfl
  | some incident =>
      obtain ⟨hinc, hdeleted, hid⟩ := trashed?_eq_some htrash
      simp only [Prog.run_bind, Prog.run_modify, Prog.run_pure]
      rw [bin?_deleteIncident, hid]
      split
      · rename_i hj
        simp [hj, bin?_of_get? hinc, Incident.bin, hdeleted, Option.filter]
      · rfl

/-- A bulk loop does to an incident what its first turn does, when a second
turn would do nothing more. It may end at a malformed id before it comes to
the incident. -/
theorem bin?_bulkLoop {act : IncidentId → Instant → Prog Db ItemOutcome}
    {g : Instant → Option Bin → Option Bin}
    (hact : ∀ (db : Db) i now j, ((act i now).run db).2.bin? j =
      if j = i then g now (db.bin? j) else db.bin? j)
    (honce : ∀ now now' b, g now' (g now b) = g now b) (done : String) (items : List BulkId)
    (report : BulkReport) :
    ((bulkLoop act done report items).run db).2.bin? j =
      match firstTurn j items with
      | none => db.bin? j
      | some now => g now (db.bin? j) := by
  induction items generalizing db report with
  | nil => rfl
  | cons item rest ih =>
      obtain ⟨⟨id, text⟩, now⟩ := item
      cases id with
      | malformed => rfl
      | absent => exact ih _
      | uuid i =>
          simp only [bulkLoop, BulkId.id, firstTurn, Prog.run_bind]
          rw [ih, hact]
          by_cases hj : j = i
          · rw [if_pos hj, if_pos hj.symm]
            split
            · rfl
            · exact honce _ _ _
          · rw [if_neg hj, if_neg (Ne.symm hj)]

/-- The user of a bulk request whose loop reaches the incident, and the instant of
its first turn. -/
def Db.bulkTurn (db : Db) (auth : Option UserId) (ids : Option (List BulkId))
    (allowed : User → Bool) (i : IncidentId) : Option (User × Instant) :=
  ((db.authenticated auth).filter allowed).bind fun user =>
    (ids.bind (firstTurn i)).map fun now => (user, now)

theorem bin?_bulkView {ids : Option (List BulkId)} {allowed : User → Bool} {done : String}
    {act : User → IncidentId → Instant → Prog Db ItemOutcome}
    {g : User → Instant → Option Bin → Option Bin}
    (hact : ∀ user (db : Db) i now j, ((act user i now).run db).2.bin? j =
      if j = i then g user now (db.bin? j) else db.bin? j)
    (honce : ∀ user now now' b, g user now' (g user now b) = g user now b) :
    ((bulkView auth ids allowed done act).run db).2.bin? j =
      match db.bulkTurn auth ids allowed j with
      | none => db.bin? j
      | some (user, now) => g user now (db.bin? j) := by
  unfold bulkView Db.bulkTurn
  simp only [Prog.run_bind, Prog.run_read]
  cases db.authenticated auth with
  | none => rfl
  | some user =>
      simp only [Prog.run_ite, Option.filter]
      split
      · cases ids with
        | none => rfl
        | some items =>
            cases items with
            | nil => rfl
            | cons item rest =>
                rw [show (some (item :: rest)).bind (firstTurn j) = firstTurn j (item :: rest)
                  from rfl, bin?_bulkLoop (hact user) (honce user)]
                cases firstTurn j (item :: rest) <;> rfl
      · rfl

theorem isSuperuser_eq : User.isSuperuser = isSuperAdmin :=
  funext fun user => (isSuperAdmin_eq user).symm

theorem bin?_bulkDelete {ids : Option (List BulkId)} :
    ((bulkDelete auth ids).run db).2.bin? j =
      match db.bulkTurn auth ids isSuperAdmin j with
      | none => db.bin? j
      | some (_, now) => (db.bin? j).map (Bin.trashedOnce now) := by
  unfold bulkDelete
  rw [bin?_bulkView (g := fun user now b =>
      if isSuperAdmin user then b.map (Bin.trashedOnce now) else b)
    (fun user db i now j => bin?_trashItem)]
  · unfold Db.bulkTurn
    cases db.authenticated auth with
    | none => rfl
    | some user =>
        cases ids.bind (firstTurn j) <;> by_cases hsuper : isSuperAdmin user = true <;>
          simp [hsuper, Option.filter]
  · intro user now now' b
    by_cases hsuper : isSuperAdmin user = true
    · simp only [hsuper, if_true, Option.map_map]
      refine congrArg (Option.map · b) (funext fun bin => ?_)
      by_cases hdeleted : bin.deleted = true <;> simp [Bin.trashedOnce, hdeleted]
    · simp [hsuper]

theorem bin?_bulkRestore {ids : Option (List BulkId)} :
    ((bulkRestore auth ids).run db).2.bin? j =
      match db.bulkTurn auth ids isSuperAdmin j with
      | none => db.bin? j
      | some _ => (db.bin? j).map Bin.restored := by
  unfold bulkRestore
  rw [isSuperuser_eq, bin?_bulkView (g := fun _ _ b => b.map Bin.restored)
    (fun _ db i now j => bin?_restoreItem)]
  · cases db.bulkTurn auth ids isSuperAdmin j <;> rfl
  · intro user now now' b
    rw [Option.map_map]
    rfl

theorem bin?_bulkForceDelete {ids : Option (List BulkId)} :
    ((bulkForceDelete auth ids).run db).2.bin? j =
      match db.bulkTurn auth ids isSuperAdmin j with
      | none => db.bin? j
      | some _ => (db.bin? j).filter fun b => !b.deleted := by
  unfold bulkForceDelete
  rw [isSuperuser_eq, bin?_bulkView (g := fun _ _ b => b.filter fun b => !b.deleted)
    (fun _ db i now j => bin?_forceDeleteItem)]
  · cases db.bulkTurn auth ids isSuperAdmin j <;> rfl
  · intro user now now' b
    rw [Option.filter_filter]
    simp

theorem get?_foldl_deleteIncident (incidents : List Incident) :
    (incidents.foldl (fun db incident => db.deleteIncident incident.id) db).incidents.get? j =
      if j ∈ incidents.map Incident.id then none else db.incidents.get? j := by
  induction incidents generalizing db with
  | nil => rfl
  | cons incident rest ih =>
      rw [List.foldl_cons, ih, get?_deleteIncident, List.map_cons]
      by_cases hrest : j ∈ rest.map Incident.id
      · rw [if_pos hrest, if_pos (List.mem_cons_of_mem _ hrest)]
      · simp only [hrest, if_false, List.mem_cons, or_false]

/-- The incidents that satisfy `p` are destroyed, one after the other. -/
theorem get?_foldl_select (p : Incident → Bool) :
    ((db.incidents.select p).foldl (fun db incident => db.deleteIncident incident.id)
        db).incidents.get? j =
      (db.incidents.get? j).filter fun incident => !p incident := by
  rw [get?_foldl_deleteIncident]
  cases hinc : db.incidents.get? j with
  | none =>
      rw [ite_self]
      rfl
  | some incident =>
      have hid : incident.id = j := Table.key_of_get? hinc
      have hmem : j ∈ (db.incidents.select p).map Incident.id ↔ p incident = true := by
        constructor
        · intro h
          obtain ⟨row, hrow, hrowid⟩ := List.mem_map.mp h
          obtain ⟨hstored, hp⟩ := Table.mem_select.mp hrow
          rw [show key row = j from hrowid, hinc] at hstored
          rwa [Option.some.inj hstored]
        · intro h
          exact List.mem_map.mpr ⟨incident, List.mem_filter.mpr ⟨Table.mem_of_get? hinc, h⟩, hid⟩
      by_cases hp : p incident = true
      · rw [if_pos (hmem.mpr hp)]
        simp [Option.filter, hp]
      · rw [if_neg (hp ∘ hmem.mp)]
        simp [Option.filter, hp]

theorem get?_purgeExpiredTrash :
    ((purgeExpiredTrash now).run db).2.incidents.get? j =
      (db.incidents.get? j).filter fun incident => !expiredTrash now incident := by
  unfold purgeExpiredTrash
  simp only [Prog.run_bind, Prog.run_read, Prog.run_modify, Prog.run_pure]
  exact get?_foldl_select (expiredTrash now)

theorem bin?_purgeExpiredTrash :
    ((purgeExpiredTrash now).run db).2.bin? j = (db.bin? j).filter fun b => !b.expired now := by
  unfold Db.bin?
  rw [get?_purgeExpiredTrash]
  cases db.incidents.get? j with
  | none => rfl
  | some incident =>
      have hbin : incident.bin.expired now = expiredTrash now incident := rfl
      cases hexpired : expiredTrash now incident <;> simp [Option.filter, hbin, hexpired]

/-- A first turn reads the clock of its element. -/
theorem mem_firstTurn {items : List BulkId} (h : firstTurn i items = some now) :
    now ∈ items.map BulkId.now := by
  induction items with
  | nil => cases h
  | cons item rest ih =>
      obtain ⟨⟨id, text⟩, instant⟩ := item
      cases id with
      | malformed => cases h
      | absent => exact List.mem_cons_of_mem _ (ih h)
      | uuid j =>
          simp only [firstTurn, BulkId.id] at h
          split at h
          · obtain rfl := Option.some.inj h
            exact List.mem_cons_self ..
          · exact List.mem_cons_of_mem _ (ih h)

end Effects

end Mapapi
