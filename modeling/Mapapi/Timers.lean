import Mapapi.Prologue
import Mapapi.Server

/-!
# Timers and decisions

Tacit validation and the anti-gel timer read the incidents that are due, once,
and then write row by row what they have decided on the rows as they were read.
A request may have decided otherwise in between: the writes do not look again.

What a timer writes is known (`Timer.Allows`), so when it overrides a decision is
known too: when the stored row, or a collaboration, is not already what the timer
makes of it (`Overrides`).

The condition is on the store before a write, not on the order of the
requests: what makes a late write harmless is that somebody has brought the
row to the same state already, a super admin who validated before the timer
did, or a leader who disengaged. Any other decision shows, because the timer
writes a state that the decision has left (`Overrides.touched`).
-/

namespace Mapapi

open Lib

/-! ## Timers and requests -/

inductive Timer where
  | validation
  | antigel
  deriving DecidableEq

def Timer.prog (now : Instant) : Timer → Prog Db Unit
  | validation => do
    let _ ← autoValidateOverdueResolutions now
    pure ()
  | antigel => do
    let _ ← revertStaleTakenIncidents now
    pure ()

/-- The state that the snapshot of the timer is taken by. -/
def Timer.selects : Timer → Etat
  | validation => .inValidation
  | antigel => .taken

/-- A request by which somebody decides about an incident: it rejects or
validates a resolution, declares one, gives the incident up or closes it. -/
inductive Decision where
  | reject (auth : Option UserId) (i : IncidentId) (motif : Choice String)
  | validate (auth : Option UserId) (i : IncidentId)
  | declare (now : Instant) (auth : Option UserId) (i : IncidentId)
  | disengage (auth : Option UserId) (i : IncidentId)
  | close (auth : Option UserId) (i : IncidentId) (startDate endDate : Arg Date)

def Decision.view : Decision → View
  | reject auth i motif => rejectResolution auth i motif
  | validate auth i => validateResolution auth i
  | declare now auth i => declareResolved now auth i
  | disengage auth i => Mapapi.disengage auth i
  | close auth i startDate endDate => closeIncident auth i startDate endDate

/-- Both timers and any number of requests on one store. Timers write from
their snapshots, row by row. -/
def timerPool {ι : Type} (now : Timer → Instant) (db : Db) (decisions : ι → Decision) :
    Pool Db (Timer ⊕ ι) Unit where
  store := db
  progs
    | .inl timer => timer.prog (now timer)
    | .inr k => do
      let _ ← (decisions k).view
      pure ()

/-! ## What is promised -/

/-- What a decision is about is as it was. -/
structure Db.Untouched (db db' : Db) (i : IncidentId) : Prop where
  etat : (db'.incidents.get? i).map Incident.etat = (db.incidents.get? i).map Incident.etat
  takenBy :
    (db'.incidents.get? i).map Incident.takenBy = (db.incidents.get? i).map Incident.takenBy
  collaborations : db'.collaborationsOf i = db.collaborationsOf i

def Incident.revertedColumns : List Column :=
  [.etat, .takenBy, .takeInChargeMode, .takenInChargeAt, .antigelWarned75, .antigelWarned90]

section Promise

variable {ι : Type} [DecidableEq ι]

/-- Since the first turn of the timer, at which it reads its incidents, a request has
moved the incident out of the state the timer selects. -/
def MovedOut (c : Pool Db (Timer ⊕ ι) Unit) (past : List (Timer ⊕ ι)) (timer : Timer)
    (i : IncidentId) : Prop :=
  ∃ pre k post, past = pre ++ Sum.inr k :: post ∧ Sum.inl timer ∈ pre ∧
    ((c.exec pre).store.incidents.get? i).map Incident.etat = some timer.selects ∧
    ((c.exec (pre ++ [.inr k])).store.incidents.get? i).map Incident.etat ≠ some timer.selects

/-- A timer leaves alone what a request has decided. -/
def TimersYield (c : Pool Db (Timer ⊕ ι) Unit) (schedule : List (Timer ⊕ ι)) : Prop :=
  ∀ past timer i, past ++ [Sum.inl timer] <+: schedule → MovedOut c past timer i →
    (c.exec past).store.Untouched (c.exec (past ++ [.inl timer])).store i

def NextWrite (p : Prog Db Unit) (write : Db → Db) : Prop := ∃ next, p = .act write next

omit [DecidableEq ι] in
/-- The timer is about to write the incident, or its collaborations, and they are not
yet what it makes of them. -/
inductive Overrides (c : Pool Db (Timer ⊕ ι) Unit) (i : IncidentId) : Timer → Prop where
  | validate {incident row : Incident}
      (hnext : NextWrite (c.progs (.inl .validation))
        (Db.saveIncidentFields { incident with etat := .resolvedDefinitive } [.etat]))
      (hid : incident.id = i) (hrow : c.store.incidents.get? i = some row)
      (hetat : row.etat ≠ .resolvedDefinitive) : Overrides c i .validation
  | terminate {collaboration : Collaboration}
      (hnext : NextWrite (c.progs (.inl .validation)) (terminateActiveCollaborations i))
      (hrow : collaboration ∈ c.store.collaborationsOf i)
      (haccepted : collaboration.status = .accepted) : Overrides c i .validation
  | revert {incident row : Incident}
      (hnext : NextWrite (c.progs (.inl .antigel))
        (Db.saveIncidentFields incident.reverted Incident.revertedColumns))
      (hid : incident.id = i) (hrow : c.store.incidents.get? i = some row)
      (hengaged : row.etat ≠ .declared ∨ row.takenBy ≠ none) : Overrides c i .antigel

end Promise

/-! ## What a timer writes -/

/-- The writes of a timer. They do not depend on the stored row: what a timer
saves, it has computed from the row of its snapshot. -/
inductive Timer.Allows : Timer → (Db → Db) → Prop where
  /-- A read, or a notification. -/
  | other {timer} (write : Db → Db) (hincidents : ∀ db, (write db).incidents = db.incidents)
      (hcollaborations : ∀ db, (write db).collaborations = db.collaborations) :
      Allows timer write
  | validate (incident : Incident) :
      Allows .validation
        (Db.saveIncidentFields { incident with etat := .resolvedDefinitive } [.etat])
  | terminate (i : IncidentId) : Allows .validation (terminateActiveCollaborations i)
  | warn (incident : Incident) (columns : List Incident.Column)
      (hcolumns : ∀ column ∈ columns, column = .antigelWarned75 ∨ column = .antigelWarned90) :
      Allows .antigel (Db.saveIncidentFields incident columns)
  | revert (incident : Incident) :
      Allows .antigel (Db.saveIncidentFields incident.reverted Incident.revertedColumns)

/-- The protocol of a timer, which has one phase: it may read at any time, and
write what `Allows` lists. -/
def Timer.Acts (timer : Timer) (_ : Unit) (_ : Db) (write : Db → Db) (_ : Unit) : Prop :=
  timer.Allows write

section Follows

variable {now : Instant} {timer : Timer}

theorem Timer.allows_id : timer.Allows id := .other id (fun _ => rfl) fun _ => rfl

theorem allows_notifyAntigelLeader (incident : Incident) (pct : Nat) :
    timer.Allows (notifyAntigelLeader incident pct) := by
  refine .other _ (fun db => ?_) fun db => ?_
  all_goals
    unfold notifyAntigelLeader
    split <;> rfl

theorem follows_autoValidateOne (incident : Incident) :
    (autoValidateOne incident).Follows Timer.validation.Acts (Prog.Ended fun _ _ => True) () := by
  refine Or.inr fun db => ⟨(), .validate incident, ?_⟩
  exact Prog.follows_modify fun db => ⟨(), .terminate incident.id, trivial⟩

theorem follows_revertStaleOne (row : Incident × Instant) :
    (revertStaleOne now row).Follows Timer.antigel.Acts (Prog.Ended fun _ _ => True) () := by
  obtain ⟨incident, since⟩ := row
  rw [revertStaleOne]
  cases antigelVerdict now since incident with
  | revert => exact Prog.follows_modify fun db => ⟨(), .revert incident, trivial⟩
  | warn90 =>
      refine Or.inr fun db => ⟨(), allows_notifyAntigelLeader incident 90, ?_⟩
      exact Prog.follows_modify fun db => ⟨(), .warn _ _ (by simp), trivial⟩
  | warn75 =>
      refine Or.inr fun db => ⟨(), allows_notifyAntigelLeader incident 75, ?_⟩
      exact Prog.follows_modify fun db => ⟨(), .warn _ _ (by simp), trivial⟩
  | wait => exact Prog.ended_pure trivial

theorem follows_autoValidate :
    (autoValidateOverdueResolutions now).Follows Timer.validation.Acts
      (Prog.Ended fun _ _ => True) () := by
  refine Prog.follows_read fun db => ⟨(), Timer.allows_id, ?_⟩
  refine Prog.follows_bind' (Prog.follows_forEach (I := fun _ => True)
    (fun incident _ _ _ => follows_autoValidateOne incident) trivial) fun _ _ _ => ?_
  exact Prog.follows_pure (Prog.ended_pure trivial)

theorem follows_revertStale :
    (revertStaleTakenIncidents now).Follows Timer.antigel.Acts
      (Prog.Ended fun _ _ => True) () := by
  refine Prog.follows_read fun db => ⟨(), Timer.allows_id, ?_⟩
  refine Prog.follows_bind' (Prog.follows_forEach (I := fun _ => True)
    (fun row _ _ _ => follows_revertStaleOne row) trivial) fun _ _ _ => ?_
  exact Prog.follows_pure (Prog.ended_pure trivial)

theorem Timer.follows (timer : Timer) (now : Instant) :
    (timer.prog now).Follows timer.Acts (Prog.Ended fun _ _ => True) () := by
  cases timer with
  | validation =>
      exact Prog.follows_bind' follows_autoValidate fun _ _ _ =>
        Prog.follows_pure (Prog.ended_pure trivial)
  | antigel =>
      exact Prog.follows_bind' follows_revertStale fun _ _ _ =>
        Prog.follows_pure (Prog.ended_pure trivial)

end Follows

/-! ## What a write changes -/

section Writes

variable {db : Db} {i j : IncidentId} {incident row : Incident} {columns : List Incident.Column}

theorem foldl_write_engagement (incident row : Incident) {columns : List Incident.Column}
    (h : ∀ column ∈ columns, column ≠ .etat ∧ column ≠ .takenBy) :
    (columns.foldl (Incident.Column.write incident) row).etat = row.etat ∧
      (columns.foldl (Incident.Column.write incident) row).takenBy = row.takenBy := by
  induction columns generalizing row with
  | nil => exact ⟨rfl, rfl⟩
  | cons column rest ih =>
      obtain ⟨hetat, htaken⟩ :=
        ih (column.write incident row) fun c hc => h c (List.mem_cons_of_mem column hc)
      obtain ⟨hne, hne'⟩ := h column List.mem_cons_self
      rw [List.foldl_cons, hetat, htaken]
      cases column with
      | etat => exact absurd rfl hne
      | takenBy => exact absurd rfl hne'
      | _ => exact ⟨rfl, rfl⟩

/-- The flags of a warning are none of the columns of a decision. -/
theorem writeColumns_warn (incident row : Incident)
    (h : ∀ column ∈ columns, column = .antigelWarned75 ∨ column = .antigelWarned90) :
    (incident.writeColumns columns row).etat = row.etat ∧
      (incident.writeColumns columns row).takenBy = row.takenBy := by
  refine foldl_write_engagement incident.pinProgress row fun column hcolumn => ?_
  have hsaved : column ∈ columns ∨ column = .progress := by
    unfold Incident.savedColumns at hcolumn
    split at hcolumn
    · exact (List.mem_append.mp hcolumn).imp id List.mem_singleton.mp
    · exact Or.inl hcolumn
  rcases hsaved with hflag | rfl
  · rcases h column hflag with rfl | rfl <;> decide
  · decide

theorem writeColumns_reverted (incident row : Incident) :
    (incident.reverted.writeColumns Incident.revertedColumns row).etat = .declared ∧
      (incident.reverted.writeColumns Incident.revertedColumns row).takenBy = none :=
  ⟨rfl, rfl⟩

theorem Db.Untouched.refl (db : Db) (i : IncidentId) : db.Untouched db i := ⟨rfl, rfl, rfl⟩

theorem untouched_saveFields (h : ∀ row, incident.id = i → db.incidents.get? i = some row →
      (incident.writeColumns columns row).etat = row.etat ∧
        (incident.writeColumns columns row).takenBy = row.takenBy) :
    db.Untouched (db.saveIncidentFields incident columns) i := by
  by_cases hid : incident.id = i
  · cases hrow : db.incidents.get? i with
    | none =>
        have hnone : (db.saveIncidentFields incident columns).incidents.get? i = none := by
          rw [Db.get?_saveIncidentFields, if_pos hid.symm, hrow, Option.map_none]
        exact ⟨by rw [hnone, hrow], by rw [hnone, hrow], rfl⟩
    | some row =>
        obtain ⟨hetat, htaken⟩ := h row hid hrow
        refine ⟨?_, ?_, rfl⟩
        · rw [Db.row_writeColumns hrow hid, hrow, Option.map_some, Option.map_some, hetat]
        · rw [Db.row_writeColumns hrow hid, hrow, Option.map_some, Option.map_some, htaken]
  · have hother : (db.saveIncidentFields incident columns).incidents.get? i =
        db.incidents.get? i := Db.incidents_saveIncidentFields_other (Ne.symm hid)
    exact ⟨by rw [hother], by rw [hother], rfl⟩

theorem collaborationsOf_terminate (db : Db) (i j : IncidentId) :
    (terminateActiveCollaborations j db).collaborationsOf i =
      (db.collaborationsOf i).map fun c =>
        if c.incident = j ∧ c.status = .accepted then { c with status := .terminated } else c := by
  unfold Db.collaborationsOf terminateActiveCollaborations Db.updateCollaborations
  unfold Table.updateWhere Table.mapRows Table.select
  rw [List.filter_map]
  simp only [decide_eq_true_eq, id]
  refine congrArg _ (List.filter_congr fun c _ => ?_)
  rw [Function.comp_apply]
  split <;> rfl

theorem untouched_terminate
    (h : j = i → ∀ c ∈ db.collaborationsOf i, c.status ≠ .accepted) :
    db.Untouched (terminateActiveCollaborations j db) i := by
  refine ⟨rfl, rfl, ?_⟩
  rw [collaborationsOf_terminate]
  refine (List.map_congr_left fun c hc => if_neg ?_).trans (List.map_id _)
  rintro ⟨hincident, haccepted⟩
  have hi : c.incident = i := of_decide_eq_true (List.mem_filter.mp hc).2
  exact h (hincident.symm.trans hi) c hc haccepted

theorem touched_terminate {c : Collaboration} (hc : c ∈ db.collaborationsOf i)
    (haccepted : c.status = .accepted) :
    ¬ db.Untouched (terminateActiveCollaborations i db) i := by
  intro huntouched
  have hsame := huntouched.collaborations
  have hi : c.incident = i := of_decide_eq_true (List.mem_filter.mp hc).2
  rw [← hsame, collaborationsOf_terminate] at hc
  obtain ⟨c', -, rfl⟩ := List.mem_map.mp hc
  split at haccepted
  · cases haccepted
  · rename_i hnot
    rw [if_neg hnot] at hi
    exact hnot ⟨hi, haccepted⟩

end Writes

/-! ## Every schedule -/

section Schedules

variable {ι : Type} [DecidableEq ι] {c : Pool Db (Timer ⊕ ι) Unit} {timer : Timer}
  {i : IncidentId}

/-- A turn that overrides something shows. -/
theorem Overrides.touched (h : Overrides c i timer) :
    ¬ c.store.Untouched (c.step (.inl timer)).store i := by
  intro huntouched
  cases h with
  | validate hnext hid hrow hetat =>
      obtain ⟨next, hprog⟩ := hnext
      have hsame := huntouched.etat
      rw [Pool.store_step_act hprog, Db.row_writeColumns hrow (by exact hid), hrow,
        Option.map_some, Option.map_some, Incident.writeColumns_etat rfl] at hsame
      exact hetat (Option.some.inj hsame).symm
  | terminate hnext hrow haccepted =>
      obtain ⟨next, hprog⟩ := hnext
      rw [Pool.store_step_act hprog] at huntouched
      exact touched_terminate hrow haccepted huntouched
  | revert hnext hid hrow hengaged =>
      obtain ⟨next, hprog⟩ := hnext
      have hetat := huntouched.etat
      have htaken := huntouched.takenBy
      rw [Pool.store_step_act hprog, Db.row_writeColumns hrow (by exact hid), hrow,
        Option.map_some, Option.map_some] at hetat htaken
      rw [(writeColumns_reverted _ _).1] at hetat
      rw [(writeColumns_reverted _ _).2] at htaken
      rcases hengaged with hne | hne
      · exact hne (Option.some.inj hetat).symm
      · exact hne (Option.some.inj htaken).symm

omit [DecidableEq ι] in
/-- A turn of a timer that overrides nothing changes neither the columns of
the decision nor the accepted rows: what it writes is what is stored. -/
theorem untouched_turn {write : Db → Db} {next : Db → Prog Db Unit}
    (hprog : c.progs (.inl timer) = .act write next) (hallowed : timer.Allows write)
    (hyields : ¬ Overrides c i timer) :
    c.store.Untouched (write c.store) i := by
  cases hallowed with
  | other _ hincidents hcollaborations =>
      refine ⟨by rw [hincidents], by rw [hincidents], ?_⟩
      unfold Db.collaborationsOf
      rw [hcollaborations]
  | validate incident =>
      refine untouched_saveFields fun row hid hrow => ?_
      rw [Incident.writeColumns_etat rfl]
      refine ⟨?_, rfl⟩
      by_contra hne
      exact hyields (.validate ⟨next, hprog⟩ hid hrow (Ne.symm hne))
  | terminate j =>
      refine untouched_terminate fun hj collaboration hrow haccepted => ?_
      subst hj
      exact hyields (.terminate ⟨next, hprog⟩ hrow haccepted)
  | warn incident columns hcolumns =>
      exact untouched_saveFields fun row _ _ => writeColumns_warn incident row hcolumns
  | revert incident =>
      refine untouched_saveFields fun row hid hrow => ?_
      obtain ⟨hetat, htaken⟩ := writeColumns_reverted incident row
      rw [hetat, htaken]
      by_contra hne
      refine hyields (.revert ⟨next, hprog⟩ hid hrow ?_)
      by_contra hengaged
      obtain ⟨hdeclared, hnobody⟩ := not_or.mp hengaged
      exact hne ⟨(not_not.mp hdeclared).symm, (not_not.mp hnobody).symm⟩

end Schedules

/-- The timers leave alone what the requests have decided exactly when no turn
of a timer overrides it: whatever incidents are due, however many requests
there are, and in whatever order the reads and writes happen. A turn that
overrides nothing leaves the columns of the decision as they are. -/
theorem timersYield_iff {ι : Type} [DecidableEq ι] (now : Timer → Instant) (db : Db)
    (decisions : ι → Decision) (schedule : List (Timer ⊕ ι)) :
    TimersYield (timerPool now db decisions) schedule ↔
      ∀ past timer i, past ++ [Sum.inl timer] <+: schedule →
        MovedOut (timerPool now db decisions) past timer i →
          ¬ Overrides ((timerPool now db decisions).exec past) i timer := by
  refine forall_congr' fun past => forall_congr' fun timer => forall_congr' fun i =>
    imp_congr_right fun _ => imp_congr_right fun _ => ?_
  rw [Pool.exec_snoc]
  constructor
  · exact fun huntouched hoverrides => hoverrides.touched huntouched
  · intro hyields
    have hstart : ((timerPool now db decisions).progs (.inl timer)).Follows timer.Acts
        (Prog.Ended fun _ _ => True) () := timer.follows (now timer)
    obtain ⟨t, hfollows⟩ := Pool.exec_follows hstart past
    cases hprog : ((timerPool now db decisions).exec past).progs (.inl timer) with
    | done u =>
        rw [Pool.step_done hprog]
        exact .refl _ _
    | act write next =>
        obtain ⟨t', hallowed⟩ := Pool.allowed_of_follows hfollows hprog
        rw [Pool.store_step_act hprog]
        exact untouched_turn hprog hallowed hyields

def overdueStore : Db :=
  Db.start [{ id := 1, name := "Voirie" }]
    [.superAdmin 1 "admin@map.ml", .member 2 "voirie@map.ml" .orgAdmin 1]
    { Incident.new 1 (some "Fuite") "Bamako" "01-02-2025" with
      etat := .inValidation, takenBy := some 2, takenInChargeAt := some 0,
      validationDeadline := some 0 }

def rejection : Unit → Decision := fun _ => .reject (some 1) 1 (.one "Photo manquante")

/-- The timer reads the incident, the request is served, the timer goes on. -/
def overdueSchedule : List (Timer ⊕ Unit) :=
  [.inl .validation, .inr (), .inr (), .inr (), .inl .validation]

/-- The rejected resolution is validated. -/
theorem rejected_yet_validated :
    let c := timerPool (fun _ => 1) overdueStore rejection
    ((c.exec overdueSchedule).result (.inr ()) ≠ none) ∧
      (c.exec overdueSchedule).store.incidents.rows.map
        (fun row => (row.etat, row.rejectionReason)) =
          [(.resolvedDefinitive, some "Photo manquante")] ∧
      ¬ TimersYield c overdueSchedule := by
  refine ⟨by decide, by decide, fun h => ?_⟩
  have huntouched := h [.inl .validation, .inr (), .inr (), .inr ()] .validation 1
    List.prefix_rfl
    ⟨[.inl .validation, .inr (), .inr ()], (), [], rfl, List.mem_cons_self, by decide, by decide⟩
  have hetat := huntouched.etat
  revert hetat
  decide

end Mapapi
