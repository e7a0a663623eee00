import Mapapi.Trash

/-!
# The purge removes the expired trash

The trash of an incident is a function of the history of the five views and of
the purge: it is in the trash since its last trashing, unless it has been restored
since then, and `deleted_at` is the instant of that trashing. So a purge at `t`
destroys the incidents in the trash whose last trashing is more than thirty days
old, and no other.

The two columns of the trash are all that the views and the purge look at
(`Bin`), and every event acts on them incident by incident. The history is
read backwards: the last event that trashes or restores the incident decides.
-/

namespace Mapapi

open Lib

/-! ## Runs -/

/-- Everything that moves incidents into the trash, out of it, or out of
existence. -/
inductive TrashOp where
  | delete (auth : Option UserId) (i : IncidentId)
  | bulkDelete (auth : Option UserId) (ids : Option (List BulkId))
  | restore (auth : Option UserId) (i : IncidentId)
  | bulkRestore (auth : Option UserId) (ids : Option (List BulkId))
  | bulkForceDelete (auth : Option UserId) (ids : Option (List BulkId))
  | purgeExpiredTrash

structure TrashEvent where
  now : Instant
  op : TrashOp

/-- Run one after the other. The law is about what each of them selects, and
not about races. -/
def TrashOp.effect (now : Instant) (db : Db) : TrashOp → Db
  | delete auth i => ((deleteIncident now auth i).run db).2
  | bulkDelete auth ids => ((Mapapi.bulkDelete auth ids).run db).2
  | restore auth i => ((restoreIncident auth i).run db).2
  | bulkRestore auth ids => ((Mapapi.bulkRestore auth ids).run db).2
  | bulkForceDelete auth ids => ((Mapapi.bulkForceDelete auth ids).run db).2
  | purgeExpiredTrash => ((Mapapi.purgeExpiredTrash now).run db).2

def Db.trashStep (db : Db) (event : TrashEvent) : Db := event.op.effect event.now db

/-- The instants at which an event reads the clock, in order. -/
def TrashEvent.instants (event : TrashEvent) : List Instant :=
  match event.op with
  | .bulkDelete _ ids => event.now :: (ids.getD []).map BulkId.now
  | _ => [event.now]

/-! ## The record -/

/-- The instant at which an event records a trashing of the incident: a single
deletion, or a bulk deletion that moves it from outside the trash. -/
def TrashEvent.trashes (db : Db) (i : IncidentId) (event : TrashEvent) : Option Instant :=
  match event.op with
  | .delete auth j => if j = i ∧ db.superAdmin auth = true then some event.now else none
  | .bulkDelete auth ids =>
    if (db.bin? i).any Bin.deleted then none else (db.bulkTurn auth ids isSuperAdmin i).map Prod.snd
  | _ => none

/-- The event takes the incident out of the trash. Only a super admin
restores, and only what is in the trash; the single restoration and the bulk
one differ in how they find it. -/
def TrashEvent.restores (db : Db) (i : IncidentId) (event : TrashEvent) : Bool :=
  match event.op with
  | .restore auth j => decide (j = i) && db.superAdmin auth && (db.bin? i).any Bin.deleted
  | .bulkRestore auth ids =>
    (db.bulkTurn auth ids isSuperAdmin i).isSome && (db.bin? i).any Bin.deleted
  | _ => false

/-- The last trashing of the incident was recorded at `t`, and no restoration has
followed it. -/
def LastTrashed (db : Db) (events : List TrashEvent) (i : IncidentId) (t : Instant) : Prop :=
  Last Db.trashStep (fun db event => event.trashes db i = some t)
    (fun db event => (event.trashes db i).isSome = true ∨ event.restores db i = true) db events

section Steps

variable {db : Db} {event : TrashEvent} {i : IncidentId}

/-- All that one operation of the trash can do to one incident: it is
destroyed, or moved to the trash, or found outside of it, or not touched at
all. Every law about the trash is read off these four cases. -/
theorem bin?_trashStep :
    (db.trashStep event).bin? i = none ∨
      (∃ t, event.trashes db i = some t ∧ (db.trashStep event).bin? i = some ⟨true, some t⟩) ∨
      (∃ b, (db.trashStep event).bin? i = some b ∧ b.deleted = false) ∨
      event.trashes db i = none ∧ event.restores db i = false ∧
        (db.trashStep event).bin? i = db.bin? i := by
  cases hb : (db.trashStep event).bin? i with
  | none => exact Or.inl rfl
  | some b' =>
      refine Or.inr ?_
      obtain ⟨now, op⟩ := event
      unfold Db.trashStep at hb
      cases op with
      | delete auth j =>
          simp only [TrashOp.effect] at hb
          rw [bin?_deleteIncident_view] at hb
          by_cases h : i = j ∧ db.superAdmin auth = true
          · rw [if_pos h] at hb
            obtain ⟨b, -, rfl⟩ := Option.map_eq_some_iff.mp hb
            exact Or.inl ⟨now, if_pos ⟨h.1.symm, h.2⟩, rfl⟩
          · rw [if_neg h] at hb
            exact Or.inr (Or.inr ⟨if_neg fun h' => h ⟨h'.1.symm, h'.2⟩, rfl, hb.symm⟩)
      | bulkDelete auth ids =>
          simp only [TrashOp.effect] at hb
          rw [bin?_bulkDelete] at hb
          unfold TrashEvent.trashes
          cases hturn : db.bulkTurn auth ids isSuperAdmin i with
          | none =>
              rw [hturn] at hb
              exact Or.inr (Or.inr ⟨by simp [hturn], rfl, hb.symm⟩)
          | some turn =>
              rw [hturn] at hb
              obtain ⟨b, hold, rfl⟩ := Option.map_eq_some_iff.mp hb
              unfold Bin.trashedOnce
              by_cases hdeleted : b.deleted = true
              · simp [hold, hdeleted, TrashEvent.restores]
              · exact Or.inl ⟨turn.2, by simp [hold, hdeleted, hturn], by simp [hdeleted]⟩
      | restore auth j =>
          simp only [TrashOp.effect] at hb
          rw [bin?_restoreIncident] at hb
          split at hb
          · obtain ⟨b, -, rfl⟩ := Option.map_eq_some_iff.mp hb
            exact Or.inr (Or.inl ⟨b.restored, rfl, rfl⟩)
          · rename_i hother
            refine Or.inr (Or.inr ⟨rfl, ?_, hb.symm⟩)
            simp only [TrashEvent.restores, Bool.and_eq_false_iff, decide_eq_false_iff_not]
            refine Or.inl (Decidable.or_iff_not_imp_left.mpr fun hj => ?_)
            exact Bool.eq_false_iff.mpr fun hsuper => hother ⟨(not_not.mp hj).symm, hsuper⟩
      | bulkRestore auth ids =>
          simp only [TrashOp.effect] at hb
          rw [bin?_bulkRestore] at hb
          cases hturn : db.bulkTurn auth ids isSuperAdmin i with
          | none =>
              rw [hturn] at hb
              exact Or.inr (Or.inr ⟨rfl, by simp [TrashEvent.restores, hturn], hb.symm⟩)
          | some turn =>
              rw [hturn] at hb
              obtain ⟨b, -, rfl⟩ := Option.map_eq_some_iff.mp hb
              exact Or.inr (Or.inl ⟨b.restored, rfl, rfl⟩)
      | bulkForceDelete auth ids =>
          simp only [TrashOp.effect] at hb
          rw [bin?_bulkForceDelete] at hb
          split at hb
          · exact Or.inr (Or.inr ⟨rfl, rfl, hb.symm⟩)
          · exact Or.inr (Or.inr ⟨rfl, rfl, (Option.filter_eq_some_iff.mp hb).1.symm⟩)
      | purgeExpiredTrash =>
          simp only [TrashOp.effect] at hb
          rw [bin?_purgeExpiredTrash] at hb
          exact Or.inr (Or.inr ⟨rfl, rfl, (Option.filter_eq_some_iff.mp hb).1.symm⟩)

end Steps

/-! ## What the trash remembers -/

/-- An incident in the trash is dated by its last trashing, by induction on
the run. -/
theorem lastTrashed_of_deleted {db : Db} {i : IncidentId}
    (hout : ∀ b, db.bin? i = some b → b.deleted = false) (events : List TrashEvent) {b : Bin}
    (hb : (exec Db.trashStep db events).bin? i = some b) (hdeleted : b.deleted = true) :
    ∃ t, b.deletedAt = some t ∧ LastTrashed db events i t := by
  induction events using List.reverseRecOn generalizing b with
  | nil => exact absurd ((hout b hb).symm.trans hdeleted) Bool.false_ne_true
  | append_singleton events event ih =>
      rw [exec_snoc] at hb
      simp only [LastTrashed, last_snoc]
      rcases @bin?_trashStep (exec Db.trashStep db events) event i with
        hgone | ⟨t, htrashes, hafter⟩ | ⟨b', hafter, hrestored⟩ | ⟨htrashes, hrestores, hsame⟩
      · cases hgone.symm.trans hb
      · obtain rfl := Option.some.inj (hafter.symm.trans hb)
        exact ⟨t, rfl, Or.inl htrashes⟩
      · obtain rfl := Option.some.inj (hafter.symm.trans hb)
        exact absurd (hrestored.symm.trans hdeleted) Bool.false_ne_true
      · obtain ⟨t, hdate, hlast⟩ := ih (hsame.symm.trans hb) hdeleted
        exact ⟨t, hdate, Or.inr ⟨hlast, by simp [htrashes, hrestores]⟩⟩

theorem lastTrashed_unique {db : Db} {i : IncidentId} {events : List TrashEvent} {t t' : Instant}
    (h : LastTrashed db events i t) (h' : LastTrashed db events i t') : t = t' := by
  induction events using List.reverseRecOn with
  | nil => exact absurd h not_last_nil
  | append_singleton events event ih =>
      rcases last_snoc.mp h with hmark | ⟨hlast, hkept⟩
      · rcases last_snoc.mp h' with hmark' | ⟨-, hkept'⟩
        · exact Option.some.inj (hmark.symm.trans hmark')
        · exact absurd (Or.inl (by rw [hmark]; rfl)) hkept'
      · rcases last_snoc.mp h' with hmark' | ⟨hlast', -⟩
        · exact absurd (Or.inl (by rw [hmark']; rfl)) hkept
        · exact ih hlast hlast'

theorem TrashEvent.trashes_mem_instants {db : Db} {i : IncidentId} {event : TrashEvent}
    {t : Instant} (h : event.trashes db i = some t) : t ∈ event.instants := by
  obtain ⟨now, op⟩ := event
  cases op with
  | delete auth j =>
      simp only [trashes, Option.ite_none_right_eq_some, Option.some.injEq] at h
      exact List.mem_singleton.mpr h.2.symm
  | bulkDelete auth ids =>
      simp only [trashes, Option.ite_none_left_eq_some, Db.bulkTurn, Option.map_eq_some_iff,
        Option.bind_eq_some_iff] at h
      obtain ⟨-, turn, ⟨user, -, t', ⟨items, rfl, hturn⟩, rfl⟩, rfl⟩ := h
      exact List.mem_cons_of_mem _ (mem_firstTurn hturn)
  | restore | bulkRestore | bulkForceDelete | purgeExpiredTrash => cases h

/-- A trashing of the run is the last one, or comes before it. -/
theorem lastTrashed_ge {db : Db} {i : IncidentId} {pre post : List TrashEvent} {event : TrashEvent}
    {t t₀ : Instant} (htrashes : event.trashes (exec Db.trashStep db pre) i = some t₀)
    (hlast : LastTrashed db (pre ++ event :: post) i t)
    (hclock : ((pre ++ event :: post).flatMap TrashEvent.instants).Pairwise (· ≤ ·)) : t₀ ≤ t := by
  induction post using List.reverseRecOn with
  | nil =>
      rcases last_snoc.mp hlast with hmark | ⟨-, hkept⟩
      · exact Int.le_of_eq (Option.some.inj (htrashes.symm.trans hmark))
      · exact absurd (Or.inl (by rw [htrashes]; rfl)) hkept
  | append_singleton post event' ih =>
      rw [← List.cons_append, ← List.append_assoc] at hlast hclock
      rw [List.flatMap_append, List.pairwise_append] at hclock
      rcases last_snoc.mp hlast with hmark | ⟨hlast', -⟩
      · refine hclock.2.2 t₀ ?_ t ?_
        · exact List.mem_flatMap.mpr
            ⟨event, by simp, TrashEvent.trashes_mem_instants htrashes⟩
        · exact List.mem_flatMap.mpr
            ⟨event', List.mem_singleton_self _, TrashEvent.trashes_mem_instants hmark⟩
      · exact ih hlast' hclock.1

/-! ## The purge -/

/-- A purge at `t` destroys the incidents in the trash whose last trashing is more
than thirty days old, and leaves the others as they are. With a clock that does not
go back, an incident is safe for thirty days after each of its trashings. -/
theorem purge_exact (db : Db) (events : List TrashEvent) (i : IncidentId) (t : Instant)
    (hout : ∀ incident, db.incidents.get? i = some incident → incident.isDeleted = false) :
    let before := exec Db.trashStep db events
    let after := ((purgeExpiredTrash t).run before).2
    (after.incidents.get? i = none ∨ after.incidents.get? i = before.incidents.get? i) ∧
    (∀ incident, before.incidents.get? i = some incident →
      (after.incidents.get? i = none ↔
        incident.isDeleted = true ∧ ∃ t₀, LastTrashed db events i t₀ ∧ t₀ < t - days 30)) ∧
    ((events.flatMap TrashEvent.instants ++ [t]).Pairwise (· ≤ ·) →
      ∀ pre event post t₀, events = pre ++ event :: post →
        event.trashes (exec Db.trashStep db pre) i = some t₀ → t ≤ t₀ + days 30 →
          after.incidents.get? i = before.incidents.get? i) := by
  intro before after
  have hout' : ∀ b, db.bin? i = some b → b.deleted = false := by
    intro b hb
    obtain ⟨incident, hinc, rfl⟩ := Option.map_eq_some_iff.mp hb
    exact hout incident hinc
  have hafter : after.incidents.get? i =
      (before.incidents.get? i).filter fun incident => !expiredTrash t incident :=
    get?_purgeExpiredTrash
  -- an incident in the trash is dated by its last trashing, and there is one
  have hexpired : ∀ incident, before.incidents.get? i = some incident →
      (expiredTrash t incident = true ↔
        incident.isDeleted = true ∧ ∃ t₀, LastTrashed db events i t₀ ∧ t₀ < t - days 30) := by
    intro incident hinc
    simp only [expiredTrash, Bool.and_eq_true]
    refine and_congr_right fun hdeleted => ?_
    obtain ⟨t₀, hdate, hlast⟩ :=
      lastTrashed_of_deleted hout' events (bin?_of_get? hinc) hdeleted
    rw [show incident.deletedAt = some t₀ from hdate, Option.any_some, decide_eq_true_eq]
    exact ⟨fun hold => ⟨t₀, hlast, hold⟩,
      fun ⟨t₁, hlast₁, hold⟩ => lastTrashed_unique hlast hlast₁ ▸ hold⟩
  refine ⟨?_, fun incident hinc => ?_, fun hclock pre event post t₀ hsplit htrashes hyoung => ?_⟩
  · rw [hafter]
    cases before.incidents.get? i with
    | none => exact Or.inl rfl
    | some incident => by_cases h : expiredTrash t incident = true <;> simp [Option.filter, h]
  · rw [← hexpired incident hinc, hafter, hinc]
    simp [Option.filter]
  · rw [hafter]
    cases hinc : before.incidents.get? i with
    | none => rfl
    | some incident =>
        have hkept : expiredTrash t incident = false := by
          by_contra h
          rw [Bool.not_eq_false] at h
          obtain ⟨-, t₁, hlast, hold⟩ := (hexpired incident hinc).mp h
          subst hsplit
          have hle : t₀ ≤ t₁ := lastTrashed_ge htrashes hlast (List.pairwise_append.mp hclock).1
          have hlate : t - days 30 ≤ t₀ := Int.sub_right_le_of_le_add hyoung
          exact Int.lt_irrefl t₁ (Int.lt_of_lt_of_le hold (Int.le_trans hlate hle))
        simp [Option.filter, hkept]

def trashStore : Db :=
  Db.start [] [.superAdmin 1 "super@map.ml"] (.new 1 (some "Fuite") "Bamako" "01-02-2025")

/-- The incident is trashed, restored on the tenth day and trashed again on the
twentieth. -/
def trashedTwice : List TrashEvent :=
  [⟨0, .delete (some 1) 1⟩, ⟨days 10, .restore (some 1) 1⟩,
    ⟨days 20, .bulkDelete (some 1) (some [⟨⟨.uuid 1, "1"⟩, days 20⟩])⟩]

/-- On the forty-fifth day the purge leaves it, on the fifty-first it destroys it. -/
theorem purge_exact_trashedTwice :
    let before := exec Db.trashStep trashStore trashedTwice
    ((purgeExpiredTrash (days 45)).run before).2.incidents.get? 1 = before.incidents.get? 1 ∧
      ((purgeExpiredTrash (days 51)).run before).2.incidents.get? 1 = none := by
  intro before
  have hsplit : trashedTwice = trashedTwice.take 2 ++
      ⟨days 20, .bulkDelete (some 1) (some [⟨⟨.uuid 1, "1"⟩, days 20⟩])⟩ :: [] := rfl
  have hout : ∀ incident, trashStore.incidents.get? 1 = some incident →
      incident.isDeleted = false := by
    intro incident h
    obtain rfl := Option.some.inj h
    rfl
  refine ⟨(purge_exact trashStore trashedTwice 1 (days 45) hout).2.2 (by decide) _ _ _ (days 20)
    hsplit (by decide) (by decide), ?_⟩
  obtain ⟨incident, hinc, hdeleted⟩ := (Option.any_eq_true Incident.isDeleted
    (before.incidents.get? 1)).mp (by decide)
  refine ((purge_exact trashStore trashedTwice 1 (days 51) hout).2.1 incident hinc).mpr
    ⟨hdeleted, days 20, ⟨_, _, [], hsplit, by decide, fun mid event rest h => ?_⟩, by decide⟩
  exact absurd h.symm (List.append_ne_nil_of_right_ne_nil mid (List.cons_ne_nil event rest))

end Mapapi
