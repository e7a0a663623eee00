import Mathlib.Data.Bool.Basic
import Mapapi.Contender

/-!
# Two requests race for an incident

Two organisation admins take the same free incident in charge at the same
time, each with one request. The check that nobody has taken it and the two
writes of the engagement are separate actions, so the requests may interleave
(`Lib.Pool`).

A request enters when it reads the incident before the other one saves it
(`Race.Enters`, on the order of turns only). The invariant `Race.Inv` ties the
stage of each request, the row of the incident and the seats to this order;
every turn of every schedule keeps it (`Race.Ready.inv`).
-/

namespace Mapapi

open Lib

/-! ## The race -/

/-- An incident and two requests for it. -/
structure Race where
  incident : Incident
  contender : Bool → Contender

def Stage.Saved : Stage → Prop
  | .saved | .looked | .seated _ | .reset _ _ | .answered _ => True
  | .start | .signedIn | .read _ | .unseated | .refused _ => False

def Stage.Seated : Stage → Prop
  | .seated _ | .reset _ _ | .answered _ => True
  | .start | .signedIn | .read _ | .unseated | .saved | .looked | .refused _ => False

theorem Stage.Seated.saved {st : Stage} (h : st.Seated) : st.Saved := by
  cases st <;> trivial

namespace Race

variable (race : Race)

def user (b : Bool) : UserId := (race.contender b).user.id

/-- The turn at which a request saves the incident. It is the turn after the
read, or later: a leader request looks for a collaboration in between. -/
def saveTurn (b : Bool) : Nat := (race.contender b).way.saveTurn

def pool (db : Db) : Pool Db Bool Response where
  store := db
  progs b := (race.contender b).request race.incident.id

/-- Both users are signed in as organisation admins, and the incident is free. -/
structure Ready (db : Db) : Prop where
  stored : db.incidents.get? race.incident.id = some race.incident
  free : Free race.incident
  signedIn : ∀ b, db.authenticated (some (race.user b)) = some (race.contender b).user
  admin : ∀ b, isOrgAdmin (race.contender b).user = true
  distinct : race.user true ≠ race.user false

/-- The request would pass its checks alone: who asks for the lead has no
collaboration. -/
def Eligible (db : Db) (b : Bool) : Prop :=
  (race.contender b).way = .leader → db.seats race.incident.id (race.user b) = none

/-- The text that this contender logs fits its column. It is logged after the
seat has been taken. -/
def Fits (b : Bool) : Prop :=
  ((race.contender b).message race.incident).length ≤ maxTextLength

/-- The request reads the incident before the other one saves it. -/
def Enters (db : Db) (schedule : List Bool) (b : Bool) : Prop :=
  race.Eligible db b ∧
    (race.Eligible db (!b) → Precedes schedule b 2 (!b) (race.saveTurn (!b)))

def At (db : Db) (past : List Bool) (b : Bool) : Stage → Prop
  | .start => past.count b = 0
  | .signedIn => past.count b = 1
  | .read row =>
    row = race.incident ∧ past.count b = 2 ∧
        (race.Eligible db b → race.Enters db past b) ∨
      row.takenBy ≠ none ∧ row.isResolved = false ∧ 2 ≤ past.count b ∧
        ¬ race.Enters db past b
  | .unseated => (race.contender b).way = .leader ∧ past.count b = 3 ∧ race.Enters db past b
  | .saved => past.count b = race.saveTurn b ∧ race.Enters db past b
  | .looked => (∃ role, (race.contender b).way = .internal role) ∧ past.count b = 4 ∧
      db.seats race.incident.id (race.user b) = none ∧ race.Enters db past b
  | .seated _ => race.saveTurn b < past.count b ∧ past.count b ≤ 5 ∧ race.Enters db past b
  | .reset _ _ => (race.contender b).way = .leader ∧ past.count b = 6 ∧ race.Enters db past b
  | .refused response => response.status = 400 ∧ 2 ≤ past.count b ∧ ¬ race.Enters db past b
  | .answered response => (response.status = 200 ↔ race.Fits b) ∧
      race.saveTurn b < past.count b ∧ race.Enters db past b

end Race

section Order

variable {race : Race} {db : Db} {past : List Bool} {b k : Bool} {st : Stage}

theorem Race.two_lt_saveTurn (race : Race) (b : Bool) : 2 < race.saveTurn b := by
  unfold Race.saveTurn
  cases (race.contender b).way with
  | internal role => exact Nat.lt_succ_self 2
  | leader => decide

theorem Race.Enters.snoc (h : race.Enters db past b) : race.Enters db (past ++ [k]) b :=
  ⟨h.1, fun hother => precedes_snoc.mpr (Or.inl (h.2 hother))⟩

theorem Race.enters_snoc (h : 2 ≤ past.count b) :
    race.Enters db (past ++ [k]) b ↔ race.Enters db past b := by
  unfold Race.Enters
  rw [precedes_snoc_of_le h]

theorem count_snoc_other (past : List Bool) {b k : Bool} (h : k ≠ b) :
    (past ++ [k]).count b = past.count b := by
  rw [List.count_append, List.count_singleton, if_neg (by simpa using h), Nat.add_zero]

theorem count_snoc_self (past : List Bool) (b : Bool) :
    (past ++ [b]).count b = past.count b + 1 := by
  rw [List.count_append, List.count_singleton, if_pos (beq_self_eq_true b)]

theorem Race.At.other (h : race.At db past b st) (hk : k ≠ b) :
    race.At db (past ++ [k]) b st := by
  have hcount := count_snoc_other past hk
  cases st with
  | start | signedIn => exact hcount.trans h
  | read row =>
      rcases h with ⟨rfl, hturn, henters⟩ | ⟨htaken, hopen, hturn, henters⟩
      · exact Or.inl ⟨rfl, hcount.trans hturn, fun heligible => (henters heligible).snoc⟩
      · exact Or.inr ⟨htaken, hopen, hcount ▸ hturn, (enters_snoc hturn).not.mpr henters⟩
  | unseated => exact ⟨h.1, hcount.trans h.2.1, h.2.2.snoc⟩
  | saved => exact ⟨hcount.trans h.1, h.2.snoc⟩
  | looked => exact ⟨h.1, hcount.trans h.2.1, h.2.2.1, h.2.2.2.snoc⟩
  | seated c => exact ⟨hcount ▸ h.1, hcount ▸ h.2.1, h.2.2.snoc⟩
  | reset c n => exact ⟨h.1, hcount.trans h.2.1, h.2.2.snoc⟩
  | refused response =>
      exact ⟨h.1, hcount ▸ h.2.1, (enters_snoc h.2.1).not.mpr h.2.2⟩
  | answered response => exact ⟨h.1, hcount ▸ h.2.1, h.2.2.snoc⟩

theorem Race.At.saved (h : race.At db past b st) (hsaved : st.Saved) :
    race.saveTurn b ≤ past.count b ∧ race.Enters db past b := by
  cases st with
  | saved => exact ⟨Nat.le_of_eq h.1.symm, h.2⟩
  | looked =>
      obtain ⟨⟨role, hway⟩, hturn, -, henters⟩ := h
      have hsave : race.saveTurn b = 3 := by
        unfold Race.saveTurn
        rw [hway]
        rfl
      exact ⟨by omega, henters⟩
  | seated c => exact ⟨Nat.le_of_lt h.1, h.2.2⟩
  | reset c n =>
      obtain ⟨hway, hturn, henters⟩ := h
      have hsave : race.saveTurn b = 4 := by
        unfold Race.saveTurn
        rw [hway]
        rfl
      exact ⟨by omega, henters⟩
  | answered response => exact ⟨Nat.le_of_lt h.2.1, h.2.2⟩
  | start | signedIn | read _ | unseated | refused _ => exact hsaved.elim

theorem Race.At.enters_at_read (hown : past.count b = 1)
    (h : race.At db past (!b) st) (hunsaved : ¬ st.Saved) (heligible : race.Eligible db b) :
    race.Enters db (past ++ [b]) b := by
  refine ⟨heligible, fun hother => precedes_snoc.mpr (Or.inr ⟨rfl, by omega, ?_⟩)⟩
  have hsave := race.two_lt_saveTurn (!b)
  -- the other one, too, comes too late for a request that has not saved
  have hnever (hturn : 2 ≤ past.count (!b)) : race.Enters db past (!b) := by
    refine ⟨hother, fun _ => ?_⟩
    rw [Bool.not_not]
    exact precedes_of_lt (by decide) hturn (by have := race.two_lt_saveTurn b; omega)
  cases st with
  | start => rw [show past.count (!b) = 0 from h]; omega
  | signedIn => rw [show past.count (!b) = 1 from h]; omega
  | read row =>
      rcases h with ⟨-, hturn, -⟩ | ⟨-, -, hturn, hlate⟩
      · rwa [hturn]
      · exact absurd (hnever hturn) hlate
  | unseated =>
      have hleader : race.saveTurn (!b) = 4 := by
        unfold Race.saveTurn
        rw [h.1]
        rfl
      have := h.2.1
      omega
  | refused response => exact absurd (hnever h.2.1) h.2.2
  | saved | looked | seated _ | reset _ _ | answered _ => exact absurd trivial hunsaved

theorem Race.At.late_at_read (hown : past.count b = 1)
    (h : race.At db past (!b) st) (hsaved : st.Saved) :
    ¬ race.Enters db (past ++ [b]) b := by
  intro henters
  obtain ⟨hturn, hother⟩ := h.saved hsaved
  rcases precedes_snoc.mp (henters.2 hother.1) with hbefore | ⟨-, -, hbefore⟩
  · have := hbefore.le_count
    omega
  · omega

end Order

/-! ## The incident -/

/-- The row of the incident: who saved it last has taken it. -/
structure Race.RowAt (race : Race) (past : List Bool) (stage : Bool → Stage) (row : Incident) :
    Prop where
  untouched : (∀ b, ¬ (stage b).Saved) → row = race.incident
  taken : ∀ b, (stage b).Saved → row.etat = .taken ∧ row.takenBy ≠ none
  taker : ∀ b, (stage b).Saved →
    ((stage (!b)).Saved → Precedes past (!b) (race.saveTurn (!b)) b (race.saveTurn b)) →
    row.takenBy = some (race.user b)

section Row

variable {race : Race} {db store : Db} {past : List Bool} {b : Bool} {st : Stage}
  {stage : Bool → Stage} {row : Incident}

theorem forall_bool {p : Bool → Prop} (b : Bool) (h : p b) (h' : p (!b)) : ∀ k, p k := by
  cases b with
  | false => exact fun k => by cases k <;> assumption
  | true => exact fun k => by cases k <;> assumption

theorem update_self : Function.update stage b st b = st := Function.update_self ..

theorem update_not : Function.update stage b st (!b) = stage (!b) :=
  Function.update_of_ne (Bool.not_ne_self b) ..

theorem Race.RowAt.keep (h : race.RowAt past stage row)
    (hat : ∀ k, race.At db past k (stage k)) (hsame : st.Saved ↔ (stage b).Saved) :
    race.RowAt (past ++ [b]) (Function.update stage b st) row := by
  have hsaved : ∀ k, (Function.update stage b st k).Saved ↔ (stage k).Saved :=
    forall_bool b (by rw [update_self, hsame]) (by rw [update_not])
  refine ⟨fun hnone => h.untouched fun k hk => hnone k ((hsaved k).mpr hk),
    fun k hk => h.taken k ((hsaved k).mp hk), fun k hk horder => ?_⟩
  refine h.taker k ((hsaved k).mp hk) fun hother => ?_
  have hturn := ((hat (!k)).saved hother).1
  exact (precedes_snoc_of_le hturn).mp (horder ((hsaved (!k)).mpr hother))

theorem Race.RowAt.save (hat : ∀ k, race.At db past k (stage k)) (hst : st.Saved)
    (hunsaved : past.count b < race.saveTurn b) (hetat : row.etat = .taken)
    (htaker : row.takenBy = some (race.user b)) :
    race.RowAt (past ++ [b]) (Function.update stage b st) row := by
  have hbefore : (stage (!b)).Saved → ¬ Precedes (past ++ [b]) b (race.saveTurn b) (!b)
      (race.saveTurn (!b)) := by
    intro hother horder
    have hturn := ((hat (!b)).saved hother).1
    rcases precedes_snoc.mp horder with hpast | ⟨-, -, hlt⟩
    · have := hpast.le_count
      omega
    · omega
  refine ⟨fun hnone => absurd (update_self ▸ hst) (hnone b), fun k _ => ⟨hetat, by simp [htaker]⟩,
    ?_⟩
  refine forall_bool b (fun _ _ => htaker) fun hother horder => ?_
  rw [update_not] at hother
  rw [Bool.not_not, update_self] at horder
  exact absurd (horder hst) (hbefore hother)

theorem get?_save (x : Contender) {r : Incident} (hrow : store.incidents.get? r.id = some row) :
    ∃ row', (store.saveIncidentFields (x.engaged r) engagedColumns).incidents.get? r.id =
      some row' ∧ row'.etat = .taken ∧ row'.takenBy = some x.user.id := by
  have hopen : (x.engaged r).isFinished = false := rfl
  have hcolumns : (x.engaged r).writeColumns engagedColumns row =
      engagedColumns.foldl (Incident.Column.write (x.engaged r)) row := by
    rw [Incident.writeColumns, Incident.savedColumns, Incident.pinProgress, hopen]
    rfl
  refine ⟨engagedColumns.foldl (Incident.Column.write (x.engaged r)) row, ?_, rfl, rfl⟩
  have hid : r.id = (x.engaged r).id := rfl
  rw [Db.row_writeColumns hrow hid.symm, hcolumns]

end Row

/-! ## The seats -/

/-- The seats after a race, as far as leading goes: nobody loses a seat, and some
users who had none lead. -/
structure SeatsAt (before after : UserId → Option Seat) (seated : UserId → Prop) : Prop where
  leader : ∀ v, after v = some Seat.leader ↔
    before v = some Seat.leader ∨ before v = none ∧ seated v
  free : ∀ v, after v = none ↔ before v = none ∧ ¬ seated v

section Seats

variable {before after : UserId → Option Seat} {seated seated' : UserId → Prop} {u : UserId}

theorem SeatsAt.congr (h : SeatsAt before after seated) (hsame : ∀ v, seated' v ↔ seated v) :
    SeatsAt before after seated' := by
  rwa [show seated' = seated from funext fun v => propext (hsame v)]

theorem SeatsAt.seat (h : SeatsAt before after seated) (hfree : after u = none)
    (hsame : ∀ v, seated' v ↔ seated v ∨ v = u) :
    SeatsAt before (Function.update after u (some Seat.leader)) seated' := by
  have hbefore := (h.free u).mp hfree
  refine ⟨fun v => ?_, fun v => ?_⟩
  · rw [Function.update_apply, hsame]
    split
    · rename_i hv
      subst hv
      exact iff_of_true rfl (Or.inr ⟨hbefore.1, Or.inr rfl⟩)
    · rename_i hv
      rw [h.leader, or_iff_left hv]
  · rw [Function.update_apply, hsame]
    split
    · rename_i hv
      exact iff_of_false nofun fun hfree => hfree.2 (Or.inr hv)
    · rename_i hv
      rw [h.free, or_iff_left hv]

theorem SeatsAt.keep (h : SeatsAt before after seated) (hsome : after u ≠ none)
    (hseated : ¬ seated u) (hsame : ∀ v, seated' v ↔ seated v ∨ v = u) :
    SeatsAt before after seated' := by
  have hbefore : before u ≠ none := fun hnone => hsome ((h.free u).mpr ⟨hnone, hseated⟩)
  refine ⟨fun v => ?_, fun v => ?_⟩
  · rw [h.leader, hsame]
    refine or_congr_right (and_congr_right fun hnone => ?_)
    exact (or_iff_left fun hv : v = u => hbefore (hv ▸ hnone)).symm
  · rw [h.free, hsame]
    refine and_congr_right fun hnone => not_congr ?_
    exact (or_iff_left fun hv : v = u => hbefore (hv ▸ hnone)).symm

/-- Resetting the contributors makes and unmakes no leader. -/
theorem SeatsAt.reset (h : SeatsAt before after seated) :
    SeatsAt before (fun v => (after v).map (Seat.reset u v)) seated := by
  refine ⟨fun v => ?_, fun v => ?_⟩
  · rw [← h.leader, Option.map_eq_some_iff]
    constructor
    · rintro ⟨s, hs, hleader⟩
      rw [hs, Seat.reset_eq_leader hleader]
    · intro hleader
      refine ⟨Seat.leader, hleader, ?_⟩
      exact if_neg fun hcontributor => nomatch hcontributor.2.1
  · rw [← h.free, Option.map_eq_none_iff]

end Seats

/-! ## The invariant -/

/-- Everything about a race after some turns: where the requests are, what the
row of the incident says, and who has a seat, each as the order of the turns
decides it. -/
structure Race.Inv (race : Race) (db : Db) (past : List Bool) (stage : Bool → Stage)
    (c : Pool Db Bool Response) : Prop where
  progs : ∀ b, c.progs b = (race.contender b).rest race.incident (stage b)
  at_ : ∀ b, race.At db past b (stage b)
  users : c.store.users = db.users
  row : ∃ row, c.store.incidents.get? race.incident.id = some row ∧ race.RowAt past stage row
  seats : SeatsAt (db.seats race.incident.id) (c.store.seats race.incident.id)
    fun v => ∃ b, v = race.user b ∧ (stage b).Seated

section Inv

variable {race : Race} {db store : Db} {past : List Bool} {b : Bool} {st : Stage}
  {stage : Bool → Stage} {c : Pool Db Bool Response}

theorem Race.Ready.user_ne (h : race.Ready db) (b : Bool) : race.user (!b) ≠ race.user b := by
  cases b with
  | false => exact h.distinct
  | true => exact h.distinct.symm

theorem seated_update (hst : st.Seated ↔ (stage b).Seated) (v : UserId) :
    (∃ k, v = race.user k ∧ (Function.update stage b st k).Seated) ↔
      ∃ k, v = race.user k ∧ (stage k).Seated := by
  have hsame : ∀ k, (Function.update stage b st k).Seated ↔ (stage k).Seated :=
    forall_bool b (by rw [update_self, hst]) (by rw [update_not])
  exact exists_congr fun k => and_congr_right fun _ => hsame k

theorem seated_update_new (hst : st.Seated) (hbefore : ¬ (stage b).Seated) (v : UserId) :
    (∃ k, v = race.user k ∧ (Function.update stage b st k).Seated) ↔
      (∃ k, v = race.user k ∧ (stage k).Seated) ∨ v = race.user b := by
  constructor
  · rintro ⟨k, rfl, hk⟩
    by_cases hkb : k = b
    · exact Or.inr (congrArg race.user hkb)
    · rw [Function.update_of_ne hkb] at hk
      exact Or.inl ⟨k, rfl, hk⟩
  · rintro (⟨k, rfl, hk⟩ | rfl)
    · have hkb : k ≠ b := fun hkb => hbefore (hkb ▸ hk)
      exact ⟨k, rfl, by rwa [Function.update_of_ne hkb]⟩
    · exact ⟨b, rfl, by rwa [update_self]⟩

theorem not_seated_user (stage : Bool → Stage) (hready : race.Ready db)
    (hbefore : ¬ (stage b).Seated) :
    ¬ ∃ k, race.user b = race.user k ∧ (stage k).Seated := by
  rintro ⟨k, hk, hseated⟩
  by_cases hkb : k = b
  · exact hbefore (hkb ▸ hseated)
  · have hkn : k = !b := Bool.eq_not_of_ne hkb
    exact hready.user_ne b (hkn ▸ hk).symm

/-- A turn of `b` that leads to the stage `st`. What the turn writes is given
by its row and its seats; the other request only sees that the order of turns
has grown. -/
theorem Race.Inv.advance (h : race.Inv db past stage c) (st : Stage)
    (hstep : ((race.contender b).rest race.incident (stage b)).step c.store =
      ((race.contender b).rest race.incident st, store))
    (hat : race.At db (past ++ [b]) b st) (husers : store.users = c.store.users)
    (hrow : ∃ row, store.incidents.get? race.incident.id = some row ∧
      race.RowAt (past ++ [b]) (Function.update stage b st) row)
    (hseats : SeatsAt (db.seats race.incident.id) (store.seats race.incident.id)
      fun v => ∃ k, v = race.user k ∧ (Function.update stage b st k).Seated) :
    ∃ stage', race.Inv db (past ++ [b]) stage' (c.step b) := by
  have hprog : (c.progs b).step c.store = ((race.contender b).rest race.incident st, store) := by
    rw [h.progs b, hstep]
  have hstore : (c.step b).store = store := by rw [Pool.step, hprog]
  refine ⟨Function.update stage b st, ?_, ?_, ?_, ?_, ?_⟩
  · refine forall_bool b ?_ ?_
    · rw [update_self, Pool.step, hprog]
      exact Function.update_self ..
    · rw [update_not, ← h.progs (!b)]
      exact Function.update_of_ne (Bool.not_ne_self b) ..
  · refine forall_bool b (by rwa [update_self]) ?_
    rw [update_not]
    exact (h.at_ (!b)).other (Bool.self_ne_not b)
  · rw [hstore, husers, h.users]
  · rwa [hstore]
  · rwa [hstore]

theorem Race.Inv.advance_idle (h : race.Inv db past stage c) (st : Stage)
    (hstep : ((race.contender b).rest race.incident (stage b)).step c.store =
      ((race.contender b).rest race.incident st, store))
    (hat : race.At db (past ++ [b]) b st) (husers : store.users = c.store.users)
    (hincidents : store.incidents = c.store.incidents) (hseats : store.seats = c.store.seats)
    (hsaved : st.Saved ↔ (stage b).Saved) (hseated : st.Seated ↔ (stage b).Seated) :
    ∃ stage', race.Inv db (past ++ [b]) stage' (c.step b) := by
  obtain ⟨row, hget, hrow⟩ := h.row
  refine h.advance st hstep hat husers ⟨row, by rw [hincidents, hget], hrow.keep h.at_ hsaved⟩ ?_
  rw [hseats]
  exact h.seats.congr (seated_update hseated)

theorem Race.Inv.advance_save (h : race.Inv db past stage c)
    (hstep : ((race.contender b).rest race.incident (stage b)).step c.store =
      ((race.contender b).rest race.incident .saved,
        c.store.saveIncidentFields ((race.contender b).engaged race.incident) engagedColumns))
    (hunseated : ¬ (stage b).Seated) (hturn : past.count b + 1 = race.saveTurn b)
    (henters : race.Enters db past b) :
    ∃ stage', race.Inv db (past ++ [b]) stage' (c.step b) := by
  obtain ⟨row, hget, -⟩ := h.row
  obtain ⟨row', hget', hetat, htaker⟩ := get?_save (race.contender b) hget
  refine h.advance .saved hstep ⟨(count_snoc_self ..).trans hturn, henters.snoc⟩ rfl
    ⟨row', hget', .save h.at_ trivial (by omega) hetat htaker⟩ ?_
  exact h.seats.congr (seated_update (iff_of_false id hunseated))

theorem Race.Inv.advance_seat (h : race.Inv db past stage c) {row : Collaboration}
    (hstep : ((race.contender b).rest race.incident (stage b)).step c.store =
      ((race.contender b).rest race.incident (.seated row), store))
    (hset : Db.SetsSeat c.store store race.incident.id (race.user b) (some Seat.leader))
    (hfree : c.store.seats race.incident.id (race.user b) = none)
    (hsaved : (stage b).Saved) (hunseated : ¬ (stage b).Seated) (hturn : past.count b ≤ 4)
    (henters : race.Enters db past b) :
    ∃ stage', race.Inv db (past ++ [b]) stage' (c.step b) := by
  obtain ⟨incident, hget, hrow⟩ := h.row
  have hown := ((h.at_ b).saved hsaved).1
  have hcount := count_snoc_self past b
  refine h.advance (.seated row) hstep ⟨by omega, by omega, henters.snoc⟩ hset.rows.users
    ⟨incident, by rw [hset.rows.incidents, hget], hrow.keep h.at_ (iff_of_true trivial hsaved)⟩ ?_
  rw [hset.seats_eq]
  exact h.seats.seat hfree (seated_update_new trivial hunseated)

theorem Race.Inv.user? (hready : race.Ready db) (h : race.Inv db past stage c) (b : Bool) :
    c.store.user? (some (race.user b)) = some (race.contender b).user := by
  obtain ⟨-, huser⟩ := authenticated_id (hready.signedIn b)
  unfold Db.user?
  rw [h.users]
  exact huser

theorem create_atomic (hready : race.Ready db) (h : race.Inv db past stage c)
    (hnone : c.store.collaboration? race.incident.id (race.user b) = none) :
    ∃ row store, c.store.createCollaborationAtomic ((race.contender b).engaged race.incident)
        ((race.contender b).collaboration race.incident) = (some row, store) ∧
      Db.SetsSeat c.store store race.incident.id (race.user b) (some Seat.leader) := by
  have hset := Db.setsSeat_createCollaborationAtomic
    ((race.contender b).engaged race.incident)
    (c := (race.contender b).collaboration race.incident) hnone
  have hkept : c.store.receivesAtomic ((race.contender b).engaged race.incident) (race.user b)
      .leader = true := by
    have huser : c.store.user? ((race.contender b).engaged race.incident).takenBy = _ :=
      h.user? hready b
    simp [Db.receivesAtomic, huser]
  have hset' : Db.SetsSeat c.store _ race.incident.id (race.user b)
      (if c.store.receivesAtomic ((race.contender b).engaged race.incident) (race.user b) .leader
        then some Seat.leader else none) := hset
  rw [hkept, if_pos rfl] at hset'
  refine ⟨{ (race.contender b).collaboration race.incident with
    id := c.store.freshCollaborationId }, _, Prod.ext ?_ rfl, hset'⟩
  have hnone' : c.store.collaboration? ((race.contender b).collaboration race.incident).incident
      ((race.contender b).collaboration race.incident).user = none := hnone
  rw [Db.createCollaborationAtomic, hnone']
  rfl

theorem create_alone (hready : race.Ready db) (h : race.Inv db past stage c)
    (hnone : c.store.collaboration? race.incident.id (race.user b) = none) :
    ∃ row store, c.store.createCollaboration ((race.contender b).engaged race.incident)
        ((race.contender b).collaboration race.incident) = (some row, store) ∧
      Db.SetsSeat c.store store race.incident.id (race.user b) (some Seat.leader) := by
  obtain ⟨row, store, hcreate, -, hset⟩ := Db.createNew
    ((race.contender b).engaged race.incident) .leader .accepted hnone
  have hkept : c.store.receives ((race.contender b).engaged race.incident).takenBy (race.user b)
      .leader = true := by
    have huser : c.store.user? ((race.contender b).engaged race.incident).takenBy = _ :=
      h.user? hready b
    simp [Db.receives, huser]
  rw [hkept, if_pos rfl] at hset
  exact ⟨row, store, hcreate, hset⟩

theorem Race.Inv.turn_signedIn (h : race.Inv db past stage c)
    (hst : stage b = .signedIn) : ∃ stage', race.Inv db (past ++ [b]) stage' (c.step b) := by
  obtain ⟨row, hget, hrow⟩ := h.row
  have hat := h.at_ b
  rw [hst] at hat
  have hcount := count_snoc_self past b
  have hown : past.count b = 1 := hat
  refine h.advance_idle (.read row) (hst ▸ step_signedIn hget) ?_ rfl rfl rfl
    (by rw [hst]; rfl) (by rw [hst]; rfl)
  by_cases hother : (stage (!b)).Saved
  · obtain ⟨hetat, htaken⟩ := hrow.taken (!b) hother
    refine Or.inr ⟨htaken, by simp [Incident.isResolved, hetat], by omega, ?_⟩
    exact (h.at_ (!b)).late_at_read hown hother
  · have hnone : ∀ k, ¬ (stage k).Saved := forall_bool b (by rw [hst]; exact id) hother
    refine Or.inl ⟨hrow.untouched hnone, by omega, fun heligible => ?_⟩
    exact (h.at_ (!b)).enters_at_read hown hother heligible

/-- A contender that has read the row decides on what it has read. If it found
the incident free it saves, no matter what has been stored since; that is
where two of them can win. -/
theorem Race.Inv.turn_read (hready : race.Ready db) (h : race.Inv db past stage c)
    {row : Incident} (hst : stage b = .read row) :
    ∃ stage', race.Inv db (past ++ [b]) stage' (c.step b) := by
  have hat := h.at_ b
  rw [hst] at hat
  have hcount := count_snoc_self past b
  rcases hat with ⟨rfl, hturn, henters⟩ | ⟨htaken, hopen, hturn, hlate⟩
  · cases hway : (race.contender b).way with
    | internal role =>
        have heligible : race.Eligible db b := fun hleader => nomatch hway.symm.trans hleader
        refine h.advance_save (hst ▸ step_read_internal hway hready.free) (by rw [hst]; exact id) ?_
          (henters heligible)
        rw [Race.saveTurn, hway, hturn]
        rfl
    | leader =>
        have hfree := h.seats.free (race.user b)
        have hunseated := not_seated_user stage hready (by rw [hst]; exact id)
        cases hseat : c.store.collaboration? race.incident.id (race.user b) with
        | none =>
            have heligible : race.Eligible db b := fun _ =>
              (hfree.mp (congrArg (Option.map Collaboration.seat) hseat)).1
            exact h.advance_idle .unseated
              (hst ▸ step_read_leader hway hready.free hseat)
              ⟨hway, by omega, (henters heligible).snoc⟩ rfl rfl rfl (by rw [hst]; rfl)
              (by rw [hst]; rfl)
        | some existing =>
            have hnot : ¬ race.Enters db (past ++ [b]) b := by
              intro henters'
              have hnone := hfree.mpr ⟨henters'.1 hway, hunseated⟩
              rw [Db.seats, hseat] at hnone
              cases hnone
            have hsome : c.store.collaboration? race.incident.id (race.user b) ≠ none := by
              rw [hseat]
              exact Option.some_ne_none existing
            obtain ⟨response, hstatus, hstep⟩ := step_read_seated (x := race.contender b) hway
              hready.free hsome
            exact h.advance_idle (.refused response) (hst ▸ hstep)
              ⟨hstatus, by omega, hnot⟩ rfl rfl rfl (by rw [hst]; rfl) (by rw [hst]; rfl)
  · obtain ⟨response, hstatus, hstep⟩ := step_read_late c.store (race.contender b)
      race.incident htaken hopen
    exact h.advance_idle (.refused response) (hst ▸ hstep)
      ⟨hstatus, by omega, (enters_snoc hturn).not.mpr hlate⟩ rfl rfl rfl (by rw [hst]; rfl)
      (by rw [hst]; rfl)

/-- After its save a contender takes its seat. The users are distinct, so it
never meets the row that the other one has made. -/
theorem Race.Inv.turn_saved (hready : race.Ready db) (h : race.Inv db past stage c)
    (hst : stage b = .saved) : ∃ stage', race.Inv db (past ++ [b]) stage' (c.step b) := by
  have hat := h.at_ b
  rw [hst] at hat
  obtain ⟨hturn, henters⟩ := hat
  have hcount := count_snoc_self past b
  have hunseated := not_seated_user stage hready
    (show ¬ (stage b).Seated by rw [hst]; exact id)
  cases hway : (race.contender b).way with
  | internal role =>
      have hsave : race.saveTurn b = 3 := by
        rw [Race.saveTurn, hway]
        rfl
      have hstep := step_saved_internal c.store race.incident hway
      cases hseat : c.store.collaboration? race.incident.id (race.user b) with
      | none =>
          rw [← Race.user, hseat] at hstep
          have hnone := ((h.seats.free _).mp (congrArg (Option.map Collaboration.seat) hseat)).1
          exact h.advance_idle .looked (hst ▸ hstep)
            ⟨⟨role, hway⟩, by omega, hnone, henters.snoc⟩ rfl rfl rfl (by rw [hst]; rfl)
            (by rw [hst]; rfl)
      | some row =>
          rw [← Race.user, hseat] at hstep
          obtain ⟨incident, hget, hrow⟩ := h.row
          have hsome : c.store.seats race.incident.id (race.user b) ≠ none := by
            rw [Db.seats, hseat]
            exact Option.some_ne_none row.seat
          exact h.advance (.seated row) (hst ▸ hstep) ⟨by omega, by omega, henters.snoc⟩ rfl
            ⟨incident, hget, hrow.keep h.at_ (by rw [hst]; rfl)⟩
            (h.seats.keep hsome hunseated (seated_update_new trivial (by rw [hst]; exact id)))
  | leader =>
      have hsave : race.saveTurn b = 4 := by
        rw [Race.saveTurn, hway]
        rfl
      have hfree : c.store.seats race.incident.id (race.user b) = none :=
        (h.seats.free _).mpr ⟨henters.1 hway, hunseated⟩
      obtain ⟨row, store, hcreate, hset⟩ := create_alone hready h (Option.map_eq_none_iff.mp hfree)
      exact h.advance_seat (hst ▸ step_saved_leader hway hcreate) hset hfree (by rw [hst]; trivial)
        (by rw [hst]; exact id) (by omega) henters

/-- The turn that creates the collaboration of an internal request. Only the
request itself could have stored one in between. -/
theorem Race.Inv.turn_looked (hready : race.Ready db) (h : race.Inv db past stage c)
    (hst : stage b = .looked) : ∃ stage', race.Inv db (past ++ [b]) stage' (c.step b) := by
  have hat := h.at_ b
  rw [hst] at hat
  obtain ⟨⟨role, hway⟩, hturn, hnone, henters⟩ := hat
  have hfree : c.store.seats race.incident.id (race.user b) = none :=
    (h.seats.free _).mpr ⟨hnone, not_seated_user stage hready (by rw [hst]; exact id)⟩
  obtain ⟨row, store, hcreate, hset⟩ := create_atomic hready h (Option.map_eq_none_iff.mp hfree)
  exact h.advance_seat (hst ▸ step_looked hcreate hway) hset hfree (by rw [hst]; trivial)
    (by rw [hst]; exact id) (by omega) henters

theorem Race.Inv.turn_onSeated (h : race.Inv db past stage c) (row : Collaboration)
    (reset : Option Nat)
    (hrest : (race.contender b).rest race.incident (stage b) =
      (race.contender b).onSeated race.incident row reset)
    (hturn : race.saveTurn b < past.count b) (henters : race.Enters db past b)
    (hseated : (stage b).Seated) : ∃ stage', race.Inv db (past ++ [b]) stage' (c.step b) := by
  have hcount := count_snoc_self past b
  obtain ⟨response, hstatus, hstep⟩ := step_onSeated c.store (race.contender b)
    race.incident row reset
  have hat : race.At db (past ++ [b]) b (.answered response) :=
    ⟨hstatus, by omega, henters.snoc⟩
  rw [← hrest] at hstep
  rcases hstep with hstep | hstep
  · exact h.advance_idle (.answered response) hstep hat rfl rfl rfl
      (iff_of_true trivial hseated.saved) (iff_of_true trivial hseated)
  · have hlogged : (c.store.logAction (race.user b)
        ((race.contender b).message race.incident)).seats = c.store.seats := rfl
    exact h.advance_idle (.answered response) hstep hat rfl rfl hlogged
      (iff_of_true trivial hseated.saved) (iff_of_true trivial hseated)

theorem Race.Inv.turn_seated (h : race.Inv db past stage c) {row : Collaboration}
    (hst : stage b = .seated row) : ∃ stage', race.Inv db (past ++ [b]) stage' (c.step b) := by
  have hat := h.at_ b
  rw [hst] at hat
  obtain ⟨hturn, hbound, henters⟩ := hat
  have hcount := count_snoc_self past b
  cases hway : (race.contender b).way with
  | internal role =>
      refine h.turn_onSeated row none ?_ hturn henters (by rw [hst]; trivial)
      rw [hst, Contender.rest, hway]
  | leader =>
      have hsave : race.saveTurn b = 4 := by
        rw [Race.saveTurn, hway]
        rfl
      obtain ⟨incident, hget, hrow⟩ := h.row
      have hreset := c.store.mapsSeats_reset race.incident.id (race.user b)
      have hstep := step_seated_leader c.store race.incident row hway
      rw [← hst] at hstep
      have hat : race.At db (past ++ [b]) b (.reset row 0) := ⟨hway, by omega, henters.snoc⟩
      refine h.advance _ hstep hat rfl ⟨incident, hget, hrow.keep h.at_ (by rw [hst]; rfl)⟩ ?_
      rw [show ((race.contender b).resetContributors race.incident c.store).2.seats
        race.incident.id = _ from hreset.seats]
      exact h.seats.reset.congr (seated_update (by rw [hst]; rfl))

/-- The invariant of the race, turn by turn. The two contenders only meet in
the row of the incident and in their seats, and the invariant says who has
written these last. -/
theorem Race.Inv.turn (hready : race.Ready db) (h : race.Inv db past stage c) (b : Bool) :
    ∃ stage', race.Inv db (past ++ [b]) stage' (c.step b) := by
  have hat := h.at_ b
  have hcount := count_snoc_self past b
  cases hst : stage b with
  | start =>
      rw [hst] at hat
      have hauth : c.store.authenticated (some (race.user b)) =
          some (race.contender b).user := by
        rw [Db.authenticated, Db.user?, h.users]
        exact hready.signedIn b
      refine h.advance_idle .signedIn (hst ▸ step_start hauth (hready.admin b)) ?_ rfl rfl
        rfl (by rw [hst]; rfl) (by rw [hst]; rfl)
      exact hcount.trans (congrArg (· + 1) hat)
  | signedIn => exact h.turn_signedIn hst
  | read row => exact h.turn_read hready hst
  | unseated =>
      rw [hst] at hat
      obtain ⟨hway, hturn, henters⟩ := hat
      refine h.advance_save (hst ▸ step_unseated hway hready.free) (by rw [hst]; exact id) ?_
        henters
      rw [Race.saveTurn, hway, hturn]
      rfl
  | saved => exact h.turn_saved hready hst
  | looked => exact h.turn_looked hready hst
  | seated row => exact h.turn_seated hst
  | reset row n =>
      rw [hst] at hat
      obtain ⟨hway, hturn, henters⟩ := hat
      refine h.turn_onSeated row (some n) (by rw [hst]; rfl) ?_ henters
        (by rw [hst]; trivial)
      rw [Race.saveTurn, hway, hturn]
      decide
  | refused response =>
      rw [hst] at hat
      refine h.advance_idle (.refused response) (by rw [hst]; rfl) ?_ rfl rfl rfl
        (by rw [hst]) (by rw [hst])
      exact ⟨hat.1, by have := hat.2.1; omega, (enters_snoc hat.2.1).not.mpr hat.2.2⟩
  | answered response =>
      rw [hst] at hat
      refine h.advance_idle (.answered response) (by rw [hst]; rfl) ?_ rfl rfl rfl
        (by rw [hst]) (by rw [hst])
      exact ⟨hat.1, by have := hat.2.1; omega, hat.2.2.snoc⟩

/-- Every schedule does. The induction is on the schedule, from its end, so
the invariant speaks of the turns there have been and never of those to come. -/
theorem Race.Ready.inv (hready : race.Ready db) (schedule : List Bool) :
    ∃ stage, race.Inv db schedule stage ((race.pool db).exec schedule) := by
  induction schedule using List.reverseRecOn with
  | nil =>
      refine ⟨fun _ => .start, fun _ => rfl, fun _ => rfl, rfl, ⟨race.incident, hready.stored, ?_⟩,
        ⟨fun v => ?_, fun v => ?_⟩⟩
      · exact ⟨fun _ => rfl, fun _ h => h.elim, fun _ h => h.elim⟩
      · simp [Stage.Seated, Race.pool, Pool.exec]
      · simp [Stage.Seated, Race.pool, Pool.exec]
  | append_singleton past b ih =>
      obtain ⟨stage, h⟩ := ih
      rw [Pool.exec_snoc]
      exact h.turn hready b

end Inv

end Mapapi
