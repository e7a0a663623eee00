import Mapapi.Race

/-!
# At most one winner

What a finished race leaves (`Race.Ready.finished`), and when it has one winner
(`one_winner_iff`): the requests do not exclude each other, so it depends on the
schedule.

`get_or_create` gives each admin a row of his own, and the row of the incident
is saved without a look at what is stored by then, so the last save decides
who is in `taken_by` while both stay accepted leaders. The exact condition is
therefore one on the order of turns, but for two kinds of request that end in
an error or win without a new row; `Clean` names them.
-/

namespace Mapapi

open Lib

/-! ## The outcome -/

namespace Race

variable (race : Race)

/-- The request was answered as a success, which is what its client takes for
having the incident. -/
def Won (c : Pool Db Bool Response) (b : Bool) : Prop :=
  (c.result b).map Response.status = some 200

/-- At most one request has been answered 200, and its user is the only leader. -/
structure OneWinner (c : Pool Db Bool Response) : Prop where
  unique : ¬ (Won c true ∧ Won c false)
  taker : ∀ b, Won c b →
    (c.store.incidents.get? race.incident.id).map Incident.takenBy = some (some (race.user b))
  leader : ∀ b, Won c b → ∀ v,
    c.store.seats race.incident.id v = some Seat.leader ↔ v = race.user b

/-- A request that enters alone, for a user without a collaboration or with an
accepted leader one, and without another leader. The other request may only enter
when its text does not fit, after its user had a collaboration, and save first. -/
def Clean (db : Db) (schedule : List Bool) : Prop :=
  ∀ b, race.Enters db schedule b → race.Fits b →
    (race.Enters db schedule (!b) → ¬ race.Fits (!b) ∧
      db.seats race.incident.id (race.user (!b)) ≠ none ∧
      Precedes schedule (!b) (race.saveTurn (!b)) b (race.saveTurn b)) ∧
    (db.seats race.incident.id (race.user b) = none ∨
      db.seats race.incident.id (race.user b) = some Seat.leader) ∧
    ∀ v, v ≠ race.user b → db.seats race.incident.id v ≠ some Seat.leader

end Race

section Outcome

variable {race : Race} {db : Db} {schedule : List Bool} {b : Bool} {st : Stage}
  {stage : Bool → Stage} {c : Pool Db Bool Response} {response : Response}

theorem result_read_free {x : Contender} {r : Incident} (hfree : Free r) :
    (x.rest r (.read r)).result = none := by
  cases hway : x.way with
  | internal role =>
      obtain ⟨now, user, way⟩ := x
      subst hway
      simp only [Contender.rest, Contender.onIncident, takeInternal, hfree.isResolved,
        hfree.declared, hfree.nobody, hfree.noMode]
      rfl
  | leader =>
      rw [rest_read_leader hway (by simp [hfree.noMode]) hfree.isResolved]
      rfl

theorem result_unseated {x : Contender} {r : Incident} (hfree : Free r) :
    (x.rest r .unseated).result = none := by
  simp only [Contender.rest, takeLeader, hfree.nobody]
  rfl

theorem result_saved {x : Contender} {r : Incident} : (x.rest r .saved).result = none := by
  obtain ⟨now, user, _ | _⟩ := x <;> rfl

theorem result_onSeated {x : Contender} {r : Incident} {row : Collaboration}
    {reset : Option Nat} (h : (x.onSeated r row reset).result = some response) :
    response.status = 200 ↔ (x.message r).length ≤ maxTextLength := by
  unfold Contender.onSeated createUserAction at h
  split at h
  · cases h
  · rename_i hlong
    cases h
    exact iff_of_false (by decide) hlong

/-- A contender that has its answer has entered the incident or has been late,
and the status of the answer tells which. -/
theorem Race.At.finished (hfree : Free race.incident) (h : race.At db schedule b st)
    (hresult : ((race.contender b).rest race.incident st).result = some response) :
    (race.Enters db schedule b ∧ st.Seated ∧ (response.status = 200 ↔ race.Fits b)) ∨
      ¬ race.Enters db schedule b ∧ ¬ st.Saved ∧ response.status ≠ 200 := by
  cases st with
  | start | signedIn | looked => cases hresult
  | read row =>
      rcases h with ⟨rfl, -, -⟩ | ⟨htaken, hopen, -, hlate⟩
      · rw [result_read_free hfree] at hresult
        cases hresult
      · obtain ⟨response', hstatus, hstep⟩ :=
          step_read_late db (race.contender b) race.incident htaken hopen
        rw [Prog.step_of_result hresult] at hstep
        cases (Prod.mk.inj hstep).1
        exact Or.inr ⟨hlate, id, by rw [hstatus]; decide⟩
  | unseated =>
      rw [result_unseated hfree] at hresult
      cases hresult
  | saved =>
      rw [result_saved] at hresult
      cases hresult
  | seated row =>
      cases hway : (race.contender b).way with
      | internal role =>
          rw [Contender.rest, hway] at hresult
          exact Or.inl ⟨h.2.2, trivial, result_onSeated hresult⟩
      | leader =>
          rw [Contender.rest, hway] at hresult
          cases hresult
  | reset row n => exact Or.inl ⟨h.2.2, trivial, result_onSeated hresult⟩
  | refused response' =>
      cases hresult
      exact Or.inr ⟨h.2.2, id, by rw [h.1]; decide⟩
  | answered response' =>
      cases hresult
      exact Or.inl ⟨h.2.2, trivial, h.1⟩

/-- What a finished race leaves: who has won, who has taken the incident, who
leads. -/
structure Race.Finished (race : Race) (db : Db) (schedule : List Bool)
    (c : Pool Db Bool Response) : Prop where
  won : ∀ b, Won c b ↔ race.Enters db schedule b ∧ race.Fits b
  taker : ∀ b, race.Enters db schedule b →
    (race.Enters db schedule (!b) →
      Precedes schedule (!b) (race.saveTurn (!b)) b (race.saveTurn b)) →
    (c.store.incidents.get? race.incident.id).map Incident.takenBy = some (some (race.user b))
  order : ∀ b, race.Enters db schedule b → race.Enters db schedule (!b) →
    Precedes schedule b (race.saveTurn b) (!b) (race.saveTurn (!b)) ∨
      Precedes schedule (!b) (race.saveTurn (!b)) b (race.saveTurn b)
  leader : ∀ v, c.store.seats race.incident.id v = some Seat.leader ↔
    db.seats race.incident.id v = some Seat.leader ∨
      db.seats race.incident.id v = none ∧ ∃ b, v = race.user b ∧ race.Enters db schedule b

/-- When both contenders have their answers, what they were answered says who
has entered, and the seats are those of who has. -/
theorem Race.Ready.finished (hready : race.Ready db) (schedule : List Bool)
    (hdone : ∀ b, ((race.pool db).exec schedule).result b ≠ none) :
    race.Finished db schedule ((race.pool db).exec schedule) := by
  obtain ⟨stage, hinv⟩ := hready.inv schedule
  have hresult : ∀ b, ∃ response, ((race.pool db).exec schedule).result b = some response ∧
      ((race.contender b).rest race.incident (stage b)).result = some response := by
    intro b
    obtain ⟨response, hresponse⟩ := Option.ne_none_iff_exists'.mp (hdone b)
    exact ⟨response, hresponse, by rw [← hinv.progs b]; exact hresponse⟩
  have hsaved : ∀ b, race.Enters db schedule b ↔ (stage b).Saved := by
    intro b
    obtain ⟨response, -, hrest⟩ := hresult b
    rcases (hinv.at_ b).finished hready.free hrest with ⟨henters, hseated, -⟩ | ⟨hnot, hno, -⟩
    · exact iff_of_true henters hseated.saved
    · exact iff_of_false hnot hno
  have hseated : ∀ b, race.Enters db schedule b ↔ (stage b).Seated := by
    intro b
    obtain ⟨response, -, hrest⟩ := hresult b
    rcases (hinv.at_ b).finished hready.free hrest with ⟨henters, hseated, -⟩ | ⟨hnot, hno, -⟩
    · exact iff_of_true henters hseated
    · exact iff_of_false hnot fun h => hno h.saved
  obtain ⟨row, hget, hrow⟩ := hinv.row
  refine ⟨fun b => ?_, fun b henters horder => ?_, fun b henters hother => ?_, fun v => ?_⟩
  · obtain ⟨response, hresponse, hrest⟩ := hresult b
    rw [Won, hresponse, Option.map_some, Option.some.injEq]
    rcases (hinv.at_ b).finished hready.free hrest with ⟨henters, -, hstatus⟩ | ⟨hnot, -, hno⟩
    · rw [hstatus, and_iff_right henters]
    · exact iff_of_false hno fun h => hnot h.1
  · rw [hget, Option.map_some, hrow.taker b ((hsaved b).mp henters) fun hother =>
      horder ((hsaved (!b)).mpr hother)]
  · refine precedes_or_precedes (Bool.self_ne_not b) ?_ ?_
      ((hinv.at_ b).saved ((hsaved b).mp henters)).1
      ((hinv.at_ (!b)).saved ((hsaved (!b)).mp hother)).1
    · exact Nat.lt_trans (by decide) (race.two_lt_saveTurn b)
    · exact Nat.lt_trans (by decide) (race.two_lt_saveTurn (!b))
  · rw [hinv.seats.leader v]
    simp only [hseated]

end Outcome

/-- Of two requests for a free incident at most one wins, and leads alone, exactly
when no request reads the incident before the other one saves it, apart from what
their users' earlier collaborations and a text that does not fit change. -/
theorem one_winner_iff (race : Race) (db : Db) (hready : race.Ready db) (schedule : List Bool)
    (hdone : ∀ b, ((race.pool db).exec schedule).result b ≠ none) :
    race.OneWinner ((race.pool db).exec schedule) ↔ race.Clean db schedule := by
  have hfinished := hready.finished schedule hdone
  set c := (race.pool db).exec schedule
  constructor
  · intro h b henters hfits
    have hwon : Race.Won c b := (hfinished.won b).mpr ⟨henters, hfits⟩
    refine ⟨fun hother => ⟨fun hfits' => ?_, fun hnone => ?_, ?_⟩, ?_, fun v hv hleader => ?_⟩
    · have hwon' : Race.Won c (!b) := (hfinished.won (!b)).mpr ⟨hother, hfits'⟩
      cases b with
      | false => exact h.unique ⟨hwon', hwon⟩
      | true => exact h.unique ⟨hwon, hwon'⟩
    · have hleader := (hfinished.leader (race.user (!b))).mpr (Or.inr ⟨hnone, _, rfl, hother⟩)
      exact hready.user_ne b ((h.leader b hwon _).mp hleader)
    · refine (hfinished.order b henters hother).resolve_left fun horder => ?_
      have htaker := hfinished.taker (!b) hother (by rw [Bool.not_not]; exact fun _ => horder)
      rw [h.taker b hwon] at htaker
      exact hready.user_ne b (Option.some.inj (Option.some.inj htaker)).symm
    · rcases (hfinished.leader _).mp ((h.leader b hwon _).mpr rfl) with hleader | ⟨hnone, -⟩
      · exact Or.inr hleader
      · exact Or.inl hnone
    · exact hv ((h.leader b hwon v).mp ((hfinished.leader v).mpr (Or.inl hleader)))
  · intro h
    refine ⟨?_, fun b hwon => ?_, fun b hwon v => ?_⟩
    · rintro ⟨hwon, hwon'⟩
      obtain ⟨henters, hfits⟩ := (hfinished.won true).mp hwon
      obtain ⟨henters', hfits'⟩ := (hfinished.won false).mp hwon'
      exact ((h true henters hfits).1 henters').1 hfits'
    · obtain ⟨henters, hfits⟩ := (hfinished.won b).mp hwon
      exact hfinished.taker b henters fun hother => ((h b henters hfits).1 hother).2.2
    · obtain ⟨henters, hfits⟩ := (hfinished.won b).mp hwon
      obtain ⟨hother, hown, halone⟩ := h b henters hfits
      rw [hfinished.leader]
      constructor
      · rintro (hleader | ⟨hnone, k, rfl, hk⟩)
        · exact not_not.mp fun hv => halone v hv hleader
        · by_cases hkb : k = b
          · exact congrArg race.user hkb
          · rw [Bool.eq_not_of_ne hkb] at hnone hk
            exact absurd hnone (hother hk).2.1
      · rintro rfl
        exact hown.elim (fun hnone => Or.inr ⟨hnone, b, rfl, henters⟩) Or.inl

def raceStore : Db :=
  Db.start [{ id := 1, name := "Voirie" }, { id := 2, name := "Eaux" }]
    [.member 2 "voirie@map.ml" .orgAdmin 1, .member 3 "eaux@map.ml" .orgAdmin 2]
    (.new 1 (some "Fuite") "Bamako" "01-02-2025")

/-- User 2 takes the incident for the own organisation, user 3 asks for the lead. -/
def twoAdmins : Race where
  incident := .new 1 (some "Fuite") "Bamako" "01-02-2025"
  contender
    | true => { now := 0, user := .member 2 "voirie@map.ml" .orgAdmin 1, way := .internal .unknown }
    | false => { now := 1, user := .member 3 "eaux@map.ml" .orgAdmin 2, way := .leader }

theorem twoAdmins_ready : twoAdmins.Ready raceStore where
  stored := rfl
  free := ⟨rfl, rfl, rfl⟩
  signedIn := by decide
  admin := by decide
  distinct := by decide

theorem one_winner_twoAdmins :
    twoAdmins.OneWinner ((twoAdmins.pool raceStore).exec
      (List.replicate 7 true ++ List.replicate 7 false)) := by
  refine (one_winner_iff twoAdmins raceStore twoAdmins_ready _ ?_).mpr ?_
  · decide
  · have hlate : ¬ twoAdmins.Enters raceStore (List.replicate 7 true ++ List.replicate 7 false)
        false := by
      intro h
      exact absurd (h.2 nofun) (by decide)
    intro b henters hfits
    cases b with
    | false => exact absurd henters hlate
    | true => exact ⟨fun h => absurd h hlate, Or.inl rfl, fun v _ => nofun⟩

def racingSchedule : List Bool :=
  [true, false, true, false] ++ List.replicate 5 true ++ List.replicate 5 false

theorem two_winners :
    twoAdmins.Ready raceStore ∧
      (∀ b, ((twoAdmins.pool raceStore).exec racingSchedule).result b ≠ none) ∧
      ¬ twoAdmins.OneWinner ((twoAdmins.pool raceStore).exec racingSchedule) := by
  refine ⟨twoAdmins_ready, by decide, fun h => h.unique ?_⟩
  exact ⟨by unfold Race.Won; decide, by unfold Race.Won; decide⟩

end Mapapi
