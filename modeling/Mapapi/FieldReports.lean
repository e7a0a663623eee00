import Mapapi.Dispatch
import Mathlib.Algebra.Order.Ring.Int

/-!
# Reports from the field

`FieldReportListCreateView.create` and `FieldReportSerializer`. An agent who is
assigned to an incident reports a visit; the serializer is meant to measure how far
the agent is from the incident, to refuse the report from more than a hundred metres
and to store the distance.

Numbers are those of any linear order with a zero. Python's `float` and the
haversine formula are parameters (`Geo`).

The block that measures begins with `if incident`, and looks the incident up
in the validated data. The view passes it to `save()` later, so on a creation
there is none, and what is stored is the distance that the client has sent.
-/

namespace Mapapi

open Lib

/-! ## Distances -/

/-- What the serializer computes with. -/
structure Geo (F : Type) where
  /-- `float(text)`; none where it raises `ValueError`. -/
  float : String → Option F
  /-- The great-circle distance of two points, in metres. -/
  dist : F × F → F × F → F
  /-- The hundred metres. -/
  limit : F
  /-- A number as `:.0f` prints it. -/
  rounded : F → String

section Reports

variable {F : Type} [LinearOrder F] [Zero F]

namespace Geo

/-- `float(text) if text else None`. The outer `none` is the `ValueError`. -/
def coordinate (geo : Geo F) (text : Option String) : Option (Option F) :=
  match presentText text with
  | none => some none
  | some text => (geo.float text).map some

/-- Python's truth of a number or None. -/
def truth (x : Option F) : Option F := x.filter fun x => decide (x ≠ 0)

/-- The distance the block computes. It computes none when `float` raises, which is
caught, or when a coordinate is None or zero. -/
def measure (geo : Geo F) (incLat incLon agentLat agentLon : Option String) : Option F := do
  let incLat ← geo.coordinate incLat
  let incLon ← geo.coordinate incLon
  let agentLat ← geo.coordinate agentLat
  let agentLon ← geo.coordinate agentLon
  return geo.dist (← truth incLat, ← truth incLon) (← truth agentLat, ← truth agentLon)

def between (geo : Geo F) (incLat incLon agentLat agentLon : Option String) : Option F := do
  let place := (← incLat.bind geo.float, ← incLon.bind geo.float)
  return geo.dist place (← agentLat.bind geo.float, ← agentLon.bind geo.float)

end Geo

/-! ## The rows -/

structure FieldReport (F : Type) where
  id : Nat
  agent : UserId
  incident : IncidentId
  locationLat : Option String
  locationLon : Option String
  distanceMeters : Option F
  notes : Option String
  photo : Option String
  visitedAt : Instant

structure ReportDb (F : Type) extends FieldDb where
  lattitude : IncidentId → Option String
  longitude : IncidentId → Option String
  reports : List (FieldReport F)

/-! ## FieldReportSerializer -/

/-- The fields of the body. `incident` and `incident_id` are read by the view; for the
serializer `agent`, `incident` and `visited_at` are read-only. -/
structure ReportData (F : Type) where
  incident : RawId
  incidentId : RawId
  locationLat : Arg String
  locationLon : Arg String
  distanceMeters : Arg F
  notes : Arg String
  photo : Arg String

/-- The coordinates are texts in this model and in the source. Whether they
are numbers is left to `validate`. -/
def reportFieldErrors (data : ReportData F) : List FieldError :=
  fieldErrors
    [("location_lat", nullableProblem 250 data.locationLat.stripped),
      ("location_lon", nullableProblem 250 data.locationLon.stripped),
      ("distance_meters", parsedProblem data.distanceMeters),
      ("notes", nullableProblem 1000 data.notes.stripped),
      ("photo", parsedProblem data.photo)]

structure ReportValues (F : Type) where
  agent : Option User
  incident : Option Incident
  locationLat : Option String
  locationLon : Option String
  distanceMeters : Option F
  notes : Option String
  photo : Option String

/-- What the fields leave in the validated data: nothing for the read-only ones. -/
def ReportData.values (data : ReportData F) : ReportValues F where
  agent := none
  incident := none
  locationLat := data.locationLat.stripped.toOption
  locationLon := data.locationLon.stripped.toOption
  distanceMeters := data.distanceMeters.toOption
  notes := data.notes.stripped.toOption
  photo := data.photo.toOption

/-- `FieldReportSerializer.validate`, for a new report. -/
def validateReport (geo : Geo F) (s : ReportDb F) (requester : User) (data : ReportValues F) :
    Except String (ReportValues F) :=
  let agent := data.agent.getD requester
  if agent.orgRole ≠ some .fieldAgent then
    .error "Seuls les agents de terrain peuvent créer des rapports de déplacement."
  else
    match data.incident with
    | none => .ok data
    | some incident =>
      if (s.assignments.get? (incident.id, agent.id)).isNone then
        .error "Vous ne pouvez créer un rapport que pour un incident qui vous est assigné."
      else
        match geo.measure (s.lattitude incident.id) (s.longitude incident.id) data.locationLat
            data.locationLon with
        | none => .ok data
        | some distance =>
          if geo.limit < distance then
            .error ("Vous devez être sur le lieu de l'incident (distance calculée: " ++
              geo.rounded distance ++ "m).")
          else .ok { data with distanceMeters := some distance }

/-! ## FieldReportListCreateView.create -/

def ReportDb.storeReport (s : ReportDb F) (row : FieldReport F) : ReportDb F :=
  { s with
    reports := s.reports ++ [row]
    assignments := s.assignments.update (row.incident, row.agent)
      fun a => { a with status := .reported } }

/-- The incident is the one that the view has looked up and the agent comes
from the session; the body gives the rest, the distance included. -/
def ReportDb.newReport (s : ReportDb F) (now : Instant) (user : User) (incident : Incident)
    (values : ReportValues F) : FieldReport F where
  id := above (s.reports.map FieldReport.id)
  agent := user.id
  incident := incident.id
  locationLat := values.locationLat
  locationLon := values.locationLon
  distanceMeters := values.distanceMeters
  notes := values.notes
  photo := values.photo
  visitedAt := now

/-- `request.data.get('incident') or request.data.get('incident_id')`. -/
def ReportData.target (data : ReportData F) : RawId :=
  match data.incident with
  | .absent => data.incidentId
  | id => id

/-- `FieldReportListCreateView.create`. The view looks the incident and the
assignment up, the serializer checks the fields; the incident reaches the row
through `save(incident=...)` only. -/
def ReportDb.createReport (geo : Geo F) (s : ReportDb F) (now : Instant) (auth : Option UserId)
    (data : ReportData F) : Except Response (FieldReport F × ReportDb F) :=
  match s.db.authenticated auth with
  | none => .error .unauthorized
  | some user =>
    match data.target with
    | .malformed => .error .crash
    | .absent => .error (.error 404 incidentNotFound)
    | .uuid i =>
      match s.db.incidents.get? i with
      | none => .error (.error 404 incidentNotFound)
      | some incident =>
        if user.orgRole ≠ some .fieldAgent then
          .error (.error 403 "Seuls les agents de terrain peuvent créer des rapports.")
        else if (s.assignments.get? (incident.id, user.id)).isNone then
          .error (.error 403 "Cet incident ne vous est pas assigné.")
        else
          match reportFieldErrors data with
          | [] =>
            match validateReport geo s user data.values with
            | .error message =>
              .error (.invalid [{ field := "non_field_errors", problem := .text message }])
            | .ok values =>
              let row := s.newReport now user incident values
              .ok (row, s.storeReport row)
          | errors => .error (.invalid errors)

/-! ## What is stored -/

variable {geo : Geo F} {s : ReportDb F} {now : Instant} {auth : Option UserId} {user : User}
  {incident : Incident} {data : ReportData F}

/-- Where the block runs, a report that passes is from nearby and holds the distance. -/
theorem validateReport_near {values validated : ReportValues F} {distance : F}
    (hincident : values.incident = some incident)
    (hdistance : geo.measure (s.lattitude incident.id) (s.longitude incident.id)
      values.locationLat values.locationLon = some distance)
    (h : validateReport geo s user values = .ok validated) :
    distance ≤ geo.limit ∧ validated.distanceMeters = some distance := by
  unfold validateReport at h
  simp only [hincident, hdistance] at h
  split at h
  · cases h
  · split at h
    · cases h
    · split at h
      · cases h
      · rename_i hnear
        cases h
        exact ⟨not_lt.mp hnear, rfl⟩

/-- Without an incident in the validated data, the serializer measures nothing. -/
theorem validateReport_values (hrole : user.orgRole = some .fieldAgent) :
    validateReport geo s user data.values = .ok data.values := by
  simp [validateReport, ReportData.values, hrole]

/-- The request is one of a field agent who is assigned to the incident, with
well formed fields: what has to hold for the distance to be the only question
left. -/
structure ReportDb.Accepts (s : ReportDb F) (user : User) (data : ReportData F)
    (incident : Incident) : Prop where
  target : data.target = .uuid incident.id
  known : s.db.incidents.get? incident.id = some incident
  role : user.orgRole = some .fieldAgent
  assigned : (s.assignments.get? (incident.id, user.id)).isSome = true
  fields : reportFieldErrors data = []

/-- A report is stored exactly if the requester may report on that incident
and the fields are valid. The distance is not among the conditions: on a
creation the serializer does not know the incident yet. -/
theorem createReport_ok_iff {out : FieldReport F × ReportDb F}
    (hauth : s.db.authenticated auth = some user) :
    s.createReport geo now auth data = .ok out ↔
      ∃ incident, s.Accepts user data incident ∧
        out.1 = s.newReport now user incident data.values ∧ out.2 = s.storeReport out.1 := by
  unfold ReportDb.createReport
  simp only [hauth]
  constructor
  · intro h
    split at h
    · cases h
    · cases h
    · rename_i i htarget
      split at h
      · cases h
      · rename_i incident hknown
        have hid : incident.id = i := Table.key_of_get? hknown
        subst hid
        split at h
        · cases h
        · rename_i hrole
          split at h
          · cases h
          · rename_i hassigned
            have hrole := not_not.mp hrole
            split at h
            · rename_i hfields
              rw [validateReport_values hrole] at h
              cases h
              exact ⟨incident, ⟨htarget, hknown, hrole, by simpa [Option.isSome_iff_ne_none,
                Option.isNone_iff_eq_none] using hassigned, hfields⟩, rfl, rfl⟩
            · cases h
  · rintro ⟨incident, ⟨htarget, hknown, hrole, hassigned, hfields⟩, hrow, hstore⟩
    obtain ⟨assignment, hassigned⟩ := Option.isSome_iff_exists.mp hassigned
    simp only [htarget, hknown, hrole, ne_eq, not_true_eq_false, if_false, hassigned,
      Option.isNone_some, Bool.false_eq_true, hfields, validateReport_values hrole]
    obtain ⟨row, db⟩ := out
    dsimp only at hrow hstore
    subst hrow hstore
    rfl

def ReportDb.reportedDistance (geo : Geo F) (s : ReportDb F) (data : ReportData F)
    (incident : Incident) : Option F :=
  geo.between (s.lattitude incident.id) (s.longitude incident.id)
    data.locationLat.stripped.toOption data.locationLon.stripped.toOption

/-- The report is from the place of the incident, and its distance is not one that the
client has made up. -/
structure OnSite (geo : Geo F) (s : ReportDb F) (data : ReportData F) (row : FieldReport F) :
    Prop where
  near : ∀ distance, geo.between (s.lattitude row.incident) (s.longitude row.incident)
      row.locationLat row.locationLon = some distance →
    distance ≤ geo.limit ∧ row.distanceMeters = some distance
  measured : ∀ supplied, data.distanceMeters = .value supplied →
    row.distanceMeters = some supplied →
      geo.between (s.lattitude row.incident) (s.longitude row.incident) row.locationLat
        row.locationLon = some supplied

omit [Zero F] in
theorem onSite_newReport_iff :
    OnSite geo s data (s.newReport now user incident data.values) ↔
      data.distanceMeters.toOption = s.reportedDistance geo data incident ∧
        ∀ distance, s.reportedDistance geo data incident = some distance →
          distance ≤ geo.limit := by
  constructor
  · rintro ⟨hnear, hmeasured⟩
    refine ⟨?_, fun distance hdistance => (hnear distance hdistance).1⟩
    cases hdistance : s.reportedDistance geo data incident with
    | some distance => exact (hnear distance hdistance).2
    | none =>
        cases hsent : data.distanceMeters with
        | value supplied =>
            have hrow : (s.newReport now user incident data.values).distanceMeters =
                some supplied := congrArg Arg.toOption hsent
            have hsupplied : s.reportedDistance geo data incident = some supplied :=
              hmeasured supplied hsent hrow
            rw [hdistance] at hsupplied
            cases hsupplied
        | absent => rfl
        | null => rfl
        | invalid => rfl
  · rintro ⟨hsent, hnear⟩
    refine ⟨fun distance hdistance => ⟨hnear distance hdistance, hsent.trans hdistance⟩,
      fun supplied _ hrow => hsent.symm.trans hrow⟩

/-- What is stored is a report from the place exactly when the client itself
has sent the right distance and it is small enough, or has sent none where
there is none to measure. The serializer, which should measure the distance,
leaves it to the client. -/
theorem reports_on_site_iff (geo : Geo F) (s : ReportDb F) (now : Instant)
    (auth : Option UserId) (user : User) (data : ReportData F)
    (hauth : s.db.authenticated auth = some user) :
    (∀ out, s.createReport geo now auth data = .ok out → OnSite geo s data out.1) ↔
      ∀ incident, s.Accepts user data incident →
        data.distanceMeters.toOption = s.reportedDistance geo data incident ∧
          ∀ distance, s.reportedDistance geo data incident = some distance →
            distance ≤ geo.limit := by
  constructor
  · intro h incident haccepts
    exact onSite_newReport_iff.mp (h (_, s.storeReport _)
      ((createReport_ok_iff hauth).mpr ⟨incident, haccepts, rfl, rfl⟩))
  · intro h out hrun
    obtain ⟨incident, haccepts, hrow, -⟩ := (createReport_ok_iff hauth).mp hrun
    rw [hrow]
    exact onSite_newReport_iff.mpr (h incident haccepts)

end Reports

def digits (text : String) : Option Int :=
  if text.toList.isEmpty || !text.toList.all Char.isDigit then none
  else some (text.toList.foldl (fun n c => 10 * n + (c.toNat - 48)) 0)

/-- Whole degrees along one meridian, a hundred kilometres each. -/
def wholeDegrees : Geo Int where
  float := digits
  dist place agent := (place.1 - agent.1).natAbs * 100000
  limit := 100
  rounded := toString

/-- Incident 1 is at 12 degrees north, and agent 3 is assigned to it. -/
def reportStore : ReportDb Int where
  toFieldDb := dispatchStore
  lattitude _ := some "12"
  longitude _ := some "8"
  reports := []

def reportFrom (lat : String) (distance : Arg Int) : ReportData Int where
  incident := .uuid 1
  incidentId := .absent
  locationLat := .value lat
  locationLon := .value "8"
  distanceMeters := distance
  notes := .absent
  photo := .absent

theorem reports_on_site_there :
    ∃ out, reportStore.createReport wholeDegrees 0 (some 3) (reportFrom "12" (.value 0)) =
      .ok out ∧ OnSite wholeDegrees reportStore (reportFrom "12" (.value 0)) out.1 := by
  refine ⟨_, rfl, (reports_on_site_iff wholeDegrees reportStore 0 (some 3)
    (.member 3 "agent@voirie.ml" .fieldAgent 1) (reportFrom "12" (.value 0)) (by decide)).mpr
      ?_ _ rfl⟩
  intro incident _
  have hdistance : reportStore.reportedDistance wholeDegrees (reportFrom "12" (.value 0))
      incident = some 0 := by
    show wholeDegrees.between (some "12") (some "8") (some "12") (some "8") = some 0
    decide
  rw [hdistance]
  refine ⟨rfl, fun distance hsome => ?_⟩
  cases hsome
  decide

/-- Two degrees away the agent claims to be five metres away, and the row says so. -/
theorem report_from_afar :
    ∃ out, reportStore.createReport wholeDegrees 0 (some 3) (reportFrom "14" (.value 5)) =
        .ok out ∧ out.1.distanceMeters = some 5 ∧
      ¬ OnSite wholeDegrees reportStore (reportFrom "14" (.value 5)) out.1 := by
  refine ⟨_, rfl, rfl, fun h => ?_⟩
  have := (h.near 200000 (by decide)).1
  revert this
  decide

end Mapapi
