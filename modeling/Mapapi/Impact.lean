import Mapapi.Lib.Aggregate
import Mapapi.Predictions
import Mapapi.PublicViews

/-!
# The impact figures

`ImpactView` reports how many people and structures the incidents of a scope concern.
A scope has a status (resolved incidents, incidents in charge with a task done, or
both), a period, and an organisation unless the platform as a whole is asked for. The
figures are counts of incidents and sums over their predictions, some computed by the
database and some by a loop.

Every figure is a sum over the incidents and the predictions of what each of them
contributes (`figure_eq_sumOver`). So figures add up as scopes do.

Adding up over organisations needs each incident in one group. The filter
compares the organisation of the user in `taken_by`, so an incident has one or
none, and the ones that have none are a group of their own.
-/

namespace Mapapi

open Lib

/-! ## The scope -/

structure ImpactStore where
  db : Db
  createdAt : IncidentId → Instant
  predictions : Table Prediction

/-- The parameters of a request. The status is in lower case; an absent or empty one is
`all`. -/
structure ImpactParams where
  status : String
  filterType : Option String
  period : Option String
  customStart : DateParam
  customEnd : DateParam

/-- `filter_type`, or else `period`. -/
def ImpactParams.window (p : ImpactParams) : Option String :=
  (presentText p.filterType).or (presentText p.period)

/-- Both ends of the range are given, and one is not a date. -/
def ImpactParams.malformedRange (p : ImpactParams) : Bool :=
  decide (p.window = some "custom_range" ∧ p.customStart ≠ .absent ∧ p.customEnd ≠ .absent ∧
    (p.customStart = .malformed ∨ p.customEnd = .malformed))

/-- `_apply_period`, of a row created on the day `d`. A window that is not
known filters nothing, and neither does a range with an end missing. -/
def applyPeriod (now : Instant) (p : ImpactParams) (d : Date) : Bool :=
  let today := now.date
  match p.window with
  | some "today" => decide (d = today)
  | some "yesterday" => decide (d = today - 1)
  | some "last_7_days" => decide (today - 7 ≤ d)
  | some "last_30_days" => decide (today - 30 ≤ d)
  | some "this_month" => decide (d.year = today.year ∧ d.month = today.month)
  | some "last_month" =>
      let month := if today.month - 1 = 0 then 12 else today.month - 1
      let year := if today.month > 1 then today.year else today.year - 1
      decide (d.year = year ∧ d.month = month)
  | some "custom_range" =>
      match p.customStart, p.customEnd with
      | .date start, .date stop => decide (start ≤ d ∧ d ≤ stop)
      | _, _ => true
  | _ => true

def resolvedEtats : List Etat := [.resolved, .resolvedDefinitive]

/-- The report counts the two closed states. The map counts incidents in
validation as well (`resolvedStates`). -/
def resolvedQ (row : Incident) : Bool := decide (row.etat ∈ resolvedEtats)

/-- Action has been taken on an open incident if somebody is in charge of it
and a task of it is done. -/
def takenActionQ (actedIds : List IncidentId) (row : Incident) : Bool :=
  !decide (row.etat ∈ resolvedEtats) && row.takenBy.isSome && decide (row.id ∈ actedIds)

/-- The filter of a status, under any of its names; whatever else is sent
stands for both filters together. -/
def statusQ (statut : String) (actedIds : List IncidentId) (row : Incident) : Bool :=
  if statut ∈ ["resolved", "resolu", "résolu", "resolus"] then resolvedQ row
  else if statut ∈ ["taken_action", "taken_with_action", "pris_en_compte", "action"] then
    takenActionQ actedIds row
  else resolvedQ row || takenActionQ actedIds row

namespace ImpactStore

def takenByMember (s : ImpactStore) (org : OrganisationId) (row : Incident) : Bool :=
  (s.db.user? row.takenBy).any fun user => decide (user.organisationMember = some org)

def baseQ (s : ImpactStore) (now : Instant) (p : ImpactParams) (org : Option OrganisationId)
    (row : Incident) : Bool :=
  !row.isDeleted && applyPeriod now p (s.createdAt row.id).date &&
    org.all fun org => s.takenByMember org row

def actedIds (s : ImpactStore) : List IncidentId :=
  (s.db.tasks.select fun task => decide (task.state = .done)).map IncidentTask.incident

def scopeQ (s : ImpactStore) (now : Instant) (p : ImpactParams) (org : Option OrganisationId)
    (row : Incident) : Bool :=
  s.baseQ now p org row && statusQ p.status s.actedIds row

/-- The incidents that all figures of a report are about; each figure counts
among these. -/
def impactScope (s : ImpactStore) (now : Instant) (p : ImpactParams)
    (org : Option OrganisationId) : List Incident :=
  s.db.incidents.select (s.scopeQ now p org)

end ImpactStore

/-! ## The figures -/

/-- The accumulators of the loop over the predictions. -/
structure ImpactTotals where
  indirect : ExposedGroup → Int
  infraDirect : InfraType → Int
  infraIndirect : InfraType → Int

def ImpactTotals.zero : ImpactTotals := ⟨fun _ => 0, fun _ => 0, fun _ => 0⟩

/-- One round of the loop. A key that `full_response` does not have counts as 0. -/
def ImpactTotals.add (totals : ImpactTotals) (pr : Prediction) : ImpactTotals where
  indirect group := totals.indirect group + (pr.fullResponse.indirectHumanImpact group).getD 0
  infraDirect type := totals.infraDirect type + pr.infrastructure type
  infraIndirect type := totals.infraIndirect type + (pr.fullResponse.indirectSocialData type).getD 0

/-- The figures that every caller gets: two counts of incidents, and sums over
the predictions, direct and indirect, by group of people and by kind of
structure. -/
structure ImpactFigures where
  incidentsInScope : Nat
  incidentsWithPrediction : Nat
  direct : ExposedGroup → Int
  indirect : ExposedGroup → Int
  infraTotal : Int
  infraByType : InfraType → Int
  infraIndirectByType : InfraType → Int

def ImpactStore.preds (s : ImpactStore) (scopeIds : List IncidentId) : List Prediction :=
  s.predictions.select fun pr =>
    pr.incident.any (fun i => decide (i ∈ scopeIds)) && pr.status.isCompleted

def ImpactStore.figures (s : ImpactStore) (scope : List Incident) : ImpactFigures :=
  let scopeIds := scope.map Incident.id
  let preds := s.preds scopeIds
  let totals := preds.foldl ImpactTotals.add .zero
  { incidentsInScope := scopeIds.length
    incidentsWithPrediction := preds.length
    direct := fun group => (preds.map fun pr => pr.exposed group).sum
    indirect := totals.indirect
    infraTotal := (infraTypes.map totals.infraDirect).sum
    infraByType := totals.infraDirect
    infraIndirectByType := totals.infraIndirect }

def ImpactStore.report (s : ImpactStore) (now : Instant) (p : ImpactParams)
    (org : Option OrganisationId) : ImpactFigures :=
  s.figures (s.impactScope now p org)

/-! ## The view -/

/-- `impact_role`: the organisation to which the figures are restricted, none for a
super admin, or the message that access is refused with. -/
def impactRole (db : Db) (user : User) : Except String (Option Organisation) :=
  if isSuperAdmin user then .ok none
  else if isOrgAdmin user || isBureauAgent user then
    match db.organisationOf user with
    | none => .error "Aucune organisation associée à ce compte."
    | some organisation => .ok (some organisation)
  else
    .error "Réservé au super admin et aux admins / agents de bureau d'organisation."

structure ImpactPayload where
  organisation : Option String
  status : String
  period : String
  figures : ImpactFigures

inductive ImpactAnswer where
  | ok (payload : ImpactPayload)
  | unauthorized
  /-- 403. -/
  | forbidden (message : String)
  | crash

/-- `ImpactView.get`. A range whose ends are no dates makes the query raise. -/
def impactView (now : Instant) (auth : Option UserId) (p : ImpactParams) (s : ImpactStore) :
    ImpactAnswer :=
  match s.db.authenticated auth with
  | none => .unauthorized
  | some user =>
    match impactRole s.db user with
    | .error message => .forbidden message
    | .ok org =>
      if p.malformedRange then .crash
      else .ok
        { organisation := org.map Organisation.name
          status := p.status
          period := p.window.getD "all"
          figures := s.report now p (org.map Organisation.id) }

/-- Whoever gets figures gets those of the scope of their role. -/
theorem impactView_ok {s : ImpactStore} {now : Instant} {auth : Option UserId} {p : ImpactParams}
    {payload : ImpactPayload} (h : impactView now auth p s = .ok payload) :
    ∃ user org, s.db.authenticated auth = some user ∧ impactRole s.db user = .ok org ∧
      payload.figures = s.report now p (org.map Organisation.id) := by
  unfold impactView at h
  cases hauth : s.db.authenticated auth with
  | none =>
      rw [hauth] at h
      cases h
  | some user =>
      simp only [hauth] at h
      cases hrole : impactRole s.db user with
      | error message =>
          rw [hrole] at h
          cases h
      | ok org =>
          simp only [hrole] at h
          split at h
          · cases h
          · cases h
            exact ⟨user, org, rfl, hrole, rfl⟩

/-! ## Figures as sums -/

/-- The figures that a report adds up, as one type, so that what is proved
about sums is proved once and not for each key of the answer. -/
inductive Figure where
  | incidentsInScope
  | incidentsWithPrediction
  | direct (group : ExposedGroup)
  | indirect (group : ExposedGroup)
  | infraTotal
  | infraByType (type : InfraType)
  | infraIndirectByType (type : InfraType)

def ImpactFigures.value (figures : ImpactFigures) : Figure → Int
  | .incidentsInScope => figures.incidentsInScope
  | .incidentsWithPrediction => figures.incidentsWithPrediction
  | .direct group => figures.direct group
  | .indirect group => figures.indirect group
  | .infraTotal => figures.infraTotal
  | .infraByType type => figures.infraByType type
  | .infraIndirectByType type => figures.infraIndirectByType type

def Figure.ofIncident : Figure → Int
  | incidentsInScope => 1
  | _ => 0

/-- What one completed prediction contributes to a figure. The direct figures
read columns of the prediction, the indirect ones keys of the answer it was
filled from, where a missing key counts as 0. -/
def Figure.ofPrediction : Figure → Prediction → Int
  | incidentsInScope, _ => 0
  | incidentsWithPrediction, _ => 1
  | direct group, pr => pr.exposed group
  | indirect group, pr => (pr.fullResponse.indirectHumanImpact group).getD 0
  | infraTotal, pr => (infraTypes.map pr.infrastructure).sum
  | infraByType type, pr => pr.infrastructure type
  | infraIndirectByType type, pr => (pr.fullResponse.indirectSocialData type).getD 0

def ImpactStore.about (s : ImpactStore) (q : Incident → Bool) (pr : Prediction) : Bool :=
  (pr.incident.bind s.db.incidents.get?).any q && pr.status.isCompleted

variable {s : ImpactStore} {now : Instant} {p : ImpactParams} {q q' : Incident → Bool}
  {figure : Figure}

theorem mem_map_id_select (s : ImpactStore) (i : IncidentId) :
    decide (i ∈ (s.db.incidents.select q).map Incident.id) = (s.db.incidents.get? i).any q := by
  rw [Bool.eq_iff_iff, decide_eq_true_eq, List.mem_map, Option.any_eq_true]
  constructor
  · rintro ⟨row, hmem, rfl⟩
    exact ⟨row, Table.mem_select.mp hmem⟩
  · rintro ⟨row, hrow, hq⟩
    have hid : row.id = i := Table.key_of_get? hrow
    subst hid
    exact ⟨row, Table.mem_select.mpr ⟨hrow, hq⟩, rfl⟩

theorem preds_select (s : ImpactStore) (q : Incident → Bool) :
    s.preds ((s.db.incidents.select q).map Incident.id) =
      s.predictions.rows.filter (s.about q) := by
  refine List.filter_congr fun pr _ => ?_
  unfold ImpactStore.about
  cases pr.incident with
  | none => rfl
  | some i => rw [Option.any_some, mem_map_id_select, Option.bind_some]

/-- Every figure is a sum of what the incidents and the predictions contribute. -/
theorem figure_eq_sumOver :
    (s.figures (s.db.incidents.select q)).value figure =
      sumOver s.db.incidents.rows q (fun _ => figure.ofIncident) +
        sumOver s.predictions.rows (s.about q) figure.ofPrediction := by
  have hloop {g : ImpactTotals → Int} {f : Prediction → Int}
      (hstep : ∀ totals pr, g (totals.add pr) = g totals + f pr) (hzero : g .zero = 0) :
      g ((s.predictions.rows.filter (s.about q)).foldl ImpactTotals.add .zero) =
        sumOver s.predictions.rows (s.about q) f := by
    rw [foldl_sum hstep, hzero, zero_add]
    rfl
  have hnone {ρ : Type} (l : List ρ) (r : ρ → Bool) : sumOver l r (fun _ => (0 : Int)) = 0 := by
    unfold sumOver
    simp
  have hpredictionsOnly (figure : Figure) (h : figure.ofIncident = 0) (x : Int) :
      sumOver s.db.incidents.rows q (fun _ => figure.ofIncident) + x = x := by
    rw [h, hnone, zero_add]
  unfold ImpactStore.figures
  dsimp only
  rw [preds_select]
  cases figure with
  | incidentsInScope =>
      have hpredictions : Figure.incidentsInScope.ofPrediction = fun _ => 0 := rfl
      rw [hpredictions, hnone, add_zero]
      unfold sumOver
      simp [ImpactFigures.value, Figure.ofIncident, Table.select]
  | incidentsWithPrediction =>
      have hpredictions : Figure.incidentsWithPrediction.ofPrediction = fun _ => 1 := rfl
      rw [hpredictions, hpredictionsOnly _ rfl]
      unfold sumOver
      simp [ImpactFigures.value]
  | direct group =>
      rw [hpredictionsOnly _ rfl]
      rfl
  | indirect group =>
      rw [hpredictionsOnly _ rfl]
      exact hloop (g := fun totals => totals.indirect group) (fun _ _ => rfl) rfl
  | infraTotal =>
      rw [hpredictionsOnly _ rfl]
      refine hloop (g := fun totals => (infraTypes.map totals.infraDirect).sum)
        (fun totals pr => ?_) rfl
      simp only [infraTypes, ImpactTotals.add, Figure.ofPrediction, List.map_cons, List.map_nil,
        List.sum_cons, List.sum_nil]
      omega
  | infraByType type =>
      rw [hpredictionsOnly _ rfl]
      exact hloop (g := fun totals => totals.infraDirect type) (fun _ _ => rfl) rfl
  | infraIndirectByType type =>
      rw [hpredictionsOnly _ rfl]
      exact hloop (g := fun totals => totals.infraIndirect type) (fun _ _ => rfl) rfl

/-! ## Figures add up -/

theorem figure_or (h : ∀ row, q row = true → q' row = false) :
    (s.figures (s.db.incidents.select fun row => q row || q' row)).value figure =
      (s.figures (s.db.incidents.select q)).value figure +
        (s.figures (s.db.incidents.select q')).value figure := by
  have habout :
      ∀ pr, s.about (fun row => q row || q' row) pr = (s.about q pr || s.about q' pr) := by
    intro pr
    unfold ImpactStore.about
    cases pr.incident.bind s.db.incidents.get? with
    | none => rfl
    | some row => simp [Bool.and_or_distrib_right]
  have hdisjoint : ∀ pr, s.about q pr = true → s.about q' pr = false := by
    intro pr
    unfold ImpactStore.about
    cases pr.incident.bind s.db.incidents.get? with
    | none => simp
    | some row =>
        simp only [Option.any_some, Bool.and_eq_true]
        rintro ⟨hq, -⟩
        simp [h row hq]
  rw [figure_eq_sumOver, figure_eq_sumOver, figure_eq_sumOver, sumOver_congr habout,
    sumOver_or h, sumOver_or hdisjoint]
  exact add_add_add_comm ..

def ImpactStore.takerOrganisation (s : ImpactStore) (row : Incident) : Option OrganisationId :=
  (s.db.user? row.takenBy).bind User.organisationMember

def ImpactStore.withoutOrganisation (s : ImpactStore) (row : Incident) : Bool :=
  (s.db.organisationOfUser row.takenBy).isNone

theorem takenByMember_eq (s : ImpactStore) (org : OrganisationId) (row : Incident) :
    s.takenByMember org row = decide (s.takerOrganisation row = some org) := by
  unfold ImpactStore.takenByMember ImpactStore.takerOrganisation
  cases s.db.user? row.takenBy <;> simp

theorem withoutOrganisation_eq (s : ImpactStore) (row : Incident) :
    s.withoutOrganisation row =
      !(s.takerOrganisation row).any fun o => decide (o ∈ s.db.organisations.rows.map key) := by
  unfold ImpactStore.withoutOrganisation ImpactStore.takerOrganisation Db.organisationOfUser
    Db.organisationOf
  cases s.db.user? row.takenBy with
  | none => rfl
  | some user =>
      rw [Option.bind_some, Option.bind_some]
      cases user.organisationMember with
      | none => rfl
      | some o =>
          rw [Option.bind_some, Option.any_some, Bool.eq_iff_iff, Option.isNone_iff_eq_none,
            Table.get?_eq_none]
          simp

/-- Each figure of the country is the sum of those of the organisations and of
what belongs to none. It holds for the figures of the predictions too, since a
prediction is counted through its incident. -/
theorem figure_groups :
    (s.figures (s.db.incidents.select q)).value figure =
      (s.db.organisations.rows.map fun o =>
        (s.figures (s.db.incidents.select fun row => q row && s.takenByMember o.id row)).value
          figure).sum +
      (s.figures (s.db.incidents.select fun row => q row && s.withoutOrganisation row)).value
        figure := by
  have hgroup (o : OrganisationId) : s.about (fun row => q row && s.takenByMember o row) =
      fun pr => s.about q pr && decide
        ((pr.incident.bind s.db.incidents.get?).bind s.takerOrganisation = some o) := by
    funext pr
    unfold ImpactStore.about
    cases pr.incident.bind s.db.incidents.get? with
    | none => rfl
    | some row => simp [takenByMember_eq, Bool.and_right_comm]
  have hothers : s.about (fun row => q row && s.withoutOrganisation row) =
      fun pr => s.about q pr &&
        !((pr.incident.bind s.db.incidents.get?).bind s.takerOrganisation).any
          fun o => decide (o ∈ s.db.organisations.rows.map key) := by
    funext pr
    unfold ImpactStore.about
    cases pr.incident.bind s.db.incidents.get? with
    | none => rfl
    | some row => simp only [Option.any_some, Option.bind_some, withoutOrganisation_eq,
        Bool.and_right_comm]
  have hincidents := sumOver_groups (l := s.db.incidents.rows) (p := q)
    (f := fun _ => figure.ofIncident) s.db.organisations.nodup s.takerOrganisation
  have hpredictions := sumOver_groups (l := s.predictions.rows) (p := s.about q)
    (f := figure.ofPrediction) s.db.organisations.nodup
    fun pr => (pr.incident.bind s.db.incidents.get?).bind s.takerOrganisation
  rw [List.map_map] at hincidents hpredictions
  simp only [figure_eq_sumOver, hgroup, hothers]
  simp only [takenByMember_eq, withoutOrganisation_eq]
  rw [hincidents, hpredictions, List.sum_map_add]
  exact add_add_add_comm ..

/-- Impact figures add up: those of all incidents are those of the resolved
ones and those of the ones in charge; those of the platform are those of the
organisations and those of the incidents of the scope that no organisation has
taken. Each is the split of one sum (`figure_eq_sumOver`), for every figure at
a time. -/
theorem impact_adds_up (s : ImpactStore) (now : Instant) (p : ImpactParams) (figure : Figure) :
    (∀ org, (s.report now { p with status := "all" } org).value figure =
      (s.report now { p with status := "resolved" } org).value figure +
        (s.report now { p with status := "taken_action" } org).value figure) ∧
    (s.report now p none).value figure =
      (s.db.organisations.rows.map fun o => (s.report now p (some o.id)).value figure).sum +
        (s.figures ((s.impactScope now p none).filter s.withoutOrganisation)).value figure := by
  constructor
  · intro org
    have hsplit : s.scopeQ now { p with status := "all" } org = fun row =>
        s.scopeQ now { p with status := "resolved" } org row ||
          s.scopeQ now { p with status := "taken_action" } org row := by
      funext row
      exact Bool.and_or_distrib_left ..
    unfold ImpactStore.report ImpactStore.impactScope
    rw [hsplit]
    refine figure_or fun row hresolved => ?_
    have hetat : decide (row.etat ∈ resolvedEtats) = true :=
      ((Bool.and_eq_true ..).mp hresolved).2
    have htaken : takenActionQ s.actedIds row = false := by
      unfold takenActionQ
      rw [hetat]
      rfl
    exact (Bool.and_eq_false_iff ..).mpr (Or.inr htaken)
  · have horg (o : Organisation) : s.scopeQ now p (some o.id) =
        fun row => s.scopeQ now p none row && s.takenByMember o.id row := by
      funext row
      unfold ImpactStore.scopeQ ImpactStore.baseQ
      rw [Option.all_some, Option.all_none, Bool.and_true]
      exact Bool.and_right_comm ..
    have hothers : (s.impactScope now p none).filter s.withoutOrganisation =
        s.db.incidents.select fun row => s.scopeQ now p none row && s.withoutOrganisation row := by
      unfold ImpactStore.impactScope Table.select
      rw [List.filter_filter]
      exact List.filter_congr fun row _ => Bool.and_comm ..
    unfold ImpactStore.report
    rw [hothers]
    unfold ImpactStore.impactScope
    simp only [horg]
    exact figure_groups

end Mapapi
