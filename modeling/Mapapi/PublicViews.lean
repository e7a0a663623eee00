import Mapapi.Acting
import Mapapi.Chat

/-!
# The public views of incidents

Seven endpoints answer requests that nobody has signed: the detail of an
incident, the map, the search, and four statistics. Each one selects incidents
by the parameters of the request and renders what it has selected.

`visible_incidents_qs` keeps the internal incidents and those in the trash from
clients who are not signed in; the lists of incidents start from it. The public
views do not. So a request tells nothing about hidden incidents only when it
tells nothing about any: its parameters are refused, or no incident could match
them (`PublicRequest.Blind`).

The proof that a request tells something builds a store of internal incidents,
as many as it takes to be told about one (a page is full before the next one
begins). What is selected does not look at `is_public`, so they are shown or
counted, while to a client who learns nothing of hidden incidents the store
looks empty.
-/

namespace Mapapi

open Lib

/-! ## The calendar -/

namespace Date

/-- The year, the month and the day of the month. Years are counted from March on, so
that a leap day is the last day of one. -/
def civil (d : Date) : Int × Int × Int :=
  let z := d + 719468
  let dayOfEra := z % 146097
  let yearOfEra :=
    (dayOfEra - dayOfEra / 1460 + dayOfEra / 36524 - dayOfEra / 146096) / 365
  let dayOfYear := dayOfEra - (365 * yearOfEra + yearOfEra / 4 - yearOfEra / 100)
  let monthOfYear := (5 * dayOfYear + 2) / 153
  let month := if monthOfYear < 10 then monthOfYear + 3 else monthOfYear - 9
  (yearOfEra + z / 146097 * 400 + if month ≤ 2 then 1 else 0, month,
    dayOfYear - (153 * monthOfYear + 2) / 5 + 1)

def year (d : Date) : Int := d.civil.1

def month (d : Date) : Int := d.civil.2.1

def day (d : Date) : Int := d.civil.2.2

def isoWeekday (d : Date) : Int := (d + 3) % 7 + 1

example : (civil 0, civil 11016, civil 20150) = ((1970, 1, 1), (2000, 2, 29), (2025, 3, 3)) := by
  decide

end Date

/-! ## The store -/

structure PublicColumns where
  description : Option String
  lattitude : Option String
  longitude : Option String
  createdAt : Instant
  isPublic : Bool
  /-- `prediction.country`, if there is a prediction. -/
  country : Option String
  deriving DecidableEq

/-- A row of the board, with the columns that only the public views read. -/
structure Listing where
  incident : Incident
  columns : PublicColumns
  deriving DecidableEq

structure Board where
  db : Db
  columns : IncidentId → PublicColumns

def Board.listings (s : Board) : List Listing :=
  s.db.incidents.rows.map fun row => ⟨row, s.columns row.id⟩

/-- `visible_incidents_qs`: what a client who is not signed in may know of.
The lists of incidents start from it, the seven views of this file do not. -/
def visibleIncidentsQs (user : Option User) (l : Listing) : Bool :=
  !l.incident.isDeleted && (user.isSome || l.columns.isPublic)

/-! ## The serializers -/

structure NestedOrgAssignment where
  id : OrgAssignmentId
  organisationId : OrganisationId
  organisationName : Option String
  status : OrgAssignmentStatus
  deadline : Instant
  deriving DecidableEq

/-- What `IncidentSerializer` shows to a client who is not signed in. -/
structure IncidentDetail where
  listing : Listing
  orgAssignments : List NestedOrgAssignment
  takenByOrganisation : Option Organisation
  actingOrganisations : List ActingOrganisation
  deriving DecidableEq

/-- `IncidentSerializer`, as far as it shows other rows: all assignments of
the incident, most recent first, whatever their status, and the organisations
that act on it. -/
def serializeIncident (db : Db) (l : Listing) : IncidentDetail where
  listing := l
  orgAssignments :=
    (db.orgAssignments.select fun a => decide (a.incident = l.incident.id)).reverse.map fun a =>
      { id := a.id, organisationId := a.organisation
        organisationName := (db.organisations.get? a.organisation).map Organisation.name
        status := a.status, deadline := a.deadline }
  takenByOrganisation := db.organisationOfUser l.incident.takenBy
  actingOrganisations := actingOrganisations db l.incident

structure Marker where
  id : IncidentId
  title : Option String
  lattitude : Option String
  longitude : Option String
  etat : Etat
  takenBy : Option UserId
  isDeleted : Bool
  severity : Option Severity
  createdAt : Instant
  deriving DecidableEq

def serializeMarker (l : Listing) : Marker where
  id := l.incident.id
  title := l.incident.title
  lattitude := l.columns.lattitude
  longitude := l.columns.longitude
  etat := l.incident.etat
  takenBy := l.incident.takenBy
  isDeleted := l.incident.isDeleted
  severity := l.incident.severity
  createdAt := l.columns.createdAt

structure Tally where
  start : Date
  total : Nat
  resolved : Nat
  unresolved : Nat
  deriving DecidableEq

inductive PublicAnswer where
  | incident (data : IncidentDetail)
  | incidents (data : List IncidentDetail)
  | markers (data : List Marker)
  | page (count : Nat) (next previous : Option Nat) (results : List Marker)
  | tallies (message : String) (data : List Tally)
  /-- 404 without a body. -/
  | notFound
  /-- 404, `{"detail": "Invalid page."}`. -/
  | invalidPage
  /-- 400. -/
  | badRequest (message : String)
  | crash
  deriving DecidableEq

/-! ## The parameters -/

/-- The texts, as the database and `unicodedata` compare and change them. -/
structure Texts where
  deaccent : String → String
  /-- `__unaccent__iexact`, of a column and a name. -/
  sameName : String → String → Bool
  /-- `__icontains`, of a column and a term. -/
  contains : String → String → Bool

inductive PageParam where
  | absent
  | last
  | malformed
  /-- A number; an empty parameter is 1. -/
  | number (n : Int)
  deriving DecidableEq

/-- A parameter that should be a date; an empty one is `absent`. -/
inductive DateParam where
  | absent
  | malformed
  | date (d : Date)
  deriving DecidableEq

/-- The parameters of `IncidentFilterView`. The scope is in lower case, the country
stripped as well; an empty scope is `all`, an empty `page_size` malformed. -/
structure FilterParams where
  scope : String
  filterType : Option String
  customStart : DateParam
  customEnd : DateParam
  country : String
  page : PageParam
  pageSize : Limit
  deriving DecidableEq

/-- A request to one of the seven endpoints that are open to clients who are
not signed in, with all the parameters it reads. -/
inductive PublicRequest where
  | detail (id : IncidentId)
  | filter (params : FilterParams)
  | search (term : Option String)
  /-- `month`; an empty one is `absent`. -/
  | byMonth (month : Limit)
  | byMonthByZone (zone : String)
  | onWeek
  | byWeekByZone (zone : String)
  deriving DecidableEq

/-! ## What the views select -/

/-- The names of a country as the geocoder writes them. A country that is not
listed goes by its own name, without accents. -/
def countryGeocodeAliases : String → Option (List String)
  | "mali" => some ["Mali"]
  | "senegal" => some ["Senegal"]
  | "guinea" => some ["Guinee", "Guinea"]
  | "burkina_faso" => some ["Burkina Faso"]
  | "niger" => some ["Niger"]
  | "cote_divoire" => some ["Cote d'Ivoire", "Ivory Coast"]
  | "mauritania" => some ["Mauritanie", "Mauritania"]
  | _ => none

namespace FilterParams

/-- The filter of the map counts incidents in validation as resolved. -/
def resolvedStates : List Etat := [.resolved, .resolvedDefinitive, .inValidation]

/-- The scope, for a client who is not signed in. -/
def inScope (p : FilterParams) (l : Listing) : Bool :=
  if p.scope ∈ ["mine", "interne", "internal"] then false
  else if p.scope ∈ ["resolved", "resolu", "résolu"] then decide (l.incident.etat ∈ resolvedStates)
  else if p.scope ∈ ["unresolved", "non_resolu", "non-resolu", "active"] then
    decide (l.incident.etat ∉ resolvedStates)
  else true

/-- The date filter of the map, at the day `today`. A month is compared by its
number alone, so it is that month of any year. -/
def inWindow (p : FilterParams) (today : Date) (l : Listing) : Bool :=
  let d := l.columns.createdAt.date
  match p.filterType with
  | some "today" => decide (d = today)
  | some "yesterday" => decide (d = today - 1)
  | some "last_7_days" => decide (today - 7 ≤ d)
  | some "last_30_days" => decide (today - 30 ≤ d)
  | some "this_month" => decide (d.month = today.month)
  | some "last_month" =>
      decide (d.month = if today.month - 1 = 0 then 12 else today.month - 1)
  | some "custom_range" =>
      match p.customStart, p.customEnd with
      | .date start, .date stop => decide (start ≤ d ∧ d ≤ stop)
      | _, _ => true
  | _ => true

def inCountry (texts : Texts) (p : FilterParams) (l : Listing) : Bool :=
  let names := (countryGeocodeAliases p.country).getD
    [texts.deaccent (p.country.map fun c => if c = '_' then ' ' else c)]
  decide (p.country = "") ||
    names.any fun name => l.columns.country.any fun country => texts.sameName country name

def selects (texts : Texts) (today : Date) (p : FilterParams) (l : Listing) : Bool :=
  p.inScope l && p.inWindow today l && p.inCountry texts l

/-- Both ends of the range are given, and one is not a date. -/
def malformedRange (p : FilterParams) : Bool :=
  decide (p.filterType = some "custom_range" ∧ p.customStart ≠ .absent ∧ p.customEnd ≠ .absent ∧
    (p.customStart = .malformed ∨ p.customEnd = .malformed))

def size (p : FilterParams) : Nat :=
  match p.pageSize with
  | .int n => if n ≤ 0 then 20 else min n.toNat 100
  | _ => 20

def paginated (p : FilterParams) : Bool := decide (p.page ≠ .absent ∨ p.pageSize ≠ .absent)

def malformedPage (p : FilterParams) : Bool :=
  match p.page with
  | .malformed => true
  | .number n => decide (n < 1)
  | _ => false

end FilterParams

/-- The month of this year; without a usable month the whole of it. -/
def inMonth (today : Date) (month : Limit) (l : Listing) : Bool :=
  let d := l.columns.createdAt.date
  decide (d.year = today.year) &&
    match month with
    | .int m => decide (d.month = m)
    | _ => true

/-- The days of `IncidentOnWeekAPIListView`: eight, from the Monday of last week on. -/
def inLastWeek (today : Date) (l : Listing) : Bool :=
  let monday := today - 7 - ((today - 7).isoWeekday - 1)
  decide (days monday ≤ l.columns.createdAt ∧ l.columns.createdAt < days (monday + 8))

def matchesTerm (texts : Texts) (term : String) (l : Listing) : Bool :=
  l.incident.title.any (fun title => texts.contains title term) ||
    l.columns.description.any fun description => texts.contains description term

/-! ## The views

Each one is a function of the incidents it starts from. -/

def retrieveIncident (id : IncidentId) (db : Db) (base : List Listing) : PublicAnswer :=
  match base.find? fun l => decide (l.incident.id = id) with
  | none => .notFound
  | some l => .incident (serializeIncident db l)

/-- One page of the map, most recent first. A page beyond the last one is an
error of its own; the first page is there also when nothing is. -/
def paginateMarkers (p : FilterParams) (rows : List Listing) : PublicAnswer :=
  let rows := descending (fun l => l.columns.createdAt) rows
  let pages := (max 1 rows.length + p.size - 1) / p.size
  let number :=
    match p.page with
    | .number n => n.toNat
    | .last => pages
    | _ => 1
  if p.malformedPage = true ∨ pages < number then .invalidPage
  else .page rows.length (if number < pages then some (number + 1) else none)
    (if 1 < number then some (number - 1) else none)
    (((rows.drop ((number - 1) * p.size)).take p.size).map serializeMarker)

/-- `IncidentFilterView.get`. A range that is no range makes the query raise;
without `page` and `page_size` the list comes as a whole. -/
def filterIncidents (texts : Texts) (today : Date) (p : FilterParams) (base : List Listing) :
    PublicAnswer :=
  if p.malformedRange then .crash
  else
    let rows := base.filter (p.selects texts today)
    if p.paginated then paginateMarkers p rows else .markers (rows.map serializeMarker)

def searchIncidents (texts : Texts) (term : Option String) (db : Db) (base : List Listing) :
    PublicAnswer :=
  match term with
  | none => .badRequest "Parameter 'search_term' is missing"
  | some term => .incidents ((base.filter (matchesTerm texts term)).map (serializeIncident db))

def incidentsByMonth (today : Date) (month : Limit) (db : Db) (base : List Listing) :
    PublicAnswer :=
  match month with
  | .malformed => .badRequest "Invalid month parameter"
  | month => .incidents ((base.filter (inMonth today month)).map (serializeIncident db))

def tally (start : Date) (group : List Listing) : Tally where
  start := start
  total := group.length
  resolved := group.countP fun l => decide (l.incident.etat = .resolved)
  unresolved := group.countP fun l => decide (l.incident.etat = .declared)

/-- The counts for each value of `datetimes("created_at", kind=...)`; `key` is what the
incidents of a group have in common with it. -/
def tallies (trunc : Date → Date) (key : Date → Int) (items : List Listing) : List Tally :=
  (ascending (fun start : Date => start)
    (items.map fun l => trunc l.columns.createdAt.date).dedup).map fun start =>
      tally start (items.filter fun l => decide (key l.columns.createdAt.date = key start))

def inZone (zone : String) (l : Listing) : Bool := decide (l.incident.zone = zone)

def incidentsByMonthByZone (today : Date) (zone : String) (base : List Listing) : PublicAnswer :=
  let items := base.filter fun l => inZone zone l && inMonth today .absent l
  .tallies "incidents by month " (tallies (fun d => d - (d.day - 1)) Date.month items)

def incidentsOnWeek (today : Date) (base : List Listing) : PublicAnswer :=
  .tallies "incidents by week " (tallies id Date.day (base.filter (inLastWeek today)))

def incidentsByWeekByZone (today : Date) (zone : String) (base : List Listing) : PublicAnswer :=
  let items := base.filter fun l => inZone zone l && inLastWeek today l
  .tallies "incidents by month " (tallies id Date.day items)

/-- The answer to a client who is not signed in, from the incidents of `base`. -/
def PublicRequest.answer (texts : Texts) (now : Instant) (db : Db) (base : List Listing) :
    PublicRequest → PublicAnswer
  | detail id => retrieveIncident id db base
  | filter p => filterIncidents texts now.date p base
  | search term => searchIncidents texts term db base
  | byMonth month => incidentsByMonth now.date month db base
  | byMonthByZone zone => incidentsByMonthByZone now.date zone base
  | onWeek => incidentsOnWeek now.date base
  | byWeekByZone zone => incidentsByWeekByZone now.date zone base

def Board.answer (texts : Texts) (now : Instant) (request : PublicRequest) (s : Board) :
    PublicAnswer :=
  request.answer texts now s.db s.listings

/-! ## What a request may tell -/

/-- The stores differ only in incidents that are hidden from clients who are
not signed in. A request learns nothing of them when it is answered alike on
any two such stores. -/
structure SameButHidden (s s' : Board) : Prop where
  others : { s.db with incidents := s'.db.incidents } = s'.db
  visible : s.listings.filter (visibleIncidentsQs none) =
    s'.listings.filter (visibleIncidentsQs none)

namespace PublicRequest

/-- The request is refused for its parameters. -/
def refused : PublicRequest → Bool
  | filter p => p.malformedRange || p.malformedPage
  | search none => true
  | byMonth .malformed => true
  | _ => false

/-- The incidents the request asks for. -/
def selects (texts : Texts) (today : Date) : PublicRequest → Listing → Bool
  | detail id, l => decide (l.incident.id = id)
  | filter p, l => p.selects texts today l
  | search term, l => term.any fun term => matchesTerm texts term l
  | byMonth month, l => inMonth today month l
  | byMonthByZone zone, l => inZone zone l && inMonth today .absent l
  | onWeek, l => inLastWeek today l
  | byWeekByZone zone, l => inZone zone l && inLastWeek today l

/-- The request is refused for its parameters, or no incident could match them. -/
def Blind (texts : Texts) (today : Date) (request : PublicRequest) : Prop :=
  request.refused = true ∨ ∀ l, request.selects texts today l = false

section Blind

variable {texts : Texts} {now : Instant} {db db' : Db} {base base' : List Listing}
  {request : PublicRequest}

theorem filter_filter_self {p : Listing → Bool} : (base.filter p).filter p = base.filter p := by
  rw [List.filter_filter]
  simp only [Bool.and_self]

/-- An answer is about the incidents that are asked for. -/
theorem answer_filter :
    request.answer texts now db (base.filter (request.selects texts now.date)) =
      request.answer texts now db base := by
  cases request with
  | detail id =>
      have hfind : (base.filter fun l => decide (l.incident.id = id)).find?
          (fun l => decide (l.incident.id = id)) =
            base.find? fun l => decide (l.incident.id = id) := by
        simp [List.find?_filter]
      change retrieveIncident id db (base.filter fun l => decide (l.incident.id = id)) = _
      unfold answer retrieveIncident
      rw [hfind]
  | filter p =>
      change filterIncidents texts now.date p (base.filter (p.selects texts now.date)) = _
      unfold answer filterIncidents
      rw [filter_filter_self]
  | search term =>
      cases term with
      | none => rfl
      | some term =>
          change searchIncidents texts (some term) db (base.filter (matchesTerm texts term)) = _
          unfold answer searchIncidents
          simp only [filter_filter_self]
  | byMonth month =>
      change incidentsByMonth now.date month db (base.filter (inMonth now.date month)) = _
      unfold answer incidentsByMonth
      cases month with
      | malformed => rfl
      | absent => simp only [filter_filter_self]
      | int m => simp only [filter_filter_self]
  | byMonthByZone zone =>
      change incidentsByMonthByZone now.date zone
        (base.filter fun l => inZone zone l && inMonth now.date .absent l) = _
      unfold answer incidentsByMonthByZone
      rw [filter_filter_self]
  | onWeek =>
      change incidentsOnWeek now.date (base.filter (inLastWeek now.date)) = _
      unfold answer incidentsOnWeek
      rw [filter_filter_self]
  | byWeekByZone zone =>
      change incidentsByWeekByZone now.date zone
        (base.filter fun l => inZone zone l && inLastWeek now.date l) = _
      unfold answer incidentsByWeekByZone
      rw [filter_filter_self]

/-- A request with malformed parameters is answered before the table is read,
so its answer says nothing about the incidents. -/
theorem answer_of_refused (h : request.refused = true) :
    request.answer texts now db base = request.answer texts now db' base' := by
  cases request with
  | filter p =>
      change filterIncidents texts now.date p base = filterIncidents texts now.date p base'
      unfold filterIncidents
      cases hrange : p.malformedRange with
      | true => rw [if_pos rfl, if_pos rfl]
      | false =>
          have hpage : p.malformedPage = true :=
            ((Bool.or_eq_true ..).mp h).resolve_left (by simp [hrange])
          have hpaginated : p.paginated = true := by
            refine decide_eq_true (Or.inl fun habsent => ?_)
            unfold FilterParams.malformedPage at hpage
            rw [habsent] at hpage
            cases hpage
          simp only [hpaginated, paginateMarkers, hpage, true_or, if_true]
  | search term =>
      cases term with
      | none => rfl
      | some term => cases h
  | byMonth month =>
      cases month with
      | malformed => rfl
      | absent => cases h
      | int m => cases h
  | detail id => cases h
  | byMonthByZone zone => cases h
  | onWeek => cases h
  | byWeekByZone zone => cases h

theorem answer_nil : request.answer texts now db [] = request.answer texts now db' [] := by
  cases request with
  | byMonth month => cases month <;> rfl
  | search term => cases term <;> rfl
  | _ => rfl

theorem answer_of_blind (h : request.Blind texts now.date) :
    request.answer texts now db base = request.answer texts now db' base' := by
  rcases h with hrefused | hnone
  · exact answer_of_refused hrefused
  · have hnil : ∀ base : List Listing, base.filter (request.selects texts now.date) = [] :=
      fun base => List.filter_eq_nil_iff.mpr fun l _ => by simp [hnone l]
    have hanswer : ∀ (db : Db) (base : List Listing),
        request.answer texts now db base = request.answer texts now db [] := by
      intro db base
      rw [← answer_filter, hnil]
    rw [hanswer db base, hanswer db' base']
    exact answer_nil

end Blind

/-- As many incidents as it takes to be told about one: a page is full before the next one. -/
def needed : PublicRequest → Nat
  | filter p =>
      match p.page with
      | .number n => max 1 (n.toNat * 100)
      | _ => 1
  | _ => 1

end PublicRequest

/-- How much an answer tells: how many incidents, or groups of incidents. An
answer that tells nothing is one of the errors, or an empty list. -/
def PublicAnswer.amount : PublicAnswer → Nat
  | incident _ => 1
  | incidents data => data.length
  | markers data => data.length
  | page count _ _ _ => count
  | tallies _ data => data.length
  | _ => 0

section Amount

variable {texts : Texts} {now : Instant} {db : Db} {rows : List Listing} {request : PublicRequest}

theorem tallies_ne_nil {trunc key : Date → Date} (h : rows ≠ []) :
    0 < (tallies trunc key rows).length := by
  obtain ⟨l, hl⟩ := List.exists_mem_of_ne_nil rows h
  have hmem : trunc l.columns.createdAt.date ∈
      (rows.map fun l => trunc l.columns.createdAt.date).dedup :=
    List.mem_dedup.mpr (List.mem_map_of_mem hl)
  unfold tallies
  rw [List.length_map]
  exact List.length_pos_of_mem (mem_ascending.mpr hmem)

theorem amount_incidents {p : Listing → Bool} (hself : rows.filter p = rows) (h : rows ≠ []) :
    0 < (PublicAnswer.incidents ((rows.filter p).map (serializeIncident db))).amount := by
  change 0 < ((rows.filter p).map (serializeIncident db)).length
  rw [hself, List.length_map]
  exact List.length_pos_iff.mpr h

theorem amount_tallies {p : Listing → Bool} {message : String} {trunc key : Date → Date}
    (hself : rows.filter p = rows) (h : rows ≠ []) :
    0 < (PublicAnswer.tallies message (tallies trunc key (rows.filter p))).amount := by
  rw [hself]
  exact tallies_ne_nil h

theorem FilterParams.size_bounds (p : FilterParams) : 0 < p.size ∧ p.size ≤ 100 := by
  unfold size
  split
  · split
    · omega
    · omega
  · omega

theorem amount_paginateMarkers {p : FilterParams} (hpage : p.malformedPage = false)
    (hneeded : (PublicRequest.filter p).needed ≤ rows.length) :
    (paginateMarkers p rows).amount = rows.length := by
  obtain ⟨hpos, hle⟩ := p.size_bounds
  have hlength : (descending (fun l : Listing => l.columns.createdAt) rows).length = rows.length :=
    List.length_insertionSort ..
  have hfirst : 1 ≤ (max 1 rows.length + p.size - 1) / p.size :=
    Nat.div_pos (by omega) hpos
  unfold paginateMarkers
  simp only [hlength, hpage, Bool.false_eq_true, false_or]
  cases hp : p.page with
  | absent => exact congrArg PublicAnswer.amount (if_neg (Nat.not_lt.mpr hfirst))
  | malformed => exact congrArg PublicAnswer.amount (if_neg (Nat.not_lt.mpr hfirst))
  | last => exact congrArg PublicAnswer.amount (if_neg (Nat.lt_irrefl _))
  | number n =>
      simp only [PublicRequest.needed, hp] at hneeded
      have hfull : n.toNat * p.size ≤ rows.length :=
        Nat.le_trans (Nat.mul_le_mul_left _ hle) (Nat.le_trans (Nat.le_max_right ..) hneeded)
      have hexists : n.toNat ≤ (max 1 rows.length + p.size - 1) / p.size :=
        (Nat.le_div_iff_mul_le hpos).mpr (by omega)
      exact congrArg PublicAnswer.amount (if_neg (Nat.not_lt.mpr hexists))

theorem amount_nil : (request.answer texts now db []).amount = 0 := by
  cases request with
  | filter p =>
      change (filterIncidents texts now.date p []).amount = 0
      unfold filterIncidents
      split
      · rfl
      · dsimp only
        split
        · exact (apply_ite PublicAnswer.amount _ _ _).trans (ite_self 0)
        · rfl
  | search term => cases term <;> rfl
  | byMonth month => cases month <;> rfl
  | _ => rfl

/-- A request that selects every row of a board that is large enough shows
something. Used with a board of copies of one incident, it turns a listing
that includes internal incidents into a difference that an anonymous client
can see. -/
theorem amount_pos (hrefused : request.refused = false)
    (hall : ∀ l ∈ rows, request.selects texts now.date l = true)
    (hneeded : request.needed ≤ rows.length) :
    0 < (request.answer texts now db rows).amount := by
  have hone : 1 ≤ request.needed := by
    unfold PublicRequest.needed
    split
    · split <;> omega
    · omega
  have hpos : 0 < rows.length := Nat.lt_of_lt_of_le hone hneeded
  have hne : rows ≠ [] := List.length_pos_iff.mp hpos
  have hself : rows.filter (request.selects texts now.date) = rows := List.filter_eq_self.mpr hall
  cases request with
  | detail id =>
      obtain ⟨l, hl⟩ := List.exists_mem_of_ne_nil rows hne
      have hsome : (rows.find? fun l => decide (l.incident.id = id)).isSome = true :=
        List.find?_isSome.mpr ⟨l, hl, hall l hl⟩
      obtain ⟨found, hfound⟩ := Option.isSome_iff_exists.mp hsome
      change 0 < (retrieveIncident id db rows).amount
      unfold retrieveIncident
      rw [hfound]
      exact Nat.one_pos
  | filter p =>
      obtain ⟨hrange, hpage⟩ := (Bool.or_eq_false_iff ..).mp hrefused
      have hself : rows.filter (p.selects texts now.date) = rows := hself
      change 0 < (filterIncidents texts now.date p rows).amount
      unfold filterIncidents
      rw [hrange, if_neg Bool.false_ne_true, hself]
      dsimp only
      split
      · rwa [amount_paginateMarkers hpage hneeded]
      · change 0 < (rows.map serializeMarker).length
        rwa [List.length_map]
  | search term =>
      cases term with
      | none => cases hrefused
      | some term => exact amount_incidents hself hne
  | byMonth month =>
      cases month with
      | malformed => cases hrefused
      | absent => exact amount_incidents hself hne
      | int m => exact amount_incidents hself hne
  | byMonthByZone zone => exact amount_tallies hself hne
  | onWeek => exact amount_tallies hself hne
  | byWeekByZone zone => exact amount_tallies hself hne

end Amount

/-! ## Internal incidents -/

def Listing.internal (l : Listing) (id : IncidentId) : Listing where
  incident := { l.incident with id := id }
  columns := { l.columns with isPublic := false }

theorem nodup_internal (row : Incident) (n : Nat) :
    (((List.range n).map fun id => { row with id := id }).map key).Nodup := by
  rw [List.map_map]
  exact (List.map_id (List.range n)).symm ▸ List.nodup_range

def Board.internal (l : Listing) (n : Nat) : Board where
  db := { Db.start [] [] l.incident with
    incidents := ⟨(List.range n).map fun id => { l.incident with id := id },
      nodup_internal l.incident n⟩ }
  columns := fun _ => { l.columns with isPublic := false }

section Internal

variable {texts : Texts} {today : Date} {request : PublicRequest} {l : Listing} {n : Nat}

theorem listings_internal : (Board.internal l n).listings = (List.range n).map l.internal := by
  unfold Board.listings Board.internal
  rw [List.map_map]
  rfl

theorem sameButHidden_internal (m n : Nat) :
    SameButHidden (Board.internal l m) (Board.internal l n) := by
  have hnone : ∀ n, (Board.internal l n).listings.filter (visibleIncidentsQs none) = [] := by
    intro n
    rw [listings_internal, List.filter_eq_nil_iff]
    intro l' hl'
    obtain ⟨id, -, rfl⟩ := List.mem_map.mp hl'
    simp [visibleIncidentsQs, Listing.internal]
  exact ⟨rfl, by rw [hnone, hnone]⟩

/-- No request asks whether an incident is internal. -/
theorem selects_internal {id : IncidentId} (hdetail : ∀ id, request ≠ .detail id) :
    request.selects texts today (l.internal id) = request.selects texts today l := by
  cases request with
  | detail id => exact absurd rfl (hdetail id)
  | _ => rfl

/-- As many internal incidents as are needed are asked for. -/
theorem exists_internal (hl : request.selects texts today l = true) :
    ∃ n, request.needed ≤
      ((Board.internal l n).listings.filter (request.selects texts today)).length := by
  by_cases hdetail : ∃ id, request = .detail id
  · obtain ⟨id, rfl⟩ := hdetail
    have hmem : l.internal id ∈ (Board.internal l (id + 1)).listings := by
      rw [listings_internal]
      exact List.mem_map_of_mem (List.mem_range.mpr (Nat.lt_succ_self id))
    exact ⟨id + 1, List.length_pos_of_mem (List.mem_filter.mpr ⟨hmem, decide_eq_true rfl⟩)⟩
  · refine ⟨request.needed, ?_⟩
    have hself : (Board.internal l request.needed).listings.filter
        (request.selects texts today) = (Board.internal l request.needed).listings := by
      rw [listings_internal, List.filter_eq_self]
      intro l' hl'
      obtain ⟨id, -, rfl⟩ := List.mem_map.mp hl'
      rwa [selects_internal fun id heq => hdetail ⟨id, heq⟩]
    rw [hself, listings_internal, List.length_map, List.length_range]

end Internal

/-! ## What anonymous readers learn -/

/-- A request tells nothing about hidden incidents exactly when it tells
nothing about any: it is refused, or no incident could match its parameters.
Two stores that differ in hidden incidents stand for the observer who cannot
tell them apart. -/
theorem anonymous_learns_nothing_iff (texts : Texts) (now : Instant) (request : PublicRequest) :
    (∀ s s', SameButHidden s s' → s.answer texts now request = s'.answer texts now request) ↔
      request.Blind texts now.date := by
  constructor
  · intro h
    unfold PublicRequest.Blind
    cases hrefused : request.refused with
    | true => exact Or.inl rfl
    | false =>
        refine Or.inr fun l => Bool.eq_false_iff.mpr fun hl => ?_
        obtain ⟨n, hn⟩ := exists_internal hl
        have hsame := congrArg PublicAnswer.amount
          (h (Board.internal l n) (Board.internal l 0) (sameButHidden_internal n 0))
        unfold Board.answer at hsame
        rw [← PublicRequest.answer_filter, listings_internal (n := 0), List.range_zero,
          List.map_nil, amount_nil] at hsame
        exact absurd hsame (Nat.ne_of_gt (amount_pos hrefused
          (fun l' hl' => (List.mem_filter.mp hl').2) hn))
  · intro h s s' _
    exact PublicRequest.answer_of_blind h

/-- Views that start from `visible_incidents_qs` tell nothing about hidden incidents. -/
theorem answer_visible (texts : Texts) (now : Instant) (request : PublicRequest) {s s' : Board}
    (h : SameButHidden s s') :
    request.answer texts now s.db (s.listings.filter (visibleIncidentsQs none)) =
      request.answer texts now s'.db (s'.listings.filter (visibleIncidentsQs none)) := by
  rw [h.visible, ← h.others]
  cases request <;> rfl

section Kinds

variable {texts : Texts} {today : Date}

theorem blind_mine {p : FilterParams} (h : p.scope ∈ ["mine", "interne", "internal"]) :
    (PublicRequest.filter p).Blind texts today := by
  refine Or.inr fun l => ?_
  change (p.inScope l && p.inWindow today l && p.inCountry texts l) = false
  have hscope : p.inScope l = false := if_pos h
  rw [hscope, Bool.false_and, Bool.false_and]

theorem not_blind {request : PublicRequest} {l : Listing} (hrefused : request.refused = false)
    (hl : request.selects texts today l = true) : ¬ request.Blind texts today := by
  rintro (h | h)
  · rw [hrefused] at h
    cases h
  · rw [h l] at hl
    cases hl

theorem date_days (d : Date) : Instant.date (days d) = d := by
  unfold Instant.date days
  rw [Int.one_mul]
  exact Int.mul_ediv_cancel d (show (86400000000 : Int) ≠ 0 by decide)

def Listing.reported (id : IncidentId) (zone : String) (createdAt : Instant) : Listing where
  incident := .new id none zone ""
  columns :=
    { description := none, lattitude := none, longitude := none, createdAt := createdAt
      isPublic := true, country := none }

theorem inMonth_today {zone : String} :
    inMonth today .absent (.reported 1 zone (days today)) = true := by
  unfold inMonth Listing.reported
  simp only [date_days, decide_true, Bool.and_true]

theorem inLastWeek_monday {zone : String} :
    inLastWeek today (.reported 1 zone (days (today - 7 - ((today - 7).isoWeekday - 1)))) =
      true := by
  have hweek : ∀ monday : Date, days monday < days (monday + 8) := by
    intro monday
    exact Int.mul_lt_mul_of_pos_right (by omega) (by decide)
  exact decide_eq_true ⟨Int.le_refl _, hweek _⟩

theorem not_blind_detail (id : IncidentId) : ¬ (PublicRequest.detail id).Blind texts today :=
  not_blind (l := .reported id "" 0) rfl (decide_eq_true rfl)

theorem not_blind_byMonth : ¬ (PublicRequest.byMonth .absent).Blind texts today :=
  not_blind (l := .reported 1 "" _) rfl inMonth_today

theorem not_blind_byMonthByZone (zone : String) :
    ¬ (PublicRequest.byMonthByZone zone).Blind texts today := by
  refine not_blind (l := .reported 1 zone _) rfl ((Bool.and_eq_true ..).mpr ⟨?_, inMonth_today⟩)
  exact decide_eq_true rfl

theorem not_blind_onWeek : ¬ PublicRequest.onWeek.Blind texts today :=
  not_blind (l := .reported 1 "" _) rfl inLastWeek_monday

theorem not_blind_byWeekByZone (zone : String) :
    ¬ (PublicRequest.byWeekByZone zone).Blind texts today := by
  refine not_blind (l := .reported 1 zone _) rfl
    ((Bool.and_eq_true ..).mpr ⟨?_, inLastWeek_monday⟩)
  exact decide_eq_true rfl

end Kinds

def Texts.plain : Texts where
  deaccent := id
  sameName := fun column name => decide (column.toLower = name.toLower)
  contains := fun column term => decide (term.toLower.toList <:+: column.toLower.toList)

def internalLeak : Listing where
  incident := .new 0 (some "Fuite") "Bamako" "01-02-2025"
  columns :=
    { description := none, lattitude := none, longitude := none, createdAt := 0
      isPublic := false, country := none }

def FilterParams.all : FilterParams where
  scope := "all"
  filterType := none
  customStart := .absent
  customEnd := .absent
  country := ""
  page := .absent
  pageSize := .absent

/-- A client who is not signed in is told by the answer whether the leak is there. -/
def TellsLeak (request : PublicRequest) : Prop :=
  (Board.internal internalLeak 1).answer .plain 0 request ≠
    (Board.internal internalLeak 0).answer .plain 0 request

instance (request : PublicRequest) : Decidable (TellsLeak request) :=
  inferInstanceAs (Decidable (_ ≠ _))

/-- Its detail is shown to everybody, and the map and the statistics count it. -/
theorem anonymous_learns :
    SameButHidden (Board.internal internalLeak 1) (Board.internal internalLeak 0) ∧
      TellsLeak (.detail 0) ∧ TellsLeak (.filter .all) ∧ TellsLeak (.byMonthByZone "Bamako") := by
  refine ⟨sameButHidden_internal 1 0, ?_, ?_, ?_⟩
  · decide
  · decide
  · decide

end Mapapi
