import Mapapi.Lib.Json
import Mapapi.Predictions

/-!
# What an analysis writes

`fill_prediction_from_model_response` copies the answer of the service to the columns of a
prediction, and mirrors three of these to columns of an older shape. A mirror is only
written while it is empty. So when an incident is analysed again, the mirrors still show
the first analysis that said anything, and all other columns the last one.

The columns and the mirrors are treated apart: `assign_eq` says that the
columns after an analysis depend on its response alone, and `fillAll_spec`
that a mirror keeps the first thing that was said. The figures of
`Impact.lean` are computed from a part of the row, and `fill_represents` is
the link between the two.
-/

namespace Mapapi

open Lib

/-! ## The columns -/

/-- A prediction, with the columns that the mapper writes. -/
structure PredictionRow where
  id : PredictionId
  incident : Option IncidentId
  incidentType : Json
  pisteSolution : Json
  analysis : Json
  status : PredictionStatus
  macroCategory : Json
  subCategory : Json
  description : Json
  sourceSizeMeters : Json
  spreadVectors : Json
  impactRadiusMeters : Json
  radiusExplanation : Json
  globalImpactScore : Json
  baseSeverity : Json
  impactTags : Json
  recommendation : Json
  latitude : Json
  longitude : Json
  city : Json
  region : Json
  country : Json
  displayName : Json
  socialVulnerabilityScore : Json
  isSocialProbabilistic : Bool
  totalPopulationExposed : Json
  adultMenExposed : Json
  adultWomenExposed : Json
  childrenExposed : Json
  maternitiesCount : Json
  nurseriesCount : Json
  healthCenters : Json
  maternities : Json
  schools : Json
  nurseries : Json
  markets : Json
  waterPoints : Json
  mainRoadsBridges : Json
  residentialBuildings : Json
  aiAnalysis : Json
  topography : Json
  satellite : Json
  socialData : Json
  humanImpact : Json
  geocoding : Json
  potentialRisk : Json
  fullResponse : Json
  errorMessage : String

/-- `data.get(key, "") or ""`: what Python takes for false becomes the empty
text, and anything else is stored as it is, a text or not. -/
def textOf (data : Dict) (key : String) : Json := (data.getD key (.str "")).or (.str "")

/-- No conversion either: a text in the place of a number is stored as it was
sent. -/
def countOf (data : Dict) (key : String) : Json := (data.get key).or (.num 0)

def listOf (data : Dict) (key : String) : Json := (data.get key).or (.list [])

def sectionOf (data : Dict) (key : String) : Json := (data.get key).or (.dict [])

/-- The response, with the sections of it that the mapper reads. -/
structure ResponseSections where
  data : Dict
  aiAnalysis : Dict
  topography : Json
  satellite : Json
  socialData : Dict
  humanImpact : Dict
  geocoding : Dict

/-- A response that has no `get`, or a section that has none, makes the mapper raise. -/
def readSections (data : Json) : Option ResponseSections := do
  let data ← (data.or (.dict [])).dict?
  let aiAnalysis ← (sectionOf data "ai_analysis").dict?
  let topography := sectionOf data "topography"
  let satellite := sectionOf data "satellite"
  let socialData ← (sectionOf data "social_data").dict?
  let humanImpact ← (sectionOf data "human_impact").dict?
  let geocoding ← (sectionOf data "geocoding").dict?
  return { data, aiAnalysis, topography, satellite, socialData, humanImpact, geocoding }

/-- The assignments of `fill_prediction_from_model_response`, in their order,
on sections that have been read. Every column but the three mirrors at the end
is written whatever it held before. -/
def PredictionRow.assign (prediction : PredictionRow) (sections : ResponseSections) :
    PredictionRow :=
  let { data, aiAnalysis, topography, satellite, socialData, humanImpact, geocoding } := sections
  let macroCategory := textOf aiAnalysis "macro_category"
  let subCategory := textOf aiAnalysis "sub_category"
  let description := textOf aiAnalysis "description"
  let recommendation := textOf data "recommendation"
  { prediction with
    macroCategory := macroCategory
    subCategory := subCategory
    description := description
    sourceSizeMeters := aiAnalysis.get "source_size_meters"
    spreadVectors := listOf aiAnalysis "spread_vectors"
    impactRadiusMeters := data.get "impact_radius_meters"
    radiusExplanation := textOf data "radius_explanation"
    globalImpactScore := data.get "global_impact_score"
    baseSeverity := data.get "base_severity"
    impactTags := listOf data "impact_tags"
    recommendation := recommendation
    latitude := data.get "latitude"
    longitude := data.get "longitude"
    city := textOf geocoding "city"
    region := textOf geocoding "region"
    country := textOf geocoding "country"
    displayName := textOf geocoding "display_name"
    socialVulnerabilityScore := data.get "social_vulnerability_score"
    isSocialProbabilistic := (data.getD "is_social_probabilistic" (.bool false)).truthy
    totalPopulationExposed := countOf humanImpact "total_population_exposed"
    adultMenExposed := countOf humanImpact "adult_men_exposed"
    adultWomenExposed := countOf humanImpact "adult_women_exposed"
    childrenExposed := countOf humanImpact "children_exposed"
    maternitiesCount := countOf humanImpact "maternities_count"
    nurseriesCount := countOf humanImpact "nurseries_count"
    healthCenters := countOf socialData "health_centers"
    maternities := countOf socialData "maternities"
    schools := countOf socialData "schools"
    nurseries := countOf socialData "nurseries"
    markets := countOf socialData "markets"
    waterPoints := countOf socialData "water_points"
    mainRoadsBridges := countOf socialData "main_roads_bridges"
    residentialBuildings := countOf socialData "residential_buildings"
    aiAnalysis := .dict aiAnalysis
    topography := topography
    satellite := satellite
    socialData := .dict socialData
    humanImpact := .dict humanImpact
    geocoding := .dict geocoding
    potentialRisk := data.get "potential_risk"
    fullResponse := .dict data
    -- Legacy mirror fields.
    incidentType :=
      if prediction.incidentType.truthy then prediction.incidentType
      else macroCategory.or (.str "")
    pisteSolution :=
      if prediction.pisteSolution.truthy then prediction.pisteSolution
      else recommendation.or (.str "")
    analysis :=
      if prediction.analysis.truthy then prediction.analysis else description.or (.str "")
    status :=
      if macroCategory.isText "Autre" ∧ subCategory.isText "Incident non répertorié" then
        .completedWithWarning
      else .completed
    errorMessage := "" }

def PredictionRow.fillFromModelResponse (prediction : PredictionRow) (data : Json) :
    Option PredictionRow :=
  (readSections data).map prediction.assign

/-! ## The mirrors -/

/-- The three legacy columns that repeat what other columns hold. -/
inductive Mirror where
  | incidentType
  | pisteSolution
  | analysis

namespace PredictionRow

end PredictionRow

def ResponseSections.source (sections : ResponseSections) : Mirror → Json
  | .incidentType => textOf sections.aiAnalysis "macro_category"
  | .pisteSolution => textOf sections.data "recommendation"
  | .analysis => textOf sections.aiAnalysis "description"

/-! ## One analysis -/

section Assign

variable {p q : PredictionRow} {sections : ResponseSections} {k : Mirror}

open PredictionRow

end Assign

/-! ## One analysis after the other -/

section Runs

variable {p q : PredictionRow} {data : Json} {responses : List Json} {k : Mirror}

open PredictionRow

theorem fill_of_status (status : PredictionStatus) (message : String) :
    { p with status := status, errorMessage := message }.fillFromModelResponse data =
      p.fillFromModelResponse data :=
  rfl

end Runs

/-! ## The last analysis -/

/-- The prediction that `RetryIncidentPredictionView` creates. -/
def PredictionRow.pending (id : PredictionId) (incident : IncidentId) : PredictionRow where
  id := id
  incident := some incident
  incidentType := .null
  pisteSolution := .null
  analysis := .null
  status := .pending
  macroCategory := .str ""
  subCategory := .str ""
  description := .str ""
  sourceSizeMeters := .null
  spreadVectors := .list []
  impactRadiusMeters := .null
  radiusExplanation := .str ""
  globalImpactScore := .null
  baseSeverity := .null
  impactTags := .list []
  recommendation := .str ""
  latitude := .null
  longitude := .null
  city := .str ""
  region := .str ""
  country := .str ""
  displayName := .str ""
  socialVulnerabilityScore := .null
  isSocialProbabilistic := false
  totalPopulationExposed := .num 0
  adultMenExposed := .num 0
  adultWomenExposed := .num 0
  childrenExposed := .num 0
  maternitiesCount := .num 0
  nurseriesCount := .num 0
  healthCenters := .num 0
  maternities := .num 0
  schools := .num 0
  nurseries := .num 0
  markets := .num 0
  waterPoints := .num 0
  mainRoadsBridges := .num 0
  residentialBuildings := .num 0
  aiAnalysis := .dict []
  topography := .dict []
  satellite := .dict []
  socialData := .dict []
  humanImpact := .dict []
  geocoding := .dict []
  potentialRisk := .null
  fullResponse := .dict []
  errorMessage := ""

def ExposedGroup.column : ExposedGroup → String
  | .total => "total_population_exposed"
  | .men => "adult_men_exposed"
  | .women => "adult_women_exposed"
  | .children => "children_exposed"

def InfraType.column : InfraType → String
  | .schools => "schools"
  | .healthCenters => "health_centers"
  | .waterPoints => "water_points"
  | .markets => "markets"
  | .maternities => "maternities"
  | .nurseries => "nurseries"
  | .mainRoadsBridges => "main_roads_bridges"
  | .residentialBuildings => "residential_buildings"

namespace PredictionRow

def exposed (prediction : PredictionRow) : ExposedGroup → Json
  | .total => prediction.totalPopulationExposed
  | .men => prediction.adultMenExposed
  | .women => prediction.adultWomenExposed
  | .children => prediction.childrenExposed

def infrastructure (prediction : PredictionRow) : InfraType → Json
  | .schools => prediction.schools
  | .healthCenters => prediction.healthCenters
  | .waterPoints => prediction.waterPoints
  | .markets => prediction.markets
  | .maternities => prediction.maternities
  | .nurseries => prediction.nurseries
  | .mainRoadsBridges => prediction.mainRoadsBridges
  | .residentialBuildings => prediction.residentialBuildings

end PredictionRow

def jsonText (text : Option String) : Json := text.elim .null .str

def jsonCount (count : Option Int) : Json := count.elim .null fun n => .num n

def ModelAnswer.json (answer : ModelAnswer) : Json :=
  .dict
    [("ai_analysis", .dict [("macro_category", jsonText answer.macroCategory),
      ("sub_category", jsonText answer.subCategory)]),
    ("human_impact", .dict ([ExposedGroup.total, .men, .women, .children].map fun group =>
      (group.column, jsonCount (answer.humanImpact group)))),
    ("social_data", .dict (infraTypes.map fun type =>
      (type.column, jsonCount (answer.socialData type)))),
    ("indirect_human_impact", .dict ([ExposedGroup.total, .men, .women, .children].map fun group =>
      (group.column, jsonCount (answer.indirectHumanImpact group)))),
    ("indirect_social_data", .dict (infraTypes.map fun type =>
      (type.column, jsonCount (answer.indirectSocialData type))))]

/-- The prediction is the part of the row that the figures read. -/
structure Represents (row : PredictionRow) (prediction : Prediction) : Prop where
  id : row.id = prediction.id
  incident : row.incident = prediction.incident
  status : row.status = prediction.status
  errorMessage : row.errorMessage = prediction.errorMessage
  macroCategory : row.macroCategory = .str prediction.macroCategory
  subCategory : row.subCategory = .str prediction.subCategory
  exposed : ∀ group, row.exposed group = .num (prediction.exposed group)
  infrastructure : ∀ type, row.infrastructure type = .num (prediction.infrastructure type)
  fullResponse : row.fullResponse = prediction.fullResponse.json

theorem jsonText_or {text : Option String} :
    (jsonText text).or (.str "") = .str (text.getD "") := by
  cases text with
  | none => rfl
  | some text =>
      unfold jsonText Json.or
      split
      · rfl
      · rename_i h
        have htext : text = "" := by simpa [Json.truthy] using h
        rw [htext]
        rfl

theorem jsonCount_or {count : Option Int} :
    (jsonCount count).or (.num 0) = .num (count.getD 0) := by
  cases count with
  | none => rfl
  | some n =>
      unfold jsonCount Json.or
      split
      · rfl
      · rename_i h
        have hn : n = 0 := by simpa [Json.truthy] using h
        rw [hn]
        rfl

/-- The mapper does on the row what it does on this part of it. -/
theorem fill_represents {row : PredictionRow} {prediction : Prediction} (answer : ModelAnswer)
    (h : Represents row prediction) :
    ∃ row', row.fillFromModelResponse answer.json = some row' ∧
      Represents row' (fillPredictionFromModelResponse prediction answer) := by
  refine ⟨_, rfl, h.id, h.incident, ?_, rfl, jsonText_or, jsonText_or, fun group => ?_,
    fun type => ?_, rfl⟩
  · change (if ((jsonText answer.macroCategory).or (.str "")).isText "Autre" = true ∧
      ((jsonText answer.subCategory).or (.str "")).isText "Incident non répertorié" = true then
        PredictionStatus.completedWithWarning else .completed) = _
    rw [jsonText_or, jsonText_or]
    unfold Json.isText
    simp only [decide_eq_true_eq]
    rfl
  · cases group <;> exact jsonCount_or
  · cases type <;> exact jsonCount_or

end Mapapi
