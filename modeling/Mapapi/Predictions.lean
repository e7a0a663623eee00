import Mapapi.Lib.Protocol
import Mapapi.Trash

/-!
# The analysis of an incident

`analyze_incident_with_model_task` sends the photo of an incident to a service and
stores what it answers on the prediction of the incident.
`RetryIncidentPredictionView` sets the prediction back and starts the task again.

The task looks once whether the prediction is completed, at its start, and then works
for minutes. Celery may deliver it twice, and runs it again after an error of the
service; so several executions work on one prediction, and an error branch of the one
writes over the result of another. That happens exactly when an execution saves
`processing` or `failed` after another one has stored a result behind its back
(`Overtaken`).
-/

namespace Mapapi

open Lib

/-! ## Predictions -/

abbrev PredictionId := Nat

inductive PredictionStatus where
  | pending
  | processing
  | completed
  | completedWithWarning
  | failed
  deriving DecidableEq

def PredictionStatus.isCompleted (status : PredictionStatus) : Bool :=
  decide (status = .completed ∨ status = .completedWithWarning)

/-- The beneficiaries that are counted: `total_population_exposed`,
`adult_men_exposed`, `adult_women_exposed`, `children_exposed`. -/
inductive ExposedGroup where
  | total
  | men
  | women
  | children
  deriving DecidableEq

/-- `INFRA_TYPES`. -/
inductive InfraType where
  | schools
  | healthCenters
  | waterPoints
  | markets
  | maternities
  | nurseries
  | mainRoadsBridges
  | residentialBuildings
  deriving DecidableEq

def infraTypes : List InfraType :=
  [.schools, .healthCenters, .waterPoints, .markets, .maternities, .nurseries,
    .mainRoadsBridges, .residentialBuildings]

structure ModelAnswer where
  /-- `ai_analysis`. -/
  macroCategory : Option String
  subCategory : Option String
  humanImpact : ExposedGroup → Option Int
  socialData : InfraType → Option Int
  indirectHumanImpact : ExposedGroup → Option Int
  indirectSocialData : InfraType → Option Int

def ModelAnswer.empty : ModelAnswer :=
  { macroCategory := none, subCategory := none, humanImpact := fun _ => none
    socialData := fun _ => none, indirectHumanImpact := fun _ => none
    indirectSocialData := fun _ => none }

/-- A prediction, with the columns that the figures and the status are about.
What the mapper writes besides is the subject of `PredictionMapper.lean`. -/
structure Prediction where
  id : PredictionId
  incident : Option IncidentId
  status : PredictionStatus
  errorMessage : String
  macroCategory : String
  subCategory : String
  /-- The direct beneficiaries. -/
  exposed : ExposedGroup → Int
  infrastructure : InfraType → Int
  fullResponse : ModelAnswer

instance : Keyed Prediction PredictionId := ⟨Prediction.id⟩

/-- `fill_prediction_from_model_response`, up to its save. -/
def fillPredictionFromModelResponse (prediction : Prediction) (data : ModelAnswer) : Prediction :=
  let macroCategory := data.macroCategory.getD ""
  let subCategory := data.subCategory.getD ""
  { prediction with
    macroCategory := macroCategory
    subCategory := subCategory
    exposed := fun group => (data.humanImpact group).getD 0
    infrastructure := fun type => (data.socialData type).getD 0
    fullResponse := data
    status :=
      if macroCategory = "Autre" ∧ subCategory = "Incident non répertorié" then
        .completedWithWarning
      else .completed
    errorMessage := "" }

/-! ## The store -/

structure AnalysisStore where
  db : Db
  /-- The path of the photo of an incident; an empty one counts as no file. -/
  photo : IncidentId → Option String
  predictions : Table Prediction

namespace AnalysisStore

def hasPhoto (s : AnalysisStore) (i : IncidentId) : Bool := (presentText (s.photo i)).isSome

def incidentOf (s : AnalysisStore) (prediction : Prediction) : Option Incident :=
  prediction.incident.bind s.db.incidents.get?

/-- `Prediction.objects.get(incident=incident)`; an incident has at most one. -/
def predictionOf (s : AnalysisStore) (i : IncidentId) : Option Prediction :=
  (s.predictions.select fun row => decide (row.incident = some i)).head?

/-- Two columns of the row that was read; the results that are there stay. -/
def saveStatus (prediction : Prediction) (s : AnalysisStore) : AnalysisStore :=
  { s with
    predictions := s.predictions.update prediction.id fun row =>
      { row with status := prediction.status, errorMessage := prediction.errorMessage } }

/-- The whole row, when the service has answered. -/
def savePrediction (prediction : Prediction) (s : AnalysisStore) : AnalysisStore :=
  { s with predictions := s.predictions.put prediction }

/-- A new row, or nothing when the incident has one already (the integrity error of
the unique constraint). -/
def createPrediction (i : IncidentId) (s : AnalysisStore) : Option Prediction × AnalysisStore :=
  if (s.predictionOf i).isSome then (none, s)
  else
    let prediction : Prediction :=
      { id := s.predictions.freshKey, incident := some i, status := .pending, errorMessage := ""
        macroCategory := "", subCategory := "", exposed := fun _ => 0
        infrastructure := fun _ => 0, fullResponse := .empty }
    (some prediction, s.savePrediction prediction)

end AnalysisStore

/-! ## The task and the view -/

/-- What becomes of the call of the service: an answer that can be stored, an error of
the request, or any other error (an unreadable photo, an answer that is no object or
does not fit the columns). -/
inductive ModelOutcome where
  | answer (data : ModelAnswer)
  | requestError (exc : String)
  | failure (exc : String)

inductive AnalysisResult where
  | analysed (id : PredictionId) (status : PredictionStatus)
  | skipped
  | nothing
  | raised
  | unauthorized
  | error (status : Nat) (message : String)
  /-- 202. -/
  | accepted (prediction : Prediction)

abbrev Analysis := Prog AnalysisStore AnalysisResult

/-- A state and its message, over whatever is stored by now. -/
def storeStatus (prediction : Prediction) (status : PredictionStatus) (message : String)
    (result : AnalysisResult) : Analysis := do
  Prog.modify (AnalysisStore.saveStatus
    { prediction with status := status, errorMessage := message })
  pure result

/-- `analyze_incident_with_model_task`. The prediction is read together with its
incident. -/
def analyzeIncidentWithModelTask (predictionId : PredictionId) (outcome : ModelOutcome) :
    Analysis := do
  match ← Prog.read fun s => (s.predictions.get? predictionId).map fun prediction =>
      (prediction, (s.incidentOf prediction).map fun incident => s.hasPhoto incident.id) with
  | none => pure .raised
  | some (prediction, photo) =>
    if prediction.status.isCompleted then pure .skipped
    else
      match photo with
      | none => storeStatus prediction .failed "Prediction has no related incident." .nothing
      | some false => storeStatus prediction .failed "Incident has no photo." .nothing
      | some true => do
        Prog.modify (AnalysisStore.saveStatus
          { prediction with status := .processing, errorMessage := "" })
        match outcome with
        | .answer data => do
          let prediction := fillPredictionFromModelResponse prediction data
          Prog.modify (AnalysisStore.savePrediction prediction)
          pure (.analysed prediction.id prediction.status)
        | .requestError exc =>
          storeStatus prediction .failed ("Model service request failed: " ++ exc) .raised
        | .failure exc => storeStatus prediction .failed exc .raised

/-- `get_or_create(incident=incident, defaults=...)`: a lookup, a creation
that may find itself overtaken, and a second lookup. -/
def getOrCreatePrediction (i : IncidentId) (view : Prediction → Analysis) : Analysis := do
  match ← Prog.read fun s => s.predictionOf i with
  | some prediction => view prediction
  | none =>
    match ← Prog.atomic (AnalysisStore.createPrediction i) with
    | some prediction => view prediction
    | none =>
      match ← Prog.read fun s => s.predictionOf i with
      | some prediction => view prediction
      | none => pure .raised

/-- `RetryIncidentPredictionView.post`. The task it starts is an execution of its own. -/
def retryIncidentPrediction (auth : Option UserId) (i : IncidentId) : Analysis := do
  match ← Prog.read fun s => s.db.authenticated auth with
  | none => pure .unauthorized
  | some user =>
    if user.isSuperuser = false then pure (.error 403 isSuperAdminMessage)
    else
      match ← Prog.read fun s => (s.db.incidents.get? i).map fun _ => s.hasPhoto i with
      | none => pure (.error 404 "Incident non trouvé.")
      | some false =>
        pure (.error 400 "L'incident n'a pas de photo, l'analyse est impossible.")
      | some true =>
        getOrCreatePrediction i fun prediction =>
          let prediction := { prediction with status := .pending, errorMessage := "" }
          do
            Prog.modify (AnalysisStore.saveStatus prediction)
            pure (.accepted prediction)

/-- What runs against the predictions: executions of the task, with what becomes of
their call, and requests to start it again. -/
inductive AnalysisOp where
  | execution (predictionId : PredictionId) (outcome : ModelOutcome)
  | retry (auth : Option UserId) (i : IncidentId)

def AnalysisOp.isRetry : AnalysisOp → Bool
  | retry .. => true
  | execution .. => false

def AnalysisOp.program : AnalysisOp → Analysis
  | execution predictionId outcome => analyzeIncidentWithModelTask predictionId outcome
  | retry auth i => retryIncidentPrediction auth i

/-! ## What is promised -/

section Results

variable {ι : Type} [DecidableEq ι]

def analysisPool (s : AnalysisStore) (ops : ι → AnalysisOp) :
    Pool AnalysisStore ι AnalysisResult where
  store := s
  progs i := (ops i).program

def AnalysisStore.Completed (s : AnalysisStore) (p : PredictionId) : Prop :=
  ∃ row, s.predictions.get? p = some row ∧ row.status.isCompleted = true

theorem completed_iff {s : AnalysisStore} {p : PredictionId} :
    s.Completed p ↔ (s.predictions.get? p).any (fun row => row.status.isCompleted) = true :=
  (Option.any_eq_true ..).symm

instance (s : AnalysisStore) (p : PredictionId) : Decidable (s.Completed p) :=
  decidable_of_iff' _ completed_iff

/-- A completed prediction stays so, unless a request to start the analysis again takes
its turn. -/
def ResultsStay (s : AnalysisStore) (ops : ι → AnalysisOp) (p : PredictionId)
    (schedule : List ι) : Prop :=
  ∀ past i, past ++ [i] <+: schedule →
    ((analysisPool s ops).exec past).store.Completed p →
      ((analysisPool s ops).exec (past ++ [i])).store.Completed p ∨ (ops i).isRetry = true

/-- The next action of the program stores a result of the prediction. -/
def StoresResult (program : Analysis) (p : PredictionId) : Prop :=
  ∃ prediction, program.Next (AnalysisStore.savePrediction prediction) ∧ prediction.id = p ∧
    prediction.status.isCompleted = true

/-- It saves another status: `pending`, `processing` or `failed`. -/
def SavesUnfinished (program : Analysis) (p : PredictionId) : Prop :=
  ∃ prediction, program.Next (AnalysisStore.saveStatus prediction) ∧ prediction.id = p ∧
    prediction.status.isCompleted = false

/-- Another execution has stored a result since the first turn of `i`, in which it has
read the prediction, and no request has set the prediction back since then. -/
def Overtaken (s : AnalysisStore) (ops : ι → AnalysisOp) (p : PredictionId) (past : List ι)
    (i : ι) : Prop :=
  ∃ before j since, past = before ++ j :: since ∧ i ∈ before ∧
    StoresResult (((analysisPool s ops).exec before).progs j) p ∧
    ∀ mid k rest, since = mid ++ k :: rest → (ops k).isRetry = true →
      ¬ SavesUnfinished (((analysisPool s ops).exec (before ++ j :: mid)).progs k) p

/-! ## How the programs proceed -/

/-- How far a program is: before its first turn, working on a prediction that it has
found unfinished, or at its end. -/
inductive AnalysisStage where
  | fresh (p : PredictionId)
  | working (p : PredictionId)
  | retrying
  | over

/-- What a program may do at its stage. It works on the prediction it has
found unfinished, and nothing makes it look again: a status that is no result,
or a result, is saved under the id of that row whatever has become of it. -/
inductive AnalysisStep : AnalysisStage → AnalysisStore → (AnalysisStore → AnalysisStore) →
    AnalysisStage → Prop where
  | found {p s row} (hrow : s.predictions.get? p = some row)
      (hstatus : row.status.isCompleted = false) : AnalysisStep (.fresh p) s id (.working p)
  | leave {p s} : AnalysisStep (.fresh p) s id .over
  | save {p s prediction} (hid : prediction.id = p)
      (hstatus : prediction.status.isCompleted = false) :
      AnalysisStep (.working p) s (AnalysisStore.saveStatus prediction) (.working p)
  | result {p s prediction} (hid : prediction.id = p)
      (hstatus : prediction.status.isCompleted = true) :
      AnalysisStep (.working p) s (AnalysisStore.savePrediction prediction) .over
  | look {s} : AnalysisStep .retrying s id .retrying
  | create {s} (i : IncidentId) :
      AnalysisStep .retrying s (fun s => (s.createPrediction i).2) .retrying
  | reset {s prediction} (hstatus : prediction.status.isCompleted = false) :
      AnalysisStep .retrying s (AnalysisStore.saveStatus prediction) .retrying

def AnalysisOp.stage : AnalysisOp → AnalysisStage
  | execution predictionId _ => .fresh predictionId
  | retry .. => .retrying

/-- A program that goes on in its stage and may end in any. -/
abbrev Proceeds (program : Analysis) (stage : AnalysisStage) : Prop :=
  program.Follows AnalysisStep (Prog.Ended fun _ _ => True) stage

theorem proceeds_pure (result : AnalysisResult) (stage : AnalysisStage) :
    Proceeds (pure result) stage :=
  Prog.follows_pure (Prog.ended_pure trivial)

theorem proceeds_modify {f : AnalysisStore → AnalysisStore} {rest : Analysis}
    {stage stage' : AnalysisStage} (hstep : ∀ s, AnalysisStep stage s f stage')
    (hrest : Proceeds rest stage') : Proceeds (Prog.modify f >>= fun _ => rest) stage :=
  Or.inr fun s => ⟨stage', hstep s, hrest⟩

theorem proceeds_storeStatus {prediction : Prediction} {status : PredictionStatus}
    {message : String} {result : AnalysisResult} (hstatus : status.isCompleted = false) :
    Proceeds (storeStatus prediction status message result) (.working prediction.id) :=
  proceeds_modify (fun _ => .save rfl hstatus) (proceeds_pure ..)

theorem fill_isCompleted (prediction : Prediction) (data : ModelAnswer) :
    (fillPredictionFromModelResponse prediction data).status.isCompleted = true := by
  unfold fillPredictionFromModelResponse
  dsimp only
  split <;> rfl

theorem proceeds_analyzeIncidentWithModelTask (p : PredictionId) (outcome : ModelOutcome) :
    Proceeds (analyzeIncidentWithModelTask p outcome) (.fresh p) := by
  refine Prog.follows_read fun s => ?_
  cases hrow : s.predictions.get? p with
  | none => exact ⟨.over, .leave, proceeds_pure ..⟩
  | some prediction =>
      have hid : prediction.id = p := Table.key_of_get? hrow
      dsimp only [Option.map_some]
      cases hstatus : prediction.status.isCompleted with
      | true => exact ⟨.over, .leave, proceeds_pure ..⟩
      | false =>
          refine ⟨.working p, .found hrow hstatus, ?_⟩
          subst hid
          rw [if_neg Bool.false_ne_true]
          generalize ((s.incidentOf prediction).map fun incident => s.hasPhoto incident.id) = photo
          rcases photo with _ | _ | _
          · exact proceeds_storeStatus rfl
          · exact proceeds_storeStatus rfl
          · refine proceeds_modify (fun _ => .save rfl rfl) ?_
            cases outcome with
            | answer data =>
                exact proceeds_modify (fun _ => .result rfl (fill_isCompleted prediction data))
                  (proceeds_pure ..)
            | requestError exc => exact proceeds_storeStatus rfl
            | failure exc => exact proceeds_storeStatus rfl

theorem proceeds_retryIncidentPrediction (auth : Option UserId) (i : IncidentId) :
    Proceeds (retryIncidentPrediction auth i) .retrying := by
  have hreset (prediction : Prediction) : Proceeds (do
      Prog.modify (AnalysisStore.saveStatus
        { prediction with status := .pending, errorMessage := "" })
      pure (.accepted { prediction with status := .pending, errorMessage := "" })) .retrying :=
    proceeds_modify (fun _ => .reset rfl) (proceeds_pure ..)
  refine Prog.follows_read fun s => ⟨.retrying, .look, ?_⟩
  cases s.db.authenticated auth with
  | none => exact proceeds_pure ..
  | some user =>
      refine Prog.follows_ite (fun _ => proceeds_pure ..) fun _ => ?_
      refine Prog.follows_read fun s => ⟨.retrying, .look, ?_⟩
      rcases (s.db.incidents.get? i).map fun _ => s.hasPhoto i with _ | _ | _
      · exact proceeds_pure ..
      · exact proceeds_pure ..
      · refine Prog.follows_read fun s => ⟨.retrying, .look, ?_⟩
        cases s.predictionOf i with
        | some prediction => exact hreset prediction
        | none =>
            refine Prog.follows_atomic fun s => ⟨.retrying, .create i, ?_⟩
            cases (s.createPrediction i).1 with
            | some prediction => exact hreset prediction
            | none =>
                refine Prog.follows_read fun s => ⟨.retrying, .look, ?_⟩
                cases s.predictionOf i with
                | some prediction => exact hreset prediction
                | none => exact proceeds_pure ..

theorem proceeds_program (op : AnalysisOp) : Proceeds op.program op.stage := by
  cases op with
  | execution p outcome => exact proceeds_analyzeIncidentWithModelTask p outcome
  | retry auth i => exact proceeds_retryIncidentPrediction auth i

/-! ## What a step does to a completed prediction -/

section Completed

variable {s : AnalysisStore} {p : PredictionId} {prediction : Prediction}

theorem completed_saveStatus (hstatus : prediction.status.isCompleted = false) :
    (s.saveStatus prediction).Completed p ↔ s.Completed p ∧ p ≠ prediction.id := by
  unfold AnalysisStore.Completed AnalysisStore.saveStatus
  rw [Table.get?_update]
  by_cases hp : p = prediction.id
  · simp [hp, hstatus]
  · simp [hp]

theorem completed_savePrediction (hstatus : prediction.status.isCompleted = true) :
    (s.savePrediction prediction).Completed p ↔ s.Completed p ∨ p = prediction.id := by
  have hkey : key prediction = prediction.id := rfl
  unfold AnalysisStore.Completed AnalysisStore.savePrediction
  rw [Table.get?_put, hkey]
  by_cases hp : p = prediction.id
  · simp [hp, hstatus]
  · simp [hp]

theorem completed_createPrediction (i : IncidentId) :
    (s.createPrediction i).2.Completed p ↔ s.Completed p := by
  unfold AnalysisStore.createPrediction
  split
  · rfl
  · have hfresh := s.predictions.get?_freshKey
    unfold AnalysisStore.Completed AnalysisStore.savePrediction
    dsimp only
    rw [Table.get?_put]
    split
    · rename_i hp
      have hp : p = s.predictions.freshKey := hp
      simp [hp, hfresh, PredictionStatus.isCompleted]
    · rfl

end Completed

/-! ## When results stay -/

variable {s : AnalysisStore} {ops : ι → AnalysisOp} {p : PredictionId} {past : List ι} {i j : ι}

theorem overtaken_snoc (h : Overtaken s ops p past i)
    (hreset : (ops j).isRetry = true →
      ¬ SavesUnfinished (((analysisPool s ops).exec past).progs j) p) :
    Overtaken s ops p (past ++ [j]) i := by
  obtain ⟨before, k, since, rfl, hi, hresult, hnever⟩ := h
  refine ⟨before, k, since ++ [j], by simp, hi, hresult, fun mid l rest heq hretry => ?_⟩
  rcases snoc_eq_append_cons heq with ⟨-, rfl, rfl⟩ | ⟨rest', -, rfl⟩
  · exact hreset hretry
  · exact hnever mid l rest' rfl hretry

/-- What holds of the stages: an execution that works has had its first turn, and if
the prediction is completed all the same, it has been overtaken. -/
def StagesFit (s : AnalysisStore) (ops : ι → AnalysisOp) (past : List ι)
    (stage : ι → AnalysisStage) : Prop :=
  ∀ i,
    ((ops i).isRetry = true ↔ stage i = .retrying) ∧
      ∀ p, stage i = .working p → i ∈ past ∧
        (((analysisPool s ops).exec past).store.Completed p → Overtaken s ops p past i)

theorem overtaken_turn
    (hpast : i ∈ past ∧ (((analysisPool s ops).exec past).store.Completed p →
      Overtaken s ops p past i))
    (hturn : ((analysisPool s ops).exec (past ++ [j])).store.Completed p →
      StoresResult (((analysisPool s ops).exec past).progs j) p ∨
        ((analysisPool s ops).exec past).store.Completed p ∧
          ¬ SavesUnfinished (((analysisPool s ops).exec past).progs j) p) :
    i ∈ past ++ [j] ∧ (((analysisPool s ops).exec (past ++ [j])).store.Completed p →
      Overtaken s ops p (past ++ [j]) i) := by
  refine ⟨List.mem_append_left _ hpast.1, fun hcompleted => ?_⟩
  rcases hturn hcompleted with hresult | ⟨hbefore, hreset⟩
  · refine ⟨past, j, [], rfl, hpast.1, hresult, fun mid k rest heq => ?_⟩
    exact absurd heq.symm (List.append_ne_nil_of_right_ne_nil mid (List.cons_ne_nil k rest))
  · exact overtaken_snoc (hpast.2 hbefore) fun _ => hreset

/-- A step that leaves the prediction completed has found it so, or stores a result. -/
theorem AnalysisStep.completed {stage stage' : AnalysisStage} {d : AnalysisStore}
    {write : AnalysisStore → AnalysisStore} (h : AnalysisStep stage d write stage')
    (hafter : (write d).Completed p) :
    d.Completed p ∨ ∃ prediction, write = AnalysisStore.savePrediction prediction ∧
      prediction.id = p ∧ prediction.status.isCompleted = true := by
  cases h with
  | found | leave | look => exact Or.inl hafter
  | save hid hstatus => exact Or.inl ((completed_saveStatus hstatus).mp hafter).1
  | reset hstatus => exact Or.inl ((completed_saveStatus hstatus).mp hafter).1
  | create i => exact Or.inl ((completed_createPrediction i).mp hafter)
  | result hid hstatus =>
      refine ((completed_savePrediction hstatus).mp hafter).imp_right fun hp => ?_
      exact ⟨_, rfl, hp.symm, hstatus⟩

theorem not_savesUnfinished
    (h : ((analysisPool s ops).exec (past ++ [i])).store.Completed p) :
    ¬ SavesUnfinished (((analysisPool s ops).exec past).progs i) p := by
  rintro ⟨prediction, ⟨next, hprog⟩, rfl, hstatus⟩
  rw [Pool.store_exec_snoc hprog] at h
  exact ((completed_saveStatus hstatus).mp h).2 rfl

/-- The stages of all the executions fit the store after a turn of one of
them. Those that are working on the same prediction may have been overtaken by
it, and that is the case the law is about. -/
theorem stagesFit_act {stage : ι → AnalysisStage} {write : AnalysisStore → AnalysisStore}
    {next : AnalysisStore → Analysis} {stage' : AnalysisStage} (hfit : StagesFit s ops past stage)
    (hprog : ((analysisPool s ops).exec past).progs i = .act write next)
    (hstep : AnalysisStep (stage i) ((analysisPool s ops).exec past).store write stage') :
    StagesFit s ops (past ++ [i]) (Function.update stage i stage') := by
  have hstore : ((analysisPool s ops).exec (past ++ [i])).store =
      write ((analysisPool s ops).exec past).store := by
    rw [Pool.store_exec_snoc hprog]
  have hturn (q : PredictionId)
      (hafter : ((analysisPool s ops).exec (past ++ [i])).store.Completed q) :
      StoresResult (((analysisPool s ops).exec past).progs i) q ∨
        ((analysisPool s ops).exec past).store.Completed q ∧
          ¬ SavesUnfinished (((analysisPool s ops).exec past).progs i) q := by
    rcases hstep.completed (hstore ▸ hafter) with hbefore | ⟨prediction, rfl, hid, hstatus⟩
    · exact Or.inr ⟨hbefore, not_savesUnfinished hafter⟩
    · exact Or.inl ⟨prediction, ⟨next, hprog⟩, hid, hstatus⟩
  intro j
  obtain ⟨hretry, hworks⟩ := hfit j
  by_cases hj : j = i
  · subst hj
    rw [Function.update_self]
    generalize stage j = before at hretry hworks hstep
    constructor
    · rw [hretry]
      cases hstep <;> simp
    · rintro p rfl
      cases hstep with
      | found hrow hstatus =>
          refine ⟨List.mem_append_right _ (List.mem_singleton_self j), fun hafter => ?_⟩
          rw [hstore] at hafter
          obtain ⟨row, hrow', hcompleted⟩ := hafter
          obtain rfl := Option.some.inj (hrow.symm.trans hrow')
          rw [hstatus] at hcompleted
          cases hcompleted
      | save hid hstatus => exact overtaken_turn (hworks p rfl) (hturn p)
  · rw [Function.update_of_ne hj]
    exact ⟨hretry, fun p hp => overtaken_turn (hworks p hp) (hturn p)⟩

theorem stagesFit_exec (s : AnalysisStore) (ops : ι → AnalysisOp) (schedule : List ι) :
    ∃ stage, StagesFit s ops schedule stage ∧
      ∀ i, Proceeds (((analysisPool s ops).exec schedule).progs i) (stage i) := by
  refine Pool.exec_phases (c := analysisPool s ops)
    (fun i => proceeds_program (ops i)) (I := StagesFit s ops) (fun i => ?_) ?_ ?_ schedule
  · have hstart (op : AnalysisOp) :
        (op.isRetry = true ↔ op.stage = .retrying) ∧ ∀ p, op.stage ≠ .working p := by
      cases op <;> simp [AnalysisOp.isRetry, AnalysisOp.stage]
    exact ⟨(hstart (ops i)).1, fun p hp => absurd hp ((hstart (ops i)).2 p)⟩
  · intro past stage i result hfit hprog j
    refine ⟨(hfit j).1, fun p hp => overtaken_turn ((hfit j).2 p hp) fun hafter => Or.inr ?_⟩
    refine ⟨?_, not_savesUnfinished hafter⟩
    rwa [Pool.exec_snoc_done hprog] at hafter
  · exact fun past stage i write next stage' => stagesFit_act

/-- A result can only be lost in the turn of an execution that saves something
unfinished over it, and such an execution read the row while it was
unfinished, or is a retry. -/
theorem lost_turn {stage : ι → AnalysisStage}
    (hproceeds : ∀ i, Proceeds (((analysisPool s ops).exec past).progs i) (stage i))
    (hbefore : ((analysisPool s ops).exec past).store.Completed p)
    (hafter : ¬ ((analysisPool s ops).exec (past ++ [i])).store.Completed p) :
    SavesUnfinished (((analysisPool s ops).exec past).progs i) p ∧
      (stage i = .working p ∨ stage i = .retrying) := by
  cases hprog : ((analysisPool s ops).exec past).progs i with
  | done result =>
      rw [Pool.exec_snoc_done hprog] at hafter
      exact absurd hbefore hafter
  | act write next =>
      rw [Pool.store_exec_snoc hprog] at hafter
      have hi := hproceeds i
      rw [hprog] at hi
      rcases hi with ⟨result, hend, -⟩ | hi
      · cases hend
      obtain ⟨stage', hstep, -⟩ := hi ((analysisPool s ops).exec past).store
      generalize stage i = before at hstep
      cases hstep with
      | found | leave | look => exact absurd hbefore hafter
      | create i => exact absurd ((completed_createPrediction i).mpr hbefore) hafter
      | result hid hstatus =>
          exact absurd ((completed_savePrediction hstatus).mpr (Or.inl hbefore)) hafter
      | save hid hstatus =>
          have hp : p = _ := not_not.mp fun hp =>
            hafter ((completed_saveStatus hstatus).mpr ⟨hbefore, hp⟩)
          exact ⟨⟨_, ⟨next, rfl⟩, hp.symm, hstatus⟩, Or.inl (by rw [← hid, hp])⟩
      | reset hstatus =>
          have hp : p = _ := not_not.mp fun hp =>
            hafter ((completed_saveStatus hstatus).mpr ⟨hbefore, hp⟩)
          exact ⟨⟨_, ⟨next, rfl⟩, hp.symm, hstatus⟩, Or.inr rfl⟩

/-- Where results stay, a result that no request sets back is there at every later turn, by
induction on the turns since it was stored. -/
theorem completed_since {schedule before since : List ι} (h : ResultsStay s ops p schedule)
    (hbegin : before ++ j :: since <+: schedule)
    (hresult : StoresResult (((analysisPool s ops).exec before).progs j) p)
    (hnever : ∀ mid k rest, since = mid ++ k :: rest → (ops k).isRetry = true →
      ¬ SavesUnfinished (((analysisPool s ops).exec (before ++ j :: mid)).progs k) p) :
    ((analysisPool s ops).exec (before ++ j :: since)).store.Completed p := by
  induction since using List.reverseRecOn with
  | nil =>
      obtain ⟨prediction, ⟨next, hprog⟩, hid, hstatus⟩ := hresult
      rw [Pool.store_exec_snoc hprog]
      exact (completed_savePrediction hstatus).mpr (Or.inr hid.symm)
  | append_singleton since k ih =>
      have heq : before ++ j :: (since ++ [k]) = (before ++ j :: since) ++ [k] := by simp
      rw [heq] at hbegin ⊢
      have hbefore := ih ((List.prefix_append ..).trans hbegin) fun mid k' rest hsince =>
        hnever mid k' (rest ++ [k]) (by simp [hsince])
      rcases h _ k hbegin hbefore with hafter | hretry
      · exact hafter
      · by_contra hafter
        obtain ⟨stage, -, hproceeds⟩ := stagesFit_exec s ops (before ++ j :: since)
        exact hnever since k [] rfl hretry (lost_turn hproceeds hbefore hafter).1

/-- Results stay exactly when no execution that has been overtaken saves
`processing` or `failed`. An execution that has looked after the result was
stored stops at its first turn, so only those that were at work by then can do
harm. -/
theorem results_stay_iff (s : AnalysisStore) (ops : ι → AnalysisOp) (p : PredictionId)
    (schedule : List ι) :
    ResultsStay s ops p schedule ↔
      ∀ past i, past ++ [i] <+: schedule → (ops i).isRetry = false →
        SavesUnfinished (((analysisPool s ops).exec past).progs i) p →
          ¬ Overtaken s ops p past i := by
  constructor
  · rintro h past i hprefix hexecution hsaves ⟨before, j, since, rfl, hi, hresult, hnever⟩
    have hcompleted := completed_since h ((List.prefix_append ..).trans hprefix) hresult hnever
    rcases h _ i hprefix hcompleted with hafter | hretry
    · exact not_savesUnfinished hafter hsaves
    · rw [hexecution] at hretry
      cases hretry
  · intro h past i hprefix hcompleted
    cases hretry : (ops i).isRetry with
    | true => exact Or.inr rfl
    | false =>
        refine Or.inl (by_contra fun hafter => ?_)
        obtain ⟨stage, hfit, hproceeds⟩ := stagesFit_exec s ops past
        obtain ⟨hsaves, hstage⟩ := lost_turn hproceeds hcompleted hafter
        have hworks : stage i = .working p := by
          refine hstage.resolve_right fun hretrying => ?_
          rw [(hfit i).1.mpr hretrying] at hretry
          cases hretry
        exact h past i hprefix hretry hsaves (((hfit i).2 p hworks).2 hcompleted)

end Results

def photographed : AnalysisStore where
  db := Db.start [] [] (.new 1 (some "Fuite") "Bamako" "01-02-2025") rfl rfl
  photo _ := some "photos/fuite.jpg"
  predictions := Table.empty.put
    { id := 1, incident := some 1, status := .pending, errorMessage := "", macroCategory := ""
      subCategory := "", exposed := fun _ => 0, infrastructure := fun _ => 0
      fullResponse := .empty }

/-- A task that is delivered twice: one execution gets an answer, the request of the
other one fails. -/
def deliveredTwice : Bool → AnalysisOp
  | true => .execution 1 (.answer .empty)
  | false => .execution 1 (.requestError "Read timed out.")

theorem result_overwritten :
    ¬ ResultsStay photographed deliveredTwice 1 [true, false, true, false, true, false] := by
  intro h
  exact absurd (h [true, false, true, false, true] false List.prefix_rfl (by decide)) (by decide)

end Mapapi
