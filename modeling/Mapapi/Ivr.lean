import Mapapi.Lib.Runs
import Mapapi.Models

/-!
# Reporting by telephone

A caller is led through four webhooks: he hears the zones, presses a digit, hears the
categories, presses a digit, and speaks. The webhooks share nothing but the row of the
call. Each asks the database anew for the first nine zones or categories, in no order, so
the digit may select another one than was read out; and `ProcessRecordingView` swallows
every exception, creates an incident each time it is called, and always says that the
incident was stored.

What the caller has heard and pressed is a component of its own (`Caller`), so that what
he was promised can be compared with what is stored. The two agree as long as the menus
do not change between the reading and the choice, and the recording is processed once, in
a way that the database accepts (`IvrEvent.InStep`).
-/

namespace Mapapi

open Lib

/-! ## The store -/

structure Zone where
  id : Nat
  /-- Unique. -/
  name : String
  /-- The serializers refuse an empty name, the column a long one. -/
  named : name ≠ "" ∧ name.length ≤ 250
  deriving DecidableEq

instance : Keyed Zone Nat := ⟨Zone.id⟩

structure Category where
  id : Nat
  /-- Unique. -/
  name : String
  deriving DecidableEq

instance : Keyed Category Nat := ⟨Category.id⟩

/-- The columns of a user that count here. -/
structure IvrUser where
  id : UserId
  phone : Option String
  /-- Unique. -/
  email : String
  deriving DecidableEq

instance : Keyed IvrUser UserId := ⟨IvrUser.id⟩

/-- The row of a call. What the caller has chosen is kept as the name of a
zone and the key of a category. -/
structure IvrCall where
  phoneNumber : String
  status : String
  zoneSelected : Option String
  categorySelected : Option Nat
  descriptionAudioUrl : Option String
  descriptionAudioDuration : Option Int
  incidentCreated : Option IncidentId
  user : Option UserId
  deriving DecidableEq

structure IvrInteraction where
  step : String
  userInput : Option String
  recordingUrl : Option String
  recordingDuration : Option Int
  deriving DecidableEq

/-- The columns of an incident that `ProcessRecordingView` sets. -/
structure IvrIncident where
  id : IncidentId
  title : String
  zone : String
  description : String
  audio : Option String
  user : UserId
  category : Option Nat
  etat : Etat
  deriving DecidableEq

instance : Keyed IvrIncident IncidentId := ⟨IvrIncident.id⟩

/-- The tables, with the row and the interactions of one `CallSid`. -/
structure IvrStore where
  callSid : String
  call : Option IvrCall
  interactions : List IvrInteraction
  zones : Table Zone
  categories : Table Category
  users : Table IvrUser
  incidents : Table IvrIncident

namespace IvrStore

def addInteraction (s : IvrStore) (interaction : IvrInteraction) : IvrStore :=
  { s with interactions := s.interactions ++ [interaction] }

def saveCall (s : IvrStore) (call : IvrCall) : IvrStore := { s with call := some call }

/-- `User.objects.get_or_create(phone=phone, defaults=...)`. It raises when several users
have the phone number, and when another one has the email. -/
def getOrCreateUser (s : IvrStore) (phone : String) : Option (IvrUser × IvrStore) :=
  match s.users.select fun user => decide (user.phone = some phone) with
  | [user] => some (user, s)
  | _ :: _ :: _ => none
  | [] =>
    let user : IvrUser :=
      { id := s.users.freshKey, phone := some phone, email := phone ++ "@phone.mapaction.com" }
    if s.users.rows.any (fun other => decide (other.email = user.email)) then none
    else some (user, { s with users := s.users.put user })

end IvrStore

/-! ## Menus -/

/-- A query without an ordering returns the rows in some order. -/
structure RowOrder (ρ : Type) where
  arrange : List ρ → List ρ
  perm : ∀ rows, (arrange rows).Perm rows

/-- The entries that are read out. The query has no order, so a later one may
list the same rows differently. -/
def RowOrder.menu {ρ κ : Type} [Keyed ρ κ] (order : RowOrder ρ) (t : Table ρ) : List ρ :=
  (order.arrange t.rows).take 9

/-- The digits as they are sent, and what `int` makes of them (`none`: it raises). -/
structure Digits where
  text : String
  int : Option Int
  deriving DecidableEq

/-- The entry of a menu that the digits select. -/
def Digits.pick {ρ : Type} (digits : Digits) (menu : List ρ) : Option ρ :=
  digits.int.bind fun n => if 1 ≤ n then menu[(n - 1).toNat]? else none

/-! ## The webhooks -/

/-- What a webhook has Twilio say. -/
inductive IvrAnswer where
  | welcome
  | zoneMenu (zones : List Zone)
  | operator
  | invalidOption
  | categoryMenu (categories : List Category)
  | describe
  | thanks
  | crash
  deriving DecidableEq

def readOut (names : List String) : String :=
  (names.zipIdx 1).foldl (fun message entry =>
    message ++ "Pour " ++ entry.1 ++ ", appuyez sur " ++ toString entry.2 ++ ". ") ""

def IvrAnswer.says : IvrAnswer → List String
  | welcome =>
    ["Bienvenue au système de signalement d'incidents de Map Action.",
      "Pour signaler un incident, appuyez sur 1. Pour parler à un opérateur, appuyez sur 2.",
      "Nous n'avons pas reçu de réponse. Au revoir."]
  | zoneMenu zones =>
    ["Veuillez sélectionner votre zone. " ++ readOut (zones.map Zone.name),
      "Nous n'avons pas reçu de réponse. Au revoir."]
  | operator => ["Transfert vers un opérateur. Veuillez patienter."]
  | invalidOption => ["Option invalide. Au revoir."]
  | categoryMenu categories =>
    ["Veuillez sélectionner la catégorie de l'incident. " ++ readOut (categories.map Category.name),
      "Nous n'avons pas reçu de réponse. Au revoir."]
  | describe =>
    ["Veuillez décrire l'incident après le bip. " ++
      "Appuyez sur dièse lorsque vous avez terminé."]
  | thanks =>
    ["Merci pour votre signalement. Votre incident a été enregistré avec succès. Au revoir."]
  | crash => []

abbrev Webhook := IvrStore → IvrAnswer × IvrStore

/-- `TwilioIVRWebhook.post`. A column that is missing or too long makes the save raise. -/
def twilioIvrWebhook (fromNumber callStatus : Option String) : Webhook := fun s =>
  match callStatus with
  | none => (.crash, s)
  | some status =>
    if status.length > 50 then (.crash, s)
    else
      match s.call with
      | some call => (.welcome, s.saveCall { call with status := status })
      | none =>
        match fromNumber with
        | none => (.crash, s)
        | some phone =>
          if phone.length > 20 ∨ s.callSid.length > 255 then (.crash, s)
          else (.welcome, s.saveCall
            { phoneNumber := phone, status := status, zoneSelected := none
              categorySelected := none, descriptionAudioUrl := none
              descriptionAudioDuration := none, incidentCreated := none, user := none })

/-- The answer is chosen before the call is looked up, and the digits are
stored as they were sent. So the menu is read out even when nothing can be
stored. -/
def selectZone (digits : Option Digits) (order : RowOrder Zone) : Webhook := fun s =>
  let answer : IvrAnswer :=
    match digits.map Digits.text with
    | some "1" => .zoneMenu (order.menu s.zones)
    | some "2" => .operator
    | _ => .invalidOption
  match s.call with
  | none => (answer, s)
  | some _ =>
    if (digits.map Digits.text).any (fun text => decide (text.length > 255)) then (.crash, s)
    else (answer, s.addInteraction
      { step := "main_menu", userInput := digits.map Digits.text, recordingUrl := none
        recordingDuration := none })

/-- Store a choice with the call, for a webhook that then answers. Without digits `int`
raises an exception that is not caught, and so does the interaction when they are too
long. -/
def storeChoice {ρ : Type} (digits : Option Digits) (menu : List ρ) (step : String)
    (choose : ρ → IvrCall → IvrCall) (answer : IvrAnswer) : Webhook := fun s =>
  match s.call with
  | none => (answer, s)
  | some call =>
    match digits with
    | none => (.crash, s)
    | some digits =>
      match digits.pick menu with
      | none => (answer, s)
      | some selected =>
        let s := s.saveCall (choose selected call)
        if digits.text.length > 255 then (.crash, s)
        else (answer, s.addInteraction
          { step := step, userInput := some digits.text, recordingUrl := none
            recordingDuration := none })

def selectCategory (digits : Option Digits) (zoneOrder : RowOrder Zone)
    (categoryOrder : RowOrder Category) : Webhook := fun s =>
  storeChoice digits (zoneOrder.menu s.zones) "zone_selection"
    (fun selectedZone call => { call with zoneSelected := some selectedZone.name })
    (.categoryMenu (categoryOrder.menu s.categories)) s

def recordDescription (digits : Option Digits) (order : RowOrder Category) : Webhook := fun s =>
  storeChoice digits (order.menu s.categories) "category_selection"
    (fun selectedCategory call => { call with categorySelected := some selectedCategory.id })
    .describe s

/-- What the columns of a recording can hold: a URL of 200 characters and an
integer of the database. -/
def recordingFits (url : Option String) (duration : Option Digits) : Bool :=
  url.all (fun url => decide (url.length ≤ 200)) &&
    duration.all fun duration =>
      duration.int.any fun n => decide (-2147483648 ≤ n ∧ n ≤ 2147483647)

def IvrCall.title (call : IvrCall) : String :=
  "Incident signalé par téléphone - " ++ printed call.zoneSelected

/-- The columns `title` and `audio` hold the values; a file field has 100 characters. -/
def incidentFits (call : IvrCall) (url : Option String) : Bool :=
  decide (call.title.length ≤ 250) && url.all fun url => decide (url.length ≤ 100)

def IvrCall.recorded (call : IvrCall) (url : Option String) (duration : Option Digits) : IvrCall :=
  { call with
    descriptionAudioUrl := url, descriptionAudioDuration := duration.bind Digits.int
    status := "completed" }

def IvrCall.incident (call : IvrCall) (id : IncidentId) (url : Option String) (user : UserId) :
    IvrIncident :=
  { id := id, title := call.title
    zone := (presentText call.zoneSelected).getD "Zone non spécifiée"
    description := "Incident signalé via IVR. Enregistrement audio disponible."
    audio := url, user := user, category := call.categorySelected, etat := .declared }

/-- `ProcessRecordingView.post`: whatever is raised, it says thanks. -/
def processRecording (url : Option String) (duration : Option Digits) : Webhook := fun s =>
  match s.call with
  | none => (.thanks, s)
  | some call =>
    if recordingFits url duration = false then (.thanks, s)
    else
      let call := call.recorded url duration
      let s := (s.saveCall call).addInteraction
        { step := "description_recording", userInput := none, recordingUrl := url
          recordingDuration := duration.bind Digits.int }
      match s.getOrCreateUser call.phoneNumber with
      | none => (.thanks, s)
      | some (user, s) =>
        if incidentFits call url = false then (.thanks, s)
        else
          let incident := call.incident s.incidents.freshKey url user.id
          let s := { s with incidents := s.incidents.put incident }
          (.thanks, s.saveCall
            { call with incidentCreated := some incident.id, user := some user.id })

/-- What happens during a call: webhooks, and new zones and categories. -/
inductive IvrEvent where
  | incoming (fromNumber callStatus : Option String)
  | selectZone (digits : Option Digits) (order : RowOrder Zone)
  | selectCategory (digits : Option Digits) (zoneOrder : RowOrder Zone)
    (categoryOrder : RowOrder Category)
  | recordDescription (digits : Option Digits) (order : RowOrder Category)
  | processRecording (url : Option String) (duration : Option Digits)
  | insertZone (zone : Zone)
  | insertCategory (category : Category)

/-- The answer, if the event is a webhook, and the store afterwards. Names are unique. -/
def IvrEvent.handle (s : IvrStore) : IvrEvent → Option IvrAnswer × IvrStore
  | incoming fromNumber callStatus => (twilioIvrWebhook fromNumber callStatus s).map some id
  | selectZone digits order => (Mapapi.selectZone digits order s).map some id
  | selectCategory digits zoneOrder categoryOrder =>
    (Mapapi.selectCategory digits zoneOrder categoryOrder s).map some id
  | recordDescription digits order => (Mapapi.recordDescription digits order s).map some id
  | processRecording url duration => (Mapapi.processRecording url duration s).map some id
  | insertZone zone =>
    (none, if s.zones.rows.any (fun other => decide (other.id = zone.id ∨ other.name = zone.name))
      then s else { s with zones := s.zones.put zone })
  | insertCategory category =>
    (none, if s.categories.rows.any
        (fun other => decide (other.id = category.id ∨ other.name = category.name))
      then s else { s with categories := s.categories.put category })

/-! ## The caller -/

/-- What the caller has heard last, and which of it he has chosen. -/
structure Caller where
  zones : List Zone
  categories : List Category
  zone : Option Zone
  category : Option Category
  deriving DecidableEq

def Caller.new : Caller := { zones := [], categories := [], zone := none, category := none }

/-- He presses the digits of a webhook; a digit that was not read out chooses nothing. -/
def Caller.presses (caller : Caller) : IvrEvent → Caller
  | .selectCategory digits _ _ =>
    { caller with zone := (digits.bind (·.pick caller.zones)).or caller.zone }
  | .recordDescription digits _ =>
    { caller with category := (digits.bind (·.pick caller.categories)).or caller.category }
  | _ => caller

/-- The caller learns the entries of the menu that is read out last; the other
answers name none. -/
def Caller.hears (caller : Caller) : Option IvrAnswer → Caller
  | some (.zoneMenu zones) => { caller with zones := zones }
  | some (.categoryMenu categories) => { caller with categories := categories }
  | _ => caller

/-- The zone that the incident should have. -/
def Caller.zoneName (caller : Caller) : String :=
  (caller.zone.map Zone.name).getD "Zone non spécifiée"

/-- The two ends of a call: what is stored, and what the caller has heard.
They are kept apart so that the claim is about their agreement. -/
structure Line where
  store : IvrStore
  caller : Caller

def Line.step (line : Line) (e : IvrEvent) : Line where
  store := (e.handle line.store).2
  caller := (line.caller.presses e).hears (e.handle line.store).1

/-- Before the first webhook of the call. -/
structure Line.Fresh (line : Line) : Prop where
  call : line.store.call = none
  caller : line.caller = .new

/-! ## What is promised, and when -/

def IvrStore.reported (s : IvrStore) : Option IvrIncident :=
  (s.call.bind IvrCall.incidentCreated).bind s.incidents.get?

/-- One incident at most, with what the caller has chosen; and what he is told is true. -/
structure TellsTruth (line : Line) (es : List IvrEvent) : Prop where
  once : (exec Line.step line es).store.incidents.rows.length ≤
    line.store.incidents.rows.length + 1
  asHeard : ∀ past e, past ++ [e] <+: es →
    ∀ incident ∈ (exec Line.step line (past ++ [e])).store.incidents.rows,
      incident ∉ (exec Line.step line past).store.incidents.rows →
        incident.zone = (exec Line.step line past).caller.zoneName ∧
          incident.category = (exec Line.step line past).caller.category.map Category.id
  truthful : ∀ past e, past ++ [e] <+: es →
    (e.handle (exec Line.step line past).store).1 = some .thanks →
      (exec Line.step line (past ++ [e])).store.reported ≠ none

/-- The rows of a recording can be stored: there is a call, and no column is too short, no
phone number shared and no email taken. -/
def IvrStore.accepts (s : IvrStore) (url : Option String) (duration : Option Digits) : Bool :=
  s.call.any fun call =>
    recordingFits url duration && (s.getOrCreateUser call.phoneNumber).isSome &&
      incidentFits call url

/-- A choice selects what was read out, for a call that is stored. A recording is processed
when there is no incident yet, and the rows can be stored; or when neither is the case. -/
def IvrEvent.InStep (line : Line) : IvrEvent → Prop
  | selectCategory digits zoneOrder _ =>
    let selected := digits.bind (·.pick (zoneOrder.menu line.store.zones))
    selected = digits.bind (·.pick line.caller.zones) ∧
      (selected ≠ none → line.store.call ≠ none)
  | recordDescription digits order =>
    let selected := digits.bind (·.pick (order.menu line.store.categories))
    selected = digits.bind (·.pick line.caller.categories) ∧
      (selected ≠ none → line.store.call ≠ none)
  | processRecording url duration =>
    line.store.accepts url duration = true ↔ line.store.reported = none
  | _ => True

instance (line : Line) : (e : IvrEvent) → Decidable (e.InStep line)
  | .selectCategory .. | .recordDescription .. => inferInstanceAs (Decidable (_ = _ ∧ (_ → _)))
  | .processRecording .. => inferInstanceAs (Decidable (_ = true ↔ _ = none))
  | .incoming .. | .selectZone .. | .insertZone .. | .insertCategory .. =>
    inferInstanceAs (Decidable True)

/-! ## What the webhooks leave -/

section Webhooks

variable {s : IvrStore}

theorem storeChoice_call {ρ : Type} {digits : Option Digits} {menu : List ρ} {step : String}
    {choose : ρ → IvrCall → IvrCall} {answer : IvrAnswer} :
    (storeChoice digits menu step choose answer s).2.call = s.call.map fun call =>
      ((digits.bind (·.pick menu)).map fun selected => choose selected call).getD call := by
  unfold storeChoice
  cases hcall : s.call with
  | none => exact hcall
  | some call =>
  cases digits with
  | none => exact hcall
  | some digits =>
  cases hselected : digits.pick menu with
  | none => simp [hcall, hselected]
  | some selected =>
      simp only [Option.bind_some, hselected, Option.map_some, Option.getD_some]
      split <;> rfl

theorem storeChoice_incidents {ρ : Type} {digits : Option Digits} {menu : List ρ}
    {step : String} {choose : ρ → IvrCall → IvrCall} {answer : IvrAnswer} :
    (storeChoice digits menu step choose answer s).2.incidents = s.incidents := by
  unfold storeChoice
  split
  · rfl
  split
  · rfl
  split
  · rfl
  · dsimp only
    split <;> rfl

theorem storeChoice_answer {ρ : Type} {digits : Option Digits} {menu : List ρ} {step : String}
    {choose : ρ → IvrCall → IvrCall} {answer : IvrAnswer} (hanswer : answer ≠ .thanks) :
    (storeChoice digits menu step choose answer s).1 ≠ .thanks := by
  unfold storeChoice
  split
  · exact hanswer
  split
  · exact nofun
  split
  · exact hanswer
  · dsimp only
    split
    · exact nofun
    · exact hanswer

theorem getOrCreateUser_isSome {s' : IvrStore} (h : s'.users = s.users) (phone : String) :
    (s'.getOrCreateUser phone).isSome = (s.getOrCreateUser phone).isSome := by
  unfold IvrStore.getOrCreateUser
  rw [h]
  split
  · rfl
  · rfl
  · dsimp only
    split <;> rfl

theorem getOrCreateUser_keeps {s' : IvrStore} {phone : String} {user : IvrUser}
    (h : s.getOrCreateUser phone = some (user, s')) :
    s'.call = s.call ∧ s'.incidents = s.incidents := by
  unfold IvrStore.getOrCreateUser at h
  split at h
  · cases h
    exact ⟨rfl, rfl⟩
  · cases h
  · dsimp only at h
    split at h
    · cases h
    · cases h
      exact ⟨rfl, rfl⟩

/-- What the row of a call keeps while a recording is processed. -/
structure IvrCall.SameChoice (call call' : IvrCall) : Prop where
  zone : call'.zoneSelected = call.zoneSelected
  category : call'.categorySelected = call.categorySelected

theorem processRecording_accepted {url : Option String} {duration : Option Digits}
    (h : s.accepts url duration = true) :
    ∃ call call' user, s.call = some call ∧ call.SameChoice call' ∧
      call'.incidentCreated = some s.incidents.freshKey ∧
      (processRecording url duration s).2.call = some call' ∧
      (processRecording url duration s).2.incidents =
        s.incidents.put (call.incident s.incidents.freshKey url user) := by
  obtain ⟨call, hcall, haccepts⟩ := (Option.any_eq_true ..).mp h
  rw [Bool.and_eq_true, Bool.and_eq_true] at haccepts
  obtain ⟨⟨hrecording, huser⟩, hincident⟩ := haccepts
  unfold processRecording
  rw [hcall]
  dsimp only
  rw [if_neg (by rw [hrecording]; exact nofun)]
  generalize hs' : (s.saveCall (call.recorded url duration)).addInteraction _ = s'
  have hsome : (s'.getOrCreateUser (call.recorded url duration).phoneNumber).isSome = true := by
    rw [getOrCreateUser_isSome (s := s) (hs' ▸ rfl)]
    exact huser
  obtain ⟨⟨user, s''⟩, hfound⟩ := Option.isSome_iff_exists.mp hsome
  obtain ⟨-, hincidents⟩ := getOrCreateUser_keeps hfound
  have hsame : s''.incidents = s.incidents := hincidents.trans (hs' ▸ rfl)
  have hfits : incidentFits (call.recorded url duration) url = true := hincident
  rw [hfound]
  dsimp only
  rw [if_neg (by rw [hfits]; exact nofun), hsame]
  exact ⟨call, { call.recorded url duration with
    incidentCreated := some s.incidents.freshKey, user := some user.id }, user.id, rfl, ⟨rfl, rfl⟩,
    rfl, rfl, rfl⟩

/-- A recording that is not accepted leaves the incidents alone, and of the
call it can only change what the caller is not told of. -/
theorem processRecording_refused {url : Option String} {duration : Option Digits}
    (h : s.accepts url duration = false) :
    (processRecording url duration s).2.incidents = s.incidents ∧
      ((processRecording url duration s).2.call = s.call ∨
        ∃ call call', s.call = some call ∧ (processRecording url duration s).2.call = some call' ∧
          call.SameChoice call' ∧ call'.incidentCreated = call.incidentCreated) := by
  unfold processRecording
  cases hcall : s.call with
  | none => exact ⟨rfl, Or.inl hcall⟩
  | some call =>
  simp only [IvrStore.accepts, hcall, Option.any_some, Bool.and_eq_false_iff] at h
  dsimp only
  split
  · exact ⟨rfl, Or.inl hcall⟩
  · rename_i hrecording
    generalize hs' : (s.saveCall (call.recorded url duration)).addInteraction _ = s'
    have hsaved : s'.call = some (call.recorded url duration) := hs' ▸ rfl
    have hsame : s'.incidents = s.incidents := hs' ▸ rfl
    split
    · exact ⟨hsame, Or.inr ⟨call, _, rfl, hsaved, ⟨rfl, rfl⟩, rfl⟩⟩
    · rename_i user s'' hfound
      obtain ⟨hkept, hincidents⟩ := getOrCreateUser_keeps hfound
      split
      · exact ⟨hincidents.trans hsame,
          Or.inr ⟨call, _, rfl, hkept.trans hsaved, ⟨rfl, rfl⟩, rfl⟩⟩
      · rename_i hfits
        have huser : (s.getOrCreateUser call.phoneNumber).isSome = true := by
          have husers : s'.users = s.users := hs' ▸ rfl
          exact (getOrCreateUser_isSome husers _).symm.trans (congrArg Option.isSome hfound)
        rcases h with (h | h) | h
        · exact absurd h hrecording
        · exact absurd (huser.symm.trans h) nofun
        · exact absurd h hfits

end Webhooks

/-! ## What the caller knows -/

@[simp] theorem Caller.hears_zone (caller : Caller) (answer : Option IvrAnswer) :
    (caller.hears answer).zone = caller.zone := by
  unfold hears
  split <;> rfl

@[simp] theorem Caller.hears_category (caller : Caller) (answer : Option IvrAnswer) :
    (caller.hears answer).category = caller.category := by
  unfold hears
  split <;> rfl

/-- The call has the zone and the category of the caller, and its incident is
the only one since `n`. It is kept by every webhook that is in step; what the
caller is told follows from it and from what the webhook answers. -/
structure Line.Agrees (n : Nat) (line : Line) : Prop where
  zone : line.store.call.bind IvrCall.zoneSelected = line.caller.zone.map Zone.name
  category : line.store.call.bind IvrCall.categorySelected = line.caller.category.map Category.id
  reported : ∀ call id, line.store.call = some call → call.incidentCreated = some id →
    (line.store.incidents.get? id).isSome = true
  incidents : line.store.incidents.rows.length =
    n + if (line.store.call.bind IvrCall.incidentCreated).isSome then 1 else 0

theorem Line.Fresh.agrees {line : Line} (h : line.Fresh) :
    line.Agrees line.store.incidents.rows.length := by
  refine ⟨?_, ?_, fun call id hcall => ?_, ?_⟩
  · rw [h.call, h.caller]
    rfl
  · rw [h.call, h.caller]
    rfl
  · rw [h.call] at hcall
    cases hcall
  · rw [h.call]
    rfl

section Agrees

variable {n : Nat} {line line' : Line}

theorem Line.Agrees.reported_iff (h : line.Agrees n) :
    line.store.reported ≠ none ↔ (line.store.call.bind IvrCall.incidentCreated).isSome = true := by
  unfold IvrStore.reported
  constructor
  · intro hreported
    cases hid : line.store.call.bind IvrCall.incidentCreated with
    | none =>
        rw [hid] at hreported
        exact absurd rfl hreported
    | some id => rfl
  · intro hsome
    obtain ⟨id, hid⟩ := Option.isSome_iff_exists.mp hsome
    obtain ⟨call, hcall, hcreated⟩ := Option.bind_eq_some_iff.mp hid
    rw [hid]
    exact Option.isSome_iff_ne_none.mp (h.reported call id hcall hcreated)

theorem Line.Agrees.keep (h : line.Agrees n)
    (hzone : line'.store.call.bind IvrCall.zoneSelected = line'.caller.zone.map Zone.name)
    (hcategory : line'.store.call.bind IvrCall.categorySelected =
      line'.caller.category.map Category.id)
    (hcreated : line'.store.call.bind IvrCall.incidentCreated =
      line.store.call.bind IvrCall.incidentCreated)
    (hincidents : line'.store.incidents = line.store.incidents) : line'.Agrees n := by
  refine ⟨hzone, hcategory, fun call id hcall hid => ?_, ?_⟩
  · have hbind : line.store.call.bind IvrCall.incidentCreated = some id := by
      rw [← hcreated, hcall]
      exact hid
    obtain ⟨call', hcall', hid'⟩ := Option.bind_eq_some_iff.mp hbind
    rw [hincidents]
    exact h.reported call' id hcall' hid'
  · rw [hincidents, hcreated]
    exact h.incidents

theorem Line.Agrees.keep_call (h : line.Agrees n)
    (hzone : line'.caller.zone = line.caller.zone)
    (hcategory : line'.caller.category = line.caller.category)
    (hcall : line'.store.call = line.store.call)
    (hincidents : line'.store.incidents = line.store.incidents) : line'.Agrees n := by
  refine h.keep ?_ ?_ ?_ hincidents
  · rw [hcall, hzone]
    exact h.zone
  · rw [hcall, hcategory]
    exact h.category
  · rw [hcall]

theorem bind_storeChoice {ρ τ : Type} {digits : Option Digits} {menu heard : List ρ}
    {step : String} {choose : ρ → IvrCall → IvrCall} {answer : IvrAnswer} {s : IvrStore}
    {column : IvrCall → Option τ} {value : ρ → τ} {chosen : Option ρ}
    (hcolumn : ∀ selected call, column (choose selected call) = some (value selected))
    (hchosen : s.call.bind column = chosen.map value)
    (hheard : digits.bind (·.pick menu) = digits.bind (·.pick heard))
    (hcall : digits.bind (·.pick menu) ≠ none → s.call ≠ none) :
    (storeChoice digits menu step choose answer s).2.call.bind column =
      ((digits.bind (·.pick heard)).or chosen).map value := by
  rw [storeChoice_call, ← hheard]
  cases hselected : digits.bind (·.pick menu) with
  | none =>
      refine Eq.trans ?_ hchosen
      cases s.call <;> rfl
  | some selected =>
      obtain ⟨call, hsome⟩ := Option.ne_none_iff_exists'.mp (hcall (by rw [hselected]; exact nofun))
      rw [hsome]
      exact hcolumn selected call

theorem bind_storeChoice_other {ρ τ : Type} {digits : Option Digits} {menu : List ρ}
    {step : String} {choose : ρ → IvrCall → IvrCall} {answer : IvrAnswer} {s : IvrStore}
    {column : IvrCall → Option τ}
    (hcolumn : ∀ selected call, column (choose selected call) = column call) :
    (storeChoice digits menu step choose answer s).2.call.bind column = s.call.bind column := by
  rw [storeChoice_call]
  cases s.call with
  | none => rfl
  | some call =>
      cases digits.bind (·.pick menu) with
      | none => rfl
      | some selected => exact hcolumn selected call

theorem bind_twilioIvrWebhook {τ : Type} {fromNumber callStatus : Option String} {s : IvrStore}
    {column : IvrCall → Option τ}
    (hstatus : ∀ call status, column { call with status := status } = column call)
    (hnew : ∀ call, call.zoneSelected = none → call.categorySelected = none →
      call.incidentCreated = none → column call = none) :
    (twilioIvrWebhook fromNumber callStatus s).2.call.bind column = s.call.bind column := by
  unfold twilioIvrWebhook
  cases callStatus with
  | none => rfl
  | some status =>
  dsimp only
  split
  · rfl
  cases hcall : s.call with
  | some call => exact hstatus call status
  | none =>
  cases fromNumber with
  | none => exact congrArg (Option.bind · column) hcall
  | some phone =>
  dsimp only
  split
  · exact congrArg (Option.bind · column) hcall
  · exact hnew _ rfl rfl rfl

theorem twilioIvrWebhook_keeps (fromNumber callStatus : Option String) (s : IvrStore) :
    (twilioIvrWebhook fromNumber callStatus s).2.incidents = s.incidents ∧
      (twilioIvrWebhook fromNumber callStatus s).1 ≠ .thanks := by
  unfold twilioIvrWebhook
  split
  · exact ⟨rfl, nofun⟩
  split
  · exact ⟨rfl, nofun⟩
  split
  · exact ⟨rfl, nofun⟩
  split
  · exact ⟨rfl, nofun⟩
  split
  · exact ⟨rfl, nofun⟩
  · exact ⟨rfl, nofun⟩

theorem selectZone_keeps (digits : Option Digits) (order : RowOrder Zone) (s : IvrStore) :
    (selectZone digits order s).2.call = s.call ∧
      (selectZone digits order s).2.incidents = s.incidents ∧
        (selectZone digits order s).1 ≠ .thanks := by
  have hanswer : (match digits.map Digits.text with
      | some "1" => IvrAnswer.zoneMenu (order.menu s.zones)
      | some "2" => .operator
      | _ => .invalidOption) ≠ .thanks := by
    split <;> exact nofun
  unfold selectZone
  dsimp only
  split
  · exact ⟨rfl, rfl, hanswer⟩
  split
  · exact ⟨rfl, rfl, nofun⟩
  · exact ⟨rfl, rfl, hanswer⟩

theorem insertZone_keeps (zone : Zone) (s : IvrStore) :
    ((IvrEvent.insertZone zone).handle s).2.call = s.call ∧
      ((IvrEvent.insertZone zone).handle s).2.incidents = s.incidents := by
  unfold IvrEvent.handle
  dsimp only
  split <;> exact ⟨rfl, rfl⟩

theorem insertCategory_keeps (category : Category) (s : IvrStore) :
    ((IvrEvent.insertCategory category).handle s).2.call = s.call ∧
      ((IvrEvent.insertCategory category).handle s).2.incidents = s.incidents := by
  unfold IvrEvent.handle
  dsimp only
  split <;> exact ⟨rfl, rfl⟩

/-- The last webhook, which makes the incident. Either it is made from the
zone and the category that the caller was last told of, or the recording is
refused and nothing is stored; in both cases the caller and the row agree
afterwards. -/
theorem Line.Agrees.processRecording (h : line.Agrees n) {url : Option String}
    {duration : Option Digits} (hstep : (IvrEvent.processRecording url duration).InStep line) :
    (line.step (.processRecording url duration)).Agrees n := by
  have hzone := h.zone.trans (congrArg (Option.map Zone.name) (Caller.hears_zone line.caller
    ((IvrEvent.processRecording url duration).handle line.store).1)).symm
  have hcategory := h.category.trans (congrArg (Option.map Category.id)
    (Caller.hears_category line.caller
      ((IvrEvent.processRecording url duration).handle line.store).1)).symm
  cases haccepts : line.store.accepts url duration with
  | true =>
      have hnone : ¬ (line.store.call.bind IvrCall.incidentCreated).isSome = true :=
        fun hsome => h.reported_iff.mpr hsome (hstep.mp haccepts)
      obtain ⟨call, call', user, hcall, hchoice, hcreated, hcall', hincidents⟩ :=
        processRecording_accepted haccepts
      have hstore : (line.step (.processRecording url duration)).store.call = some call' := hcall'
      have hrows : (line.step (.processRecording url duration)).store.incidents =
          line.store.incidents.put (call.incident line.store.incidents.freshKey url user) :=
        hincidents
      rw [hcall] at hzone hcategory
      refine ⟨?_, ?_, fun call'' id hcall'' hid => ?_, ?_⟩
      · rw [hstore]
        exact hchoice.zone.trans hzone
      · rw [hstore]
        exact hchoice.category.trans hcategory
      · rw [hstore] at hcall''
        cases hcall''
        rw [hcreated] at hid
        cases hid
        rw [hrows, Table.get?_put]
        exact congrArg Option.isSome (if_pos rfl)
      · have hlength := h.incidents
        rw [if_neg hnone] at hlength
        rw [hrows, Table.rows_put _ _ (Table.get?_freshKey _), List.length_append, hlength, hstore,
          Option.bind_some, hcreated]
        rfl
  | false =>
      obtain ⟨hincidents, hsame | ⟨call, call', hcall, hcall', hchoice, hcreated⟩⟩ :=
        processRecording_refused haccepts
      · have hstore : (line.step (.processRecording url duration)).store.call = line.store.call :=
          hsame
        exact h.keep_call (Caller.hears_zone ..) (Caller.hears_category ..) hstore hincidents
      · have hstore : (line.step (.processRecording url duration)).store.call = some call' := hcall'
        rw [hcall] at hzone hcategory
        refine h.keep ?_ ?_ ?_ hincidents
        · rw [hstore]
          exact hchoice.zone.trans hzone
        · rw [hstore]
          exact hchoice.category.trans hcategory
        · rw [hstore, hcall]
          exact hcreated

/-- The invariant of the call, webhook by webhook: what the caller has been
told is what is stored, and there is one incident exactly if the caller was
told so. Only the recording can break it, when it comes a second time, and the
condition on the events excludes that. -/
theorem Line.Agrees.step {e : IvrEvent} (h : line.Agrees n) (hstep : e.InStep line) :
    (line.step e).Agrees n := by
  have hzone := congrArg (Option.map Zone.name)
    (Caller.hears_zone (line.caller.presses e) (e.handle line.store).1)
  have hcategory := congrArg (Option.map Category.id)
    (Caller.hears_category (line.caller.presses e) (e.handle line.store).1)
  cases e with
  | incoming fromNumber callStatus =>
      refine h.keep ?_ ?_ ?_ (twilioIvrWebhook_keeps ..).1
      · refine Eq.trans ?_ (h.zone.trans hzone.symm)
        exact bind_twilioIvrWebhook (fun _ _ => rfl) fun _ hnone _ _ => hnone
      · refine Eq.trans ?_ (h.category.trans hcategory.symm)
        exact bind_twilioIvrWebhook (fun _ _ => rfl) fun _ _ hnone _ => hnone
      · exact bind_twilioIvrWebhook (fun _ _ => rfl) fun _ _ _ hnone => hnone
  | selectZone digits order =>
      obtain ⟨hcall, hincidents, -⟩ := selectZone_keeps digits order line.store
      exact h.keep_call (Caller.hears_zone ..) (Caller.hears_category ..) hcall hincidents
  | selectCategory digits zoneOrder categoryOrder =>
      refine h.keep ?_ ?_ ?_ storeChoice_incidents
      · refine Eq.trans ?_ hzone.symm
        exact bind_storeChoice (fun _ _ => rfl) h.zone hstep.1 hstep.2
      · refine Eq.trans ?_ (h.category.trans hcategory.symm)
        exact bind_storeChoice_other fun _ _ => rfl
      · exact bind_storeChoice_other fun _ _ => rfl
  | recordDescription digits order =>
      refine h.keep ?_ ?_ ?_ storeChoice_incidents
      · refine Eq.trans ?_ (h.zone.trans hzone.symm)
        exact bind_storeChoice_other fun _ _ => rfl
      · refine Eq.trans ?_ hcategory.symm
        exact bind_storeChoice (fun _ _ => rfl) h.category hstep.1 hstep.2
      · exact bind_storeChoice_other fun _ _ => rfl
  | processRecording url duration => exact h.processRecording hstep
  | insertZone zone =>
      obtain ⟨hcall, hincidents⟩ := insertZone_keeps zone line.store
      exact h.keep_call (Caller.hears_zone ..) (Caller.hears_category ..) hcall hincidents
  | insertCategory category =>
      obtain ⟨hcall, hincidents⟩ := insertCategory_keeps category line.store
      exact h.keep_call (Caller.hears_zone ..) (Caller.hears_category ..) hcall hincidents

/-- Only the processing of a recording creates an incident, and says thanks. -/
theorem line_step_cases (line : Line) (e : IvrEvent) :
    (∃ url duration, e = .processRecording url duration) ∨
      (line.step e).store.incidents = line.store.incidents ∧
        (e.handle line.store).1 ≠ some .thanks := by
  have hsome {answer : IvrAnswer} (h : answer ≠ .thanks) : some answer ≠ some .thanks :=
    fun heq => h (Option.some.inj heq)
  cases e with
  | processRecording url duration => exact Or.inl ⟨url, duration, rfl⟩
  | incoming fromNumber callStatus =>
      obtain ⟨hincidents, hanswer⟩ := twilioIvrWebhook_keeps fromNumber callStatus line.store
      exact Or.inr ⟨hincidents, hsome hanswer⟩
  | selectZone digits order =>
      obtain ⟨-, hincidents, hanswer⟩ := selectZone_keeps digits order line.store
      exact Or.inr ⟨hincidents, hsome hanswer⟩
  | selectCategory digits zoneOrder categoryOrder =>
      exact Or.inr ⟨storeChoice_incidents, hsome (storeChoice_answer nofun)⟩
  | recordDescription digits order =>
      exact Or.inr ⟨storeChoice_incidents, hsome (storeChoice_answer nofun)⟩
  | insertZone zone => exact Or.inr ⟨(insertZone_keeps zone line.store).2, nofun⟩
  | insertCategory category =>
      exact Or.inr ⟨(insertCategory_keeps category line.store).2, nofun⟩

theorem Line.Agrees.asHeard {e : IvrEvent} (h : line.Agrees n) {incident : IvrIncident}
    (hafter : incident ∈ (line.step e).store.incidents.rows)
    (hbefore : incident ∉ line.store.incidents.rows) :
    incident.zone = line.caller.zoneName ∧
      incident.category = line.caller.category.map Category.id := by
  rcases line_step_cases line e with ⟨url, duration, rfl⟩ | ⟨hincidents, -⟩
  · have hrows : (line.step (.processRecording url duration)).store.incidents =
        (Mapapi.processRecording url duration line.store).2.incidents := rfl
    cases haccepts : line.store.accepts url duration with
    | false =>
        rw [hrows, (processRecording_refused haccepts).1] at hafter
        exact absurd hafter hbefore
    | true =>
        obtain ⟨call, call', user, hcall, -, -, -, hincidents⟩ := processRecording_accepted haccepts
        rw [hrows, hincidents] at hafter
        rcases Table.mem_put hafter with rfl | hold
        · have hzone := h.zone
          have hcategory := h.category
          rw [hcall, Option.bind_some] at hzone hcategory
          refine ⟨?_, hcategory⟩
          change (presentText call.zoneSelected).getD _ = _
          rw [hzone, Caller.zoneName]
          cases line.caller.zone with
          | none => rfl
          | some zone => exact congrArg (Option.getD · _) (if_neg zone.named.1)
        · exact absurd hold hbefore
  · rw [hincidents] at hafter
    exact absurd hafter hbefore

theorem Line.Agrees.truthful {e : IvrEvent} (h : line.Agrees n) (hstep : e.InStep line)
    (hthanks : (e.handle line.store).1 = some .thanks) : (line.step e).store.reported ≠ none := by
  rcases line_step_cases line e with ⟨url, duration, rfl⟩ | ⟨-, hanswer⟩
  · refine (h.step hstep).reported_iff.mpr ?_
    change ((Mapapi.processRecording url duration line.store).2.call.bind
      IvrCall.incidentCreated).isSome = true
    cases haccepts : line.store.accepts url duration with
    | true =>
        obtain ⟨_, call', _, -, -, hcreated, hcall', -⟩ := processRecording_accepted haccepts
        rw [hcall', Option.bind_some, hcreated]
        rfl
    | false =>
        have hsome := h.reported_iff.mp fun hnone => by
          rw [hstep.mpr hnone] at haccepts
          cases haccepts
        obtain ⟨-, hsame | ⟨call, call', hcall, hcall', -, hcreated⟩⟩ :=
          processRecording_refused haccepts
        · rw [hsame]
          exact hsome
        · rw [hcall] at hsome
          rw [hcall', Option.bind_some, hcreated]
          exact hsome
  · exact absurd hthanks hanswer

end Agrees

/-- In step, a call leads to one incident at most, with what the caller has
chosen, and what he is told is true. The induction is on the webhooks, with
`Line.Agrees` between the row of the call and what the caller knows. -/
theorem call_tells_truth (line : Line) (es : List IvrEvent) (hfresh : line.Fresh)
    (hsteps : Along Line.step (fun line e => e.InStep line) line es) : TellsTruth line es := by
  have hagrees {past : List IvrEvent} (hbegin : past <+: es) :
      (exec Line.step line past).Agrees line.store.incidents.rows.length := by
    obtain ⟨rest, rfl⟩ := hbegin
    exact (along_append.mp hsteps).1.inv (fun _ _ h hstep => h.step hstep) hfresh.agrees
  have hstep {past : List IvrEvent} {e : IvrEvent} (hturn : past ++ [e] <+: es) :
      e.InStep (exec Line.step line past) := by
    obtain ⟨rest, rfl⟩ := hturn
    exact (along_iff.mp hsteps) past e rest (by rw [List.append_assoc, List.singleton_append])
  refine ⟨?_, fun past e hturn incident hafter hbefore => ?_, fun past e hturn hthanks => ?_⟩
  · rw [(hagrees List.prefix_rfl).incidents]
    split <;> omega
  · rw [exec_snoc] at hafter
    exact (hagrees ((List.prefix_append ..).trans hturn)).asHeard hafter hbefore
  · rw [exec_snoc]
    exact (hagrees ((List.prefix_append ..).trans hturn)).truthful (hstep hturn) hthanks

def storedOrder (ρ : Type) : RowOrder ρ := ⟨id, fun _ => .refl _⟩

def reverseOrder (ρ : Type) : RowOrder ρ := ⟨List.reverse, List.reverse_perm⟩

def quietLine : Line where
  store :=
    { callSid := "CA1", call := none, interactions := []
      zones := (Table.empty.put ⟨1, "Nord", by decide⟩).put ⟨2, "Sud", by decide⟩
      categories := Table.empty.put ⟨1, "Eau"⟩, users := Table.empty, incidents := Table.empty }
  caller := .new

/-- The caller chooses the first zone and the first category. The zones are looked up in
the given order. -/
def reports (order : RowOrder Zone) : List IvrEvent :=
  [.incoming (some "+22370000000") (some "ringing"),
    .selectZone (some ⟨"1", some 1⟩) (storedOrder Zone),
    .selectCategory (some ⟨"1", some 1⟩) order (storedOrder Category),
    .recordDescription (some ⟨"1", some 1⟩) (storedOrder Category),
    .processRecording (some "https://audio/RE1") (some ⟨"12", some 12⟩)]

theorem quiet_call_tells_truth : TellsTruth quietLine (reports (storedOrder Zone)) :=
  call_tells_truth quietLine _ ⟨rfl, rfl⟩
    ⟨trivial, trivial, by decide +kernel, by decide +kernel, by decide +kernel, trivial⟩

/-- The recording is processed twice; the zones are looked up in another order; Twilio
sends an address of the usual length. -/
theorem calls_fail :
    quietLine.Fresh ∧
      ¬ TellsTruth quietLine (reports (storedOrder Zone) ++
        [.processRecording (some "https://audio/RE1") (some ⟨"12", some 12⟩)]) ∧
      ¬ TellsTruth quietLine (reports (reverseOrder Zone)) ∧
      ¬ TellsTruth quietLine
        [.incoming (some "+22370000000") (some "ringing"),
          .processRecording (some ("https://api.twilio.com/2010-04-01/Accounts/" ++
            "AC0123456789abcdef0123456789abcdef/Recordings/RE0123456789abcdef0123456789abcdef"))
            (some ⟨"12", some 12⟩)] := by
  refine ⟨⟨rfl, rfl⟩, fun h => ?_, fun h => ?_, fun h => ?_⟩
  · have honce := h.once
    revert honce
    decide +kernel
  · have hheard := h.asHeard ((reports (reverseOrder Zone)).take 4) _ List.prefix_rfl
      { id := 1, title := "Incident signalé par téléphone - Sud", zone := "Sud"
        description := "Incident signalé via IVR. Enregistrement audio disponible."
        audio := some "https://audio/RE1", user := 1, category := some 1, etat := .declared }
      (by decide +kernel) (by decide +kernel)
    revert hheard
    decide +kernel
  · exact h.truthful [_] _ List.prefix_rfl (by decide +kernel) (by decide +kernel)

end Mapapi
