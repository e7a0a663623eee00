import Mapapi.Permissions

/-!
# Requests and responses

What the endpoints share: the shape of a request field as the parsed body
gives it, the responses, and the prologue every endpoint runs before its own
code (authentication, permission classes, the lookup of the incident).

A response `crash` is an exception that no code of the endpoint catches; the
server answers 500. What was saved before it stays saved, since requests do
not run in a transaction.

A view is a program over the store (`View`), because what happens between its
reads and writes matters as soon as two requests run at a time. What it does
when it runs alone is read off by the rules at the end of this file: the
prologue of an endpoint is a list of guards, and each guard has one rule that
takes the run apart at it and one that goes through it.
-/

namespace Mapapi

open Lib

/-! ## Request fields -/

/-- A field of a request body as the client has sent it, with what its type makes
of it: a value that the serializer field cannot parse (a list for a text, a text
that is not a date) is `invalid`. A text is there with the blanks around it; where
a `CharField` reads it, the model says so with `Arg.stripped`. -/
inductive Arg (α : Type) where
  | absent
  | null
  | invalid
  | value (a : α)
  deriving DecidableEq

def Arg.toOption {α : Type} : Arg α → Option α
  | value a => some a
  | _ => none

def isSpace (c : Char) : Bool :=
  let n := c.toNat
  decide (9 ≤ n ∧ n ≤ 13 ∨ 28 ≤ n ∧ n ≤ 32 ∨ n = 133 ∨ n = 160 ∨ n = 5760 ∨
    8192 ≤ n ∧ n ≤ 8202 ∨ n = 8232 ∨ n = 8233 ∨ n = 8239 ∨ n = 8287 ∨ n = 12288)

def strip (s : String) : String :=
  String.ofList ((s.toList.dropWhile isSpace).reverse.dropWhile isSpace).reverse

/-- A text as a `CharField` takes it: with `trim_whitespace`, which is the default,
the blanks around it are gone before anything is checked or stored. So a text of
blanks is an empty one, and `" 70"` is the same number as `"70"`. -/
def Arg.stripped : Arg String → Arg String
  | value s => value (strip s)
  | field => field

example : (Arg.value " 70\t").stripped = .value "70" := by decide

/-- A text field that a view reads by hand as `(request.data.get(...) or
'').strip().lower()` and compares with the texts it knows. A value that is not
a text has no `strip`, an exception that no view catches: `notText`. -/
inductive Choice (α : Type) where
  | notText
  | unknown
  | one (a : α)
  deriving DecidableEq

/-- An id given in a body. A text that is not a UUID makes the ORM lookup
raise instead of missing. -/
inductive RawId where
  | absent
  | malformed
  | uuid (id : Nat)
  deriving DecidableEq

/-! ## Errors of a serializer -/

/-- What is wrong with one field, as the serializer reports it: one of the
errors that fields have in common, or a text of its own. -/
inductive FieldProblem where
  | required
  | null
  | invalid
  | doesNotExist
  | blank
  | tooLong
  | notUnique
  | text (message : String)
  deriving DecidableEq

structure FieldError where
  field : String
  problem : FieldProblem
  deriving DecidableEq

/-- A column that is not nullable: the value sent, or the value it has. -/
def Arg.over {α : Type} (a : α) : Arg α → α
  | value a' => a'
  | _ => a

/-- The same for a nullable column, which null empties. What is absent from
the body of a `PATCH` or a `PUT` leaves the column as it is: serializers write
the fields they have validated and no others. -/
def Arg.overNullable {α : Type} (a : Option α) : Arg α → Option α
  | absent | invalid => a
  | null => none
  | value a' => some a'

/-- The problem of a text, stripped, that may not be empty. A `partialUpdate` need
not send it. -/
def textProblem (partialUpdate : Bool) (maxLength : Nat) : Arg String → Option FieldProblem
  | .absent => if partialUpdate then none else some .required
  | .null => some .null
  | .invalid => some .invalid
  | .value s =>
    if s = "" then some .blank else if s.length > maxLength then some .tooLong else none

/-- The problem of a nullable text, stripped; it may be empty. -/
def nullableProblem (maxLength : Nat) : Arg String → Option FieldProblem
  | .absent | .null => none
  | .invalid => some .invalid
  | .value s => if s.length > maxLength then some .tooLong else none

/-- The problem of a Boolean that may be left out. Null is refused, since the
columns behind it are not nullable. -/
def flagProblem : Arg Bool → Option FieldProblem
  | .absent | .value _ => none
  | .null => some .null
  | .invalid => some .invalid

/-- The problem of a column with a default: it may be left out, but not null. -/
def defaultProblem {α : Type} : Arg α → Option FieldProblem
  | .absent | .value _ => none
  | .null => some .null
  | .invalid => some .invalid

/-- The problem of a nullable column that stores every value it can parse. -/
def parsedProblem {α : Type} : Arg α → Option FieldProblem
  | .absent | .null | .value _ => none
  | .invalid => some .invalid

/-- A foreign key to a user: it may be left out or null, and must exist
otherwise. -/
def userProblem (db : Db) : Arg UserId → Option FieldProblem
  | .absent | .null => none
  | .invalid => some .invalid
  | .value u => if (db.users.get? u).isSome then none else some .doesNotExist

/-- All the fields are checked, and each one that has a problem is named. -/
def fieldErrors (fields : List (String × Option FieldProblem)) : List FieldError :=
  fields.filterMap fun (field, problem) =>
    problem.map fun problem => { field := field, problem := problem }

/-! ## Responses -/

inductive BulkError where
  | missingId (index : Nat)
  | unknownIncident (index : Nat) (incident : IncidentId)
  | invalid (index : Nat) (incident : IncidentId) (errors : List FieldError)
  deriving DecidableEq

inductive Reply where
  | incident (message : Option String) (data : Incident)
  | handled (message : String) (user : User) (action : UserAction)
  | takenInCharge (message : String) (mode : TakeInChargeMode) (role : Option CollabRole)
      (collaborationStatus : Option CollabStatus) (contributorsReset : Option Nat)
      (data : Incident) (collaboration : Collaboration)
  | assignment (assignment : IncidentOrgAssignment)
  | collaboration (collaboration : Collaboration)
  | bulk (created : List Collaboration) (errors : List BulkError) (message : String)
  | suggestion (suggestion : PartnerSuggestion)
  | text (message : String)
  | messages (messages : List DiscussionMessage)
  | message (message : DiscussionMessage)
  | task (task : IncidentTask)
  | noContent
  deriving DecidableEq

/-- The answer of an endpoint, by the ways in which it comes about: a success,
an error that the view gives, the errors of a serializer, a refused token, and
an exception (`crash`). -/
inductive Response where
  | ok (status : Nat) (reply : Reply)
  /-- An error answer; `existing` is the row that a duplicate is reported with. -/
  | refused (status : Nat) (error : String) (existing : Option Collaboration)
  | invalid (errors : List FieldError)
  | unauthorized
  | crash
  deriving DecidableEq

namespace Response

def error (status : Nat) (message : String) : Response := refused status message none

def status : Response → Nat
  | ok status _ => status
  | refused status _ _ => status
  | invalid _ => 400
  | unauthorized => 401
  | crash => 500

end Response

/-- What a view runs for. The store is an argument of every action and not of
the view, so that other requests may run between two actions. -/
abbrev View := Prog Db Response

/-! ## Prologue -/

/-- The user of a request: anonymous, or the active user of its token. A token
whose user is missing or inactive is refused as no token is. -/
def Db.authenticated (db : Db) (auth : Option UserId) : Option User :=
  (db.user? auth).filter fun user => user.isActive

/-- `IsAuthenticated`. -/
def authenticate (auth : Option UserId) (view : User → View) : View := do
  match ← Prog.read fun db => db.authenticated auth with
  | none => pure .unauthorized
  | some user => view user

/-- A guard of a view, with the text of its refusal. -/
def permit (allowed : Bool) (message : String) (view : View) : View :=
  if allowed then view else pure (.error 403 message)

/-- The permission looks the leader up in the store, so it is an action of the
request and not a test on its arguments. -/
def permitLeader (user : User) (i : IncidentId) (view : View) : View := do
  if ← isIncidentLeader user i then view
  else pure (.error 403 isIncidentLeaderMessage)

/-- `Incident.objects.get(pk=incident_id)`, or 404. -/
def getIncident (i : IncidentId) (notFound : String) (view : Incident → View) : View := do
  match ← Prog.read fun db => db.incidents.get? i with
  | none => pure (.error 404 notFound)
  | some incident => view incident

def incidentNotFound : String := "Incident non trouvé."

/-- Refuse when a condition holds, go on otherwise. -/
def refuseIf (refuse : Bool) (response : Response) (view : View) : View :=
  if refuse then pure response else view

/-! ## What the prologue does

Each part either refuses the request, without any write, or goes on with what
it has found. The rules read a run backwards: from its outcome `out` to the
guards that were passed. -/

/-- The request was refused and nothing was written. Most requests of a run
end here, and every law about runs starts by dropping them. -/
def Refused (db : Db) (out : Response × Db) : Prop := out.2 = db ∧ 400 ≤ out.1.status

variable {db : Db} {auth : Option UserId} {i : IncidentId} {user : User}
  {out : Response × Db}

theorem pure_run {response : Response} (hstatus : 400 ≤ response.status)
    (h : (pure response : View).run db = out) : Refused db out := by
  subst h
  exact ⟨rfl, hstatus⟩

theorem authenticate_run {view : User → View} (h : (authenticate auth view).run db = out) :
    Refused db out ∨
      ∃ user, db.authenticated auth = some user ∧ (view user).run db = out := by
  unfold authenticate at h
  cases hauth : db.authenticated auth with
  | none =>
      rw [Prog.run_bind, Prog.run_read, hauth] at h
      exact Or.inl (pure_run (by decide) h)
  | some user =>
      rw [Prog.run_bind, Prog.run_read, hauth] at h
      exact Or.inr ⟨user, rfl, h⟩

theorem permit_run {allowed : Bool} {message : String} {view : View}
    (h : (permit allowed message view).run db = out) :
    Refused db out ∨ allowed = true ∧ view.run db = out := by
  cases allowed with
  | false => exact Or.inl (pure_run (Nat.le_of_ble_eq_true rfl) h)
  | true => exact Or.inr ⟨rfl, h⟩

theorem permitLeader_run {view : View} (h : (permitLeader user i view).run db = out) :
    Refused db out ∨ db.leads user i = true ∧ view.run db = out := by
  unfold permitLeader at h
  rw [Prog.run_bind, run_isIncidentLeader] at h
  cases hlead : db.leads user i with
  | false =>
      rw [hlead] at h
      exact Or.inl (pure_run (by decide) h)
  | true =>
      rw [hlead] at h
      exact Or.inr ⟨rfl, h⟩

theorem getIncident_run {notFound : String} {view : Incident → View}
    (h : (getIncident i notFound view).run db = out) :
    Refused db out ∨
      ∃ incident, db.incidents.get? i = some incident ∧ (view incident).run db = out := by
  unfold getIncident at h
  cases hinc : db.incidents.get? i with
  | none =>
      rw [Prog.run_bind, Prog.run_read, hinc] at h
      exact Or.inl (pure_run (Nat.le_of_ble_eq_true rfl) h)
  | some incident =>
      rw [Prog.run_bind, Prog.run_read, hinc] at h
      exact Or.inr ⟨incident, rfl, h⟩

theorem refuseIf_run {refuse : Bool} {response : Response} {view : View}
    (hstatus : 400 ≤ response.status) (h : (refuseIf refuse response view).run db = out) :
    Refused db out ∨ refuse = false ∧ view.run db = out := by
  cases refuse with
  | true => exact Or.inl (pure_run hstatus h)
  | false => exact Or.inr ⟨rfl, h⟩

/-! Forwards: a request that passes a guard goes on. -/

theorem authenticate_passes {view : User → View} (h : db.authenticated auth = some user) :
    (authenticate auth view).run db = (view user).run db := by
  unfold authenticate
  rw [Prog.run_bind, Prog.run_read, h]

theorem permit_passes {allowed : Bool} {message : String} {view : View} (h : allowed = true) :
    (permit allowed message view).run db = view.run db := by
  rw [permit, if_pos h]

theorem permitLeader_passes {view : View} (h : db.leads user i = true) :
    (permitLeader user i view).run db = view.run db := by
  unfold permitLeader
  rw [Prog.run_bind, run_isIncidentLeader, h]
  rfl

theorem getIncident_passes {notFound : String} {view : Incident → View} {incident : Incident}
    (h : db.incidents.get? i = some incident) :
    (getIncident i notFound view).run db = (view incident).run db := by
  unfold getIncident
  rw [Prog.run_bind, Prog.run_read, h]

theorem refuseIf_passes {refuse : Bool} {response : Response} {view : View}
    (h : refuse = false) : (refuseIf refuse response view).run db = view.run db := by
  subst h
  rfl

theorem authenticated_iff :
    db.authenticated auth = some user ↔
      ∃ u, auth = some u ∧ db.users.get? u = some user ∧ user.isActive = true := by
  cases auth with
  | none => simp [Db.authenticated, Db.user?]
  | some u => simp [Db.authenticated, Db.user?, Option.filter_eq_some_iff]

theorem authenticated_id (h : db.authenticated auth = some user) :
    auth = some user.id ∧ db.users.get? user.id = some user := by
  obtain ⟨u, rfl, huser, -⟩ := authenticated_iff.mp h
  have hid : user.id = u := Table.key_of_get? huser
  exact ⟨by rw [hid], by rw [hid, huser]⟩

end Mapapi
