import Mapapi.Lib.Runs
import Mapapi.Requests

/-!
# Users and members of organisations

The endpoints that create, change and delete users: `POST /user/`,
`PUT` and `DELETE /user/<id>`, and the member endpoints of an organisation
(`members/add`, `members/<id>`, `agents/create`). They work on two tables only,
the organisations and the users, which are a store of their own here: the
`Directory`.

Three serializers write a user. `UserSerializer` (`POST /user/`) excludes
`is_superuser`, `UserPutSerializer` (`PUT`) does not, and neither excludes
`org_role` and `organisation_member`. The member endpoints read their fields by
hand. Credentials (password, agent code, PIN) and the mails that carry them
are left out.

An endpoint is a function of the directory here, which is what it does when it
runs alone. `LastAdmin.lean` and `PinRequests.lean` take the same endpoints
apart into reads and saves, and prove that, run alone, the parts do what is
written in this file.
-/

namespace Mapapi

open Lib

/-! ## The directory -/

/-- A user with the columns that only these endpoints check. -/
structure Account extends User where
  firstName : String
  lastName : String
  phone : Option String
  deriving DecidableEq

instance : Keyed Account UserId := ⟨fun account => account.id⟩

structure Directory where
  organisations : Table Organisation
  users : Table Account

namespace Directory

def save (account : Account) (d : Directory) : Directory :=
  { d with users := d.users.put account }

def delete (id : UserId) (d : Directory) : Directory :=
  { d with users := d.users.erase id }

def authenticated (d : Directory) (auth : Option UserId) : Option Account :=
  (auth.bind d.users.get?).filter fun account => account.isActive

def existsOther (d : Directory) (except : UserId) (p : Account → Bool) : Bool :=
  d.users.rows.any fun account => decide (account.id ≠ except) && p account

def activeAdminCount (d : Directory) (organisation : Option OrganisationId)
    (except : UserId) : Nat :=
  (d.users.select fun account => decide (account.organisationMember = organisation ∧
    account.orgRole = some .orgAdmin ∧ account.isActive = true ∧ account.id ≠ except)).length

def emailTaken (account : Account) (d : Directory) : Bool :=
  d.existsOther account.id fun a => decide (a.email = account.email)

/-- `user.save()` in a view that other requests may have overtaken since its checks. The
column `email` is unique, and the database looks at the rows of this moment: the save
raises `IntegrityError` and changes nothing if another user has the e-mail by now. -/
def trySave (account : Account) (d : Directory) : Bool × Directory :=
  if d.emailTaken account then (false, d) else (true, d.save account)

/-- What the unique constraint on `email` keeps in every directory. -/
def EmailsDistinct (d : Directory) : Prop :=
  ∀ a ∈ d.users.rows, ∀ b ∈ d.users.rows, a.email = b.email → a.id = b.id

end Directory

/-! ## Answers -/

/-- What an endpoint of this file answers. The member endpoints build their
errors by hand, in three shapes; the others leave them to the serializer
(`invalid`). -/
inductive Answer where
  | user (status : Nat) (account : Account)
  | text (status : Nat) (message : String)
  | noContent
  | notFound
  | error (status : Nat) (message : String)
  /-- `{"error": ..., "fields": [...]}`: the fields that are missing, each with
  the error "Ce champ est requis." -/
  | missing (message : String) (fields : List String)
  /-- `{"error": ..., "field": field, "errors": {field: detail}}`. -/
  | field (status : Nat) (message field detail : String)
  | invalid (errors : List FieldError)
  | unauthorized
  | crash
  deriving DecidableEq

/-- A request to these endpoints as a function of the directory. Their reads
and writes are told apart only in `Mapapi.LastAdmin` and `Mapapi.PinRequests`,
which show that their programs end in what is defined here. -/
abbrev Endpoint := Directory → Answer × Directory

def signedIn (auth : Option UserId) (view : Account → Endpoint) : Endpoint := fun d =>
  match d.authenticated auth with
  | none => (.unauthorized, d)
  | some actor => view actor d

/-! ## UserSerializer and UserPutSerializer -/

/-- The fields a client may send, as it sends them. The texts go through
`CharField`s, which strip them, in the errors and in the rows below; the password
of a `PUT` is hashed first. Those of columns that are left out only show in the
errors they cause (`otherErrors`). -/
structure UserData where
  email : Arg String
  firstName : Arg String
  lastName : Arg String
  phone : Arg String
  password : Arg String
  organisation : Arg String
  isActive : Arg Bool
  isSuperuser : Arg Bool
  orgRole : Arg OrgRole
  organisationMember : Arg OrganisationId
  otherErrors : List FieldError
  deriving DecidableEq

/-- The serializer takes any role, from anybody. Who may give a role is
checked by the views, and not by all of them. -/
def orgRoleProblem : Arg OrgRole → Option FieldProblem
  | .absent | .null | .value _ => none
  | .invalid => some .invalid

/-- The problem of `organisation_member`: an existing organisation, or none. -/
def organisationMemberProblem (d : Directory) : Arg OrganisationId → Option FieldProblem
  | .absent | .null => none
  | .invalid => some .invalid
  | .value o => if (d.organisations.get? o).isSome then none else some .doesNotExist

/-- The problem of `email`, which is unique: no other user than `except` has it. -/
def emailProblem (partialUpdate : Bool) (except : UserId) (d : Directory) (email : Arg String) :
    Option FieldProblem :=
  (textProblem partialUpdate 254 email).or <|
    match email with
    | .value s =>
        if d.existsOther except fun a => decide (a.email = s) then some .notUnique else none
    | _ => none

/-- The checks that `UserSerializer` and `UserPutSerializer` share, which are
those of the model fields. With `partialUpdate` a field that is absent passes;
`except` is the row that the e-mail may belong to. -/
def sharedErrors (partialUpdate : Bool) (except : UserId) (d : Directory) (data : UserData) :
    List FieldError :=
  [("email", emailProblem partialUpdate except d data.email.stripped),
    ("first_name", textProblem partialUpdate 255 data.firstName.stripped),
    ("last_name", textProblem partialUpdate 255 data.lastName.stripped),
    ("phone", nullableProblem 20 data.phone.stripped),
    ("organisation", nullableProblem 255 data.organisation.stripped),
    ("organisation_member", organisationMemberProblem d data.organisationMember),
    ("org_role", orgRoleProblem data.orgRole)].filterMap fun (field, problem) =>
      problem.map fun problem => { field := field, problem := problem }

/-- `UserSerializer(data=...).errors`. -/
def userErrors (id : UserId) (d : Directory) (data : UserData) : List FieldError :=
  sharedErrors false id d data ++
    (textProblem false 128 data.password.stripped).toList.map
      (fun problem => ⟨"password", problem⟩) ++
    data.otherErrors

/-- `UserPutSerializer(item, data=..., partial=True).errors`. The password has
been replaced by its hash. -/
def userPutErrors (id : UserId) (d : Directory) (data : UserData) : List FieldError :=
  sharedErrors true id d data ++
    (flagProblem data.isActive).toList.map (fun problem => ⟨"is_active", problem⟩) ++
    (flagProblem data.isSuperuser).toList.map (fun problem => ⟨"is_superuser", problem⟩) ++
    data.otherErrors

/-- The row that `UserSerializer.create` stores: `is_superuser` and `is_active`
are not among its fields. -/
def UserData.create (id : UserId) (data : UserData) : Account :=
  { id := id
    email := data.email.stripped.over ""
    isActive := true
    isSuperuser := false
    orgRole := data.orgRole.overNullable none
    organisationMember := data.organisationMember.overNullable none
    organisation := data.organisation.stripped.overNullable none
    firstName := data.firstName.stripped.over ""
    lastName := data.lastName.stripped.over ""
    phone := data.phone.stripped.overNullable none }

/-- The row that `UserPutSerializer.update` stores: a column that was not sent
keeps the value of the row that the view has read, and every other one is
written, also when it was not sent. -/
def UserData.update (item : Account) (data : UserData) : Account :=
  { id := item.id
    email := data.email.stripped.over item.email
    isActive := data.isActive.over item.isActive
    isSuperuser := data.isSuperuser.over item.isSuperuser
    orgRole := data.orgRole.overNullable item.orgRole
    organisationMember := data.organisationMember.overNullable item.organisationMember
    organisation := data.organisation.stripped.overNullable item.organisation
    firstName := data.firstName.stripped.over item.firstName
    lastName := data.lastName.stripped.over item.lastName
    phone := data.phone.stripped.overNullable item.phone }

/-! ## UserAPIListView -/

/-- `UserAPIListView.post`, which draws `id`. Anybody may ask; only a token that
is no good is refused. Zones that do not exist are an error after the save. -/
def createUser (auth : Option UserId) (id : UserId) (data : UserData) (zones : Arg Unit) :
    Endpoint := fun d =>
  if auth ≠ none ∧ d.authenticated auth = none then (.unauthorized, d)
  else
    match userErrors id d data with
    | [] =>
      if (d.users.get? id).isSome then (.crash, d)
      else if zones = .invalid then (.crash, d.save (data.create id))
      else (.user 201 (data.create id), d.save (data.create id))
    | errors => (.invalid errors, d)

/-! ## user_api_view -/

/-- `_can_edit_user`: oneself, the admin of the target's organisation, or a
super admin. -/
def canEditUser (actor target : Account) : Bool :=
  isSuperAdmin actor.toUser || decide (actor.id = target.id) ||
    actor.organisationMember.isSome &&
      decide (actor.organisationMember = target.organisationMember) &&
      isOrgAdmin actor.toUser && !target.isSuperuser

/-- `_can_delete_user`. Unlike `_can_edit_user` it does not let users delete
themselves, and nobody but a super admin deletes a super admin. -/
def canDeleteUser (actor target : Account) : Bool :=
  if isSuperAdmin actor.toUser then true
  else if target.isSuperuser then false
  else if actor.organisationMember = none ∨
      actor.organisationMember ≠ target.organisationMember then false
  else if isOrgAdmin actor.toUser then true
  else if actor.orgRole = some .bureauAgent then decide (target.orgRole = some .fieldAgent)
  else false

/-- `user_api_view`, `PUT`. A password that is not a text cannot be hashed. -/
def updateUser (auth : Option UserId) (id : UserId) (data : UserData) : Endpoint :=
  signedIn auth fun actor d =>
  match d.users.get? id with
  | none => (.notFound, d)
  | some item =>
    if canEditUser actor item = false then
      (.error 403 "Vous n'avez pas les droits pour modifier cet utilisateur.", d)
    else if data.password = .invalid then (.crash, d)
    else
      match userPutErrors id d data with
      | [] => (.user 200 (data.update item), d.save (data.update item))
      | errors => (.invalid errors, d)

/-- `user_api_view`, `DELETE`. -/
def deleteUser (auth : Option UserId) (id : UserId) : Endpoint :=
  signedIn auth fun actor d =>
  match d.users.get? id with
  | none => (.notFound, d)
  | some item =>
    if canDeleteUser actor item = false then
      (.error 403 "Vous n'avez pas les droits pour supprimer cet utilisateur.", d)
    else (.noContent, d.delete id)

/-! ## Members of an organisation -/

/-- The actor is a super admin, or the admin of the organisation
(`_check_permission`). -/
def managesMembers (actor : Account) (pk : OrganisationId) : Bool :=
  isSuperAdmin actor.toUser ||
    decide (actor.organisationMember = some pk) && isOrgAdmin actor.toUser

def isBureauOf (actor : Account) (pk : OrganisationId) : Bool :=
  isBureauAgent actor.toUser && decide (actor.organisationMember = some pk)

/-- `OrganisationMemberCreateView.post`. A missing, null or empty `org_role` is
`absent` or `null`, any other text that is not a role `invalid`. -/
def addMember (auth : Option UserId) (pk : OrganisationId) (userId : RawId)
    (orgRole : Arg OrgRole) : Endpoint :=
  signedIn auth fun actor d =>
  if managesMembers actor pk = false then
    (.error 403 "Seul un administrateur d'organisation peut gérer les membres.", d)
  else if d.organisations.get? pk = none then (.error 404 "Organisation non trouvée.", d)
  else
    match userId, orgRole with
    | .absent, _ | _, .absent | _, .null => (.error 400 "user_id et org_role sont requis.", d)
    | _, .invalid =>
      (.error 400 "Rôle invalide. Choix : org_admin, bureau_agent, field_agent.", d)
    | .malformed, .value _ => (.crash, d)
    | .uuid id, .value role =>
      match d.users.get? id with
      | none => (.error 404 "Utilisateur non trouvé.", d)
      | some member =>
        let member' := { member with organisationMember := some pk, orgRole := some role }
        (.user 201 member', d.save member')

/-- The fields of a `PATCH`, without the blanks around them; an e-mail in lower
case. An empty `email` or `org_role` is `null`. -/
structure MemberData where
  email : Arg String
  firstName : Arg String
  lastName : Arg String
  phone : Arg String
  orgRole : Arg OrgRole
  deriving DecidableEq

/-- The columns are as wide as in the database. The views that do not go
through a serializer find out when they save. -/
def Account.fits (account : Account) : Bool :=
  decide (account.email.length ≤ 254 ∧ account.firstName.length ≤ 255 ∧
    account.lastName.length ≤ 255) && account.phone.all fun phone => decide (phone.length ≤ 20)

/-- What is not sent keeps its column, and so does what is sent as `null`; an
empty text is a value. -/
def MemberData.update (member : Account) (data : MemberData) : Account :=
  { member with
    email := data.email.over member.email
    firstName := data.firstName.over member.firstName
    lastName := data.lastName.over member.lastName
    phone := data.phone.toOption.or member.phone
    orgRole := data.orgRole.toOption.or member.orgRole }

def fieldAgentPhoneTaken : String :=
  "Un agent de terrain avec ce numéro de téléphone existe déjà."

/-- A field agent with this phone number, apart from `except`: the PIN login
would be ambiguous. -/
def Directory.phoneTaken (d : Directory) (except : UserId) (phone : String) : Bool :=
  d.existsOther except fun a => decide (a.phone = some phone ∧ a.orgRole = some .fieldAgent)

/-- The active admin `member` has no other active admin beside. The member
endpoints ask this before they take the role away, and only when the actor is
no super admin. -/
def lastActiveAdmin (actor member : Account) (d : Directory) : Bool :=
  !isSuperAdmin actor.toUser && decide (member.orgRole = some .orgAdmin) && member.isActive &&
    decide (d.activeAdminCount member.organisationMember member.id = 0)

/-- What stands in the way of a new e-mail: another user has it. Only a value
that is sent is looked for, so a row keeps the e-mail it has. -/
def MemberData.emailProblem (member : Account) (d : Directory) (data : MemberData) :
    Option Answer :=
  match data.email with
  | .absent | .null => none
  | .invalid => some .crash
  | .value email =>
    let message := "Cet email est déjà utilisé par un autre utilisateur."
    if d.existsOther member.id fun a => decide (a.email = email) then
      some (.field 400 message "email" message)
    else none

/-- The number is compared with those of the field agents, whatever the role
of the member is and whatever it becomes. But only if a phone is sent: a role
that is sent alone is not checked against the stored phone. -/
def MemberData.phoneProblem (member : Account) (d : Directory) (data : MemberData) :
    Option Answer :=
  match data.phone with
  | .absent | .null => none
  | .invalid => some .crash
  | .value phone =>
    if phone ≠ "" ∧ d.phoneTaken member.id phone then
      some (.field 400 fieldAgentPhoneTaken "phone" fieldAgentPhoneTaken)
    else none

/-- What stands in the way of a new role: the last active admin stays one. -/
def MemberData.roleProblem (actor member : Account) (d : Directory) (data : MemberData) :
    Option Answer :=
  match data.orgRole with
  | .absent | .null => none
  | .invalid => some (.field 400 "Rôle invalide." "org_role" "Rôle invalide.")
  | .value role =>
    if role ≠ .orgAdmin ∧ lastActiveAdmin actor member d then
      some (.error 400
        ("Impossible de rétrograder le dernier administrateur actif de l'organisation. " ++
          "Promouvez d'abord un autre membre en administrateur."))
    else none

/-- What stands in the way of a `PATCH`, in the order of its checks. A name that
is not a text has no `strip`. -/
def MemberData.problem (actor member : Account) (d : Directory) (data : MemberData) :
    Option Answer :=
  (data.emailProblem member d).or <|
  (if data.firstName = .invalid ∨ data.lastName = .invalid then some .crash else none).or <|
  (data.phoneProblem member d).or <|
  data.roleProblem actor member d

/-- The row of a member is looked up within the organisation, so that another
organisation's member is answered 404. -/
def Directory.memberOf (d : Directory) (pk : OrganisationId) (id : UserId) : Option Account :=
  (d.users.get? id).filter fun account => decide (account.organisationMember = some pk)

/-- `OrganisationMemberDetailView.patch`. An office agent may only change field
agents, and not their role. -/
def updateMember (auth : Option UserId) (pk : OrganisationId) (id : UserId) (data : MemberData) :
    Endpoint :=
  signedIn auth fun actor d =>
  if managesMembers actor pk = false ∧ isBureauOf actor pk = false then
    (.error 403 "Droits insuffisants.", d)
  else
    match d.memberOf pk id with
    | none => (.error 404 "Membre non trouvé dans cette organisation.", d)
    | some member =>
      if managesMembers actor pk = false ∧ member.orgRole ≠ some .fieldAgent then
        (.error 403 "Un agent de bureau ne peut modifier qu'un agent de terrain.", d)
      else if managesMembers actor pk = false ∧ data.orgRole ≠ .absent ∧ data.orgRole ≠ .null ∧
          data.orgRole ≠ .value .fieldAgent then
        (.field 403 "Un agent de bureau ne peut pas changer le rôle d'un agent." "org_role"
          "Modification du rôle non autorisée.", d)
      else
        match data.problem actor member d with
        | some answer => (answer, d)
        | none =>
          if (data.update member).fits then
            (.user 200 (data.update member), d.save (data.update member))
          else (.crash, d)

/-- `OrganisationMemberDetailView.delete`. The row of the user goes, not only
the membership, whatever the answer says about the organisation. -/
def removeMember (auth : Option UserId) (pk : OrganisationId) (id : UserId) : Endpoint :=
  signedIn auth fun actor d =>
  if managesMembers actor pk = false ∧ isBureauOf actor pk = false then
    (.error 403 "Droits insuffisants.", d)
  else
    match d.memberOf pk id with
    | none => (.error 404 "Membre non trouvé dans cette organisation.", d)
    | some member =>
      if managesMembers actor pk = false ∧ member.orgRole ≠ some .fieldAgent then
        (.error 403 "Un agent de bureau ne peut supprimer qu'un agent de terrain.", d)
      else if lastActiveAdmin actor member d then
        (.error 400
          ("Impossible de retirer le dernier administrateur actif de l'organisation. " ++
            "Promouvez d'abord un autre membre en administrateur."), d)
      else (.text 200 "Agent supprimé avec succès de l'organisation.", d.delete id)

/-- The fields of a new field agent, without the blanks around them; an e-mail
in lower case. A missing, null or empty field is `absent` or `null`. -/
structure AgentData where
  firstName : Arg String
  lastName : Arg String
  email : Arg String
  phone : Arg String
  deriving DecidableEq

def AgentData.missing (data : AgentData) : List String :=
  [("first_name", data.firstName), ("last_name", data.lastName), ("email", data.email),
    ("phone", data.phone)].filterMap fun (field, value) =>
      if value.over "" = "" then some field else none

def AgentData.create (id : UserId) (pk : OrganisationId) (data : AgentData) : Account :=
  { id := id
    email := data.email.over ""
    isActive := true
    isSuperuser := false
    orgRole := some .fieldAgent
    organisationMember := some pk
    organisation := none
    firstName := data.firstName.over ""
    lastName := data.lastName.over ""
    phone := some (data.phone.over "") }

def agentEmailTaken : String :=
  "Un utilisateur avec cet email existe déjà. " ++
    "Utilise l'endpoint /members/add/ pour l'affecter."

/-- `FieldAgentCreateView.post`, which draws `id`. -/
def createAgent (auth : Option UserId) (pk : OrganisationId) (id : UserId) (data : AgentData) :
    Endpoint :=
  signedIn auth fun actor d =>
  if managesMembers actor pk = false ∧ isBureauOf actor pk = false then
    (.error 403 ("Seul un administrateur d'organisation ou un agent de bureau de cette " ++
      "organisation peut créer un agent de terrain."), d)
  else if d.organisations.get? pk = none then (.error 404 "Organisation non trouvée.", d)
  else if data.firstName = .invalid ∨ data.lastName = .invalid ∨ data.email = .invalid ∨
      data.phone = .invalid then (.crash, d)
  else if data.missing ≠ [] then
    (.missing ("Champs requis manquants : " ++ ", ".intercalate data.missing ++ ".")
      data.missing, d)
  else if d.users.rows.any fun a => decide (a.email = data.email.over "") then
    (.field 400 agentEmailTaken "email" agentEmailTaken, d)
  else if d.users.rows.any fun a =>
      decide (a.phone = some (data.phone.over "") ∧ a.orgRole = some .fieldAgent) then
    (.field 400 fieldAgentPhoneTaken "phone" fieldAgentPhoneTaken, d)
  else if (data.create id pk).fits = false ∨ (d.users.get? id).isSome then (.crash, d)
  else (.user 201 (data.create id pk), d.save (data.create id pk))

/-! ## The unique e-mail

An endpoint that nothing interrupts saves right after its checks, and these leave the
constraint nothing to refuse. -/

section Emails

variable {d : Directory} {item account : Account}

theorem emailTaken_eq_false :
    d.emailTaken account = false ↔ ∀ a ∈ d.users.rows, a.id ≠ account.id →
      a.email ≠ account.email := by
  unfold Directory.emailTaken Directory.existsOther
  simp only [List.any_eq_false, Bool.and_eq_true, decide_eq_true_eq, not_and, ne_eq]

theorem emailTaken_of_kept (hd : d.EmailsDistinct) (hitem : d.users.get? item.id = some item)
    (hid : account.id = item.id) (hemail : account.email = item.email) :
    d.emailTaken account = false := by
  refine emailTaken_eq_false.mpr fun a ha hne heq => hne ?_
  rw [hid]
  exact hd a ha item (Table.mem_of_get? hitem) (heq.trans hemail)

theorem emailTaken_of_free {email : String}
    (hfree : (d.existsOther account.id fun a => decide (a.email = email)) = false)
    (hemail : account.email = email) : d.emailTaken account = false := by
  unfold Directory.emailTaken
  rwa [hemail]

/-- Both serializers look for the e-mail that they are sent. -/
theorem emailProblem_of_valid {partialUpdate : Bool} {except : UserId} {data : UserData}
    (hvalid : sharedErrors partialUpdate except d data = []) :
    emailProblem partialUpdate except d data.email.stripped = none := by
  by_contra hproblem
  obtain ⟨problem, hsome⟩ := Option.ne_none_iff_exists'.mp hproblem
  simp [sharedErrors, hsome] at hvalid

theorem email_free_of_valid {partialUpdate : Bool} {except : UserId} {data : UserData}
    {email : String} (hvalid : sharedErrors partialUpdate except d data = [])
    (hsent : data.email.stripped = .value email) :
    (d.existsOther except fun a => decide (a.email = email)) = false := by
  have hemail := emailProblem_of_valid hvalid
  unfold emailProblem at hemail
  rw [hsent, Option.or_eq_none_iff] at hemail
  simpa using hemail.2

theorem emailTaken_update_of_user {data : UserData} {id : UserId} (hd : d.EmailsDistinct)
    (hitem : d.users.get? id = some item) (hvalid : userPutErrors id d data = []) :
    d.emailTaken (data.update item) = false := by
  obtain rfl : item.id = id := Table.key_of_get? hitem
  have hshared : sharedErrors true item.id d data = [] := by
    simp only [userPutErrors, List.append_eq_nil_iff] at hvalid
    exact hvalid.1.1.1
  cases hsent : data.email.stripped with
  | value email =>
      exact emailTaken_of_free (email_free_of_valid hshared hsent)
        (by simp [UserData.update, hsent, Arg.over])
  | absent | null | invalid =>
      exact emailTaken_of_kept hd hitem rfl (by simp [UserData.update, hsent, Arg.over])

theorem emailTaken_update_of_member {data : MemberData} (hd : d.EmailsDistinct)
    (hitem : d.users.get? item.id = some item) (hproblem : data.emailProblem item d = none) :
    d.emailTaken (data.update item) = false := by
  unfold MemberData.emailProblem at hproblem
  cases hsent : data.email with
  | value email =>
      have hfree : (d.existsOther item.id fun a => decide (a.email = email)) = false := by
        simpa [hsent] using hproblem
      exact emailTaken_of_free hfree (by simp [MemberData.update, hsent, Arg.over])
  | absent | null | invalid =>
      exact emailTaken_of_kept hd hitem rfl (by simp [MemberData.update, hsent, Arg.over])

end Emails

/-! ## Runs -/

/-- A request to one of the endpoints, with the id that a creation draws: the
runs below are over any sequence of them. -/
inductive AccountOp where
  | createUser (auth : Option UserId) (id : UserId) (data : UserData) (zones : Arg Unit)
  | updateUser (auth : Option UserId) (id : UserId) (data : UserData)
  | deleteUser (auth : Option UserId) (id : UserId)
  | addMember (auth : Option UserId) (pk : OrganisationId) (userId : RawId)
      (orgRole : Arg OrgRole)
  | updateMember (auth : Option UserId) (pk : OrganisationId) (id : UserId) (data : MemberData)
  | removeMember (auth : Option UserId) (pk : OrganisationId) (id : UserId)
  | createAgent (auth : Option UserId) (pk : OrganisationId) (id : UserId) (data : AgentData)

def AccountOp.auth : AccountOp → Option UserId
  | createUser auth .. | updateUser auth .. | deleteUser auth .. | addMember auth ..
  | updateMember auth .. | removeMember auth .. | createAgent auth .. => auth

/-- The requests that change accounts, as one type, so that runs can mix them
in any order. -/
def AccountOp.endpoint : AccountOp → Endpoint
  | createUser auth id data zones => Mapapi.createUser auth id data zones
  | updateUser auth id data => Mapapi.updateUser auth id data
  | deleteUser auth id => Mapapi.deleteUser auth id
  | addMember auth pk userId orgRole => Mapapi.addMember auth pk userId orgRole
  | updateMember auth pk id data => Mapapi.updateMember auth pk id data
  | removeMember auth pk id => Mapapi.removeMember auth pk id
  | createAgent auth pk id data => Mapapi.createAgent auth pk id data

def Directory.step (d : Directory) (op : AccountOp) : Directory := (op.endpoint d).2

def Directory.exec (d : Directory) (ops : List AccountOp) : Directory :=
  Lib.exec Directory.step d ops

end Mapapi
