import Mapapi.Lib.Prog
import Mapapi.PinLogin

/-!
# Requests that store PINs

A field agent signs in with a phone number and a PIN. The first PIN is drawn by
`FieldAgentCreateView` or `OrganisationMemberCreateView`, and is to be changed
(`must_change_pin`); `AgentChangePinView` replaces it by one that the agent has chosen.
Both columns are stored by an `UPDATE` of their own, while other views save the whole row
of a user as they have read it, and these two columns with it. Two serializers let a
client write the columns: `PUT /user/<id>` clears `must_change_pin`, and `POST /elu/`
stores any `pin_code`.

The directory of `Mapapi.Accounts` has neither column, so the endpoints that are there
already come a second time here, action by action and with the two columns. Alone, they
do to the directory what those do (`updateUserPins_agrees` and the like): the two models
are about one program, and only what the second one adds is new.
-/

namespace Mapapi

open Lib

/-! ## The columns -/

/-- `make_password`, with its salt, and `check_password`. -/
structure Hasher (ε : Type) where
  make : Nat → String → ε
  check : String → ε → Bool
  check_make : ∀ salt pin pin', check pin' (make salt pin) = decide (pin' = pin)

/-- `pin_code` and `must_change_pin`. An empty `pin_code` is none. -/
structure Pins (ε : Type) where
  code : Option ε
  mustChange : Bool
  deriving DecidableEq

/-- The directory, and the two columns of its users. -/
structure PinStore (ε : Type) where
  directory : Directory
  pins : UserId → Pins ε

/-- A row of the table of users, as far as it is modelled: the account, and
the columns of the PIN. Django saves both together. -/
structure PinRow (ε : Type) where
  account : Account
  pins : Pins ε

namespace PinStore

variable {ε : Type}

def row (s : PinStore ε) (account : Account) : PinRow ε := ⟨account, s.pins account.id⟩

def has (s : PinStore ε) (u : UserId) : Bool := (s.directory.users.get? u).isSome

def put (row : PinRow ε) (s : PinStore ε) : PinStore ε where
  directory := s.directory.save row.account
  pins := Function.update s.pins row.account.id row.pins

def accepts (row : PinRow ε) (s : PinStore ε) : Bool := !s.directory.emailTaken row.account

/-- `user.save()` of a row that was read before. When it raises, nothing is stored. -/
def saveRow (row : PinRow ε) (s : PinStore ε) : PinStore ε :=
  if s.accepts row then s.put row else s

/-- `save(update_fields=[...])`: the two columns and nothing else. -/
def savePins (u : UserId) (pins : Pins ε) (s : PinStore ε) : PinStore ε :=
  if s.has u then { s with pins := Function.update s.pins u pins } else s

/-- An insert that the database can refuse: the id and the address are unique,
and the columns have widths. -/
def create (account : Account) (pins : Pins ε) (s : PinStore ε) : Bool × PinStore ε :=
  if account.fits = false ∨ s.has account.id = true ∨
      (s.directory.users.rows.any fun a => decide (a.email = account.email)) = true then (false, s)
  else (true, s.put ⟨account, pins⟩)

theorem pins_put (s : PinStore ε) (row : PinRow ε) (u : UserId) :
    (s.put row).pins u = if u = row.account.id then row.pins else s.pins u :=
  Function.update_apply ..

theorem pins_saveRow (s : PinStore ε) (row : PinRow ε) (u : UserId) :
    (s.saveRow row).pins u =
      if u = row.account.id ∧ s.accepts row = true then row.pins else s.pins u := by
  unfold saveRow
  split
  · rename_i haccepts
    simp [pins_put, haccepts]
  · rename_i hrefuses
    simp [hrefuses]

theorem pins_savePins (s : PinStore ε) (v : UserId) (pins : Pins ε) (u : UserId) :
    (s.savePins v pins).pins u = if u = v ∧ s.has v = true then pins else s.pins u := by
  unfold savePins
  by_cases hhas : s.has v = true
  · rw [if_pos hhas]
    simp [Function.update_apply, hhas]
  · rw [if_neg hhas]
    simp [hhas]

theorem pins_create (s : PinStore ε) (account : Account) (pins : Pins ε) (u : UserId) :
    (s.create account pins).2.pins u =
      if u = account.id ∧ (s.create account pins).1 = true then pins else s.pins u := by
  unfold create
  split
  · simp
  · simp [pins_put]

/-- What a save writes to an empty table tells it from the other writes. -/
theorem saveRow_ne_id {row : PinRow ε} : saveRow row ≠ id := by
  intro hwrite
  have hrows := congrArg (fun s => s.directory.users.rows.length)
    (congrFun hwrite ⟨⟨.empty, .empty⟩, fun _ => row.pins⟩)
  cases hrows

theorem saveRow_ne_savePins {row : PinRow ε} {u : UserId} {pins : Pins ε} :
    saveRow row ≠ savePins u pins := by
  intro hwrite
  have hrows := congrArg (fun s => s.directory.users.rows.length)
    (congrFun hwrite ⟨⟨.empty, .empty⟩, fun _ => pins⟩)
  cases hrows

theorem saveRow_injective {row row' : PinRow ε} (h : saveRow row = saveRow row') : row = row' := by
  let s₀ : PinStore ε := ⟨⟨.empty, .empty⟩, fun _ => row.pins⟩
  have hrows : (s₀.put row).directory.users.rows = (s₀.put row').directory.users.rows :=
    congrArg (fun s => s.directory.users.rows) (congrFun h s₀)
  have hpins : (s₀.put row).pins row'.account.id = (s₀.put row').pins row'.account.id :=
    congrArg (fun s => s.pins row'.account.id) (congrFun h s₀)
  have haccount : row.account = row'.account := List.singleton_inj.mp hrows
  rw [pins_put, pins_put, if_pos rfl, haccount, if_pos rfl] at hpins
  exact congrArg₂ PinRow.mk haccount hpins

theorem saveRow_ne_create {row : PinRow ε} {account : Account} {pins : Pins ε} :
    saveRow row ≠ fun s => (s.create account pins).2 := by
  intro hwrite
  let other : Pins ε := ⟨row.pins.code, !row.pins.mustChange⟩
  let s₀ : PinStore ε := put ⟨row.account, other⟩ ⟨⟨.empty, .empty⟩, fun _ => other⟩
  have haccount : account = row.account := by
    have hrows := congrArg (fun s => s.directory.users.rows)
      (congrFun hwrite ⟨⟨.empty, .empty⟩, fun _ => other⟩)
    unfold create at hrows
    split at hrows
    · cases hrows
    · exact (List.singleton_inj.mp hrows).symm
  have hhas : s₀.has account.id = true := by
    change ((Table.empty.put row.account).get? account.id).isSome = true
    rw [Table.get?_put, haccount]
    simp [Keyed.key]
  have hkept : (s₀.create account pins).2 = s₀ := by
    unfold create
    rw [if_pos (Or.inr (Or.inl hhas))]
  have haccepts : s₀.accepts row = true := by
    simp [accepts, Directory.emailTaken, Directory.existsOther, s₀, put, Directory.save,
      Table.put, Table.empty]
  have hother : s₀.pins row.account.id = other := by
    rw [pins_put, if_pos rfl]
  have hpins := congrArg (fun s => s.pins row.account.id) (congrFun hwrite s₀)
  simp only [hkept, pins_saveRow, haccepts, and_self, if_true, hother] at hpins
  have hflag : row.pins.mustChange = !row.pins.mustChange := congrArg Pins.mustChange hpins
  cases hmust : row.pins.mustChange <;> simp [hmust] at hflag

end PinStore

inductive PinAnswer where
  | plain (answer : Answer)
  /-- Status 201, with `initial_pin`. -/
  | agent (account : Account) (initialPin : String)
  /-- The tokens of a user, and `must_change_pin`. -/
  | tokens (user : UserId) (mustChangePin : Bool)
  deriving DecidableEq

def pinError {ε : Type} (status : Nat) (message : String) : Prog (PinStore ε) PinAnswer :=
  pure (.plain (.error status message))

/-! ## Saving rows -/

section Rows

variable {ε : Type}

def signedInPins (auth : Option UserId) (view : PinRow ε → Prog (PinStore ε) PinAnswer) :
    Prog (PinStore ε) PinAnswer := do
  match ← Prog.read fun s => (s.directory.authenticated auth).map s.row with
  | none => pure (.plain .unauthorized)
  | some actor => view actor

/-- Checks of the directory, one after the other. The first that fails answers. -/
def passing :
    List (Directory → Option Answer) → Prog (PinStore ε) PinAnswer → Prog (PinStore ε) PinAnswer
  | [], rest => rest
  | check :: checks, rest => do
    match ← Prog.read fun s => check s.directory with
    | some answer => pure (.plain answer)
    | none => passing checks rest

/-- Save a row that was read before, and go on. -/
def savingRow (row : PinRow ε) (rest : Prog (PinStore ε) PinAnswer) :
    Prog (PinStore ε) PinAnswer := do
  if ← Prog.atomic fun s => (s.accepts row, s.saveRow row) then rest else pure (.plain .crash)

/-- What a view changes of an account. -/
structure Edit where
  apply : Account → Account
  id_apply : ∀ account, (apply account).id = account.id

/-- The result of a lookup, or the answer when there is none. -/
def orAnswer (answer : Answer) : Option Account → Except Answer Account
  | none => .error answer
  | some account => .ok account

/-- A view that finds a row, checks it, and saves the whole row. -/
def saveFound (find : Directory → Except Answer Account)
    (checks : Account → List (Directory → Option Answer)) (edit : Edit) (mustChangePin : Arg Bool)
    (answer : Account → Answer) : Prog (PinStore ε) PinAnswer := do
  match ← Prog.read fun s => (find s.directory).map s.row with
  | .error answer => pure (.plain answer)
  | .ok row =>
    passing (checks row.account) <|
      savingRow
        { account := edit.apply row.account
          pins := { row.pins with mustChange := mustChangePin.over row.pins.mustChange } } <|
      pure (.plain (answer (edit.apply row.account)))

def UserData.edit (data : UserData) : Edit := ⟨fun item => data.update item, fun _ => rfl⟩

def MemberData.edit (data : MemberData) : Edit := ⟨fun member => data.update member, fun _ => rfl⟩

/-- `user_api_view`, `PUT`: `must_change_pin` is a field of `UserPutSerializer`. -/
def updateUserPins (auth : Option UserId) (id : UserId) (data : UserData)
    (mustChangePin : Arg Bool) : Prog (PinStore ε) PinAnswer :=
  signedInPins auth fun actor =>
  saveFound (fun d => orAnswer .notFound (d.users.get? id))
    (fun item =>
      [fun _ => if canEditUser actor.account item = false then
          some (.error 403 "Vous n'avez pas les droits pour modifier cet utilisateur.") else none,
        fun _ => if data.password = .invalid then some .crash else none,
        fun d =>
          match userPutErrors id d data ++ (flagProblem mustChangePin).toList.map fun problem =>
              ⟨"must_change_pin", problem⟩ with
          | [] => none
          | errors => some (.invalid errors)])
    data.edit mustChangePin (.user 200)

/-- `OrganisationMemberDetailView.patch`. The checks are those of
`Mapapi.updateMember` and come in the same order, each at a moment of its own;
then the row is saved as a whole, with the PIN it was read with. -/
def updateMemberPins (auth : Option UserId) (pk : OrganisationId) (id : UserId)
    (data : MemberData) : Prog (PinStore ε) PinAnswer :=
  signedInPins auth fun actor =>
  if managesMembers actor.account pk = false ∧ isBureauOf actor.account pk = false then
    pinError 403 "Droits insuffisants."
  else
    saveFound
      (fun d => orAnswer (.error 404 "Membre non trouvé dans cette organisation.")
        (d.memberOf pk id))
      (fun member =>
        [fun _ => if managesMembers actor.account pk = false ∧
              member.orgRole ≠ some .fieldAgent then
            some (.error 403 "Un agent de bureau ne peut modifier qu'un agent de terrain.")
          else none,
          fun _ => if managesMembers actor.account pk = false ∧ data.orgRole ≠ .absent ∧
              data.orgRole ≠ .null ∧ data.orgRole ≠ .value .fieldAgent then
            some (.field 403 "Un agent de bureau ne peut pas changer le rôle d'un agent."
              "org_role" "Modification du rôle non autorisée.")
          else none,
          fun d => data.emailProblem member d,
          fun _ => if data.firstName = .invalid ∨ data.lastName = .invalid then some .crash
            else none,
          fun d => data.phoneProblem member d,
          fun d => data.roleProblem actor.account member d,
          fun _ => if (data.update member).fits then none else some .crash])
      data.edit .absent (.user 200)

/-- A view that changes another column of a user: the password (`ChangePasswordView`,
`PasswordResetView`), the code (`VerifyOTPView`), the token (`VerifyEmailView`), or the points
of whoever reports an incident, an event or a participation. -/
def resaveUser (u : UserId) : Prog (PinStore ε) PinAnswer :=
  saveFound (fun d => orAnswer .notFound (d.users.get? u)) (fun _ => []) ⟨id, fun _ => rfl⟩
    .absent (.user 200)

/-- Save one row after the other. A save that raises ends the loop. -/
def savingRows (rest : Prog (PinStore ε) PinAnswer) :
    List (PinRow ε) → Prog (PinStore ε) PinAnswer
  | [] => rest
  | row :: rows => savingRow row (savingRows rest rows)

/-- `UpdatePointAPIListView.get`: the rows are read at once, and saved one by one. -/
def updatePointsPins : Prog (PinStore ε) PinAnswer := do
  let rows ← Prog.read fun s => s.directory.users.rows.map s.row
  savingRows (pure (.plain (.text 200 "update success "))) rows

/-- `EluAPIListView.post`, which draws `id`. Anybody may ask; only a token that is no good is
refused. `pin_code` is stored as it is sent. The password is set by a second save. -/
def createEluPins (auth : Option UserId) (id : UserId) (data : UserData) (pinCode : Arg ε)
    (mustChangePin : Arg Bool) : Prog (PinStore ε) PinAnswer :=
  passing
    [fun d => if auth ≠ none ∧ d.authenticated auth = none then some .unauthorized else none,
      fun d =>
        match sharedErrors false id d data ++
            (parsedProblem pinCode).toList.map (fun problem => ⟨"pin_code", problem⟩) ++
            (flagProblem mustChangePin).toList.map (fun problem => ⟨"must_change_pin", problem⟩) ++
            data.otherErrors with
        | [] => none
        | errors => some (.invalid errors)] do
  if ← Prog.atomic (PinStore.create (data.create id)
      ⟨pinCode.overNullable none, mustChangePin.over false⟩) then
    saveFound (fun d => orAnswer .crash (d.users.get? id)) (fun _ => []) ⟨fun a => a, fun _ => rfl⟩
      .absent (.user 201)
  else pure (.plain .crash)

end Rows

/-! ## PINs that are drawn -/

section Drawn

variable {ε : Type} (H : Hasher ε)

/-- `random.randint(1000, 9999)`, and the salt. -/
structure PinDraw where
  number : Nat
  salt : Nat
  least : 1000 ≤ number
  most : number ≤ 9999

def PinDraw.pin (draw : PinDraw) : String := toString draw.number

def PinDraw.pins (draw : PinDraw) : Pins ε := ⟨some (H.make draw.salt draw.pin), true⟩

/-- `generate_and_set_pin(force_change=True)`. -/
def generateAndSetPin (u : UserId) (draw : PinDraw) : Prog (PinStore ε) Bool :=
  Prog.atomic fun s => (s.has u, s.savePins u (draw.pins H))

/-- `OrganisationMemberCreateView.post`. A new field agent without a PIN is
given one by an `UPDATE` of the two columns, and only then is the row saved,
which writes them once more. -/
def addMemberPins (auth : Option UserId) (pk : OrganisationId) (userId : RawId)
    (orgRole : Arg OrgRole) (draw : PinDraw) : Prog (PinStore ε) PinAnswer :=
  signedInPins auth fun actor =>
  if managesMembers actor.account pk = false then
    pinError 403 "Seul un administrateur d'organisation peut gérer les membres."
  else
    passing [fun d => if d.organisations.get? pk = none then
      some (.error 404 "Organisation non trouvée.") else none] <|
    match userId, orgRole with
    | .absent, _ | _, .absent | _, .null => pinError 400 "user_id et org_role sont requis."
    | _, .invalid => pinError 400 "Rôle invalide. Choix : org_admin, bureau_agent, field_agent."
    | .malformed, .value _ => pure (.plain .crash)
    | .uuid id, .value role => do
      match ← Prog.read fun s => (s.directory.users.get? id).map s.row with
      | none => pinError 404 "Utilisateur non trouvé."
      | some ⟨member, pins⟩ =>
        let member' := { member with organisationMember := some pk, orgRole := some role }
        if role = .fieldAgent ∧ pins.code.isNone then do
          if ← generateAndSetPin H id draw then
            savingRow ⟨member', draw.pins H⟩ (pure (.agent member' draw.pin))
          else pure (.plain .crash)
        else savingRow ⟨member', pins⟩ (pure (.plain (.user 201 member')))

/-- `FieldAgentCreateView.post`, which draws `id`. -/
def createAgentPins (auth : Option UserId) (pk : OrganisationId) (id : UserId) (data : AgentData)
    (draw : PinDraw) : Prog (PinStore ε) PinAnswer :=
  signedInPins auth fun actor =>
  passing
    [fun _ => if managesMembers actor.account pk = false ∧ isBureauOf actor.account pk = false then
        some (.error 403 ("Seul un administrateur d'organisation ou un agent de bureau de cette " ++
          "organisation peut créer un agent de terrain.")) else none,
      fun d => if d.organisations.get? pk = none then
        some (.error 404 "Organisation non trouvée.") else none,
      fun _ => if data.firstName = .invalid ∨ data.lastName = .invalid ∨ data.email = .invalid ∨
        data.phone = .invalid then some .crash else none,
      fun _ => if data.missing ≠ [] then
        some (.missing ("Champs requis manquants : " ++ ", ".intercalate data.missing ++ ".")
          data.missing) else none,
      fun d => if d.users.rows.any fun a => decide (a.email = data.email.over "") then
        some (.field 400 agentEmailTaken "email" agentEmailTaken) else none,
      fun d => if d.users.rows.any fun a =>
          decide (a.phone = some (data.phone.over "") ∧ a.orgRole = some .fieldAgent) then
        some (.field 400 fieldAgentPhoneTaken "phone" fieldAgentPhoneTaken) else none] do
  if ← Prog.atomic (PinStore.create (data.create id pk) ⟨none, false⟩) then do
    if ← generateAndSetPin H id draw then pure (.agent (data.create id pk) draw.pin)
    else pure (.plain .crash)
  else pure (.plain .crash)

end Drawn

/-! ## Signing in, and choosing a PIN -/

section Own

variable {ε : Type} (H : Hasher ε) (isDigit : Char → Bool)

/-- `AgentPinLoginView.post`. The row is read once; the PIN, the hash and the
flag of the answer are all of that moment. -/
def agentPinLogin (phone pin : Option String) : Prog (PinStore ε) PinAnswer :=
  match presentText phone, presentText pin with
  | some phone, some pin => do
    match ← Prog.read fun s => (s.directory.pinUser phone).map s.row with
    | .error .doesNotExist => pinError 401 "Téléphone invalide ou utilisateur non actif."
    | .error .multipleObjectsReturned => pure (.plain .crash)
    | .ok user =>
      match user.pins.code with
      | none => pinError 400 "Aucun PIN configuré pour cet agent."
      | some code =>
        if H.check pin code then pure (.tokens user.account.id user.pins.mustChange)
        else pinError 401 "PIN invalide."
  | _, _ => pinError 400 "phone et pin sont requis."

/-- The PINs that are refused by name: the same digit four times, and one that
counts up. -/
def weakPins : List String :=
  ["0000", "1234", "1111", "2222", "3333", "4444", "5555", "6666", "7777", "8888", "9999"]

/-- Four digits, as `str.isdigit` has it, that are not too simple. -/
def acceptablePin (pin : String) : Bool :=
  pin.toList.all isDigit && decide (pin.length = 4) && decide (pin ∉ weakPins)

/-- `AgentChangePinView.post`. -/
def agentChangePin (auth : Option UserId) (oldPin newPin : Option String) (salt : Nat) :
    Prog (PinStore ε) PinAnswer :=
  signedInPins auth fun user =>
  match presentText oldPin, presentText newPin with
  | some oldPin, some newPin =>
    if user.account.orgRole ≠ some .fieldAgent then
      pinError 403 "Cette action est réservée aux agents de terrain."
    else
      match user.pins.code with
      | none => pinError 400 "Aucun PIN configuré pour cet agent."
      | some code =>
        if H.check oldPin code = false then pinError 401 "Ancien PIN invalide."
        else if newPin.toList.all isDigit = false ∨ newPin.length ≠ 4 then
          pinError 400 "Le nouveau PIN doit être composé de 4 chiffres."
        else if newPin ∈ weakPins then
          pinError 400 "Ce PIN est trop simple. Choisissez un autre PIN."
        else do
          let pins : Pins ε := ⟨some (H.make salt newPin), false⟩
          if ← Prog.atomic fun s => (s.has user.account.id, s.savePins user.account.id pins) then
            pure (.plain (.text 200 "PIN changé avec succès."))
          else pure (.plain .crash)
  | _, _ => pinError 400 "old_pin et new_pin sont requis."

/-- The requests that store PINs, sign in with one, or save the row of a user;
what a request draws (a PIN, a salt, an id) is a parameter of it, so it may be
any. -/
inductive PinOp (ε : Type) where
  | login (phone pin : Option String)
  | changePin (auth : Option UserId) (oldPin newPin : Option String) (salt : Nat)
  | addMember (auth : Option UserId) (pk : OrganisationId) (userId : RawId) (orgRole : Arg OrgRole)
      (draw : PinDraw)
  | createAgent (auth : Option UserId) (pk : OrganisationId) (id : UserId) (data : AgentData)
      (draw : PinDraw)
  | createElu (auth : Option UserId) (id : UserId) (data : UserData) (pinCode : Arg ε)
      (mustChangePin : Arg Bool)
  | updateUser (auth : Option UserId) (id : UserId) (data : UserData) (mustChangePin : Arg Bool)
  | updateMember (auth : Option UserId) (pk : OrganisationId) (id : UserId) (data : MemberData)
  | updatePoints
  | resave (u : UserId)

def PinOp.program : PinOp ε → Prog (PinStore ε) PinAnswer
  | login phone pin => agentPinLogin H phone pin
  | changePin auth oldPin newPin salt => agentChangePin H isDigit auth oldPin newPin salt
  | addMember auth pk userId orgRole draw => addMemberPins H auth pk userId orgRole draw
  | createAgent auth pk id data draw => createAgentPins H auth pk id data draw
  | createElu auth id data pinCode mustChangePin =>
    createEluPins auth id data pinCode mustChangePin
  | updateUser auth id data mustChangePin => updateUserPins auth id data mustChangePin
  | updateMember auth pk id data => updateMemberPins auth pk id data
  | updatePoints => updatePointsPins
  | resave u => resaveUser u

def pinPool {ι : Type} (s : PinStore ε) (ops : ι → PinOp ε) : Pool (PinStore ε) ι PinAnswer where
  store := s
  progs i := (ops i).program H isDigit

end Own

/-! ## One request alone -/

/-- What a client reads of the answer that an endpoint of the directory would give. The
first PIN comes with the account of a 201. -/
inductive PinAnswer.Shows : PinAnswer → Answer → Prop
  | plain (answer : Answer) : Shows (.plain answer) answer
  | agent (account : Account) (initialPin : String) :
      Shows (.agent account initialPin) (.user 201 account)

section Alone

variable {ε : Type} {H : Hasher ε} {s : PinStore ε} {auth : Option UserId}
  {out : Answer × Directory}

/-- Alone, the program answers as `out` says, and leaves that directory. -/
def Agrees (p : Prog (PinStore ε) PinAnswer) (s : PinStore ε) (out : Answer × Directory) : Prop :=
  (p.run s).1.Shows out.1 ∧ (p.run s).2.directory = out.2

theorem agrees_pure (answer : Answer) :
    Agrees (pure (.plain answer)) s (answer, s.directory) :=
  ⟨.plain answer, rfl⟩

theorem agrees_signedInPins {view : PinRow ε → Prog (PinStore ε) PinAnswer}
    {endpoint : Account → Endpoint}
    (h : ∀ account, Agrees (view (s.row account)) s (endpoint account s.directory)) :
    Agrees (signedInPins auth view) s (signedIn auth endpoint s.directory) := by
  unfold Agrees signedInPins signedIn
  simp only [Prog.run_bind, Prog.run_read]
  cases s.directory.authenticated auth with
  | none => exact agrees_pure _
  | some actor => exact h actor

theorem agrees_ite {c : Prop} [Decidable c] {p q : Prog (PinStore ε) PinAnswer}
    {out' : Answer × Directory} (hp : c → Agrees p s out) (hq : ¬ c → Agrees q s out') :
    Agrees (if c then p else q) s (if c then out else out') := by
  split
  · exact hp ‹_›
  · exact hq ‹_›

section Passing

variable {check : Directory → Option Answer} {checks : List (Directory → Option Answer)}
  {rest : Prog (PinStore ε) PinAnswer}

theorem agrees_stop {answer : Answer} (hcheck : check s.directory = some answer) :
    Agrees (passing (check :: checks) rest) s (answer, s.directory) := by
  unfold Agrees passing
  simp only [Prog.run_bind, Prog.run_read, hcheck]
  exact agrees_pure _

theorem agrees_next (hcheck : check s.directory = none)
    (h : Agrees (passing checks rest) s out) : Agrees (passing (check :: checks) rest) s out := by
  unfold Agrees passing
  simp only [Prog.run_bind, Prog.run_read, hcheck]
  exact h

theorem agrees_check {c : Prop} [Decidable c] {answer : Answer}
    (hcheck : check s.directory = if c then some answer else none)
    (h : ¬ c → Agrees (passing checks rest) s out) :
    Agrees (passing (check :: checks) rest) s (if c then (answer, s.directory) else out) := by
  by_cases hc : c
  · rw [if_pos hc] at hcheck ⊢
    exact agrees_stop hcheck
  · rw [if_neg hc] at hcheck ⊢
    exact agrees_next hcheck (h hc)

end Passing

theorem agrees_savingRow {account : Account} (pins : Pins ε) {shown : PinAnswer} {answer : Answer}
    (hfree : s.directory.emailTaken account = false) (hshows : shown.Shows answer) :
    Agrees (savingRow ⟨account, pins⟩ (pure shown)) s (answer, s.directory.save account) := by
  have haccepts : s.accepts ⟨account, pins⟩ = true := by simp [PinStore.accepts, hfree]
  have hrun : (savingRow ⟨account, pins⟩ (pure shown)).run s = (shown, s.put ⟨account, pins⟩) := by
    unfold savingRow PinStore.saveRow
    simp [haccepts]
  unfold Agrees
  rw [hrun]
  exact ⟨hshows, rfl⟩

section Found

variable {find : Directory → Except Answer Account}
  {checks : Account → List (Directory → Option Answer)} {edit : Edit} {mustChangePin : Arg Bool}
  {answer : Account → Answer}

theorem agrees_saveFound_error {problem : Answer} (hfound : find s.directory = .error problem) :
    Agrees (saveFound find checks edit mustChangePin answer) s (problem, s.directory) := by
  unfold Agrees saveFound
  simp only [Prog.run_bind, Prog.run_read, hfound]
  exact agrees_pure _

theorem agrees_saveFound {account : Account} (hfound : find s.directory = .ok account)
    (h : ∀ pins, Agrees (passing (checks account) (savingRow ⟨edit.apply account, pins⟩
      (pure (.plain (answer (edit.apply account)))))) s out) :
    Agrees (saveFound find checks edit mustChangePin answer) s out := by
  unfold Agrees saveFound
  simp only [Prog.run_bind, Prog.run_read, hfound]
  exact h _

end Found

/-- `PUT /user/<id>`, without `must_change_pin` or with a value of it. -/
theorem updateUserPins_agrees (hd : s.directory.EmailsDistinct) (id : UserId) (data : UserData)
    {mustChangePin : Arg Bool} (hflag : flagProblem mustChangePin = none) :
    Agrees (updateUserPins auth id data mustChangePin) s (updateUser auth id data s.directory) := by
  refine agrees_signedInPins fun actor => ?_
  cases hitem : s.directory.users.get? id with
  | none => exact agrees_saveFound_error (by rw [hitem]; rfl)
  | some item =>
      refine agrees_saveFound (by rw [hitem]; rfl) fun pins => ?_
      refine agrees_check rfl fun _ => agrees_check rfl fun _ => ?_
      cases hvalid : userPutErrors id s.directory data with
      | cons error errors => exact agrees_stop (by simp [hvalid, hflag])
      | nil =>
          refine agrees_next (by simp [hvalid, hflag]) ?_
          exact agrees_savingRow _ (emailTaken_update_of_user hd hitem hvalid) (.plain _)

/-- Run alone, the turns of a PATCH end in what the view of `Mapapi.Accounts`
makes of the directory. The checks come in the same order, each on the
directory that is stored when its turn comes, and nothing has changed it in
between. -/
theorem updateMemberPins_agrees (hd : s.directory.EmailsDistinct) (pk : OrganisationId)
    (id : UserId) (data : MemberData) :
    Agrees (updateMemberPins auth pk id data) s (updateMember auth pk id data s.directory) := by
  refine agrees_signedInPins fun actor => ?_
  refine agrees_ite (fun _ => agrees_pure _) fun _ => ?_
  cases hmember : s.directory.memberOf pk id with
  | none => exact agrees_saveFound_error (by rw [hmember]; rfl)
  | some member =>
      have hstored := (Option.filter_eq_some_iff.mp hmember).1
      obtain rfl : member.id = id := Table.key_of_get? hstored
      refine agrees_saveFound (by rw [hmember]; rfl) fun pins => ?_
      refine agrees_check rfl fun _ => agrees_check rfl fun _ => ?_
      unfold MemberData.problem
      cases hemail : data.emailProblem member s.directory with
      | some answer => exact agrees_stop hemail
      | none =>
          refine agrees_next hemail ?_
          rw [Option.none_or]
          by_cases hnames : data.firstName = .invalid ∨ data.lastName = .invalid
          · rw [if_pos hnames]
            exact agrees_stop rfl
          rw [if_neg hnames, Option.none_or]
          refine agrees_next rfl ?_
          cases hphone : data.phoneProblem member s.directory with
          | some answer => exact agrees_stop hphone
          | none =>
              refine agrees_next hphone ?_
              rw [Option.none_or]
              cases hrole : data.roleProblem actor member s.directory with
              | some answer => exact agrees_stop hrole
              | none =>
                  refine agrees_next hrole ?_
                  dsimp only
                  by_cases hfits : (data.update member).fits = true
                  · refine agrees_next (if_pos hfits) ?_
                    rw [if_pos hfits]
                    exact agrees_savingRow _ (emailTaken_update_of_member hd hstored hemail)
                      (.plain _)
                  · rw [if_neg hfits, if_neg hfits]
                    exact agrees_stop rfl

theorem run_generateAndSetPin {u : UserId} {draw : PinDraw} {α : Type}
    {k : Bool → Prog (PinStore ε) α} (hhas : s.has u = true) :
    (generateAndSetPin H u draw >>= k).run s = (k true).run (s.savePins u (draw.pins H)) := by
  unfold generateAndSetPin
  simp [hhas]

theorem directory_savePins (u : UserId) (pins : Pins ε) :
    (s.savePins u pins).directory = s.directory := by
  unfold PinStore.savePins
  split <;> rfl

/-- `members/add`, whether or not a PIN is drawn. -/
theorem addMemberPins_agrees (hd : s.directory.EmailsDistinct) (pk : OrganisationId)
    (userId : RawId) (orgRole : Arg OrgRole) (draw : PinDraw) :
    Agrees (addMemberPins H auth pk userId orgRole draw) s
      (addMember auth pk userId orgRole s.directory) := by
  refine agrees_signedInPins fun actor => ?_
  refine agrees_ite (fun _ => agrees_pure _) fun _ => agrees_check rfl fun _ => ?_
  cases userId with
  | absent => exact agrees_pure _
  | malformed => cases orgRole <;> exact agrees_pure _
  | uuid id =>
      cases orgRole with
      | absent | null | invalid => exact agrees_pure _
      | value role =>
          unfold Agrees passing
          simp only [Prog.run_bind, Prog.run_read]
          cases hmember : s.directory.users.get? id with
          | none => exact agrees_pure _
          | some member =>
              obtain rfl : member.id = id := Table.key_of_get? hmember
              let member' : Account :=
                { member with organisationMember := some pk, orgRole := some role }
              have hfree : s.directory.emailTaken member' = false :=
                emailTaken_of_kept hd hmember rfl rfl
              have hhas : s.has member.id = true := by simp [PinStore.has, hmember]
              dsimp only [Option.map_some, PinStore.row]
              split
              · -- the two columns are stored first, and the directory is the same
                rw [run_generateAndSetPin hhas]
                have hsame := directory_savePins (s := s) member.id (draw.pins H)
                have hfree' : (s.savePins member.id (draw.pins H)).directory.emailTaken member' =
                    false := hsame ▸ hfree
                have hsaved := agrees_savingRow (draw.pins H) hfree' (.agent member' draw.pin)
                rw [hsame] at hsaved
                exact hsaved
              · exact agrees_savingRow _ hfree (.plain _)

/-- With an e-mail that nobody has, only the other texts and the id may be in the way. -/
theorem create_of_free {account : Account} (pins : Pins ε)
    (hfree : s.directory.users.get? account.id = none →
      (s.directory.users.rows.any fun a => decide (a.email = account.email)) = false) :
    s.create account pins =
      if account.fits = false ∨ (s.directory.users.get? account.id).isSome then (false, s)
      else (true, s.put ⟨account, pins⟩) := by
  unfold PinStore.create PinStore.has
  cases hget : s.directory.users.get? account.id with
  | none => simp [hfree hget]
  | some old => simp

theorem get?_put_self (account : Account) (pins : Pins ε) :
    (s.put ⟨account, pins⟩).directory.users.get? account.id = some account :=
  (Table.get?_put ..).trans (if_pos rfl)

theorem agrees_create {account : Account} {pins : Pins ε} {p : Prog (PinStore ε) PinAnswer}
    (hfree : s.directory.users.get? account.id = none →
      (s.directory.users.rows.any fun a => decide (a.email = account.email)) = false)
    (h : s.directory.users.get? account.id = none → Agrees p (s.put ⟨account, pins⟩) out) :
    Agrees (do if ← Prog.atomic (PinStore.create account pins) then p else pure (.plain .crash)) s
      (if account.fits = false ∨ (s.directory.users.get? account.id).isSome then
        (.crash, s.directory) else out) := by
  have hcreate := create_of_free pins hfree
  unfold Agrees
  split at hcreate
  · rename_i hrefused
    rw [if_pos hrefused]
    simp only [Prog.run_bind, Prog.run_atomic, hcreate, Bool.false_eq_true, if_false]
    exact agrees_pure _
  · rename_i hcreated
    rw [if_neg hcreated]
    simp only [Prog.run_bind, Prog.run_atomic, hcreate, if_true]
    exact h (by simpa using (not_or.mp hcreated).2)

theorem has_put (account : Account) (pins : Pins ε) :
    (s.put ⟨account, pins⟩).has account.id = true := by
  unfold PinStore.has
  rw [get?_put_self]
  rfl

theorem createAgentPins_agrees (pk : OrganisationId) (id : UserId) (data : AgentData)
    (draw : PinDraw) :
    Agrees (createAgentPins H auth pk id data draw) s
      (createAgent auth pk id data s.directory) := by
  refine agrees_signedInPins fun actor => ?_
  refine agrees_check rfl fun _ => agrees_check rfl fun _ => agrees_check rfl fun _ =>
    agrees_check rfl fun _ => agrees_check rfl fun hemail => agrees_check rfl fun _ => ?_
  have hhas : (s.put ⟨data.create id pk, ⟨none, false⟩⟩).has id = true :=
    has_put (data.create id pk) _
  refine agrees_create (fun _ => Bool.eq_false_iff.mpr hemail) fun _ => ?_
  unfold Agrees
  rw [run_generateAndSetPin hhas]
  exact ⟨.agent _ _, directory_savePins ..⟩

theorem emails_free_of_user {d : Directory} {id : UserId} {data : UserData}
    (hnew : d.users.get? id = none) (hvalid : userErrors id d data = []) :
    (d.users.rows.any fun a => decide (a.email = (data.create id).email)) = false := by
  have hshared : sharedErrors false id d data = [] := by
    simp only [userErrors, List.append_eq_nil_iff] at hvalid
    exact hvalid.1.1
  have hemail := emailProblem_of_valid hshared
  cases hsent : data.email.stripped with
  | absent | null | invalid => simp [emailProblem, hsent, textProblem] at hemail
  | value email =>
      have hfree := email_free_of_valid hshared hsent
      simp only [Directory.existsOther, List.any_eq_false, Bool.and_eq_true, decide_eq_true_eq,
        not_and] at hfree ⊢
      intro a ha heq
      have hother : a.id ≠ id := fun hid =>
        Table.get?_eq_none.mp hnew (hid ▸ List.mem_map_of_mem ha)
      exact hfree a ha hother (heq.trans (by simp [UserData.create, hsent, Arg.over]))

theorem emailTaken_of_created {id : UserId} {data : UserData} {pins : Pins ε}
    (hnew : s.directory.users.get? id = none) (hvalid : userErrors id s.directory data = []) :
    (s.put ⟨data.create id, pins⟩).directory.emailTaken (data.create id) = false := by
  have hfree := emails_free_of_user hnew hvalid
  rw [List.any_eq_false] at hfree
  refine emailTaken_eq_false.mpr fun a ha hne heq => ?_
  rcases Table.mem_put_iff.mp ha with rfl | ⟨hold, -⟩
  · exact hne rfl
  · exact hfree a hold (decide_eq_true heq)

/-- `POST /elu/` creates the row that `POST /user/` creates of the same fields. The second
save, for the password, finds it as it is. -/
theorem createEluPins_agrees (id : UserId) (data : UserData) {pinCode : Arg ε}
    {mustChangePin : Arg Bool} (hpassword : textProblem false 128 data.password.stripped = none)
    (hpin : parsedProblem pinCode = none) (hflag : flagProblem mustChangePin = none)
    (hfits : (data.create id).fits = true) :
    Agrees (createEluPins auth id data pinCode mustChangePin) s
      (createUser auth id data .absent s.directory) := by
  unfold createEluPins createUser
  refine agrees_check rfl fun _ => ?_
  have hsame : userErrors id s.directory data =
      sharedErrors false id s.directory data ++ data.otherErrors := by
    unfold userErrors
    rw [hpassword]
    simp
  cases hvalid : userErrors id s.directory data with
  | cons error errors => exact agrees_stop (by simp [hpin, hflag, ← hsame, hvalid])
  | nil =>
      refine agrees_next (by simp [hpin, hflag, ← hsame, hvalid]) ?_
      have hcreated (pins : Pins ε) (hnew : s.directory.users.get? id = none) :
          Agrees (saveFound (fun d => orAnswer .crash (d.users.get? id)) (fun _ => [])
            ⟨fun a => a, fun _ => rfl⟩ .absent (.user 201)) (s.put ⟨data.create id, pins⟩)
          (.user 201 (data.create id), s.directory.save (data.create id)) := by
        have hfound : (s.put ⟨data.create id, pins⟩).directory.users.get? id =
            some (data.create id) := get?_put_self ..
        have hagain : (s.put ⟨data.create id, pins⟩).directory.save (data.create id) =
            s.directory.save (data.create id) := by
          unfold Directory.save
          rw [Table.put_self hfound]
          rfl
        refine agrees_saveFound (by rw [hfound]; rfl) fun pins' => ?_
        rw [← hagain]
        exact agrees_savingRow _ (emailTaken_of_created hnew hvalid) (.plain _)
      have hcreates := agrees_create (fun hnew => emails_free_of_user hnew hvalid)
        (hcreated ⟨pinCode.overNullable none, mustChangePin.over false⟩)
      have hout : (if (data.create id).fits = false ∨
          (s.directory.users.get? (data.create id).id).isSome = true then
            (Answer.crash, s.directory)
          else (.user 201 (data.create id), s.directory.save (data.create id))) =
          if (s.directory.users.get? id).isSome = true then (Answer.crash, s.directory)
          else (.user 201 (data.create id), s.directory.save (data.create id)) := by
        rw [hfits]
        simp [UserData.create]
      rw [hout] at hcreates
      exact hcreates

end Alone

end Mapapi
