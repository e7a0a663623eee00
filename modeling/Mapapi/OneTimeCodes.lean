import Mapapi.Lib.Seen
import Mapapi.PinLogin

/-!
# Signing in with a one-time code

`RequestOTPView` stores a code of six digits on the user with a phone number, and when it
expires, five minutes later. `VerifyOTPView` looks a user up by phone number and code,
checks the date, and saves the user without the code before it answers with tokens.

`is_otp_valid` adds five minutes to a date that is the expiry already, so a code is
accepted for ten minutes. And between the lookup and the save the code may have been
consumed by another request, or replaced. The tokens are due exactly when, at the save,
the user still has the code and the expiry has not passed (`OtpInOrder`).

The proof compares two histories: what has been generated and consumed so far
(`OneTime`), and what is stored (`codeOf`). As long as the turns are in order,
the last code generated is the one that is stored, until tokens are returned
for it.
-/

namespace Mapapi

open Lib

/-! ## The store -/

def minutes (n : Int) : Int := n * 60000000

/-- The columns of a user that count here. -/
structure OtpUser where
  id : UserId
  /-- Unique. -/
  email : String
  phone : Option String
  otp : Option String
  otpExpiration : Option Instant
  deriving DecidableEq

instance : Keyed OtpUser UserId := ⟨OtpUser.id⟩

/-- The expiry is five minutes after the code was generated, and the check
allows another five. An empty code never counts. -/
def OtpUser.isOtpValid (user : OtpUser) (now : Instant) : Bool :=
  match user.otp, user.otpExpiration with
  | some otp, some expiration => decide (otp ≠ "" ∧ now - expiration ≤ minutes 5)
  | _, _ => false

/-- The table, and the time on the clock. -/
structure OtpStore where
  users : Table OtpUser
  now : Instant

namespace OtpStore

/-- `get_or_create` over `filter(...).first()`: of several users with the
number, the one with the lowest key. -/
def firstByPhone (s : OtpStore) (phone : String) : Option OtpUser :=
  let users := s.users.select fun user => decide (user.phone = some phone)
  users.find? fun user => users.all fun other => decide (user.id ≤ other.id)

/-- `objects.get(phone=phone, otp=otp)`, where `None` stands for a null column. -/
def userByOtp (s : OtpStore) (phone otp : Option String) : Except GetError OtpUser :=
  match s.users.select fun user => decide (user.phone = phone ∧ user.otp = otp) with
  | [] => .error .doesNotExist
  | [user] => .ok user
  | _ => .error .multipleObjectsReturned

def saveUser (user : OtpUser) (s : OtpStore) : OtpStore := { s with users := s.users.put user }

/-- `_create_user(phone=phone)`, with the random primary key `id`. The database refuses a
phone number that is too long, and an email that another user has. -/
def createUser (id : UserId) (phone : String) (s : OtpStore) : Option OtpUser × OtpStore :=
  let user : OtpUser :=
    { id := id, email := phone ++ "@example.com", phone := some phone, otp := none
      otpExpiration := none }
  if phone.length > 20 ∨ (s.users.get? id).isSome ∨
      s.users.rows.any (fun other => decide (other.email = user.email)) then (none, s)
  else (some user, s.saveUser user)

def tick (passed : Nat) (s : OtpStore) : OtpStore := { s with now := s.now + passed }

/-- Runs start from users without codes, so that every code of the run has
been generated in it. -/
def NoCodes (s : OtpStore) : Prop := ∀ u user, s.users.get? u = some user → user.otp = none

end OtpStore

/-! ## The requests -/

inductive OtpAnswer where
  | message (status : Nat) (message : String)
  | tokens (user : UserId)
  | crash
  /-- The clock answers nobody. -/
  | nothing
  deriving DecidableEq

/-- `user.generate_otp()` and the SMS, which can be sent or not. -/
def generateOtp (user : OtpUser) (otp : String) (smsSent : Bool) : Prog OtpStore OtpAnswer := do
  let now ← Prog.read fun s => s.now
  Prog.modify (OtpStore.saveUser
    { user with otp := some otp, otpExpiration := some (now + minutes 5) })
  pure (if smsSent then .message 200 "OTP envoyé."
    else .message 500 "Erreur lors de l'envoi du SMS")

/-- `RequestOTPView.post`. The code is drawn at random, and the key of a user who is
created, too. Without a phone number `get_or_create_user` raises. -/
def requestOtp (phone : Option String) (id : UserId) (otp : String) (smsSent : Bool) :
    Prog OtpStore OtpAnswer :=
  match presentText phone with
  | none => pure .crash
  | some phone => do
    match ← Prog.read fun s => s.firstByPhone phone with
    | some user => generateOtp user otp smsSent
    | none =>
      match ← Prog.atomic (OtpStore.createUser id phone) with
      | none => pure .crash
      | some user => generateOtp user otp smsSent

/-- `VerifyOTPView.post`: a lookup by number and code, the check of the date
on the row that was found, and a save of that row without the code. The three
are separate actions, and only the lookup compares the code. -/
def verifyOtp (phone otp : Option String) : Prog OtpStore OtpAnswer := do
  match ← Prog.read fun s => s.userByOtp phone otp with
  | .error .doesNotExist => pure (.message 404 "Utilisateur non trouvé")
  | .error .multipleObjectsReturned => pure .crash
  | .ok user =>
    if ← Prog.read fun s => user.isOtpValid s.now then do
      Prog.modify (OtpStore.saveUser { user with otp := none })
      pure (.tokens user.id)
    else pure (.message 400 "OTP invalide ou expiré")

/-- What runs: requests of both kinds, and the clock, which is a program among
the others, so that any time may pass between two actions of a request. -/
inductive OtpOp where
  | request (phone : Option String) (id : UserId) (otp : String) (smsSent : Bool)
  | verify (phone otp : Option String)
  | clock (passed : Nat)
  deriving DecidableEq

def OtpOp.program : OtpOp → Prog OtpStore OtpAnswer
  | request phone id otp smsSent => requestOtp phone id otp smsSent
  | verify phone otp => verifyOtp phone otp
  | clock passed => do
    Prog.modify (OtpStore.tick passed)
    pure .nothing

/-- The code that a request submits. -/
def OtpOp.submits : OtpOp → Option String
  | verify _ otp => otp
  | _ => none

/-! ## What is promised, and when -/

section Runs

variable {ι : Type} [DecidableEq ι]

def otpPool (s : OtpStore) (ops : ι → OtpOp) : Pool OtpStore ι OtpAnswer where
  store := s
  progs i := (ops i).program

/-- The next turn of `i` stores a new code of user `u`. -/
def GeneratesCode (u : UserId) (otp : String) (expiration : Instant)
    (c : Pool OtpStore ι OtpAnswer) (i : ι) : Prop :=
  ∃ user, (c.progs i).Next (OtpStore.saveUser user) ∧ user.id = u ∧ user.otp = some otp ∧
    user.otpExpiration = some expiration

/-- The next turn of `i` ends it, with tokens for user `u`. -/
def ReturnsTokens (u : UserId) (c : Pool OtpStore ι OtpAnswer) (i : ι) : Prop :=
  c.result i = none ∧ (c.step i).result i = some (.tokens u)

/-- A new code of user `u` is generated, or tokens are returned for this one. -/
def EndsCode (ops : ι → OtpOp) (u : UserId) (otp : String) (c : Pool OtpStore ι OtpAnswer)
    (i : ι) : Prop :=
  (∃ otp' expiration, GeneratesCode u otp' expiration c i) ∨
    ReturnsTokens u c i ∧ (ops i).submits = some otp

/-- Tokens are returned for the last code generated for the user only, not after its
expiry, and not twice. -/
def OneTime (s : OtpStore) (ops : ι → OtpOp) (schedule : List ι) : Prop :=
  ∀ past i u, past ++ [i] <+: schedule → ReturnsTokens u ((otpPool s ops).exec past) i →
    ∃ otp expiration, (ops i).submits = some otp ∧
      ((otpPool s ops).exec past).store.now ≤ expiration ∧
      Last Pool.step (GeneratesCode u otp expiration) (EndsCode ops u otp) (otpPool s ops) past

/-- The row of the user whose code a request is about to consume: what it has found at
its first turn, when it was valid at the second. -/
def OtpOp.redeems : OtpOp → List OtpStore → Option OtpUser
  | verify phone otp, [s₀, s₁] =>
    (s₀.userByOtp phone otp).toOption.filter fun user => user.isOtpValid s₁.now
  | _, _ => none

/-- When `i` is about to consume a code, the user still has it, and the expiry that is
stored has not passed. -/
def OtpInOrder (s : OtpStore) (ops : ι → OtpOp) (past : List ι) (i : ι) : Prop :=
  let now := ((otpPool s ops).exec past).store
  ∀ user ∈ (ops i).redeems ((otpPool s ops).seen i past),
    ∃ stored ∈ now.users.get? user.id, stored.otp = user.otp ∧
      ∃ expiration ∈ stored.otpExpiration, now.now ≤ expiration

instance (s : OtpStore) (ops : ι → OtpOp) (past : List ι) (i : ι) :
    Decidable (OtpInOrder s ops past i) := by
  unfold OtpInOrder
  infer_instance

/-! ## How the programs proceed -/

/-- What is left of a request, by what it has seen. -/
inductive OtpTurn (op : OtpOp) (seen : List OtpStore) : Prog OtpStore OtpAnswer → Prop where
  | ended {answer} (hnone : op.redeems seen = none) : OtpTurn op seen (.done answer)
  | look {next} (hnone : op.redeems seen = none) (hnext : ∀ s u, next s ≠ .done (.tokens u)) :
      OtpTurn op seen (.act id next)
  | tick (passed : Nat) {next} (hnone : op.redeems seen = none)
      (hnext : ∀ s u, next s ≠ .done (.tokens u)) :
      OtpTurn op seen (.act (OtpStore.tick passed) next)
  | create (id : UserId) (phone : String) {next} (hnone : op.redeems seen = none)
      (hnext : ∀ s u, next s ≠ .done (.tokens u)) :
      OtpTurn op seen (.act (fun s => (s.createUser id phone).2) next)
  | generate {user otp expiration next} (hotp : user.otp = some otp)
      (hexpiration : user.otpExpiration = some expiration) (hnone : op.redeems seen = none)
      (hnext : ∀ s u, next s ≠ .done (.tokens u)) :
      OtpTurn op seen (.act (OtpStore.saveUser user) next)
  | redeem {user otp} (hsome : op.redeems seen = some user) (hotp : user.otp = some otp)
      (hsubmits : op.submits = some otp) :
      OtpTurn op seen (.act (OtpStore.saveUser { user with otp := none })
        fun _ => .done (.tokens user.id))

theorem otpTurn_generateOtp {op : OtpOp} {seen : List OtpStore}
    (hop : ∀ seen, op.redeems seen = none) (user : OtpUser) (otp : String) (smsSent : Bool)
    (rest : List OtpStore) :
    OtpTurn op seen ((generateOtp user otp smsSent).after rest) := by
  match rest with
  | [] => exact .look (hop _) fun _ _ h => nomatch h
  | [s₀] =>
      refine .generate rfl rfl (hop _) fun _ _ h => ?_
      cases smsSent <;> cases h
  | s₀ :: s₁ :: rest =>
      rw [Prog.after_cons, Prog.after_cons]
      refine (Prog.after_done ..).symm ▸ .ended (hop _)

/-- A request for a code never redeems one; the turn in which it saves the row
is the one that generates. -/
theorem otpTurn_request (phone : Option String) (id : UserId) (otp : String) (smsSent : Bool)
    (seen : List OtpStore) :
    OtpTurn (.request phone id otp smsSent) seen
      ((requestOtp phone id otp smsSent).after seen) := by
  have hop (seen : List OtpStore) : (OtpOp.request phone id otp smsSent).redeems seen = none := rfl
  unfold requestOtp
  cases presentText phone with
  | none => exact (Prog.after_done ..).symm ▸ .ended rfl
  | some phone =>
  match seen with
  | [] =>
      refine .look (hop _) fun s u => ?_
      dsimp only
      cases s.firstByPhone phone <;> exact fun h => nomatch h
  | s₀ :: rest =>
  dsimp only [Prog.after_cons, Prog.step_read]
  cases s₀.firstByPhone phone with
  | some user => exact otpTurn_generateOtp hop user otp smsSent rest
  | none =>
  match rest with
  | [] =>
      refine .create id phone (hop _) fun s u => ?_
      dsimp only
      cases (s.createUser id phone).1 <;> exact fun h => nomatch h
  | s₁ :: rest =>
  dsimp only [Prog.after_cons, Prog.step_atomic]
  cases (s₁.createUser id phone).1 with
  | none => exact (Prog.after_done ..).symm ▸ .ended rfl
  | some user => exact otpTurn_generateOtp hop user otp smsSent rest

theorem of_userByOtp {s : OtpStore} {phone otp : Option String} {user : OtpUser}
    (h : s.userByOtp phone otp = .ok user) : user.otp = otp := by
  unfold OtpStore.userByOtp at h
  split at h
  · cases h
  · rename_i found hfound
    cases h
    have hmem : user ∈ s.users.select fun user => decide (user.phone = phone ∧ user.otp = otp) := by
      rw [hfound]
      exact List.mem_singleton_self user
    exact (of_decide_eq_true (List.mem_filter.mp hmem).2).2
  · cases h

theorem of_isOtpValid {user : OtpUser} {now : Instant} (h : user.isOtpValid now = true) :
    ∃ otp, user.otp = some otp := by
  unfold OtpUser.isOtpValid at h
  split at h
  · exact ⟨_, ‹_›⟩
  · cases h

/-- A verification, turn by turn: it looks for the code, reads the clock, and
spends the code in the turn in which it saves the row. Between the look and
the save another verification can find the same code. -/
theorem otpTurn_verify (phone otp : Option String) (seen : List OtpStore) :
    OtpTurn (.verify phone otp) seen ((verifyOtp phone otp).after seen) := by
  unfold verifyOtp
  match seen with
  | [] =>
      refine .look rfl fun s u => ?_
      dsimp only
      cases s.userByOtp phone otp with
      | error e => cases e <;> exact fun h => nomatch h
      | ok user => exact fun h => nomatch h
  | s₀ :: rest =>
  dsimp only [Prog.after_cons, Prog.step_read]
  cases hfound : s₀.userByOtp phone otp with
  | error e =>
      have hnone : (OtpOp.verify phone otp).redeems (s₀ :: rest) = none := by
        match rest with
        | [] => rfl
        | [s₁] => simp [OtpOp.redeems, hfound, Except.toOption]
        | s₁ :: s₂ :: rest => rfl
      cases e <;> exact (Prog.after_done ..).symm ▸ .ended hnone
  | ok user =>
  match rest with
  | [] =>
      refine .look rfl fun s u => ?_
      dsimp only
      cases user.isOtpValid s.now <;> exact fun h => nomatch h
  | s₁ :: rest =>
  dsimp only [Prog.after_cons, Prog.step_read]
  cases hvalid : user.isOtpValid s₁.now with
  | false =>
      refine (Prog.after_done ..).symm ▸ .ended ?_
      match rest with
      | [] => simp [OtpOp.redeems, hfound, Except.toOption, hvalid]
      | s₂ :: rest => rfl
  | true =>
  match rest with
  | [] =>
      obtain ⟨code, hcode⟩ := of_isOtpValid hvalid
      refine .redeem ?_ hcode ((of_userByOtp hfound).symm.trans hcode)
      simp [OtpOp.redeems, hfound, Except.toOption, hvalid]
  | s₂ :: rest => exact (Prog.after_done ..).symm ▸ .ended rfl

theorem otpTurn_program (op : OtpOp) (seen : List OtpStore) :
    OtpTurn op seen (op.program.after seen) := by
  cases op with
  | request phone id otp smsSent => exact otpTurn_request phone id otp smsSent seen
  | verify phone otp => exact otpTurn_verify phone otp seen
  | clock passed =>
      match seen with
      | [] => exact .tick passed rfl fun _ _ h => nomatch h
      | s₀ :: rest => exact (Prog.after_done ..).symm ▸ .ended rfl

/-! ## The code that is stored -/

variable {s : OtpStore} {ops : ι → OtpOp} {past : List ι} {i : ι} {u : UserId}

def OtpStore.codeOf (s : OtpStore) (u : UserId) : Option (String × Option Instant) :=
  (s.users.get? u).bind fun user => user.otp.map fun otp => (otp, user.otpExpiration)

theorem codeOf_saveUser (s : OtpStore) (user : OtpUser) (u : UserId) :
    (s.saveUser user).codeOf u =
      if u = user.id then user.otp.map fun otp => (otp, user.otpExpiration) else s.codeOf u := by
  unfold OtpStore.codeOf OtpStore.saveUser
  rw [Table.get?_put]
  by_cases hu : u = user.id
  · rw [if_pos hu]
    exact (congrArg (Option.bind · _) (if_pos hu)).trans rfl
  · rw [if_neg hu]
    exact congrArg (Option.bind · _) (if_neg hu)

theorem codeOf_createUser (s : OtpStore) (id : UserId) (phone : String) (u : UserId) :
    (s.createUser id phone).2.codeOf u = s.codeOf u := by
  unfold OtpStore.createUser
  dsimp only
  split
  · rfl
  · rename_i hfree
    rw [codeOf_saveUser]
    split
    · rename_i hu
      have hnone : s.users.get? id = none := by
        simpa using fun h => hfree (Or.inr (Or.inl h))
      unfold OtpStore.codeOf
      rw [hu, hnone]
      rfl
    · rfl

/-- What a turn does to the codes. -/
inductive OtpEvent (s : OtpStore) (ops : ι → OtpOp) (past : List ι) (i : ι) : Prop where
  | quiet (hnone : (ops i).redeems ((otpPool s ops).seen i past) = none)
      (hcode : ∀ u, ((otpPool s ops).exec (past ++ [i])).store.codeOf u =
        ((otpPool s ops).exec past).store.codeOf u)
      (hgenerates : ∀ u otp expiration,
        ¬ GeneratesCode u otp expiration ((otpPool s ops).exec past) i)
      (hreturns : ∀ u, ¬ ReturnsTokens u ((otpPool s ops).exec past) i)
  | generated (v : UserId) (otp : String) (expiration : Instant)
      (hnone : (ops i).redeems ((otpPool s ops).seen i past) = none)
      (hcode : ∀ u, ((otpPool s ops).exec (past ++ [i])).store.codeOf u =
        if u = v then some (otp, some expiration)
        else ((otpPool s ops).exec past).store.codeOf u)
      (hgenerates : ∀ u otp' expiration',
        GeneratesCode u otp' expiration' ((otpPool s ops).exec past) i ↔
          u = v ∧ otp' = otp ∧ expiration' = expiration)
      (hreturns : ∀ u, ¬ ReturnsTokens u ((otpPool s ops).exec past) i)
  | redeemed (user : OtpUser) (otp : String)
      (hsome : (ops i).redeems ((otpPool s ops).seen i past) = some user)
      (hotp : user.otp = some otp) (hsubmits : (ops i).submits = some otp)
      (hcode : ∀ u, ((otpPool s ops).exec (past ++ [i])).store.codeOf u =
        if u = user.id then none else ((otpPool s ops).exec past).store.codeOf u)
      (hgenerates : ∀ u otp expiration,
        ¬ GeneratesCode u otp expiration ((otpPool s ops).exec past) i)
      (hreturns : ∀ u, ReturnsTokens u ((otpPool s ops).exec past) i ↔ u = user.id)

/-- The saved row can be read off from what the save makes of an empty table. -/
theorem saveUser_injective {user user' : OtpUser}
    (h : OtpStore.saveUser user = OtpStore.saveUser user') : user = user' := by
  have hsaved : (OtpStore.saveUser user' ⟨.empty, 0⟩).users.get? user'.id = some user' :=
    (Table.get?_put ..).trans (if_pos rfl)
  rw [← h] at hsaved
  have hrow : (if user'.id = user.id then some user else none) = some user' :=
    (Table.get?_put ..).symm.trans hsaved
  split at hrow
  · exact Option.some.inj hrow
  · cases hrow

theorem returnsTokens_act {c : Pool OtpStore ι OtpAnswer} {write : OtpStore → OtpStore}
    {next : OtpStore → Prog OtpStore OtpAnswer} (hprog : c.progs i = .act write next) :
    ReturnsTokens u c i ↔ next c.store = .done (.tokens u) := by
  unfold ReturnsTokens
  rw [Pool.result_act hprog, Pool.step_act hprog]
  unfold Pool.result
  dsimp only
  rw [Function.update_self]
  cases next c.store with
  | done answer => simp [Prog.result]
  | act write next => simp [Prog.result]

omit [DecidableEq ι] in
theorem generatesCode_act {c : Pool OtpStore ι OtpAnswer} {write : OtpStore → OtpStore}
    {next : OtpStore → Prog OtpStore OtpAnswer} (hprog : c.progs i = .act write next)
    {otp : String} {expiration : Instant} :
    GeneratesCode u otp expiration c i ↔ ∃ user, write = OtpStore.saveUser user ∧ user.id = u ∧
      user.otp = some otp ∧ user.otpExpiration = some expiration := by
  unfold GeneratesCode Prog.Next
  rw [hprog]
  constructor
  · rintro ⟨user, ⟨next', hact⟩, hrest⟩
    cases hact
    exact ⟨user, rfl, hrest⟩
  · rintro ⟨user, rfl, hrest⟩
    exact ⟨user, ⟨next, rfl⟩, hrest⟩

theorem otpEvent_quiet {write : OtpStore → OtpStore} {next : OtpStore → Prog OtpStore OtpAnswer}
    (hprog : ((otpPool s ops).exec past).progs i = .act write next)
    (hnone : (ops i).redeems ((otpPool s ops).seen i past) = none)
    (hcode : ∀ s u, (write s).codeOf u = s.codeOf u)
    (hnext : ∀ s u, next s ≠ .done (.tokens u)) : OtpEvent s ops past i := by
  refine .quiet hnone (fun u => ?_) (fun u otp expiration hgenerates => ?_)
    fun u hreturns => hnext _ _ ((returnsTokens_act hprog).mp hreturns)
  · rw [Pool.store_exec_snoc hprog]
    exact hcode _ u
  · -- a save of a code would show in the empty table
    obtain ⟨user, rfl, -, hotp, -⟩ := (generatesCode_act hprog).mp hgenerates
    have hempty := hcode ⟨.empty, 0⟩ user.id
    rw [codeOf_saveUser, if_pos rfl, hotp] at hempty
    cases hempty

/-- Each turn of a run is one of a few events: a code is generated, or a code
is spent and tokens are returned, or nothing about codes happens. The law
about one-time codes only speaks of these events and never of the programs. -/
theorem otpEvent (s : OtpStore) (ops : ι → OtpOp) (past : List ι) (i : ι) :
    OtpEvent s ops past i := by
  have hturn := otpTurn_program (ops i) ((otpPool s ops).seen i past)
  have hprog : ((otpPool s ops).exec past).progs i =
      (ops i).program.after ((otpPool s ops).seen i past) := Pool.progs_exec ..
  generalize (ops i).program.after ((otpPool s ops).seen i past) = p at hturn hprog
  cases hturn with
  | ended hnone =>
      have hsame : (otpPool s ops).exec (past ++ [i]) = (otpPool s ops).exec past :=
        Pool.exec_snoc_done hprog
      refine .quiet hnone (fun u => by rw [hsame]) ?_ ?_
      · rintro u otp expiration ⟨user, ⟨next, hact⟩, -⟩
        rw [hprog] at hact
        cases hact
      · rintro u ⟨hresult, -⟩
        rw [Pool.result, hprog] at hresult
        cases hresult
  | look hnone hnext => exact otpEvent_quiet hprog hnone (fun _ _ => rfl) hnext
  | tick passed hnone hnext => exact otpEvent_quiet hprog hnone (fun _ _ => rfl) hnext
  | create id phone hnone hnext =>
      exact otpEvent_quiet hprog hnone (fun s u => codeOf_createUser s id phone u) hnext
  | @generate user otp expiration _ hotp hexpiration hnone hnext =>
      have hstore := Pool.store_exec_snoc hprog
      refine .generated user.id otp expiration hnone (fun u => ?_) (fun u otp' expiration' => ?_)
        fun u hreturns => hnext _ _ ((returnsTokens_act hprog).mp hreturns)
      · rw [hstore, codeOf_saveUser, hotp, hexpiration]
        rfl
      · rw [generatesCode_act hprog]
        constructor
        · rintro ⟨user', hwrite, rfl, hotp', hexpiration'⟩
          obtain rfl := saveUser_injective hwrite
          rw [hotp] at hotp'
          rw [hexpiration] at hexpiration'
          exact ⟨rfl, (Option.some.inj hotp').symm, (Option.some.inj hexpiration').symm⟩
        · rintro ⟨rfl, rfl, rfl⟩
          exact ⟨user, rfl, rfl, hotp, hexpiration⟩
  | @redeem user otp hsome hotp hsubmits =>
      have hstore := Pool.store_exec_snoc hprog
      refine .redeemed user otp hsome hotp hsubmits (fun u => ?_)
        (fun u otp' expiration hgenerates => ?_) fun u => ?_
      · rw [hstore, codeOf_saveUser]
        rfl
      · obtain ⟨user', hwrite, -, hotp', -⟩ := (generatesCode_act hprog).mp hgenerates
        obtain rfl := saveUser_injective hwrite
        cases hotp'
      · rw [returnsTokens_act hprog]
        constructor
        · intro h
          cases h
          rfl
        · rintro rfl
          rfl

/-! ## The last code -/

/-- A stored code is the last one generated, and no tokens were returned for it. -/
theorem last_of_codeOf (hstart : s.NoCodes) {otp : String} {expiration : Option Instant}
    (h : ((otpPool s ops).exec past).store.codeOf u = some (otp, expiration)) :
    ∃ date, expiration = some date ∧
      Last Pool.step (GeneratesCode u otp date) (EndsCode ops u otp) (otpPool s ops) past := by
  induction past using List.reverseRecOn generalizing otp expiration with
  | nil =>
      obtain ⟨user, huser, hcode⟩ := Option.bind_eq_some_iff.mp h
      obtain ⟨_, hotp, -⟩ := Option.map_eq_some_iff.mp hcode
      rw [hstart u user huser] at hotp
      cases hotp
  | append_singleton past i ih =>
      cases otpEvent s ops past i with
      | quiet hnone hcode hgenerates hreturns =>
          rw [hcode] at h
          obtain ⟨date, hdate, hlast⟩ := ih h
          refine ⟨date, hdate, last_snoc.mpr (Or.inr ⟨hlast, ?_⟩)⟩
          rintro (⟨otp', expiration', hgenerates'⟩ | ⟨hreturns', -⟩)
          · exact hgenerates _ _ _ hgenerates'
          · exact hreturns _ hreturns'
      | generated v otp' expiration' hnone hcode hgenerates hreturns =>
          rw [hcode] at h
          split at h
          · rename_i hu
            cases h
            exact ⟨_, rfl, last_snoc.mpr (Or.inl ((hgenerates _ _ _).mpr ⟨hu, rfl, rfl⟩))⟩
          · rename_i hu
            obtain ⟨date, hdate, hlast⟩ := ih h
            refine ⟨date, hdate, last_snoc.mpr (Or.inr ⟨hlast, ?_⟩)⟩
            rintro (⟨_, _, hgenerates'⟩ | ⟨hreturns', -⟩)
            · exact hu ((hgenerates _ _ _).mp hgenerates').1
            · exact hreturns _ hreturns'
      | redeemed user otp' hsome hotp hsubmits hcode hgenerates hreturns =>
          rw [hcode] at h
          split at h
          · cases h
          · rename_i hu
            obtain ⟨date, hdate, hlast⟩ := ih h
            refine ⟨date, hdate, last_snoc.mpr (Or.inr ⟨hlast, ?_⟩)⟩
            rintro (⟨_, _, hgenerates'⟩ | ⟨hreturns', -⟩)
            · exact hgenerates _ _ _ hgenerates'
            · exact hu ((hreturns _).mp hreturns')

/-- As long as the codes are one-time, the last one generated is stored until tokens are
returned for it. -/
theorem codeOf_of_last (honce : OneTime s ops past) {otp : String} {expiration : Instant}
    (h : Last Pool.step (GeneratesCode u otp expiration) (EndsCode ops u otp) (otpPool s ops)
      past) :
    ((otpPool s ops).exec past).store.codeOf u = some (otp, some expiration) := by
  induction past using List.reverseRecOn generalizing otp expiration with
  | nil => exact absurd h not_last_nil
  | append_singleton past i ih =>
      have hpast : OneTime s ops past := fun past' j v hbegin =>
        honce past' j v (hbegin.trans (List.prefix_append ..))
      have hsnoc := last_snoc.mp h
      change GeneratesCode u otp expiration ((otpPool s ops).exec past) i ∨
        _ ∧ ¬ EndsCode ops u otp ((otpPool s ops).exec past) i at hsnoc
      cases otpEvent s ops past i with
      | quiet hnone hcode hgenerates hreturns =>
          rw [hcode]
          rcases hsnoc with hmark | ⟨hlast, -⟩
          · exact absurd hmark (hgenerates _ _ _)
          · exact ih hpast hlast
      | generated v otp' expiration' hnone hcode hgenerates hreturns =>
          rw [hcode]
          rcases hsnoc with hmark | ⟨hlast, hends⟩
          · obtain ⟨rfl, rfl, rfl⟩ := (hgenerates _ _ _).mp hmark
            exact if_pos rfl
          · rw [if_neg]
            · exact ih hpast hlast
            · intro hu
              exact hends (Or.inl ⟨otp', expiration', (hgenerates _ _ _).mpr ⟨hu, rfl, rfl⟩⟩)
      | redeemed user otp' hsome hotp hsubmits hcode hgenerates hreturns =>
          rw [hcode]
          rcases hsnoc with hmark | ⟨hlast, hends⟩
          · exact absurd hmark (hgenerates _ _ _)
          · have hstored := ih hpast hlast
            rw [if_neg]
            · exact hstored
            · -- the tokens are for the last code, which is this one
              intro hu
              have hreturned := (hreturns u).mpr hu
              obtain ⟨otp'', expiration'', hsubmits', -, hlast'⟩ :=
                honce past i u List.prefix_rfl hreturned
              have hstored' := ih hpast hlast'
              rw [hstored] at hstored'
              cases hstored'
              exact hends (Or.inr ⟨hreturned, hsubmits'⟩)

theorem otpInOrder_iff {user : OtpUser} {otp : String}
    (hsome : (ops i).redeems ((otpPool s ops).seen i past) = some user)
    (hotp : user.otp = some otp) :
    OtpInOrder s ops past i ↔ ∃ expiration,
      ((otpPool s ops).exec past).store.codeOf user.id = some (otp, some expiration) ∧
        ((otpPool s ops).exec past).store.now ≤ expiration := by
  unfold OtpInOrder OtpStore.codeOf
  dsimp only
  constructor
  · intro h
    obtain ⟨stored, hstored, hcode, expiration, hexpiration, hnow⟩ := h user hsome
    rw [Option.mem_def] at hstored hexpiration
    refine ⟨expiration, ?_, hnow⟩
    rw [hstored, Option.bind_some, hcode, hotp, hexpiration]
    rfl
  · rintro ⟨expiration, hcode, hnow⟩ user' hsome'
    cases hsome.symm.trans hsome'
    obtain ⟨stored, hstored, hcode⟩ := Option.bind_eq_some_iff.mp hcode
    obtain ⟨otp', hotp', hpair⟩ := Option.map_eq_some_iff.mp hcode
    obtain ⟨rfl, hexpiration⟩ := Prod.mk.inj hpair
    exact ⟨stored, hstored, hotp'.trans hotp.symm, expiration, hexpiration, hnow⟩

/-- The codes of a run are one-time and short-lived exactly when, at every
turn that consumes one, the user still has it and its expiry has not passed.
The lookup of the code says nothing about that turn: the code may have been
consumed or replaced in between. -/
theorem codes_one_time_iff (s : OtpStore) (ops : ι → OtpOp) (schedule : List ι)
    (hstart : s.NoCodes) :
    OneTime s ops schedule ↔
      ∀ past i, past ++ [i] <+: schedule → OtpInOrder s ops past i := by
  constructor
  · intro honce past i hturn
    have hpast : OneTime s ops past := fun past' j v hbegin =>
      honce past' j v (hbegin.trans ((List.prefix_append ..).trans hturn))
    cases otpEvent s ops past i with
    | quiet hnone =>
        intro user hsome
        cases hnone.symm.trans hsome
    | generated v otp expiration hnone =>
        intro user hsome
        cases hnone.symm.trans hsome
    | redeemed user otp hsome hotp hsubmits hcode hgenerates hreturns =>
        obtain ⟨otp', expiration, hsubmits', hnow, hlast⟩ :=
          honce past i user.id hturn ((hreturns _).mpr rfl)
        cases hsubmits.symm.trans hsubmits'
        exact (otpInOrder_iff hsome hotp).mpr ⟨expiration, codeOf_of_last hpast hlast, hnow⟩
  · intro horder past i u hturn hreturned
    cases otpEvent s ops past i with
    | quiet hnone hcode hgenerates hreturns => exact absurd hreturned (hreturns u)
    | generated v otp expiration hnone hcode hgenerates hreturns =>
        exact absurd hreturned (hreturns u)
    | redeemed user otp hsome hotp hsubmits hcode hgenerates hreturns =>
        obtain rfl := (hreturns u).mp hreturned
        obtain ⟨expiration, hstored, hnow⟩ :=
          (otpInOrder_iff hsome hotp).mp (horder past i hturn)
        obtain ⟨date, hdate, hlast⟩ := last_of_codeOf hstart hstored
        cases hdate
        exact ⟨otp, expiration, hsubmits, hnow, hlast⟩

end Runs

def subscriber : OtpStore where
  users := Table.empty.put
    { id := 1, email := "a@b.c", phone := some "70000000", otp := none, otpExpiration := none }
  now := 0

def signInTwice : Fin 4 → OtpOp
  | 0 => .request (some "70000000") 2 "123456" true
  | 1 => .clock 480000000
  | 2 => .verify (some "70000000") (some "123456")
  | 3 => .verify (some "70000000") (some "123456")

theorem subscriber_noCodes : subscriber.NoCodes := by
  intro u user h
  have hmem := Table.mem_of_get? h
  rw [List.mem_singleton.mp hmem]

theorem codes_one_time_at_once :
    OneTime subscriber signInTwice [0, 0, 0, 2, 2, 2, 3, 3, 3] :=
  (codes_one_time_iff subscriber signInTwice _ subscriber_noCodes).mpr
    (forall_turns_iff.mpr (by decide))

/-- After eight minutes it still works, and two requests at a time both get tokens. -/
theorem codes_late_and_twice :
    subscriber.NoCodes ∧
      ¬ OneTime subscriber signInTwice [0, 0, 0, 1, 2, 2, 2] ∧
      ¬ OneTime subscriber signInTwice [0, 0, 0, 2, 3, 2, 3, 2, 3] := by
  refine ⟨subscriber_noCodes, fun honce => ?_, fun honce => ?_⟩
  · have hpast : OneTime subscriber signInTwice [0, 0, 0, 1, 2, 2] := fun past i u hbegin =>
      honce past i u (hbegin.trans (by decide))
    obtain ⟨otp, expiration, -, hnow, hlast⟩ :=
      honce [0, 0, 0, 1, 2, 2] 2 1 (by decide) ⟨by decide, by decide⟩
    have hcode : ((otpPool subscriber signInTwice).exec [0, 0, 0, 1, 2, 2]).store.codeOf 1 =
        some ("123456", some 300000000) := by decide
    cases hcode.symm.trans (codeOf_of_last hpast hlast)
    revert hnow
    decide
  · have hpast : OneTime subscriber signInTwice [0, 0, 0, 2, 3, 2, 3, 2] := fun past i u hbegin =>
      honce past i u (hbegin.trans (by decide))
    obtain ⟨otp, expiration, -, -, hlast⟩ :=
      honce [0, 0, 0, 2, 3, 2, 3, 2] 3 1 (by decide) ⟨by decide, by decide⟩
    have hcode : ((otpPool subscriber signInTwice).exec [0, 0, 0, 2, 3, 2, 3, 2]).store.codeOf 1 =
        none := by decide
    cases hcode.symm.trans (codeOf_of_last hpast hlast)

end Mapapi
