import Mapapi.Lib.Seen
import Mapapi.Models

/-!
# Resetting a password

A user who has forgotten his password asks for a code, which goes to his address, and
sends it back with a new password. `PasswordResetView` looks for an unused row with the
code, checks its age, saves the password, and saves last that the row is used.

Nothing closes the other codes of the user: each of them still resets the password
afterwards. And as the row is marked only at the end, two requests with one code can
both find it unused. In the runs without either (`ResetInOrder`) a code works once, in
time, and until the next reset only.

A change of the password is two saves, and between them the row is still
unused although the password has been changed. `Recorded` is the invariant:
whoever has changed a password has recorded it or is between his two saves,
and in order nobody else of that user is.
-/

namespace Mapapi

open Lib

/-! ## The store -/

structure Login where
  id : UserId
  /-- Unique. -/
  email : String
  password : String
  deriving DecidableEq

instance : Keyed Login UserId := ⟨Login.id⟩

abbrev PasswordResetId := Nat

/-- A code that was sent. Its age is counted from `date_created`, and `used`
closes it; nothing else does. -/
structure PasswordReset where
  id : PasswordResetId
  code : String
  user : UserId
  dateCreated : Instant
  used : Bool
  dateUsed : Option Instant
  deriving DecidableEq

instance : Keyed PasswordReset PasswordResetId := ⟨PasswordReset.id⟩

/-- `PASSWORD_RESET_TIMEOUT_HOURS`; the settings do not set it. -/
def passwordResetTimeoutHours : Int := 1

/-- Counted from the creation of the code, not stored. -/
def PasswordReset.expiryTime (row : PasswordReset) : Instant :=
  row.dateCreated + hours passwordResetTimeoutHours

/-- The tables, and the time on the clock. -/
structure ResetStore where
  users : Table Login
  resets : Table PasswordReset
  now : Instant

namespace ResetStore

def userByEmail (s : ResetStore) (email : String) : Option Login :=
  (s.users.select fun user => decide (user.email = email)).head?

def saveUser (user : Login) (s : ResetStore) : ResetStore := { s with users := s.users.put user }

/-- The whole row as it was read, with what the request has changed. Another
request may have used the code in between. -/
def saveReset (row : PasswordReset) (s : ResetStore) : ResetStore :=
  { s with resets := s.resets.put row }

def createReset (user : UserId) (code : String) (dateCreated : Instant) (s : ResetStore) :
    ResetStore :=
  s.saveReset
    { id := s.resets.freshKey, code := code, user := user, dateCreated := dateCreated
      used := false, dateUsed := none }

/-- The codes that a request finds. They do not have to be new: an expired
code is found and then refused. -/
def unused (s : ResetStore) (user : UserId) (code : String) : List PasswordReset :=
  s.resets.select fun row => decide (row.user = user ∧ row.code = code ∧ row.used = false)

/-- `.order_by('-date_created').first()`. Of several rows that were created last, the
database gives any; `tie` says which. -/
def firstUnused (s : ResetStore) (user : UserId) (code : String) (tie : Nat) :
    Option PasswordReset :=
  let rows := s.unused user code
  let latest := rows.filter fun row => rows.all fun other =>
    decide (other.dateCreated ≤ row.dateCreated)
  latest[tie % latest.length]?

def tick (passed : Nat) (s : ResetStore) : ResetStore := { s with now := s.now + passed }

end ResetStore

/-! ## The requests -/

inductive ResetAnswer where
  | success (message : String)
  | failure (message : String) (error : Option String)
  | crash
  /-- The clock answers nobody. -/
  | nothing
  deriving DecidableEq

/-- The body of `PasswordResetView`, whose values are texts. A field that is `None` counts
as absent. -/
structure ResetData where
  code : Option String
  email : Option String
  newPassword : Option String
  newPasswordConfirm : Option String
  deriving DecidableEq

/-- The new password, when it is confirmed. -/
def ResetData.confirmedPassword (data : ResetData) : Option String :=
  data.newPassword.filter fun password => decide (data.newPasswordConfirm = some password)

/-- Once the row is found and has not expired. `date_used` is read after the password
is saved. -/
def changePassword (user : Login) (row : PasswordReset) (password : String) :
    Prog ResetStore ResetAnswer := do
  Prog.modify (ResetStore.saveUser { user with password := password })
  let now ← Prog.read fun s => s.now
  Prog.modify (ResetStore.saveReset { row with used := true, dateUsed := some now })
  pure (.success "item successfully saved")

/-- `PasswordResetView.post`. The user, the row and the clock are read one
after the other, and all that comes later rests on these reads:
`changePassword` saves the user and the row as they were found. -/
def passwordReset (data : ResetData) (tie : Nat) : Prog ResetStore ResetAnswer :=
  match data.code with
  | none => pure (.failure "no code provided" (some "not such item"))
  | some code =>
    match data.email with
    | none => pure (.failure "no email provided" (some "not such item"))
    | some email =>
      match data.confirmedPassword with
      | none => pure (.failure "non matching passwords" (some "not such item"))
      | some password => do
        match ← Prog.read fun s => s.userByEmail email with
        | none => pure (.failure "invalid data" none)
        | some user =>
          match ← Prog.read fun s => s.firstUnused user.id code tie with
          | none => pure (.failure "not such item" (some "not such item"))
          | some row =>
            if ← Prog.read fun s => decide (row.expiryTime < s.now) then
              pure (.failure "reset code has expired" (some "expired code"))
            else changePassword user row password

/-- `PasswordResetRequestView.post`. The code is drawn at random, so it is any, and the
mail can be sent or not. -/
def passwordResetRequest (email : Option String) (code : String) (mailSent : Bool) :
    Prog ResetStore ResetAnswer :=
  match email with
  | none => pure (.failure "no email provided" (some "not such item"))
  | some email => do
    match ← Prog.read fun s => s.userByEmail email with
    | none => pure (.failure "no such item" none)
    | some user => do
      let dateCreated ← Prog.read fun s => s.now
      Prog.modify (ResetStore.createReset user.id code dateCreated)
      pure (if mailSent then .success "item successfully saved " else .crash)

/-- What runs: requests of both kinds, and the clock. -/
inductive ResetOp where
  | request (email : Option String) (code : String) (mailSent : Bool)
  | reset (data : ResetData) (tie : Nat)
  | clock (passed : Nat)
  deriving DecidableEq

def ResetOp.program : ResetOp → Prog ResetStore ResetAnswer
  | request email code mailSent => passwordResetRequest email code mailSent
  | reset data tie => passwordReset data tie
  | clock passed => do
    Prog.modify (ResetStore.tick passed)
    pure .nothing

/-! ## What is promised -/

section Runs

variable {ι : Type} [DecidableEq ι]

def resetPool (s : ResetStore) (ops : ι → ResetOp) : Pool ResetStore ι ResetAnswer where
  store := s
  progs i := (ops i).program

/-- The row that a request has found, from what it has seen at its turns: the user at
the first, the row at the second. -/
def ResetOp.foundRow : ResetOp → List ResetStore → Option PasswordReset
  | reset data tie, s₀ :: s₁ :: _ => do
    let code ← data.code
    let email ← data.email
    let _ ← data.confirmedPassword
    let user ← s₀.userByEmail email
    s₁.firstUnused user.id code tie
  | _, _ => none

/-- The next turn of `i` saves a password, on the strength of this row. -/
def ChangesPassword (s : ResetStore) (ops : ι → ResetOp) (past : List ι) (i : ι)
    (row : PasswordReset) : Prop :=
  (ops i).foundRow ((resetPool s ops).seen i past) = some row ∧
    ∃ user, (((resetPool s ops).exec past).progs i).Next (ResetStore.saveUser user)

/-- A code changes the password once, in time, and not after another reset of its user
that it was issued before. -/
structure CodesWorkOnce (s : ResetStore) (ops : ι → ResetOp) (schedule : List ι) : Prop where
  once : ∀ past i row past' i' row', past ++ [i] <+: past' → past' ++ [i'] <+: schedule →
    ChangesPassword s ops past i row → ChangesPassword s ops past' i' row' → row'.id ≠ row.id
  inTime : ∀ past i row, past ++ [i] <+: schedule → ChangesPassword s ops past i row →
    ((resetPool s ops).exec past).store.now ≤ row.expiryTime
  closed : ∀ past i row past' i' row', past ++ [i] <+: past' → past' ++ [i'] <+: schedule →
    ChangesPassword s ops past i row → ChangesPassword s ops past' i' row' →
      row'.user = row.user → ((resetPool s ops).exec past).store.resets.get? row'.id = none

/-- The row that a request has found, if it had not expired when the request looked at
the clock, in its third turn. -/
def ResetOp.passed (op : ResetOp) (seen : List ResetStore) : Option PasswordReset :=
  (op.foundRow seen).filter fun row => seen[2]?.any fun s => decide (s.now ≤ row.expiryTime)

/-- The row of a request that is between its two saves: that of the password was its
fourth turn, that of the row will be its sixth. -/
def ResetOp.opened (op : ResetOp) (seen : List ResetStore) : Option PasswordReset :=
  if seen.length = 4 ∨ seen.length = 5 then op.passed seen else none

/-- When `i` is about to save a password, the row it has found is still unused and has
not expired since the request looked at the clock, no reset of the user was recorded after
the row was created, and none is between its two saves. -/
def ResetInOrder (s : ResetStore) (ops : ι → ResetOp) (past : List ι) (i : ι) : Prop :=
  let now := ((resetPool s ops).exec past).store
  let seen := (resetPool s ops).seen i past
  seen.length = 3 →
    ∀ row ∈ (ops i).passed seen,
      (∃ stored ∈ now.resets.get? row.id, stored.used = false) ∧
      (∀ looked ∈ seen[2]?, looked.now ≤ row.expiryTime → now.now ≤ row.expiryTime) ∧
      (∀ other ∈ now.resets.rows, other.user = row.user → ∀ date ∈ other.dateUsed,
        date < row.dateCreated) ∧
      ∀ j ∈ past, ∀ other ∈ (ops j).opened ((resetPool s ops).seen j past),
        other.user ≠ row.user

instance (s : ResetStore) (ops : ι → ResetOp) (past : List ι) (i : ι) :
    Decidable (ResetInOrder s ops past i) := by
  unfold ResetInOrder
  infer_instance

/-- No row is from the future. -/
def ResetStore.Dated (s : ResetStore) : Prop :=
  ∀ id row, s.resets.get? id = some row → row.dateCreated ≤ s.now

/-! ## How the programs proceed -/

theorem of_firstUnused {s : ResetStore} {user : UserId} {code : String} {tie : Nat}
    {row : PasswordReset} (h : s.firstUnused user code tie = some row) :
    s.resets.get? row.id = some row ∧ row.user = user := by
  obtain ⟨hrow, -⟩ := List.mem_filter.mp (List.mem_of_getElem? h)
  obtain ⟨hmem, hsame⟩ := List.mem_filter.mp hrow
  exact ⟨Table.get?_of_mem hmem, (of_decide_eq_true hsame).1⟩

/-- A request reads three times, if it does not end before; then it has failed, or
changes the password. -/
theorem after_passwordReset (data : ResetData) (tie : Nat) (s₀ s₁ s₂ : ResetStore)
    (rest : List ResetStore) :
    (ResetOp.reset data tie).passed (s₀ :: s₁ :: s₂ :: rest) = none ∧
        (∃ answer, (passwordReset data tie).after (s₀ :: s₁ :: s₂ :: rest) = .done answer) ∨
      ∃ row user password, (ResetOp.reset data tie).passed (s₀ :: s₁ :: s₂ :: rest) = some row ∧
        user.id = row.user ∧ (passwordReset data tie).after (s₀ :: s₁ :: s₂ :: rest) =
          (changePassword user row password).after rest := by
  simp only [passwordReset, ResetOp.passed, ResetOp.foundRow]
  cases data.code with
  | none => exact Or.inl ⟨rfl, _, Prog.after_done ..⟩
  | some code =>
  cases data.email with
  | none => exact Or.inl ⟨rfl, _, Prog.after_done ..⟩
  | some email =>
  cases data.confirmedPassword with
  | none => exact Or.inl ⟨rfl, _, Prog.after_done ..⟩
  | some password =>
  simp only [Prog.after_cons, Prog.step_read]
  cases huser : s₀.userByEmail email with
  | none => exact Or.inl ⟨by simp [huser], _, Prog.after_done ..⟩
  | some user =>
  simp only [Prog.step_read]
  cases hrow : s₁.firstUnused user.id code tie with
  | none => exact Or.inl ⟨by simp [huser, hrow], _, Prog.after_done ..⟩
  | some row =>
  simp only [Prog.step_read]
  by_cases hexpired : row.expiryTime < s₂.now
  · refine Or.inl ⟨by simp [huser, hrow, hexpired],
      .failure "reset code has expired" (some "expired code"), ?_⟩
    simp only [hexpired, decide_true, if_true]
    exact Prog.after_done ..
  · refine Or.inr ⟨row, user, password, ?_, (of_firstUnused hrow).2.symm, ?_⟩
    · simp [huser, hrow, Int.not_lt.mp hexpired]
    · simp only [hexpired, decide_false, Bool.false_eq_true, if_false]

theorem reads_passwordReset (data : ResetData) (tie : Nat) : (passwordReset data tie).Reads 3 := by
  unfold passwordReset
  cases data.code with
  | none => exact Prog.reads_pure ..
  | some code =>
  cases data.email with
  | none => exact Prog.reads_pure ..
  | some email =>
  cases data.confirmedPassword with
  | none => exact Prog.reads_pure ..
  | some password =>
  refine Prog.reads_read fun s₀ => ?_
  cases s₀.userByEmail email with
  | none => exact Prog.reads_pure ..
  | some user =>
  refine Prog.reads_read fun s₁ => ?_
  cases s₁.firstUnused user.id code tie with
  | none => exact Prog.reads_pure ..
  | some row => exact Prog.reads_read fun s₂ => trivial

/-- What `i` may do at its turn, by what it has seen. -/
inductive ResetTurn (op : ResetOp) (seen : List ResetStore) : (ResetStore → ResetStore) → Prop where
  | look (hopened : ∀ s, op.opened (seen ++ [s]) = op.opened seen)
      (hlength : op.passed seen ≠ none → seen.length ≠ 3) : ResetTurn op seen id
  | tick (passed : Nat) (hop : ∀ seen, op.foundRow seen = none) :
      ResetTurn op seen (ResetStore.tick passed)
  | create (user : UserId) (code : String) {s} (hs : s ∈ seen)
      (hop : ∀ seen, op.foundRow seen = none) :
      ResetTurn op seen (ResetStore.createReset user code s.now)
  | change {row user} (hlength : seen.length = 3) (hrow : op.passed seen = some row)
      (huser : user.id = row.user) : ResetTurn op seen (ResetStore.saveUser user)
  | close {row s} (hlength : seen.length = 5) (hrow : op.passed seen = some row)
      (hs : seen[4]? = some s) :
      ResetTurn op seen (ResetStore.saveReset { row with used := true, dateUsed := some s.now })

theorem opened_of_foundRow {op : ResetOp} (hop : ∀ seen, op.foundRow seen = none)
    (seen : List ResetStore) : op.opened seen = none := by
  unfold ResetOp.opened ResetOp.passed
  rw [hop]
  exact ite_self _

/-- A request for a code creates one in its last turn and never uses any. -/
theorem resetTurn_request {email : Option String} {code : String} {mailSent : Bool}
    {seen : List ResetStore} {write : ResetStore → ResetStore}
    (h : ((passwordResetRequest email code mailSent).after seen).Next write) :
    ResetTurn (.request email code mailSent) seen write := by
  have hop : ∀ seen, (ResetOp.request email code mailSent).foundRow seen = none := fun _ => rfl
  have hlook : ResetTurn (.request email code mailSent) seen id :=
    .look (fun s => by rw [opened_of_foundRow hop, opened_of_foundRow hop]) fun h => absurd rfl h
  unfold passwordResetRequest at h
  cases email with
  | none => exact (Prog.not_next_done h).elim
  | some email =>
  match seen with
  | [] =>
      obtain ⟨next, h⟩ := h
      cases h
      exact hlook
  | s₀ :: seen =>
  simp only [Prog.after_cons, Prog.step_read] at h
  cases huser : s₀.userByEmail email with
  | none =>
      simp only [huser] at h
      exact (Prog.not_next_done h).elim
  | some user =>
  simp only [huser] at h
  match seen with
  | [] =>
      obtain ⟨next, h⟩ := h
      cases h
      exact hlook
  | [s₁] =>
      obtain ⟨next, h⟩ := h
      cases h
      exact .create user.id code (by simp) hop
  | s₁ :: s₂ :: rest => exact (Prog.not_next_done h).elim

/-- The program of a reset, unrolled: three reads, the change of the password,
another read for the clock, and the save that closes the code. What a turn
does is determined by how many there have been. -/
theorem resetTurn_reset {data : ResetData} {tie : Nat} {seen : List ResetStore}
    {write : ResetStore → ResetStore} (h : ((passwordReset data tie).after seen).Next write) :
    ResetTurn (.reset data tie) seen write := by
  match seen with
  | [] =>
      rw [Prog.write_of_reads (reads_passwordReset data tie) h (by simp)]
      exact .look (fun s => rfl) (by simp)
  | [s₀] =>
      rw [Prog.write_of_reads (reads_passwordReset data tie) h (by simp)]
      exact .look (fun s => rfl) (by simp)
  | [s₀, s₁] =>
      rw [Prog.write_of_reads (reads_passwordReset data tie) h (by simp)]
      exact .look (fun s => rfl) (by simp)
  | s₀ :: s₁ :: s₂ :: rest =>
  rcases after_passwordReset data tie s₀ s₁ s₂ rest with ⟨-, answer, hdone⟩ |
    ⟨row, user, password, hrow, huser, hafter⟩
  · obtain ⟨next, h⟩ := h
    rw [hdone] at h
    cases h
  · rw [hafter] at h
    match rest with
    | [] =>
        obtain ⟨next, h⟩ := h
        cases h
        exact .change rfl hrow huser
    | [s₃] =>
        obtain ⟨next, h⟩ := h
        cases h
        exact .look (fun s => rfl) (by simp)
    | [s₃, s₄] =>
        obtain ⟨next, h⟩ := h
        cases h
        exact .close rfl hrow rfl
    | s₃ :: s₄ :: s₅ :: rest => exact (Prog.not_next_done h).elim

theorem resetTurn_of_next {op : ResetOp} {seen : List ResetStore}
    {write : ResetStore → ResetStore} (h : (op.program.after seen).Next write) :
    ResetTurn op seen write := by
  cases op with
  | request email code mailSent => exact resetTurn_request h
  | reset data tie => exact resetTurn_reset h
  | clock passed =>
      match seen with
      | [] =>
          obtain ⟨next, h⟩ := h
          cases h
          exact .tick passed fun _ => rfl
      | s₀ :: rest => exact (Prog.not_next_done h).elim

theorem opened_of_done {op : ResetOp} {seen rest : List ResetStore} {answer : ResetAnswer}
    (h : op.program.after seen = .done answer) (hrest : rest.length ≤ 1) :
    op.opened (seen ++ rest) = none := by
  cases op with
  | request email code mailSent => exact opened_of_foundRow (fun _ => rfl) _
  | clock passed => exact opened_of_foundRow (fun _ => rfl) _
  | reset data tie =>
  unfold ResetOp.opened
  split
  · rename_i hlength
    rw [List.length_append] at hlength
    match seen with
    | [] | [_] | [_, _] =>
        simp at hlength
        omega
    | s₀ :: s₁ :: s₂ :: seen =>
    rcases after_passwordReset data tie s₀ s₁ s₂ seen with ⟨hnone, -⟩ |
      ⟨row, user, password, -, -, hafter⟩
    · exact hnone
    · have hend : (changePassword user row password).after seen = .done answer :=
        hafter.symm.trans h
      match seen with
      | [] | [_] | [_, _] => cases hend
      | _ :: _ :: _ :: _ =>
          simp at hlength
          omega
  · rfl

theorem of_passed {op : ResetOp} {seen : List ResetStore} {row : PasswordReset}
    (h : op.passed seen = some row) :
    op.foundRow seen = some row ∧
      ∃ s₁, seen[1]? = some s₁ ∧ s₁.resets.get? row.id = some row := by
  obtain ⟨hfound, -⟩ := Option.filter_eq_some_iff.mp h
  refine ⟨hfound, ?_⟩
  cases op with
  | request email code mailSent => cases hfound
  | clock passed => cases hfound
  | reset data tie =>
  match seen with
  | [] | [_] => cases hfound
  | s₀ :: s₁ :: rest =>
      simp only [ResetOp.foundRow, Option.bind_eq_bind, Option.bind_eq_some_iff] at hfound
      obtain ⟨code, -, email, -, password, -, user, -, hrow⟩ := hfound
      exact ⟨s₁, rfl, (of_firstUnused hrow).1⟩

theorem passed_append {op : ResetOp} {seen rest : List ResetStore} {row : PasswordReset}
    (h : op.passed seen = some row) (hlength : 3 ≤ seen.length) :
    op.passed (seen ++ rest) = some row := by
  match seen with
  | s₀ :: s₁ :: s₂ :: seen => cases op <;> exact h

/-! ## What holds along a run -/

variable {s : ResetStore} {ops : ι → ResetOp} {past : List ι} {i : ι}

/-- Time and rows go on: a row keeps its user and its date. -/
structure ResetStore.Grows (a b : ResetStore) : Prop where
  now : a.now ≤ b.now
  rows : ∀ id row, a.resets.get? id = some row → ∃ row', b.resets.get? id = some row' ∧
    row'.user = row.user ∧ row'.dateCreated = row.dateCreated

theorem ResetStore.Grows.refl (a : ResetStore) : a.Grows a :=
  ⟨Int.le_refl _, fun _ row h => ⟨row, h, rfl, rfl⟩⟩

theorem ResetStore.Grows.trans {a b d : ResetStore} (hab : a.Grows b) (hbd : b.Grows d) :
    a.Grows d := by
  refine ⟨Int.le_trans hab.now hbd.now, fun id row h => ?_⟩
  obtain ⟨row', h', huser', hdate'⟩ := hab.rows id row h
  obtain ⟨row'', h'', huser'', hdate''⟩ := hbd.rows id row' h'
  exact ⟨row'', h'', huser''.trans huser', hdate''.trans hdate'⟩

theorem get?_saveReset (s : ResetStore) (row : PasswordReset) (id : PasswordResetId) :
    (s.saveReset row).resets.get? id = if id = row.id then some row else s.resets.get? id :=
  Table.get?_put ..

theorem get?_createReset {s : ResetStore} {user : UserId} {code : String} {date : Instant}
    {id : PasswordResetId} {row : PasswordReset} (h : s.resets.get? id = some row) :
    (s.createReset user code date).resets.get? id = some row := by
  refine (get?_saveReset ..).trans ((if_neg ?_).trans h)
  rintro rfl
  rw [Table.get?_freshKey] at h
  cases h

theorem stored_of_passed {row : PasswordReset}
    (hpast : ∀ before, before <+: past →
      ((resetPool s ops).exec before).store.Grows ((resetPool s ops).exec past).store)
    (h : (ops i).passed ((resetPool s ops).seen i past) = some row) :
    ∃ row', ((resetPool s ops).exec past).store.resets.get? row.id = some row' ∧
      row'.user = row.user ∧ row'.dateCreated = row.dateCreated := by
  obtain ⟨-, s₁, hs₁, hrow⟩ := of_passed h
  obtain ⟨before, hbegin, -, rfl⟩ := Pool.seen_getElem? hs₁
  exact (hpast before ((List.prefix_append ..).trans hbegin)).rows row.id row hrow

theorem grows_turn {write : ResetStore → ResetStore}
    (hpast : ∀ before, before <+: past →
      ((resetPool s ops).exec before).store.Grows ((resetPool s ops).exec past).store)
    (hturn : ResetTurn (ops i) ((resetPool s ops).seen i past) write) :
    ((resetPool s ops).exec past).store.Grows (write ((resetPool s ops).exec past).store) := by
  cases hturn with
  | look => exact .refl _
  | tick passed => exact ⟨Int.le_add_of_nonneg_right (Int.natCast_nonneg passed),
      fun _ row h => ⟨row, h, rfl, rfl⟩⟩
  | create => exact ⟨Int.le_refl _, fun _ row h => ⟨row, get?_createReset h, rfl, rfl⟩⟩
  | change => exact ⟨Int.le_refl _, fun _ row h => ⟨row, h, rfl, rfl⟩⟩
  | close hlength hrow hs =>
      refine ⟨Int.le_refl _, fun id row h => ?_⟩
      rw [get?_saveReset]
      split
      · rename_i hid
        obtain ⟨row', hrow', huser, hdate⟩ := stored_of_passed hpast hrow
        obtain rfl := Option.some.inj ((hid ▸ h).symm.trans hrow')
        exact ⟨_, rfl, huser.symm, hdate.symm⟩
      · exact ⟨row, h, rfl, rfl⟩

theorem grows_exec {before : List ι} (hbegin : before <+: past) :
    ((resetPool s ops).exec before).store.Grows ((resetPool s ops).exec past).store := by
  refine Pool.exec_rel ResetStore.Grows.refl (fun _ _ _ => .trans) (fun past i hpast => ?_) hbegin
  rcases Pool.turn_cases (resetPool s ops) past i with ⟨answer, -, hsame⟩ | ⟨write, hnext, hstore⟩
  · rw [hsame]
    exact .refl _
  · rw [hstore]
    exact grows_turn hpast (resetTurn_of_next hnext)

/-- Codes are never dated after the clock, since the clock of the store does
not go back and a code is dated by it when it is created. -/
theorem dated_exec (hdated : s.Dated) (past : List ι) :
    ((resetPool s ops).exec past).store.Dated := by
  induction past using List.reverseRecOn with
  | nil => exact hdated
  | append_singleton past i ih =>
  rcases Pool.turn_cases (resetPool s ops) past i with ⟨answer, -, hsame⟩ | ⟨write, hnext, hstore⟩
  · rw [hsame]
    exact ih
  rw [hstore]
  cases resetTurn_of_next hnext with
  | look => exact ih
  | change => exact ih
  | tick passed =>
      intro id row h
      exact Int.le_trans (ih id row h) (Int.le_add_of_nonneg_right (Int.natCast_nonneg passed))
  | create user code hs =>
      intro id row h
      obtain ⟨n, hn⟩ := List.mem_iff_getElem?.mp hs
      obtain ⟨before, hbegin, -, rfl⟩ := Pool.seen_getElem? hn
      rw [ResetStore.createReset, get?_saveReset] at h
      split at h
      · cases h
        exact (grows_exec ((List.prefix_append ..).trans hbegin)).now
      · exact ih id row h
  | close hlength hrow hs =>
      intro id row h
      obtain ⟨row', hrow', -, hdate⟩ := stored_of_passed (fun _ h => grows_exec h) hrow
      rw [get?_saveReset] at h
      split at h
      · cases h
        exact hdate ▸ ih _ row' hrow'
      · exact ih id row h

/-! ## Which turns change a password -/

theorem not_saveUser {write : ResetStore → ResetStore} {user : Login}
    (hwrite : ResetStore.saveUser user = write) (h : ∀ s, (write s).users = s.users) : False := by
  have hrow : ((ResetStore.saveUser user ⟨.empty, .empty, 0⟩).users.get? user.id).isSome = true :=
    congrArg Option.isSome ((Table.get?_put ..).trans (if_pos rfl))
  rw [hwrite, h] at hrow
  cases hrow

/-- A password is changed in the fourth turn of a reset that has found an open
code, and in no other. -/
theorem changesPassword_iff {row : PasswordReset} :
    ChangesPassword s ops past i row ↔
      ((resetPool s ops).seen i past).length = 3 ∧
        (ops i).passed ((resetPool s ops).seen i past) = some row := by
  unfold ChangesPassword
  rw [Pool.progs_exec]
  generalize (resetPool s ops).seen i past = seen
  constructor
  · rintro ⟨hfound, user, hnext⟩
    have hturn : ResetTurn (ops i) seen (ResetStore.saveUser user) := resetTurn_of_next hnext
    generalize hwrite : ResetStore.saveUser user = write at hturn
    cases hturn with
    | look => exact (not_saveUser hwrite fun _ => rfl).elim
    | tick => exact (not_saveUser hwrite fun _ => rfl).elim
    | create => exact (not_saveUser hwrite fun _ => rfl).elim
    | close => exact (not_saveUser hwrite fun _ => rfl).elim
    | change hlength hrow =>
        refine ⟨hlength, hrow.trans ?_⟩
        rw [← hfound, (of_passed hrow).1]
  · rintro ⟨hlength, hrow⟩
    obtain ⟨hfound, -⟩ := of_passed hrow
    refine ⟨hfound, ?_⟩
    change ∃ user, Prog.Next ((ops i).program.after seen) (ResetStore.saveUser user)
    cases hop : ops i with
    | request email code mailSent =>
        rw [hop] at hfound
        cases hfound
    | clock passed =>
        rw [hop] at hfound
        cases hfound
    | reset data tie =>
    rw [hop] at hrow
    match seen with
    | [s₀, s₁, s₂] =>
    rcases after_passwordReset data tie s₀ s₁ s₂ [] with ⟨hnone, -⟩ |
      ⟨row', user, password, -, -, hafter⟩
    · rw [hnone] at hrow
      cases hrow
    · exact ⟨{ user with password := password }, _, hafter⟩

/-! ## Codes that have been used -/

/-- Who has changed a password has recorded it, or is still between his two saves. A row
that is open in this way is unused, and the only one of its user. -/
structure Recorded (s : ResetStore) (ops : ι → ResetOp) (past : List ι) : Prop where
  recorded : ∀ before j row, before ++ [j] <+: past → ChangesPassword s ops before j row →
    (∃ row' date, ((resetPool s ops).exec past).store.resets.get? row.id = some row' ∧
      row'.used = true ∧ row'.dateUsed = some date ∧
        ((resetPool s ops).exec before).store.now ≤ date) ∨
      (ops j).opened ((resetPool s ops).seen j past) = some row
  unused : ∀ j row, (ops j).opened ((resetPool s ops).seen j past) = some row →
    ∃ row', ((resetPool s ops).exec past).store.resets.get? row.id = some row' ∧
      row'.used = false
  alone : ∀ j k row row', (ops j).opened ((resetPool s ops).seen j past) = some row →
    (ops k).opened ((resetPool s ops).seen k past) = some row' → row'.user = row.user → k = j

theorem opened_snoc_of_ne {j : ι} (hj : i ≠ j) :
    (ops j).opened ((resetPool s ops).seen j (past ++ [i])) =
      (ops j).opened ((resetPool s ops).seen j past) := by
  rw [Pool.seen_snoc_of_ne hj]

omit [DecidableEq ι] in
theorem passed_of_opened {op : ResetOp} {seen : List ResetStore} {row : PasswordReset}
    (h : op.opened seen = some row) : op.passed seen = some row := by
  unfold ResetOp.opened at h
  split at h
  · exact h
  · cases h

/-- Requests with open rows have different rows open. -/
theorem Recorded.ne_of_opened (h : Recorded s ops past) {j : ι} {row row' : PasswordReset}
    (hij : i ≠ j) (hrow : (ops i).opened ((resetPool s ops).seen i past) = some row)
    (hrow' : (ops j).opened ((resetPool s ops).seen j past) = some row') : row'.id ≠ row.id := by
  intro hid
  obtain ⟨stored, hstored, huser, -⟩ :=
    stored_of_passed (fun _ h => grows_exec h) (passed_of_opened hrow)
  obtain ⟨stored', hstored', huser', -⟩ :=
    stored_of_passed (fun _ h => grows_exec h) (passed_of_opened hrow')
  rw [hid, hstored] at hstored'
  cases hstored'
  exact hij (h.alone j i row' row hrow' hrow (huser.symm.trans huser'))

theorem now_le_of_changed {before : List ι} {row : PasswordReset} {found : ResetStore}
    (hbegin : before ++ [i] <+: past) (hchange : ChangesPassword s ops before i row)
    (hfound : ((resetPool s ops).seen i past)[4]? = some found) :
    ((resetPool s ops).exec before).store.now ≤ found.now := by
  obtain ⟨before', hbegin', hfour, rfl⟩ := Pool.seen_getElem? hfound
  have hthree := (changesPassword_iff.mp hchange).1
  refine (grows_exec ?_).now
  rcases List.prefix_or_prefix_of_prefix ((List.prefix_append ..).trans hbegin)
    ((List.prefix_append ..).trans hbegin') with hle | hle
  · exact hle
  · have hlengths := (Pool.seen_prefix (c := resetPool s ops) (i := i) hle).length_le
    omega

theorem Recorded.keep (h : Recorded s ops past)
    (hrows : ∀ id row, ((resetPool s ops).exec past).store.resets.get? id = some row →
      ((resetPool s ops).exec (past ++ [i])).store.resets.get? id = some row)
    (hopened : (ops i).opened ((resetPool s ops).seen i (past ++ [i])) =
      (ops i).opened ((resetPool s ops).seen i past))
    (hnew : ∀ row, ¬ ChangesPassword s ops past i row) : Recorded s ops (past ++ [i]) := by
  have hopen (j : ι) : (ops j).opened ((resetPool s ops).seen j (past ++ [i])) =
      (ops j).opened ((resetPool s ops).seen j past) := by
    by_cases hj : i = j
    · subst hj
      exact hopened
    · exact opened_snoc_of_ne hj
  refine ⟨fun before j row hbegin hchange => ?_, fun j row hrow => ?_, fun j k row row' hj hk => ?_⟩
  · rcases snoc_prefix_snoc hbegin with ⟨rfl, rfl⟩ | hbegin
    · exact absurd hchange (hnew row)
    · rw [hopen]
      refine (h.recorded before j row hbegin hchange).imp_left ?_
      rintro ⟨row', date, hrow', hrest⟩
      exact ⟨row', date, hrows _ _ hrow', hrest⟩
  · rw [hopen] at hrow
    obtain ⟨row', hrow', hused⟩ := h.unused j row hrow
    exact ⟨row', hrows _ _ hrow', hused⟩
  · rw [hopen] at hj hk
    exact h.alone j k row row' hj hk

/-- The turn in which a request changes the password, with a code that it will
mark as used two turns later. Until then nobody else may have a code of that
user in hand, and that is what the condition on the order of the turns
provides. -/
theorem Recorded.change (h : Recorded s ops past) (horder : ResetInOrder s ops past i)
    {row : PasswordReset} (hlength : ((resetPool s ops).seen i past).length = 3)
    (hrow : (ops i).passed ((resetPool s ops).seen i past) = some row)
    (hrows : ((resetPool s ops).exec (past ++ [i])).store.resets =
      ((resetPool s ops).exec past).store.resets)
    (hopened : (ops i).opened ((resetPool s ops).seen i (past ++ [i])) = some row) :
    Recorded s ops (past ++ [i]) := by
  obtain ⟨⟨stored, hstored, hunused⟩, -, -, halone⟩ := horder hlength row hrow
  have hclash {j : ι} {row' : PasswordReset} (hj : i ≠ j)
      (hrow' : (ops j).opened ((resetPool s ops).seen j (past ++ [i])) = some row') :
      row'.user ≠ row.user := by
    rw [opened_snoc_of_ne hj] at hrow'
    refine halone j (by_contra fun hmem => ?_) row' hrow'
    rw [Pool.seen_of_not_mem hmem] at hrow'
    cases hrow'
  refine ⟨fun before j row' hbegin hchange => ?_, fun j row' hrow' => ?_,
    fun j k row₁ row₂ hj hk huser => ?_⟩
  · rcases snoc_prefix_snoc hbegin with ⟨rfl, rfl⟩ | hbegin
    · have hsame := (changesPassword_iff.mp hchange).2
      exact Or.inr (hopened.trans (hrow.symm.trans hsame))
    · rw [hrows]
      refine (h.recorded before j row' hbegin hchange).imp_right fun hrow' => ?_
      by_cases hj : i = j
      · subst hj
        simp [ResetOp.opened, hlength] at hrow'
      · rwa [opened_snoc_of_ne hj]
  · rw [hrows]
    by_cases hj : i = j
    · subst hj
      cases hopened.symm.trans hrow'
      exact ⟨stored, hstored, hunused⟩
    · rw [opened_snoc_of_ne hj] at hrow'
      exact h.unused j row' hrow'
  · by_cases hji : i = j
    · subst hji
      by_cases hki : i = k
      · exact hki.symm
      · cases hopened.symm.trans hj
        exact absurd huser (hclash hki hk)
    · by_cases hki : i = k
      · subst hki
        cases hopened.symm.trans hk
        exact absurd huser.symm (hclash hji hj)
      · rw [opened_snoc_of_ne hji] at hj
        rw [opened_snoc_of_ne hki] at hk
        exact h.alone j k row₁ row₂ hj hk huser

/-- The turn in which a request marks its code as used. From here on the code
is closed by the row itself, and no longer by the request that has it in hand. -/
theorem Recorded.close (h : Recorded s ops past) {row : PasswordReset} {found : ResetStore}
    (hlength : ((resetPool s ops).seen i past).length = 5)
    (hrow : (ops i).passed ((resetPool s ops).seen i past) = some row)
    (hfound : ((resetPool s ops).seen i past)[4]? = some found)
    (hstore : ((resetPool s ops).exec (past ++ [i])).store = ResetStore.saveReset
      { row with used := true, dateUsed := some found.now } ((resetPool s ops).exec past).store)
    (hclosed : (ops i).opened ((resetPool s ops).seen i (past ++ [i])) = none) :
    Recorded s ops (past ++ [i]) := by
  have hopened : (ops i).opened ((resetPool s ops).seen i past) = some row :=
    (if_pos (Or.inr hlength)).trans hrow
  obtain ⟨stored, hstored, hunused⟩ := h.unused i row hopened
  refine ⟨fun before j row' hbegin hchange => ?_, fun j row' hrow' => ?_,
    fun j k row₁ row₂ hj hk huser => ?_⟩
  · rcases snoc_prefix_snoc hbegin with ⟨rfl, rfl⟩ | hbegin
    · have hthree := (changesPassword_iff.mp hchange).1
      omega
    · rw [hstore, get?_saveReset]
      rcases h.recorded before j row' hbegin hchange with
        ⟨row'', date, hrow'', hused, hdate, hle⟩ | hrow'
      · left
        rw [if_neg]
        · exact ⟨row'', date, hrow'', hused, hdate, hle⟩
        · intro hid
          rw [hid, hstored] at hrow''
          cases hrow''
          rw [hunused] at hused
          cases hused
      · by_cases hj : i = j
        · subst hj
          cases hopened.symm.trans hrow'
          -- the password was saved before the date was read
          have hdate := now_le_of_changed hbegin hchange hfound
          exact Or.inl ⟨_, _, if_pos rfl, rfl, rfl, hdate⟩
        · exact Or.inr ((opened_snoc_of_ne hj).trans hrow')
  · by_cases hj : i = j
    · subst hj
      cases hclosed.symm.trans hrow'
    · rw [opened_snoc_of_ne hj] at hrow'
      rw [hstore, get?_saveReset, if_neg (h.ne_of_opened hj hopened hrow')]
      exact h.unused j row' hrow'
  · by_cases hij : i = j
    · subst hij
      cases hclosed.symm.trans hj
    · by_cases hik : i = k
      · subst hik
        cases hclosed.symm.trans hk
      · rw [opened_snoc_of_ne hij] at hj
        rw [opened_snoc_of_ne hik] at hk
        exact h.alone j k row₁ row₂ hj hk huser

/-- One turn of any request, by how many turns it has had: looking for the
code, changing the password, marking the code, or anything else, which does
not touch the codes. -/
theorem Recorded.turn (h : Recorded s ops past) (horder : ResetInOrder s ops past i) :
    Recorded s ops (past ++ [i]) := by
  have hseen : (resetPool s ops).seen i (past ++ [i]) =
      (resetPool s ops).seen i past ++ [((resetPool s ops).exec past).store] :=
    Pool.seen_snoc_self
  have hnever (hop : ∀ seen, (ops i).foundRow seen = none) (row : PasswordReset) :
      ¬ ChangesPassword s ops past i row := by
    intro hchange
    have hrow := (of_passed (changesPassword_iff.mp hchange).2).1
    rw [hop] at hrow
    cases hrow
  rcases Pool.turn_cases (resetPool s ops) past i with
    ⟨answer, hdone, hsame⟩ | ⟨write, hnext, hstore⟩
  · refine h.keep (fun _ _ hrow => hsame ▸ hrow) ?_ fun row hchange => ?_
    · rw [hseen, opened_of_done hdone (by simp)]
      exact ((congrArg _ (List.append_nil _).symm).trans
        (@opened_of_done _ _ [] _ hdone (by simp))).symm
    · obtain ⟨-, user, next, hact⟩ := hchange
      rw [Pool.progs_exec, hdone] at hact
      cases hact
  · cases resetTurn_of_next hnext with
    | look hopened hlength =>
        refine h.keep (fun _ _ hrow => hstore ▸ hrow) (hseen ▸ hopened _) fun row hchange => ?_
        obtain ⟨hthree, hrow⟩ := changesPassword_iff.mp hchange
        exact hlength (Option.ne_none_iff_exists'.mpr ⟨row, hrow⟩) hthree
    | tick passed hop =>
        refine h.keep (fun _ _ hrow => hstore ▸ hrow) ?_ (hnever hop)
        rw [opened_of_foundRow hop, opened_of_foundRow hop]
    | create user code hs hop =>
        refine h.keep (fun _ _ hrow => hstore ▸ get?_createReset hrow) ?_ (hnever hop)
        rw [opened_of_foundRow hop, opened_of_foundRow hop]
    | change hlength hrow huser =>
        refine h.change horder hlength hrow (hstore ▸ rfl) ?_
        rw [hseen]
        unfold ResetOp.opened
        rw [if_pos (Or.inl (by simp [hlength]))]
        exact passed_append hrow (by omega)
    | close hlength hrow hs =>
        refine h.close hlength hrow hs hstore ?_
        rw [hseen]
        unfold ResetOp.opened
        rw [if_neg (by simp [hlength])]

theorem recorded_exec
    (horder : ∀ past' i, past' ++ [i] <+: past → ResetInOrder s ops past' i) :
    Recorded s ops past := by
  induction past using List.reverseRecOn with
  | nil =>
      have hclosed (j : ι) : (ops j).opened ((resetPool s ops).seen j []) = none := rfl
      refine ⟨fun before j row hbegin _ => ?_, fun j row hrow => ?_,
        fun j k row row' hrow _ _ => ?_⟩
      · simp at hbegin
      · cases (hclosed j).symm.trans hrow
      · cases (hclosed j).symm.trans hrow
  | append_singleton past i ih =>
      refine (ih fun past' j hbegin => ?_).turn (horder past i List.prefix_rfl)
      exact horder past' j (hbegin.trans (List.prefix_append ..))

/-- In order, a row that was there when its user changed his password does not change it
again. -/
theorem Recorded.closed {past' : List ι} {i' : ι} {row row' : PasswordReset}
    (h : Recorded s ops past') (horder : ResetInOrder s ops past' i') (hdated : s.Dated)
    (hbegin : past ++ [i] <+: past') (hchange : ChangesPassword s ops past i row)
    (hchange' : ChangesPassword s ops past' i' row') (huser : row'.user = row.user) :
    ((resetPool s ops).exec past).store.resets.get? row'.id = none := by
  obtain ⟨hlength, hrow'⟩ := changesPassword_iff.mp hchange'
  obtain ⟨-, -, hdates, halone⟩ := horder hlength row' hrow'
  have hpast : past <+: past' := (List.prefix_append ..).trans hbegin
  by_contra hissued
  obtain ⟨issued, hissued⟩ := Option.ne_none_iff_exists'.mp hissued
  rcases h.recorded past i row hbegin hchange with
    ⟨used, date, hused, -, hdate, hafter⟩ | hopened
  · obtain ⟨stored, hstored, hstoredUser, -⟩ := stored_of_passed (fun _ h => grows_exec h)
      (changesPassword_iff.mp hchange).2
    obtain ⟨used', hused', husedUser, -⟩ := (grows_exec hpast).rows _ _ hstored
    cases hused.symm.trans hused'
    have hbefore : date < row'.dateCreated := by
      refine hdates used (Table.mem_of_get? hused) ?_ date hdate
      rw [husedUser, hstoredUser, huser]
    obtain ⟨now, hnow, -, hnowDate⟩ := (grows_exec hpast).rows _ _ hissued
    obtain ⟨now', hnow', -, hnowDate'⟩ := stored_of_passed (fun _ h => grows_exec h) hrow'
    cases hnow.symm.trans hnow'
    have hissuedDate := dated_exec hdated past _ _ hissued
    rw [← hnowDate, hnowDate'] at hissuedDate
    exact Int.not_lt.mpr (Int.le_trans hissuedDate hafter) hbefore
  · exact halone i (hbegin.subset (by simp)) row hopened huser.symm

/-- In a run in order the codes work once, in time, and until the next reset.
The condition is about the turns that save a password; between them anything
may happen, and any time may pass. -/
theorem codes_work_once (s : ResetStore) (ops : ι → ResetOp) (schedule : List ι)
    (hdated : s.Dated)
    (horder : ∀ past i, past ++ [i] <+: schedule → ResetInOrder s ops past i) :
    CodesWorkOnce s ops schedule := by
  have hrecorded {past : List ι} (hbegin : past <+: schedule) : Recorded s ops past :=
    recorded_exec fun past' i h => horder past' i (h.trans hbegin)
  have hclosed (past i row past' i' row') (hbegin : past ++ [i] <+: past')
      (hturn : past' ++ [i'] <+: schedule) (hchange : ChangesPassword s ops past i row)
      (hchange' : ChangesPassword s ops past' i' row') (huser : row'.user = row.user) :
      ((resetPool s ops).exec past).store.resets.get? row'.id = none :=
    (hrecorded ((List.prefix_append ..).trans hturn)).closed (horder past' i' hturn) hdated hbegin
      hchange hchange' huser
  refine ⟨fun past i row past' i' row' hbegin hturn hchange hchange' hid => ?_,
    fun past i row hturn hchange => ?_, hclosed⟩
  · have hpast : past <+: past' := (List.prefix_append ..).trans hbegin
    obtain ⟨stored, hstored, hstoredUser, -⟩ := stored_of_passed (fun _ h => grows_exec h)
      (changesPassword_iff.mp hchange).2
    obtain ⟨now, hnow, hnowUser, -⟩ := (grows_exec hpast).rows _ _ hstored
    obtain ⟨now', hnow', hnowUser', -⟩ := stored_of_passed (fun _ h => grows_exec h)
      (changesPassword_iff.mp hchange').2
    rw [hid] at hnow'
    cases hnow.symm.trans hnow'
    have huser : row'.user = row.user := hnowUser'.symm.trans (hnowUser.trans hstoredUser)
    have hnone := hclosed past i row past' i' row' hbegin hturn hchange hchange' huser
    rw [hid, hstored] at hnone
    cases hnone
  · obtain ⟨hlength, hrow⟩ := changesPassword_iff.mp hchange
    obtain ⟨looked, hlooked, hvalid⟩ :=
      (Option.any_eq_true ..).mp (Option.filter_eq_some_iff.mp hrow).2
    exact (horder past i hturn hlength row hrow).2.1 looked hlooked (of_decide_eq_true hvalid)

end Runs

def registered : ResetStore where
  users := Table.empty.put { id := 1, email := "a@b.c", password := "old" }
  resets := Table.empty
  now := 0

def resetTwice : Fin 4 → ResetOp
  | 0 => .request (some "a@b.c") "AAAAAAA" true
  | 1 => .request (some "a@b.c") "BBBBBBB" true
  | 2 => .reset ⟨some "AAAAAAA", some "a@b.c", some "new", some "new"⟩ 0
  | 3 => .reset ⟨some "BBBBBBB", some "a@b.c", some "newer", some "newer"⟩ 0

theorem codes_work_once_alone :
    CodesWorkOnce registered resetTwice [0, 0, 0, 2, 2, 2, 2, 2, 2] :=
  codes_work_once registered resetTwice _ (fun _ _ h => nomatch h)
    (forall_turns_iff.mpr (by decide))

/-- The second code still works after the first has. -/
theorem codes_stay_open :
    registered.Dated ∧
      ¬ CodesWorkOnce registered resetTwice
        [0, 0, 0, 1, 1, 1, 2, 2, 2, 2, 2, 2, 3, 3, 3, 3, 3, 3] := by
  refine ⟨fun _ _ h => (nomatch h), fun h => ?_⟩
  have hnone := h.closed [0, 0, 0, 1, 1, 1, 2, 2, 2] 2
    { id := 1, code := "AAAAAAA", user := 1, dateCreated := 0, used := false, dateUsed := none }
    [0, 0, 0, 1, 1, 1, 2, 2, 2, 2, 2, 2, 3, 3, 3] 3
    { id := 2, code := "BBBBBBB", user := 1, dateCreated := 0, used := false, dateUsed := none }
    (by decide) (by decide) (changesPassword_iff.mpr (by decide))
    (changesPassword_iff.mpr (by decide)) rfl
  revert hnone
  decide

end Mapapi
