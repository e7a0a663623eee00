import Mapapi.Lib.Aggregate
import Mapapi.Lib.Alone
import Mapapi.Requests

/-!
# Points

A user gets points for what he contributes: one for an incident, two for an event, one
for a participation. The endpoint that creates the row reads the user afterwards, adds
the points and saves him. `UpdatePointAPIListView` computes the points of all users
anew, but adds them to those they have.

So points are lost when two requests read a user before one of them saves, and counted
twice whenever they are computed anew. In the runs without either (`PointsInOrder`) they
are right once all requests have ended.
-/

namespace Mapapi

open Lib

/-! ## The store -/

/-- A user, as far as points go. The column may be null, and adding to it then
fails. -/
structure Contributor where
  id : UserId
  points : Option Int
  deriving DecidableEq

instance : Keyed Contributor UserId := ⟨Contributor.id⟩

inductive ContributionKind where
  | incident
  | evenement
  | participate
  deriving DecidableEq

def ContributionKind.points : ContributionKind → Int
  | incident => 1
  | evenement => 2
  | participate => 1

/-- The users and who the contributions are by. What a contribution is about
does not matter for its points. -/
structure PointsStore where
  users : Table Contributor
  /-- The column `user_id` of the contributions of each kind. -/
  userIds : ContributionKind → List (Option UserId)

namespace PointsStore

def count (s : PointsStore) (kind : ContributionKind) (u : UserId) : Nat :=
  (s.userIds kind).count (some u)

def insert (kind : ContributionKind) (u : Option UserId) (s : PointsStore) : PointsStore :=
  { s with userIds := Function.update s.userIds kind (s.userIds kind ++ [u]) }

def saveUser (user : Contributor) (s : PointsStore) : PointsStore :=
  { s with users := s.users.put user }

/-- The field `user_id` is empty, or names a user. -/
def accepts (s : PointsStore) : Arg UserId → Bool
  | .absent | .null => true
  | .invalid => false
  | .value u => (s.users.get? u).isSome

def pointsOf (s : PointsStore) (u : UserId) : Option Int :=
  (s.users.get? u).bind Contributor.points

def due (s : PointsStore) (u : UserId) : Int :=
  s.count .incident u + 2 * s.count .evenement u + s.count .participate u

end PointsStore

/-! ## The requests -/

inductive PointsAnswer where
  | created
  | badRequest
  | success
  | crash
  deriving DecidableEq

/-- Create a row, and give its user the points. The body has valid values for the other
fields, or not. -/
def creditContribution (kind : ContributionKind) (withoutUser : PointsAnswer) (fieldsValid : Bool)
    (userId : Arg UserId) : Prog PointsStore PointsAnswer := do
  if ← Prog.read fun s => fieldsValid && s.accepts userId then do
    Prog.modify (PointsStore.insert kind userId.toOption)
    match userId with
    | .value u =>
      match ← Prog.read fun s => s.users.get? u with
      | none => pure withoutUser
      | some user =>
        match user.points with
        | none => pure .crash
        | some points => do
          Prog.modify (PointsStore.saveUser { user with points := some (points + kind.points) })
          pure .created
    | _ => pure withoutUser
  else pure .badRequest

/-- `IncidentAPIListView.post`: an incident without a user is created all the same. -/
def postIncident : Bool → Arg UserId → Prog PointsStore PointsAnswer :=
  creditContribution .incident .created

def postEvenement : Bool → Arg UserId → Prog PointsStore PointsAnswer :=
  creditContribution .evenement .crash

def postParticipate : Bool → Arg UserId → Prog PointsStore PointsAnswer :=
  creditContribution .participate .crash

def updatePointsLoop : List Contributor → Prog PointsStore PointsAnswer
  | [] => pure .success
  | user :: rest => do
    let incidents ← Prog.read fun s => s.count .incident user.id
    let evenements ← Prog.read fun s => s.count .evenement user.id
    let participate ← Prog.read fun s => s.count .participate user.id
    match user.points with
    | none => pure .crash
    | some points => do
      Prog.modify (PointsStore.saveUser
        { user with points := some (points + (incidents + evenements * 2 + participate : Int)) })
      updatePointsLoop rest

def updatePoints : Prog PointsStore PointsAnswer := do
  let users ← Prog.read fun s => s.users.rows
  updatePointsLoop users

inductive PointsOp where
  | contribution (kind : ContributionKind) (fieldsValid : Bool) (userId : Arg UserId)
  | recalculation
  deriving DecidableEq

def PointsOp.program : PointsOp → Prog PointsStore PointsAnswer
  | contribution .incident fieldsValid userId => postIncident fieldsValid userId
  | contribution .evenement fieldsValid userId => postEvenement fieldsValid userId
  | contribution .participate fieldsValid userId => postParticipate fieldsValid userId
  | recalculation => updatePoints

/-! ## What is promised, and when -/

section Runs

variable {ι : Type} [DecidableEq ι]

def pointsPool (s : PointsStore) (ops : ι → PointsOp) : Pool PointsStore ι PointsAnswer where
  store := s
  progs i := (ops i).program

/-- Nobody has contributed anything, and all points are 0. -/
def PointsStore.Initial (s : PointsStore) : Prop :=
  (∀ kind, s.userIds kind = []) ∧ ∀ user ∈ s.users.rows, user.points = some 0

/-- The points of all users are those of their contributions. -/
def PointsStore.Faithful (s : PointsStore) : Prop :=
  ∀ user ∈ s.users.rows, user.points = some (s.due user.id)

/-- At the save of a contribution (its turn 3, counted from 0) the user has the points
that were read in turn 2. At a save of a recalculation (turns 4, 8, ...) the user has the
points that were read in turn 0, and in the three turns before nothing was counted. -/
def PointsOp.InOrder (turn : Nat) (found : Nat → Option PointsStore) (now : PointsStore) :
    PointsOp → Prop
  | contribution _ _ (.value u) =>
    turn = 3 → (found 2).map (fun s => s.pointsOf u) = some (now.pointsOf u)
  | contribution _ _ _ => True
  | recalculation => turn % 4 = 0 → 0 < turn →
    ∀ user ∈ (found 0).bind fun s => s.users.rows[turn / 4 - 1]?,
      now.pointsOf user.id = user.points ∧
      (found (turn - 3)).map (fun s => s.count .incident user.id) = some 0 ∧
      (found (turn - 2)).map (fun s => s.count .evenement user.id) = some 0 ∧
      (found (turn - 1)).map (fun s => s.count .participate user.id) = some 0

instance (turn : Nat) (found : Nat → Option PointsStore) (now : PointsStore) :
    (op : PointsOp) → Decidable (op.InOrder turn found now)
  | .contribution _ _ (.value u) => inferInstanceAs
      (Decidable (turn = 3 → (found 2).map (fun s => s.pointsOf u) = some (now.pointsOf u)))
  | .contribution _ _ .absent | .contribution _ _ .null | .contribution _ _ .invalid =>
    inferInstanceAs (Decidable True)
  | .recalculation => inferInstanceAs (Decidable (turn % 4 = 0 → 0 < turn →
      ∀ user ∈ (found 0).bind fun s => s.users.rows[turn / 4 - 1]?, _ ∧ _ ∧ _ ∧ _))

/-- The next turn of `i`, if there is one left, is in order. -/
def PointsInOrder (s : PointsStore) (ops : ι → PointsOp) (past : List ι) (i : ι) : Prop :=
  ((pointsPool s ops).exec past).result i = none →
    (ops i).InOrder (past.count i) (fun n => (pointsPool s ops).foundAt i n past)
      ((pointsPool s ops).exec past).store

instance (s : PointsStore) (ops : ι → PointsOp) (past : List ι) (i : ι) :
    Decidable (PointsInOrder s ops past i) :=
  inferInstanceAs (Decidable (_ → _))

/-! ## How the requests proceed -/

/-- How far a request is. A recalculation has listed the users, has `k` of them behind
it, and what it has counted for the next one. -/
inductive PointsStage where
  | fresh (op : PointsOp)
  | checked (kind : ContributionKind) (userId : Arg UserId)
  | inserted (kind : ContributionKind) (u : UserId)
  | held (kind : ContributionKind) (user : Contributor)
  | counting (users : List Contributor) (k : Nat) (counts : List Nat)
  | settled

/-- The points that the request still has to give for the row it has created. -/
def PointsStage.owes (u : UserId) : PointsStage → Int
  | inserted kind v => if u = v then kind.points else 0
  | held kind user => if u = user.id then kind.points else 0
  | _ => 0

/-- What a request may do at its stage. -/
inductive PointsStep : PointsStage → PointsStore → (PointsStore → PointsStore) → PointsStage →
    Prop where
  | check {kind fieldsValid userId s} (hvalid : s.accepts userId = true) :
      PointsStep (.fresh (.contribution kind fieldsValid userId)) s id (.checked kind userId)
  | refuse {op s} : PointsStep (.fresh op) s id .settled
  | insert {kind u s} :
      PointsStep (.checked kind (.value u)) s (PointsStore.insert kind (some u))
        (.inserted kind u)
  | insertOther {kind userId s} (hnone : userId.toOption = none) :
      PointsStep (.checked kind userId) s (PointsStore.insert kind userId.toOption) .settled
  | read {kind u s user points} (huser : s.users.get? u = some user)
      (hpoints : user.points = some points) :
      PointsStep (.inserted kind u) s id (.held kind user)
  | missing {kind u s} (hnone : s.pointsOf u = none) : PointsStep (.inserted kind u) s id .settled
  | save {kind user s points} (hpoints : user.points = some points) :
      PointsStep (.held kind user) s
        (PointsStore.saveUser { user with points := some (points + kind.points) }) .settled
  | list {s} : PointsStep (.fresh .recalculation) s id (.counting s.users.rows 0 [])
  | countIncidents {users k user s} (huser : users[k]? = some user) :
      PointsStep (.counting users k []) s id (.counting users k [s.count .incident user.id])
  | countEvenements {users k user s a} (huser : users[k]? = some user) :
      PointsStep (.counting users k [a]) s id (.counting users k [a, s.count .evenement user.id])
  | countParticipate {users k user s a b} (huser : users[k]? = some user) :
      PointsStep (.counting users k [a, b]) s id
        (.counting users k [a, b, s.count .participate user.id])
  | saveTotal {users k user s a b c points} (huser : users[k]? = some user)
      (hpoints : user.points = some points) :
      PointsStep (.counting users k [a, b, c]) s
        (PointsStore.saveUser { user with points := some (points + (a + b * 2 + c : Int)) })
        (.counting users (k + 1) [])

/-- A request that goes on in its stage, and owes nothing when it has ended. -/
abbrev Credits (program : Prog PointsStore PointsAnswer) (stage : PointsStage) : Prop :=
  program.Follows PointsStep (Prog.Ended fun _ stage => ∀ u, stage.owes u = 0) stage

/-- A contribution inserts its row and credits it two turns later: it fetches
the user, adds to the points that it has read, and saves. In between it owes
the points. -/
theorem credits_contribution (kind : ContributionKind) (withoutUser : PointsAnswer)
    (fieldsValid : Bool) (userId : Arg UserId) :
    Credits (creditContribution kind withoutUser fieldsValid userId)
      (.fresh (.contribution kind fieldsValid userId)) := by
  have hdone {answer : PointsAnswer} : Credits (pure answer) .settled :=
    Prog.follows_pure (Prog.ended_pure fun _ => rfl)
  refine Prog.follows_read fun s => ?_
  cases hvalid : fieldsValid && s.accepts userId with
  | false => exact ⟨.settled, .refuse, hdone⟩
  | true =>
      refine ⟨_, .check ((Bool.and_eq_true ..).mp hvalid).2, ?_⟩
      cases userId with
      | absent => exact Or.inr fun s => ⟨.settled, .insertOther rfl, hdone⟩
      | null => exact Or.inr fun s => ⟨.settled, .insertOther rfl, hdone⟩
      | invalid => exact Or.inr fun s => ⟨.settled, .insertOther rfl, hdone⟩
      | value u =>
          refine Or.inr fun _ => ⟨_, .insert, Prog.follows_read fun s => ?_⟩
          cases huser : s.users.get? u with
          | none => exact ⟨.settled, .missing (by rw [PointsStore.pointsOf, huser]; rfl), hdone⟩
          | some user =>
              cases hpoints : user.points with
              | none =>
                  refine ⟨.settled, .missing ?_, ?_⟩
                  · rw [PointsStore.pointsOf, huser, Option.bind_some, hpoints]
                  · dsimp only
                    rw [hpoints]
                    exact hdone
              | some points =>
                  refine ⟨_, .read huser hpoints, ?_⟩
                  dsimp only
                  rw [hpoints]
                  exact Or.inr fun s => ⟨.settled, .save hpoints, hdone⟩

theorem credits_updatePointsLoop {users rest : List Contributor} {k : Nat}
    (h : users.drop k = rest) : Credits (updatePointsLoop rest) (.counting users k []) := by
  induction rest generalizing k with
  | nil => exact Prog.follows_pure (Prog.ended_pure fun _ => rfl)
  | cons user rest ih =>
      have huser : users[k]? = some user := by
        rw [← List.head?_drop, h]
        rfl
      have hrest : users.drop (k + 1) = rest := by
        rw [← List.tail_drop, h]
        rfl
      refine Prog.follows_read fun s => ⟨_, .countIncidents huser, ?_⟩
      refine Prog.follows_read fun s => ⟨_, .countEvenements huser, ?_⟩
      refine Prog.follows_read fun s => ⟨_, .countParticipate huser, ?_⟩
      cases hpoints : user.points with
      | none => exact Prog.follows_pure (Prog.ended_pure fun _ => rfl)
      | some points => exact Or.inr fun s => ⟨_, .saveTotal huser hpoints, ih hrest⟩

theorem credits_program (op : PointsOp) : Credits op.program (.fresh op) := by
  cases op with
  | recalculation =>
      exact Prog.follows_read fun s => ⟨_, .list, credits_updatePointsLoop rfl⟩
  | contribution kind fieldsValid userId => cases kind <;> exact credits_contribution ..

/-! ## What holds of the stages -/

variable {s : PointsStore} {ops : ι → PointsOp} {past : List ι} {i j : ι}

/-- What a request has seen so far, and what it does next. -/
def PointsStage.Fits (s : PointsStore) (ops : ι → PointsOp) (past : List ι) (i : ι) :
    PointsStage → Prop
  | fresh op => op = ops i ∧ past.count i = 0
  | checked kind userId => (∃ fieldsValid, ops i = .contribution kind fieldsValid userId) ∧
      past.count i = 1 ∧ ((pointsPool s ops).exec past).store.accepts userId = true
  | inserted kind u => (∃ fieldsValid, ops i = .contribution kind fieldsValid (.value u)) ∧
      past.count i = 2 ∧ (((pointsPool s ops).exec past).store.users.get? u).isSome = true
  | held kind user => (∃ fieldsValid, ops i = .contribution kind fieldsValid (.value user.id)) ∧
      past.count i = 3 ∧
      ((pointsPool s ops).foundAt i 2 past).map (fun s => s.pointsOf user.id) = some user.points
  | counting users k counts => ops i = .recalculation ∧ past.count i = 4 * k + 1 + counts.length ∧
      ((pointsPool s ops).foundAt i 0 past).map (fun s => s.users.rows) = some users ∧
      ∀ user, users[k]? = some user → ∀ m kind n,
        [ContributionKind.incident, .evenement, .participate][m]? = some kind →
        counts[m]? = some n →
          ((pointsPool s ops).foundAt i (4 * k + 1 + m) past).map
            (fun s => s.count kind user.id) = some n
  | settled => True

theorem get?_saveUser (user : Contributor) (u : UserId) :
    (s.saveUser user).users.get? u = if u = user.id then some user else s.users.get? u :=
  Table.get?_put ..

theorem PointsStep.keeps_users {stage stage' : PointsStage} {d : PointsStore}
    {write : PointsStore → PointsStore} (h : PointsStep stage d write stage') {u : UserId}
    (hu : (d.users.get? u).isSome = true) : ((write d).users.get? u).isSome = true := by
  have hsave (user : Contributor) : ((d.saveUser user).users.get? u).isSome = true := by
    rw [get?_saveUser]
    split
    · rfl
    · exact hu
  cases h with
  | save | saveTotal => exact hsave _
  | _ => exact hu

theorem PointsStep.keeps_accepts {stage stage' : PointsStage} {d : PointsStore}
    {write : PointsStore → PointsStore} (h : PointsStep stage d write stage') {userId : Arg UserId}
    (hu : d.accepts userId = true) : (write d).accepts userId = true := by
  cases userId with
  | value u => exact h.keeps_users hu
  | absent | null => rfl
  | invalid => cases hu

theorem PointsStage.Fits.other {stage : PointsStage} (h : stage.Fits s ops past j) (hj : j ≠ i)
    (husers : ∀ userId, ((pointsPool s ops).exec past).store.accepts userId = true →
      ((pointsPool s ops).exec (past ++ [i])).store.accepts userId = true) :
    stage.Fits s ops (past ++ [i]) j := by
  have hcount : (past ++ [i]).count j = past.count j := by
    simp [List.count_append, Ne.symm hj]
  have hfound (n : Nat) : (pointsPool s ops).foundAt j n (past ++ [i]) =
      (pointsPool s ops).foundAt j n past := by
    rw [Pool.foundAt_snoc, if_neg fun heq => hj heq.1.symm]
  cases stage with
  | fresh op => exact ⟨h.1, hcount.trans h.2⟩
  | checked kind userId => exact ⟨h.1, hcount.trans h.2.1, husers userId h.2.2⟩
  | inserted kind u => exact ⟨h.1, hcount.trans h.2.1, husers (.value u) h.2.2⟩
  | held kind user => exact ⟨h.1, hcount.trans h.2.1, (hfound 2).symm ▸ h.2.2⟩
  | counting users k counts =>
      obtain ⟨hop, hturn, hlist, hcounts⟩ := h
      refine ⟨hop, hcount.trans hturn, (hfound 0).symm ▸ hlist, fun user huser m kind n hm hn => ?_⟩
      rw [hfound]
      exact hcounts user huser m kind n hm hn
  | settled => trivial

theorem fits_count {users : List Contributor} {k : Nat} {user : Contributor} {counts : List Nat}
    {kind : ContributionKind} (h : (PointsStage.counting users k counts).Fits s ops past i)
    (huser : users[k]? = some user)
    (hkind : [ContributionKind.incident, .evenement, .participate][counts.length]? = some kind) :
    (PointsStage.counting users k
      (counts ++ [((pointsPool s ops).exec past).store.count kind user.id])).Fits s ops
        (past ++ [i]) i := by
  obtain ⟨hop, hturn, hlist, hcounts⟩ := h
  have hcount : (past ++ [i]).count i = past.count i + 1 := by simp [List.count_append]
  refine ⟨hop, ?_, ?_, fun user' huser' m kind' n hm hn => ?_⟩
  · rw [hcount, hturn, List.length_append, List.length_singleton, Nat.add_assoc]
  · rw [Pool.foundAt_snoc, if_neg (by omega)]
    exact hlist
  · rw [Pool.foundAt_snoc]
    rcases Nat.lt_trichotomy m counts.length with hlt | rfl | hgt
    · rw [if_neg (by omega)]
      rw [List.getElem?_append_left hlt] at hn
      exact hcounts user' huser' m kind' n hm hn
    · rw [if_pos ⟨rfl, hturn⟩, Option.map_some]
      rw [List.getElem?_concat_length] at hn
      obtain rfl := Option.some.inj (huser.symm.trans huser')
      obtain rfl := Option.some.inj (hkind.symm.trans hm)
      exact hn
    · rw [List.getElem?_eq_none (by simp; omega)] at hn
      cases hn

/-- What a request knows at its stage stays true by its own turn. The stages
count the turns, so a request finds at its n-th turn what its program says it
reads there. -/
theorem PointsStage.Fits.turn {stage stage' : PointsStage}
    {write : PointsStore → PointsStore} (h : stage.Fits s ops past i)
    (hstep : PointsStep stage ((pointsPool s ops).exec past).store write stage')
    (hstore : ((pointsPool s ops).exec (past ++ [i])).store =
      write ((pointsPool s ops).exec past).store) :
    stage'.Fits s ops (past ++ [i]) i := by
  have hcount : (past ++ [i]).count i = past.count i + 1 := by simp [List.count_append]
  have hfound (n : Nat) : (pointsPool s ops).foundAt i n (past ++ [i]) =
      if past.count i = n then some ((pointsPool s ops).exec past).store
      else (pointsPool s ops).foundAt i n past := by
    rw [Pool.foundAt_snoc]
    simp
  cases hstep with
  | check hvalid => exact ⟨⟨_, h.1.symm⟩, by rw [hcount, h.2], hstore ▸ hvalid⟩
  | refuse | insertOther | missing | save => trivial
  | insert => exact ⟨h.1, by rw [hcount, h.2.1], hstore ▸ h.2.2⟩
  | read huser hpoints =>
      obtain rfl := Table.key_of_get? huser
      refine ⟨h.1, by rw [hcount, h.2.1], ?_⟩
      have hpointsOf : ((pointsPool s ops).exec past).store.pointsOf _ = _ :=
        congrArg (Option.bind · Contributor.points) huser
      rw [hfound, if_pos h.2.1, Option.map_some]
      exact congrArg some hpointsOf
  | list =>
      refine ⟨h.1.symm, by rw [hcount, h.2]; rfl, ?_, fun _ _ _ _ _ _ hn => ?_⟩
      · rw [hfound, if_pos h.2]
        rfl
      · cases hn
  | countIncidents huser => exact fits_count h huser rfl
  | countEvenements huser => exact @fits_count _ _ _ _ _ _ _ _ _ [_] _ h huser rfl
  | countParticipate huser => exact @fits_count _ _ _ _ _ _ _ _ _ [_, _] _ h huser rfl
  | saveTotal huser hpoints =>
      obtain ⟨hop, hturn, hlist, -⟩ := h
      refine ⟨hop, ?_, ?_, fun _ _ _ _ _ _ hn => ?_⟩
      · rw [hcount, hturn]
        simp only [List.length_cons, List.length_nil]
        omega
      · rw [hfound, if_neg (by omega)]
        exact hlist
      · cases hn

/-! ## The ledger -/

variable [Fintype ι]

/-- The points of a user, and those that requests still owe him, are those of
his contributions. A request owes the points of its row from the turn that
creates it to the turn that saves the user, and every turn in order moves
points between the columns of this equation. -/
def Ledger (s : PointsStore) (ops : ι → PointsOp) (past : List ι) (stage : ι → PointsStage) :
    Prop :=
  let now := ((pointsPool s ops).exec past).store
  ∀ u, (now.users.get? u).isSome = true →
    now.pointsOf u = some (now.due u - ∑ j, (stage j).owes u)

theorem due_insert (s : PointsStore) (kind : ContributionKind) (v : Option UserId) (u : UserId) :
    (s.insert kind v).due u = s.due u + if v = some u then kind.points else 0 := by
  unfold PointsStore.due PointsStore.count PointsStore.insert
  by_cases hv : v = some u
  · cases kind <;> simp [hv, ContributionKind.points] <;> omega
  · cases kind <;> simp [hv, List.count_append]

theorem pointsOf_saveUser (s : PointsStore) (user : Contributor) (u : UserId) :
    (s.saveUser user).pointsOf u = if u = user.id then user.points else s.pointsOf u := by
  unfold PointsStore.pointsOf
  rw [get?_saveUser]
  split <;> rfl

omit [DecidableEq ι] [Fintype ι] in
theorem isSome_of_pointsOf {u : UserId} {points : Int} (h : s.pointsOf u = some points) :
    (s.users.get? u).isSome = true := by
  obtain ⟨user, huser, -⟩ := Option.bind_eq_some_iff.mp h
  exact Option.isSome_of_eq_some huser

omit [Fintype ι] in
theorem points_of_held {kind : ContributionKind} {user : Contributor}
    (horder : PointsInOrder s ops past i)
    (hfits : (PointsStage.held kind user).Fits s ops past i)
    (hresult : ((pointsPool s ops).exec past).result i = none) :
    ((pointsPool s ops).exec past).store.pointsOf user.id = user.points := by
  obtain ⟨⟨fieldsValid, hop⟩, hturn, hfound⟩ := hfits
  have hnow := horder hresult
  rw [hop] at hnow
  exact (Option.some.inj (hfound.symm.trans (hnow hturn))).symm

omit [Fintype ι] in
theorem points_of_counting {users : List Contributor} {k a b n : Nat} {user : Contributor}
    (horder : PointsInOrder s ops past i)
    (hfits : (PointsStage.counting users k [a, b, n]).Fits s ops past i)
    (huser : users[k]? = some user)
    (hresult : ((pointsPool s ops).exec past).result i = none) :
    ((pointsPool s ops).exec past).store.pointsOf user.id = user.points ∧ a = 0 ∧ b = 0 ∧
      n = 0 := by
  obtain ⟨hop, hturn, hlist, hcounts⟩ := hfits
  have hturn : past.count i = 4 * k + 4 := by
    rw [hturn]
    simp only [List.length_cons, List.length_nil]
  obtain ⟨start, hstart, rfl⟩ := Option.map_eq_some_iff.mp hlist
  have hnow := horder hresult
  simp only [hop, PointsOp.InOrder, hturn, hstart, Option.bind_some] at hnow
  have hk : (4 * k + 4) / 4 - 1 = k := by omega
  rw [hk] at hnow
  obtain ⟨hpoints, ha, hb, hn⟩ := hnow (by omega) (by omega) user huser
  have hzero (m : Nat) {kind : ContributionKind} {x : Nat}
      (h : ((pointsPool s ops).foundAt i (4 * k + 4 - (3 - m)) past).map
        (fun s => s.count kind user.id) = some 0) (hm : m < 3)
      (hkind : [ContributionKind.incident, .evenement, .participate][m]? = some kind)
      (hx : [a, b, n][m]? = some x) : x = 0 := by
    have hsame := hcounts user huser m kind x hkind hx
    rw [show 4 * k + 1 + m = 4 * k + 4 - (3 - m) by omega, h] at hsame
    exact (Option.some.inj hsame).symm
  exact ⟨hpoints, hzero 0 ha (by omega) rfl rfl, hzero 1 hb (by omega) rfl rfl,
    hzero 2 hn (by omega) rfl rfl⟩

omit [DecidableEq ι] [Fintype ι] in
/-- A save of the points that are stored, with what is added to them. The requests owe the
user as much less. -/
theorem points_saveUser {u : UserId} {user : Contributor} {points added total total' : Int}
    (hread : s.pointsOf user.id = some points)
    (hbefore : (s.users.get? u).isSome = true → s.pointsOf u = some (s.due u - total))
    (hsum : total' + (if u = user.id then added else 0) = total)
    (hu : ((s.saveUser { user with points := some (points + added) }).users.get? u).isSome
      = true) :
    (s.saveUser { user with points := some (points + added) }).pointsOf u =
      some (s.due u - total') := by
  rw [pointsOf_saveUser]
  rw [get?_saveUser] at hu
  by_cases hid : u = user.id
  · subst hid
    have hdue := hread.symm.trans (hbefore (isSome_of_pointsOf hread))
    rw [if_pos rfl] at hsum ⊢
    rw [Option.some.inj hdue, ← hsum, sub_add_eq_sub_sub, sub_add_cancel]
  · rw [if_neg hid] at hsum hu ⊢
    rw [add_zero] at hsum
    rw [hsum]
    exact hbefore hu

/-- A turn in order keeps the ledger. -/
theorem ledger_turn {stage : ι → PointsStage} {write : PointsStore → PointsStore}
    {stage' : PointsStage} (hledger : Ledger s ops past stage)
    (horder : PointsInOrder s ops past i) (hfits : (stage i).Fits s ops past i)
    (hresult : ((pointsPool s ops).exec past).result i = none)
    (hstep : PointsStep (stage i) ((pointsPool s ops).exec past).store write stage')
    (hstore : ((pointsPool s ops).exec (past ++ [i])).store =
      write ((pointsPool s ops).exec past).store) :
    Ledger s ops (past ++ [i]) (Function.update stage i stage') := by
  intro u hu
  have hsum := sum_update_add (PointsStage.owes u) stage i stage'
  have hbefore := hledger u
  generalize stage i = before at hfits hstep hsum
  rw [hstore] at hu ⊢
  generalize ∑ j, (Function.update stage i stage' j).owes u = total' at hsum ⊢
  generalize ∑ j, (stage j).owes u = total at hsum hbefore
  cases hstep with
  | check | refuse | list | countIncidents | countEvenements | countParticipate =>
      simp only [PointsStage.owes, add_zero] at hsum
      rw [hsum]
      exact hbefore hu
  | missing hnone =>
      have hsome := hledger _ hfits.2.2
      rw [hnone] at hsome
      cases hsome
  | @insert kind v =>
      have hpoints : ((pointsPool s ops).exec past).store.pointsOf u = _ := hbefore hu
      have hsame : (if some v = some u then kind.points else 0) =
          if u = v then kind.points else 0 := by simp [eq_comm]
      simp only [PointsStage.owes, add_zero] at hsum
      rw [due_insert, hsame, hsum, add_sub_add_right_eq_sub]
      exact hpoints
  | insertOther hnone =>
      simp only [PointsStage.owes, add_zero] at hsum
      rw [due_insert, hnone, if_neg (by simp), add_zero, hsum]
      exact hbefore hu
  | @read kind v _ user points huser hpoints =>
      have hid : user.id = v := Table.key_of_get? huser
      simp only [PointsStage.owes, hid] at hsum
      rw [add_right_cancel hsum]
      exact hbefore hu
  | @save kind user _ points hpoints =>
      have hheld := points_of_held horder hfits hresult
      simp only [PointsStage.owes, add_zero] at hsum
      exact points_saveUser (hheld.trans hpoints) hbefore hsum hu
  | @saveTotal users k user _ a b n points huser hpoints =>
      obtain ⟨hread, rfl, rfl, rfl⟩ := points_of_counting horder hfits huser hresult
      simp only [PointsStage.owes, add_zero] at hsum
      refine points_saveUser (hread.trans hpoints) hbefore ?_ hu
      rw [hsum]
      exact add_eq_left.mpr (ite_self _)

theorem ledger_start (hstart : s.Initial) :
    Ledger s ops [] fun j => .fresh (ops j) := by
  intro u hu
  obtain ⟨user, huser⟩ := Option.isSome_iff_exists.mp hu
  have hpoints : s.pointsOf u = some 0 :=
    (congrArg (Option.bind · Contributor.points) huser).trans
      (hstart.2 user (Table.mem_of_get? huser))
  have hdue : s.due u = 0 := by simp [PointsStore.due, PointsStore.count, hstart.1]
  have howes : ∑ j, (PointsStage.fresh (ops j)).owes u = 0 := Finset.sum_eq_zero fun _ _ => rfl
  change s.pointsOf u = some (s.due u - _)
  rw [hpoints, hdue, howes]
  rfl

/-- The ledger of a run: for each request the stage that it has reached, such
that the points that are stored are those of the rows, minus what the requests
have inserted and not credited yet. -/
theorem ledger_exec (hstart : s.Initial) (schedule : List ι)
    (horder : ∀ past i, past ++ [i] <+: schedule → PointsInOrder s ops past i) :
    ∃ stage, Ledger s ops schedule stage ∧
      ∀ i, Credits (((pointsPool s ops).exec schedule).progs i) (stage i) := by
  refine (Pool.exec_phases (c := pointsPool s ops)
    (fun i => credits_program (ops i))
    (I := fun past stage => (∀ past' i, past' ++ [i] <+: past → PointsInOrder s ops past' i) →
      Ledger s ops past stage ∧ ∀ j, ((pointsPool s ops).exec past).result j = none →
        (stage j).Fits s ops past j)
    (fun _ => ?_) (fun past stage i answer h hprog horder => ?_)
    (fun past stage i write next stage' h hprog hstep horder => ?_) schedule).imp
      fun stage h => ⟨(h.1 horder).1, h.2⟩
  · exact ⟨ledger_start hstart, fun j _ => ⟨rfl, rfl⟩⟩
  · obtain ⟨hledger, hfits⟩ := h fun past' i' hbegin =>
      horder past' i' (hbegin.trans (List.prefix_append ..))
    have hsame : (pointsPool s ops).exec (past ++ [i]) = (pointsPool s ops).exec past :=
      Pool.exec_snoc_done hprog
    refine ⟨?_, fun j hj => ?_⟩
    · unfold Ledger
      rw [hsame]
      exact hledger
    · rw [hsame] at hj
      refine (hfits j hj).other (fun heq => ?_) fun _ h => hsame ▸ h
      rw [heq, Pool.result, hprog] at hj
      cases hj
  · obtain ⟨hledger, hfits⟩ := h fun past' i' hbegin =>
      horder past' i' (hbegin.trans (List.prefix_append ..))
    have hstore : ((pointsPool s ops).exec (past ++ [i])).store =
        write ((pointsPool s ops).exec past).store :=
      Pool.store_exec_snoc hprog
    have hresult : ((pointsPool s ops).exec past).result i = none :=
      Pool.result_act hprog
    refine ⟨ledger_turn hledger (horder past i List.prefix_rfl) (hfits i hresult) hresult hstep
      hstore, fun j hj => ?_⟩
    by_cases heq : j = i
    · subst heq
      rw [Function.update_self]
      exact (hfits j hresult).turn hstep hstore
    · rw [Function.update_of_ne heq]
      rw [Pool.result_exec_snoc_of_ne (Ne.symm heq)] at hj
      exact (hfits j hj).other heq fun _ h => hstore ▸ hstep.keeps_accepts h

/-- In a run in order the points are right once all requests have ended:
nobody owes anything then, so the ledger says that the points are those of the
contributions. -/
theorem points_faithful (s : PointsStore) (ops : ι → PointsOp) (schedule : List ι)
    (hstart : s.Initial)
    (horder : ∀ past i, past ++ [i] <+: schedule → PointsInOrder s ops past i)
    (hended : ∀ i, ((pointsPool s ops).exec schedule).result i ≠ none) :
    ((pointsPool s ops).exec schedule).store.Faithful := by
  obtain ⟨stage, hledger, hcredits⟩ := ledger_exec hstart schedule horder
  intro user huser
  have hrow := Table.get?_of_mem huser
  have howes : ∑ j, (stage j).owes user.id = 0 := by
    refine Finset.sum_eq_zero fun j _ => ?_
    have hj := hcredits j
    cases hprog : ((pointsPool s ops).exec schedule).progs j with
    | act write next => exact absurd (Pool.result_act hprog) (hended j)
    | done answer =>
        rw [hprog] at hj
        obtain ⟨_, _, howes⟩ := hj
        exact howes user.id
  have hpoints := hledger user.id (Option.isSome_of_eq_some hrow)
  rw [howes, sub_zero] at hpoints
  exact (congrArg (Option.bind · Contributor.points) hrow).symm.trans hpoints

end Runs

def newcomer : PointsStore where
  users := Table.empty.put { id := 1, points := some 0 }
  userIds _ := []

def reportAndRecalculate : Bool → PointsOp
  | true => .contribution .incident true (.value 1)
  | false => .recalculation

theorem points_faithful_early :
    ((pointsPool newcomer reportAndRecalculate).exec
      [false, false, false, false, false, true, true, true, true]).store.Faithful := by
  refine points_faithful newcomer reportAndRecalculate _ ⟨fun _ => rfl, by decide⟩
    (forall_turns_iff.mpr (by decide)) (by decide)

/-- Afterwards they are counted twice. -/
theorem points_doubled :
    newcomer.Initial ∧
      (∀ i, ((pointsPool newcomer reportAndRecalculate).exec
        [true, true, true, true, false, false, false, false, false]).result i ≠ none) ∧
      ¬ ((pointsPool newcomer reportAndRecalculate).exec
        [true, true, true, true, false, false, false, false, false]).store.Faithful := by
  refine ⟨⟨fun _ => rfl, by decide⟩, by decide, ?_⟩
  unfold PointsStore.Faithful
  decide

end Mapapi
