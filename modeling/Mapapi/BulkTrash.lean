import Mapapi.Trash
import Mathlib.Data.List.TakeWhile

/-!
# What a bulk operation of the trash reports

A super admin sends a list of values. The three bulk views treat them one after
the other, and save after each: a value that is not a UUID ends the request with
an error in the middle, after what the values before it have done. And a value
that restores or destroys its incident no longer finds it when it comes a second
time, so that it is listed among the restored ones and among the missing ones.

`bulkLoop_run` turns the loop into a run of `bulkStep`; what a step finds depends
on the store at the start and on the steps before it (`touches_exec`).
-/

namespace Mapapi

open Lib

inductive BulkTrashOp where
  | delete
  | restore
  | forceDelete
  deriving DecidableEq

namespace BulkTrashOp

def view (op : BulkTrashOp) (auth : Option UserId) (items : List BulkId) : BulkView :=
  match op with
  | delete => bulkDelete auth (some items)
  | restore => bulkRestore auth (some items)
  | forceDelete => bulkForceDelete auth (some items)

def turn : BulkTrashOp → User → IncidentId → Instant → Prog Db ItemOutcome
  | delete => trashItem
  | restore => restoreItem
  | forceDelete => forceDeleteItem

def message : BulkTrashOp → String
  | delete => " incident(s) supprimé(s)."
  | restore => " incident(s) restauré(s)."
  | forceDelete => " incident(s) supprimé(s) définitivement."

def touches (op : BulkTrashOp) (db : Db) (i : IncidentId) : Bool :=
  match op with
  | delete => (db.bin? i).any fun b => !b.deleted
  | restore | forceDelete => (db.bin? i).any Bin.deleted

def finds (op : BulkTrashOp) (db : Db) (i : IncidentId) : Bool :=
  match op with
  | delete => (db.bin? i).isSome
  | restore | forceDelete => (db.bin? i).any Bin.deleted

end BulkTrashOp

/-! ## What is promised -/

/-- The value stands in exactly one of the lists. -/
def BulkReport.ListsOnce (report : BulkReport) (v : BulkValue) : Prop :=
  v ∈ report.done ∧ v ∉ report.unauthorized ∧ v ∉ report.notFound ∨
    v ∉ report.done ∧ v ∈ report.unauthorized ∧ v ∉ report.notFound ∨
    v ∉ report.done ∧ v ∉ report.unauthorized ∧ v ∈ report.notFound

/-- The request fails and leaves the store as it is, or it lists every value once,
and the incidents whose trash columns it changes, or which it destroys, are among
those it reports as done. -/
def AllOrReported (db : Db) (items : List BulkId)
    (out : Except Response (BulkReport × String) × Db) : Prop :=
  match out.1 with
  | .error _ => out.2 = db
  | .ok (report, _) =>
    (∀ item ∈ items, report.ListsOnce item.value) ∧
      ∀ i, out.2.bin? i ≠ db.bin? i → ∃ v ∈ report.done, v.id = .uuid i

/-! ## When it is kept -/

/-- The values that the loop reaches: those before the first malformed one. -/
def reached (items : List BulkId) : List BulkId :=
  items.takeWhile fun item => decide (item.id ≠ .malformed)

/-- A value comes first for an incident that the operation changes, and comes again. -/
def BulkTrashOp.Repeats (op : BulkTrashOp) (db : Db) (items : List BulkId) : Prop :=
  ∃ pre item post i, items = pre ++ item :: post ∧ item.id = .uuid i ∧ op.touches db i = true ∧
    (∀ x ∈ pre, x.id ≠ .uuid i) ∧ ∃ x ∈ post, x.value = item.value

/-- No value before a malformed one names an incident that the operation changes;
and where no value is malformed, none of them repeats itself, unless the operation
finds an incident again after it has changed it. -/
structure BulkTrashOp.Sound (op : BulkTrashOp) (db : Db) (items : List BulkId) : Prop where
  malformed : (∃ item ∈ items, item.id = .malformed) →
    ∀ x ∈ reached items, ∀ i, x.id = .uuid i → op.touches db i = false
  once : (∀ item ∈ items, item.id ≠ .malformed) → op ≠ .delete → ¬ op.Repeats db items

/-! ## One turn -/

section Turn

variable {op : BulkTrashOp} {db : Db} {user : User} {i j : IncidentId} {now : Instant}

theorem trashed?_isSome : (db.trashed? i).isSome = (db.bin? i).any Bin.deleted := by
  unfold Db.trashed? Db.bin?
  cases hinc : db.incidents.get? i with
  | none => rfl
  | some incident =>
      cases hdeleted : incident.isDeleted <;> simp [Option.filter, Incident.bin, hdeleted]

theorem turn_outcome (hsuper : isSuperAdmin user = true) :
    ((op.turn user i now).run db).1 = if op.finds db i then .done else .notFound := by
  cases op with
  | delete =>
      simp only [BulkTrashOp.turn, BulkTrashOp.finds, trashItem, Prog.run_bind, Prog.run_read,
        Db.bin?, Option.isSome_map]
      cases hinc : db.incidents.get? i with
      | none => rfl
      | some incident =>
          simp only [hsuper, if_true, Option.isSome_some]
          by_cases hdeleted : incident.isDeleted = true <;> simp [hdeleted]
  | restore | forceDelete =>
      simp only [BulkTrashOp.turn, BulkTrashOp.finds, restoreItem, forceDeleteItem, Prog.run_bind,
        Prog.run_read, ← trashed?_isSome]
      cases db.trashed? i <;> rfl

theorem bin?_turn (hsuper : isSuperAdmin user = true) :
    ((op.turn user i now).run db).2.bin? j =
      if j = i then
        match op with
        | .delete => (db.bin? j).map (Bin.trashedOnce now)
        | .restore => (db.bin? j).map Bin.restored
        | .forceDelete => (db.bin? j).filter fun b => !b.deleted
      else db.bin? j := by
  cases op with
  | delete => exact bin?_trashItem.trans (by simp only [hsuper, if_true])
  | restore => exact @bin?_restoreItem db now i j user
  | forceDelete => exact @bin?_forceDeleteItem db now i j user

/-- A turn changes its incident for good. -/
theorem touches_turn (hsuper : isSuperAdmin user = true) :
    op.touches ((op.turn user i now).run db).2 j = (op.touches db j && decide (j ≠ i)) := by
  unfold BulkTrashOp.touches
  simp only [bin?_turn hsuper]
  by_cases hj : j = i
  · simp only [hj, if_true, ne_eq, not_true_eq_false, decide_false, Bool.and_false]
    cases db.bin? i with
    | none => cases op <;> rfl
    | some b =>
        cases op <;> cases hdeleted : b.deleted <;>
          simp [Bin.trashedOnce, Bin.restored, Option.filter, hdeleted]
  · cases op <;> simp [hj]

theorem finds_turn_delete (hsuper : isSuperAdmin user = true) :
    BulkTrashOp.finds .delete ((BulkTrashOp.turn .delete user i now).run db).2 j =
      BulkTrashOp.finds .delete db j := by
  unfold BulkTrashOp.finds
  simp only [bin?_turn hsuper]
  split
  · exact Option.isSome_map
  · rfl

/-- A turn about an incident that the operation would not change does nothing. -/
theorem turn_idle (huntouched : op.touches db i = false) :
    ((op.turn user i now).run db).2 = db := by
  cases op with
  | delete =>
      simp only [BulkTrashOp.turn, trashItem, Prog.run_bind, Prog.run_read]
      cases hinc : db.incidents.get? i with
      | none => rfl
      | some incident =>
          have hdeleted : incident.isDeleted = true := by
            simpa [BulkTrashOp.touches, bin?_of_get? hinc, Incident.bin] using huntouched
          simp only [hdeleted, if_true]
          split <;> rfl
  | restore | forceDelete =>
      simp only [BulkTrashOp.touches, ← trashed?_isSome, Option.isSome_eq_false_iff,
        Option.isNone_iff_eq_none] at huntouched
      simp only [BulkTrashOp.turn, restoreItem, forceDeleteItem, Prog.run_bind, Prog.run_read,
        huntouched]
      rfl

end Turn

/-! ## The loop -/

def bulkStep (act : IncidentId → Instant → Prog Db ItemOutcome) (s : BulkReport × Db)
    (item : BulkId) : BulkReport × Db :=
  match item.id with
  | .malformed => s
  | .absent => (s.1.add item.value .notFound, s.2)
  | .uuid i =>
    let out := (act i item.now).run s.2
    (s.1.add item.value out.1, out.2)

/-- The loop does the rounds of the values it reaches, and answers if these are all. -/
theorem bulkLoop_run (act : IncidentId → Instant → Prog Db ItemOutcome) (done : String)
    (report : BulkReport) (items : List BulkId) (db : Db) :
    let s := exec (bulkStep act) (report, db) (reached items)
    (bulkLoop act done report items).run db =
      (if ∃ item ∈ items, item.id = .malformed then .error .crash
        else .ok (s.1, toString s.1.done.length ++ done), s.2) := by
  induction items generalizing report db with
  | nil => simp [bulkLoop, reached]
  | cons item rest ih =>
      have hreached (h : item.id ≠ .malformed) : reached (item :: rest) = item :: reached rest :=
        List.takeWhile_cons_of_pos (decide_eq_true h)
      cases hid : item.id with
      | malformed => simp [bulkLoop, reached, hid]
      | absent =>
          simp only [bulkLoop, hid, ih, hreached (by simp [hid]), exec_cons, bulkStep,
            List.exists_mem_cons_iff, reduceCtorEq, false_or]
      | uuid i =>
          simp only [bulkLoop, hid, Prog.run_bind, ih, hreached (by simp [hid]), exec_cons,
            bulkStep, List.exists_mem_cons_iff, reduceCtorEq, false_or]

section Rounds

variable {op : BulkTrashOp} {db : Db} {user : User} {i j : IncidentId} {items : List BulkId}

def bulkRounds (op : BulkTrashOp) (user : User) (db : Db) (items : List BulkId) :
    BulkReport × Db :=
  exec (bulkStep (op.turn user)) (⟨[], [], []⟩, db) items

theorem bulkRounds_snoc {item : BulkId} :
    bulkRounds op user db (items ++ [item]) =
      bulkStep (op.turn user) (bulkRounds op user db items) item :=
  exec_snoc ..

/-- At some round of the loop, in the store that the rounds before it have
left. -/
def SomeRound (op : BulkTrashOp) (user : User) (db : Db) (items : List BulkId)
    (mark : Db → BulkId → Prop) : Prop :=
  Ever (bulkStep (op.turn user)) (fun s => mark s.2) (⟨[], [], []⟩, db) items

theorem someRound_snoc {mark : Db → BulkId → Prop} {item : BulkId} :
    SomeRound op user db (items ++ [item]) mark ↔
      SomeRound op user db items mark ∨ mark (bulkRounds op user db items).2 item :=
  ever_snoc

/-- The rounds leave for the operation what none of them was about. So whether
a round finds its incident is decided by the store at the start and by the
incidents of the rounds before it. -/
theorem touches_exec (hsuper : isSuperAdmin user = true) :
    op.touches (bulkRounds op user db items).2 j =
      (op.touches db j && decide (∀ x ∈ items, x.id ≠ .uuid j)) := by
  induction items using List.reverseRecOn with
  | nil => simp [bulkRounds]
  | append_singleton items item ih =>
      rw [bulkRounds_snoc]
      simp only [List.forall_mem_append, List.forall_mem_singleton]
      cases hid : item.id with
      | malformed => simpa [bulkStep, hid] using ih
      | absent => simpa [bulkStep, hid] using ih
      | uuid i =>
          simp only [bulkStep, hid, touches_turn hsuper, ih]
          by_cases hj : j = i
          · simp [hj]
          · simp [hj, Ne.symm hj]

theorem finds_exec_delete (hsuper : isSuperAdmin user = true) :
    BulkTrashOp.finds .delete (bulkRounds .delete user db items).2 j =
      BulkTrashOp.finds .delete db j := by
  induction items using List.reverseRecOn with
  | nil => rfl
  | append_singleton items item ih =>
      rw [bulkRounds_snoc]
      cases hid : item.id with
      | malformed => simpa [bulkStep, hid] using ih
      | absent => simpa [bulkStep, hid] using ih
      | uuid i =>
          simp only [bulkStep, hid]
          rw [finds_turn_delete hsuper, ih]

/-- The other two find what they would change. -/
theorem finds_exec (hsuper : isSuperAdmin user = true) (hop : op ≠ .delete) :
    op.finds (bulkRounds op user db items).2 j =
      (op.touches db j && decide (∀ x ∈ items, x.id ≠ .uuid j)) := by
  rw [← touches_exec hsuper]
  cases op with
  | delete => exact absurd rfl hop
  | restore | forceDelete => rfl

theorem store_exec_idle
    (huntouched : ∀ x ∈ items, ∀ i, x.id = .uuid i → op.touches db i = false) :
    (bulkRounds op user db items).2 = db := by
  induction items using List.reverseRecOn with
  | nil => rfl
  | append_singleton items item ih =>
      have hpast := ih fun x hx => huntouched x (List.mem_append_left _ hx)
      rw [bulkRounds_snoc]
      cases hid : item.id with
      | malformed => simpa [bulkStep, hid] using hpast
      | absent => simpa [bulkStep, hid] using hpast
      | uuid i =>
          have hitem := huntouched item (List.mem_append_right _ List.mem_cons_self) i hid
          simp only [bulkStep, hid]
          rw [hpast]
          exact turn_idle hitem

/-- The rounds change nothing exactly when the operation would change none of the incidents. -/
theorem store_exec_eq_iff (hsuper : isSuperAdmin user = true) :
    (bulkRounds op user db items).2 = db ↔
      ∀ x ∈ items, ∀ i, x.id = .uuid i → op.touches db i = false := by
  constructor
  · intro hsame x hx i hid
    have htouches := @touches_exec op db user i items hsuper
    rw [hsame] at htouches
    by_contra htouched
    rw [Bool.not_eq_false] at htouched
    rw [htouched, Bool.true_and] at htouches
    exact of_decide_eq_true htouches.symm x hx hid
  · exact store_exec_idle

/-- The list names an incident that the view finds, under this value. The same
incident can be named by several values. -/
def Finding (op : BulkTrashOp) (v : BulkValue) (db : Db) (item : BulkId) : Prop :=
  item.value = v ∧ ∃ i, item.id = .uuid i ∧ op.finds db i = true

/-- The list names, by this value, no incident that the view finds. -/
def Missing (op : BulkTrashOp) (v : BulkValue) (db : Db) (item : BulkId) : Prop :=
  item.value = v ∧ ∀ i, item.id = .uuid i → op.finds db i = false

theorem lists_exec (hsuper : isSuperAdmin user = true)
    (hwell : ∀ item ∈ items, item.id ≠ .malformed) (v : BulkValue) :
    (v ∈ (bulkRounds op user db items).1.done ↔
        SomeRound op user db items (Finding op v)) ∧
      v ∉ (bulkRounds op user db items).1.unauthorized ∧
      (v ∈ (bulkRounds op user db items).1.notFound ↔
        SomeRound op user db items (Missing op v)) := by
  induction items using List.reverseRecOn with
  | nil => simp [bulkRounds, SomeRound, not_ever_nil]
  | append_singleton items item ih =>
      obtain ⟨hdone, hnone, hmissing⟩ := ih fun x hx => hwell x (List.mem_append_left _ hx)
      rw [someRound_snoc, someRound_snoc, bulkRounds_snoc]
      cases hid : item.id with
      | malformed => exact absurd hid (hwell item (List.mem_append_right _ List.mem_cons_self))
      | absent =>
          simp only [bulkStep, hid, BulkReport.add, Finding, Missing, List.mem_append,
            List.mem_singleton, hdone, hmissing, reduceCtorEq, false_and, exists_false, and_false,
            or_false, IsEmpty.forall_iff, implies_true, and_true, true_and]
          exact ⟨hnone, by rw [eq_comm (a := v)]⟩
      | uuid i =>
          simp only [bulkStep, hid, turn_outcome hsuper, Finding, Missing, RawId.uuid.injEq,
            exists_eq_left', forall_eq']
          cases hfinds : op.finds (bulkRounds op user db items).2 i <;>
            simp [BulkReport.add, hdone, hmissing, hnone, eq_comm (a := v)]

theorem bin?_turn_missing {now : Instant} (hsuper : isSuperAdmin user = true)
    (hmissing : op.finds db i = false) :
    ((op.turn user i now).run db).2.bin? j = db.bin? j := by
  cases op with
  | delete =>
      rw [bin?_turn hsuper]
      split
      · rename_i hj
        rw [hj, Option.not_isSome_iff_eq_none.mp (ne_true_of_eq_false hmissing)]
        rfl
      · rfl
  | restore => rw [@turn_idle .restore _ _ _ _ hmissing]
  | forceDelete => rw [@turn_idle .forceDelete _ _ _ _ hmissing]

theorem done_of_changed (hsuper : isSuperAdmin user = true)
    (hchanged : (bulkRounds op user db items).2.bin? j ≠ db.bin? j) :
    ∃ v ∈ (bulkRounds op user db items).1.done, v.id = .uuid j := by
  induction items using List.reverseRecOn with
  | nil => exact absurd rfl hchanged
  | append_singleton items item ih =>
      rw [bulkRounds_snoc] at hchanged ⊢
      cases hid : item.id with
      | malformed => simpa [bulkStep, hid] using ih (by simpa [bulkStep, hid] using hchanged)
      | absent =>
          simpa [bulkStep, hid, BulkReport.add] using
            ih (by simpa [bulkStep, hid] using hchanged)
      | uuid i =>
          simp only [bulkStep, hid, turn_outcome hsuper] at hchanged ⊢
          cases hfinds : op.finds (bulkRounds op user db items).2 i with
          | false =>
              rw [bin?_turn_missing hsuper hfinds] at hchanged
              simpa [BulkReport.add] using ih hchanged
          | true =>
              simp only [if_true, BulkReport.add, List.mem_append, List.mem_singleton]
              by_cases hj : j = i
              · exact ⟨item.value, Or.inr rfl, hj ▸ hid⟩
              · rw [bin?_turn hsuper, if_neg hj] at hchanged
                obtain ⟨v, hv, hvid⟩ := ih hchanged
                exact ⟨v, Or.inl hv, hvid⟩

end Rounds

/-! ## The law -/

section Law

variable {op : BulkTrashOp} {db : Db} {auth : Option UserId} {user : User}
  {items : List BulkId} {report : BulkReport} {v : BulkValue}

theorem view_run (hsuper : db.superAdmin auth = true) (hitems : items ≠ []) :
    ∃ user, isSuperAdmin user = true ∧
      (op.view auth items).run db =
        (bulkLoop (op.turn user) op.message ⟨[], [], []⟩ items).run db := by
  obtain ⟨user, huser, hadmin⟩ := (Option.any_eq_true ..).mp hsuper
  refine ⟨user, hadmin, ?_⟩
  obtain ⟨item, rest, rfl⟩ := List.exists_cons_of_ne_nil hitems
  cases op <;>
    simp [BulkTrashOp.view, bulkDelete, bulkRestore, bulkForceDelete, bulkView, huser, hadmin,
      ← isSuperAdmin_eq, BulkTrashOp.turn, BulkTrashOp.message]

theorem found_or_missing {item : BulkId} (hitem : item ∈ items) :
    SomeRound op user db items (Finding op item.value) ∨
      SomeRound op user db items (Missing op item.value) := by
  obtain ⟨pre, post, rfl⟩ := List.append_of_mem hitem
  by_cases hfinds : ∃ i, item.id = .uuid i ∧ op.finds (bulkRounds op user db pre).2 i = true
  · exact Or.inl ⟨pre, item, post, rfl, rfl, hfinds⟩
  · refine Or.inr ⟨pre, item, post, rfl, rfl, fun i hid => ?_⟩
    rw [← Bool.not_eq_true]
    exact fun h => hfinds ⟨i, hid, h⟩

/-- No value is in both, unless it repeats itself. -/
theorem not_found_and_missing (hsuper : isSuperAdmin user = true)
    (honce : op ≠ .delete → ¬ op.Repeats db items)
    (hfound : SomeRound op user db items (Finding op v)) :
    ¬ SomeRound op user db items (Missing op v) := by
  obtain ⟨pre, item, post, rfl, rfl, i, hid, hfinds⟩ := hfound
  rintro ⟨pre', item', post', heq, hvalue, hmissing⟩
  have hid' : item'.id = .uuid i := (congrArg BulkValue.id hvalue).trans hid
  have hmissing' := hmissing i hid'
  by_cases hop : op = .delete
  · subst hop
    change BulkTrashOp.finds .delete (bulkRounds .delete user db pre).2 i = true at hfinds
    change BulkTrashOp.finds .delete (bulkRounds .delete user db pre').2 i = false at hmissing'
    rw [finds_exec_delete hsuper] at hfinds hmissing'
    rw [hfinds] at hmissing'
    cases hmissing'
  · change op.finds (bulkRounds op user db pre).2 i = true at hfinds
    change op.finds (bulkRounds op user db pre').2 i = false at hmissing'
    rw [finds_exec hsuper hop, Bool.and_eq_true, decide_eq_true_eq] at hfinds
    obtain ⟨htouches, hfirst⟩ := hfinds
    rw [finds_exec hsuper hop, htouches, Bool.true_and, decide_eq_false_iff_not] at hmissing'
    refine honce hop ⟨pre, item, post, i, rfl, hid, htouches, hfirst, item', ?_, hvalue⟩
    -- the other round comes after the first one of its incident
    rcases List.append_eq_append_iff.mp heq with ⟨mid, hpre', hpost⟩ | ⟨mid, hpre, hpost⟩
    · cases mid with
      | nil =>
          rw [List.append_nil] at hpre'
          exact absurd (hpre' ▸ hfirst) hmissing'
      | cons x mid =>
          obtain ⟨-, hrest⟩ := List.cons.inj hpost
          rw [hrest]
          exact List.mem_append_right _ List.mem_cons_self
    · refine absurd (fun x hx => hfirst x ?_) hmissing'
      rw [hpre]
      exact List.mem_append_left _ hx

theorem found_and_missing (hsuper : isSuperAdmin user = true) (hop : op ≠ .delete)
    (hrepeats : op.Repeats db items) :
    ∃ item ∈ items, SomeRound op user db items (Finding op item.value) ∧
      SomeRound op user db items (Missing op item.value) := by
  obtain ⟨pre, item, post, i, rfl, hid, htouches, hfirst, x, hx, hvalue⟩ := hrepeats
  refine ⟨item, List.mem_append_right _ List.mem_cons_self, ?_, ?_⟩
  · refine ⟨pre, item, post, rfl, rfl, i, hid, ?_⟩
    change op.finds (bulkRounds op user db pre).2 i = true
    rw [finds_exec hsuper hop, htouches, Bool.true_and]
    exact decide_eq_true hfirst
  · obtain ⟨mid, rest, rfl⟩ := List.append_of_mem hx
    refine ⟨pre ++ item :: mid, x, rest, by simp, hvalue, fun j hj => ?_⟩
    change op.finds (bulkRounds op user db (pre ++ item :: mid)).2 j = false
    have hji : j = i := by
      have hsame : x.id = item.id := congrArg BulkValue.id hvalue
      rw [hj, hid] at hsame
      exact RawId.uuid.inj hsame
    rw [finds_exec hsuper hop, hji, htouches, Bool.true_and]
    refine decide_eq_false fun h => h item ?_ hid
    exact List.mem_append_right _ List.mem_cons_self

theorem refused_empty (hsuper : db.superAdmin auth = true) :
    AllOrReported db [] ((op.view auth []).run db) := by
  obtain ⟨user, huser, hadmin⟩ := (Option.any_eq_true ..).mp hsuper
  cases op <;>
    simp [AllOrReported, BulkTrashOp.view, bulkDelete, bulkRestore, bulkForceDelete, bulkView,
      huser, hadmin, ← isSuperAdmin_eq]

end Law

/-- A bulk operation of a super admin fails without a trace or reports every
value once exactly when no value before a malformed one names an incident it
changes, and no value that it has treated comes again in vain. What is counted
is texts, not ids: one incident may be listed under several. -/
theorem all_or_reported_iff (op : BulkTrashOp) (db : Db) (auth : Option UserId)
    (items : List BulkId) (hsuper : db.superAdmin auth = true) :
    AllOrReported db items ((op.view auth items).run db) ↔ op.Sound db items := by
  by_cases hempty : items = []
  · subst hempty
    refine iff_of_true (refused_empty hsuper) ⟨by simp, ?_⟩
    rintro - - ⟨pre, item, post, i, heq, -⟩
    exact List.append_ne_nil_of_right_ne_nil pre (List.cons_ne_nil item post) heq.symm
  obtain ⟨user, hadmin, hrun⟩ := @view_run op _ _ _ hsuper hempty
  rw [hrun, bulkLoop_run]
  change AllOrReported db items (_, (bulkRounds op user db (reached items)).2) ↔ _
  by_cases hmalformed : ∃ item ∈ items, item.id = .malformed
  · rw [if_pos hmalformed]
    constructor
    · intro hsame
      refine ⟨fun _ => (store_exec_eq_iff hadmin).mp hsame, fun hwell => ?_⟩
      obtain ⟨item, hitem, hid⟩ := hmalformed
      exact absurd hid (hwell item hitem)
    · intro hsound
      exact (store_exec_eq_iff hadmin).mpr (hsound.malformed hmalformed)
  · have hwell : ∀ item ∈ items, item.id ≠ .malformed := fun item hitem hid =>
      hmalformed ⟨item, hitem, hid⟩
    have hall : reached items = items :=
      List.takeWhile_eq_self_iff.mpr fun item hitem => decide_eq_true (hwell item hitem)
    rw [if_neg hmalformed, hall]
    constructor
    · rintro ⟨hlisted, -⟩
      refine ⟨fun h => absurd h hmalformed, fun _ hop hrepeats => ?_⟩
      obtain ⟨item, hitem, hfound, hmissed⟩ := found_and_missing hadmin hop hrepeats
      obtain ⟨hdone, -, hmissing⟩ := lists_exec hadmin hwell item.value
      have hin := hdone.mpr hfound
      have hout := hmissing.mpr hmissed
      rcases hlisted item hitem with
        ⟨-, -, hnot⟩ | ⟨hnot, -, -⟩ | ⟨hnot, -, -⟩
      · exact hnot hout
      · exact hnot hin
      · exact hnot hin
    · intro hsound
      refine ⟨fun item hitem => ?_, fun i hchanged => done_of_changed hadmin hchanged⟩
      obtain ⟨hdone, hnone, hmissing⟩ := lists_exec hadmin hwell item.value
      rcases found_or_missing hitem with hfound | hmissed
      · exact Or.inl ⟨hdone.mpr hfound, hnone, fun h =>
          not_found_and_missing hadmin (hsound.once hwell) hfound (hmissing.mp h)⟩
      · exact Or.inr (Or.inr ⟨fun h =>
          not_found_and_missing hadmin (hsound.once hwell) (hdone.mp h) hmissed, hnone,
          hmissing.mpr hmissed⟩)

def binStore : Db :=
  Db.start [] [.superAdmin 1 "super@map.ml"]
    { Incident.new 1 (some "Fuite") "Bamako" "01-02-2025" with
      isDeleted := true, deletedAt := some 0 }

def slipped : List BulkId := [⟨⟨.uuid 1, "1"⟩, 0⟩, ⟨⟨.malformed, "1 "⟩, 0⟩]

def repeated : List BulkId := [⟨⟨.uuid 1, "1"⟩, 0⟩, ⟨⟨.uuid 1, "{1}"⟩, 0⟩, ⟨⟨.uuid 1, "1"⟩, 0⟩]

theorem all_or_reported_twoTexts :
    AllOrReported binStore (repeated.take 2)
      ((BulkTrashOp.restore.view (some 1) (repeated.take 2)).run binStore) := by
  refine (all_or_reported_iff .restore binStore (some 1) (repeated.take 2) (by decide)).mpr
    ⟨fun h => absurd h (by decide), ?_⟩
  rintro - - ⟨pre, item, post, i, heq, -, -, -, x, hx, hvalue⟩
  rcases pre with _ | ⟨y, _ | ⟨z, pre⟩⟩
  · obtain ⟨rfl, rfl⟩ := List.cons.inj heq
    obtain rfl := List.mem_singleton.mp hx
    exact absurd hvalue (by decide)
  · obtain ⟨-, rfl⟩ := List.cons.inj (List.cons.inj heq).2
    cases hx
  · cases pre <;> cases (List.cons.inj (List.cons.inj heq).2).2

/-- The incident is destroyed although the request fails; and a value that restores
it is listed among the missing ones too. -/
theorem half_done_half_reported :
    binStore.superAdmin (some 1) = true ∧
      ¬ AllOrReported binStore slipped
        ((BulkTrashOp.forceDelete.view (some 1) slipped).run binStore) ∧
      ¬ AllOrReported binStore repeated
        ((BulkTrashOp.restore.view (some 1) repeated).run binStore) := by
  refine ⟨by decide, fun h => ?_, fun h => ?_⟩
  · have hsame := congrArg (fun db => db.incidents.rows.length) h
    exact absurd hsame (by decide)
  · obtain ⟨hlisted, -⟩ := h
    exact absurd (hlisted ⟨⟨.uuid 1, "1"⟩, 0⟩ List.mem_cons_self)
      (by unfold BulkReport.ListsOnce; decide)

end Mapapi
