import Mapapi.Lib.Runs
import Mathlib.Logic.Function.Basic

/-!
# Programs over a shared store

A program is a finite sequence of atomic actions on a store `σ`. An action
reads the store and writes it in one indivisible step; which action comes
next may depend on what was read. The same program has two meanings:

- `run` executes it alone, from start to end;
- `Pool.exec` executes several programs under a schedule that picks, at each
  point, whose next action happens. Nothing is assumed of the schedule.

The rules are stated on `run` (`run_bind`, `run_atomic`, ...); a loop over a
list that the program has read becomes a fold (`run_forEach`), to which the
rules of `Loops.lean` apply.

A schedule may name a program that has finished, and then nothing happens; it
need not be fair, and need not end any program. So a law over all schedules is
a law over every moment of every execution, as each moment is the end of a
schedule.
-/

namespace Lib

universe u v w

/-- A sequence of atomic actions on a store `σ` that ends with a result `α`.
`act f k` writes `f s` when it finds the store `s`, and goes on with `k s`. -/
inductive Prog (σ : Type u) (α : Type v) : Type (max u v) where
  | done (a : α)
  | act (write : σ → σ) (next : σ → Prog σ α)

namespace Prog

variable {σ : Type u} {α : Type v} {β : Type w}

def bind : Prog σ α → (α → Prog σ β) → Prog σ β
  | done a, k => k a
  | act write next, k => act write fun s => (next s).bind k

/-- One action that reads a value and writes the store. -/
def atomic (f : σ → α × σ) : Prog σ α := act (fun s => (f s).2) fun s => done (f s).1

def read (f : σ → α) : Prog σ α := act id fun s => done (f s)

def modify (f : σ → σ) : Prog σ PUnit := act f fun _ => done ⟨⟩

instance : Monad (Prog.{u, v} σ) where
  pure := done
  bind := bind

/-- The result and the final store of a program that runs alone. -/
def run : Prog σ α → σ → α × σ
  | done a, s => (a, s)
  | act write next, s => (next s).run (write s)

/-- The next action of a program happens: the rest of the program, and the store it
leaves. A finished program stays as it is. -/
def step : Prog σ α → σ → Prog σ α × σ
  | done a, s => (done a, s)
  | act write next, s => (next s, write s)

def result : Prog σ α → Option α
  | done a => some a
  | act _ _ => none

/-- The next action of the program writes so. -/
def Next (p : Prog σ α) (write : σ → σ) : Prop := ∃ next, p = act write next

def when (c : Prop) [Decidable c] (p : Prog.{u, 0} σ Unit) : Prog.{u, 0} σ Unit :=
  if c then p else done ()

def forEach (l : List β) (body : β → Prog.{u, 0} σ Unit) : Prog.{u, 0} σ Unit :=
  match l with
  | [] => done ()
  | b :: rest => (body b).bind fun _ => forEach rest body

/-! ## Running alone -/

@[simp] theorem run_pure (a : α) (s : σ) : (pure a : Prog σ α).run s = (a, s) := rfl

@[simp] theorem run_read (f : σ → α) (s : σ) : (read f).run s = (f s, s) := rfl

@[simp] theorem run_modify (f : σ → σ) (s : σ) : (modify f).run s = (⟨⟩, f s) := rfl

@[simp] theorem run_atomic (f : σ → α × σ) (s : σ) : (atomic f).run s = f s := rfl

@[simp] theorem run_bind' (p : Prog σ α) (k : α → Prog σ β) (s : σ) :
    (p.bind k).run s = (k (p.run s).1).run (p.run s).2 := by
  induction p generalizing s with
  | done a => rfl
  | act write next ih => exact ih s (write s)

@[simp] theorem run_bind {α β : Type v} (p : Prog σ α) (k : α → Prog σ β) (s : σ) :
    (p >>= k).run s = (k (p.run s).1).run (p.run s).2 :=
  run_bind' p k s

@[simp] theorem run_ite (c : Prop) [Decidable c] (p q : Prog σ α) (s : σ) :
    (if c then p else q).run s = if c then p.run s else q.run s := by
  split <;> rfl

@[simp] theorem run_when (c : Prop) [Decidable c] (p : Prog.{u, 0} σ Unit) (s : σ) :
    (when c p).run s = ((), if c then (p.run s).2 else s) := by
  unfold when
  split <;> rfl

theorem run_forEach (l : List β) (body : β → Prog.{u, 0} σ Unit) (s : σ) :
    (forEach l body).run s = ((), l.foldl (fun s b => ((body b).run s).2) s) := by
  induction l generalizing s with
  | nil => rfl
  | cons b rest ih =>
      rw [forEach, run_bind', ih]
      rfl

end Prog

/-! ## One action -/

namespace Prog

variable {σ : Type u} {α β : Type v}

@[simp] theorem step_read (f : σ → α) (k : α → Prog σ β) (s : σ) :
    (read f >>= k).step s = (k (f s), s) := rfl

@[simp] theorem step_atomic (f : σ → α × σ) (k : α → Prog σ β) (s : σ) :
    (atomic f >>= k).step s = (k (f s).1, (f s).2) := rfl

@[simp] theorem step_read_bind {γ : Type v} (f : σ → α) (h : α → Prog σ β) (k : β → Prog σ γ)
    (s : σ) : (read f >>= h >>= k).step s = (h (f s) >>= k, s) := rfl

@[simp] theorem step_atomic_bind {γ : Type v} (f : σ → α × σ) (h : α → Prog σ β)
    (k : β → Prog σ γ) (s : σ) :
    (atomic f >>= h >>= k).step s = (h (f s).1 >>= k, (f s).2) := rfl

@[simp] theorem pure_bind' (a : α) (k : α → Prog σ β) : (pure a : Prog σ α) >>= k = k a := rfl

theorem step_of_result {p : Prog σ α} {a : α} (h : p.result = some a) (s : σ) :
    p.step s = (pure a, s) := by
  cases p with
  | done b =>
      cases h
      rfl
  | act write next => cases h

end Prog

/-! ## Actions that keep an invariant -/

namespace Prog

variable {σ : Type u} {α β : Type v}

/-- Whatever stores satisfying `I` the actions of the program find, each of
them leaves a store satisfying `I`. The store of each action is arbitrary,
since other programs may have run in between. -/
def Keeps (I : σ → Prop) : Prog σ α → Prop
  | done _ => True
  | act write next => ∀ s, I s → I (write s) ∧ (next s).Keeps I

variable {I : σ → Prop}

theorem keeps_pure (a : α) : (pure a : Prog σ α).Keeps I := trivial

theorem keeps_read {f : σ → α} {k : α → Prog σ β} (h : ∀ s, I s → (k (f s)).Keeps I) :
    (read f >>= k).Keeps I :=
  fun s hs => ⟨hs, h s hs⟩

theorem keeps_atomic {f : σ → α × σ} {k : α → Prog σ β}
    (h : ∀ s, I s → I (f s).2 ∧ (k (f s).1).Keeps I) : (atomic f >>= k).Keeps I :=
  fun s hs => h s hs

theorem keeps_bind {p : Prog σ α} {k : α → Prog σ β} (hp : p.Keeps I)
    (hk : ∀ a, (k a).Keeps I) : (p >>= k).Keeps I := by
  induction p with
  | done a => exact hk a
  | act write next ih => exact fun s hs => ⟨(hp s hs).1, ih s (hp s hs).2⟩

/-- Actions that write nothing the invariant depends on. -/
theorem keeps_modify {f : σ → σ} (h : ∀ s, I s → I (f s)) :
    (modify f : Prog σ PUnit).Keeps I :=
  fun s hs => ⟨h s hs, trivial⟩

theorem keeps_ite {c : Prop} [Decidable c] {p q : Prog σ α} (hp : c → p.Keeps I)
    (hq : ¬ c → q.Keeps I) : (if c then p else q).Keeps I := by
  split
  · exact hp ‹_›
  · exact hq ‹_›

theorem Keeps.step {p : Prog σ α} {s : σ} (h : p.Keeps I) (hs : I s) :
    (p.step s).1.Keeps I ∧ I (p.step s).2 := by
  cases p with
  | done a => exact ⟨trivial, hs⟩
  | act write next => exact (h s hs).symm

end Prog

/-! ## Running concurrently -/

/-- Several programs over one store: `ι` names the programs. -/
structure Pool (σ : Type u) (ι : Type v) (α : Type w) where
  store : σ
  progs : ι → Prog σ α

namespace Pool

variable {σ : Type u} {ι : Type v} {α : Type w} [DecidableEq ι]

def step (c : Pool σ ι α) (i : ι) : Pool σ ι α :=
  { store := ((c.progs i).step c.store).2
    progs := Function.update c.progs i ((c.progs i).step c.store).1 }

/-- The actions happen in the order of the schedule. -/
def exec (c : Pool σ ι α) (schedule : List ι) : Pool σ ι α := schedule.foldl step c

def result (c : Pool σ ι α) (i : ι) : Option α := (c.progs i).result

theorem exec_append (c : Pool σ ι α) (past rest : List ι) :
    c.exec (past ++ rest) = (c.exec past).exec rest :=
  List.foldl_append

theorem exec_snoc (c : Pool σ ι α) (schedule : List ι) (i : ι) :
    c.exec (schedule ++ [i]) = (c.exec schedule).step i := by
  rw [exec_append]
  rfl

end Pool

namespace Pool

variable {σ : Type u} {ι : Type v} {α : Type w} [DecidableEq ι] {c : Pool σ ι α}

theorem progs_step_self (k : ι) : (c.step k).progs k = ((c.progs k).step c.store).1 :=
  Function.update_self ..

theorem progs_step_of_ne {j k : ι} (hj : j ≠ k) : (c.step k).progs j = c.progs j :=
  Function.update_of_ne hj ..

/-- Programs that keep an invariant keep it under every schedule: each action
keeps it in whatever store it finds, and a schedule is one action after the
other. -/
theorem exec_keeps {I : σ → Prop} (hprogs : ∀ i, (c.progs i).Keeps I) (hstore : I c.store)
    (schedule : List ι) :
    I (c.exec schedule).store ∧ ∀ i, ((c.exec schedule).progs i).Keeps I := by
  induction schedule using List.reverseRecOn with
  | nil => exact ⟨hstore, hprogs⟩
  | append_singleton past i ih =>
      rw [exec_snoc]
      obtain ⟨hprog, hstore'⟩ := (ih.2 i).step ih.1
      refine ⟨hstore', fun j => ?_⟩
      unfold step
      dsimp only
      by_cases hj : j = i
      · subst hj
        rwa [Function.update_self]
      · rw [Function.update_of_ne hj]
        exact ih.2 j

end Pool

/-! ## The order of turns -/

section Turns

variable {ι : Type v} [DecidableEq ι] {schedule : List ι} {i j k : ι} {m n : Nat}

/-- The `m`-th turn of `i` comes before the `n`-th turn of `j`, which may never come. -/
def Precedes (schedule : List ι) (i : ι) (m : Nat) (j : ι) (n : Nat) : Prop :=
  ∃ past rest, schedule = past ++ i :: rest ∧ past.count i + 1 = m ∧ past.count j < n

theorem precedes_iff_take :
    Precedes schedule i m j n ↔
      ∃ t, t < schedule.length ∧ schedule[t]? = some i ∧ (schedule.take t).count i + 1 = m ∧
        (schedule.take t).count j < n := by
  constructor
  · rintro ⟨past, rest, rfl, hturn, hbefore⟩
    refine ⟨past.length, by simp, by simp, ?_, ?_⟩
    · rwa [List.take_left]
    · rwa [List.take_left]
  · rintro ⟨t, ht, hi, hturn, hbefore⟩
    refine ⟨schedule.take t, schedule.drop (t + 1), ?_, hturn, hbefore⟩
    obtain ⟨_, hget⟩ := List.getElem?_eq_some_iff.mp hi
    rw [← hget, List.getElem_cons_drop, List.take_append_drop]

instance : Decidable (Precedes schedule i m j n) :=
  decidable_of_iff' _ precedes_iff_take

/-- The order is decided by the turn that comes first. -/
theorem precedes_snoc :
    Precedes (schedule ++ [k]) i m j n ↔
      Precedes schedule i m j n ∨ k = i ∧ schedule.count i + 1 = m ∧ schedule.count j < n := by
  constructor
  · rintro ⟨past, rest, heq, hturn, hbefore⟩
    rcases snoc_eq_append_cons heq with ⟨-, rfl, rfl⟩ | ⟨rest', -, hschedule⟩
    · exact Or.inr ⟨rfl, hturn, hbefore⟩
    · exact Or.inl ⟨past, rest', hschedule, hturn, hbefore⟩
  · rintro (⟨past, rest, rfl, hturn, hbefore⟩ | ⟨rfl, hturn, hbefore⟩)
    · exact ⟨past, rest ++ [k], by simp, hturn, hbefore⟩
    · exact ⟨schedule, [], rfl, hturn, hbefore⟩

/-- Once `i` has had its `m`-th turn, the order is settled. -/
theorem precedes_snoc_of_le (h : m ≤ schedule.count i) :
    Precedes (schedule ++ [k]) i m j n ↔ Precedes schedule i m j n := by
  rw [precedes_snoc, or_iff_left]
  rintro ⟨-, hturn, -⟩
  omega

theorem Precedes.le_count (h : Precedes schedule i m j n) : m ≤ schedule.count i := by
  obtain ⟨past, rest, rfl, hturn, -⟩ := h
  rw [List.count_append, List.count_cons_self]
  omega

theorem precedes_of_lt (hm : 0 < m) (hi : m ≤ schedule.count i) (hj : schedule.count j < n) :
    Precedes schedule i m j n := by
  induction schedule using List.reverseRecOn with
  | nil =>
      rw [List.count_nil] at hi
      omega
  | append_singleton past k ih =>
      rw [List.count_append] at hi hj
      rw [precedes_snoc]
      by_cases hpast : m ≤ past.count i
      · exact Or.inl (ih hpast (by omega))
      · rw [List.count_singleton] at hi
        split at hi
        · rename_i hki
          exact Or.inr ⟨eq_of_beq hki, by omega, by omega⟩
        · omega

/-- One of two turns that have come was the first. -/
theorem precedes_or_precedes (hij : i ≠ j) (hm : 0 < m) (hn : 0 < n)
    (hi : m ≤ schedule.count i) (hj : n ≤ schedule.count j) :
    Precedes schedule i m j n ∨ Precedes schedule j n i m := by
  induction schedule using List.reverseRecOn with
  | nil =>
      rw [List.count_nil] at hi
      omega
  | append_singleton past k ih =>
      rw [precedes_snoc, precedes_snoc]
      rw [List.count_append, List.count_singleton] at hi hj
      by_cases hpast : m ≤ past.count i
      · by_cases hpast' : n ≤ past.count j
        · exact (ih hpast hpast').imp Or.inl Or.inl
        · exact Or.inl (Or.inl (precedes_of_lt hm hpast (by omega)))
      · by_cases hpast' : n ≤ past.count j
        · exact Or.inr (Or.inl (precedes_of_lt hn hpast' (by omega)))
        · -- the last turn is only one of the two
          split at hi
          · split at hj
            · rename_i hki hkj
              exact absurd ((eq_of_beq hki).symm.trans (eq_of_beq hkj)) hij
            · omega
          · omega

omit [DecidableEq ι] in
/-- What holds of every turn, turn by turn. -/
theorem forall_turns_iff {P : List ι → ι → Prop} :
    (∀ past i, past ++ [i] <+: schedule → P past i) ↔
      ∀ t : Fin schedule.length, P (schedule.take t) schedule[t] := by
  constructor
  · intro h t
    refine h _ _ ⟨schedule.drop (t + 1), ?_⟩
    rw [List.append_assoc, List.singleton_append, Fin.getElem_fin, List.getElem_cons_drop,
      List.take_append_drop]
  · rintro h past i ⟨rest, rfl⟩
    have hturn := h ⟨past.length, by simp⟩
    simpa using hturn

end Turns

end Lib
