import Mapapi.Lib.Prog

/-!
# Programs that see a part of the store

A program sees a part of the store when that part is all that its actions depend on and
all that they change: it does there what another program does which has nothing else
(`Prog.Sees`). A program is blind to a part when it leaves it as it is (`Prog.Blind`).

In a pool where everybody else is blind to the part that a program sees, that program does
what it would do alone (`Pool.exec_sees`). Once it has had enough turns, its result and its
part of the store are those of the other program (`Pool.result_of_sees`).
-/

namespace Lib

universe u v w x

namespace Prog

variable {σ : Type u} {ν : Type w} {α β : Type v}

/-- On stores that satisfy `I`, the program does to the part `v` what `q` does. -/
def Sees (I : σ → Prop) (v : σ → ν) : Prog σ α → Prog ν α → Prop
  | done a, done b => a = b
  | act write next, act write' next' => ∀ s, I s →
    v (write s) = write' (v s) ∧ I (write s) ∧ (next s).Sees I v (next' (v s))
  | _, _ => False

/-- On stores that satisfy `I`, the program leaves the part `v` as it is. -/
def Blind (I : σ → Prop) (v : σ → ν) : Prog σ α → Prop
  | done _ => True
  | act write next => ∀ s, I s → v (write s) = v s ∧ I (write s) ∧ (next s).Blind I v

/-- The program takes at most `n` actions. -/
def Within : Nat → Prog σ α → Prop
  | _, done _ => True
  | 0, act _ _ => False
  | n + 1, act _ next => ∀ s, (next s).Within n

/-- What is left of a program that runs alone after some actions, and the store. -/
def alone : Nat → Prog σ α → σ → Prog σ α × σ
  | 0, p, s => (p, s)
  | n + 1, p, s => (p.alone n s).1.step (p.alone n s).2

section Rules

variable {I : σ → Prop} {v : σ → ν}

theorem sees_pure (a : α) : (pure a : Prog σ α).Sees I v (pure a) := rfl

theorem sees_read {f : σ → α} {g : ν → α} {k : α → Prog σ β} {k' : α → Prog ν β}
    (hf : ∀ s, I s → f s = g (v s)) (hk : ∀ s, I s → (k (f s)).Sees I v (k' (f s))) :
    (read f >>= k).Sees I v (read g >>= k') := by
  intro s hs
  refine ⟨rfl, hs, ?_⟩
  change (k (f s)).Sees I v (k' (g (v s)))
  rw [← hf s hs]
  exact hk s hs

theorem sees_modify {f : σ → σ} {g : ν → ν} {k : PUnit.{v + 1} → Prog σ β}
    {k' : PUnit.{v + 1} → Prog ν β} (hf : ∀ s, I s → v (f s) = g (v s) ∧ I (f s))
    (hk : ∀ a, (k a).Sees I v (k' a)) :
    (modify f >>= k).Sees I v (modify g >>= k') :=
  fun s hs => ⟨(hf s hs).1, (hf s hs).2, hk ⟨⟩⟩

theorem sees_bind {p : Prog σ α} {q : Prog ν α} {k : α → Prog σ β} {k' : α → Prog ν β}
    (hp : p.Sees I v q) (hk : ∀ a, (k a).Sees I v (k' a)) :
    (p >>= k).Sees I v (q >>= k') := by
  induction p generalizing q with
  | done a =>
      cases q with
      | done b =>
          obtain rfl : a = b := hp
          exact hk a
      | act write' next' => exact hp.elim
  | act write next ih =>
      cases q with
      | done b => exact hp.elim
      | act write' next' =>
          intro s hs
          obtain ⟨hwrite, hkept, hnext⟩ := hp s hs
          exact ⟨hwrite, hkept, ih s hnext⟩

theorem blind_pure (a : α) : (pure a : Prog σ α).Blind I v := trivial

theorem blind_read {f : σ → α} {k : α → Prog σ β} (hk : ∀ s, I s → (k (f s)).Blind I v) :
    (read f >>= k).Blind I v :=
  fun s hs => ⟨rfl, hs, hk s hs⟩

theorem blind_modify {f : σ → σ} {k : PUnit.{v + 1} → Prog σ β}
    (hf : ∀ s, I s → v (f s) = v s ∧ I (f s)) (hk : ∀ a, (k a).Blind I v) :
    (modify f >>= k).Blind I v :=
  fun s hs => ⟨(hf s hs).1, (hf s hs).2, hk ⟨⟩⟩

theorem blind_bind {p : Prog σ α} {k : α → Prog σ β} (hp : p.Blind I v)
    (hk : ∀ a, (k a).Blind I v) : (p >>= k).Blind I v := by
  induction p with
  | done a => exact hk a
  | act write next ih =>
      intro s hs
      obtain ⟨hwrite, hkept, hnext⟩ := hp s hs
      exact ⟨hwrite, hkept, ih s hnext⟩

theorem within_pure (n : Nat) (a : α) : (pure a : Prog σ α).Within n := by
  cases n <;> trivial

theorem Within.mono {m n : Nat} {p : Prog σ α} (h : p.Within m) (hmn : m ≤ n) :
    p.Within n := by
  induction p generalizing m n with
  | done a => exact within_pure n a
  | act write next ih =>
      cases m with
      | zero => exact h.elim
      | succ m =>
          cases n with
          | zero => omega
          | succ n => exact fun s => ih s (h s) (Nat.le_of_succ_le_succ hmn)

theorem within_read {n : Nat} {f : σ → α} {k : α → Prog σ β} (hk : ∀ a, (k a).Within n) :
    (read f >>= k).Within (n + 1) :=
  fun s => hk (f s)

theorem within_modify {n : Nat} {f : σ → σ} {k : PUnit.{v + 1} → Prog σ β}
    (hk : ∀ a, (k a).Within n) : (modify f >>= k).Within (n + 1) :=
  fun _ => hk ⟨⟩

theorem within_bind {m n : Nat} {p : Prog σ α} {k : α → Prog σ β} (hp : p.Within m)
    (hk : ∀ a, (k a).Within n) : (p >>= k).Within (m + n) := by
  induction p generalizing m with
  | done a => exact (hk a).mono (Nat.le_add_left n m)
  | act write next ih =>
      cases m with
      | zero => exact hp.elim
      | succ m =>
          rw [Nat.succ_add]
          exact fun s => ih s (hp s)

end Rules

theorem Sees.step {I : σ → Prop} {v : σ → ν} {p : Prog σ α} {q : Prog ν α} {s : σ}
    (h : p.Sees I v q) (hs : I s) :
    v (p.step s).2 = (q.step (v s)).2 ∧ I (p.step s).2 ∧
      (p.step s).1.Sees I v (q.step (v s)).1 := by
  cases p with
  | done a =>
      cases q with
      | done b => exact ⟨rfl, hs, h⟩
      | act write' next' => exact h.elim
  | act write next =>
      cases q with
      | done b => exact h.elim
      | act write' next' => exact h s hs

theorem Blind.step {I : σ → Prop} {v : σ → ν} {p : Prog σ α} {s : σ} (h : p.Blind I v)
    (hs : I s) : v (p.step s).2 = v s ∧ I (p.step s).2 ∧ (p.step s).1.Blind I v := by
  cases p with
  | done a => exact ⟨rfl, hs, trivial⟩
  | act write next => exact h s hs

/-! ## Running alone, action by action -/

theorem run_step (p : Prog σ α) (s : σ) : (p.step s).1.run (p.step s).2 = p.run s := by
  cases p <;> rfl

theorem run_alone (n : Nat) (p : Prog σ α) (s : σ) :
    (p.alone n s).1.run (p.alone n s).2 = p.run s := by
  induction n with
  | zero => rfl
  | succ n ih => rw [alone, run_step, ih]

theorem Within.step {n : Nat} {p : Prog σ α} (h : p.Within (n + 1)) (s : σ) :
    (p.step s).1.Within n := by
  cases p with
  | done a => exact within_pure n a
  | act write next => exact h s

theorem Within.alone {m n : Nat} {p : Prog σ α} (h : p.Within (m + n)) (s : σ) :
    (p.alone m s).1.Within n := by
  induction m generalizing n with
  | zero => rwa [Nat.zero_add] at h
  | succ m ih =>
      refine (ih ?_).step _
      rwa [Nat.add_assoc, Nat.add_comm 1 n] at h

theorem alone_of_within {n : Nat} {p : Prog σ α} (h : p.Within n) (s : σ) :
    p.alone n s = (pure (p.run s).1, (p.run s).2) := by
  have hended : (p.alone n s).1.Within 0 := @Within.alone _ _ n 0 p h s
  have hrun := run_alone n p s
  generalize p.alone n s = rest at hended hrun
  obtain ⟨q, s'⟩ := rest
  cases q with
  | done a =>
      rw [← hrun]
      rfl
  | act write next => exact hended.elim

end Prog

namespace Pool

variable {σ : Type u} {ι : Type x} {ν : Type w} {α : Type v} [DecidableEq ι]
  {c : Pool σ ι α} {i : ι} {I : σ → Prop} {v : σ → ν} {q : Prog ν α}

/-- What program `i` does, it does to the part that it sees, as `q` alone would. -/
theorem exec_sees (hstore : I c.store) (hsees : (c.progs i).Sees I v q)
    (hblind : ∀ j, j ≠ i → (c.progs j).Blind I v) (schedule : List ι) :
    let done := q.alone (schedule.count i) (v c.store)
    I (c.exec schedule).store ∧ v (c.exec schedule).store = done.2 ∧
      ((c.exec schedule).progs i).Sees I v done.1 ∧
      ∀ j, j ≠ i → ((c.exec schedule).progs j).Blind I v := by
  induction schedule using List.reverseRecOn with
  | nil => exact ⟨hstore, rfl, hsees, hblind⟩
  | append_singleton past k ih =>
      obtain ⟨hstore', hview, hsees', hblind'⟩ := ih
      rw [exec_snoc]
      by_cases hk : k = i
      · subst hk
        obtain ⟨hview', hkept, hnext⟩ := hsees'.step hstore'
        rw [hview] at hview' hnext
        rw [List.count_append, List.count_singleton_self]
        refine ⟨hkept, hview', ?_, fun j hj => ?_⟩
        · rw [progs_step_self]
          exact hnext
        · rw [progs_step_of_ne hj]
          exact hblind' j hj
      · obtain ⟨hview', hkept, hnext⟩ := (hblind' k hk).step hstore'
        rw [List.count_append, List.count_singleton, if_neg (by simpa using hk), Nat.add_zero]
        refine ⟨hkept, hview'.trans hview, ?_, fun j hj => ?_⟩
        · rw [progs_step_of_ne (Ne.symm hk)]
          exact hsees'
        · by_cases hjk : j = k
          · subst hjk
            rw [progs_step_self]
            exact hnext
          · rw [progs_step_of_ne hjk]
            exact hblind' j hj

/-- A program that has had enough turns has the result it would have alone. -/
theorem result_of_sees {n : Nat} {schedule : List ι} (hstore : I c.store)
    (hsees : (c.progs i).Sees I v q) (hblind : ∀ j, j ≠ i → (c.progs j).Blind I v)
    (hwithin : q.Within n) (hturns : n ≤ schedule.count i) :
    (c.exec schedule).result i = some (q.run (v c.store)).1 ∧
      v (c.exec schedule).store = (q.run (v c.store)).2 := by
  obtain ⟨-, hview, hsees', -⟩ := exec_sees hstore hsees hblind schedule
  rw [Prog.alone_of_within (hwithin.mono hturns)] at hview hsees'
  refine ⟨?_, hview⟩
  unfold result
  cases hprog : (c.exec schedule).progs i with
  | done a =>
      rw [hprog] at hsees'
      exact congrArg some hsees'
  | act write next =>
      rw [hprog] at hsees'
      exact hsees'.elim

end Pool

end Lib
