import Mapapi.Lib.Runs

/-!
# Tasks that empty their queues

Each task of a family treats what is due for it. When a task leaves nothing due for itself
and never makes anything due for another one, a round of tasks settles: whatever the order
of the round was, none of its tasks finds anything to do afterwards.
-/

namespace Lib

universe u v

variable {σ : Type u} {κ : Type v}

/-- `Quiet k s`: nothing is due for the task `k` in the state `s`. -/
structure Drains (step : σ → κ → σ) (Quiet : κ → σ → Prop) : Prop where
  empties : ∀ s k, Quiet k (step s k)
  keeps : ∀ s j k, Quiet k s → Quiet k (step s j)

namespace Drains

variable {step : σ → κ → σ} {Quiet : κ → σ → Prop} {s : σ} {k : κ} {round : List κ}

theorem quiet_exec (h : Drains step Quiet) (hquiet : Quiet k s) (round : List κ) :
    Quiet k (exec step s round) :=
  exec_inv (fun s j hs => h.keeps s j k hs) hquiet round

/-- After a round, nothing is due for any task of it. -/
theorem quiet_of_mem (h : Drains step Quiet) (hk : k ∈ round) :
    Quiet k (exec step s round) := by
  obtain ⟨before, after, rfl⟩ := List.append_of_mem hk
  rw [exec_append, exec_cons]
  exact h.quiet_exec (h.empties _ k) after

end Drains

theorem exec_eq_self {ε : Type v} {step : σ → ε → σ} {s : σ} {es : List ε}
    (h : ∀ e ∈ es, step s e = s) : exec step s es = s := by
  induction es with
  | nil => rfl
  | cons e es ih =>
      rw [exec_cons, h e List.mem_cons_self]
      exact ih fun e' he' => h e' (List.mem_cons_of_mem _ he')

end Lib
