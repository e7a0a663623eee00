import Mapapi.Lib.Protocol

/-!
# Programs that read, then write once

Most requests read what they need, decide, and end with a single write. Such a
program can go wrong in a pool in one way: something it has read changes before it
writes. As long as no other program has changed the store since its first action
(`Pool.Overtaken`), the rest of it does what the whole program would do if it
started now (`Pool.run_of_not_overtaken`): it might as well run alone.
-/

namespace Lib

universe u v w

namespace Prog

variable {σ : Type u} {α : Type v} {P : (σ → σ) → Prop} {Q : α → Bool → Prop}

/-- The protocol of these programs: any reads, then one write that `P` admits. The
phase says whether the write has happened. -/
def Once (P : (σ → σ) → Prop) (written : Bool) (_ : σ) (write : σ → σ) (written' : Bool) : Prop :=
  written = false ∧ (write = id ∧ written' = false ∨ P write ∧ written' = true)

theorem once_read {s : σ} : Once P false s id false := ⟨rfl, Or.inl ⟨rfl, rfl⟩⟩

theorem once_write {s : σ} {write : σ → σ} (h : P write) : Once P false s write true :=
  ⟨rfl, Or.inr ⟨h, rfl⟩⟩

/-- A program that follows a protocol follows every protocol that has less to say of
the phases. -/
theorem Follows.map {τ τ' : Type*} {R : τ → σ → (σ → σ) → τ → Prop}
    {R' : τ' → σ → (σ → σ) → τ' → Prop} (f : τ → τ')
    (h : ∀ t s write t', R t s write t' → R' (f t) s write (f t')) {p : Prog σ α} {t : τ}
    (hp : p.Follows R (Ended fun _ _ => True) t) :
    p.Follows R' (Ended fun _ _ => True) (f t) := by
  induction p generalizing t with
  | done a => exact ended_pure trivial
  | act write next ih =>
      rcases hp with ⟨a, hend, -⟩ | hp
      · cases hend
      · refine Or.inr fun s => ?_
        obtain ⟨t', hallowed, hnext⟩ := hp s
        exact ⟨f t', h t s write t' hallowed, ih s hnext⟩

theorem done_of_written {p : Prog σ α} (h : p.Follows (Once P) (Ended Q) true) (s : σ) :
    ∃ a, p = done a := by
  rcases follows_cases h s with ⟨a, hend, -⟩ | ⟨write, next, t', -, hallowed, -⟩
  · exact ⟨a, hend⟩
  · cases hallowed.1

end Prog

namespace Pool

variable {σ : Type u} {ι : Type v} {α : Type w} [DecidableEq ι] {c : Pool σ ι α} {i k : ι}
  {past : List ι}

/-- Another program has changed the store since the first action of `i`. -/
def Overtaken (c : Pool σ ι α) (past : List ι) (i : ι) : Prop :=
  ∃ pre k post, past = pre ++ k :: post ∧ k ≠ i ∧ i ∈ pre ∧
    (c.exec (pre ++ [k])).store ≠ (c.exec pre).store

theorem overtaken_snoc (h : c.Overtaken past i) : c.Overtaken (past ++ [k]) i := by
  obtain ⟨pre, j, post, rfl, hj, hi, hchanged⟩ := h
  exact ⟨pre, j, post ++ [k], by simp, hj, hi, hchanged⟩

/-- The store that program `i` found at its turn number `n`, counted from 0. -/
def foundAt (i : ι) : Nat → Pool σ ι α → List ι → Option σ
  | _, _, [] => none
  | n, c, k :: rest =>
    if k = i then if n = 0 then some c.store else foundAt i (n - 1) (c.step k) rest
    else foundAt i n (c.step k) rest

theorem foundAt_snoc {n : Nat} :
    foundAt i n c (past ++ [k]) =
      if k = i ∧ past.count i = n then some (c.exec past).store else foundAt i n c past := by
  induction past generalizing c n with
  | nil =>
      simp only [List.nil_append, foundAt, List.count_nil]
      split
      · rename_i hk
        cases n with
        | zero => simp [hk, exec]
        | succ n => simp
      · rename_i hk
        simp [hk]
  | cons j rest ih =>
      simp only [List.cons_append, foundAt, ih]
      by_cases hj : j = i
      · subst hj
        cases n with
        | zero => simp
        | succ n => simp [exec]
      · simp [hj, exec]

theorem progs_of_not_mem (h : i ∉ past) : (c.exec past).progs i = c.progs i := by
  induction past using List.reverseRecOn with
  | nil => rfl
  | append_singleton past k ih =>
      simp only [List.mem_append, List.mem_singleton, not_or] at h
      rw [progs_exec_snoc_of_ne (Ne.symm h.2), ih h.1]

/-- A program that has not been overtaken has ended, or what is left of it
does what the whole would do. So a condition that the whole program checks may
be used of what is left. -/
theorem run_of_not_overtaken {P : (σ → σ) → Prop} {Q : α → Bool → Prop}
    (hprog : (c.progs i).Follows (Prog.Once P) (Prog.Ended Q) false)
    (hfree : ¬ c.Overtaken past i) :
    (∃ a, (c.exec past).progs i = .done a) ∨
      ((c.exec past).progs i).Follows (Prog.Once P) (Prog.Ended Q) false ∧
        ((c.exec past).progs i).run (c.exec past).store = (c.progs i).run (c.exec past).store := by
  induction past using List.reverseRecOn with
  | nil => exact Or.inr ⟨hprog, rfl⟩
  | append_singleton past k ih =>
      by_cases hk : k = i
      · subst hk
        rcases ih (fun h => hfree (overtaken_snoc h)) with ⟨a, hdone⟩ | ⟨hfollows, hrun⟩
        · exact Or.inl ⟨a, by rw [exec_snoc_done hdone, hdone]⟩
        · rcases Prog.follows_cases hfollows (c.exec past).store with
            ⟨a, hdone, -⟩ | ⟨write, next, t', hact, ⟨-, hallowed⟩, hnext⟩
          · exact Or.inl ⟨a, by rw [exec_snoc_done hdone, hdone]⟩
          · rw [progs_exec_snoc hact, store_exec_snoc hact]
            rcases hallowed with ⟨rfl, rfl⟩ | ⟨-, rfl⟩
            · refine Or.inr ⟨hnext, ?_⟩
              rw [hact] at hrun
              exact hrun
            · exact Or.inl (Prog.done_of_written hnext (c.exec past).store)
      · have hsame : (c.exec (past ++ [k])).progs i = (c.exec past).progs i :=
          progs_exec_snoc_of_ne hk
        by_cases hi : i ∈ past
        · -- the other program has left the store alone
          have hstore : (c.exec (past ++ [k])).store = (c.exec past).store := by
            by_contra hchanged
            exact hfree ⟨past, k, [], rfl, hk, hi, hchanged⟩
          rw [hsame, hstore]
          exact ih (fun h => hfree (overtaken_snoc h))
        · rw [hsame, progs_of_not_mem hi]
          exact Or.inr ⟨hprog, rfl⟩

end Pool

end Lib
