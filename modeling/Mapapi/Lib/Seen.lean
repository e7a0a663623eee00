import Mapapi.Lib.Protocol

/-!
# What a program has seen

A program in a pool learns of the others only through the stores that it finds at its
turns. These stores (`Pool.seen`) determine what is left of it (`Pool.progs_exec`), so
what a program is about to do is a question about a list of stores, and the schedule
does not enter. Each of them is a store that the run has passed through
(`Pool.seen_getElem?`); what only grows along the run has grown since.
-/

namespace Lib

universe u v w

namespace Prog

variable {σ : Type u} {α : Type v}

/-- The rest of a program that has found these stores at its turns. -/
def after (p : Prog σ α) : List σ → Prog σ α
  | [] => p
  | s :: seen => (p.step s).1.after seen

@[simp] theorem after_nil (p : Prog σ α) : p.after [] = p := rfl

theorem after_cons (p : Prog σ α) (s : σ) (seen : List σ) :
    p.after (s :: seen) = (p.step s).1.after seen := rfl

theorem after_append (p : Prog σ α) (seen seen' : List σ) :
    p.after (seen ++ seen') = (p.after seen).after seen' := by
  induction seen generalizing p with
  | nil => rfl
  | cons s rest ih => exact ih (p.step s).1

@[simp] theorem after_done (a : α) (seen : List σ) : (done a : Prog σ α).after seen = done a := by
  induction seen with
  | nil => rfl
  | cons s rest ih => exact ih

theorem not_next_done {a : α} {seen : List σ} {write : σ → σ}
    (h : ((done a : Prog σ α).after seen).Next write) : False := by
  obtain ⟨next, h⟩ := h
  rw [after_done] at h
  cases h

/-- The first `n` turns only read. -/
def Reads : Nat → Prog σ α → Prop
  | 0, _ => True
  | _ + 1, done _ => True
  | n + 1, act write next => write = id ∧ ∀ s, (next s).Reads n

theorem reads_pure (n : Nat) (a : α) : (pure a : Prog σ α).Reads n := by
  cases n <;> trivial

theorem reads_read {β : Type v} {n : Nat} {f : σ → β} {k : β → Prog σ α}
    (h : ∀ s, (k (f s)).Reads n) : (read f >>= k).Reads (n + 1) :=
  ⟨rfl, h⟩

theorem write_of_reads {n : Nat} {p : Prog σ α} {seen : List σ} {write : σ → σ} (hp : p.Reads n)
    (h : (p.after seen).Next write) (hseen : seen.length < n) : write = id := by
  induction seen generalizing n p with
  | nil =>
      obtain ⟨next, rfl⟩ := h
      cases n with
      | zero => exact absurd hseen (Nat.not_lt_zero _)
      | succ n => exact hp.1
  | cons s rest ih =>
      cases n with
      | zero => exact absurd hseen (Nat.not_lt_zero _)
      | succ n =>
          cases p with
          | done a => exact (not_next_done h).elim
          | act write' next' => exact ih (hp.2 s) h (Nat.lt_of_succ_lt_succ hseen)

end Prog

namespace Pool

variable {σ : Type u} {ι : Type v} {α : Type w} [DecidableEq ι] {c : Pool σ ι α} {i k : ι}
  {past : List ι}

def seen (i : ι) : Pool σ ι α → List ι → List σ
  | _, [] => []
  | c, k :: rest => if k = i then c.store :: seen i (c.step k) rest else seen i (c.step k) rest

theorem seen_append (c : Pool σ ι α) (i : ι) (past rest : List ι) :
    seen i c (past ++ rest) = seen i c past ++ seen i (c.exec past) rest := by
  induction past generalizing c with
  | nil => rfl
  | cons j past ih =>
      have hrest := ih (c.step j)
      simp only [List.cons_append, seen, hrest]
      split <;> rfl

theorem seen_snoc : seen i c (past ++ [k]) =
    if k = i then seen i c past ++ [(c.exec past).store] else seen i c past := by
  rw [seen_append]
  simp only [seen]
  split
  · rfl
  · exact List.append_nil _

theorem seen_snoc_self : seen i c (past ++ [i]) = seen i c past ++ [(c.exec past).store] := by
  rw [seen_snoc, if_pos rfl]

theorem seen_snoc_of_ne (h : k ≠ i) : seen i c (past ++ [k]) = seen i c past := by
  rw [seen_snoc, if_neg h]

/-- What a program has found determines the rest of it. -/
theorem progs_exec (c : Pool σ ι α) (i : ι) (past : List ι) :
    (c.exec past).progs i = (c.progs i).after (seen i c past) := by
  induction past generalizing c with
  | nil => rfl
  | cons k rest ih =>
      refine (ih (c.step k)).trans ?_
      simp only [seen, step]
      by_cases hk : k = i
      · subst hk
        rw [if_pos rfl, Function.update_self]
        rfl
      · rw [if_neg hk, Function.update_of_ne (Ne.symm hk)]

theorem length_seen (c : Pool σ ι α) (i : ι) (past : List ι) :
    (seen i c past).length = past.count i := by
  induction past using List.reverseRecOn with
  | nil => rfl
  | append_singleton past k ih =>
      rw [seen_snoc, List.count_append, List.count_singleton]
      by_cases hk : k = i
      · rw [if_pos hk, List.length_append, ih, if_pos (beq_iff_eq.mpr hk)]
        rfl
      · rw [if_neg hk, ih, if_neg (fun h => hk (beq_iff_eq.mp h)), Nat.add_zero]

theorem seen_of_not_mem (h : i ∉ past) : seen i c past = [] := by
  induction past using List.reverseRecOn with
  | nil => rfl
  | append_singleton past k ih =>
      rw [List.mem_append, List.mem_singleton, not_or] at h
      rw [seen_snoc_of_ne (Ne.symm h.2), ih h.1]

/-- A store that a program has found is one that the run has passed through, and the
program had found fewer before. -/
theorem seen_getElem? {s : σ} {n : Nat} (h : (seen i c past)[n]? = some s) :
    ∃ before, before ++ [i] <+: past ∧ (seen i c before).length = n ∧
      s = (c.exec before).store := by
  induction past using List.reverseRecOn with
  | nil => cases h
  | append_singleton past k ih =>
      have hearlier (h : (seen i c past)[n]? = some s) :
          ∃ before, before ++ [i] <+: past ++ [k] ∧ (seen i c before).length = n ∧
            s = (c.exec before).store := by
        obtain ⟨before, hbegin, hrest⟩ := ih h
        exact ⟨before, hbegin.trans (List.prefix_append ..), hrest⟩
      rw [seen_snoc] at h
      split at h
      · rename_i hk
        subst hk
        rcases Nat.lt_trichotomy n (seen k c past).length with hlt | rfl | hgt
        · rw [List.getElem?_append_left hlt] at h
          exact hearlier h
        · rw [List.getElem?_concat_length] at h
          exact ⟨past, List.prefix_rfl, rfl, (Option.some.inj h).symm⟩
        · rw [List.getElem?_eq_none (by simpa using Nat.succ_le_of_lt hgt)] at h
          cases h
      · exact hearlier h

theorem seen_prefix {before : List ι} (h : before <+: past) :
    seen i c before <+: seen i c past := by
  obtain ⟨rest, rfl⟩ := h
  rw [seen_append]
  exact List.prefix_append ..

theorem turn_cases (c : Pool σ ι α) (past : List ι) (i : ι) :
    (∃ a, (c.progs i).after (seen i c past) = .done a ∧ c.exec (past ++ [i]) = c.exec past) ∨
      ∃ write, ((c.progs i).after (seen i c past)).Next write ∧
        (c.exec (past ++ [i])).store = write (c.exec past).store := by
  rw [← progs_exec]
  cases hprog : (c.exec past).progs i with
  | done a => exact Or.inl ⟨a, rfl, exec_snoc_done hprog⟩
  | act write next => exact Or.inr ⟨write, ⟨next, rfl⟩, store_exec_snoc hprog⟩

/-- An order that every turn respects holds between the stores of a run. -/
theorem exec_rel {R : σ → σ → Prop} (hrefl : ∀ s, R s s) (htrans : ∀ a b d, R a b → R b d → R a d)
    (hturn : ∀ past i, (∀ before, before <+: past → R (c.exec before).store (c.exec past).store) →
      R (c.exec past).store (c.exec (past ++ [i])).store)
    {before : List ι} (hbegin : before <+: past) :
    R (c.exec before).store (c.exec past).store := by
  induction past using List.reverseRecOn generalizing before with
  | nil =>
      rw [List.prefix_nil.mp hbegin]
      exact hrefl _
  | append_singleton past i ih =>
      rcases List.prefix_concat_iff.mp hbegin with rfl | hbegin
      · exact hrefl _
      · exact htrans _ _ _ (ih hbegin) (hturn past i fun _ h => ih h)

end Pool

end Lib
