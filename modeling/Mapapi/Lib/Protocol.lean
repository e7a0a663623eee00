import Mapapi.Lib.Prog

/-!
# Programs that follow a protocol

What a program may do depends on what it has done: it saves what it has read, it
undoes what it has stored. A protocol says so in phases. In phase `t`, and on
the store `s`, the step `R t s write t'` allows the action `write` and leads to
the phase `t'`.

`Prog.Follows` says that every action of a program is one the protocol allows,
whatever store it finds, up to a point where the rest of the program is one that
`E` admits; `Ended` asks for the end of the program. The rules go through a
program from front to back (`follows_read`, `follows_bind`, ...). A pool of
programs that follow a protocol has a phase for each of them; `Pool.exec_phases`
is the rule for what holds of the phases and of the turns taken so far.
-/

namespace Lib

universe u v w

namespace Prog

variable {σ : Type u} {α β : Type v} {τ : Type w}

/-- Every action of the program is allowed in the phase it happens in, until the
rest is one that `E` admits. -/
def Follows (R : τ → σ → (σ → σ) → τ → Prop) (E : Prog σ α → τ → Prop) : Prog σ α → τ → Prop
  | done a, t => E (done a) t
  | act write next, t =>
    E (act write next) t ∨ ∀ s, ∃ t', R t s write t' ∧ (next s).Follows R E t'

/-- The program has ended, with a result and in a phase as `Q` asks. -/
def Ended (Q : α → τ → Prop) (p : Prog σ α) (t : τ) : Prop := ∃ a, p = done a ∧ Q a t

/-- The protocol of the programs that only read. -/
def Reading (t : τ) (_ : σ) (write : σ → σ) (t' : τ) : Prop := write = id ∧ t' = t

variable {R : τ → σ → (σ → σ) → τ → Prop} {E : Prog σ α → τ → Prop} {Q : α → τ → Prop}
  {E' : Prog σ β → τ → Prop} {t : τ}

theorem follows_rest {p : Prog σ α} (h : E p t) : p.Follows R E t := by
  cases p with
  | done a => exact h
  | act write next => exact Or.inl h

theorem follows_pure {a : α} (h : E (pure a) t) : (pure a : Prog σ α).Follows R E t := h

theorem ended_pure {a : α} (h : Q a t) : Ended Q (pure a : Prog σ α) t := ⟨a, rfl, h⟩

theorem follows_read {f : σ → α} {k : α → Prog σ β}
    (h : ∀ s, ∃ t', R t s id t' ∧ (k (f s)).Follows R E' t') :
    (read f >>= k).Follows R E' t :=
  Or.inr h

theorem follows_atomic {f : σ → α × σ} {k : α → Prog σ β}
    (h : ∀ s, ∃ t', R t s (fun s => (f s).2) t' ∧ (k (f s).1).Follows R E' t') :
    (atomic f >>= k).Follows R E' t :=
  Or.inr h

theorem follows_ite {c : Prop} [Decidable c] {p q : Prog σ α} (hp : c → p.Follows R E t)
    (hq : ¬ c → q.Follows R E t) : (if c then p else q).Follows R E t := by
  split
  · exact hp ‹_›
  · exact hq ‹_›

/-- A program that is not yet where `E` admits it goes on by an allowed action. -/
theorem follows_cases {p : Prog σ α} (h : p.Follows R E t) (s : σ) :
    E p t ∨ ∃ write next t', p = .act write next ∧ R t s write t' ∧ (next s).Follows R E t' := by
  cases p with
  | done a => exact Or.inl h
  | act write next =>
      rcases h with h | h
      · exact Or.inl h
      · obtain ⟨t', hallowed, hnext⟩ := h s
        exact Or.inr ⟨write, next, t', rfl, hallowed, hnext⟩

theorem follows_mono {E'' : Prog σ α → τ → Prop} {p : Prog σ α} (h : p.Follows R E t)
    (hE : ∀ p t, E p t → E'' p t) : p.Follows R E'' t := by
  induction p generalizing t with
  | done a => exact hE _ _ h
  | act write next ih =>
      rcases h with h | h
      · exact Or.inl (hE _ _ h)
      · refine Or.inr fun s => ?_
        obtain ⟨t', hallowed, hnext⟩ := h s
        exact ⟨t', hallowed, ih s hnext⟩

/-- The rest of a program starts in a phase that the first part may end in. -/
theorem follows_bind' {γ : Type v} {E' : Prog σ γ → τ → Prop} {p : Prog σ α} {k : α → Prog σ γ}
    (hp : p.Follows R (Ended Q) t) (hk : ∀ a t, Q a t → (k a).Follows R E' t) :
    (p.bind k).Follows R E' t := by
  induction p generalizing t with
  | done a =>
      obtain ⟨b, hend, hQ⟩ := hp
      cases hend
      exact hk a t hQ
  | act write next ih =>
      rcases hp with ⟨a, hend, -⟩ | hp
      · cases hend
      · refine Or.inr fun s => ?_
        obtain ⟨t', hstep, hnext⟩ := hp s
        exact ⟨t', hstep, ih s hnext⟩

theorem follows_bind {p : Prog σ α} {k : α → Prog σ β} (hp : p.Follows R (Ended Q) t)
    (hk : ∀ a t, Q a t → (k a).Follows R E' t) : (p >>= k).Follows R E' t :=
  follows_bind' hp hk

theorem follows_modify {R : τ → σ → (σ → σ) → τ → Prop} {f : σ → σ}
    {Q : PUnit.{v + 1} → τ → Prop} (h : ∀ s, ∃ t', R t s f t' ∧ Q ⟨⟩ t') :
    (modify f : Prog σ PUnit).Follows R (Ended Q) t := by
  refine Or.inr fun s => ?_
  obtain ⟨t', hstep, hQ⟩ := h s
  exact ⟨t', hstep, ended_pure hQ⟩

/-- A loop, by an invariant of the phase between two rounds. -/
theorem follows_forEach {β : Type v} {R : τ → σ → (σ → σ) → τ → Prop} {I : τ → Prop}
    {l : List β} {body : β → Prog.{u, 0} σ Unit}
    (hbody : ∀ b ∈ l, ∀ t, I t → (body b).Follows R (Ended fun _ t => I t) t) (ht : I t) :
    (forEach l body).Follows R (Ended fun _ t => I t) t := by
  induction l generalizing t with
  | nil => exact ended_pure ht
  | cons b rest ih =>
      refine follows_bind' (hbody b List.mem_cons_self t ht) fun _ t' ht' => ?_
      exact ih (fun b' hb' => hbody b' (List.mem_cons_of_mem b hb')) ht'

end Prog

/-! ## Pools -/

namespace Pool

variable {σ : Type u} {ι : Type v} {α : Type w} [DecidableEq ι] {c : Pool σ ι α} {i : ι}

theorem step_done {a : α} (h : c.progs i = .done a) : c.step i = c := by
  have hstep : (c.progs i).step c.store = (c.progs i, c.store) := by
    rw [h]
    rfl
  unfold step
  rw [hstep, Function.update_eq_self]

theorem step_act {write : σ → σ} {next : σ → Prog σ α} (h : c.progs i = .act write next) :
    c.step i =
      { store := write c.store, progs := Function.update c.progs i (next c.store) } := by
  unfold step
  rw [h]
  rfl

theorem store_step_act {write : σ → σ} {next : σ → Prog σ α} (h : c.progs i = .act write next) :
    (c.step i).store = write c.store := by
  rw [step_act h]

omit [DecidableEq ι] in
theorem result_act {write : σ → σ} {next : σ → Prog σ α} (h : c.progs i = .act write next) :
    c.result i = none := by
  rw [result, h]
  rfl

section Snoc

variable {past : List ι} {k : ι} {write : σ → σ} {next : σ → Prog σ α}

theorem exec_snoc_done {a : α} (h : (c.exec past).progs i = .done a) :
    c.exec (past ++ [i]) = c.exec past := by
  rw [exec_snoc, step_done h]

theorem store_exec_snoc (h : (c.exec past).progs i = .act write next) :
    (c.exec (past ++ [i])).store = write (c.exec past).store := by
  rw [exec_snoc, store_step_act h]

theorem progs_exec_snoc (h : (c.exec past).progs i = .act write next) :
    (c.exec (past ++ [i])).progs i = next (c.exec past).store := by
  rw [exec_snoc, step_act h]
  exact Function.update_self ..

theorem progs_exec_snoc_of_ne (h : k ≠ i) :
    (c.exec (past ++ [k])).progs i = (c.exec past).progs i := by
  rw [exec_snoc]
  exact Function.update_of_ne (Ne.symm h) ..

theorem result_exec_snoc_of_ne (h : k ≠ i) :
    (c.exec (past ++ [k])).result i = (c.exec past).result i := by
  rw [result, result, progs_exec_snoc_of_ne h]

end Snoc

/-- A program that follows a protocol does so under every schedule, whatever the
other ones are. -/
theorem exec_follows {τ : Type*} {R : τ → σ → (σ → σ) → τ → Prop} {Q : α → τ → Prop} {t : τ}
    (h : (c.progs i).Follows R (Prog.Ended Q) t) (schedule : List ι) :
    ∃ t, ((c.exec schedule).progs i).Follows R (Prog.Ended Q) t := by
  induction schedule using List.reverseRecOn with
  | nil => exact ⟨t, h⟩
  | append_singleton past k ih =>
      obtain ⟨t, hi⟩ := ih
      rw [exec_snoc]
      cases hprog : (c.exec past).progs k with
      | done a =>
          rw [step_done hprog]
          exact ⟨t, hi⟩
      | act write next =>
          rw [step_act hprog]
          dsimp only
          by_cases hk : i = k
          · subst hk
            rw [Function.update_self]
            rw [hprog] at hi
            rcases hi with ⟨a, hend, -⟩ | hi
            · cases hend
            obtain ⟨t', -, hnext⟩ := hi (c.exec past).store
            exact ⟨t', hnext⟩
          · rw [Function.update_of_ne hk]
            exact ⟨t, hi⟩

omit [DecidableEq ι] in
/-- The next action of such a program is one that the protocol allows in some phase. -/
theorem allowed_of_follows {τ : Type*} {R : τ → σ → (σ → σ) → τ → Prop} {Q : α → τ → Prop}
    {t : τ} {write : σ → σ} {next : σ → Prog σ α}
    (h : (c.progs i).Follows R (Prog.Ended Q) t) (hprog : c.progs i = .act write next) :
    ∃ t', R t c.store write t' := by
  rw [hprog] at h
  rcases h with ⟨a, hend, -⟩ | h
  · cases hend
  · obtain ⟨t', hallowed, -⟩ := h c.store
    exact ⟨t', hallowed⟩

/-- What holds of the turns taken and of the phases of programs that each
follow a protocol of their own to their end: it holds at the start, a turn of
a finished program changes nothing, and every turn that its protocol allows
keeps it. The invariant may speak of all phases at once, which is how the turn
of one program sees the others. -/
theorem exec_own_phases {τ : Type*} {R : ι → τ → σ → (σ → σ) → τ → Prop} {Q : α → τ → Prop}
    {phase : ι → τ} (hprogs : ∀ i, (c.progs i).Follows (R i) (Prog.Ended Q) (phase i))
    {I : List ι → (ι → τ) → Prop} (hstart : I [] phase)
    (hdone : ∀ past phase i a, I past phase → (c.exec past).progs i = .done a →
      I (past ++ [i]) phase)
    (hact : ∀ past phase i write next t', I past phase →
      (c.exec past).progs i = .act write next → R i (phase i) (c.exec past).store write t' →
        I (past ++ [i]) (Function.update phase i t'))
    (schedule : List ι) :
    ∃ phase, I schedule phase ∧
      ∀ i, ((c.exec schedule).progs i).Follows (R i) (Prog.Ended Q) (phase i) := by
  induction schedule using List.reverseRecOn with
  | nil => exact ⟨phase, hstart, hprogs⟩
  | append_singleton past i ih =>
      obtain ⟨phase, hI, hfollows⟩ := ih
      have hi := hfollows i
      cases hprog : (c.exec past).progs i with
      | done a =>
          refine ⟨phase, hdone past phase i a hI hprog, ?_⟩
          rw [exec_snoc, step_done hprog]
          exact hfollows
      | act write next =>
          rw [hprog] at hi
          rcases hi with ⟨a, hend, -⟩ | hi
          · cases hend
          obtain ⟨t', hallowed, hnext⟩ := hi (c.exec past).store
          refine ⟨_, hact past phase i write next t' hI hprog hallowed, fun j => ?_⟩
          rw [exec_snoc, step_act hprog]
          dsimp only
          by_cases hj : j = i
          · subst hj
            rwa [Function.update_self, Function.update_self]
          · rw [Function.update_of_ne hj, Function.update_of_ne hj]
            exact hfollows j

/-- The same for programs that follow one protocol. -/
theorem exec_phases {τ : Type*} {R : τ → σ → (σ → σ) → τ → Prop} {Q : α → τ → Prop}
    {phase : ι → τ} (hprogs : ∀ i, (c.progs i).Follows R (Prog.Ended Q) (phase i))
    {I : List ι → (ι → τ) → Prop} (hstart : I [] phase)
    (hdone : ∀ past phase i a, I past phase → (c.exec past).progs i = .done a →
      I (past ++ [i]) phase)
    (hact : ∀ past phase i write next t', I past phase →
      (c.exec past).progs i = .act write next → R (phase i) (c.exec past).store write t' →
        I (past ++ [i]) (Function.update phase i t'))
    (schedule : List ι) :
    ∃ phase, I schedule phase ∧
      ∀ i, ((c.exec schedule).progs i).Follows R (Prog.Ended Q) (phase i) :=
  exec_own_phases hprogs hstart hdone hact schedule

end Pool

end Lib
