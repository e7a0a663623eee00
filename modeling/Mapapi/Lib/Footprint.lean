import Mapapi.Lib.Prog

/-!
# Footprints of programs

A footprint says what a single write may do to the store it finds. A program
stays within it, as long as the stores that it finds satisfy an assumption, when
each of its actions does (`Prog.Writes`). It is proved once for each program.
Whatever the writes of a footprint keep is then kept by every program that stays
within it, alone (`Writes.run`) or under any interleaving with others
(`Pool.exec_writes`).
-/

namespace Lib

universe u v w

namespace Prog

variable {σ : Type u} {α β : Type v} {γ : Type w}

/-- Whatever stores satisfying `I` its actions find, each of them leaves the store as it is
or writes within `W`. -/
def Writes (I : σ → Prop) (W : σ → σ → Prop) : Prog σ α → Prop
  | done _ => True
  | act write next => ∀ s, I s → (write s = s ∨ W s (write s)) ∧ (next s).Writes I W

variable {I J : σ → Prop} {W : σ → σ → Prop}

theorem writes_pure (a : α) : (pure a : Prog σ α).Writes I W := trivial

theorem writes_read {f : σ → α} {k : α → Prog σ β} (h : ∀ s, I s → (k (f s)).Writes I W) :
    (read f >>= k).Writes I W :=
  fun s hs => ⟨Or.inl rfl, h s hs⟩

theorem writes_last_read (f : σ → α) : (read f).Writes I W :=
  fun _ _ => ⟨Or.inl rfl, trivial⟩

theorem writes_atomic {f : σ → α × σ} {k : α → Prog σ β}
    (h : ∀ s, I s → ((f s).2 = s ∨ W s (f s).2) ∧ (k (f s).1).Writes I W) :
    (atomic f >>= k).Writes I W :=
  h

theorem writes_modify {f : σ → σ} (hf : ∀ s, I s → W s (f s)) :
    (modify f : Prog σ PUnit).Writes I W :=
  fun s hs => ⟨Or.inr (hf s hs), trivial⟩

theorem writes_bind {p : Prog σ α} {k : α → Prog σ β} (hp : p.Writes I W)
    (hk : ∀ a, (k a).Writes I W) : (p >>= k).Writes I W := by
  induction p with
  | done a => exact hk a
  | act write next ih => exact fun s hs => ⟨(hp s hs).1, ih s (hp s hs).2⟩

theorem writes_ite {c : Prop} [Decidable c] {p q : Prog σ α} (hp : c → p.Writes I W)
    (hq : ¬ c → q.Writes I W) : (if c then p else q).Writes I W := by
  split
  · exact hp ‹_›
  · exact hq ‹_›

theorem writes_when {c : Prop} [Decidable c] {p : Prog.{u, 0} σ Unit}
    (h : c → p.Writes I W) : (when c p).Writes I W :=
  writes_ite h fun _ => trivial

theorem writes_forEach {l : List γ} {body : γ → Prog.{u, 0} σ Unit}
    (h : ∀ b ∈ l, (body b).Writes I W) : (forEach l body).Writes I W := by
  induction l with
  | nil => trivial
  | cons b rest ih =>
      have hrest := ih fun b' hb' => h b' (List.mem_cons_of_mem _ hb')
      exact writes_bind (h b List.mem_cons_self) fun _ => hrest

theorem Writes.mono {p : Prog σ α} (h : p.Writes I W) (hJ : ∀ s, J s → I s) :
    p.Writes J W := by
  induction p with
  | done a => trivial
  | act write next ih =>
      intro s hs
      obtain ⟨hwrite, hnext⟩ := h s (hJ s hs)
      exact ⟨hwrite, ih s hnext⟩

/-- What the writes of a footprint keep, the program keeps. -/
theorem Writes.keeps {p : Prog σ α} (h : p.Writes I W)
    (hW : ∀ s s', W s s' → I s → I s') : p.Keeps I := by
  induction p with
  | done a => trivial
  | act write next ih =>
      intro s hs
      obtain ⟨hwrite, hnext⟩ := h s hs
      refine ⟨?_, ih s hnext⟩
      rcases hwrite with hsame | hwrite
      · rwa [hsame]
      · exact hW s (write s) hwrite hs

theorem Writes.step {p : Prog σ α} {s : σ} (h : p.Writes I W) (hs : I s) :
    ((p.step s).2 = s ∨ W s (p.step s).2) ∧ (p.step s).1.Writes I W := by
  cases p with
  | done a => exact ⟨Or.inl rfl, trivial⟩
  | act write next => exact h s hs

theorem Keeps.run {p : Prog σ α} {s : σ} (h : p.Keeps I) (hs : I s) : I (p.run s).2 := by
  induction p generalizing s with
  | done a => exact hs
  | act write next ih => exact ih s (h s hs).2 (h s hs).1

end Prog

namespace Pool

variable {σ : Type u} {ι : Type v} {α : Type w} [DecidableEq ι] {c : Pool σ ι α}
  {I J : σ → Prop} {W : σ → σ → Prop}

/-- Programs stay within their footprint. -/
theorem writes_exec (hprogs : ∀ i, (c.progs i).Writes I W) (hI : ∀ s s', W s s' → I s → I s')
    (hstart : I c.store) (schedule : List ι) :
    I (c.exec schedule).store ∧ ∀ i, ((c.exec schedule).progs i).Writes I W := by
  induction schedule using List.reverseRecOn with
  | nil => exact ⟨hstart, hprogs⟩
  | append_singleton past i ih =>
      obtain ⟨hstore, hwrites⟩ := ih
      obtain ⟨hwrite, hnext⟩ := (hwrites i).step hstore
      rw [exec_snoc]
      refine ⟨?_, fun j => ?_⟩
      · rcases hwrite with hsame | hwrite
        · rwa [show ((c.exec past).step i).store = (c.exec past).store from hsame]
        · exact hI _ _ hwrite hstore
      · by_cases hj : j = i
        · subst hj
          rwa [progs_step_self]
        · rw [progs_step_of_ne hj]
          exact hwrites j

/-- Programs within a footprint that keeps the assumption: whatever else the footprint
keeps is kept under every schedule. -/
theorem exec_writes (hprogs : ∀ i, (c.progs i).Writes I W) (hI : ∀ s s', W s s' → I s → I s')
    (hJ : ∀ s s', W s s' → I s → J s → J s') (hstart : I c.store) (hstart' : J c.store)
    (schedule : List ι) : J (c.exec schedule).store := by
  have hkeeps (i : ι) : (c.progs i).Keeps fun s => I s ∧ J s :=
    ((hprogs i).mono fun _ hs => hs.1).keeps fun s s' hwrite hs =>
      ⟨hI s s' hwrite hs.1, hJ s s' hwrite hs.1 hs.2⟩
  exact (exec_keeps hkeeps ⟨hstart, hstart'⟩ schedule).1.2

/-- The same between two moments of a run. Programs that have begun when the earlier one
comes still stay within their footprint, so what each write keeps of the store at that
moment, the rest of the run keeps. -/
theorem exec_writes_between {R : σ → σ → Prop} (hprogs : ∀ i, (c.progs i).Writes I W)
    (hI : ∀ s s', W s s' → I s → I s') (hrefl : ∀ s, R s s)
    (hR : ∀ s₀ s s', I s₀ → W s s' → I s → R s₀ s → R s₀ s') (hstart : I c.store)
    (past rest : List ι) : R (c.exec past).store (c.exec (past ++ rest)).store := by
  obtain ⟨hmiddle, hunder⟩ := writes_exec hprogs hI hstart past
  rw [exec_append]
  exact exec_writes hunder hI (fun s s' hwrite hs hold => hR _ s s' hmiddle hwrite hs hold)
    hmiddle (hrefl _) rest

end Pool

end Lib
