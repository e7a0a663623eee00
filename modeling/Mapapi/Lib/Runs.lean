import Mathlib.Data.List.Induction

/-!
# Runs of a deterministic system

A system is a step function `σ → ε → σ`: the next state for each state and
event. A run is the list of its events. Properties of runs come in seven
shapes, with a rule each:

- an invariant, possibly under a condition on every step (`exec_inv`,
  `Along.inv`);
- something that happened at some step (`Ever`), with `ever_snoc`;
- a law of every step (`Along`), exchanged for another one under an invariant
  (`Along.congr`);
- a debt: something happened and no state since then has cleared it
  (`Since`), followed event by event with `since_snoc`;
- what happened last: a step, and no step of another kind since then (`Last`),
  with `last_snoc`;
- what the steps yield, in their order (`collected`);
- a view that moves by itself (`exec_view`), and past events that do not move it
  (`exec_filter`).
-/

namespace Lib

universe u v w

variable {σ : Type u} {ε : Type v} {τ : Type w} (step : σ → ε → σ)

def exec (s : σ) (es : List ε) : σ := es.foldl step s

@[simp] theorem exec_nil (s : σ) : exec step s [] = s := rfl

@[simp] theorem exec_cons (s : σ) (e : ε) (es : List ε) :
    exec step s (e :: es) = exec step (step s e) es := rfl

theorem exec_append (s : σ) (es es' : List ε) :
    exec step s (es ++ es') = exec step (exec step s es) es' :=
  List.foldl_append

theorem exec_snoc (s : σ) (es : List ε) (e : ε) :
    exec step s (es ++ [e]) = step (exec step s es) e := by
  rw [exec_append]; rfl

/-- Every step of the run satisfies `P`: the state before it and its event. -/
def Along (P : σ → ε → Prop) (s : σ) : List ε → Prop
  | [] => True
  | e :: es => P s e ∧ Along P (step s e) es

/-- Something marked a step of the run. -/
def Ever (mark : σ → ε → Prop) (s : σ) (es : List ε) : Prop :=
  ∃ pre e post, es = pre ++ e :: post ∧ mark (exec step s pre) e

/-- Something marked a step of the run, and no state from then on clears it.
An invariant that some steps break is a debt of the others: it holds unless
one of those steps came after the last state that restores it. -/
def Since (mark : σ → ε → Prop) (clear : σ → Prop) (s : σ) (es : List ε) : Prop :=
  ∃ pre e post, es = pre ++ e :: post ∧ mark (exec step s pre) e ∧
    ∀ mid, mid <+: post → ¬ clear (exec step s (pre ++ e :: mid))

/-- Something marked a step of the run, and no step since then dropped the mark. -/
def Last (mark drop : σ → ε → Prop) (s : σ) (es : List ε) : Prop :=
  ∃ pre e post, es = pre ++ e :: post ∧ mark (exec step s pre) e ∧
    ∀ mid e' rest, post = mid ++ e' :: rest → ¬ drop (exec step s (pre ++ e :: mid)) e'

/-- What the steps of the run yield, one after the other. -/
def collected (f : σ → ε → List τ) (s : σ) : List ε → List τ
  | [] => []
  | e :: es => f s e ++ collected f (step s e) es

/-- The last value that a step of the run yields. -/
def latest (f : σ → ε → Option τ) (s : σ) : List ε → Option τ
  | [] => none
  | e :: es => (latest f (step s e) es).or (f s e)

variable {step}

theorem snoc_eq_append_cons {es pre post : List ε} {e e' : ε} (h : es ++ [e] = pre ++ e' :: post) :
    post = [] ∧ es = pre ∧ e = e' ∨ ∃ post', post = post' ++ [e] ∧ es = pre ++ e' :: post' := by
  rcases List.eq_nil_or_concat post with rfl | ⟨post', last, rfl⟩
  · obtain ⟨rfl, hsingle⟩ := List.append_inj' h rfl
    exact Or.inl ⟨rfl, rfl, List.singleton_inj.mp hsingle⟩
  · rw [List.concat_eq_append, ← List.cons_append, ← List.append_assoc] at h
    obtain ⟨rfl, hsingle⟩ := List.append_inj' h rfl
    obtain rfl := List.singleton_inj.mp hsingle
    exact Or.inr ⟨post', List.concat_eq_append, rfl⟩

theorem snoc_prefix_snoc {es es' : List ε} {e e' : ε} (h : es' ++ [e'] <+: es ++ [e]) :
    es' = es ∧ e' = e ∨ es' ++ [e'] <+: es := by
  rcases List.prefix_concat_iff.mp h with heq | hbegin
  · obtain ⟨hes, he⟩ := List.append_inj' heq rfl
    exact Or.inl ⟨hes, List.singleton_inj.mp he⟩
  · exact Or.inr hbegin

/-! ## Invariants -/

theorem exec_inv {I : σ → Prop} (hstep : ∀ s e, I s → I (step s e)) {s : σ} (hs : I s)
    (es : List ε) : I (exec step s es) := by
  induction es generalizing s with
  | nil => exact hs
  | cons e es ih => exact ih (hstep s e hs)

/-- An invariant of the steps that satisfy `P` holds along the runs of such steps. -/
theorem Along.inv {P : σ → ε → Prop} {I : σ → Prop}
    (hstep : ∀ s e, I s → P s e → I (step s e)) {s : σ} {es : List ε}
    (hP : Along step P s es) (hs : I s) : I (exec step s es) := by
  induction es generalizing s with
  | nil => exact hs
  | cons e es ih => exact ih hP.2 (hstep s e hs hP.1)

/-! ## Laws of every step -/

theorem along_append {P : σ → ε → Prop} {s : σ} {es es' : List ε} :
    Along step P s (es ++ es') ↔ Along step P s es ∧ Along step P (exec step s es) es' := by
  induction es generalizing s with
  | nil => simp [Along]
  | cons e es ih => simp only [List.cons_append, Along, exec_cons, ih, and_assoc]

/-- Under an invariant that every step keeps, two laws that agree on each step
agree on each run. -/
theorem Along.congr {P Q : σ → ε → Prop} {I : σ → Prop}
    (hstep : ∀ s e, I s → I (step s e)) (h : ∀ s e, I s → (P s e ↔ Q s e))
    {s : σ} (hs : I s) (es : List ε) : Along step P s es ↔ Along step Q s es := by
  induction es generalizing s with
  | nil => rfl
  | cons e es ih => exact and_congr (h s e hs) (ih (hstep s e hs))

theorem along_of_forall {P : σ → ε → Prop} {s : σ} {es : List ε}
    (h : ∀ s, ∀ e ∈ es, P s e) : Along step P s es := by
  induction es generalizing s with
  | nil => trivial
  | cons e es ih =>
      exact ⟨h s e List.mem_cons_self, ih fun s' e' he' => h s' e' (List.mem_cons_of_mem _ he')⟩

/-- A law of every step, point by point. -/
theorem along_iff {P : σ → ε → Prop} {s : σ} {es : List ε} :
    Along step P s es ↔
      ∀ past e rest, es = past ++ e :: rest → P (exec step s past) e := by
  constructor
  · rintro h past e rest rfl
    exact (along_append.mp h).2.1
  · intro h
    induction es generalizing s with
    | nil => trivial
    | cons e es ih =>
        refine ⟨h [] e es rfl, ih fun past e' rest heq => ?_⟩
        exact h (e :: past) e' rest (by rw [heq, List.cons_append])

/-- When a step keeps an invariant exactly if it obeys a law, the invariant
holds all along a run exactly if every step obeys it. This is the shape of the
exact conditions: the law says of a single step what the invariant says of the
run. -/
theorem along_iff_prefixes {I : σ → Prop} {P : σ → ε → Prop} {A : ε → Prop}
    (hstep : ∀ s e, A e → I s → (I (step s e) ↔ P s e)) {s : σ} {es : List ε}
    (hA : ∀ e ∈ es, A e) (hs : I s) :
    (∀ pre post, es = pre ++ post → I (exec step s pre)) ↔ Along step P s es := by
  induction es generalizing s with
  | nil =>
      refine ⟨fun _ => trivial, fun _ pre post h => ?_⟩
      obtain ⟨rfl, -⟩ := List.append_eq_nil_iff.mp h.symm
      exact hs
  | cons e es ih =>
      have hiff := hstep s e (hA e List.mem_cons_self) hs
      have hA' : ∀ e' ∈ es, A e' := fun e' he' => hA e' (List.mem_cons_of_mem _ he')
      constructor
      · intro h
        have hnext : I (step s e) := h [e] es rfl
        exact ⟨hiff.mp hnext, (ih hA' hnext).mp fun pre post heq => h (e :: pre) post (heq ▸ rfl)⟩
      · rintro ⟨hlaw, halong⟩ pre post h
        cases pre with
        | nil => exact hs
        | cons e' pre =>
            obtain ⟨rfl, hrest⟩ := List.cons.inj h
            exact (ih hA' (hiff.mpr hlaw)).mpr halong pre post hrest

/-! ## Views -/

/-- A view whose next value only depends on its last one has a run of its own. -/
theorem exec_view {α : Type*} {view : σ → α} {own : α → ε → α} {P : σ → ε → Prop}
    (h : ∀ s e, P s e → view (step s e) = own (view s) e) {s : σ} {es : List ε}
    (hP : Along step P s es) : view (exec step s es) = exec own (view s) es := by
  induction es generalizing s with
  | nil => rfl
  | cons e es ih =>
      rw [exec_cons, exec_cons, ih hP.2, h s e hP.1]

/-- Events that change nothing may be left out of a run. -/
theorem exec_filter {p : ε → Bool} (h : ∀ s e, p e = false → step s e = s) (s : σ)
    (es : List ε) : exec step s (es.filter p) = exec step s es := by
  induction es generalizing s with
  | nil => rfl
  | cons e es ih =>
      cases hp : p e with
      | true => rw [List.filter_cons_of_pos hp, exec_cons, exec_cons, ih]
      | false => rw [List.filter_cons_of_neg (by simp [hp]), exec_cons, h s e hp, ih]

/-! ## Marked steps -/

theorem not_ever_nil {mark : σ → ε → Prop} {s : σ} : ¬ Ever step mark s [] := by
  rintro ⟨pre, e, post, heq, -⟩
  exact List.append_ne_nil_of_right_ne_nil pre (List.cons_ne_nil e post) heq.symm

theorem ever_snoc {mark : σ → ε → Prop} {s : σ} {es : List ε} {e : ε} :
    Ever step mark s (es ++ [e]) ↔ Ever step mark s es ∨ mark (exec step s es) e := by
  constructor
  · rintro ⟨pre, e', post, heq, hmark⟩
    rcases snoc_eq_append_cons heq with ⟨-, rfl, rfl⟩ | ⟨post', -, rfl⟩
    · exact Or.inr hmark
    · exact Or.inl ⟨pre, e', post', rfl, hmark⟩
  · rintro (⟨pre, e', post, rfl, hmark⟩ | hmark)
    · exact ⟨pre, e', post ++ [e], by simp, hmark⟩
    · exact ⟨es, e, [], rfl, hmark⟩

/-! ## Debts -/

/-- A debt survives one more step when its state does not clear it, and a
marked step opens a new one. -/
theorem since_snoc {mark : σ → ε → Prop} {clear : σ → Prop} {s : σ} {es : List ε} {e : ε} :
    Since step mark clear s (es ++ [e]) ↔
      ¬ clear (exec step s (es ++ [e])) ∧
        (mark (exec step s es) e ∨ Since step mark clear s es) := by
  constructor
  · rintro ⟨pre, e', post, heq, hmark, hclear⟩
    have hlast : ¬ clear (exec step s (es ++ [e])) := by
      rw [heq]; exact hclear post List.prefix_rfl
    refine ⟨hlast, ?_⟩
    rcases snoc_eq_append_cons heq with ⟨-, rfl, rfl⟩ | ⟨post', rfl, rfl⟩
    · exact Or.inl hmark
    · refine Or.inr ⟨pre, e', post', rfl, hmark, fun mid hmid => hclear mid ?_⟩
      exact hmid.trans (List.prefix_append ..)
  · rintro ⟨hlast, hmark | ⟨pre, e', post, rfl, hmark, hclear⟩⟩
    · refine ⟨es, e, [], rfl, hmark, fun mid hmid => ?_⟩
      rwa [List.prefix_nil.mp hmid]
    · refine ⟨pre, e', post ++ [e], by simp, hmark, fun mid hmid => ?_⟩
      rcases List.prefix_concat_iff.mp hmid with rfl | hmid'
      · simpa using hlast
      · exact hclear mid hmid'

/-! ## Last steps -/

theorem not_last_nil {mark drop : σ → ε → Prop} {s : σ} : ¬ Last step mark drop s [] := by
  rintro ⟨pre, e, post, heq, -⟩
  exact List.append_ne_nil_of_right_ne_nil pre (List.cons_ne_nil e post) heq.symm

/-- The last step is marked itself, or leaves the mark of an earlier one. -/
theorem last_snoc {mark drop : σ → ε → Prop} {s : σ} {es : List ε} {e : ε} :
    Last step mark drop s (es ++ [e]) ↔
      mark (exec step s es) e ∨ Last step mark drop s es ∧ ¬ drop (exec step s es) e := by
  constructor
  · rintro ⟨pre, e', post, heq, hmark, hdrop⟩
    rcases snoc_eq_append_cons heq with ⟨-, rfl, rfl⟩ | ⟨post', rfl, rfl⟩
    · exact Or.inl hmark
    · refine Or.inr ⟨⟨pre, e', post', rfl, hmark, fun mid e'' rest hpost => ?_⟩, ?_⟩
      · refine hdrop mid e'' (rest ++ [e]) ?_
        rw [hpost, List.append_assoc, List.cons_append]
      · exact hdrop post' e [] rfl
  · rintro (hmark | ⟨⟨pre, e', post, rfl, hmark, hdrop⟩, hlast⟩)
    · refine ⟨es, e, [], rfl, hmark, fun mid e' rest hpost => ?_⟩
      exact absurd hpost.symm (List.append_ne_nil_of_right_ne_nil mid (List.cons_ne_nil e' rest))
    · refine ⟨pre, e', post ++ [e], by simp, hmark, fun mid e'' rest hpost => ?_⟩
      rcases snoc_eq_append_cons hpost with ⟨-, rfl, rfl⟩ | ⟨rest', -, hrest⟩
      · exact hlast
      · exact hdrop mid e'' rest' hrest

theorem last_or_never (mark : σ → ε → Prop) (s : σ) (es : List ε) :
    Last step mark mark s es ∨
      ∀ pre e post, es = pre ++ e :: post → ¬ mark (exec step s pre) e := by
  induction es using List.reverseRecOn with
  | nil =>
      refine Or.inr fun pre e post h => ?_
      exact absurd h.symm (List.append_ne_nil_of_right_ne_nil pre (List.cons_ne_nil e post))
  | append_singleton es e ih =>
      rw [last_snoc]
      by_cases hmark : mark (exec step s es) e
      · exact Or.inl (Or.inl hmark)
      · refine ih.imp (fun hlast => Or.inr ⟨hlast, hmark⟩) fun hnever pre e' post h => ?_
        rcases snoc_eq_append_cons h with ⟨-, rfl, rfl⟩ | ⟨post', -, hes⟩
        · exact hmark
        · exact hnever pre e' post' hes

/-! ## Collected values -/

@[simp] theorem collected_nil (f : σ → ε → List τ) (s : σ) : collected step f s [] = [] := rfl

theorem collected_cons (f : σ → ε → List τ) (s : σ) (e : ε) (es : List ε) :
    collected step f s (e :: es) = f s e ++ collected step f (step s e) es := rfl

/-! ## Latest values -/

theorem latest_snoc (f : σ → ε → Option τ) (s : σ) (es : List ε) (e : ε) :
    latest step f s (es ++ [e]) = (f (exec step s es) e).or (latest step f s es) := by
  induction es generalizing s with
  | nil => simp [latest]
  | cons e' es ih => simp only [List.cons_append, latest, ih, exec_cons, Option.or_assoc]

end Lib
