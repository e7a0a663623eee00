import Mathlib.Logic.Function.Basic
import Mathlib.Data.List.Basic
import Mapapi.Lib.Runs

/-!
# Replicas

A source tells its replicas of the changes of its view, and a replica applies them one
after the other to a copy. The copy and the changes that wait amount to the view
exactly as long as the source tells of every step (`foldl_collected_iff`).

A keyed view has a row, or none, for each key, and a change is the key with the row
that it has now. The last change of a key decides what the replica has for it
(`replay_congr`), so changes that the copy has seen already do no harm when they are
applied again (`replay_replay`). Two copies that get the same changes agree in the end
exactly if they agreed on what no change is about (`replay_eq_iff`).
-/

namespace Lib

universe u v w z

/-! ## Keyed views -/

/-- What becomes of a key: a row, or none any more. -/
structure Change (κ : Type u) (ρ : Type v) where
  key : κ
  row : Option ρ

variable {κ : Type u} {ρ : Type v} [DecidableEq κ]

def Change.apply (copy : κ → Option ρ) (c : Change κ ρ) : κ → Option ρ :=
  Function.update copy c.key c.row

def replay (copy : κ → Option ρ) (cs : List (Change κ ρ)) : κ → Option ρ :=
  cs.foldl Change.apply copy

def Untouched (k : κ) (cs : List (Change κ ρ)) : Prop := ∀ c ∈ cs, c.key ≠ k

section Replay

variable {copy copy' : κ → Option ρ} {cs cs' : List (Change κ ρ)} {c : Change κ ρ} {k : κ}

@[simp] theorem replay_nil : replay copy [] = copy := rfl

@[simp] theorem replay_cons : replay copy (c :: cs) = replay (c.apply copy) cs := rfl

theorem replay_append : replay copy (cs ++ cs') = replay (replay copy cs) cs' :=
  List.foldl_append

theorem replay_untouched (h : Untouched k cs) : replay copy cs k = copy k := by
  induction cs generalizing copy with
  | nil => rfl
  | cons c cs ih =>
      have hrest : Untouched k cs := fun c' hc' => h c' (List.mem_cons_of_mem _ hc')
      rw [replay_cons, ih hrest]
      exact Function.update_of_ne (h c List.mem_cons_self).symm ..

/-- What a change is about does not depend on what there was. -/
theorem replay_congr (h : ¬ Untouched k cs) : replay copy cs k = replay copy' cs k := by
  induction cs generalizing copy copy' with
  | nil => exact absurd (fun c hc => absurd hc List.not_mem_nil) h
  | cons c cs ih =>
      rw [replay_cons, replay_cons]
      by_cases hrest : Untouched k cs
      · have hkey : c.key = k := by
          by_contra hne
          refine h fun c' hc' => ?_
          rcases List.mem_cons.mp hc' with rfl | hc'
          · exact hne
          · exact hrest c' hc'
        rw [replay_untouched hrest, replay_untouched hrest, ← hkey]
        simp [Change.apply]
      · exact ih hrest

/-- Copies agree after the same changes if they agree on what no change is about. -/
theorem replay_eq_iff :
    replay copy cs = replay copy' cs ↔ ∀ k, Untouched k cs → copy k = copy' k := by
  constructor
  · intro h k hk
    have hrow := congrFun h k
    rwa [replay_untouched hk, replay_untouched hk] at hrow
  · intro h
    funext k
    by_cases hk : Untouched k cs
    · rw [replay_untouched hk, replay_untouched hk, h k hk]
    · exact replay_congr hk

/-- Changes that have been applied, and are the latest, may be applied again. -/
theorem replay_replay :
    replay (replay copy (cs ++ cs')) cs' = replay copy (cs ++ cs') := by
  have hagree : replay (replay copy (cs ++ cs')) cs' = replay (replay copy cs) cs' := by
    refine replay_eq_iff.mpr fun k hk => ?_
    rw [replay_append, replay_untouched hk]
  rw [hagree, replay_append]

end Replay

/-! ## Sources -/

section Sources

variable {σ : Type w} {ε : Type z} {α δ : Type*} {step : σ → ε → σ} {apply : α → δ → α}
  {view : σ → α} {changes : σ → ε → List δ} {s : σ} {e : ε} {es : List ε}

/-- The source tells of the step: its view moves by the changes that it sends. -/
def Tells (apply : α → δ → α) (view : σ → α) (changes : σ → ε → List δ) (step : σ → ε → σ)
    (s : σ) (e : ε) : Prop :=
  view (step s e) = (changes s e).foldl apply (view s)

theorem view_exec (h : Along step (Tells apply view changes step) s es) :
    view (exec step s es) = (collected step changes s es).foldl apply (view s) := by
  induction es generalizing s with
  | nil => rfl
  | cons e es ih =>
      have hfirst : view (step s e) = (changes s e).foldl apply (view s) := h.1
      rw [exec_cons, ih h.2, hfirst, collected_cons, List.foldl_append]

/-- A copy that is right but for the changes that wait stays right exactly as long as
every step is told of. -/
theorem foldl_collected_iff {copy : α} {waiting : List δ}
    (hstart : waiting.foldl apply copy = view s) :
    (∀ pre post, es = pre ++ post →
        (waiting ++ collected step changes s pre).foldl apply copy = view (exec step s pre)) ↔
      Along step (Tells apply view changes step) s es := by
  induction es generalizing s waiting with
  | nil =>
      refine ⟨fun _ => trivial, fun _ pre post h => ?_⟩
      obtain ⟨rfl, -⟩ := List.append_eq_nil_iff.mp h.symm
      rw [collected_nil, List.append_nil, hstart, exec_nil]
  | cons e es ih =>
      have hnext : Tells apply view changes step s e ↔
          (waiting ++ changes s e).foldl apply copy = view (step s e) := by
        rw [List.foldl_append, hstart]
        exact eq_comm
      constructor
      · intro h
        have hfirst := h [e] es rfl
        rw [collected_cons, collected_nil, List.append_nil] at hfirst
        refine ⟨hnext.mpr hfirst, (ih hfirst).mp fun pre post heq => ?_⟩
        have hpre := h (e :: pre) post (by rw [heq, List.cons_append])
        rwa [collected_cons, ← List.append_assoc] at hpre
      · rintro ⟨hfirst, hrest⟩ pre post h
        cases pre with
        | nil => rw [collected_nil, List.append_nil, hstart, exec_nil]
        | cons e' pre =>
            obtain ⟨rfl, heq⟩ := List.cons.inj h
            rw [collected_cons, ← List.append_assoc]
            exact (ih (hnext.mp hfirst)).mpr hrest pre post heq

end Sources

end Lib
