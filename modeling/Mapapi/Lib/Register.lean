import Mapapi.Lib.Runs

/-!
# Registers

A register has a value for each key. Some steps set the value of a key, and say so
(`sets`). At every moment of a run each value is the one that was set last, or the one
at the start, exactly if no step changes a value that it does not set (`lastSet_iff`).
-/

namespace Lib

universe u v

variable {σ : Type u} {ε : Type v} {κ β : Type*} (step : σ → ε → σ) (value : σ → κ → β)
  (sets : κ → β → σ → ε → Prop)

/-- What was set last for the key, or what was there when nothing has been set. -/
def LastSet (s : σ) (es : List ε) (k : κ) (v : β) : Prop :=
  Last step (sets k v) (fun s e => ∃ w, sets k w s e) s es ∨
    value s k = v ∧ Along step (fun s e => ¬ ∃ w, sets k w s e) s es

variable {step value sets} {s : σ} {es : List ε} {e : ε} {k : κ} {v w : β}

theorem lastSet_nil : LastSet step value sets s [] k v ↔ value s k = v := by
  constructor
  · rintro (hlast | ⟨hstart, -⟩)
    · exact absurd hlast not_last_nil
    · exact hstart
  · exact fun hstart => Or.inr ⟨hstart, trivial⟩

theorem lastSet_snoc :
    LastSet step value sets s (es ++ [e]) k v ↔
      sets k v (exec step s es) e ∨
        LastSet step value sets s es k v ∧ ¬ ∃ w, sets k w (exec step s es) e := by
  unfold LastSet
  rw [last_snoc, along_append]
  constructor
  · rintro ((hset | ⟨hlast, hnone⟩) | ⟨hstart, hnever, hnone, -⟩)
    · exact Or.inl hset
    · exact Or.inr ⟨Or.inl hlast, hnone⟩
    · exact Or.inr ⟨Or.inr ⟨hstart, hnever⟩, hnone⟩
  · rintro (hset | ⟨hlast | ⟨hstart, hnever⟩, hnone⟩)
    · exact Or.inl (Or.inl hset)
    · exact Or.inl (Or.inr ⟨hlast, hnone⟩)
    · exact Or.inr ⟨hstart, hnever, hnone, trivial⟩

section Sets

variable (hsets : ∀ s e k v, sets k v s e → value (step s e) k = v)

include hsets

theorem lastSet_unique (hv : LastSet step value sets s es k v)
    (hw : LastSet step value sets s es k w) : v = w := by
  induction es using List.reverseRecOn with
  | nil => exact (lastSet_nil.mp hv).symm.trans (lastSet_nil.mp hw)
  | append_singleton es e ih =>
      rcases lastSet_snoc.mp hv with hset | ⟨hlast, hnone⟩
      · rcases lastSet_snoc.mp hw with hset' | ⟨-, hnone⟩
        · exact (hsets _ _ _ _ hset).symm.trans (hsets _ _ _ _ hset')
        · exact absurd ⟨v, hset⟩ hnone
      · rcases lastSet_snoc.mp hw with hset' | ⟨hlast', -⟩
        · exact absurd ⟨w, hset'⟩ hnone
        · exact ih hlast hlast'

/-- The register has what was set last, all along a run, exactly if no step changes a
value that it does not set. -/
theorem lastSet_iff :
    (∀ pre post, es = pre ++ post → ∀ k,
        LastSet step value sets s pre k (value (exec step s pre) k)) ↔
      Along step (fun s e => ∀ k, (∃ v, sets k v s e) ∨ value (step s e) k = value s k) s es := by
  rw [along_iff]
  constructor
  · intro h pre e post heq k
    have hbefore := h pre (e :: post) heq k
    have hafter := h (pre ++ [e]) post (by rw [heq, List.append_assoc]; rfl) k
    rcases lastSet_snoc.mp hafter with hset | ⟨hlast, -⟩
    · exact Or.inl ⟨_, hset⟩
    · rw [exec_snoc] at hlast
      exact Or.inr (lastSet_unique hsets hlast hbefore)
  · intro h pre post heq k
    induction pre using List.reverseRecOn generalizing post with
    | nil => exact lastSet_nil.mpr rfl
    | append_singleton pre e ih =>
        rw [List.append_assoc, List.singleton_append] at heq
        rw [exec_snoc, lastSet_snoc]
        by_cases hset : ∃ v, sets k v (exec step s pre) e
        · obtain ⟨v, hv⟩ := hset
          exact Or.inl (hsets _ _ _ _ hv ▸ hv)
        · rcases h pre e post heq k with hset' | hkept
          · exact absurd hset' hset
          · exact Or.inr ⟨hkept ▸ ih (e :: post) heq, hset⟩

end Sets

end Lib
