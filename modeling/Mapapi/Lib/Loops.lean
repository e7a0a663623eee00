import Mathlib.Data.List.Nodup

/-!
# Loops over a list

A loop that treats the elements of a list one after the other is a fold. Three
rules say what it does to a component `π` of the state:

- `foldl_inv`: what every iteration preserves, the loop preserves;
- `foldl_never`: when no iteration touches the component, it stays;
- `foldl_once`: when each iteration touches only the component of its own key
  and the keys are distinct, the component of a key is changed once, by the
  element of this key.

The last two hold under an invariant `I` of the loop.
-/

namespace Lib

universe u v w

variable {σ : Type u} {ρ : Type v} {β : Type w}

theorem foldl_inv (body : σ → ρ → σ) (Q : σ → Prop) (l : List ρ)
    (h : ∀ s, ∀ r ∈ l, Q s → Q (body s r)) {s : σ} (hs : Q s) : Q (l.foldl body s) := by
  induction l generalizing s with
  | nil => exact hs
  | cons r rest ih =>
      refine ih (fun s' r' hr' => h s' r' (List.mem_cons_of_mem r hr')) ?_
      exact h s r (List.mem_cons_self ..) hs

section Component

variable {I : σ → Prop} (body : σ → ρ → σ) (π : σ → β) {l : List ρ} {s : σ}

theorem foldl_never (hI : ∀ s r, I s → I (body s r))
    (h : ∀ s, ∀ r ∈ l, I s → π (body s r) = π s) (hs : I s) : π (l.foldl body s) = π s := by
  induction l generalizing s with
  | nil => rfl
  | cons r rest ih =>
      rw [List.foldl_cons, ih (fun s' r' hr' => h s' r' (List.mem_cons_of_mem r hr')) (hI s r hs)]
      exact h s r (List.mem_cons_self ..) hs

/-- In a fold over distinct keys, the element of a key finds the component of its
key as it was at the start, and leaves it as it will be at the end. -/
theorem foldl_at {κ : Type} (key : ρ → κ) {b : ρ} (hI : ∀ s r, I s → I (body s r))
    (hothers : ∀ s, ∀ r ∈ l, I s → key r ≠ key b → π (body s r) = π s)
    (hl : (l.map key).Nodup) (hb : b ∈ l) (hs : I s) :
    ∃ s₁, I s₁ ∧ π s₁ = π s ∧ π (l.foldl body s) = π (body s₁ b) := by
  induction l generalizing s with
  | nil => cases hb
  | cons r rest ih =>
      rw [List.map_cons, List.nodup_cons] at hl
      have hothers' : ∀ s, ∀ r ∈ rest, I s → key r ≠ key b → π (body s r) = π s :=
        fun s' r' hr' => hothers s' r' (List.mem_cons_of_mem r hr')
      rw [List.foldl_cons]
      rcases List.mem_cons.mp hb with rfl | hb'
      · have hrest : ∀ r ∈ rest, key r ≠ key b := fun r' hr' heq =>
          hl.1 (heq ▸ List.mem_map.mpr ⟨r', hr', rfl⟩)
        refine ⟨s, hs, rfl, ?_⟩
        exact foldl_never body π hI (fun s' r' hr' hs' => hothers' s' r' hr' hs' (hrest r' hr'))
          (hI s b hs)
      · have hne : key r ≠ key b := fun heq => hl.1 (heq ▸ List.mem_map.mpr ⟨b, hb', rfl⟩)
        obtain ⟨s₁, hs₁, hsame, hend⟩ := ih hothers' hl.2 hb' (hI s r hs)
        exact ⟨s₁, hs₁, hsame.trans (hothers s r (List.mem_cons_self ..) hs hne), hend⟩

/-- A fold over distinct keys changes the component of a key once. -/
theorem foldl_once {κ : Type} (key : ρ → κ) {g : β → β} {b : ρ}
    (hI : ∀ s r, I s → I (body s r))
    (hown : ∀ s, I s → π (body s b) = g (π s))
    (hothers : ∀ s, ∀ r ∈ l, I s → key r ≠ key b → π (body s r) = π s)
    (hl : (l.map key).Nodup) (hb : b ∈ l) (hs : I s) : π (l.foldl body s) = g (π s) := by
  obtain ⟨s₁, hs₁, hsame, hend⟩ := foldl_at body π key hI hothers hl hb hs
  rw [hend, hown s₁ hs₁, hsame]

end Component

end Lib
