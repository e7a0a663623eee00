import Mathlib.Data.List.Basic

/-!
# Outer joins

What a `LEFT OUTER JOIN` gives for one row of its left side: every matching row
of the right side, or a single null when there is none. A filter that is a
disjunction over several such joins asks for one combination of joined rows.
Since no join loses the left row, a disjunct is met as soon as one row of its
own join meets it.
-/

namespace Lib

variable {α : Type}

/-- The right side of an outer join. -/
def leftJoin : List α → List (Option α)
  | [] => [none]
  | a :: l => (a :: l).map some

theorem exists_mem_leftJoin (l : List α) : ∃ row, row ∈ leftJoin l := by
  cases l with
  | nil => exact ⟨none, List.mem_singleton_self _⟩
  | cons a l => exact ⟨some a, List.mem_cons_self ..⟩

theorem some_mem_leftJoin {l : List α} {a : α} : some a ∈ leftJoin l ↔ a ∈ l := by
  cases l with
  | nil => simp [leftJoin]
  | cons b l => simp [leftJoin]

/-- A condition on the joined row, which a null does not meet. -/
theorem exists_leftJoin {l : List α} {p : α → Bool} :
    (∃ row ∈ leftJoin l, row.any p = true) ↔ ∃ a ∈ l, p a = true := by
  constructor
  · rintro ⟨row, hrow, hp⟩
    cases row with
    | none => cases hp
    | some a => exact ⟨a, some_mem_leftJoin.mp hrow, hp⟩
  · rintro ⟨a, ha, hp⟩
    exact ⟨some a, some_mem_leftJoin.mpr ha, hp⟩

/-- Three joins, and a disjunction of a condition on the left row and of one on
each joined row. -/
theorem exists_leftJoin_or {β γ : Type} {l : List α} {m : List β} {n : List γ} {c : Prop}
    {p : α → Bool} {q : β → Bool} {r : γ → Bool} :
    (∃ x ∈ leftJoin l, ∃ y ∈ leftJoin m, ∃ z ∈ leftJoin n,
        c ∨ x.any p = true ∨ y.any q = true ∨ z.any r = true) ↔
      c ∨ (∃ a ∈ l, p a = true) ∨ (∃ b ∈ m, q b = true) ∨ ∃ d ∈ n, r d = true := by
  obtain ⟨x₀, hx₀⟩ := exists_mem_leftJoin l
  obtain ⟨y₀, hy₀⟩ := exists_mem_leftJoin m
  obtain ⟨z₀, hz₀⟩ := exists_mem_leftJoin n
  rw [← @exists_leftJoin α l p, ← @exists_leftJoin β m q, ← @exists_leftJoin γ n r]
  constructor
  · rintro ⟨x, hx, y, hy, z, hz, hc | hp | hq | hr⟩
    · exact Or.inl hc
    · exact Or.inr (Or.inl ⟨x, hx, hp⟩)
    · exact Or.inr (Or.inr (Or.inl ⟨y, hy, hq⟩))
    · exact Or.inr (Or.inr (Or.inr ⟨z, hz, hr⟩))
  · rintro (hc | ⟨x, hx, hp⟩ | ⟨y, hy, hq⟩ | ⟨z, hz, hr⟩)
    · exact ⟨x₀, hx₀, y₀, hy₀, z₀, hz₀, Or.inl hc⟩
    · exact ⟨x, hx, y₀, hy₀, z₀, hz₀, Or.inr (Or.inl hp)⟩
    · exact ⟨x₀, hx₀, y, hy, z₀, hz₀, Or.inr (Or.inr (Or.inl hq))⟩
    · exact ⟨x₀, hx₀, y₀, hy₀, z, hz, Or.inr (Or.inr (Or.inr hr))⟩

end Lib
