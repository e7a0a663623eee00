import Mathlib.Algebra.BigOperators.Group.Finset.Piecewise
import Mathlib.Algebra.BigOperators.Group.List.Basic

/-!
# Sums over selections

A report sums a quantity over the rows that a filter selects, in a query or in a loop.
`sumOver` is such a sum. It adds up when the filter is split: into two filters that
exclude each other (`sumOver_or`), or by a key, into one filter for each value and one
for the rows without any of them (`sumOver_groups`). A loop that adds to an accumulator
computes it (`foldl_sum`). Where each of finitely many parties has a share of a total,
the total follows the share of the one that changes (`sum_update_add`).
-/

namespace Lib

universe u v w

variable {ρ : Type u} {M : Type v} {κ : Type w} [AddCommMonoid M]

/-- The sum of `f` over the rows that satisfy `p`. -/
def sumOver (l : List ρ) (p : ρ → Bool) (f : ρ → M) : M := ((l.filter p).map f).sum

variable {l : List ρ} {p q : ρ → Bool} {f : ρ → M}

theorem sumOver_congr (h : ∀ r, p r = q r) : sumOver l p f = sumOver l q f := by
  rw [funext h]

theorem sumOver_cons (r : ρ) :
    sumOver (r :: l) p f = (if p r then f r else 0) + sumOver l p f := by
  unfold sumOver
  rw [List.filter_cons]
  split
  · rw [List.map_cons, List.sum_cons]
  · rw [zero_add]

theorem sumOver_or (h : ∀ r, p r = true → q r = false) :
    sumOver l (fun r => p r || q r) f = sumOver l p f + sumOver l q f := by
  induction l with
  | nil => exact (add_zero 0).symm
  | cons r rest ih =>
      rw [sumOver_cons, sumOver_cons, sumOver_cons, ih]
      cases hp : p r with
      | false => cases q r <;> simp [add_left_comm]
      | true => simp [h r hp, add_assoc]

/-- A sum over all rows is the sum of the sums over the groups, plus that over
the rows without a group. The keys have to be distinct, or a group is counted
twice. -/
theorem sumOver_groups [DecidableEq κ] {keys : List κ} (hkeys : keys.Nodup) (k : ρ → Option κ) :
    sumOver l p f =
      (keys.map fun x => sumOver l (fun r => p r && decide (k r = some x)) f).sum +
        sumOver l (fun r => p r && !(k r).any fun x => decide (x ∈ keys)) f := by
  induction keys generalizing p with
  | nil =>
      rw [List.map_nil, List.sum_nil, zero_add]
      exact sumOver_congr fun r => by simp
  | cons x rest ih =>
      obtain ⟨hx, hrest⟩ := List.nodup_cons.mp hkeys
      have hsplit : sumOver l p f = sumOver l (fun r => p r && decide (k r = some x)) f +
          sumOver l (fun r => p r && decide (k r ≠ some x)) f := by
        rw [← sumOver_or]
        · refine sumOver_congr fun r => ?_
          by_cases hr : k r = some x <;> simp [hr]
        · intro r hr
          simp only [Bool.and_eq_true, decide_eq_true_eq] at hr
          simp [hr.2]
      have hgroups : (rest.map fun y =>
            sumOver l (fun r => p r && decide (k r ≠ some x) && decide (k r = some y)) f) =
          rest.map fun y => sumOver l (fun r => p r && decide (k r = some y)) f := by
        refine List.map_congr_left fun y hy => sumOver_congr fun r => ?_
        by_cases hr : k r = some y
        · have hne : y ≠ x := fun heq => hx (heq ▸ hy)
          simp [hr, hne]
        · simp [hr]
      have hothers : sumOver l (fun r => p r && decide (k r ≠ some x) &&
            !(k r).any fun y => decide (y ∈ rest)) f =
          sumOver l (fun r => p r && !(k r).any fun y => decide (y ∈ x :: rest)) f := by
        refine sumOver_congr fun r => ?_
        cases hr : k r with
        | none => simp
        | some y => by_cases hy : y = x <;> simp [hy]
      rw [hsplit, @ih (fun r => p r && decide (k r ≠ some x)) hrest, hgroups, hothers,
        List.map_cons, List.sum_cons, add_assoc]

/-- A loop that adds what each row contributes. -/
theorem foldl_sum {τ : Type w} {step : τ → ρ → τ} {out : τ → M}
    (h : ∀ t r, out (step t r) = out t + f r) (t : τ) (l : List ρ) :
    out (l.foldl step t) = out t + (l.map f).sum := by
  induction l generalizing t with
  | nil => exact (add_zero _).symm
  | cons r rest ih => rw [List.foldl_cons, ih, h, List.map_cons, List.sum_cons, add_assoc]

/-- One of finitely many parties changes its share. -/
theorem sum_update_add {ι : Type u} {τ : Type w} [Fintype ι] [DecidableEq ι] (share : τ → M)
    (g : ι → τ) (i : ι) (t : τ) :
    ∑ j, share (Function.update g i t j) + share (g i) = ∑ j, share (g j) + share t := by
  have hupdate : (fun j => share (Function.update g i t j)) =
      Function.update (fun j => share (g j)) i (share t) :=
    funext fun j => Function.apply_update (fun _ => share) g i t j
  rw [hupdate, Finset.sum_update_of_mem (Finset.mem_univ i), Finset.sdiff_singleton_eq_erase,
    ← Finset.sum_erase_add _ _ (Finset.mem_univ i), add_comm (share t), add_right_comm]

end Lib
