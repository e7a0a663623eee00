import Mathlib.Data.List.Sort
import Mathlib.Data.Set.Card

/-!
# Pages by a cursor

A list of rows is read from its newest row to its oldest, page by page: a page holds
the greatest rows below the row the last page began with. The rows are compared by a
key in a linear order, and no two rows of the list have the same key.

New rows may arrive between two requests. Each page is exact for the rows at its own
request (`newestPage_spec`), so that the pages put together are ascending and hold
every row of the first request once (`follow_complete`).
-/

namespace Lib

universe u v w

variable {α : Type u} {κ : Type v} [LinearOrder κ] {τ : Type w}

def ascending (f : α → κ) (rows : List α) : List α := rows.insertionSort fun a b => f a ≤ f b

def descending (f : α → κ) (rows : List α) : List α := rows.insertionSort fun a b => f b ≤ f a

/-- The rows of a page in ascending order, whether there are older ones, and the
cursor for them. -/
structure Page (α : Type u) (τ : Type w) where
  rows : List α
  hasMore : Bool
  next : Option τ

/-- The `limit` greatest rows. One row more is fetched, to see whether it is there. -/
def newestPage (f : α → κ) (token : α → τ) (rows : List α) (limit : Nat) : Page α τ :=
  let fetched := (descending f rows).take (limit + 1)
  let hasMore := decide (limit < fetched.length)
  let shown := fetched.take limit
  { rows := shown.reverse
    hasMore := hasMore
    next := if hasMore then shown.getLast?.map token else none }

/-- Ask for the newest page, then for the next one, until there are no more: the pages
put together, unless an answer is no page or `requests` are not enough. -/
def follow (ask : Nat → Option τ → Option (Page α τ)) :
    Nat → Nat → Option τ → Option (List α)
  | 0, _, _ => none
  | requests + 1, n, cursor =>
    match ask n cursor with
    | none => none
    | some page =>
      if page.hasMore then (follow ask requests (n + 1) page.next).map (· ++ page.rows)
      else some page.rows

/-! ## Sorted rows -/

section Sorted

variable {f : α → κ} {rows : List α}

theorem mem_ascending {a : α} : a ∈ ascending f rows ↔ a ∈ rows :=
  List.mem_insertionSort _

theorem mem_descending {a : α} : a ∈ descending f rows ↔ a ∈ rows :=
  List.mem_insertionSort _

theorem pairwise_ascending (hkeys : (rows.map f).Nodup) :
    (ascending f rows).Pairwise fun a b => f a < f b := by
  have : Std.Total fun a b => f a ≤ f b := ⟨fun a b => le_total (f a) (f b)⟩
  have : IsTrans α fun a b => f a ≤ f b := ⟨fun _ _ _ => le_trans⟩
  have hsorted := List.pairwise_insertionSort (fun a b => f a ≤ f b) rows
  have hne : (ascending f rows).Pairwise fun a b => f a ≠ f b :=
    List.pairwise_map.mp (((List.perm_insertionSort _ rows).map f).nodup_iff.mpr hkeys)
  exact (hsorted.and hne).imp fun h => lt_of_le_of_ne h.1 h.2

theorem pairwise_descending (hkeys : (rows.map f).Nodup) :
    (descending f rows).Pairwise fun a b => f b < f a := by
  have : Std.Total fun a b => f b ≤ f a := ⟨fun a b => le_total (f b) (f a)⟩
  have : IsTrans α fun a b => f b ≤ f a := ⟨fun _ _ _ h h' => le_trans h' h⟩
  have hsorted := List.pairwise_insertionSort (fun a b => f b ≤ f a) rows
  have hne : (descending f rows).Pairwise fun a b => f a ≠ f b :=
    List.pairwise_map.mp (((List.perm_insertionSort _ rows).map f).nodup_iff.mpr hkeys)
  exact (hsorted.and hne).imp fun h => lt_of_le_of_ne h.1 (Ne.symm h.2)

theorem eq_of_ascending {l l' : List α} (hl : l.Pairwise fun a b => f a < f b)
    (hl' : l'.Pairwise fun a b => f a < f b) (hmem : ∀ a, a ∈ l ↔ a ∈ l') : l = l' := by
  have : Std.Antisymm fun a b => f a < f b := ⟨fun _ _ h h' => absurd h' (lt_asymm h)⟩
  have : Std.Irrefl fun a b => f a < f b := ⟨fun a => lt_irrefl (f a)⟩
  exact hl.eq_of_mem_iff hl' hmem

theorem ascending_append_last {a : α} (hkeys : (rows.map f).Nodup)
    (hlast : ∀ b ∈ rows, f b < f a) : ascending f (rows ++ [a]) = ascending f rows ++ [a] := by
  have hnew : ((rows ++ [a]).map f).Nodup := by
    rw [List.map_append, List.nodup_append]
    refine ⟨hkeys, List.nodup_singleton _, ?_⟩
    rintro x hx y hy rfl
    obtain ⟨b, hb, rfl⟩ := List.mem_map.mp hx
    exact absurd (hlast b hb) (by rw [List.mem_singleton.mp hy]; exact lt_irrefl _)
  refine eq_of_ascending (pairwise_ascending hnew) ?_ fun b => ?_
  · rw [List.pairwise_append]
    refine ⟨pairwise_ascending hkeys, List.pairwise_singleton .., fun b hb c hc => ?_⟩
    rw [List.mem_singleton.mp hc]
    exact hlast b (mem_ascending.mp hb)
  · rw [mem_ascending, List.mem_append, List.mem_append, mem_ascending]

end Sorted

/-! ## One page -/

section Page

variable {f : α → κ} {token : α → τ} {rows : List α} {limit : Nat}

/-- The page is ascending and shows the newest rows; if there are older ones, its cursor
names the oldest row shown. -/
structure Shows (f : α → κ) (token : α → τ) (rows : List α) (page : Page α τ) : Prop where
  ascending : page.rows.Pairwise fun a b => f a < f b
  sound : ∀ a ∈ page.rows, a ∈ rows
  complete : page.hasMore = false → ∀ a ∈ rows, a ∈ page.rows
  cursor : page.hasMore = true → ∃ oldest ∈ rows, page.next = some (token oldest) ∧
    (∀ a ∈ page.rows, f oldest ≤ f a) ∧ ∀ a ∈ rows, a ∈ page.rows ∨ f a < f oldest

/-- What is fetched in excess shows only in `hasMore`. -/
theorem newestPage_eq :
    newestPage f token rows limit =
      { rows := ((descending f rows).take limit).reverse
        hasMore := decide (limit < (descending f rows).length)
        next := if decide (limit < (descending f rows).length) then
          ((descending f rows).take limit).getLast?.map token else none } := by
  have hshown : ((descending f rows).take (limit + 1)).take limit =
      (descending f rows).take limit := by
    rw [List.take_take, Nat.min_eq_left (Nat.le_succ limit)]
  have hmore : (limit < ((descending f rows).take (limit + 1)).length) =
      (limit < (descending f rows).length) := by
    rw [List.length_take, eq_iff_iff]
    omega
  unfold newestPage
  simp only [hshown, hmore]

/-- The first page: the newest rows, in order, and a cursor at the oldest of
them exactly if some are left out. -/
theorem newestPage_shows (hkeys : (rows.map f).Nodup) (hlimit : 0 < limit) :
    Shows f token rows (newestPage f token rows limit) := by
  rw [newestPage_eq]
  have hsorted := pairwise_descending hkeys
  have hmem : ∀ a, a ∈ descending f rows ↔ a ∈ rows := fun a => mem_descending
  generalize descending f rows = all at hsorted hmem
  have hsplit := List.take_append_drop limit all
  rw [← hsplit] at hsorted
  obtain ⟨hshown, -, hacross⟩ := List.pairwise_append.mp hsorted
  refine ⟨List.pairwise_reverse.mpr hshown, fun a ha => ?_, fun hmore a ha => ?_, fun hmore => ?_⟩
  · exact (hmem a).mp (List.mem_of_mem_take (List.mem_reverse.mp ha))
  · have hle : all.length ≤ limit := by simpa using hmore
    rw [List.mem_reverse, List.take_of_length_le hle]
    exact (hmem a).mpr ha
  · dsimp only at hmore ⊢
    rw [if_pos hmore]
    have hlt : limit < all.length := of_decide_eq_true hmore
    rcases List.eq_nil_or_concat (all.take limit) with hnil | ⟨newer, oldest, hconcat⟩
    · have hlength := congrArg List.length hnil
      rw [List.length_take, List.length_nil] at hlength
      omega
    · rw [List.concat_eq_append] at hconcat
      rw [hconcat] at hshown hacross hsplit ⊢
      have holdest : oldest ∈ newer ++ [oldest] := by simp
      refine ⟨oldest, ?_, by simp, fun a ha => ?_, fun a ha => ?_⟩
      · rw [← hmem, ← hsplit]
        exact List.mem_append_left _ holdest
      · rcases List.mem_append.mp (List.mem_reverse.mp ha) with ha | ha
        · exact le_of_lt ((List.pairwise_append.mp hshown).2.2 a ha oldest (by simp))
        · rw [List.mem_singleton.mp ha]
      · rw [← hmem, ← hsplit] at ha
        rcases List.mem_append.mp ha with ha | ha
        · exact Or.inl (List.mem_reverse.mpr ha)
        · exact Or.inr (hacross oldest holdest a ha)

end Page

/-! ## All pages -/

section Follow

variable {f : α → κ} {token : α → τ} {base : Nat → List α} {limit : Nat}
  {ask : Nat → Option τ → Option (Page α τ)}

/-- The requests are answered with the pages of the rows at that time: of all of them,
or of those below the row that the cursor names. -/
structure Serves (f : α → κ) (token : α → τ) (base : Nat → List α)
    (ask : Nat → Option τ → Option (Page α τ)) : Prop where
  first : ∀ n, ∃ page, ask n none = some page ∧ Shows f token (base n) page
  next : ∀ n, ∀ c ∈ base n, ∃ page, ask n (some (token c)) = some page ∧
    Shows f token ((base n).filter fun a => f a < f c) page

/-- The pages after a cursor end, and show everything below it that there was
when the cursor was taken. The induction is on the number of rows below the
cursor that any of the tables ever has: each page moves the cursor down, and
new rows come above. -/
theorem follow_below (hserves : Serves f token base ask)
    (hgrows : ∀ n, ∀ a ∈ base n, a ∈ base (n + 1)) {n : Nat} {c : α} (hc : c ∈ base n)
    (hfinite : {a | (∃ m, a ∈ base m) ∧ f a < f c}.Finite) :
    ∃ requests all, follow ask requests n (some (token c)) = some all ∧
      (all.Pairwise fun a b => f a < f b) ∧
      (∀ a ∈ all, f a < f c ∧ ∃ m, a ∈ base m) ∧ ∀ a ∈ base n, f a < f c → a ∈ all := by
  induction hcard : {a | (∃ m, a ∈ base m) ∧ f a < f c}.ncard using Nat.strong_induction_on
    generalizing n c with
  | _ k ih =>
      subst hcard
      obtain ⟨page, hask, hshows⟩ := hserves.next n c hc
      have hrows : ∀ a ∈ page.rows, a ∈ base n ∧ f a < f c := by
        intro a ha
        simpa using hshows.sound a ha
      cases hmore : page.hasMore with
      | false =>
          refine ⟨1, page.rows, by simp [follow, hask, hmore], hshows.ascending,
            fun a ha => ⟨(hrows a ha).2, n, (hrows a ha).1⟩, fun a ha hlt => ?_⟩
          exact hshows.complete hmore a (by simpa using ⟨ha, hlt⟩)
      | true =>
          obtain ⟨oldest, holdest, hnext, hleast, hrest⟩ := hshows.cursor hmore
          obtain ⟨hstored, hbelow⟩ : oldest ∈ base n ∧ f oldest < f c := by simpa using holdest
          have hsubset : {a | (∃ m, a ∈ base m) ∧ f a < f oldest} ⊂
              {a | (∃ m, a ∈ base m) ∧ f a < f c} := by
            refine ⟨fun a ha => ⟨ha.1, ha.2.trans hbelow⟩, fun h => ?_⟩
            have hself : oldest ∈ {a | (∃ m, a ∈ base m) ∧ f a < f oldest} :=
              h ⟨⟨n, hstored⟩, hbelow⟩
            exact lt_irrefl _ hself.2
          obtain ⟨requests, older, hfollow, hsorted, hsound, hcomplete⟩ :=
            ih _ (Set.ncard_lt_ncard hsubset hfinite) (hgrows n _ hstored)
              (hfinite.subset hsubset.subset) rfl
          refine ⟨requests + 1, older ++ page.rows, by simp [follow, hask, hmore, hnext, hfollow],
            ?_, ?_, ?_⟩
          · refine List.pairwise_append.mpr ⟨hsorted, hshows.ascending, fun a ha b hb => ?_⟩
            exact (hsound a ha).1.trans_le (hleast b hb)
          · intro a ha
            rcases List.mem_append.mp ha with ha | ha
            · exact ⟨(hsound a ha).1.trans hbelow, (hsound a ha).2⟩
            · exact ⟨(hrows a ha).2, n, (hrows a ha).1⟩
          · intro a ha hlt
            rcases hrest a (by simpa using ⟨ha, hlt⟩) with hpage | holder
            · exact List.mem_append_right _ hpage
            · exact List.mem_append_left _ (hcomplete a (hgrows n a ha) holder)

/-- Following the cursors ends, and finds every row of the first request, if finitely
many rows ever come before a row of the first request. -/
theorem follow_complete (hserves : Serves f token base ask)
    (hgrows : ∀ n, ∀ a ∈ base n, a ∈ base (n + 1))
    (hfinite : {a | (∃ n, a ∈ base n) ∧ ∃ b ∈ base 0, f a < f b}.Finite) :
    ∃ requests all, follow ask requests 0 none = some all ∧
      (all.Pairwise fun a b => f a < f b) ∧ (∀ a ∈ all, ∃ n, a ∈ base n) ∧
      ∀ a ∈ base 0, a ∈ all := by
  obtain ⟨page, hask, hshows⟩ := hserves.first 0
  cases hmore : page.hasMore with
  | false =>
      exact ⟨1, page.rows, by simp [follow, hask, hmore], hshows.ascending,
        fun a ha => ⟨0, hshows.sound a ha⟩, hshows.complete hmore⟩
  | true =>
      obtain ⟨oldest, holdest, hnext, hleast, hrest⟩ := hshows.cursor hmore
      have hbelow : {a | (∃ n, a ∈ base n) ∧ f a < f oldest}.Finite :=
        hfinite.subset fun a ha => ⟨ha.1, oldest, holdest, ha.2⟩
      obtain ⟨requests, older, hfollow, hsorted, hsound, hcomplete⟩ :=
        follow_below hserves hgrows (hgrows 0 oldest holdest) hbelow
      refine ⟨requests + 1, older ++ page.rows, by simp [follow, hask, hmore, hnext, hfollow],
        ?_, ?_, ?_⟩
      · refine List.pairwise_append.mpr ⟨hsorted, hshows.ascending, fun a ha b hb => ?_⟩
        exact (hsound a ha).1.trans_le (hleast b hb)
      · intro a ha
        rcases List.mem_append.mp ha with ha | ha
        · exact (hsound a ha).2
        · exact ⟨0, hshows.sound a ha⟩
      · intro a ha
        rcases hrest a ha with hpage | holder
        · exact List.mem_append_right _ hpage
        · exact List.mem_append_left _ (hcomplete a (hgrows 0 a ha) holder)

end Follow

end Lib
