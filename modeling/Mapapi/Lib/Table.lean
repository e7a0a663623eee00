import Mathlib.Data.List.Nodup

/-!
# Keyed tables

A table is a list of rows no two of which have the same key. The key is read
off the row (`Keyed`), so a row and the place where it is stored cannot
disagree, and uniqueness is a field of the structure: no operation can build
a table with two rows of one key.

Every operation is characterised by what it does to the lookup `get?`, one
lemma each (`get?_update`, `get?_put`, ...). The list of rows itself only
matters to code that iterates over a selection of it (`select`).

Deletions and bulk updates act on the rows that satisfy a predicate, as a
query does. Where a later computation selects rows again, the last group of
lemmas says what the operation has left of the selection.
-/

namespace Lib

universe u v

/-- A row type whose rows carry their own key. -/
class Keyed (ρ : Type u) (κ : outParam (Type v)) where
  key : ρ → κ

export Keyed (key)

/-- Rows without two of one key, in insertion order. -/
structure Table (ρ : Type u) {κ : Type v} [Keyed ρ κ] where
  rows : List ρ
  nodup : (rows.map key).Nodup

namespace Table

variable {ρ : Type u} {κ : Type v} [Keyed ρ κ]

def empty : Table ρ := ⟨[], List.nodup_nil⟩

def select (t : Table ρ) (p : ρ → Bool) : List ρ := t.rows.filter p

/-- Rewrite every row, keeping its key. -/
def mapRows (t : Table ρ) (g : ρ → ρ) (hg : ∀ r, key (g r) = key r) : Table ρ :=
  ⟨t.rows.map g, by
    have hmap : (t.rows.map g).map key = t.rows.map key := by
      simp [List.map_map, Function.comp_def, hg]
    rw [hmap]
    exact t.nodup⟩

def updateWhere (t : Table ρ) (p : ρ → Bool) (f : ρ → ρ)
    (hf : ∀ r, key (f r) = key r := by intros; rfl) : Table ρ :=
  t.mapRows (fun r => if p r then f r else r) fun r => by
    by_cases h : p r <;> simp [h, hf]

def eraseWhere (t : Table ρ) (p : ρ → Bool) : Table ρ :=
  ⟨t.rows.filter fun r => !p r,
    t.nodup.sublist (List.filter_sublist.map key)⟩

theorem select_eraseWhere (t : Table ρ) {p q : ρ → Bool}
    (h : ∀ r ∈ t.rows, p r = true → q r = false) : (t.eraseWhere q).select p = t.select p := by
  unfold eraseWhere select
  rw [List.filter_filter]
  refine List.filter_congr fun r hr => ?_
  cases hp : p r with
  | false => rfl
  | true => rw [h r hr hp]; rfl

/-- A selection of rewritten rows, when the rewriting does not change what is selected. -/
theorem length_select_mapRows (t : Table ρ) (g : ρ → ρ) (hg : ∀ r, key (g r) = key r)
    {p : ρ → Bool} (hp : ∀ r, p (g r) = p r) :
    ((t.mapRows g hg).select p).length = (t.select p).length := by
  have hcongr : p ∘ g = p := funext hp
  unfold mapRows select
  rw [List.filter_map, List.length_map, hcongr]

/-- A selection is unchanged when only rows outside of it are rewritten, and stay outside. -/
theorem select_updateWhere (t : Table ρ) {p q : ρ → Bool} {f : ρ → ρ}
    (hf : ∀ r, key (f r) = key r)
    (h : ∀ r ∈ t.rows, q r = true → p r = false ∧ p (f r) = false) :
    (t.updateWhere q f hf).select p = t.select p := by
  unfold updateWhere mapRows select
  simp only [List.filter_map]
  have hsame : ∀ r ∈ t.rows, (p ∘ fun r => if q r then f r else r) r = p r := by
    intro r hr
    simp only [Function.comp_apply]
    split
    · rename_i hq
      exact (h r hr hq).2.trans (h r hr hq).1.symm
    · rfl
  rw [List.filter_congr hsame]
  refine (List.map_congr_left fun r hr => ?_).trans (List.map_id _)
  obtain ⟨hmem, hp⟩ := List.mem_filter.mp hr
  refine if_neg fun hq => ?_
  rw [(h r hmem hq).1] at hp
  cases hp

/-- A selection of rewritten rows is the rewritten selection, when the rewriting does not
change what is selected. -/
theorem select_updateWhere_map (t : Table ρ) {p q : ρ → Bool} {f : ρ → ρ}
    (hf : ∀ r, key (f r) = key r) (hp : ∀ r, p (f r) = p r) :
    (t.updateWhere q f hf).select p = (t.select p).map fun r => if q r then f r else r := by
  unfold updateWhere mapRows select
  rw [List.filter_map]
  congr 1
  refine List.filter_congr fun r _ => ?_
  simp only [Function.comp_apply]
  split
  · exact hp r
  · rfl

theorem nodup_select (t : Table ρ) (p : ρ → Bool) : ((t.select p).map key).Nodup :=
  t.nodup.sublist (List.filter_sublist.map key)

/-- The rows that `f` keeps, in another shape that still shows their key, have
distinct keys. -/
theorem nodup_filterMap {β : Type} (t : Table ρ) {f : ρ → Option β} {key' : β → κ}
    (h : ∀ r b, f r = some b → key' b = key r) : ((t.rows.filterMap f).map key').Nodup := by
  have hsub (l : List ρ) : ((l.filterMap f).map key').Sublist (l.map key) := by
    induction l with
    | nil => exact List.Sublist.slnil
    | cons r rest ih =>
        cases hr : f r with
        | none =>
            rw [List.filterMap_cons_none hr]
            exact ih.cons (key r)
        | some b =>
            rw [List.filterMap_cons_some hr, List.map_cons, List.map_cons, h r b hr]
            exact ih.cons_cons (key r)
  exact t.nodup.sublist (hsub t.rows)

variable [DecidableEq κ]

def get? (t : Table ρ) (k : κ) : Option ρ := t.rows.find? fun r => decide (key r = k)

def update (t : Table ρ) (k : κ) (f : ρ → ρ)
    (hf : ∀ r, key (f r) = key r := by intros; rfl) : Table ρ :=
  t.updateWhere (fun r => decide (key r = k)) f hf

def erase (t : Table ρ) (k : κ) : Table ρ := t.eraseWhere fun r => decide (key r = k)

/-- Store a row under its key: in the place of the row that has this key, or
at the end. -/
def put (t : Table ρ) (r : ρ) : Table ρ :=
  if h : key r ∈ t.rows.map key then
    t.mapRows (fun r' => if key r' = key r then r else r') fun r' => by
      by_cases hr : key r' = key r <;> simp [hr]
  else
    ⟨t.rows ++ [r], by
      rw [List.map_append, List.nodup_append]
      refine ⟨t.nodup, by simp, fun k hk k' hk' => ?_⟩
      obtain rfl := List.mem_singleton.mp hk'
      rintro rfl
      exact h hk⟩

/-! ## Lookups -/

theorem get?_of_mem {t : Table ρ} {r : ρ} (h : r ∈ t.rows) : t.get? (key r) = some r := by
  have hsome : (t.get? (key r)).isSome := List.find?_isSome.mpr ⟨r, h, by simp⟩
  obtain ⟨r', hr'⟩ := Option.isSome_iff_exists.mp hsome
  have hkey : key r' = key r := by simpa using List.find?_some hr'
  rw [hr', List.inj_on_of_nodup_map t.nodup (List.mem_of_find?_eq_some hr') h hkey]

theorem get?_eq_some {t : Table ρ} {k : κ} {r : ρ} :
    t.get? k = some r ↔ r ∈ t.rows ∧ key r = k := by
  constructor
  · intro h
    have hkey : key r = k := by simpa using List.find?_some h
    exact ⟨List.mem_of_find?_eq_some h, hkey⟩
  · rintro ⟨hmem, rfl⟩
    exact get?_of_mem hmem

theorem key_of_get? {t : Table ρ} {k : κ} {r : ρ} (h : t.get? k = some r) : key r = k :=
  (get?_eq_some.mp h).2

theorem mem_of_get? {t : Table ρ} {k : κ} {r : ρ} (h : t.get? k = some r) : r ∈ t.rows :=
  (get?_eq_some.mp h).1

theorem get?_eq_none {t : Table ρ} {k : κ} : t.get? k = none ↔ k ∉ t.rows.map key := by
  rw [Option.eq_none_iff_forall_ne_some]
  simp only [List.mem_map, not_exists, ne_eq, get?_eq_some]

theorem mem_select {t : Table ρ} {p : ρ → Bool} {r : ρ} :
    r ∈ t.select p ↔ t.get? (key r) = some r ∧ p r = true := by
  rw [select, List.mem_filter, get?_eq_some]
  simp

/-! ## What each operation does to a lookup -/

theorem get?_mapRows (t : Table ρ) (g : ρ → ρ) (hg : ∀ r, key (g r) = key r) (k : κ) :
    (t.mapRows g hg).get? k = (t.get? k).map g := by
  simp only [get?, mapRows, List.find?_map, Function.comp_def, hg]

theorem get?_updateWhere (t : Table ρ) (p : ρ → Bool) (f : ρ → ρ)
    (hf : ∀ r, key (f r) = key r) (k : κ) :
    (t.updateWhere p f hf).get? k = (t.get? k).map fun r => if p r then f r else r :=
  t.get?_mapRows _ _ k

theorem get?_update (t : Table ρ) (k : κ) (f : ρ → ρ) (hf : ∀ r, key (f r) = key r)
    (k' : κ) :
    (t.update k f hf).get? k' = if k' = k then (t.get? k').map f else t.get? k' := by
  rw [update, get?_updateWhere]
  cases h : t.get? k' with
  | none => simp
  | some r => simp only [Option.map_some, decide_eq_true_eq, key_of_get? h]; split <;> rfl

theorem get?_eraseWhere (t : Table ρ) (p : ρ → Bool) (k : κ) :
    (t.eraseWhere p).get? k = (t.get? k).filter fun r => !p r := by
  ext r
  simp only [get?_eq_some, eraseWhere, List.mem_filter, Option.filter_eq_some_iff]
  tauto

theorem get?_erase (t : Table ρ) (k k' : κ) :
    (t.erase k).get? k' = if k' = k then none else t.get? k' := by
  rw [erase, get?_eraseWhere]
  cases h : t.get? k' with
  | none => simp
  | some r => simp only [Option.filter_some, key_of_get? h]; split <;> simp_all

/-- Reading after writing: the row under its own key, and every other row as
before. A row that is new to the table goes to its end, and one that replaces
another stays in its place, which is why the two cases are proved apart. -/
theorem get?_put (t : Table ρ) (r : ρ) (k : κ) :
    (t.put r).get? k = if k = key r then some r else t.get? k := by
  unfold put
  split
  · rename_i h
    rw [get?_mapRows]
    cases hk : t.get? k with
    | none =>
        have hne : k ≠ key r := fun heq => get?_eq_none.mp hk (heq ▸ h)
        simp [hne]
    | some r' => simp only [Option.map_some, key_of_get? hk]; split <;> rfl
  · rename_i h
    ext r'
    simp only [get?_eq_some, List.mem_append, List.mem_singleton]
    by_cases hk : k = key r
    · subst hk
      simp only [if_true, Option.some.injEq]
      constructor
      · rintro ⟨hmem | rfl, hkey⟩
        · exact absurd (List.mem_map.mpr ⟨r', hmem, hkey⟩) h
        · rfl
      · rintro rfl
        exact ⟨Or.inr rfl, rfl⟩
    · simp only [if_neg hk, get?_eq_some]
      constructor
      · rintro ⟨hmem | rfl, hkey⟩
        · exact ⟨hmem, hkey⟩
        · exact absurd hkey.symm hk
      · rintro ⟨hmem, hkey⟩
        exact ⟨Or.inl hmem, hkey⟩

theorem rows_put (t : Table ρ) (r : ρ) (h : t.get? (key r) = none) :
    (t.put r).rows = t.rows ++ [r] := by
  unfold put
  rw [dif_neg (get?_eq_none.mp h)]

/-! ## What an operation leaves of a selection -/

/-- A selection that has neither the old row nor the new one is unchanged. -/
theorem select_put (t : Table ρ) (r : ρ) {p : ρ → Bool} (hnew : p r = false)
    (hold : ∀ r', t.get? (key r) = some r' → p r' = false) :
    (t.put r).select p = t.select p := by
  unfold put select
  split
  · simp only [mapRows, List.filter_map]
    have hsame : ∀ r' ∈ t.rows, (p ∘ fun r' => if key r' = key r then r else r') r' = p r' := by
      intro r' hr'
      simp only [Function.comp_apply]
      split
      · rename_i hkey
        rw [hnew, hold r' (hkey ▸ get?_of_mem hr')]
      · rfl
    rw [List.filter_congr hsame]
    refine (List.map_congr_left fun r' hr' => ?_).trans (List.map_id _)
    obtain ⟨hmem, hp⟩ := List.mem_filter.mp hr'
    refine if_neg fun hkey => ?_
    rw [hold r' (hkey ▸ get?_of_mem hmem)] at hp
    cases hp
  · simp [hnew]

theorem select_erase (t : Table ρ) (k : κ) {p : ρ → Bool}
    (hold : ∀ r, t.get? k = some r → p r = false) : (t.erase k).select p = t.select p := by
  refine t.select_eraseWhere fun r hr hp => decide_eq_false fun hkey => ?_
  rw [hold r (hkey ▸ get?_of_mem hr)] at hp
  cases hp

/-- Tables with the same selection have the same rows there. -/
theorem get?_eq_some_of_select {t t' : Table ρ} {p : ρ → Bool} (h : t'.select p = t.select p)
    {k : κ} {r : ρ} (hp : p r = true) : t'.get? k = some r ↔ t.get? k = some r := by
  have hmem : r ∈ t'.rows ↔ r ∈ t.rows := by
    have hsel : r ∈ t'.select p ↔ r ∈ t.select p := by rw [h]
    unfold select at hsel
    simpa [hp] using hsel
  rw [get?_eq_some, get?_eq_some, hmem]

theorem put_self {t : Table ρ} {r : ρ} (h : t.get? (key r) = some r) : t.put r = t := by
  have hmem : key r ∈ t.rows.map key := List.mem_map.mpr ⟨r, mem_of_get? h, rfl⟩
  unfold put
  rw [dif_pos hmem]
  have hrows : t.rows.map (fun r' => if key r' = key r then r else r') = t.rows := by
    refine (List.map_congr_left fun r' hr' => ?_).trans (List.map_id _)
    split
    · rename_i hkey
      have hget := get?_of_mem hr'
      rw [hkey, h] at hget
      exact Option.some.inj hget
    · rfl
  cases t
  exact (mk.injEq ..).mpr hrows

theorem erase_put_self {t : Table ρ} {r : ρ} (h : t.get? (key r) = none) :
    (t.put r).erase (key r) = t := by
  have hkept : t.rows.filter (fun r' => !decide (key r' = key r)) = t.rows := by
    refine List.filter_eq_self.mpr fun r' hr' => ?_
    have hne : key r' ≠ key r := fun heq => get?_eq_none.mp h (List.mem_map.mpr ⟨r', hr', heq⟩)
    simp [hne]
  have hrows : (t.put r).rows.filter (fun r' => !decide (key r' = key r)) = t.rows := by
    rw [rows_put t r h, List.filter_append, hkept]
    simp
  cases t
  exact (mk.injEq ..).mpr hrows

theorem mem_put_self (t : Table ρ) (r : ρ) : r ∈ (t.put r).rows :=
  mem_of_get? ((t.get?_put r (key r)).trans (if_pos rfl))

theorem mem_put_iff {t : Table ρ} {r r' : ρ} :
    r' ∈ (t.put r).rows ↔ r' = r ∨ r' ∈ t.rows ∧ key r' ≠ key r := by
  constructor
  · intro h
    have hget := get?_of_mem h
    rw [get?_put] at hget
    split at hget
    · exact Or.inl (Option.some.inj hget).symm
    · rename_i hkey
      exact Or.inr ⟨mem_of_get? hget, hkey⟩
  · rintro (rfl | ⟨hmem, hkey⟩)
    · exact mem_put_self t r'
    · exact mem_of_get? ((t.get?_put r (key r')).trans ((if_neg hkey).trans (get?_of_mem hmem)))

theorem mem_put {t : Table ρ} {r r' : ρ} (h : r' ∈ (t.put r).rows) : r' = r ∨ r' ∈ t.rows :=
  (mem_put_iff.mp h).imp_right And.left

end Table

/-! ## Fresh numeric keys -/

/-- A number above every number of a list. -/
def above (l : List Nat) : Nat := l.foldr max 0 + 1

theorem above_not_mem (l : List Nat) : above l ∉ l := by
  have hle : ∀ n ∈ l, n ≤ l.foldr max 0 := by
    intro n hn
    induction l with
    | nil => cases hn
    | cons m rest ih =>
        rw [List.foldr_cons]
        rcases List.mem_cons.mp hn with rfl | hn'
        · exact Nat.le_max_left ..
        · exact Nat.le_trans (ih hn') (Nat.le_max_right ..)
  intro hmem
  exact Nat.not_succ_le_self _ (hle _ hmem)

/-- A key that no row of the table has. -/
def Table.freshKey {ρ : Type u} [Keyed ρ Nat] (t : Table ρ) : Nat := above (t.rows.map key)

theorem Table.get?_freshKey {ρ : Type u} [Keyed ρ Nat] (t : Table ρ) :
    t.get? t.freshKey = none :=
  get?_eq_none.mpr (above_not_mem _)

end Lib
