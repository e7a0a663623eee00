import Mathlib.Data.List.Basic
import Mathlib.Tactic.Ring
import Mapapi.Lib.Runs

/-!
# Pages by a number

A list is read page by page, from its beginning, and the page is asked for by its number.
The list may change between two requests, and the number stays. Nothing is missed as long
as what is ahead of the reader stays ahead (`read_through`), as it does when new rows come
first. A reader who takes each page off the list before asking for the next one sees every
other page of it (`pageAt_skim`).
-/

namespace Lib

universe u v w

variable {α : Type u}

def pageAt (size n : Nat) (rows : List α) : List α := (rows.drop (n * size)).take size

def hasNext (size n : Nat) (rows : List α) : Bool := decide ((n + 1) * size < rows.length)

section Pages

theorem drop_eq_pageAt_append (size n : Nat) (rows : List α) :
    rows.drop (n * size) = pageAt size n rows ++ rows.drop ((n + 1) * size) := by
  have hnext : rows.drop ((n + 1) * size) = (rows.drop (n * size)).drop size := by
    rw [List.drop_drop, Nat.succ_mul]
  rw [hnext]
  exact (List.take_append_drop size _).symm

end Pages

/-! ## Reading while the list changes -/

/-- A reader of a list that a system shows: the state of the system, the number of the next
page and the rows that have been shown. -/
structure Reading (σ : Type v) (α : Type u) where
  source : σ
  next : Nat
  shown : List α

namespace Reading

variable {σ : Type v} {ε : Type w} (step : σ → ε → σ) (view : σ → List α) (size : Nat)

/-- The reader fetches a page (`none`), or the system takes a step. -/
def advance (r : Reading σ α) : Option ε → Reading σ α
  | none =>
    { r with next := r.next + 1, shown := r.shown ++ pageAt size r.next (view r.source) }
  | some e => { r with source := step r.source e }

/-- The rows that the reader has yet to come to. -/
def ahead (r : Reading σ α) : List α := (view r.source).drop (r.next * size)

/-- Whatever is ahead of the reader stays ahead. -/
def KeepsAhead (r : Reading σ α) : Option ε → Prop
  | none => True
  | some e => ∀ a ∈ r.ahead view size, a ∈ (view (step r.source e)).drop (r.next * size)

def start (s : σ) : Reading σ α := ⟨s, 0, []⟩

variable {step view size} {r : Reading σ α} {events : List (Option ε)} {s : σ} {e : ε}

theorem along_source {P : σ → ε → Prop} (h : Along step P r.source (events.filterMap id)) :
    Along (advance step view size) (fun r e => ∀ e' ∈ e, P r.source e') r events := by
  induction events generalizing r with
  | nil => trivial
  | cons e events ih =>
      cases e with
      | none => exact ⟨fun _ h => (nomatch h), @ih (r.advance step view size none) h⟩
      | some e =>
          refine ⟨fun e' he' => ?_, @ih (r.advance step view size (some e)) h.2⟩
          obtain rfl := Option.some.inj he'
          exact h.1

/-- New rows at the beginning leave everything ahead that is. -/
theorem keepsAhead_of_suffix (h : view r.source <:+ view (step r.source e)) :
    r.KeepsAhead step view size (some e) := by
  obtain ⟨new, hnew⟩ := h
  intro a ha
  rw [← hnew, List.drop_append]
  have hless : r.next * size - new.length ≤ r.next * size := Nat.sub_le ..
  exact List.mem_append_right _ (List.drop_subset_drop_left _ hless ha)

/-- A row that was ahead has been shown, or is still ahead. -/
theorem shown_or_ahead
    (hahead : Along (advance step view size) (KeepsAhead step view size) r events) {a : α}
    (ha : a ∈ r.ahead view size) :
    a ∈ (exec (advance step view size) r events).shown ∨
      a ∈ (exec (advance step view size) r events).ahead view size := by
  have hkeeps : ∀ (r : Reading σ α) (e : Option ε),
      (a ∈ r.shown ∨ a ∈ r.ahead view size) → r.KeepsAhead step view size e →
        (a ∈ (r.advance step view size e).shown ∨
          a ∈ (r.advance step view size e).ahead view size) := by
    intro r e h hkeep
    cases e with
    | none =>
        rcases h with h | h
        · exact Or.inl (List.mem_append_left _ h)
        · unfold ahead at h
          rw [drop_eq_pageAt_append, List.mem_append] at h
          exact h.imp_left fun hpage => List.mem_append_right _ hpage
    | some e => exact h.imp_right fun hahead => hkeep a hahead
  exact hahead.inv hkeeps (Or.inr ha)

/-- When the reader has come to the end, everything that was there at first
has been shown. Nothing is said of rows that have come later, nor that a row
is shown once only. -/
theorem read_through
    (hahead : Along (advance step view size) (KeepsAhead step view size) (start s) events)
    (hend : (exec (advance step view size) (start s) events).ahead view size = []) :
    ∀ a ∈ view s, a ∈ (exec (advance step view size) (start s) events).shown := by
  intro a ha
  have hstart : a ∈ (start s : Reading σ α).ahead view size := by
    simpa [ahead, start] using ha
  rcases shown_or_ahead hahead hstart with hshown | hleft
  · exact hshown
  · rw [hend] at hleft
    exact absurd hleft List.not_mem_nil

end Reading

/-! ## Taking off what has been shown -/

/-- The list without the page that has been shown. -/
def withoutPage (size n : Nat) (rows : List α) : List α :=
  rows.take (n * size) ++ rows.drop ((n + 1) * size)

theorem filter_not_mem_pageAt [DecidableEq α] {size n : Nat} {rows : List α}
    (h : rows.Nodup) : rows.filter (fun a => a ∉ pageAt size n rows) = withoutPage size n rows := by
  have hsplit : rows = rows.take (n * size) ++
      (pageAt size n rows ++ rows.drop ((n + 1) * size)) := by
    rw [← drop_eq_pageAt_append, List.take_append_drop]
  generalize hpage : pageAt size n rows = page at *
  unfold withoutPage
  generalize rows.take (n * size) = before at *
  generalize rows.drop ((n + 1) * size) = after at *
  subst hsplit
  obtain ⟨-, hafter, hbefore⟩ := List.nodup_append.mp h
  obtain ⟨-, -, hpages⟩ := List.nodup_append.mp hafter
  have hkept (l : List α) (hl : ∀ a ∈ l, a ∉ page) : l.filter (fun a => a ∉ page) = l :=
    List.filter_eq_self.mpr fun a ha => decide_eq_true (hl a ha)
  have hgone : page.filter (fun a => a ∉ page) = [] :=
    List.filter_eq_nil_iff.mpr fun a ha => by simpa using ha
  rw [List.filter_append, List.filter_append, hgone, List.nil_append, hkept before,
    hkept after]
  · exact fun a ha hmem => hpages a hmem a ha rfl
  · exact fun a ha hmem => hbefore a ha a (List.mem_append_left _ hmem) rfl

/-- The list once the first `n` pages have been shown, each of them taken off before the
next one is asked for. -/
def skim (size : Nat) (rows : List α) : Nat → List α
  | 0 => rows
  | n + 1 => withoutPage size n (skim size rows n)

/-- The pages with odd numbers, below `2 * n`: the reader has passed them. -/
def oddPages (size : Nat) (rows : List α) (n : Nat) : List α :=
  (List.range n).flatMap fun k => pageAt size (2 * k + 1) rows

theorem oddPages_succ (size : Nat) (rows : List α) (n : Nat) :
    oddPages size rows (n + 1) = oddPages size rows n ++ pageAt size (2 * n + 1) rows := by
  unfold oddPages
  rw [List.range_succ, List.flatMap_append, List.flatMap_singleton]

theorem length_oddPages_le (size : Nat) (rows : List α) (n : Nat) :
    (oddPages size rows n).length ≤ n * size := by
  induction n with
  | zero => simp [oddPages]
  | succ n ih =>
      have hpage : (pageAt size (2 * n + 1) rows).length ≤ size := List.length_take_le ..
      rw [oddPages_succ, List.length_append, Nat.succ_mul n size]
      omega

/-- The pages that the reader has passed are full, unless the list ends before. -/
theorem length_oddPages {size n : Nat} {rows : List α} (h : rows.drop (2 * n * size) ≠ []) :
    (oddPages size rows n).length = n * size := by
  induction n with
  | zero => simp [oddPages]
  | succ n ih =>
      have hlong : 2 * (n + 1) * size < rows.length := by
        by_contra hle
        exact h (List.drop_eq_nil_of_le (Nat.le_of_not_lt hle))
      have hsplit : 2 * (n + 1) * size = 2 * n * size + size + size := by ring
      have hodd : (2 * n + 1) * size = 2 * n * size + size := by ring
      have hprev : rows.drop (2 * n * size) ≠ [] := by
        rw [ne_eq, List.drop_eq_nil_iff]
        omega
      have hpage : (pageAt size (2 * n + 1) rows).length = size := by
        unfold pageAt
        rw [List.length_take, List.length_drop, hodd]
        omega
      rw [oddPages_succ, List.length_append, ih hprev, hpage, Nat.succ_mul n size]

/-- What is left of the list: the pages that have been passed, and what is ahead. -/
theorem skim_eq (size : Nat) (rows : List α) (n : Nat) :
    skim size rows n = oddPages size rows n ++ rows.drop (2 * n * size) := by
  induction n with
  | zero => simp [skim, oddPages]
  | succ n ih =>
      have hrest : (rows.drop (2 * n * size)).drop size =
          pageAt size (2 * n + 1) rows ++ rows.drop (2 * (n + 1) * size) := by
        have hpages := drop_eq_pageAt_append size (2 * n + 1) rows
        rw [show (2 * n + 1 + 1) * size = 2 * (n + 1) * size by ring] at hpages
        rw [List.drop_drop, ← hpages]
        congr 1
        ring
      have htail : (oddPages size rows n ++ rows.drop (2 * n * size)).drop ((n + 1) * size) =
          (rows.drop (2 * n * size)).drop size := by
        rw [List.drop_append, List.drop_eq_nil_of_le, List.nil_append]
        · by_cases hnil : rows.drop (2 * n * size) = []
          · rw [hnil, List.drop_nil, List.drop_nil]
          · rw [length_oddPages hnil, Nat.succ_mul, Nat.add_sub_cancel_left]
        · have := length_oddPages_le size rows n
          rw [Nat.succ_mul]
          omega
      have hhead : (oddPages size rows n ++ rows.drop (2 * n * size)).take (n * size) =
          oddPages size rows n := by
        by_cases hnil : rows.drop (2 * n * size) = []
        · rw [hnil, List.append_nil]
          exact List.take_of_length_le (length_oddPages_le ..)
        · rw [← length_oddPages hnil]
          exact List.take_left' rfl
      rw [skim, withoutPage, ih, htail, hhead, hrest, ← List.append_assoc, oddPages_succ]

/-- The reader is shown every other page. -/
theorem pageAt_skim (size : Nat) (rows : List α) (n : Nat) :
    pageAt size n (skim size rows n) = pageAt size (2 * n) rows := by
  unfold pageAt
  rw [skim_eq, List.drop_append, List.drop_eq_nil_of_le (length_oddPages_le ..),
    List.nil_append]
  by_cases hnil : rows.drop (2 * n * size) = []
  · rw [hnil, List.drop_nil]
  · rw [length_oddPages hnil, Nat.sub_self, List.drop_zero]

end Lib
