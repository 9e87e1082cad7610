/-
KaniNetwork.Base.Paging — reading a list page by page.

A page skips `offset` items and takes `limit`. Pages at the offsets `0`,
`limit`, `2 * limit`, … follow one another, and the first empty one is past
the end.

A reader that asks for one item over the limit learns whether there is a
further page. `Following` is such a reader of a list that grows at its end
between the reads; whatever the growth, its pages miss nothing and repeat
nothing (`Following.complete`).
-/
import Mathlib.Data.List.Basic

namespace KaniNetwork

section

variable {α : Type}

def page (limit offset : Nat) (xs : List α) : List α := (xs.drop offset).take limit

/-- The first `n` pages are the first `n * limit` items. -/
theorem flatMap_pages (limit n : Nat) (xs : List α) :
    (List.range n).flatMap (fun k => page limit (k * limit) xs) = xs.take (n * limit) := by
  induction n with
  | zero => simp
  | succ n ih =>
    rw [List.range_succ, List.flatMap_append, ih, Nat.succ_mul, List.take_add]
    simp [page]

theorem page_eq_nil_iff {limit : Nat} (hlimit : 0 < limit) (offset : Nat) (xs : List α) :
    page limit offset xs = [] ↔ xs.length ≤ offset := by
  simp only [page, List.take_eq_nil_iff, List.drop_eq_nil_iff]
  omega

/-- The pages before the first empty one are the whole list. -/
theorem flatMap_pages_of_empty {limit n : Nat} {xs : List α} (hlimit : 0 < limit)
    (hempty : page limit (n * limit) xs = []) :
    (List.range n).flatMap (fun k => page limit (k * limit) xs) = xs := by
  rw [flatMap_pages]
  exact List.take_of_length_le ((page_eq_nil_iff hlimit _ _).mp hempty)

/-- There is an empty page. -/
theorem exists_empty_page {limit : Nat} (hlimit : 0 < limit) (xs : List α) :
    ∃ n, page limit (n * limit) xs = [] := by
  refine ⟨xs.length, ?_⟩
  rw [page_eq_nil_iff hlimit]
  exact Nat.le_mul_of_pos_right _ hlimit

/-! ## One item over the limit -/

theorem take_page_succ (limit offset : Nat) (xs : List α) :
    (page (limit + 1) offset xs).take limit = page limit offset xs := by
  rw [page, page, List.take_take, Nat.min_eq_left (Nat.le_succ limit)]

theorem lt_length_page_succ_iff (limit offset : Nat) (xs : List α) :
    limit < (page (limit + 1) offset xs).length ↔ offset + limit < xs.length := by
  simp only [page, List.length_take, List.length_drop]
  omega

theorem page_succ_of_not_lt {limit offset : Nat} {xs : List α} (h : xs.length ≤ offset + limit) :
    page (limit + 1) offset xs = page limit offset xs := by
  have hlen : (xs.drop offset).length ≤ limit := by
    rw [List.length_drop]
    omega
  rw [page, page, List.take_of_length_le hlen, List.take_of_length_le (by omega)]

theorem length_page_of_lt {limit offset : Nat} {xs : List α} (h : offset + limit ≤ xs.length) :
    (page limit offset xs).length = limit := by
  rw [page, List.length_take, List.length_drop]
  omega

/-- What was read before an offset, and the page at it, are read together. -/
theorem append_page {read xs : List α} (h : read <+: xs) (limit : Nat) :
    read ++ page limit read.length xs = xs.take (read.length + limit) := by
  obtain ⟨rest, rfl⟩ := h
  rw [page, List.drop_left, List.take_length_add_append]

/-! ## A growing list -/

/-- Reading a growing list: the list at the last read, the pages so far,
and whether that read saw more. -/
inductive Following (limit : Nat) : List α → List (List α) → Prop → Prop
  | first (xs : List α) : Following limit xs [page limit 0 xs] (limit < xs.length)
  | next {xs ys : List α} {pages : List (List α)} {more : Prop} (h : Following limit xs pages more)
    (hmore : more) (hgrow : xs <+: ys) :
    Following limit ys (pages ++ [page limit (pages.length * limit) ys])
      (pages.length * limit + limit < ys.length)

/-- No gap and no duplicate: the pages are the beginning of the list, and
all of it when the reader saw no more; a page before another one is full. -/
structure Complete (limit : Nat) (xs : List α) (pages : List (List α)) (more : Prop) : Prop where
  start : pages.flatten <+: xs
  full : ∀ p ∈ pages.dropLast, p.length = limit
  whole : ¬ more → pages.flatten = xs

namespace Following

variable {limit : Nat} {xs : List α} {pages : List (List α)} {more : Prop}

/-- The reader sees more exactly when the list goes on behind its pages. -/
theorem more_iff (h : Following limit xs pages more) :
    more ↔ pages.length * limit < xs.length := by
  cases h with
  | first => rw [List.length_singleton, Nat.one_mul]
  | next => rw [List.length_append, List.length_singleton, Nat.succ_mul]

/-- The pages so far are one take off the list. -/
theorem flatten_eq (h : Following limit xs pages more) :
    pages.flatten = xs.take (pages.length * limit) := by
  induction h with
  | first xs => simp [page]
  | @next xs ys pages more h hmore hgrow ih =>
    have hlt := h.more_iff.mp hmore
    have hlength : pages.flatten.length = pages.length * limit := by
      rw [ih, List.length_take]
      omega
    have hstart : pages.flatten <+: ys := by
      rw [ih]
      exact (List.take_prefix _ xs).trans hgrow
    have happend := append_page hstart limit
    rw [hlength] at happend
    rw [List.flatten_append, List.flatten_singleton, happend, List.length_append,
      List.length_singleton, Nat.succ_mul]

theorem full_of_more (h : Following limit xs pages more) (hmore : more) :
    ∀ p ∈ pages, p.length = limit := by
  induction h with
  | first xs =>
    intro p hp
    rw [List.mem_singleton.mp hp]
    exact length_page_of_lt (by omega)
  | next h hbefore hgrow ih =>
    intro p hp
    rcases List.mem_append.mp hp with hp | hp
    · exact ih hbefore p hp
    · rw [List.mem_singleton.mp hp]
      exact length_page_of_lt (by omega)

/-- **Paging is complete.** Whatever is appended between the reads. -/
theorem complete (h : Following limit xs pages more) : Complete limit xs pages more where
  start := by
    rw [h.flatten_eq]
    exact List.take_prefix _ xs
  full := by
    cases h with
    | first xs =>
      intro p hp
      cases hp
    | next h hmore hgrow =>
      rw [List.dropLast_concat]
      exact h.full_of_more hmore
  whole := by
    intro hnone
    rw [h.flatten_eq]
    exact List.take_of_length_le (Nat.le_of_not_lt fun hlt => hnone (h.more_iff.mpr hlt))

end Following

end

end KaniNetwork
