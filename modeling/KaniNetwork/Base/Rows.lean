/-
KaniNetwork.Base.Rows — the rows of a query, sorted and put together by key.

A sort that leaves no ties commutes with a filter, so a page of the sorted
rows that match is a page of the matches of the sorted rows. `group` files
a list of pairs under their keys; the values of a key come in the order of
the list.
-/
import KaniNetwork.Base.HashMap
import Mathlib.Data.List.Sort

namespace KaniNetwork

section

variable {α τ : Type} {r : α → α → Prop}

/-- A sort by one column and then another is total. -/
theorem total_lex [LinearOrder τ] [Std.Total r] (f : α → τ) :
    Std.Total fun a b => f a < f b ∨ (f a = f b ∧ r a b) := by
  constructor
  intro a b
  rcases lt_trichotomy (f a) (f b) with h | h | h
  · exact .inl (.inl h)
  · exact (Std.Total.total a b).imp (fun hr => .inr ⟨h, hr⟩) fun hr => .inr ⟨h.symm, hr⟩
  · exact .inr (.inl h)

theorem trans_lex [LinearOrder τ] [IsTrans α r] (f : α → τ) :
    IsTrans α fun a b => f a < f b ∨ (f a = f b ∧ r a b) := by
  constructor
  rintro a b c (hab | ⟨hab, hr⟩) (hbc | ⟨hbc, hr'⟩)
  · exact .inl (lt_trans hab hbc)
  · exact .inl (hbc ▸ hab)
  · exact .inl (hab ▸ hbc)
  · exact .inr ⟨hab.trans hbc, IsTrans.trans _ _ _ hr hr'⟩

variable [DecidableRel r] [Std.Total r] [IsTrans α r]

/-- Without ties, filtering and sorting commute. -/
theorem filter_insertionSort {l : List α} (p : α → Bool)
    (hties : ∀ a ∈ l, ∀ b ∈ l, r a b → r b a → a = b) :
    (l.insertionSort r).filter p = (l.filter p).insertionSort r := by
  have hperm : ((l.insertionSort r).filter p).Perm ((l.filter p).insertionSort r) :=
    ((List.perm_insertionSort r l).filter p).trans (List.perm_insertionSort r (l.filter p)).symm
  refine hperm.eq_of_pairwise ?_ ((List.pairwise_insertionSort r l).filter p)
    (List.pairwise_insertionSort r _)
  intro a b ha hb hab hba
  rw [List.mem_filter, List.mem_insertionSort] at ha
  rw [List.mem_insertionSort, List.mem_filter] at hb
  exact hties a ha.1 b hb.1 hab hba

end

section

variable {κ β : Type} [DecidableEq κ]

/-- The pairs of a list, each value after the earlier ones of its key. -/
def group (xs : List (κ × β)) : HashMap κ (List β) :=
  xs.foldl (fun m x => m.insert x.1 (m.getOr x.1 [] ++ [x.2])) ∅

theorem getOr_group (xs : List (κ × β)) (k : κ) :
    (group xs).getOr k [] = (xs.filter fun x => x.1 = k).map Prod.snd := by
  induction xs using List.reverseRecOn with
  | nil => exact HashMap.getOr_empty _ _
  | append_singleton xs x ih =>
    rw [group, List.foldl_append, List.foldl_cons, List.foldl_nil, ← group, HashMap.getOr_insert,
      List.filter_append, List.map_append, ← ih]
    by_cases hk : k = x.1
    · subst hk
      simp
    · simp [hk, Ne.symm hk]

end

end KaniNetwork
