/-
KaniNetwork.Base.Quorum — counting the members two quorums share.

Two sets of voters drawn from one list of members overlap in at least as
many as their sizes exceed the list. The list may name a member twice: it
then has fewer members than entries, which only helps.
-/
import Mathlib.Data.Finset.Card

namespace KaniNetwork

section

variable {α : Type} [DecidableEq α]

/-- The members that voted in both lists. -/
def commonVoters (members xs ys : List α) : Finset α :=
  members.toFinset.filter fun m => m ∈ xs ∧ m ∈ ys

theorem mem_commonVoters {members xs ys : List α} {m : α} :
    m ∈ commonVoters members xs ys ↔ m ∈ members ∧ m ∈ xs ∧ m ∈ ys := by
  simp [commonVoters]

/-- Voters that are all members, no two the same: what two such lists share
is the intersection of the sets they name. -/
theorem commonVoters_eq_inter {members xs ys : List α} (hxs : ∀ x ∈ xs, x ∈ members) :
    commonVoters members xs ys = xs.toFinset ∩ ys.toFinset := by
  ext m
  rw [mem_commonVoters, Finset.mem_inter, List.mem_toFinset, List.mem_toFinset]
  exact ⟨fun h => h.2, fun h => ⟨hxs m h.1, h⟩⟩

/-- Two lists of distinct voters share at least what they have together
beyond the number of members. -/
theorem length_add_length_le {members xs ys : List α} (hxs : ∀ x ∈ xs, x ∈ members)
    (hys : ∀ y ∈ ys, y ∈ members) (hxnd : xs.Nodup) (hynd : ys.Nodup) :
    xs.length + ys.length ≤ (commonVoters members xs ys).card + members.length := by
  have hunion : (xs.toFinset ∪ ys.toFinset).card ≤ members.length := by
    have hsub : xs.toFinset ∪ ys.toFinset ⊆ members.toFinset := by
      intro m hm
      rw [Finset.mem_union, List.mem_toFinset, List.mem_toFinset] at hm
      rw [List.mem_toFinset]
      exact hm.elim (hxs m) (hys m)
    exact (Finset.card_le_card hsub).trans (List.toFinset_card_le members)
  have hcount := Finset.card_union_add_card_inter xs.toFinset ys.toFinset
  rw [List.toFinset_card_of_nodup hxnd, List.toFinset_card_of_nodup hynd] at hcount
  rw [commonVoters_eq_inter hxs]
  omega

/-- With a quorum of `t` voters on each side, at least `2 t - n` of the `n`
members voted twice. -/
theorem two_mul_quorum_le {members xs ys : List α} {t : Nat} (hxs : ∀ x ∈ xs, x ∈ members)
    (hys : ∀ y ∈ ys, y ∈ members) (hxnd : xs.Nodup) (hynd : ys.Nodup) (hxt : t ≤ xs.length)
    (hyt : t ≤ ys.length) : 2 * t ≤ (commonVoters members xs ys).card + members.length := by
  have h := length_add_length_le hxs hys hxnd hynd
  omega

end

end KaniNetwork
