/-
KaniNetwork.Base.Tally — totals by key.

A tally adds an amount to the entry of its key, from zero where there is
none: `*entry(k).or_default() += a`. At a key it holds the sum of the
amounts of that key (`amount_addAll`), and it lists a key exactly when an
item has it (`isSome_get_addAll`), so tallies of the parts of a list
`merge` into the tally of the whole (`merge_addAll`), and the amounts at a
list of keys that covers the items add up to the whole (`sum_amount`).
-/
import Mathlib.Algebra.BigOperators.Group.List.Basic
import Mathlib.Algebra.GroupWithZero.Nat
import Mathlib.Data.List.Sort
import KaniNetwork.Base.BTreeMap

namespace KaniNetwork

namespace BTreeMap

/-! ## Maps by their reads -/

section

variable {K V : Type} [LinearOrder K] {m m' : BTreeMap K V}

theorem nodup_keys (m : BTreeMap K V) : (m.entries.map Prod.fst).Nodup := m.sorted.nodup

theorem mem_entries_iff {k : K} {v : V} : (k, v) ∈ m.entries ↔ m.get k = some v := by
  unfold get
  constructor
  · intro h
    cases hfind : m.entries.find? (fun e => e.1 = k) with
    | none => exact absurd (List.find?_eq_none.mp hfind _ h) (by simp)
    | some e =>
      have hk : e.1 = k := by simpa using List.find?_some hfind
      have he : e = (k, v) :=
        List.inj_on_of_nodup_map m.nodup_keys (List.mem_of_find?_eq_some hfind) h hk
      rw [he]
      rfl
  · intro h
    obtain ⟨e, hfind, rfl⟩ := Option.map_eq_some_iff.mp h
    have hk : e.1 = k := by simpa using List.find?_some hfind
    rw [← hk]
    exact List.mem_of_find?_eq_some hfind

theorem isSome_get_iff {k : K} : (m.get k).isSome ↔ k ∈ m.entries.map Prod.fst := by
  rw [Option.isSome_iff_exists]
  simp only [← mem_entries_iff, List.mem_map, Prod.exists, exists_and_right, exists_eq_right]

/-- Maps that read alike are equal, their entries being sorted. -/
theorem ext_get (h : ∀ k, m.get k = m'.get k) : m = m' := by
  have hmem : ∀ e, e ∈ m.entries ↔ e ∈ m'.entries := by
    intro e
    rw [show e = (e.1, e.2) from rfl, mem_entries_iff, mem_entries_iff, h]
  have hperm : m.entries.Perm m'.entries :=
    (List.perm_ext_iff_of_nodup (.of_map _ m.nodup_keys) (.of_map _ m'.nodup_keys)).mpr hmem
  refine BTreeMap.ext (hperm.eq_of_pairwise ?_ (List.pairwise_map.mp m.sorted)
    (List.pairwise_map.mp m'.sorted))
  intro a b _ _ hab hba
  exact absurd (lt_trans hab hba) (lt_irrefl _)

end

/-! ## Adding up -/

section

variable {K M : Type} [LinearOrder K] [AddCommMonoid M]

/-- The amount of a key, zero for a missing one. -/
def amount (m : BTreeMap K M) (k : K) : M := (m.get k).getD 0

/-- `*entry(k).or_default() += a`. -/
def addTo (m : BTreeMap K M) (k : K) (a : M) : BTreeMap K M := m.insert k (m.amount k + a)

/-- One item after the other. -/
def addAll (m : BTreeMap K M) (ps : List (K × M)) : BTreeMap K M :=
  ps.foldl (fun m p => m.addTo p.1 p.2) m

/-- Two tallies added up. -/
def merge (m m' : BTreeMap K M) : BTreeMap K M := m.addAll m'.entries

@[simp] theorem amount_new (k : K) : (new : BTreeMap K M).amount k = 0 := rfl

theorem addAll_cons (m : BTreeMap K M) (p : K × M) (ps : List (K × M)) :
    m.addAll (p :: ps) = (m.addTo p.1 p.2).addAll ps := rfl

theorem addAll_append (m : BTreeMap K M) (ps qs : List (K × M)) :
    m.addAll (ps ++ qs) = (m.addAll ps).addAll qs := List.foldl_append

theorem amount_addTo (m : BTreeMap K M) (k k' : K) (a : M) :
    (m.addTo k a).amount k' = m.amount k' + if k = k' then a else 0 := by
  rw [amount, addTo, get_insert]
  split
  · rename_i heq
    rw [heq, Option.getD_some]
  · rw [add_zero, amount]

theorem isSome_get_addTo (m : BTreeMap K M) (k k' : K) (a : M) :
    ((m.addTo k a).get k').isSome ↔ k = k' ∨ (m.get k').isSome := by
  rw [addTo, get_insert]
  split
  · rename_i heq
    simp [heq]
  · rename_i hne
    simp [hne]

/-- A tally holds at a key the sum over the items of that key. -/
theorem amount_addAll (m : BTreeMap K M) (ps : List (K × M)) (k : K) :
    (m.addAll ps).amount k = m.amount k + (ps.map fun p => if p.1 = k then p.2 else 0).sum := by
  induction ps generalizing m with
  | nil => simp [addAll]
  | cons p ps ih =>
    rw [addAll_cons, ih, amount_addTo, List.map_cons, List.sum_cons, add_assoc]

/-- And lists the keys of the items. -/
theorem isSome_get_addAll (m : BTreeMap K M) (ps : List (K × M)) (k : K) :
    ((m.addAll ps).get k).isSome ↔ k ∈ ps.map Prod.fst ∨ (m.get k).isSome := by
  induction ps generalizing m with
  | nil => simp [addAll]
  | cons p ps ih =>
    rw [addAll_cons, ih, isSome_get_addTo, List.map_cons, List.mem_cons, or_left_comm, or_assoc,
      eq_comm]

/-- Tallies with the same keys and amounts are equal. -/
theorem ext_amount {m m' : BTreeMap K M} (hkeys : ∀ k, (m.get k).isSome ↔ (m'.get k).isSome)
    (hamount : ∀ k, m.amount k = m'.amount k) : m = m' := by
  refine ext_get fun k => ?_
  have hkey := hkeys k
  have hvalue := hamount k
  unfold amount at hvalue
  cases hget : m.get k with
  | none =>
    rw [hget] at hkey
    exact (Option.not_isSome_iff_eq_none.mp fun h => by simpa using hkey.mpr h).symm
  | some a =>
    rw [hget] at hkey hvalue
    obtain ⟨a', hget'⟩ := Option.isSome_iff_exists.mp (hkey.mp rfl)
    rw [hget'] at hvalue ⊢
    exact congrArg some hvalue

theorem sum_entries {es : List (K × M)} (hnd : (es.map Prod.fst).Nodup) (k : K) :
    (es.map fun e => if e.1 = k then e.2 else 0).sum =
      ((es.find? fun e => e.1 = k).map Prod.snd).getD 0 := by
  induction es with
  | nil => rfl
  | cons e es ih =>
    rw [List.map_cons, List.nodup_cons] at hnd
    rw [List.map_cons, List.sum_cons, ih hnd.2]
    by_cases hk : e.1 = k
    · have hnone : es.find? (fun e => e.1 = k) = none := by
        refine List.find?_eq_none.mpr fun e' he' heq => hnd.1 ?_
        rw [hk, ← show e'.1 = k by simpa using heq]
        exact List.mem_map_of_mem he'
      simp [hk, hnone]
    · simp [hk]

/-- Merging in a tally adds its items. -/
theorem merge_addAll (m : BTreeMap K M) (ps : List (K × M)) :
    m.merge (new.addAll ps) = m.addAll ps := by
  refine ext_amount (fun k => ?_) fun k => ?_
  · rw [merge, isSome_get_addAll, isSome_get_addAll, ← isSome_get_iff, isSome_get_addAll]
    simp
  · have hentries := sum_entries (new.addAll ps : BTreeMap K M).nodup_keys k
    have hamount := amount_addAll (new : BTreeMap K M) ps k
    rw [amount_new, zero_add, amount, get, ← hentries] at hamount
    rw [merge, amount_addAll, amount_addAll, hamount]

theorem sum_single {ks : List K} (hnd : ks.Nodup) {k : K} (hk : k ∈ ks) (a : M) :
    (ks.map fun k' => if k = k' then a else 0).sum = a := by
  induction ks with
  | nil => cases hk
  | cons k' ks ih =>
    rw [List.nodup_cons] at hnd
    rw [List.map_cons, List.sum_cons]
    rcases List.mem_cons.mp hk with rfl | hrest
    · have hzero : (ks.map fun k' => if k = k' then a else 0) = ks.map fun _ => 0 := by
        refine List.map_congr_left fun k' hk' => if_neg ?_
        rintro rfl
        exact hnd.1 hk'
      simp [hzero]
    · have hne : k ≠ k' := by
        rintro rfl
        exact hnd.1 hrest
      rw [if_neg hne, zero_add, ih hnd.2 hrest]

/-- Distinct keys that cover the items hold the whole. -/
theorem sum_amount {ks : List K} (hnd : ks.Nodup) {ps : List (K × M)}
    (hks : ∀ p ∈ ps, p.1 ∈ ks) :
    (ks.map (new.addAll ps : BTreeMap K M).amount).sum = (ps.map Prod.snd).sum := by
  have hamount : (new.addAll ps : BTreeMap K M).amount =
      fun k => (ps.map fun p => if p.1 = k then p.2 else 0).sum := by
    funext k
    rw [amount_addAll, amount_new, zero_add]
  rw [hamount]
  clear hamount
  induction ps with
  | nil => simp
  | cons p ps ih =>
    simp only [List.map_cons, List.sum_cons, List.sum_map_add]
    rw [sum_single hnd (hks p List.mem_cons_self), ih fun q hq => hks q (List.mem_cons_of_mem _ hq)]

end

/-! ## Counting -/

section

variable {K : Type} [LinearOrder K]

/-- A tally of ones counts. -/
theorem amount_count (keys : List K) (k : K) :
    (new.addAll (keys.map fun k => (k, 1)) : BTreeMap K Nat).amount k = keys.count k := by
  rw [amount_addAll, amount_new, zero_add, List.map_map]
  induction keys with
  | nil => rfl
  | cons k' keys ih =>
    rw [List.map_cons, List.sum_cons, ih, List.count_cons]
    simp [Nat.add_comm]

/-- The counts of distinct keys that cover a list add up to its length. -/
theorem sum_count {ks : List K} (hnd : ks.Nodup) {keys : List K} (hks : ∀ k ∈ keys, k ∈ ks) :
    (ks.map keys.count).sum = keys.length := by
  have hsum := @sum_amount K Nat _ _ ks hnd (keys.map fun k => (k, 1)) (by simpa using hks)
  simpa [funext (amount_count keys), Function.comp_def] using hsum

end

end BTreeMap

end KaniNetwork
