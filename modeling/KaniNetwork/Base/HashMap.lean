/-
KaniNetwork.Base.HashMap — finite maps as the source's `HashMap` uses them.

A `HashMap K V` is Mathlib's `AList`: a list of key/value entries whose
keys are pairwise distinct. The order of the entries stands for the
iteration order, which the Rust type leaves open; `values` and `keys`
follow it. Lookup and insertion are Mathlib's; what is added here is the
case form of lookup after insertion, the default read `getOr`, the value
list, and `ofPairs`, the `collect()` of an iterator of pairs.
-/
import Mathlib.Data.List.AList
import Mathlib.Data.Finset.Basic
import Mathlib.Data.Finset.Dedup

namespace KaniNetwork

/-- A hash map: entries with distinct keys, in iteration order. -/
abbrev HashMap (K V : Type) := AList (fun _ : K => V)

namespace HashMap

variable {K V : Type}

/-- The values in iteration order (`values()`). -/
def values (m : HashMap K V) : List V :=
  m.entries.map Sigma.snd

/-- The entries as pairs, in iteration order (`iter()`). -/
def pairs (m : HashMap K V) : List (K × V) :=
  m.entries.map (fun e => (e.1, e.2))

theorem pairs_keys (m : HashMap K V) : m.pairs.map Prod.fst = m.keys := by
  simp only [pairs, List.map_map]
  rfl

section

variable [DecidableEq K]

/-- Read a key, with a default for a missing one
(`get().copied().unwrap_or_default()`). -/
def getOr (m : HashMap K V) (k : K) (d : V) : V :=
  (m.lookup k).getD d

/-- The map an iterator of pairs collects into; a later pair overrides an
earlier one of the same key. -/
def ofPairs (ps : List (K × V)) : HashMap K V :=
  ps.foldl (fun m p => m.insert p.1 p.2) ∅

theorem lookup_insert_eq (m : HashMap K V) (k k' : K) (v : V) :
    (m.insert k v).lookup k' = if k' = k then some v else m.lookup k' := by
  by_cases h : k' = k
  · subst h
    simp [AList.lookup_insert]
  · simp [AList.lookup_insert_ne h, h]

/-- What holds of every entry holds after an insert, if it holds of the new
one. -/
theorem forall_lookup_insert {m : HashMap K V} {P : K → V → Prop}
    (h : ∀ k v, m.lookup k = some v → P k v) {k : K} {v : V} (hnew : P k v) :
    ∀ k' v', (m.insert k v).lookup k' = some v' → P k' v' := by
  intro k' v' hv'
  rw [lookup_insert_eq] at hv'
  split at hv'
  · rename_i hk
    cases hv'
    exact hk ▸ hnew
  · exact h k' v' hv'

@[simp] theorem getOr_empty (k : K) (d : V) :
    getOr (∅ : HashMap K V) k d = d := by
  simp [getOr]

theorem getOr_insert (m : HashMap K V) (k k' : K) (v d : V) :
    getOr (m.insert k v) k' d = if k' = k then v else m.getOr k' d := by
  unfold getOr
  rw [lookup_insert_eq]
  split <;> rfl

theorem mem_keys_of_lookup {m : HashMap K V} {k : K} {v : V}
    (h : m.lookup k = some v) : k ∈ m.keys := by
  rw [← AList.mem_keys, ← AList.lookup_isSome, h]
  rfl

theorem mem_keys_iff {m : HashMap K V} {k : K} :
    k ∈ m.keys ↔ ∃ v, m.lookup k = some v := by
  rw [← AList.mem_keys, ← AList.lookup_isSome, Option.isSome_iff_exists]

theorem mem_pairs {m : HashMap K V} {k : K} {v : V} :
    (k, v) ∈ m.pairs ↔ m.lookup k = some v := by
  rw [← Option.mem_def, AList.mem_lookup_iff]
  simp only [pairs, List.mem_map, Prod.mk.injEq]
  constructor
  · rintro ⟨⟨k', v'⟩, hmem, rfl, rfl⟩
    exact hmem
  · intro h
    exact ⟨⟨k, v⟩, h, rfl, rfl⟩

/-- A value is listed exactly when some key holds it. -/
theorem mem_values {m : HashMap K V} {v : V} :
    v ∈ m.values ↔ ∃ k, m.lookup k = some v := by
  simp only [← mem_pairs, values, pairs, List.mem_map, Prod.mk.injEq]
  constructor
  · rintro ⟨e, he, rfl⟩
    exact ⟨e.1, e, he, rfl, rfl⟩
  · rintro ⟨k, e, he, -, rfl⟩
    exact ⟨e, he, rfl⟩

/-- Values filed under their own keys are listed once per key. -/
theorem map_values_eq_keys {key : V → K} {m : HashMap K V}
    (h : ∀ k v, m.lookup k = some v → key v = k) : m.values.map key = m.keys := by
  rw [← pairs_keys, values, pairs, List.map_map, List.map_map]
  refine List.map_congr_left fun e he => ?_
  exact h e.1 e.2 (mem_pairs.mp (List.mem_map.mpr ⟨e, he, rfl⟩))

theorem nodup_map_values {key : V → K} {m : HashMap K V}
    (h : ∀ k v, m.lookup k = some v → key v = k) : (m.values.map key).Nodup := by
  rw [map_values_eq_keys h]
  exact m.keys_nodup

/-- Values filed under their own keys are found by their keys. -/
theorem find?_values {key : V → K} {m : HashMap K V}
    (h : ∀ k v, m.lookup k = some v → key v = k) (k : K) :
    m.values.find? (fun v => key v = k) = m.lookup k := by
  cases hfind : m.values.find? (fun v => key v = k) with
  | none =>
    cases hlookup : m.lookup k with
    | none => rfl
    | some v =>
      have hne := List.find?_eq_none.mp hfind v (mem_values.mpr ⟨k, hlookup⟩)
      simp [h k v hlookup] at hne
  | some v =>
    have hkey : key v = k := by simpa using List.find?_some hfind
    obtain ⟨k', hlookup⟩ := mem_values.mp (List.mem_of_find?_eq_some hfind)
    rw [← hkey, h k' v hlookup, hlookup]

theorem keys_insert_mem {m : HashMap K V} {k k' : K} {v : V} :
    k' ∈ (m.insert k v).keys ↔ k' = k ∨ k' ∈ m.keys := by
  rw [← AList.mem_keys, AList.mem_insert, AList.mem_keys]

theorem toFinset_keys_insert (m : HashMap K V) (k : K) (v : V) :
    (m.insert k v).keys.toFinset = insert k m.keys.toFinset := by
  ext k'
  rw [List.mem_toFinset, keys_insert_mem, Finset.mem_insert, List.mem_toFinset]

/-- Collecting pairs on top of a map reads a key off the last pair that
carries it, else off the map. -/
theorem lookup_foldl_insert (ps : List (K × V)) (m : HashMap K V) (k : K)
    (hnd : (ps.map Prod.fst).Nodup) :
    (ps.foldl (fun m p => m.insert p.1 p.2) m).lookup k
      = ((ps.find? (fun p => p.1 = k)).map Prod.snd).or (m.lookup k) := by
  induction ps generalizing m with
  | nil => simp
  | cons p rest ih =>
    simp only [List.map_cons, List.nodup_cons] at hnd
    rw [List.foldl_cons, ih _ hnd.2, lookup_insert_eq]
    by_cases hk : p.1 = k
    · subst hk
      have hnone : rest.find? (fun q => q.1 = p.1) = none := by
        rw [List.find?_eq_none]
        intro q hq
        have : q.1 ∈ rest.map Prod.fst := List.mem_map_of_mem hq
        simp only [decide_eq_true_eq]
        rintro heq
        exact hnd.1 (heq ▸ this)
      simp [hnone]
    · have hk' : ¬ k = p.1 := fun h => hk h.symm
      simp [hk, hk']

theorem lookup_ofPairs (ps : List (K × V)) (k : K) (hnd : (ps.map Prod.fst).Nodup) :
    (ofPairs ps).lookup k = (ps.find? (fun p => p.1 = k)).map Prod.snd := by
  rw [ofPairs, lookup_foldl_insert ps _ k hnd]
  simp

/-- With distinct keys, the collected map holds exactly the pairs. -/
theorem lookup_ofPairs_iff {ps : List (K × V)} {k : K} {v : V}
    (hnd : (ps.map Prod.fst).Nodup) :
    (ofPairs ps).lookup k = some v ↔ (k, v) ∈ ps := by
  rw [lookup_ofPairs ps k hnd]
  constructor
  · intro h
    obtain ⟨p, hp, rfl⟩ := Option.map_eq_some_iff.mp h
    have hk : p.1 = k := by simpa using List.find?_some hp
    have hmem := List.mem_of_find?_eq_some hp
    subst hk
    exact hmem
  · intro h
    cases hf : ps.find? (fun p => p.1 = k) with
    | none =>
      have := List.find?_eq_none.mp hf (k, v) h
      simp at this
    | some q =>
      have hk : q.1 = k := by simpa using List.find?_some hf
      have hq := List.mem_of_find?_eq_some hf
      have : q = (k, v) := List.inj_on_of_nodup_map hnd hq h hk
      simp [this]

/-- A collected map holds pairs of the list only. -/
theorem mem_of_lookup_ofPairs {ps : List (K × V)} {k : K} {v : V}
    (h : (ofPairs ps).lookup k = some v) : (k, v) ∈ ps := by
  induction ps using List.reverseRecOn with
  | nil => simp [ofPairs] at h
  | append_singleton ps p ih =>
    have hstep : ofPairs (ps ++ [p]) = (ofPairs ps).insert p.1 p.2 := by
      simp [ofPairs]
    rw [hstep, lookup_insert_eq] at h
    rw [List.mem_append, List.mem_singleton]
    split at h
    · rename_i heq
      cases h
      exact .inr (Prod.ext heq rfl)
    · exact .inl (ih h)

theorem mem_of_mem_values_ofPairs {key : V → K} {vs : List V} {v : V}
    (h : v ∈ (ofPairs (vs.map fun v => (key v, v))).values) : v ∈ vs := by
  obtain ⟨k, hk⟩ := mem_values.mp h
  obtain ⟨w, hw, heq⟩ := List.mem_map.mp (mem_of_lookup_ofPairs hk)
  cases heq
  exact hw

/-- Values collected under their own keys are filed under them. -/
theorem key_of_lookup_ofPairs (key : V → K) {vs : List V} {k : K} {v : V}
    (h : (ofPairs (vs.map fun v => (key v, v))).lookup k = some v) : key v = k := by
  obtain ⟨w, -, hw⟩ := List.mem_map.mp (mem_of_lookup_ofPairs h)
  cases hw
  rfl

/-- Every value is filed under its own key. -/
def FiledUnder (key : V → K) (m : HashMap K V) : Prop :=
  ∀ k v, m.lookup k = some v → key v = k

theorem filedUnder_empty (key : V → K) : FiledUnder key (∅ : HashMap K V) := by
  intro k v h
  cases h

theorem FiledUnder.insert {key : V → K} {m : HashMap K V} (h : FiledUnder key m) (v : V) :
    FiledUnder key (m.insert (key v) v) :=
  forall_lookup_insert h rfl

theorem FiledUnder.insertAll {key : V → K} {m : HashMap K V} (h : FiledUnder key m)
    (vs : List V) : FiledUnder key (vs.foldl (fun m v => m.insert (key v) v) m) := by
  induction vs generalizing m with
  | nil => exact h
  | cons v vs ih => exact ih (h.insert v)

theorem filedUnder_ofPairs (key : V → K) (vs : List V) :
    FiledUnder key (ofPairs (vs.map fun v => (key v, v))) :=
  fun _ _ h => key_of_lookup_ofPairs key h

/-- Collecting the values of a map under their keys, in whatever order they
are listed, gives back every lookup. -/
theorem FiledUnder.lookup_ofPairs_values {key : V → K} {m : HashMap K V} (h : FiledUnder key m)
    {vs : List V} (hvs : vs.Perm m.values) (k : K) :
    (ofPairs (vs.map fun v => (key v, v))).lookup k = m.lookup k := by
  have hnd : ((vs.map fun v => (key v, v)).map Prod.fst).Nodup := by
    rw [List.map_map]
    exact (hvs.map key).nodup_iff.mpr (nodup_map_values h)
  ext v
  rw [lookup_ofPairs_iff hnd, List.mem_map]
  constructor
  · rintro ⟨w, hw, heq⟩
    cases heq
    obtain ⟨k', hk'⟩ := mem_values.mp (hvs.mem_iff.mp hw)
    rw [h k' v hk', hk']
  · intro hv
    refine ⟨v, hvs.mem_iff.mpr (mem_values.mpr ⟨k, hv⟩), ?_⟩
    rw [h k v hv]

/-- Collecting the pairs of a map gives back every lookup. -/
theorem lookup_ofPairs_pairs (m : HashMap K V) (k : K) :
    (ofPairs m.pairs).lookup k = m.lookup k := by
  have hnd : (m.pairs.map Prod.fst).Nodup := by
    rw [pairs_keys]
    exact m.keys_nodup
  ext v
  rw [lookup_ofPairs_iff hnd, mem_pairs]

end

end HashMap

end KaniNetwork
