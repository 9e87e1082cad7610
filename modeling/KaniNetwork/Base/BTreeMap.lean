/-
KaniNetwork.Base.BTreeMap — ordered maps as strictly sorted entry lists.

A `BTreeMap K V` lists its entries in strictly increasing key order, the
order in which the Rust type iterates and serialises. Sortedness is a
field, so two maps with the same entries are equal whatever the order of
the insertions that built them.
-/
import Mathlib.Order.Lattice
import Mathlib.Data.List.Basic

namespace KaniNetwork

/-- Entries in strictly increasing key order. -/
structure BTreeMap (K V : Type) [LinearOrder K] where
  entries : List (K × V)
  sorted : (entries.map Prod.fst).Pairwise (· < ·)

namespace BTreeMap

variable {K V : Type} [LinearOrder K]

@[ext] theorem ext {m m' : BTreeMap K V} (h : m.entries = m'.entries) : m = m' := by
  cases m
  cases m'
  congr

instance [DecidableEq V] : DecidableEq (BTreeMap K V) := fun m m' =>
  decidable_of_iff (m.entries = m'.entries) ⟨BTreeMap.ext, fun h => h ▸ rfl⟩

/-- The map with no entries. -/
def new : BTreeMap K V := ⟨[], List.Pairwise.nil⟩

/-- The value of a key. -/
def get (m : BTreeMap K V) (k : K) : Option V :=
  (m.entries.find? (fun e => e.1 = k)).map Prod.snd

/-- Put an entry in its place; an entry of the same key is replaced. -/
def insertEntry (k : K) (v : V) : List (K × V) → List (K × V)
  | [] => [(k, v)]
  | e :: rest =>
    if k < e.1 then (k, v) :: e :: rest
    else if k = e.1 then (k, v) :: rest
    else e :: insertEntry k v rest

theorem mem_insertEntry {k : K} {v : V} {e : K × V} {es : List (K × V)}
    (h : e ∈ insertEntry k v es) : e = (k, v) ∨ e ∈ es := by
  induction es with
  | nil => exact .inl (by simpa [insertEntry] using h)
  | cons e' rest ih =>
    simp only [insertEntry] at h
    split at h
    · simpa using h
    · split at h
      · rcases List.mem_cons.mp h with h | h
        · exact .inl h
        · exact .inr (List.mem_cons_of_mem _ h)
      · rcases List.mem_cons.mp h with h | h
        · exact .inr (h ▸ List.mem_cons_self)
        · exact (ih h).imp_right (List.mem_cons_of_mem _)

theorem mem_insertEntry_keys {k k' : K} {v : V} {es : List (K × V)}
    (h : k' ∈ (insertEntry k v es).map Prod.fst) : k' = k ∨ k' ∈ es.map Prod.fst := by
  obtain ⟨e, he, rfl⟩ := List.mem_map.mp h
  rcases mem_insertEntry he with rfl | he
  · exact .inl rfl
  · exact .inr (List.mem_map_of_mem he)

theorem insertEntry_sorted {k : K} {v : V} {es : List (K × V)}
    (h : (es.map Prod.fst).Pairwise (· < ·)) :
    ((insertEntry k v es).map Prod.fst).Pairwise (· < ·) := by
  induction es with
  | nil => simp [insertEntry]
  | cons e rest ih =>
    simp only [List.map_cons, List.pairwise_cons] at h
    obtain ⟨hhead, hrest⟩ := h
    simp only [insertEntry]
    split
    · rename_i hlt
      simp only [List.map_cons, List.pairwise_cons]
      refine ⟨?_, hhead, hrest⟩
      intro x hx
      rcases List.mem_cons.mp hx with rfl | hx
      · exact hlt
      · exact lt_trans hlt (hhead x hx)
    · split
      · rename_i heq
        simp only [List.map_cons, List.pairwise_cons]
        exact ⟨heq ▸ hhead, hrest⟩
      · rename_i hlt hne
        simp only [List.map_cons, List.pairwise_cons]
        refine ⟨?_, ih hrest⟩
        intro x hx
        rcases mem_insertEntry_keys hx with rfl | hx
        · exact lt_of_le_of_ne (not_lt.mp hlt) (Ne.symm hne)
        · exact hhead x hx

/-- `insert`. -/
def insert (m : BTreeMap K V) (k : K) (v : V) : BTreeMap K V where
  entries := insertEntry k v m.entries
  sorted := insertEntry_sorted m.sorted

@[simp] theorem get_new (k : K) : (new : BTreeMap K V).get k = none := rfl

theorem find?_insertEntry (k k' : K) (v : V) (es : List (K × V)) :
    (insertEntry k v es).find? (fun e => e.1 = k') =
      if k = k' then some (k, v) else es.find? (fun e => e.1 = k') := by
  induction es with
  | nil => by_cases h : k = k' <;> simp [insertEntry, h]
  | cons e rest ih =>
    simp only [insertEntry]
    split
    · by_cases h : k = k' <;> simp [h]
    · split
      · rename_i heq
        by_cases h : k = k' <;> simp [h, ← heq]
      · rename_i hne
        by_cases h : e.1 = k'
        · have hk : ¬ k = k' := fun hk => hne (hk.trans h.symm)
          simp [h, hk]
        · simp [h, ih]

/-- A read after an insertion. -/
theorem get_insert (m : BTreeMap K V) (k k' : K) (v : V) :
    (m.insert k v).get k' = if k = k' then some v else m.get k' := by
  simp only [get, insert, find?_insertEntry]
  split <;> rfl

end BTreeMap

end KaniNetwork
