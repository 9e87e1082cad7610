/-
KaniNetwork.Base.Table — keyed tables with the write statements of SQL.

A `Table key` is a list of rows no two of which share a key; the proof
is a field, so a table with a duplicate primary key cannot be built. The
statements are the ones an SQL store is driven by: `INSERT` that fails on
an existing key (`insert?`), `INSERT … ON CONFLICT DO NOTHING`
(`insertIgnore`), `INSERT … ON CONFLICT DO UPDATE` (`upsert`, where
`merge old new` is the `SET` list) and `UPDATE … WHERE` (`modify`).

Everything a proof needs is said through the key lookup `find?`: each
statement has one lemma that gives the lookups of the new table from the
lookups of the old one, and `mem_rows_iff` trades rows for lookups. The
last sections have the loops stores run these statements in, upserts and
insertions of a list of rows, and the map a client collects the rows of a
`SELECT` into.
-/
import Mathlib.Data.List.Nodup
import Mathlib.Data.List.Sort
import Mathlib.Data.List.Basic
import KaniNetwork.Base.HashMap

namespace KaniNetwork

/-- Rows with pairwise distinct keys. -/
structure Table {κ ρ : Type} (key : ρ → κ) where
  rows : List ρ
  nodup : (rows.map key).Nodup

namespace Table

variable {κ ρ : Type} {key : ρ → κ}

@[ext] theorem ext {t u : Table key} (h : t.rows = u.rows) : t = u := by
  cases t
  cases u
  congr

instance [DecidableEq ρ] : DecidableEq (Table key) := fun t u =>
  decidable_of_iff (t.rows = u.rows) ⟨Table.ext, fun h => h ▸ rfl⟩

/-- The table with no rows. -/
def empty : Table key := ⟨[], List.nodup_nil⟩

/-- Rows of one key are one row. -/
theorem eq_of_key_eq {t : Table key} {r r' : ρ} (h : r ∈ t.rows) (h' : r' ∈ t.rows)
    (hk : key r = key r') : r = r' :=
  List.inj_on_of_nodup_map t.nodup h h' hk

variable [DecidableEq κ]

/-- The row with a given key. -/
def find? (t : Table key) (k : κ) : Option ρ :=
  t.rows.find? (fun r => key r = k)

theorem find?_eq_some_iff {t : Table key} {k : κ} {r : ρ} :
    t.find? k = some r ↔ r ∈ t.rows ∧ key r = k := by
  constructor
  · intro h
    exact ⟨List.mem_of_find?_eq_some h, by simpa using List.find?_some h⟩
  · rintro ⟨hr, rfl⟩
    cases hf : t.rows.find? (fun x => key x = key r) with
    | none =>
      have := List.find?_eq_none.mp hf r hr
      simp at this
    | some r' =>
      have hk : key r' = key r := by simpa using List.find?_some hf
      have hmem := List.mem_of_find?_eq_some hf
      have heq : r' = r := List.inj_on_of_nodup_map t.nodup hmem hr hk
      rw [find?, hf, heq]

theorem mem_of_find? {t : Table key} {k : κ} {r : ρ} (h : t.find? k = some r) :
    r ∈ t.rows :=
  (find?_eq_some_iff.mp h).1

theorem key_of_find? {t : Table key} {k : κ} {r : ρ} (h : t.find? k = some r) :
    key r = k :=
  (find?_eq_some_iff.mp h).2

theorem mem_rows_iff {t : Table key} {r : ρ} : r ∈ t.rows ↔ t.find? (key r) = some r := by
  rw [find?_eq_some_iff]
  exact ⟨fun h => ⟨h, rfl⟩, fun h => h.1⟩

/-- A check of every row is one of every lookup. -/
theorem all_rows_iff {t : Table key} {p : ρ → Bool} :
    t.rows.all p = true ↔ ∀ k r, t.find? k = some r → p r = true := by
  rw [List.all_eq_true]
  constructor
  · exact fun h k r hr => h r (mem_of_find? hr)
  · exact fun h r hr => h _ r (mem_rows_iff.mp hr)

theorem find?_eq_none_iff {t : Table key} {k : κ} :
    t.find? k = none ↔ ∀ r ∈ t.rows, key r ≠ k := by
  simp [find?, List.find?_eq_none]

@[simp] theorem find?_empty (k : κ) : (empty : Table key).find? k = none := rfl

/-! ## `INSERT` -/

/-- Append a row whose key is not in the table. -/
def insertNew (t : Table key) (r : ρ) (h : t.find? (key r) = none) : Table key where
  rows := t.rows ++ [r]
  nodup := by
    rw [List.map_append, List.nodup_append]
    refine ⟨t.nodup, by simp, ?_⟩
    intro a ha b hb hab
    obtain ⟨x, hx, rfl⟩ := List.mem_map.mp ha
    simp only [List.map_cons, List.map_nil, List.mem_singleton] at hb
    exact find?_eq_none_iff.mp h x hx (hab.trans hb)

theorem find?_insertNew (t : Table key) (r : ρ) (h : t.find? (key r) = none) (k : κ) :
    (t.insertNew r h).find? k = if key r = k then some r else t.find? k := by
  by_cases hk : key r = k
  · subst hk
    rw [if_pos rfl, find?_eq_some_iff]
    exact ⟨by simp [insertNew], rfl⟩
  · rw [if_neg hk]
    unfold find? insertNew
    rw [List.find?_append]
    simp [hk]

/-- Plain `INSERT`: refused when the key is taken. -/
def insert? (t : Table key) (r : ρ) : Option (Table key) :=
  if h : t.find? (key r) = none then some (t.insertNew r h) else none

theorem insert?_eq_some {t t' : Table key} {r : ρ} (h : t.insert? r = some t') :
    t.find? (key r) = none ∧
      ∀ k, t'.find? k = if key r = k then some r else t.find? k := by
  unfold insert? at h
  split at h
  · rename_i hnone
    cases h
    exact ⟨hnone, find?_insertNew t r hnone⟩
  · cases h

theorem find?_insert?_of_some {t t' : Table key} {r x : ρ} {k : κ} (h : t.insert? r = some t')
    (hx : t.find? k = some x) : t'.find? k = some x := by
  obtain ⟨hnone, hfind⟩ := insert?_eq_some h
  rw [hfind, if_neg]
  · exact hx
  · rintro rfl
    rw [hnone] at hx
    cases hx

/-- `INSERT … ON CONFLICT (key) DO NOTHING`. -/
def insertIgnore (t : Table key) (r : ρ) : Table key :=
  if h : t.find? (key r) = none then t.insertNew r h else t

theorem find?_insertIgnore (t : Table key) (r : ρ) (k : κ) :
    (t.insertIgnore r).find? k = (t.find? k).or (if key r = k then some r else none) := by
  unfold insertIgnore
  split
  · rename_i h
    rw [find?_insertNew]
    by_cases hk : key r = k
    · subst hk
      simp [h]
    · simp [hk]
  · rename_i h
    by_cases hk : key r = k
    · subst hk
      obtain ⟨r', hr'⟩ := Option.ne_none_iff_exists'.mp h
      simp [hr']
    · simp [hk]

/-! ## `UPDATE … WHERE` -/

/-- Rewrite the rows that satisfy `p`; the rewrite keeps keys. -/
def modify (t : Table key) (p : ρ → Bool) (f : ρ → ρ) (hf : ∀ r, key (f r) = key r) :
    Table key where
  rows := t.rows.map (fun r => if p r then f r else r)
  nodup := by
    have hkey : (key ∘ fun r => if p r then f r else r) = key := by
      funext r
      simp only [Function.comp]
      split
      · exact hf r
      · rfl
    rw [List.map_map, hkey]
    exact t.nodup

theorem find?_modify (t : Table key) (p : ρ → Bool) (f : ρ → ρ)
    (hf : ∀ r, key (f r) = key r) (k : κ) :
    (t.modify p f hf).find? k = (t.find? k).map (fun r => if p r then f r else r) := by
  have hkey : ∀ r, key (if p r then f r else r) = key r := by
    intro r
    split
    · exact hf r
    · rfl
  simp only [find?, modify, List.find?_map]
  congr 2
  funext r
  simp [Function.comp, hkey]

/-- `UPDATE … WHERE key = k` rewrites one row. -/
theorem find?_modify_key (t : Table key) (k : κ) (f : ρ → ρ) (hf : ∀ r, key (f r) = key r)
    (k' : κ) :
    (t.modify (fun r => key r = k) f hf).find? k' =
      if k = k' then (t.find? k').map f else t.find? k' := by
  rw [find?_modify]
  cases hr : t.find? k' with
  | none => simp
  | some r =>
    have hkey : key r = k' := key_of_find? hr
    by_cases hk : k = k'
    · simp [hkey, hk]
    · simp [hkey, hk, Ne.symm hk]

/-! ## `INSERT … ON CONFLICT DO UPDATE` -/

/-- Merge into the row of the same key, or append. -/
def upsert (t : Table key) (merge : ρ → ρ → ρ)
    (hm : ∀ old new, key (merge old new) = key old) (r : ρ) : Table key :=
  if h : t.find? (key r) = none then t.insertNew r h
  else t.modify (fun old => key old = key r) (fun old => merge old r) (fun old => hm old r)

theorem find?_upsert (t : Table key) (merge : ρ → ρ → ρ)
    (hm : ∀ old new, key (merge old new) = key old) (r : ρ) (k : κ) :
    (t.upsert merge hm r).find? k =
      if key r = k then some (((t.find? k).map (fun old => merge old r)).getD r)
      else t.find? k := by
  unfold upsert
  split
  · rename_i h
    rw [find?_insertNew]
    by_cases hk : key r = k
    · subst hk
      simp [h]
    · simp [hk]
  · rename_i h
    rw [find?_modify_key]
    by_cases hk : key r = k
    · subst hk
      obtain ⟨r', hr'⟩ := Option.ne_none_iff_exists'.mp h
      simp [hr']
    · simp [hk]

/-- Upsert the rows of a list one after the other. -/
def upsertAll (t : Table key) (merge : ρ → ρ → ρ)
    (hm : ∀ old new, key (merge old new) = key old) (rs : List ρ) : Table key :=
  rs.foldl (fun t r => t.upsert merge hm r) t

/-- With distinct keys in the list, an upsert loop merges each row of the
list exactly once and leaves every other key alone. -/
theorem find?_upsertAll (t : Table key) (merge : ρ → ρ → ρ)
    (hm : ∀ old new, key (merge old new) = key old) (rs : List ρ)
    (hnd : (rs.map key).Nodup) (k : κ) :
    (t.upsertAll merge hm rs).find? k =
      match rs.find? (fun r => key r = k) with
      | some r => some (((t.find? k).map (fun old => merge old r)).getD r)
      | none => t.find? k := by
  induction rs generalizing t with
  | nil => simp [upsertAll]
  | cons r rest ih =>
    simp only [List.map_cons, List.nodup_cons] at hnd
    have hstep : t.upsertAll merge hm (r :: rest)
        = (t.upsert merge hm r).upsertAll merge hm rest := rfl
    rw [hstep, ih _ hnd.2, find?_upsert]
    by_cases hk : key r = k
    · subst hk
      have hnone : rest.find? (fun q => key q = key r) = none := by
        rw [List.find?_eq_none]
        intro q hq
        simp only [decide_eq_true_eq]
        exact fun heq => hnd.1 (heq ▸ List.mem_map_of_mem hq)
      simp [hnone]
    · simp [hk]

/-- An upsert loop loses no row, nor what the merge leaves alone. -/
theorem find?_upsertAll_keeps {β : Type} {t : Table key} {merge : ρ → ρ → ρ}
    {hm : ∀ old new, key (merge old new) = key old} (proj : ρ → β)
    (hproj : ∀ old new, proj (merge old new) = proj old) {rs : List ρ} {k : κ} {r : ρ}
    (h : t.find? k = some r) :
    ∃ r', (t.upsertAll merge hm rs).find? k = some r' ∧ proj r' = proj r := by
  induction rs generalizing t r with
  | nil => exact ⟨r, h, rfl⟩
  | cons new rest ih =>
    have hstep : t.upsertAll merge hm (new :: rest)
        = (t.upsert merge hm new).upsertAll merge hm rest := rfl
    have hnew := find?_upsert t merge hm new k
    rw [hstep]
    split at hnew
    · rw [h, Option.map_some, Option.getD_some] at hnew
      obtain ⟨r', hr', hp⟩ := ih hnew
      exact ⟨r', hr', hp.trans (hproj r new)⟩
    · exact ih (hnew.trans h)

theorem find?_upsertAll_of_mem {t : Table key} {merge : ρ → ρ → ρ}
    {hm : ∀ old new, key (merge old new) = key old} {rs : List ρ} (hnd : (rs.map key).Nodup)
    {r : ρ} (hr : r ∈ rs) :
    (t.upsertAll merge hm rs).find? (key r) =
      some (((t.find? (key r)).map (fun old => merge old r)).getD r) := by
  rw [find?_upsertAll t merge hm rs hnd]
  cases hf : rs.find? (fun q => key q = key r) with
  | none =>
    have := List.find?_eq_none.mp hf r hr
    simp at this
  | some q =>
    have hq : key q = key r := by simpa using List.find?_some hf
    have : q = r := List.inj_on_of_nodup_map hnd (List.mem_of_find?_eq_some hf) hr hq
    subst this
    rfl

theorem find?_upsertAll_of_not_mem {t : Table key} {merge : ρ → ρ → ρ}
    {hm : ∀ old new, key (merge old new) = key old} {rs : List ρ} (hnd : (rs.map key).Nodup)
    {k : κ} (hk : ∀ r ∈ rs, key r ≠ k) : (t.upsertAll merge hm rs).find? k = t.find? k := by
  have hnone : rs.find? (fun r => key r = k) = none :=
    List.find?_eq_none.mpr fun r hr => by simpa using hk r hr
  rw [find?_upsertAll t merge hm rs hnd, hnone]

/-- An upsert loop over items that a lookup gives by key. -/
theorem find?_upsertAll_map {α : Type} {t : Table key} {merge : ρ → ρ → ρ}
    {hm : ∀ old new, key (merge old new) = key old} {items : List α} {f : α → ρ}
    (look : κ → Option α) (hnd : ((items.map f).map key).Nodup)
    (hlook : ∀ k x, look k = some x ↔ x ∈ items ∧ key (f x) = k) (k : κ) :
    (t.upsertAll merge hm (items.map f)).find? k =
      match look k with
      | some x => some (((t.find? k).map (fun old => merge old (f x))).getD (f x))
      | none => t.find? k := by
  cases hk : look k with
  | some x =>
    obtain ⟨hx, rfl⟩ := (hlook k x).mp hk
    exact find?_upsertAll_of_mem hnd (List.mem_map_of_mem hx)
  | none =>
    refine find?_upsertAll_of_not_mem hnd fun r hr heq => ?_
    obtain ⟨x, hx, rfl⟩ := List.mem_map.mp hr
    rw [(hlook k x).mpr ⟨hx, heq⟩] at hk
    cases hk

/-- Writing the row would leave the table as it is. -/
def WritesBack (t : Table key) (merge : ρ → ρ → ρ) (r : ρ) : Prop :=
  ∃ old ∈ t.find? (key r), merge old r = old

instance [DecidableEq ρ] (t : Table key) (merge : ρ → ρ → ρ) (r : ρ) :
    Decidable (t.WritesBack merge r) :=
  inferInstanceAs (Decidable (∃ old ∈ t.find? (key r), merge old r = old))

theorem upsert_eq_self {t : Table key} {merge : ρ → ρ → ρ}
    {hm : ∀ old new, key (merge old new) = key old} {r : ρ} (h : t.WritesBack merge r) :
    t.upsert merge hm r = t := by
  obtain ⟨old, hold, heq⟩ := h
  have hold : t.find? (key r) = some old := hold
  have hsome : t.find? (key r) ≠ none := by simp [hold]
  ext1
  simp only [upsert, hsome, dite_false, modify]
  refine (List.map_congr_left fun x hx => ?_).trans (List.map_id _)
  split
  · rename_i hk
    have hkey : key x = key old := by simpa [key_of_find? hold] using hk
    rw [eq_of_key_eq hx (mem_of_find? hold) hkey, heq]
    rfl
  · rfl

theorem upsertAll_eq_self {t : Table key} {merge : ρ → ρ → ρ}
    {hm : ∀ old new, key (merge old new) = key old} {rs : List ρ}
    (h : ∀ r ∈ rs, t.WritesBack merge r) : t.upsertAll merge hm rs = t := by
  induction rs with
  | nil => rfl
  | cons r rest ih =>
    have hstep : t.upsertAll merge hm (r :: rest)
        = (t.upsert merge hm r).upsertAll merge hm rest := rfl
    rw [hstep, upsert_eq_self (h r List.mem_cons_self)]
    exact ih fun x hx => h x (List.mem_cons_of_mem _ hx)

/-- A loop over distinct keys leaves the table as it is only if every row
does. -/
theorem writesBack_of_upsertAll_eq {t : Table key} {merge : ρ → ρ → ρ}
    {hm : ∀ old new, key (merge old new) = key old} {rs : List ρ} (hnd : (rs.map key).Nodup)
    (h : t.upsertAll merge hm rs = t) : ∀ r ∈ rs, t.WritesBack merge r := by
  intro r hr
  have hfind : (t.upsertAll merge hm rs).find? (key r) = _ := find?_upsertAll_of_mem hnd hr
  rw [h] at hfind
  cases hold : t.find? (key r) with
  | none =>
    rw [hold] at hfind
    cases hfind
  | some old =>
    rw [hold] at hfind
    exact ⟨old, hold, (Option.some.inj hfind).symm⟩

/-- Insert the rows of a list one after the other, skipping taken keys. -/
def insertIgnoreAll (t : Table key) (rs : List ρ) : Table key :=
  rs.foldl (fun t r => t.insertIgnore r) t

theorem find?_insertIgnoreAll (t : Table key) (rs : List ρ) (k : κ) :
    (t.insertIgnoreAll rs).find? k = (t.find? k).or (rs.find? (fun r => key r = k)) := by
  induction rs generalizing t with
  | nil => simp [insertIgnoreAll]
  | cons r rest ih =>
    have hstep : t.insertIgnoreAll (r :: rest) = (t.insertIgnore r).insertIgnoreAll rest := rfl
    rw [hstep, ih, find?_insertIgnore, Option.or_assoc]
    by_cases hk : key r = k <;> simp [hk]

/-- Rows whose keys are taken add nothing. -/
theorem insertIgnoreAll_of_taken {t : Table key} {rs : List ρ}
    (h : ∀ r ∈ rs, t.find? (key r) ≠ none) : t.insertIgnoreAll rs = t := by
  induction rs with
  | nil => rfl
  | cons r rs ih =>
    have hskip : t.insertIgnore r = t := dif_neg (h r List.mem_cons_self)
    have hstep : t.insertIgnoreAll (r :: rs) = (t.insertIgnore r).insertIgnoreAll rs := rfl
    rw [hstep, hskip, ih fun r' hr' => h r' (List.mem_cons_of_mem _ hr')]

/-- Rows with new keys are appended. -/
theorem rows_insertIgnoreAll_of_new {t : Table key} {rs : List ρ}
    (h : ((t.rows ++ rs).map key).Nodup) : (t.insertIgnoreAll rs).rows = t.rows ++ rs := by
  induction rs generalizing t with
  | nil => exact (List.append_nil _).symm
  | cons r rs ih =>
    rw [List.append_cons] at h
    have hnew : t.find? (key r) = none := by
      have hleft := (List.map_append ▸ h).of_append_left
      rw [List.map_append, List.nodup_append] at hleft
      exact find?_eq_none_iff.mpr fun x hx hk =>
        hleft.2.2 (key x) (List.mem_map_of_mem hx) (key r) (List.mem_singleton_self _) hk
    have hinsert : t.insertIgnore r = t.insertNew r hnew := dif_pos hnew
    have hstep : t.insertIgnoreAll (r :: rs) = (t.insertIgnore r).insertIgnoreAll rs := rfl
    rw [hstep, hinsert, ih h, List.append_cons]
    rfl

/-! ## A table and a map -/

/-- The rows of a table, in whatever order, collected into a map under their
keys: the map answers as the table does. -/
theorem lookup_ofPairs_rows {β : Type} (t : Table key) {rows : List ρ} (hrows : rows.Perm t.rows)
    (value : ρ → β) (k : κ) :
    (HashMap.ofPairs (rows.map fun r => (key r, value r))).lookup k =
      (t.find? k).map value := by
  have hnd : ((rows.map fun r => (key r, value r)).map Prod.fst).Nodup := by
    rw [List.map_map]
    exact (hrows.map key).nodup_iff.mpr t.nodup
  ext v
  rw [HashMap.lookup_ofPairs_iff hnd, Option.map_eq_some_iff, List.mem_map]
  constructor
  · rintro ⟨r, hr, heq⟩
    cases heq
    exact ⟨r, mem_rows_iff.mp (hrows.mem_iff.mp hr), rfl⟩
  · rintro ⟨r, hr, rfl⟩
    exact ⟨r, hrows.mem_iff.mpr (mem_of_find? hr), by rw [key_of_find? hr]⟩

/-! ## A constraint on every row -/

/-- Every row satisfies `P`. -/
def All (P : ρ → Prop) (t : Table key) : Prop := ∀ r ∈ t.rows, P r

instance (P : ρ → Prop) [DecidablePred P] (t : Table key) : Decidable (t.All P) :=
  inferInstanceAs (Decidable (∀ r ∈ t.rows, P r))

namespace All

variable {P : ρ → Prop} {t : Table key}

theorem find? (h : t.All P) {k : κ} {r : ρ} (hr : t.find? k = some r) : P r :=
  h r (mem_of_find? hr)

theorem of_find? (h : ∀ k r, t.find? k = some r → P r) : t.All P :=
  fun r hr => h (key r) r (mem_rows_iff.mp hr)

theorem insert? {t' : Table key} {r : ρ} (h : t.All P) (hr : P r) (hins : t.insert? r = some t') :
    t'.All P := by
  refine of_find? fun k r' hr' => ?_
  rw [(insert?_eq_some hins).2] at hr'
  split at hr'
  · cases hr'
    exact hr
  · exact h.find? hr'

theorem insertIgnore {r : ρ} (h : t.All P) (hr : P r) : (t.insertIgnore r).All P := by
  refine of_find? fun k r' hr' => ?_
  rw [find?_insertIgnore] at hr'
  cases ht : t.find? k with
  | some old =>
    rw [ht] at hr'
    cases hr'
    exact h.find? ht
  | none =>
    rw [ht, Option.none_or] at hr'
    split at hr'
    · cases hr'
      exact hr
    · cases hr'

omit [DecidableEq κ] in
theorem modify {p : ρ → Bool} {f : ρ → ρ} (h : t.All P) (hf : ∀ r, key (f r) = key r)
    (hP : ∀ r, P r → P (f r)) : (t.modify p f hf).All P := by
  intro r' hr'
  obtain ⟨r, hr, rfl⟩ := List.mem_map.mp hr'
  split
  · exact hP r (h r hr)
  · exact h r hr

theorem upsert {merge : ρ → ρ → ρ} {hm : ∀ old new, key (merge old new) = key old} {r : ρ}
    (h : t.All P) (hr : P r) (hP : ∀ old, P old → P (merge old r)) : (t.upsert merge hm r).All P := by
  refine of_find? fun k r' hr' => ?_
  rw [find?_upsert] at hr'
  split at hr'
  · cases ht : t.find? k with
    | some old =>
      rw [ht] at hr'
      cases hr'
      exact hP old (h.find? ht)
    | none =>
      rw [ht] at hr'
      cases hr'
      exact hr
  · exact h.find? hr'

theorem upsertAll {merge : ρ → ρ → ρ} {hm : ∀ old new, key (merge old new) = key old} {rs : List ρ}
    (h : t.All P) (hrs : ∀ r ∈ rs, P r) (hP : ∀ old, P old → ∀ r ∈ rs, P (merge old r)) :
    (t.upsertAll merge hm rs).All P := by
  induction rs generalizing t with
  | nil => exact h
  | cons r rest ih =>
    exact ih (h.upsert (hrs r List.mem_cons_self) fun old hold => hP old hold r List.mem_cons_self)
      (fun r' hr' => hrs r' (List.mem_cons_of_mem _ hr'))
      fun old hold r' hr' => hP old hold r' (List.mem_cons_of_mem _ hr')

end All

end Table

end KaniNetwork
