/-
KaniNetwork.Base.Escaping — escaping by entities, and one pass back.

A table of entities spells some characters by texts that begin with a
marker: `&amp;` for `&`. `encode` spells a text character by character,
`decode` reads it from left to right: where an entity begins it is replaced
and skipped, and what it was replaced by is not read again.

Two conditions make the pass the inverse. The marker itself is spelled by an
entity, so that no marker of the text is left alone; and no entity is the
beginning of another, so that only one can be read where one was written.
They are fields of the table.
-/
import Mathlib.Data.List.Infix

namespace KaniNetwork

structure EntityTable (α : Type) where
  marker : α
  /-- Characters, and how they are spelled. -/
  entities : List (α × List α)
  marked : ∀ e ∈ entities, e.2.head? = some marker ∧ marker ∉ e.2.tail
  escaped : marker ∈ entities.map Prod.fst
  prefixFree : ∀ e ∈ entities, ∀ e' ∈ entities, e.2 <+: e'.2 → e = e'

namespace EntityTable

variable {α : Type} {t : EntityTable α}

/-- An entity is the marker and a name without one. -/
theorem marked_eq {e : α × List α} (he : e ∈ t.entities) :
    e.2 = t.marker :: e.2.tail ∧ t.marker ∉ e.2.tail := by
  obtain ⟨hhead, htail⟩ := t.marked e he
  refine ⟨?_, htail⟩
  cases hname : e.2 with
  | nil => simp [hname] at hhead
  | cons x name =>
    have hx : x = t.marker := by simpa [hname] using hhead
    rw [hx, List.tail_cons]

variable [DecidableEq α] (t)

/-- The spelling of one character. -/
def spell (x : α) : List α :=
  match t.entities.find? (·.1 = x) with
  | some e => e.2
  | none => [x]

def encode (xs : List α) : List α := xs.flatMap t.spell

/-- The pass, with `n` characters of an entity still to skip. -/
def decodeFrom : Nat → List α → List α
  | _, [] => []
  | n + 1, _ :: xs => decodeFrom n xs
  | 0, x :: xs =>
    match t.entities.find? (·.2.isPrefixOf (x :: xs)) with
    | some e => e.1 :: decodeFrom (e.2.length - 1) xs
    | none => x :: decodeFrom 0 xs

def decode (xs : List α) : List α := t.decodeFrom 0 xs

/-! ## Spellings -/

@[simp] theorem encode_nil : t.encode [] = [] := rfl

@[simp] theorem encode_cons (x : α) (xs : List α) :
    t.encode (x :: xs) = t.spell x ++ t.encode xs := rfl

theorem spell_of_notMem {x : α} (hx : x ∉ t.entities.map Prod.fst) : t.spell x = [x] := by
  have hfind : t.entities.find? (·.1 = x) = none := by
    rw [List.find?_eq_none]
    intro e he hxe
    exact hx (List.mem_map.mpr ⟨e, he, by simpa using hxe⟩)
  rw [spell, hfind]

theorem spell_of_mem {x : α} (hx : x ∈ t.entities.map Prod.fst) :
    ∃ e ∈ t.entities, e.1 = x ∧ t.spell x = e.2 := by
  cases hfind : t.entities.find? (·.1 = x) with
  | none =>
    obtain ⟨e, he, rfl⟩ := List.mem_map.mp hx
    exact absurd (decide_eq_true rfl) (List.find?_eq_none.mp hfind e he)
  | some e =>
    refine ⟨e, List.mem_of_find?_eq_some hfind, by simpa using List.find?_some hfind, ?_⟩
    rw [spell, hfind]

/-- A character is left alone, and then it is not the marker, or it is
spelled by an entity. -/
theorem spell_cases (x : α) :
    (x ∉ t.entities.map Prod.fst ∧ t.spell x = [x]) ∨
      ∃ e ∈ t.entities, e.1 = x ∧ t.spell x = e.2 := by
  by_cases hx : x ∈ t.entities.map Prod.fst
  · exact .inr (t.spell_of_mem hx)
  · exact .inl ⟨hx, t.spell_of_notMem hx⟩

variable {t}

/-- An encoded text has no character in it that an entity stands for, but
for those that entities are written with. -/
theorem mem_encode {xs : List α} {x : α} (h : x ∈ t.encode xs) :
    (x ∈ xs ∧ x ∉ t.entities.map Prod.fst) ∨ ∃ e ∈ t.entities, e.1 ∈ xs ∧ x ∈ e.2 := by
  obtain ⟨y, hy, hx⟩ := List.mem_flatMap.mp h
  rcases t.spell_cases y with ⟨hfree, hspell⟩ | ⟨e, he, rfl, hspell⟩
  · rw [hspell, List.mem_singleton] at hx
    subst hx
    exact .inl ⟨hy, hfree⟩
  · rw [hspell] at hx
    exact .inr ⟨e, he, hy, hx⟩

/-- Every marker of an encoded text begins an entity. -/
theorem entity_of_marker {xs before after : List α}
    (h : t.encode xs = before ++ t.marker :: after) :
    ∃ e ∈ t.entities, e.2 <+: t.marker :: after := by
  induction xs generalizing before with
  | nil => simp at h
  | cons x xs ih =>
    rw [encode_cons] at h
    rcases List.append_eq_append_iff.mp h with ⟨before', -, hrest⟩ | ⟨inside, hspell, hafter⟩
    · exact ih hrest
    · -- the marker is in the spelling of `x`, or right behind it
      cases inside with
      | nil =>
        have hrest : t.encode xs = [] ++ t.marker :: after := hafter.symm
        exact ih hrest
      | cons y inside =>
        rw [List.cons_append, List.cons.injEq] at hafter
        obtain ⟨rfl, rfl⟩ := hafter
        rcases t.spell_cases x with ⟨hfree, halone⟩ | ⟨e, he, -, hentity⟩
        · have hmem : t.marker ∈ [x] := by
            rw [← halone, hspell]
            exact List.mem_append_right _ List.mem_cons_self
          rw [List.mem_singleton] at hmem
          exact absurd t.escaped (hmem ▸ hfree)
        · rw [hentity] at hspell
          obtain ⟨hmark, htail⟩ := marked_eq he
          cases before with
          | nil =>
            refine ⟨e, he, ?_⟩
            rw [hspell, List.nil_append, ← List.cons_append]
            exact List.prefix_append _ _
          | cons z before =>
            rw [hspell, List.cons_append, List.tail_cons] at htail
            exact absurd (List.mem_append_right _ List.mem_cons_self) htail

/-! ## The pass back -/

theorem decodeFrom_length (xs ys : List α) : t.decodeFrom xs.length (xs ++ ys) = t.decode ys := by
  induction xs with
  | nil => rfl
  | cons x xs ih => exact ih

/-- A character that is no marker is read as it is. -/
theorem decode_cons_of_ne {x : α} (hx : x ≠ t.marker) (ys : List α) :
    t.decode (x :: ys) = x :: t.decode ys := by
  have hfind : t.entities.find? (·.2.isPrefixOf (x :: ys)) = none := by
    rw [List.find?_eq_none]
    intro e he hprefix
    rw [List.isPrefixOf_iff_prefix, (marked_eq he).1, List.cons_prefix_cons] at hprefix
    exact hx hprefix.1.symm
  rw [decode, decodeFrom, hfind]
  rfl

/-- An entity is read as its character, whatever is behind it. -/
theorem decode_entity {e : α × List α} (he : e ∈ t.entities) (ys : List α) :
    t.decode (e.2 ++ ys) = e.1 :: t.decode ys := by
  have hmark := (marked_eq he).1
  have hfind : t.entities.find? (·.2.isPrefixOf (e.2 ++ ys)) = some e := by
    cases hfind : t.entities.find? (·.2.isPrefixOf (e.2 ++ ys)) with
    | none =>
      refine absurd ?_ (List.find?_eq_none.mp hfind e he)
      rw [List.isPrefixOf_iff_prefix]
      exact List.prefix_append _ _
    | some e' =>
      -- two entities that begin the same text: one begins the other
      have he' := List.mem_of_find?_eq_some hfind
      have hprefix : e'.2 <+: e.2 ++ ys :=
        List.isPrefixOf_iff_prefix.mp (by simpa using List.find?_some hfind)
      rcases List.prefix_or_prefix_of_prefix hprefix (List.prefix_append e.2 ys) with h | h
      · rw [t.prefixFree e' he' e he h]
      · rw [t.prefixFree e he e' he' h]
  have hskip := decodeFrom_length (t := t) e.2.tail ys
  rw [hmark, List.cons_append] at hfind ⊢
  rw [decode, decodeFrom, hfind, ← hskip, List.length_tail]

theorem decode_encode_append (xs ys : List α) :
    t.decode (t.encode xs ++ ys) = xs ++ t.decode ys := by
  induction xs with
  | nil => rfl
  | cons x xs ih =>
    rw [encode_cons, List.append_assoc, List.cons_append, ← ih]
    rcases t.spell_cases x with ⟨hfree, hspell⟩ | ⟨e, he, rfl, hspell⟩
    · have hx : x ≠ t.marker := by
        intro hx
        exact hfree (hx ▸ t.escaped)
      rw [hspell, List.singleton_append, decode_cons_of_ne hx]
    · rw [hspell, decode_entity he]

/-- The pass gives back what was encoded. -/
theorem decode_encode (xs : List α) : t.decode (t.encode xs) = xs := by
  have h := decode_encode_append (t := t) xs []
  rw [List.append_nil] at h
  rw [h]
  exact List.append_nil xs

theorem encode_injective : Function.Injective t.encode :=
  Function.LeftInverse.injective (g := t.decode) decode_encode

end EntityTable

end KaniNetwork
