/-
KaniNetwork.Api.PageArithmetic — the `i64` additions behind a page.

A paged handler asks for `limit + 1` items and hands them to
`from_limit_plus_one`, which passes `offset + limit` to `then_some`. An
argument of `then_some` is evaluated whether or not there are more items,
so the sum is taken for every accepted offset, also for one far behind the
end of the list. `validated_page` bounds the offset from below only.

`PaginatedResponse.fromLimitPlusOne` takes the sum over the integers. Here
the same function is evaluated with `i64` additions that panic outside the
range, as in a build with overflow checks; where none of them does, the two
agree (`pageOnI64_eq_some`).
-/
import KaniNetwork.Api.Reports

namespace KaniNetwork

def I64_MAX : Int := 2 ^ 63 - 1

/-- The values of the type `i64`. -/
def InI64 (n : Int) : Prop := -2 ^ 63 ≤ n ∧ n ≤ I64_MAX

instance (n : Int) : Decidable (InI64 n) := inferInstanceAs (Decidable (_ ∧ _))

/-- `a + b` on `i64`; `none` is the panic. -/
def addI64 (a b : Int) : Option Int := if InI64 (a + b) then some (a + b) else none

/-- `from_limit_plus_one` on `i64`: the argument of `then_some` comes first. -/
def PaginatedResponse.fromLimitPlusOneI64 {α : Type} (items : List α) (limit offset : Int) :
    Option (PaginatedResponse α) := do
  let requested := limit.toNat
  let hasMore := requested < items.length
  let items := if hasMore then items.take requested else items
  let next ← addI64 offset limit
  return {
    items := items
    limit := limit
    offset := offset
    count := items.length
    nextOffset := if hasMore then some next else none }

/-- A page as the handlers evaluate it around their read: the request for
`limit + 1` items, then the response made of the `items` read. -/
def pageOnI64 {α : Type} (limit offset : Int) (items : List α) : Option (PaginatedResponse α) := do
  let _ ← addI64 limit 1
  PaginatedResponse.fromLimitPlusOneI64 items limit offset

/-! ## Ranges -/

theorem addI64_eq_some {a b : Int} (h : InI64 (a + b)) : addI64 a b = some (a + b) := if_pos h

theorem addI64_eq_none {a b : Int} (h : ¬ InI64 (a + b)) : addI64 a b = none := if_neg h

theorem inI64_add_iff {a b : Int} (ha : 0 ≤ a) (hb : 0 ≤ b) :
    InI64 (a + b) ↔ a ≤ I64_MAX - b := by
  unfold InI64
  omega

/-! ## Evaluation -/

section

variable {α : Type} {limit offset : Int}

/-- Where no addition leaves the range, the page is the one over the
integers. -/
theorem pageOnI64_eq_some (hrequest : InI64 (limit + 1)) (hnext : InI64 (offset + limit))
    (items : List α) :
    pageOnI64 limit offset items = some (.fromLimitPlusOne items limit offset) := by
  unfold pageOnI64 PaginatedResponse.fromLimitPlusOneI64
  rw [addI64_eq_some hrequest, addI64_eq_some hnext]
  rfl

theorem isSome_pageOnI64_iff (items : List α) :
    (pageOnI64 limit offset items).isSome ↔ InI64 (limit + 1) ∧ InI64 (offset + limit) := by
  constructor
  · intro h
    by_contra hout
    rw [Decidable.not_and_iff_or_not] at hout
    rcases hout with hrequest | hnext
    · simp [pageOnI64, addI64_eq_none hrequest] at h
    · simp [pageOnI64, PaginatedResponse.fromLimitPlusOneI64, addI64_eq_none hnext] at h
  · rintro ⟨hrequest, hnext⟩
    rw [pageOnI64_eq_some hrequest hnext]
    rfl

/-- A page that `validated_page` accepts evaluates without overflow exactly
when limit and offset leave room for the two sums. -/
theorem paging_arithmetic_iff {queryLimit queryOffset : Option Int} {defaultLimit maxLimit : Int}
    (hpage : validatedPage queryLimit queryOffset defaultLimit maxLimit = .ok (limit, offset))
    (items : List α) :
    (pageOnI64 limit offset items).isSome ↔ limit ≤ I64_MAX - 1 ∧ offset ≤ I64_MAX - limit := by
  obtain ⟨-, hpos, -, -, hoffset⟩ := validatedPage_eq_ok hpage
  rw [isSome_pageOnI64_iff, inI64_add_iff hpos.le (by omega), inI64_add_iff hoffset hpos.le]

theorem paging_arithmetic_example :
    (pageOnI64 100 9223372036854775707 [true, false]).isSome ↔
      (100 : Int) ≤ I64_MAX - 1 ∧ (9223372036854775707 : Int) ≤ I64_MAX - 100 :=
  @paging_arithmetic_iff Bool 100 9223372036854775707 none (some 9223372036854775707)
    DEFAULT_BLOCK_LIMIT MAX_BLOCK_LIMIT rfl [true, false]

/-- With the largest offset the page behind the end of an empty list
overflows. -/
theorem not_paging_arithmetic :
    ¬ ∀ (queryLimit queryOffset : Option Int) (defaultLimit maxLimit limit offset : Int)
      (items : List Block),
      validatedPage queryLimit queryOffset defaultLimit maxLimit = .ok (limit, offset) →
        (pageOnI64 limit offset items).isSome := by
  intro hall
  have hsome := hall none (some I64_MAX) DEFAULT_BLOCK_LIMIT MAX_BLOCK_LIMIT 100 I64_MAX [] rfl
  have hnone : pageOnI64 100 I64_MAX ([] : List Block) = none := rfl
  rw [hnone] at hsome
  cases hsome

end

/-! ## The pages of the API -/

section

variable {α : Type}

/-- The limits of the API are small, so only the offset decides. -/
theorem paging_at_api_iff {queryLimit queryOffset : Option Int}
    {defaultLimit maxLimit limit offset : Int} (hmax : maxLimit ≤ 500)
    (hpage : validatedPage queryLimit queryOffset defaultLimit maxLimit = .ok (limit, offset))
    (items : List α) : (pageOnI64 limit offset items).isSome ↔ offset ≤ I64_MAX - limit := by
  obtain ⟨-, hpos, hle, -, hoffset⟩ := validatedPage_eq_ok hpage
  have hroom : limit ≤ I64_MAX - 1 := by
    unfold I64_MAX
    omega
  rw [isSome_pageOnI64_iff, inI64_add_iff hpos.le (by omega), inI64_add_iff hoffset hpos.le]
  exact and_iff_right hroom

theorem BlockFilter.paging_iff {query : PageQuery} {filter : BlockFilter}
    (h : tryFromQuery query = .ok filter) (items : List α) :
    (pageOnI64 filter.limit filter.offset items).isSome ↔
      filter.offset ≤ I64_MAX - filter.limit := by
  simp only [tryFromQuery, bind_eq_ok_iff] at h
  obtain ⟨⟨limit, offset⟩, hpage, hfilter⟩ := h
  cases hfilter
  exact paging_at_api_iff (by decide) hpage items

theorem AuditEventFilter.paging_iff {parseRfc3339 : String → Option DateTime}
    {query : AuditEventQuery} {filter : AuditEventFilter}
    (h : tryFromQuery parseRfc3339 query = .ok filter) (items : List α) :
    (pageOnI64 filter.limit filter.offset items).isSome ↔
      filter.offset ≤ I64_MAX - filter.limit := by
  simp only [tryFromQuery, bind_eq_ok_iff] at h
  obtain ⟨_, -, ⟨limit, offset⟩, hpage, hfilter⟩ := h
  cases hfilter
  exact paging_at_api_iff (by decide) hpage items

end

end KaniNetwork
