/-
KaniNetwork.Api.LogPages — reading the chain and the audit log page by
page.

In memory mode blocks and audit events are appended and never changed, so
a client that follows `next_offset` reads a list that grows at its end
between its reads: by the event its own read leaves, by other requests, by
anything (`Grown`). `Client` is such a client on the bare reads of the two
handlers, with any limit; `ApiClient` is one whose reads are requests to
the API, with any requests served in between.

The filter of the audit log is applied before the offset, so a page counts
the events that match. Neither a filter nor an event at the end moves what
stands before it.
-/
import KaniNetwork.Api.Refusals

namespace KaniNetwork

open InMemoryLedger

/-- What `get_blocks` answers a known caller with. -/
def blocksPage (filter : BlockFilter) (l : InMemoryLedger) : PaginatedResponse Block :=
  .fromLimitPlusOne ((filter.intoSearchWithLimit (filter.limit + 1)).apply l.blocks)
    filter.limit filter.offset

/-- What `get_audit_events` answers a known caller with. -/
def auditEventsPage (filter : AuditEventFilter) (l : InMemoryLedger) :
    PaginatedResponse AuditEvent :=
  .fromLimitPlusOne ((filter.intoSearchWithLimit (filter.limit + 1)).apply l.auditEvents)
    filter.limit filter.offset

/-- The audit log as a filter shows it. -/
def AuditEventFilter.shown (filter : AuditEventFilter) (l : InMemoryLedger) : List AuditEvent :=
  l.auditEvents.filter (filter.intoSearchWithLimit filter.limit).matchesEvent

/-- Both logs of a ledger only got longer. -/
structure Grown (l l' : InMemoryLedger) : Prop where
  blocks : l.blocks <+: l'.blocks
  auditEvents : l.auditEvents <+: l'.auditEvents

/-- A client that starts at offset 0 and follows `next_offset`: the ledger
at its last read, and its responses so far. -/
inductive Client {α : Type} (answer : Int → InMemoryLedger → PaginatedResponse α) :
    InMemoryLedger → List (PaginatedResponse α) → Prop
  | first (l : InMemoryLedger) : Client answer l [answer 0 l]
  | next {l l' : InMemoryLedger} {responses : List (PaginatedResponse α)}
    {last : PaginatedResponse α} {offset : Int} (h : Client answer l responses)
    (hlast : responses.getLast? = some last) (hoffset : last.nextOffset = some offset)
    (hgrown : Grown l l') : Client answer l' (responses ++ [answer offset l'])

/-- The same client at the API, `ask` being its request for an offset. -/
inductive ApiClient {α : Type} (state : AppState) (ask : Int → HttpRequest)
    (body : PaginatedResponse α → ResponseBody) :
    InMemoryLedger → List (PaginatedResponse α) → Prop
  | first {l l' : InMemoryLedger} {d : Draws} {headers : HeaderMap} {response : PaginatedResponse α}
    (hserve : state.serve l ⟨d, headers, ask 0⟩ = (l', ⟨200, body response⟩)) :
    ApiClient state ask body l' [response]
  | next {l l' : InMemoryLedger} {responses : List (PaginatedResponse α)}
    {last response : PaginatedResponse α} {offset : Int} {xs : List Exchange} {d : Draws}
    {headers : HeaderMap} (h : ApiClient state ask body l responses)
    (hlast : responses.getLast? = some last) (hoffset : last.nextOffset = some offset)
    (hserve : state.serve (state.run l xs) ⟨d, headers, ask offset⟩ =
      (l', ⟨200, body response⟩)) :
    ApiClient state ask body l' (responses ++ [response])

/-- The items read are the beginning of the log, every response but the last
has `limit` of them, and a response without `next_offset` ends the log. -/
structure GapFree {α : Type} (limit : Int) (log : List α)
    (responses : List (PaginatedResponse α)) : Prop where
  start : responses.flatMap PaginatedResponse.items <+: log
  full : ∀ response ∈ responses.dropLast, (response.items.length : Int) = limit
  whole : ∀ last, responses.getLast? = some last → last.nextOffset = none →
    responses.flatMap PaginatedResponse.items = log

/-! ## One response -/

/-- The response of a search for one item over the limit. -/
theorem fromLimitPlusOne_page {α : Type} (limit offset : Nat) (log : List α) :
    PaginatedResponse.fromLimitPlusOne (page ((limit : Int) + 1).toNat (offset : Int).toNat log)
      limit offset =
    { items := page limit offset log
      limit := limit
      offset := offset
      count := (page limit offset log).length
      nextOffset := if offset + limit < log.length then some (offset + limit) else none } := by
  have hsucc : ((limit : Int) + 1).toNat = limit + 1 := rfl
  simp only [PaginatedResponse.fromLimitPlusOne, hsucc, Int.toNat_natCast, lt_length_page_succ_iff]
  split
  · rw [take_page_succ]
  · rw [page_succ_of_not_lt (by omega)]

/-! ## The client -/

/-- The last response says whether there is more, and from where. -/
structure PointsOn {α : Type} (limit : Nat) (responses : List (PaginatedResponse α))
    (more : Prop) : Prop where
  next : ∀ last offset, responses.getLast? = some last → last.nextOffset = some offset →
    more ∧ offset = ((responses.length * limit : Nat) : Int)
  stop : ∀ last, responses.getLast? = some last → last.nextOffset = none → ¬ more

section

variable {α : Type} {limit : Nat} {log : InMemoryLedger → List α}
  {answer : Int → InMemoryLedger → PaginatedResponse α}

theorem pointsOn_answer
    (hanswer : ∀ offset l, answer offset l =
      .fromLimitPlusOne (page ((limit : Int) + 1).toNat offset.toNat (log l)) limit offset)
    (l : InMemoryLedger) (responses : List (PaginatedResponse α)) :
    PointsOn limit (responses ++ [answer ((responses.length * limit : Nat) : Int) l])
      (responses.length * limit + limit < (log l).length) := by
  have hnext := congrArg PaginatedResponse.nextOffset
    (fromLimitPlusOne_page limit (responses.length * limit) (log l))
  rw [← hanswer] at hnext
  constructor
  · intro last offset hlast hoffset
    rw [List.getLast?_concat] at hlast
    cases hlast
    rw [hnext] at hoffset
    split at hoffset
    · rename_i hmore
      cases hoffset
      refine ⟨hmore, ?_⟩
      rw [List.length_append, List.length_singleton, Nat.succ_mul, Int.natCast_add]
    · cases hoffset
  · intro last hlast hnone
    rw [List.getLast?_concat] at hlast
    cases hlast
    rw [hnext] at hnone
    split at hnone
    · cases hnone
    · rename_i hmore
      exact hmore

/-- A client of a log that only grows follows a growing list. -/
theorem Client.following (hlog : ∀ l l', Grown l l' → log l <+: log l')
    (hanswer : ∀ offset l, answer offset l =
      .fromLimitPlusOne (page ((limit : Int) + 1).toNat offset.toNat (log l)) limit offset)
    {l : InMemoryLedger} {responses : List (PaginatedResponse α)} (h : Client answer l responses) :
    ∃ more, Following limit (log l) (responses.map PaginatedResponse.items) more ∧
      PointsOn limit responses more := by
  have hitems : ∀ (offset : Nat) (l : InMemoryLedger),
      (answer offset l).items = page limit offset (log l) := by
    intro offset l
    rw [hanswer, fromLimitPlusOne_page limit]
  induction h with
  | first l =>
    have hpoints := pointsOn_answer hanswer l []
    rw [List.length_nil, Nat.zero_mul, Nat.zero_add] at hpoints
    refine ⟨_, ?_, hpoints⟩
    rw [List.map_singleton, show (answer 0 l).items = _ from hitems 0 l]
    exact .first (log l)
  | @next l l' responses last offset h hlast hoffset hgrown ih =>
    obtain ⟨more, hfollowing, hpoints⟩ := ih
    obtain ⟨hmore, rfl⟩ := hpoints.next last offset hlast hoffset
    refine ⟨_, ?_, pointsOn_answer hanswer l' responses⟩
    have hnext := hfollowing.next hmore (hlog l l' hgrown)
    rw [List.length_map] at hnext
    rw [List.map_append, List.map_singleton, hitems]
    exact hnext

/-- So it misses nothing and repeats nothing. -/
theorem Client.gapFree (hlog : ∀ l l', Grown l l' → log l <+: log l') {limit : Int}
    (hlimit : 1 ≤ limit)
    (hanswer : ∀ offset l, answer offset l =
      .fromLimitPlusOne (page (limit + 1).toNat offset.toNat (log l)) limit offset)
    {l : InMemoryLedger} {responses : List (PaginatedResponse α)} (h : Client answer l responses) :
    GapFree limit (log l) responses := by
  obtain ⟨n, rfl⟩ := Int.eq_ofNat_of_zero_le (show 0 ≤ limit by omega)
  obtain ⟨more, hfollowing, hpoints⟩ := h.following hlog hanswer
  have hcomplete := hfollowing.complete
  constructor
  · exact hcomplete.start
  · intro response hresponse
    have hmem : response.items ∈ (responses.map PaginatedResponse.items).dropLast := by
      rw [← List.map_dropLast]
      exact List.mem_map_of_mem hresponse
    rw [hcomplete.full _ hmem]
  · intro last hlast hnone
    exact hcomplete.whole (hpoints.stop last hlast hnone)

end

/-! ## The logs of a ledger -/

theorem Grown.refl (l : InMemoryLedger) : Grown l l := ⟨List.prefix_refl _, List.prefix_refl _⟩

theorem Grown.trans {l₁ l₂ l₃ : InMemoryLedger} (h : Grown l₁ l₂) (h' : Grown l₂ l₃) :
    Grown l₁ l₃ :=
  ⟨h.blocks.trans h'.blocks, h.auditEvents.trans h'.auditEvents⟩

theorem Audited.grown {l l' : InMemoryLedger} (h : Audited l l') : Grown l l' := by
  obtain ⟨events, rfl⟩ := h
  exact ⟨List.prefix_refl _, List.prefix_append _ _⟩

theorem Grown.shown {l l' : InMemoryLedger} (h : Grown l l') (filter : AuditEventFilter) :
    filter.shown l <+: filter.shown l' :=
  h.auditEvents.filter _

theorem InMemoryLedger.Applied.grown {ar : Arith} {d : Draws} {l l' : InMemoryLedger} {block : Block}
    {records : List PaymentRecord} (h : Applied ar d l block l' records) : Grown l l' := by
  obtain ⟨event, -, -, haudit⟩ := h.audit_eq
  constructor
  · rw [h.blocks_eq]
    exact List.prefix_append _ _
  · rw [haudit, List.append_assoc]
    exact List.prefix_append _ _

theorem KaniNode.Effect.grown {n : KaniNode} {op : NodeOp} {l l' : InMemoryLedger}
    (h : n.Effect op l l') : Grown l l' := by
  cases h with
  | unchanged => exact .refl l
  | admin _ _ _ hblocks hevents =>
    constructor
    · rw [hblocks]
    · rw [hevents]
      exact List.prefix_append _ _
  | resolved | held => exact ⟨List.prefix_refl _, List.prefix_refl _⟩
  | produced _ _ _ _ _ hproduced =>
    obtain ⟨_, _, _, _, _, happlied, _⟩ := hproduced.block
    exact happlied.grown

namespace AppState

variable {state : AppState}

theorem serve_grown (l : InMemoryLedger) (x : Exchange) : Grown l (state.serve l x).1 := by
  rcases hserve : state.serve l x with ⟨l', response⟩
  rcases state.serve_cases l x hserve with ⟨-, hserved⟩ | ⟨error, -, hfailed⟩
  · cases hserved with
    | answered _ _ hl' => exact hl'.grown
    | acted op l₁ _ _ _ hl₁ hl' =>
      exact hl₁.grown.trans ((state.node.step_effect l₁ op).grown.trans hl'.grown)
  · cases hfailed with
    | denied => exact ((Audited.refl l).record _).grown
    | screenedOut => exact (((Audited.refl l).record _).record _).grown
    | faulty _ _ _ hl' => exact hl'.grown

theorem run_grown (l : InMemoryLedger) (xs : List Exchange) : Grown l (state.run l xs) := by
  induction xs generalizing l with
  | nil => exact .refl l
  | cons x xs ih => exact (serve_grown l x).trans (ih _)

/-! ## The two handlers -/

/-- A response of a certain body comes off the success of a handler. -/
theorem serve_of_ends {l l' : InMemoryLedger} {x : Exchange} {response : Response}
    {P : Response → InMemoryLedger → Prop}
    (hserve : state.serve l x = (l', response)) (hbody : ∀ text, response.body ≠ .error text)
    (hends : (state.handle x.draws x.headers x.request).Ends l P fun _ _ => True) :
    P response l' := by
  unfold Method.Ends at hends
  unfold serve at hserve
  rcases hrun : state.handle x.draws x.headers x.request l with ⟨l₁, r⟩
  rw [hrun] at hserve hends
  cases r with
  | ok response' =>
    cases hserve
    exact hends
  | error error =>
    cases hserve
    exact absurd rfl (hbody error.message)

theorem getBlocks_ends (l : InMemoryLedger) (d : Draws) (headers : HeaderMap) (query : PageQuery) :
    (state.getBlocks d headers query).Ends l
      (fun response l' => ∃ filter, BlockFilter.tryFromQuery query = .ok filter ∧
        response = ⟨200, .blocks (blocksPage filter l')⟩) fun _ _ => True := by
  refine .bind_of_forall (fun _ _ => trivial) fun _ l' => ?_
  refine .ofExcept_bind (fun _ _ => trivial) fun filter hfilter => ?_
  exact .get_bind (.pure ⟨filter, hfilter, rfl⟩)

theorem getAuditEvents_ends (l : InMemoryLedger) (d : Draws) (headers : HeaderMap)
    (query : AuditEventQuery) :
    (state.getAuditEvents d headers query).Ends l
      (fun response l' => ∃ filter,
        AuditEventFilter.tryFromQuery state.libraries.parseRfc3339 query = .ok filter ∧
        response = ⟨200, .auditEvents (auditEventsPage filter l')⟩) fun _ _ => True := by
  refine .bind_of_forall (fun _ _ => trivial) fun _ l' => ?_
  refine .ofExcept_bind (fun _ _ => trivial) fun filter hfilter => ?_
  exact .get_bind (.pure ⟨filter, hfilter, rfl⟩)

theorem serve_getBlocks {l l' : InMemoryLedger} {d : Draws} {headers : HeaderMap}
    {query : PageQuery} {response : PaginatedResponse Block}
    (hserve : state.serve l ⟨d, headers, .getBlocks query⟩ = (l', ⟨200, .blocks response⟩)) :
    ∃ filter, BlockFilter.tryFromQuery query = .ok filter ∧ response = blocksPage filter l' := by
  obtain ⟨filter, hfilter, hresponse⟩ :=
    serve_of_ends hserve (fun _ h => by cases h) (getBlocks_ends l d headers query)
  cases hresponse
  exact ⟨filter, hfilter, rfl⟩

theorem serve_getAuditEvents {l l' : InMemoryLedger} {d : Draws} {headers : HeaderMap}
    {query : AuditEventQuery} {response : PaginatedResponse AuditEvent}
    (hserve : state.serve l ⟨d, headers, .getAuditEvents query⟩ =
      (l', ⟨200, .auditEvents response⟩)) :
    ∃ filter, AuditEventFilter.tryFromQuery state.libraries.parseRfc3339 query = .ok filter ∧
      response = auditEventsPage filter l' := by
  obtain ⟨filter, hfilter, hresponse⟩ :=
    serve_of_ends hserve (fun _ h => by cases h) (getAuditEvents_ends l d headers query)
  cases hresponse
  exact ⟨filter, hfilter, rfl⟩

end AppState

/-! ## The client at the API -/

/-- Requests for two offsets are read as the same filter at the two offsets. -/
theorem BlockFilter.tryFromQuery_at {query : PageQuery} {offset : Int}
    {filter filter' : BlockFilter} (h : tryFromQuery { query with offset := some 0 } = .ok filter)
    (h' : tryFromQuery { query with offset := some offset } = .ok filter') :
    filter' = { filter with offset := offset } := by
  simp only [tryFromQuery, bind_eq_ok_iff] at h h'
  obtain ⟨⟨limit, _⟩, hpage, hfilter⟩ := h
  obtain ⟨⟨limit', _⟩, hpage', hfilter'⟩ := h'
  cases hfilter
  cases hfilter'
  obtain ⟨rfl, -, -, rfl, -⟩ := validatedPage_eq_ok hpage
  obtain ⟨rfl, -, -, rfl, -⟩ := validatedPage_eq_ok hpage'
  rfl

theorem BlockFilter.limit_pos {query : PageQuery} {filter : BlockFilter}
    (h : tryFromQuery query = .ok filter) : 1 ≤ filter.limit := by
  simp only [tryFromQuery, bind_eq_ok_iff] at h
  obtain ⟨⟨limit, offset⟩, hpage, hfilter⟩ := h
  cases hfilter
  exact (validatedPage_eq_ok hpage).2.1

theorem AuditEventFilter.tryFromQuery_at {parseRfc3339 : String → Option DateTime}
    {query : AuditEventQuery} {offset : Int} {filter filter' : AuditEventFilter}
    (h : tryFromQuery parseRfc3339 { query with offset := some 0 } = .ok filter)
    (h' : tryFromQuery parseRfc3339 { query with offset := some offset } = .ok filter') :
    filter' = { filter with offset := offset } := by
  simp only [tryFromQuery, bind_eq_ok_iff] at h h'
  obtain ⟨window, hwindow, ⟨limit, _⟩, hpage, hfilter⟩ := h
  obtain ⟨window', hwindow', ⟨limit', _⟩, hpage', hfilter'⟩ := h'
  rw [hwindow] at hwindow'
  cases hwindow'
  cases hfilter
  cases hfilter'
  obtain ⟨rfl, -, -, rfl, -⟩ := validatedPage_eq_ok hpage
  obtain ⟨rfl, -, -, rfl, -⟩ := validatedPage_eq_ok hpage'
  rfl

theorem AuditEventFilter.limit_pos {parseRfc3339 : String → Option DateTime}
    {query : AuditEventQuery} {filter : AuditEventFilter}
    (h : tryFromQuery parseRfc3339 query = .ok filter) : 1 ≤ filter.limit := by
  simp only [tryFromQuery, bind_eq_ok_iff] at h
  obtain ⟨_, -, ⟨limit, offset⟩, hpage, hfilter⟩ := h
  cases hfilter
  exact (validatedPage_eq_ok hpage).2.1

/-- Whatever is served between its reads only makes the logs longer. -/
theorem ApiClient.client {α : Type} {state : AppState} {ask : Int → HttpRequest}
    {body : PaginatedResponse α → ResponseBody}
    {answer : Int → InMemoryLedger → PaginatedResponse α}
    (hask : ∀ {l l' : InMemoryLedger} {d : Draws} {headers : HeaderMap} {offset : Int}
      {response : PaginatedResponse α},
      state.serve l ⟨d, headers, ask offset⟩ = (l', ⟨200, body response⟩) →
        response = answer offset l')
    {l : InMemoryLedger} {responses : List (PaginatedResponse α)}
    (h : ApiClient state ask body l responses) : Client answer l responses := by
  induction h with
  | @first l l' d headers response hserve =>
    rw [hask hserve]
    exact .first l'
  | @next l l' responses last response offset xs d headers h hlast hoffset hserve ih =>
    have hgrown := (state.run_grown l xs).trans (state.serve_grown _ ⟨d, headers, ask offset⟩)
    rw [hserve] at hgrown
    rw [hask hserve]
    exact ih.next hlast hoffset hgrown

section

variable {l : InMemoryLedger}

theorem Client.blocks_gapFree {limit : Int} (hlimit : 1 ≤ limit)
    {responses : List (PaginatedResponse Block)}
    (h : Client (fun offset => blocksPage ⟨limit, offset⟩) l responses) :
    GapFree limit l.blocks responses :=
  h.gapFree (fun _ _ hgrown => hgrown.blocks) hlimit fun _ _ => rfl

theorem Client.auditEvents_gapFree {filter : AuditEventFilter} (hlimit : 1 ≤ filter.limit)
    {responses : List (PaginatedResponse AuditEvent)}
    (h : Client (fun offset => auditEventsPage { filter with offset := offset }) l responses) :
    GapFree filter.limit (filter.shown l) responses :=
  h.gapFree (fun _ _ hgrown => hgrown.shown filter) hlimit fun _ _ => rfl

theorem ApiClient.blocks_gapFree {state : AppState} {query : PageQuery} {filter : BlockFilter}
    (hfilter : BlockFilter.tryFromQuery { query with offset := some 0 } = .ok filter)
    {responses : List (PaginatedResponse Block)}
    (h : ApiClient state (fun offset => .getBlocks { query with offset := some offset })
      .blocks l responses) : GapFree filter.limit l.blocks responses := by
  refine Client.blocks_gapFree (BlockFilter.limit_pos hfilter) (h.client ?_)
  intro l l' d headers offset response hserve
  obtain ⟨filter', hfilter', rfl⟩ := AppState.serve_getBlocks hserve
  rw [BlockFilter.tryFromQuery_at hfilter hfilter']

theorem ApiClient.auditEvents_gapFree {state : AppState} {query : AuditEventQuery}
    {filter : AuditEventFilter}
    (hfilter : AuditEventFilter.tryFromQuery state.libraries.parseRfc3339
      { query with offset := some 0 } = .ok filter)
    {responses : List (PaginatedResponse AuditEvent)}
    (h : ApiClient state (fun offset => .getAuditEvents { query with offset := some offset })
      .auditEvents l responses) : GapFree filter.limit (filter.shown l) responses := by
  refine Client.auditEvents_gapFree (AuditEventFilter.limit_pos hfilter) (h.client ?_)
  intro l l' d headers offset response hserve
  obtain ⟨filter', hfilter', rfl⟩ := AppState.serve_getAuditEvents hserve
  rw [AuditEventFilter.tryFromQuery_at hfilter hfilter']

end

/-- **Paging an append-only log.** For the chain and for the audit log under
every filter, with every limit and whatever is appended between the reads;
and so for every client of the API. -/
theorem paging_gapFree :
    (∀ (limit : Int), 1 ≤ limit → ∀ (l : InMemoryLedger) (responses : List (PaginatedResponse Block)),
      Client (fun offset => blocksPage ⟨limit, offset⟩) l responses →
        GapFree limit l.blocks responses) ∧
    (∀ (filter : AuditEventFilter), 1 ≤ filter.limit →
      ∀ (l : InMemoryLedger) (responses : List (PaginatedResponse AuditEvent)),
        Client (fun offset => auditEventsPage { filter with offset := offset }) l responses →
          GapFree filter.limit (filter.shown l) responses) ∧
    (∀ (state : AppState) (query : PageQuery) (filter : BlockFilter),
      BlockFilter.tryFromQuery { query with offset := some 0 } = .ok filter →
        ∀ (l : InMemoryLedger) (responses : List (PaginatedResponse Block)),
          ApiClient state (fun offset => .getBlocks { query with offset := some offset })
            .blocks l responses → GapFree filter.limit l.blocks responses) ∧
    ∀ (state : AppState) (query : AuditEventQuery) (filter : AuditEventFilter),
      AuditEventFilter.tryFromQuery state.libraries.parseRfc3339 { query with offset := some 0 } =
        .ok filter →
        ∀ (l : InMemoryLedger) (responses : List (PaginatedResponse AuditEvent)),
          ApiClient state (fun offset => .getAuditEvents { query with offset := some offset })
            .auditEvents l responses → GapFree filter.limit (filter.shown l) responses :=
  ⟨fun _ hlimit _ _ h => h.blocks_gapFree hlimit,
    fun _ hlimit _ _ h => h.auditEvents_gapFree hlimit,
    fun _ _ _ hfilter _ _ h => h.blocks_gapFree hfilter,
    fun _ _ _ hfilter _ _ h => h.auditEvents_gapFree hfilter⟩

/-- Two events at the first read, a third one before the second. -/
theorem paging_gapFree_example :
    let event (i : Nat) := AuditEvent.new (Draws.numbered "s" i).stamp "BLOCK_FINALIZED" "" none none
    let filter : AuditEventFilter := ⟨none, none, none, none, none, 1, 0⟩
    let l := (empty.recordAuditEvent (event 1)).recordAuditEvent (event 2)
    let l' := l.recordAuditEvent (event 3)
    GapFree 1 (filter.shown l')
      [auditEventsPage filter l, auditEventsPage { filter with offset := 1 } l'] := by
  intro event filter l l'
  have hfirst : Client (fun offset => auditEventsPage { filter with offset := offset }) l
      [auditEventsPage filter l] := .first l
  have hclient := hfirst.next rfl rfl ((Audited.refl l).record (event 3)).grown
  exact paging_gapFree.2.1 filter (by decide) l' _ hclient

end KaniNetwork
