/-
KaniNetwork.Store.LoadedLedger — the ledger of a database.

`Database.ledger` is the ledger a process has loaded when nobody writes in
between. Its parts are what the queries of the store return, so a method of
the store that sends one query answers as the ledger does. `query_blocks`
sends two, one for a page of rows and one for their transactions; the
blocks it puts together are a page of the chain of the first moment if the
chain has only grown until the second (`blocks_of_queries`).
-/
import KaniNetwork.Base.Rows
import KaniNetwork.Ledger.Search
import KaniNetwork.Store.Chain
import KaniNetwork.Store.Selects

namespace KaniNetwork

namespace Database

/-- `from_snapshot` of the snapshot of one moment. -/
def ledger (ar : Arith) (db : Database) : InMemoryLedger := .fromSnapshot (readSnapshot ar db)

variable {ar : Arith} {db db' : Database}

theorem ledger_blocks : (db.ledger ar).blocks = db.chain := readSnapshot_blocks ar db

theorem ledger_institution (id : String) :
    (db.ledger ar).institutions.lookup id = db.institutions.find? id := by
  have hrows : db.institutionRows.Perm db.institutions.rows := List.perm_insertionSort _ _
  exact (db.institutions.lookup_ofPairs_rows hrows (fun i => i) id).trans Option.map_id'

theorem ledger_journalEntries : (db.ledger ar).journalEntries = db.journalRows := rfl

/-- A page of the matching rows is a page of the matches. -/
theorem ledger_journalPage (search : JournalEntrySearch) :
    search.apply (db.ledger ar).journalEntries = db.journalPage search := by
  have htotal : Std.Total fun a b : JournalEntry => a.id ≤ b.id := ⟨fun a b => le_total _ _⟩
  have htrans : IsTrans JournalEntry fun a b => a.id ≤ b.id := ⟨fun a b c => le_trans⟩
  have := total_lex (r := fun a b : JournalEntry => a.id ≤ b.id) JournalEntry.createdAt
  have := trans_lex (r := fun a b : JournalEntry => a.id ≤ b.id) JournalEntry.createdAt
  have hmatches : ∀ e : JournalEntry, search.matchesEntry e =
      (decide (e.accountId = search.accountId) &&
        search.asset.all fun asset => decide (e.asset = asset)) := by
    intro e
    unfold JournalEntrySearch.matchesEntry
    cases search.asset <;> simp
  rw [JournalEntrySearch.apply, ledger_journalEntries, journalRows, filter_insertionSort]
  · rw [journalPage, List.filter_congr fun e _ => hmatches e]
  · rintro a ha b hb (hab | ⟨heq, hab⟩) (hba | ⟨heq', hba⟩)
    · exact absurd hab (lt_asymm hba)
    · exact absurd heq'.symm hab.ne
    · exact absurd heq.symm hba.ne
    · exact Table.eq_of_key_eq ha hb (le_antisymm hab hba)

/-! ## Blocks by two queries -/

theorem txsAt_of_grown (h : db.chain <+: db'.chain) {row : BlockRow} (hrow : row ∈ db.blockRows) :
    txsAt db'.payments row.height = txsAt db.payments row.height := by
  have hblock : row.toBlock (txsAt db.payments row.height) ∈ db.chain := List.mem_map_of_mem hrow
  obtain ⟨row', -, heq⟩ := mem_chain.mp (h.subset hblock)
  have hheight : row.height = row'.height := congrArg Block.height heq
  have htxs : txsAt db.payments row.height = txsAt db'.payments row'.height :=
    congrArg Block.txs heq
  rw [htxs, hheight]

theorem mem_transactionsOfBlocks {heights : List Int} {x : Int × Transaction} :
    x ∈ db.transactionsOfBlocks heights ↔
      x.1 ∈ heights ∧ ∃ r ∈ db.transactions.rows, r.blockHeight = some x.1 ∧ r.toTransaction = x.2 := by
  obtain ⟨height, tx⟩ := x
  simp only [transactionsOfBlocks, List.mem_map, List.mem_insertionSort, List.mem_filter,
    List.mem_filterMap, Option.map_eq_some_iff, List.contains_iff_mem]
  constructor
  · rintro ⟨_, ⟨⟨r, hr, k, hblock, rfl⟩, hin⟩, heq⟩
    cases heq
    exact ⟨hin, r, hr, hblock, rfl⟩
  · rintro ⟨hin, r, hr, hblock, rfl⟩
    exact ⟨(height, r), ⟨⟨r, hr, height, hblock, rfl⟩, hin⟩, rfl⟩

/-- The rows of the second query come by height and then in the order of the
queue. -/
theorem transactionsOfBlocks_pairwise (db : Database) (heights : List Int) :
    (db.transactionsOfBlocks heights).Pairwise fun x y => x.1 = y.1 → x.2.Before y.2 := by
  let before (x y : Int × TransactionRow) : Prop := x.2.Before y.2
  have : Std.Total before := ⟨fun x y => Std.Total.total (r := TransactionRow.Before) x.2 y.2⟩
  have : IsTrans (Int × TransactionRow) before :=
    ⟨fun x y z => IsTrans.trans (r := TransactionRow.Before) x.2 y.2 z.2⟩
  have := total_lex (r := before) Prod.fst
  have := trans_lex (r := before) Prod.fst
  let joined := (db.transactions.rows.filterMap fun r =>
    r.blockHeight.map fun height => (height, r)).filter fun x => heights.contains x.1
  have hdistinct : joined.Pairwise fun x y => x.2.id ≠ y.2.id := by
    refine .filter _ (List.pairwise_filterMap.mpr ((List.pairwise_map.mp db.transactions.nodup).imp ?_))
    intro r r' hne x hx y hy
    obtain ⟨_, -, rfl⟩ := Option.map_eq_some_iff.mp hx
    obtain ⟨_, -, rfl⟩ := Option.map_eq_some_iff.mp hy
    exact hne
  have hperm := List.perm_insertionSort
    (fun x y : Int × TransactionRow => x.1 < y.1 ∨ (x.1 = y.1 ∧ x.2.Before y.2)) joined
  have hdistinct' := (hperm.pairwise_iff fun {x y} (h : x.2.id ≠ y.2.id) => h.symm).mpr hdistinct
  rw [transactionsOfBlocks, List.pairwise_map]
  refine ((List.pairwise_insertionSort _ joined).and hdistinct').imp ?_
  rintro x y ⟨hbefore, hne⟩ heq
  rcases hbefore with hlt | ⟨-, hbefore⟩
  · exact absurd heq hlt.ne
  · exact hbefore.imp_right (And.imp_right fun hid => lt_of_le_of_ne hid hne)

/-- For one of its heights they are the transactions of the block. -/
theorem transactionsOfBlocks_at {heights : List Int} {height : Int} (hheight : height ∈ heights) :
    ((db.transactionsOfBlocks heights).filter fun x => x.1 = height).map Prod.snd =
      txsAt db.payments height := by
  refine List.Pairwise.eq_of_mem_iff ?_ (txsAt_pairwise db height) fun tx => ?_
  · refine List.pairwise_map.mpr (((db.transactionsOfBlocks_pairwise heights).filter _).imp_of_mem ?_)
    intro x y hx hy hbefore
    have hx := of_decide_eq_true (List.mem_filter.mp hx).2
    have hy := of_decide_eq_true (List.mem_filter.mp hy).2
    exact hbefore (hx.trans hy.symm)
  · rw [mem_txsAt, List.mem_map]
    constructor
    · rintro ⟨x, hx, rfl⟩
      obtain ⟨hx, hat⟩ := List.mem_filter.mp hx
      obtain ⟨-, r, hr, hblock, htx⟩ := mem_transactionsOfBlocks.mp hx
      refine ⟨r, ?_, htx, of_decide_eq_true hat ▸ hblock⟩
      rw [← htx]
      exact Table.mem_rows_iff.mp hr
    · rintro ⟨r, hr, rfl, hblock⟩
      refine ⟨(height, r.toTransaction), List.mem_filter.mpr ⟨?_, decide_eq_true rfl⟩, rfl⟩
      exact mem_transactionsOfBlocks.mpr ⟨hheight, r, Table.mem_of_find? hr, hblock, rfl⟩

/-- What two queries put together is a page of the chain of the first. -/
theorem blocks_of_queries (limit offset : Nat) (h : db.chain <+: db'.chain) :
    (page limit offset db.blockRows).map (fun row => row.toBlock ((group (db'.transactionsOfBlocks
      ((page limit offset db.blockRows).map BlockRow.height))).getOr row.height [])) =
      page limit offset db.chain := by
  have hpage : page limit offset db.chain =
      (page limit offset db.blockRows).map fun row =>
        row.toBlock (txsAt db.payments row.height) := by
    rw [page, page, chain, chainOf, List.map_take, List.map_drop]
  rw [hpage]
  refine List.map_congr_left fun row hrow => ?_
  have hin : row ∈ db.blockRows := List.mem_of_mem_drop (List.mem_of_mem_take hrow)
  rw [getOr_group, transactionsOfBlocks_at (List.mem_map_of_mem hrow), txsAt_of_grown h hin]

end Database

end KaniNetwork
