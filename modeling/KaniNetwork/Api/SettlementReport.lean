/-
KaniNetwork.Api.SettlementReport — settlement summaries page by page.

A summary counts over one page of the chain: `BlockSearch` takes the page,
the window drops blocks from it afterwards. Its figures are counts and
tallies of the transactions of each kind (`figures_report`), so the figures
of consecutive pages add up to those of their blocks together, whatever the
window drops of each page (`sum_pages`).

Over the whole chain minted less burned is what the books say was issued,
and the ledger keeps its issued amounts as the books of its chain.
-/
import KaniNetwork.Api.Reports
import KaniNetwork.Base.Tally
import KaniNetwork.Ledger.Replay

namespace KaniNetwork

open InMemoryLedger

/-- The figures of a settlement summary. -/
@[ext] structure SettlementFigures where
  blockCount : Nat
  transactionCount : Nat
  mintCount : Nat
  burnCount : Nat
  transferCount : Nat
  minted : BTreeMap String Int
  burned : BTreeMap String Int
  transferred : BTreeMap String Int

def SettlementSummaryReport.figures (report : SettlementSummaryReport) : SettlementFigures where
  blockCount := report.blockCount
  transactionCount := report.transactionCount
  mintCount := report.mintCount
  burnCount := report.burnCount
  transferCount := report.transferCount
  minted := report.mintedAmountByAsset
  burned := report.burnedAmountByAsset
  transferred := report.grossTransferAmountByAsset

namespace SettlementFigures

def zero : SettlementFigures := ⟨0, 0, 0, 0, 0, .new, .new, .new⟩

/-- Counts are added, totals asset by asset. -/
def add (a b : SettlementFigures) : SettlementFigures where
  blockCount := a.blockCount + b.blockCount
  transactionCount := a.transactionCount + b.transactionCount
  mintCount := a.mintCount + b.mintCount
  burnCount := a.burnCount + b.burnCount
  transferCount := a.transferCount + b.transferCount
  minted := a.minted.merge b.minted
  burned := a.burned.merge b.burned
  transferred := a.transferred.merge b.transferred

def sum (figures : List SettlementFigures) : SettlementFigures := figures.foldl add zero

end SettlementFigures

/-- The summary of the page a filter asks for (`get_settlement_summary_report`
behind its checks). -/
def settlementSummary (toRfc3339 : DateTime → String) (l : InMemoryLedger)
    (filter : ReportFilter) : SettlementSummaryReport :=
  buildSettlementSummaryReport toRfc3339 filter
    (filter.applyBlockWindow (filter.toBlockSearch.apply l.blocks))

/-! ## The figures of a list of blocks -/

/-- Asset and amount of the transactions of a kind. -/
def amountsOf (kind : TransactionKind) (txs : List Transaction) : List (String × Int) :=
  (txs.filter fun tx => tx.kind = kind).map fun tx => (tx.asset, tx.amount)

/-- The figures of the transactions `txs` of `blocks` blocks. -/
def figuresOf (blocks : Nat) (txs : List Transaction) : SettlementFigures where
  blockCount := blocks
  transactionCount := txs.length
  mintCount := (amountsOf .mint txs).length
  burnCount := (amountsOf .burn txs).length
  transferCount := (amountsOf .transfer txs).length
  minted := .addAll .new (amountsOf .mint txs)
  burned := .addAll .new (amountsOf .burn txs)
  transferred := .addAll .new (amountsOf .transfer txs)

theorem amountsOf_cons (kind : TransactionKind) (tx : Transaction) (txs : List Transaction) :
    amountsOf kind (tx :: txs) =
      if tx.kind = kind then (tx.asset, tx.amount) :: amountsOf kind txs
      else amountsOf kind txs := by
  simp only [amountsOf, List.filter_cons, decide_eq_true_eq]
  split <;> rfl

theorem amountsOf_append (kind : TransactionKind) (txs txs' : List Transaction) :
    amountsOf kind (txs ++ txs') = amountsOf kind txs ++ amountsOf kind txs' := by
  simp only [amountsOf, List.filter_append, List.map_append]

/-- Every transaction is of one kind. -/
theorem length_amountsOf (txs : List Transaction) :
    (amountsOf .mint txs).length + (amountsOf .burn txs).length +
      (amountsOf .transfer txs).length = txs.length := by
  induction txs with
  | nil => rfl
  | cons tx txs ih =>
    simp only [amountsOf_cons, List.length_cons]
    cases tx.kind <;> simp <;> omega

/-- The loop of the report tallies each kind. -/
theorem foldl_settlementTotals (totals : SettlementTotals) (txs : List Transaction) :
    txs.foldl SettlementTotals.add totals =
      { mintCount := totals.mintCount + (amountsOf .mint txs).length
        burnCount := totals.burnCount + (amountsOf .burn txs).length
        transferCount := totals.transferCount + (amountsOf .transfer txs).length
        minted := totals.minted.addAll (amountsOf .mint txs)
        burned := totals.burned.addAll (amountsOf .burn txs)
        transferred := totals.transferred.addAll (amountsOf .transfer txs) } := by
  induction txs generalizing totals with
  | nil => rfl
  | cons tx txs ih =>
    rw [List.foldl_cons, ih]
    simp only [amountsOf_cons, SettlementTotals.add]
    cases tx.kind <;> simp [BTreeMap.addAll_cons, Nat.add_assoc, Nat.add_comm 1] <;> rfl

/-- The figures of a report. -/
theorem figures_report (toRfc3339 : DateTime → String) (filter : ReportFilter)
    (blocks : List Block) :
    (buildSettlementSummaryReport toRfc3339 filter blocks).figures =
      figuresOf blocks.length (blocks.flatMap Block.txs) := by
  have htotals := foldl_settlementTotals .zero (blocks.flatMap Block.txs)
  simp only [SettlementSummaryReport.figures, buildSettlementSummaryReport, htotals]
  simp only [SettlementTotals.zero, Nat.zero_add, length_amountsOf]
  rfl

/-! ## Pages -/

theorem figuresOf_append (n n' : Nat) (txs txs' : List Transaction) :
    figuresOf (n + n') (txs ++ txs') = (figuresOf n txs).add (figuresOf n' txs') := by
  simp only [figuresOf, SettlementFigures.add, amountsOf_append, List.length_append,
    BTreeMap.addAll_append, BTreeMap.merge_addAll]

/-- The figures of the parts add up to those of the whole. -/
theorem sum_figuresOf (parts : List (List Block)) :
    SettlementFigures.sum (parts.map fun blocks =>
      figuresOf blocks.length (blocks.flatMap Block.txs)) =
      figuresOf parts.flatten.length (parts.flatten.flatMap Block.txs) := by
  induction parts using List.reverseRecOn with
  | nil => rfl
  | append_singleton parts blocks ih =>
    rw [SettlementFigures.sum, List.map_append, List.foldl_append, ← SettlementFigures.sum, ih]
    rw [List.flatten_append, List.flatten_singleton, List.length_append, List.flatMap_append,
      figuresOf_append]
    rfl

theorem applyBlockWindow_flatMap {α : Type} (filter : ReportFilter) (xs : List α)
    (f : α → List Block) :
    filter.applyBlockWindow (xs.flatMap f) = xs.flatMap fun x => filter.applyBlockWindow (f x) :=
  List.filter_flatMap

/-- The summaries of the pages, whatever the window drops of each. -/
theorem sum_settlementSummary (toRfc3339 : DateTime → String) (l : InMemoryLedger)
    (filter : ReportFilter) {limit n : Nat} (hn : l.blocks.length ≤ n * limit) :
    SettlementFigures.sum ((List.range n).map fun k : Nat =>
        (settlementSummary toRfc3339 l
          { filter with limit := limit, offset := k * limit }).figures) =
      (buildSettlementSummaryReport toRfc3339 filter
        (filter.applyBlockWindow l.blocks)).figures := by
  have hpage (k : Nat) : (settlementSummary toRfc3339 l
      { filter with limit := limit, offset := k * limit }).figures =
        let blocks := filter.applyBlockWindow (page limit (k * limit) l.blocks)
        figuresOf blocks.length (blocks.flatMap Block.txs) := figures_report _ _ _
  have hwhole := flatMap_pages limit n l.blocks
  rw [List.take_of_length_le hn] at hwhole
  have hparts := sum_figuresOf ((List.range n).map fun k =>
    filter.applyBlockWindow (page limit (k * limit) l.blocks))
  rw [← List.flatMap_def, ← applyBlockWindow_flatMap, hwhole, List.map_map] at hparts
  simp only [hpage, figures_report]
  exact hparts

/-! ## Issuance -/

/-- Minted less burned is issued. -/
theorem minted_sub_burned (txs : List Transaction) (asset : String) :
    (BTreeMap.addAll .new (amountsOf .mint txs)).amount asset -
      (BTreeMap.addAll .new (amountsOf .burn txs)).amount asset =
        (Books.replay txs).issued asset := by
  simp only [BTreeMap.amount_addAll, BTreeMap.amount_new, zero_add, Books.replay_issued]
  induction txs with
  | nil => rfl
  | cons tx txs ih =>
    rw [List.map_cons, List.sum_cons, ← ih]
    simp only [amountsOf_cons, Transaction.issuedDelta]
    cases tx.kind <;> simp [eq_comm] <;> split <;> omega

theorem applyBlockWindow_none {filter : ReportFilter} (hfrom : filter.createdFrom = none)
    (hto : filter.createdTo = none) (blocks : List Block) : filter.applyBlockWindow blocks = blocks := by
  simp [ReportFilter.applyBlockWindow, hfrom, hto]

/-- **Settlement summaries reconcile.** On every ledger that public
operations reach from `sandbox`, the summaries of the pages at the offsets
`0`, `limit`, `2 * limit`, … add up to the summary of all blocks in the
window; and without a window minted less burned is what is issued, and every
transaction of the chain is counted. -/
theorem settlement_summaries_reconcile (d : Draws) (ops : List LedgerOp)
    (toRfc3339 : DateTime → String) (filter : ReportFilter) :
    let l := (sandbox d).run .exact ops
    let whole := buildSettlementSummaryReport toRfc3339 filter (filter.applyBlockWindow l.blocks)
    (∀ (limit : Int) (n : Nat), 1 ≤ limit → l.blocks.length ≤ n * limit →
      SettlementFigures.sum ((List.range n).map fun k : Nat =>
        (settlementSummary toRfc3339 l
          { filter with limit := limit, offset := k * limit }).figures) = whole.figures) ∧
    (filter.createdFrom = none → filter.createdTo = none →
      (∀ asset, whole.mintedAmountByAsset.amount asset -
        whole.burnedAmountByAsset.amount asset = l.issuedOf asset) ∧
      whole.transactionCount = (l.blocks.flatMap Block.txs).length) := by
  intro l whole
  have hfigures : whole.figures = _ := figures_report toRfc3339 filter _
  refine ⟨?_, ?_⟩
  · intro limit n hlimit hn
    obtain ⟨m, rfl⟩ := Int.eq_ofNat_of_zero_le (show 0 ≤ limit by omega)
    exact sum_settlementSummary toRfc3339 l filter (by exact_mod_cast hn)
  · intro hfrom hto
    rw [applyBlockWindow_none hfrom hto] at hfigures
    constructor
    · intro asset
      have hbooks : l.books = _ := (reconciled_run d ops).books_eq
      have hissued := minted_sub_burned (l.blocks.flatMap Block.txs) asset
      rw [← hbooks] at hissued
      have hminted : whole.mintedAmountByAsset = _ := congrArg SettlementFigures.minted hfigures
      have hburned : whole.burnedAmountByAsset = _ := congrArg SettlementFigures.burned hfigures
      rw [hminted, hburned]
      exact hissued
    · exact congrArg SettlementFigures.transactionCount hfigures

/-- A chain of a mint and a burn. -/
def exampleSummaryOps : List LedgerOp :=
  [.applyBlock (.numbered "b" 1) ((Block.newUnsealed 10 1 GENESIS_HASH
      [.newMint ⟨"mint", 0⟩ SANDBOX_TREASURY_ACCOUNT SANDBOX_CORP_A_ACCOUNT KCAD_TEST 5 1]
      "validator-a").sealed "h1" [] []),
    .applyBlock (.numbered "b" 2) ((Block.newUnsealed 20 2 "h1"
      [.newBurn ⟨"burn", 0⟩ SANDBOX_CORP_A_ACCOUNT SANDBOX_TREASURY_ACCOUNT KCAD_TEST 2 1]
      "validator-a").sealed "h2" [] [])]

/-- Its two pages of one block under a window that drops the mint, and what
it issues. -/
theorem settlement_summaries_reconcile_example :
    let l := (sandbox (.numbered "s" 0)).run .exact exampleSummaryOps
    let report (filter : ReportFilter) :=
      buildSettlementSummaryReport toString filter (filter.applyBlockWindow l.blocks)
    let page (offset : Int) := (settlementSummary toString l ⟨some 15, none, 1, offset⟩).figures
    SettlementFigures.sum [page 0, page 1] = (report ⟨some 15, none, 1, 0⟩).figures ∧
      (report ⟨none, none, 1, 0⟩).mintedAmountByAsset.amount KCAD_TEST -
        (report ⟨none, none, 1, 0⟩).burnedAmountByAsset.amount KCAD_TEST =
          l.issuedOf KCAD_TEST ∧
      l.issuedOf KCAD_TEST = 3 := by
  intro l report page
  have hpages := (settlement_summaries_reconcile (.numbered "s" 0) exampleSummaryOps toString
    ⟨some 15, none, 1, 0⟩).1 1 2 (by decide) (by decide +kernel)
  have hissued := ((settlement_summaries_reconcile (.numbered "s" 0) exampleSummaryOps toString
    ⟨none, none, 1, 0⟩).2 rfl rfl).1 KCAD_TEST
  refine ⟨?_, hissued, by decide +kernel⟩
  simpa [List.range_succ] using hpages

end KaniNetwork
