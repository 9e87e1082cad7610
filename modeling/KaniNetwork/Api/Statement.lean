/-
KaniNetwork.Api.Statement — the camt.053 statement of an account
(`kani-api`, `kani-iso20022`), and its reconciliation with the journal.

`get_camt053_statement` reads the balance of the account and one page of
its journal; the balance is the closing balance whatever the page. Timestamps
are rendered by a library outside the repository, the parameter
`toRfc3339`.
-/
import KaniNetwork.Iso20022.Report
import KaniNetwork.Ledger.Replay
import KaniNetwork.Ledger.Search

namespace KaniNetwork

open InMemoryLedger

inductive Camt053CreditDebitIndicator where
  | credit | debit
  deriving DecidableEq, Repr

structure Camt053Entry where
  id : String
  transactionId : String
  asset : String
  amount : Int
  direction : Camt053CreditDebitIndicator
  blockHeight : Int
  bookedAt : String
  deriving DecidableEq, Repr

structure Camt053Statement where
  messageId : String
  createdAt : String
  statementId : String
  accountId : String
  asset : String
  balance : Int
  entries : List Camt053Entry
  deriving DecidableEq, Repr

/-- The page of a statement request. -/
structure Camt053StatementFilter where
  asset : String
  limit : Int
  offset : Int
  deriving DecidableEq, Repr

def Camt053StatementFilter.toSearch (filter : Camt053StatementFilter) (accountId : String) :
    JournalEntrySearch where
  accountId := accountId
  asset := some filter.asset
  limit := filter.limit
  offset := filter.offset

def camt053Direction : JournalDirection → Camt053CreditDebitIndicator
  | .credit => .credit
  | .debit => .debit

section

variable (toRfc3339 : DateTime → String)

def camt053EntryFromJournalEntry (entry : JournalEntry) : Camt053Entry where
  id := entry.id
  transactionId := entry.transactionId
  asset := entry.asset
  amount := entry.amount
  direction := camt053Direction entry.direction
  blockHeight := entry.blockHeight
  bookedAt := toRfc3339 entry.createdAt

def camt053StatementFromJournalEntries (now : DateTime) (accountId asset : String)
    (balance : Int) (entries : List JournalEntry) : Camt053Statement :=
  let timestamp := toString (now / 1000000)
  { messageId := "camt.053:" ++ accountId ++ ":" ++ asset ++ ":" ++ timestamp
    createdAt := toRfc3339 now
    statementId := "stmt:" ++ accountId ++ ":" ++ asset ++ ":" ++ timestamp
    accountId := accountId
    asset := asset
    balance := balance
    entries := entries.map (camt053EntryFromJournalEntry toRfc3339) }

/-- `get_camt053_statement` over the in-memory node, once the request is
authorized. -/
def camt053Statement (now : DateTime) (l : InMemoryLedger) (accountId : String)
    (filter : Camt053StatementFilter) : Camt053Statement :=
  let balance := l.balance accountId filter.asset
  let entries := (filter.toSearch accountId).apply l.journalEntries
  camt053StatementFromJournalEntries toRfc3339 now accountId filter.asset balance entries

end

/-! ## The statement as XML -/

def Camt053CreditDebitIndicator.code : Camt053CreditDebitIndicator → String
  | .credit => "CRDT"
  | .debit => "DBIT"

/-- `balance_credit_debit_indicator`. -/
def balanceCreditDebitIndicator (balance : Int) : Camt053CreditDebitIndicator :=
  if balance < 0 then .debit else .credit

/-- `positive_amount`; the least `i128` has no absolute value. -/
def positiveAmount (amount : Int) : Int :=
  if amount = -2 ^ 127 then 2 ^ 127 - 1 else amount.natAbs

/-- The lines of an entry. -/
def camt053EntryLines (entry : Camt053Entry) : List String :=
  ["      <Ntry>\n",
    elementLine 8 "NtryRef" entry.id,
    amountElementLine 8 "Amt" entry.asset (positiveAmount entry.amount),
    elementLine 8 "CdtDbtInd" entry.direction.code,
    "        <Sts>\n", elementLine 10 "Cd" "BOOK", "        </Sts>\n",
    "        <BookgDt>\n", elementLine 10 "DtTm" entry.bookedAt, "        </BookgDt>\n",
    elementLine 8 "AcctSvcrRef" entry.transactionId,
    elementLine 8 "AddtlNtryInf" ("KANI block_height=" ++ toString entry.blockHeight),
    "      </Ntry>\n"]

/-- `build_camt053_statement`. -/
def buildCamt053Statement (statement : Camt053Statement) : String :=
  String.join (
    ["<?xml version=\"1.0\" encoding=\"UTF-8\"?>", "\n",
      "<Document xmlns=\"urn:iso:std:iso:20022:tech:xsd:camt.053.001.08\">", "\n",
      "  <BkToCstmrStmt>\n", "    <GrpHdr>\n",
      elementLine 6 "MsgId" statement.messageId,
      elementLine 6 "CreDtTm" statement.createdAt,
      "    </GrpHdr>\n", "    <Stmt>\n",
      elementLine 6 "Id" statement.statementId,
      elementLine 6 "ElctrncSeqNb" "1",
      "      <Acct>\n", "        <Id>\n", "          <Othr>\n",
      elementLine 12 "Id" statement.accountId,
      "          </Othr>\n", "        </Id>\n",
      elementLine 8 "Ccy" statement.asset,
      "      </Acct>\n", "      <Bal>\n", "        <Tp>\n", "          <CdOrPrtry>\n",
      elementLine 12 "Cd" "CLBD",
      "          </CdOrPrtry>\n", "        </Tp>\n",
      amountElementLine 8 "Amt" statement.asset (positiveAmount statement.balance),
      elementLine 8 "CdtDbtInd" (balanceCreditDebitIndicator statement.balance).code,
      "        <Dt>\n", elementLine 10 "DtTm" statement.createdAt, "        </Dt>\n",
      "      </Bal>\n"]
    ++ statement.entries.flatMap camt053EntryLines
    ++ ["    </Stmt>\n", "  </BkToCstmrStmt>\n", "</Document>\n"])

/-! ## Adding up the journal -/

/-- The entries of one direction of an account and asset, added up. -/
def journalTotal (direction : JournalDirection) (a s : String) (entries : List JournalEntry) :
    Int :=
  ((entries.filter fun e => e.accountId = a ∧ e.asset = s ∧ e.direction = direction).map
    JournalEntry.amount).sum

/-- The entries of a list, credits up and debits down. -/
def netTotal (entries : List JournalEntry) : Int :=
  (entries.map fun e => e.line.signed).sum

theorem netTotal_flatMap {α : Type} (xs : List α) (f : α → List JournalEntry) :
    netTotal (xs.flatMap f) = (xs.map fun x => netTotal (f x)).sum := by
  induction xs with
  | nil => rfl
  | cons x xs ih =>
    rw [List.flatMap_cons, List.map_cons, List.sum_cons, ← ih]
    simp [netTotal]

/-- Credits less debits are the net of the account's lines. -/
theorem netOf_map_line (a s : String) (entries : List JournalEntry) :
    netOf a s (entries.map JournalEntry.line) =
      journalTotal .credit a s entries - journalTotal .debit a s entries := by
  induction entries with
  | nil => rfl
  | cons e entries ih =>
    rw [List.map_cons, netOf_cons, ih]
    unfold journalTotal
    by_cases hkey : e.accountId = a ∧ e.asset = s
    · obtain ⟨ha, hs⟩ := hkey
      cases hd : e.direction <;>
        simp [ha, hs, hd, JournalEntry.line, JournalLine.signed] <;> omega
    · have hline : ¬ (e.line.accountId = a ∧ e.line.asset = s) := hkey
      have hskip (direction : JournalDirection) :
          ¬ (e.accountId = a ∧ e.asset = s ∧ e.direction = direction) :=
        fun h => hkey ⟨h.1, h.2.1⟩
      simp [hline, hskip]

/-- A search for an account and asset finds the entries that count for
them. -/
theorem netTotal_matching (search : JournalEntrySearch) (s : String)
    (hasset : search.asset = some s) (entries : List JournalEntry) :
    netTotal (entries.filter search.matchesEntry) =
      netOf search.accountId s (entries.map JournalEntry.line) := by
  have hmatch : ∀ e : JournalEntry, search.matchesEntry e =
      decide (e.line.accountId = search.accountId ∧ e.line.asset = s) := by
    intro e
    unfold JournalEntrySearch.matchesEntry
    rw [hasset]
    by_cases ha : e.accountId = search.accountId <;> simp [ha, JournalEntry.line]
  have hfilter : (entries.map JournalEntry.line).filter
      (fun line => line.accountId = search.accountId ∧ line.asset = s) =
      (entries.filter search.matchesEntry).map JournalEntry.line := by
    rw [List.filter_map]
    congr 1
    exact List.filter_congr fun e _ => (hmatch e).symm
  rw [netTotal, netOf, hfilter, List.map_map]
  rfl

/-- The page of a search that begins `k` pages in. -/
def statementPage (l : InMemoryLedger) (a s : String) (limit : Int) (k : Nat) :
    List JournalEntry :=
  JournalEntrySearch.apply ⟨a, some s, limit, k * limit⟩ l.journalEntries

/-- The pages of one account and asset, read up to an empty one, are its
journal. -/
theorem sum_netTotal_pages (l : InMemoryLedger) {a s : String} {limit : Int} (hlimit : 0 < limit)
    {n : Nat} (hempty : statementPage l a s limit n = []) :
    ((List.range n).map fun k => netTotal (statementPage l a s limit k)).sum =
      netOf a s (l.journalEntries.map JournalEntry.line) := by
  have hoffset (k : Nat) : ((k : Int) * limit).toNat = k * limit.toNat := by
    rw [Int.toNat_mul (by omega) (by omega), Int.toNat_natCast]
  have hmatches (offset : Int) : (JournalEntrySearch.mk a (some s) limit offset).matchesEntry =
      (JournalEntrySearch.mk a (some s) limit 0).matchesEntry := rfl
  have hpage (k : Nat) : statementPage l a s limit k =
      page limit.toNat (k * limit.toNat)
        (l.journalEntries.filter (JournalEntrySearch.mk a (some s) limit 0).matchesEntry) := by
    simp only [statementPage, JournalEntrySearch.apply, hoffset, hmatches]
  simp only [hpage] at hempty ⊢
  rw [← netTotal_flatMap, flatMap_pages_of_empty (by omega) hempty,
    netTotal_matching _ s rfl l.journalEntries]

/-- They add up to the balance. -/
theorem sum_pages {l : InMemoryLedger} (h : l.Reconciled) {a s : String} {limit : Int}
    (hlimit : 0 < limit) {n : Nat} (hempty : statementPage l a s limit n = []) :
    ((List.range n).map fun k => netTotal (statementPage l a s limit k)).sum = l.balance a s :=
  (sum_netTotal_pages l hlimit hempty).trans (h.netOf_journal a s)

theorem exists_empty_statementPage (l : InMemoryLedger) (a s : String) {limit : Int}
    (hlimit : 0 < limit) : ∃ n, statementPage l a s limit n = [] := by
  have hpos : 0 < limit.toNat := by omega
  obtain ⟨n, hn⟩ := exists_empty_page hpos
    (l.journalEntries.filter (JournalEntrySearch.mk a (some s) limit 0).matchesEntry)
  refine ⟨n, ?_⟩
  have hoffset : ((n : Int) * limit).toNat = n * limit.toNat := by
    rw [Int.toNat_mul (by omega) (by omega), Int.toNat_natCast]
  simp only [statementPage, JournalEntrySearch.apply, hoffset]
  exact hn

/-- **Replay and double entry.** In every ledger reached from the sandbox by
public operations, with amounts read as integers: every balance is its
journal credits less its debits; posting the transactions of the blocks in
order from zero gives the balances, issued amounts and nonces; the journal
is the lines of those transactions in order, with the heights of their
blocks; and the pages of the journal of an account, of any size, add up to
the balance its statement reports. -/
theorem replay_and_double_entry (d : Draws) (ops : List LedgerOp) :
    let l := (sandbox d).run .exact ops
    (∀ a s, l.balance a s =
        journalTotal .credit a s l.journalEntries - journalTotal .debit a s l.journalEntries) ∧
      l.books = .replay (l.blocks.flatMap Block.txs) ∧
      l.journalEntries.map JournalEntry.line =
        l.blocks.flatMap (fun b => b.txs.flatMap fun tx => tx.lines b.height) ∧
      ∀ (a s : String) (limit : Int), 0 < limit →
        (∃ n, statementPage l a s limit n = []) ∧
        ∀ n, statementPage l a s limit n = [] →
          ∀ (toRfc3339 : DateTime → String) (now : DateTime) (offset : Int),
            ((List.range n).map fun k => netTotal (statementPage l a s limit k)).sum =
              (camt053Statement toRfc3339 now l a ⟨s, limit, offset⟩).balance := by
  intro l
  have h : l.Reconciled := reconciled_run d ops
  refine ⟨?_, ?_, ?_, ?_⟩
  · intro a s
    exact (h.netOf_journal a s).symm.trans (netOf_map_line a s l.journalEntries)
  · exact h.books_eq
  · have hlines : (l.history.flatMap fun p => p.2.lines p.1) =
        l.blocks.flatMap (fun b => b.txs.flatMap fun tx => tx.lines b.height) := by
      simp [history, List.flatMap_assoc, Block.postings, List.flatMap_map]
    rw [← hlines]
    exact h.journal
  · intro a s limit hlimit
    refine ⟨exists_empty_statementPage l a s hlimit, ?_⟩
    intro n hempty toRfc3339 now offset
    exact sum_pages h hlimit hempty

/-- A block of a mint and a transfer to the own account. -/
def exampleStatementBlock : Block :=
  (Block.newUnsealed 0 1 GENESIS_HASH
    [.newMint ⟨"mint", 0⟩ SANDBOX_TREASURY_ACCOUNT SANDBOX_CORP_A_ACCOUNT KCAD_TEST 5 1,
      .newTransfer ⟨"self", 0⟩ SANDBOX_CORP_A_ACCOUNT SANDBOX_CORP_A_ACCOUNT KCAD_TEST 2 1]
    "validator-a").sealed "h1" [] []

/-- Its three journal entries, read two a page, add up to the balance. -/
theorem replay_and_double_entry_example :
    let l := (sandbox (.numbered "s" 0)).run .exact
      [.applyBlock (.numbered "b" 1) exampleStatementBlock]
    netTotal (statementPage l SANDBOX_CORP_A_ACCOUNT KCAD_TEST 2 0) +
        netTotal (statementPage l SANDBOX_CORP_A_ACCOUNT KCAD_TEST 2 1) =
      (camt053Statement toString 9 l SANDBOX_CORP_A_ACCOUNT ⟨KCAD_TEST, 2, 0⟩).balance ∧
    (camt053Statement toString 9 l SANDBOX_CORP_A_ACCOUNT ⟨KCAD_TEST, 2, 0⟩).balance = 5 := by
  intro l
  have hempty : statementPage l SANDBOX_CORP_A_ACCOUNT KCAD_TEST 2 2 = [] := by decide +kernel
  have hpages := ((replay_and_double_entry (.numbered "s" 0)
    [.applyBlock (.numbered "b" 1) exampleStatementBlock]).2.2.2 SANDBOX_CORP_A_ACCOUNT KCAD_TEST 2
      (by decide)).2 2 hempty toString 9 0
  refine ⟨?_, by decide +kernel⟩
  simpa [List.range_succ] using hpages

end KaniNetwork
