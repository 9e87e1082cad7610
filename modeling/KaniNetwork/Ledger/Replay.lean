/-
KaniNetwork.Ledger.Replay — the ledger as the replay of its blocks.

`Books` says what balances, issuance and nonces are for: posting a
transaction to the books moves its amount between its two accounts, or in
and out of circulation, and remembers its nonce. `Replays` relates the
working copies of a ledger to a history of transactions, each with the
height of its block: the copies are the books of that history and the
journal has the lines of each transaction in turn. The journal of an
account then adds up to its balance, because the lines of one transaction
add up to what it posts.
-/
import Mathlib.Algebra.BigOperators.Group.List.Basic
import KaniNetwork.Ledger.InMemoryTheorems
import KaniNetwork.Ledger.Operations

namespace KaniNetwork

open InMemoryLedger

/-! ## Books -/

/-- Balances by account and asset, issued amounts by asset, and the last
nonce of each account. -/
@[ext] structure Books where
  balance : String → String → Int
  issued : String → Int
  nonce : String → Int

namespace Books

def zero : Books := ⟨fun _ _ => 0, fun _ => 0, fun _ => 0⟩

/-- Post one transaction. -/
def post (b : Books) (tx : Transaction) : Books where
  balance a s := b.balance a s + tx.balanceDelta a s
  issued s := b.issued s + tx.issuedDelta s
  nonce a := if a = tx.fromAccount then tx.nonce else b.nonce a

/-- The books of a list of transactions, posted in order from zero. -/
def replay (txs : List Transaction) : Books := txs.foldl post zero

theorem replay_append_singleton (txs : List Transaction) (tx : Transaction) :
    replay (txs ++ [tx]) = (replay txs).post tx := by
  simp [replay]

theorem replay_balance (txs : List Transaction) (a s : String) :
    (replay txs).balance a s = (txs.map fun tx => tx.balanceDelta a s).sum := by
  induction txs using List.reverseRecOn with
  | nil => rfl
  | append_singleton txs tx ih =>
    rw [replay_append_singleton, List.map_append, List.sum_append, ← ih]
    simp [post]

theorem replay_issued (txs : List Transaction) (s : String) :
    (replay txs).issued s = (txs.map fun tx => tx.issuedDelta s).sum := by
  induction txs using List.reverseRecOn with
  | nil => rfl
  | append_singleton txs tx ih =>
    rw [replay_append_singleton, List.map_append, List.sum_append, ← ih]
    simp [post]

end Books

def Working.books (w : Working) : Books := ⟨w.balance, w.issuedOf, w.nonce⟩

/-- The balances, issued amounts and nonces of a ledger; what has no row
reads zero. -/
def InMemoryLedger.books (l : InMemoryLedger) : Books := l.working.books

/-! ## Journal lines -/

/-- A journal entry without its own id and time. -/
structure JournalLine where
  transactionId : String
  accountId : String
  asset : String
  amount : Int
  direction : JournalDirection
  blockHeight : Int
  deriving DecidableEq, Repr

def JournalEntry.line (e : JournalEntry) : JournalLine where
  transactionId := e.transactionId
  accountId := e.accountId
  asset := e.asset
  amount := e.amount
  direction := e.direction
  blockHeight := e.blockHeight

@[simp] theorem JournalEntry.line_new (s : Stamp) (transactionId accountId asset : String)
    (amount : Int) (direction : JournalDirection) (blockHeight : Int) :
    (JournalEntry.new s transactionId accountId asset amount direction blockHeight).line =
      ⟨transactionId, accountId, asset, amount, direction, blockHeight⟩ := rfl

/-- The lines a transaction writes into the journal of its block. -/
def Transaction.lines (tx : Transaction) (blockHeight : Int) : List JournalLine :=
  let line (accountId : String) (direction : JournalDirection) : JournalLine :=
    ⟨tx.id, accountId, tx.asset, tx.amount, direction, blockHeight⟩
  match tx.kind with
  | .transfer => [line tx.fromAccount .debit, line tx.toAccount .credit]
  | .mint => [line tx.toAccount .credit]
  | .burn => [line tx.fromAccount .debit]

/-- A credit counts up, a debit down. -/
def JournalLine.signed (line : JournalLine) : Int :=
  match line.direction with
  | .credit => line.amount
  | .debit => -line.amount

/-- The journal of the account `a` in the asset `s`, added up. -/
def netOf (a s : String) (lines : List JournalLine) : Int :=
  ((lines.filter fun line => line.accountId = a ∧ line.asset = s).map JournalLine.signed).sum

theorem netOf_append (a s : String) (xs ys : List JournalLine) :
    netOf a s (xs ++ ys) = netOf a s xs + netOf a s ys := by
  simp [netOf]

theorem netOf_cons (a s : String) (line : JournalLine) (lines : List JournalLine) :
    netOf a s (line :: lines) =
      (if line.accountId = a ∧ line.asset = s then line.signed else 0) + netOf a s lines := by
  unfold netOf
  rw [List.filter_cons]
  split <;> simp_all

@[simp] theorem netOf_nil (a s : String) : netOf a s [] = 0 := rfl

/-- The lines of a transaction add up to what it posts; a transfer to the
own account writes both. -/
theorem netOf_lines (tx : Transaction) (height : Int) (a s : String) :
    netOf a s (tx.lines height) = tx.balanceDelta a s := by
  cases hk : tx.kind <;>
    simp only [Transaction.lines, Transaction.balanceDelta, hk, netOf_cons, netOf_nil,
      JournalLine.signed] <;> grind

/-- An applied transaction writes its lines at the end of the journal. -/
theorem applyTransaction_lines {d : Draws} {tx : Transaction} {height : Int} {w w' : Working}
    (h : applyTransaction .exact d tx height w = .ok w') :
    w'.journal.map JournalEntry.line = w.journal.map JournalEntry.line ++ tx.lines height := by
  unfold applyTransaction at h
  cases hk : tx.kind with
  | transfer =>
    simp only [hk, bind_eq_ok_iff, pure_eq_ok, Except.ok.injEq] at h
    obtain ⟨_, _, _, rfl, rfl⟩ := h
    simp [Transaction.lines, hk]
  | mint =>
    simp only [hk, bind_eq_ok_iff, pure_eq_ok, Except.ok.injEq] at h
    obtain ⟨_, rfl, rfl⟩ := h
    simp [Transaction.lines, hk]
  | burn =>
    simp only [hk, bind_eq_ok_iff, pure_eq_ok, Except.ok.injEq] at h
    obtain ⟨_, _, _, rfl, rfl⟩ := h
    simp [Transaction.lines, hk]

/-! ## Histories -/

/-- The transactions of a block, each with the height. -/
def Block.postings (b : Block) : List (Int × Transaction) := b.txs.map fun tx => (b.height, tx)

/-- The working copies are what the history makes of nothing. -/
structure Replays (history : List (Int × Transaction)) (w : Working) : Prop where
  books : w.books = .replay (history.map Prod.snd)
  journal : w.journal.map JournalEntry.line = history.flatMap fun p => p.2.lines p.1

/-- An applied transaction is posted to the books. -/
theorem Effect.books {tx : Transaction} {w w' : Working} (h : Effect tx w w') :
    w'.books = w.books.post tx := by
  ext a s
  · exact h.balance a s
  · exact h.issued a
  · simp only [Working.books, Working.nonce, h.nonces, HashMap.getOr_insert, Books.post]

/-- One applied transaction makes the history longer by itself. -/
theorem replays_applyTransaction {history : List (Int × Transaction)} {d : Draws}
    {tx : Transaction} {height : Int} {w w' : Working} (h : Replays history w)
    (happ : applyTransaction .exact d tx height w = .ok w') :
    Replays (history ++ [(height, tx)]) w' := by
  have hbooks := (applyTransaction_exact happ).books
  have hlines := applyTransaction_lines happ
  refine ⟨?_, ?_⟩
  · rw [List.map_append, List.map_singleton, Books.replay_append_singleton, ← h.books, hbooks]
  · rw [hlines, h.journal, List.flatMap_append]
    simp

/-- So does a batch. -/
theorem replays_applyTransactions {l : InMemoryLedger} {height : Int} {d : Draws}
    {txs : List Transaction} {history : List (Int × Transaction)} {w w' : Working}
    (h : Replays history w) (hrun : l.applyTransactions .exact height d txs w = .ok w') :
    Replays (history ++ txs.map fun tx => (height, tx)) w' := by
  induction txs generalizing history d w with
  | nil =>
    cases hrun
    simpa using h
  | cons tx txs ih =>
    simp only [applyTransactions, bind_eq_ok_iff] at hrun
    obtain ⟨_, _, w₁, happ, hrest⟩ := hrun
    have hnext := ih (replays_applyTransaction h happ) hrest
    rwa [List.append_assoc] at hnext

/-- A replayed journal adds up to the balances. -/
theorem Replays.netOf_journal {history : List (Int × Transaction)} {w : Working}
    (h : Replays history w) (a s : String) :
    netOf a s (w.journal.map JournalEntry.line) = w.balance a s := by
  have hbalance : w.balance a s = ((history.map Prod.snd).map fun tx => tx.balanceDelta a s).sum :=
    (congrFun (congrFun (congrArg Books.balance h.books) a) s).trans (Books.replay_balance _ a s)
  rw [h.journal, hbalance]
  clear h hbalance
  induction history with
  | nil => rfl
  | cons p history ih =>
    rw [List.flatMap_cons, netOf_append, netOf_lines, ih, List.map_cons, List.map_cons,
      List.sum_cons]

/-! ## Ledgers -/

/-- The history of a ledger, read off its blocks. -/
def InMemoryLedger.history (l : InMemoryLedger) : List (Int × Transaction) :=
  l.blocks.flatMap Block.postings

def InMemoryLedger.Reconciled (l : InMemoryLedger) : Prop := Replays l.history l.working

/-- The books of a reconciled ledger are those of its chain. -/
theorem InMemoryLedger.Reconciled.books_eq {l : InMemoryLedger} (h : l.Reconciled) :
    l.books = .replay (l.blocks.flatMap Block.txs) := by
  have htxs : l.history.map Prod.snd = l.blocks.flatMap Block.txs := by
    simp [history, List.map_flatMap, Block.postings, Function.comp_def]
  rw [← htxs]
  exact h.books

/-- An operation that leaves blocks, journal and the three maps alone. -/
theorem InMemoryLedger.Reconciled.frame {l l' : InMemoryLedger} (h : l.Reconciled)
    (hblocks : l'.blocks = l.blocks) (hjournal : l'.journalEntries = l.journalEntries)
    (hbooks : l'.books = l.books) : l'.Reconciled := by
  refine ⟨?_, ?_⟩
  · rw [history, hblocks]
    exact hbooks.trans h.books
  · rw [history, hblocks, working, hjournal]
    exact h.journal

theorem reconciled_applyBlock {l l' : InMemoryLedger} {d : Draws} {block : Block}
    {records : List PaymentRecord} (h : l.Reconciled)
    (happ : applyBlock .exact d block l = (l', .ok records)) : l'.Reconciled := by
  have hApplied := applyBlock_eq_ok happ
  have hhistory : l'.history = l.history ++ block.postings := by
    simp [history, hApplied.blocks_eq]
  unfold Reconciled
  rw [hhistory]
  exact replays_applyTransactions h hApplied.batch

theorem books_ensureBalanceRow (l : InMemoryLedger) (a s : String) :
    (l.ensureBalanceRow a s).books = l.books := by
  ext a' s'
  · exact ensureBalanceRow_balance l a s a' s'
  · rfl
  · rfl

theorem reconciled_sandbox (d : Draws) : (sandbox d).Reconciled := by
  refine ⟨?_, rfl⟩
  have hbooks : (sandbox d).books = empty.books := by
    unfold sandbox
    simp only [books_ensureBalanceRow]
    rfl
  exact hbooks

/-- Every operation keeps a ledger reconciled. -/
theorem reconciled_step {l : InMemoryLedger} (op : LedgerOp) (h : l.Reconciled) :
    (l.step .exact op).Reconciled := by
  cases step_effect .exact l op with
  | added account heq =>
    rw [heq]
    exact h.frame rfl rfl rfl
  | applied d block records happ => exact reconciled_applyBlock h happ
  | reloaded heq =>
    rw [heq]
    refine h.frame rfl rfl ?_
    ext a s
    · exact fromSnapshot_snapshot_balance l a s
    · rfl
    · rfl
  | same hsame =>
    exact h.frame hsame.blocks (congrArg Working.journal hsame.working)
      (congrArg Working.books hsame.working)

/-- Every ledger reached from the sandbox by public operations is
reconciled. -/
theorem reconciled_run (d : Draws) (ops : List LedgerOp) :
    ((sandbox d).run .exact ops).Reconciled :=
  run_induct (fun _ op h => reconciled_step op h) (reconciled_sandbox d) ops

end KaniNetwork
