/-
KaniNetwork.Validator.RebuiltLedger — the stored chain, applied again.

`rebuilt d blocks` is the ledger in memory that applies the blocks to the
sandbox one after another, the draws being those it makes entries and audit
events with. `Rebuilt d db` says that it takes the whole chain of the
database and ends with the accounts, the nonces and the issued amounts the
database gives back; the balances are then those of the tables
(`Rebuilt.alike`). The save of a pass keeps it, for the ledger of the pass
and the rebuilt one are alike, so the block that was applied to the one
applies to the other (`SavePoint.rebuilt`).

The journal is stored entry by entry under ids the processes draw.
`Journaled` says that the tables have the lines of the chain, in whatever
order; it is kept by saves of snapshots whose entries have distinct ids.
-/
import KaniNetwork.Store.LoadedLedger
import KaniNetwork.Validator.Restart

namespace KaniNetwork

open InMemoryLedger

/-! ## Applying the chain again -/

/-- The ledger in memory after the blocks. -/
def rebuilt (d : Draws) (blocks : List Block) : InMemoryLedger :=
  (sandbox d).run .exact (blocks.map (LedgerOp.applyBlock d))

theorem rebuilt_append_singleton (d : Draws) (blocks : List Block) (block : Block) :
    rebuilt d (blocks ++ [block]) = (applyBlock .exact d block (rebuilt d blocks)).1 := by
  simp [rebuilt, InMemoryLedger.run, InMemoryLedger.step]

/-- The ledger takes the chain of the database, block by block. -/
structure Rebuilt (d : Draws) (db : Database) : Prop where
  blocks : (rebuilt d db.chain).blocks = db.chain
  accounts : ∀ id, ((rebuilt d db.chain).accounts.lookup id).map Account.accountType =
    db.accountType id
  derived : DerivedFrom (db.chain.flatMap Block.txs) (rebuilt d db.chain).nonces
    (rebuilt d db.chain).issued

section

variable {d : Draws} {db db' : Database} {snapshot : LedgerSnapshot}

theorem Rebuilt.step (h : Rebuilt d db) (hsame : SameChain db db')
    (haccounts : db'.accounts = db.accounts) : Rebuilt d db' := by
  obtain ⟨hblocks, hids, hderived⟩ := h
  rw [← hsame.chain_eq] at hblocks hids hderived
  refine ⟨hblocks, fun id => ?_, hderived⟩
  rw [hids, Database.accountType, Database.accountType, haccounts]

/-- The balances are those of the tables, both being what the chain posts. -/
theorem Rebuilt.balance (h : Rebuilt d db) (hs : ChainSound .exact db) (a s : String) :
    (rebuilt d db.chain).balance a s = db.balance a s := by
  have hreconciled : (rebuilt d db.chain).Reconciled := reconciled_run d _
  have hbooks := congrFun (congrFun (congrArg Books.balance hreconciled.books_eq) a) s
  rw [h.blocks] at hbooks
  exact hbooks.trans (hs.balances a s).symm

/-- The rebuilt ledger and the one a pass has loaded under the lock. -/
theorem Rebuilt.alike_loaded (h : Rebuilt d db) (hs : ChainSound .exact db)
    (hcarried : Carried snapshot db) (hload : LoadedChain snapshot db) :
    (rebuilt d db.chain).Alike (fromSnapshot snapshot) where
  accounts := fun id => (h.accounts id).trans (hcarried.accounts id).symm
  working := by
    have hderived := hcarried.derived hs hload
    refine ⟨fun a s => ?_, fun a => ?_, fun s => ?_⟩
    · exact (h.balance hs a s).trans (hload.balances a s).symm
    · exact (h.derived.nonces a).trans (hderived.nonces a).symm
    · exact (h.derived.issued s).trans (hderived.issued s).symm

/-- The rebuilt ledger and the one the database gives back. -/
theorem Rebuilt.alike (h : Rebuilt d db) (hs : ChainSound .exact db) :
    (rebuilt d db.chain).Alike (db.ledger .exact) := by
  refine h.alike_loaded hs ⟨fun id => ?_, rfl, rfl⟩ ⟨db.readSnapshot_blocks .exact, fun a s => ?_,
    db, rfl, .refl db⟩
  · rw [lookup_fromSnapshot_accounts rfl]
    rfl
  · exact balance_fromSnapshot rfl a s

end

/-- A block that extends the ledger and whose batch goes through applies. -/
theorem applyBlock_isOk {ar : Arith} {d : Draws} {l : InMemoryLedger} {block : Block} {w : Working}
    (hhash : block.hash.isEmpty = false) (hheight : block.height = l.nextHeight)
    (hprev : block.prevHash = l.lastHash)
    (hbatch : l.applyTransactions ar block.height (d.sub 0) block.txs l.working = .ok w) :
    ∃ l' records, applyBlock ar d block l = (l', .ok records) := by
  simp only [applyBlock, Method.get_bind]
  rw [if_neg (by simp [hhash]), if_neg (not_not.mpr hheight), if_neg (not_not.mpr hprev), hbatch]
  exact ⟨_, _, rfl⟩

/-- A block applies to any ledger that is alike and has the same blocks,
whatever its clock says. -/
theorem InMemoryLedger.Alike.applied {l l' final : InMemoryLedger} {d' : Draws} {block : Block}
    {records : List PaymentRecord} (h : l.Alike l') (hblocks : l.blocks = l'.blocks)
    (happ : Applied .exact d' l' block final records) (d : Draws) (createdAt : DateTime) :
    ∃ final' records',
      applyBlock .exact d { block with createdAt := createdAt } l = (final', .ok records') := by
  have hheight : block.height = l.nextHeight := by
    rw [nextHeight, hblocks]
    exact happ.height_next
  have hprev : block.prevHash = l.lastHash := by
    rw [lastHash, hblocks]
    exact happ.prev_last
  have hagree := applyTransactions_alike .exact h.accounts (d.sub 0) (d'.sub 0) block.height
    block.height block.txs h.working
  rw [happ.batch] at hagree
  generalize hrun : l.applyTransactions .exact block.height (d.sub 0) block.txs l.working = x
    at hagree
  cases hagree with
  | ok hw => exact applyBlock_isOk happ.hash_set hheight hprev hrun

section

variable {v : ValidatorRuntime} {snapshot : LedgerSnapshot} {accepted : List Transaction}
  {block : Block} {final : InMemoryLedger} {d : Draws} {db db' : Database}

/-- The save of a block keeps the chain applicable. -/
theorem SavePoint.rebuilds (h : SavePoint .exact v snapshot accepted block final db)
    (hcarried : Carried snapshot db) (hsorted : accepted.Pairwise Transaction.Before)
    (hsave : db.saveSnapshot final.snapshot = .ok db') (hdb : Rebuilt d db) : Rebuilt d db' := by
  obtain ⟨draws, records, happ⟩ := h.block.applied
  rw [h.arith] at happ
  have halike := hdb.alike_loaded h.sound hcarried h.loaded
  have hblocks : (rebuilt d db.chain).blocks = (fromSnapshot snapshot).blocks :=
    hdb.blocks.trans h.loaded.blocks.symm
  have hchain := h.chain_eq hsorted hsave
  obtain ⟨final', records', hrun⟩ := halike.applied hblocks happ d (timestamptz block.createdAt)
  have happ' := applyBlock_eq_ok hrun
  have hrebuilt : KaniNetwork.rebuilt d db'.chain = final' := by
    rw [hchain, rebuilt_append_singleton, hrun]
  have htxs : db'.chain.flatMap Block.txs = db.chain.flatMap Block.txs ++ block.txs := by
    rw [hchain, List.flatMap_append, List.flatMap_singleton]
  refine ⟨?_, fun id => ?_, ?_⟩
  · rw [hrebuilt, happ'.blocks_eq, hdb.blocks, hchain]
  · rw [hrebuilt, happ'.accounts_eq, hdb.accounts, h.accountType_eq hcarried.accounts hsave]
  · rw [hrebuilt, htxs]
    exact hdb.derived.applyTransactions happ'.batch

/-- The sandbox has the same accounts whatever its draws. -/
theorem sandbox_accountType (d d' : Draws) (id : String) :
    ((sandbox d).accounts.lookup id).map Account.accountType =
      ((sandbox d').accounts.lookup id).map Account.accountType := by
  simp only [sandbox, ensureBalanceRow, upsertAccount, upsertInstitution, HashMap.lookup_insert_eq,
    apply_ite (Option.map Account.accountType), Option.map_some]
  rfl

/-- The seeded database has no block. -/
theorem rebuilt_seeded {settings : Settings} {d₀ : Draws}
    (hseed : (Database.empty settings).saveSnapshot (sandbox d₀).snapshot = .ok db) (d : Draws) :
    Rebuilt d db := by
  have hchain : db.chain = [] := chain_seeded hseed
  refine ⟨?_, fun id => ?_, ?_⟩
  · rw [hchain]
    rfl
  · rw [hchain, accountType_saveSnapshot (.sandbox d₀) hseed]
    refine (sandbox_accountType d d₀ id).trans ?_
    cases (sandbox d₀).accounts.lookup id <;> rfl
  · rw [hchain]
    exact .nil

end

/-! ## The journal -/

/-- The journal lines of a chain. -/
def chainLines (blocks : List Block) : List JournalLine :=
  blocks.flatMap fun b => b.txs.flatMap fun tx => tx.lines b.height

/-- The stored entries are the lines of the stored chain. -/
def Journaled (db : Database) : Prop :=
  (db.journalEntries.rows.map JournalEntry.line).Perm (chainLines db.chain)

/-- A transaction writes its entries at the end of the journal. -/
theorem applyTransaction_journal {d : Draws} {tx : Transaction} {height : Int} {w w' : Working}
    (h : applyTransaction .exact d tx height w = .ok w') :
    ∃ entries, w'.journal = w.journal ++ entries ∧
      entries.map JournalEntry.line = tx.lines height := by
  have hgrows : ∃ entries, w'.journal = w.journal ++ entries := by
    unfold applyTransaction at h
    cases hk : tx.kind with
    | transfer =>
      simp only [hk, bind_eq_ok_iff, pure_eq_ok, Except.ok.injEq] at h
      obtain ⟨_, _, _, rfl, rfl⟩ := h
      exact ⟨_, rfl⟩
    | mint =>
      simp only [hk, bind_eq_ok_iff, pure_eq_ok, Except.ok.injEq] at h
      obtain ⟨_, rfl, rfl⟩ := h
      exact ⟨_, rfl⟩
    | burn =>
      simp only [hk, bind_eq_ok_iff, pure_eq_ok, Except.ok.injEq] at h
      obtain ⟨_, _, _, rfl, rfl⟩ := h
      exact ⟨_, rfl⟩
  obtain ⟨entries, hentries⟩ := hgrows
  have hlines := applyTransaction_lines h
  rw [hentries, List.map_append] at hlines
  exact ⟨entries, hentries, List.append_cancel_left hlines⟩

/-- So does a batch. -/
theorem applyTransactions_lines {l : InMemoryLedger} {height : Int} {d : Draws}
    {txs : List Transaction} {w w' : Working}
    (h : l.applyTransactions .exact height d txs w = .ok w') :
    ∃ entries, w'.journal = w.journal ++ entries ∧
      entries.map JournalEntry.line = txs.flatMap fun tx => tx.lines height := by
  induction txs generalizing d w with
  | nil =>
    cases h
    exact ⟨[], (List.append_nil _).symm, rfl⟩
  | cons tx txs ih =>
    simp only [applyTransactions, bind_eq_ok_iff] at h
    obtain ⟨_, _, w₁, happ, hrest⟩ := h
    obtain ⟨first, hfirst, hline⟩ := applyTransaction_journal happ
    obtain ⟨rest, hrest, hlines⟩ := ih hrest
    refine ⟨first ++ rest, ?_, ?_⟩
    · rw [hrest, hfirst, List.append_assoc]
    · rw [List.map_append, hline, hlines, List.flatMap_cons]

/-- The save of a block stores its entries beside those it has loaded, when
all of them have distinct ids. -/
theorem SavePoint.journaled {v : ValidatorRuntime} {snapshot : LedgerSnapshot}
    {accepted : List Transaction} {block : Block} {final : InMemoryLedger} {db db' : Database}
    (h : SavePoint .exact v snapshot accepted block final db)
    (hloaded : snapshot.journalEntries.Perm db.journalEntries.rows)
    (hids : (final.journalEntries.map JournalEntry.id).Nodup)
    (hsorted : accepted.Pairwise Transaction.Before)
    (hsave : db.saveSnapshot final.snapshot = .ok db') (hdb : Journaled db) : Journaled db' := by
  obtain ⟨draws, records, happ⟩ := h.block.applied
  have hbatch := happ.batch
  rw [h.arith] at hbatch
  obtain ⟨entries, hentries, hlines⟩ := applyTransactions_lines hbatch
  have hjournal : final.journalEntries = snapshot.journalEntries ++ entries := hentries
  have hstored : final.snapshot.journalEntries.map JournalEntry.stored =
      snapshot.journalEntries.map JournalEntry.stored ++ entries.map JournalEntry.stored := by
    show final.journalEntries.map _ = _
    rw [hjournal, List.map_append]
  have htaken : ∀ e ∈ snapshot.journalEntries.map JournalEntry.stored,
      db.journalEntries.find? e.id ≠ none := by
    intro e he
    obtain ⟨e', he', rfl⟩ := List.mem_map.mp he
    have hrow : db.journalEntries.find? e'.id = some e' := Table.mem_rows_iff.mp (hloaded.subset he')
    rw [show e'.stored.id = e'.id from rfl, hrow]
    nofun
  have hnew : ((db.journalEntries.rows ++ entries.map JournalEntry.stored).map
      JournalEntry.id).Nodup := by
    rw [hjournal, List.map_append] at hids
    rw [List.map_append, List.map_map]
    exact ((hloaded.map _).append_right _).nodup_iff.mp hids
  have hrows : db'.journalEntries.rows =
      db.journalEntries.rows ++ entries.map JournalEntry.stored := by
    rw [(Database.saveSnapshot_eq_ok hsave).journalEntries, hstored, Table.insertIgnoreAll,
      List.foldl_append]
    exact (congrArg (fun t => (Table.insertIgnoreAll t _).rows)
      (Table.insertIgnoreAll_of_taken htaken)).trans (Table.rows_insertIgnoreAll_of_new hnew)
  have hchain : chainLines db'.chain =
      chainLines db.chain ++ block.txs.flatMap fun tx => tx.lines block.height := by
    rw [h.chain_eq hsorted hsave, chainLines, List.flatMap_append, List.flatMap_singleton]
    rfl
  rw [Journaled, hrows, hchain, List.map_append, List.map_map, ← hlines]
  exact hdb.append_right _

/-- A journal that has the lines of the chain adds up to the balances. -/
theorem Journaled.netOf_rows {db : Database} (h : Journaled db) (hs : ChainSound .exact db)
    (hdb : ∀ d, Rebuilt d db) (a s : String) :
    netOf a s (db.journalEntries.rows.map JournalEntry.line) = db.balance a s := by
  let d : Draws := .numbered "" 0
  have hreconciled : (rebuilt d db.chain).Reconciled := reconciled_run d _
  have hlines : (rebuilt d db.chain).journalEntries.map JournalEntry.line = chainLines db.chain := by
    have hhistory : (rebuilt d db.chain).history.flatMap (fun p => p.2.lines p.1) =
        chainLines (rebuilt d db.chain).blocks := by
      simp [history, chainLines, List.flatMap_assoc, Block.postings, List.flatMap_map]
    have hjournal := hreconciled.journal
    rw [hhistory, (hdb d).blocks] at hjournal
    exact hjournal
  calc netOf a s (db.journalEntries.rows.map JournalEntry.line)
      = netOf a s (chainLines db.chain) := ((h.filter _).map _).sum_eq
    _ = (rebuilt d db.chain).balance a s := by
        rw [← hlines]
        exact hreconciled.netOf_journal a s
    _ = db.balance a s := (hdb d).balance hs a s

end KaniNetwork
