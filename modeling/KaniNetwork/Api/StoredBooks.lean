/-
KaniNetwork.Api.StoredBooks — the books of the service.

Whatever requests, passes and starting processes do at the same time, the
database of the service is one a single ledger in memory could have
written: the blocks of the stored chain, applied to the sandbox one after
another, are all accepted and end with the stored balances, nonces, issued
amounts and accounts (`stored_chain_rebuilds`). So what every ledger in
memory satisfies, the tables satisfy: no balance is negative, and those of
an asset add up to what is issued of it.

The journal is the chain's as well, and its pages add up to the balances,
where the entries of a saved snapshot have distinct ids
(`stored_journal_reconciles`).
-/
import KaniNetwork.Api.Statement
import KaniNetwork.Api.StoreReads
import KaniNetwork.Validator.LedgerOutline

namespace KaniNetwork

open InMemoryLedger

/-! ## The service -/

section

variable {J : Prop} {lower : String → String} {ok : StoreSql → Database → Prop}
  (hok : ∀ snapshot db, J → ok (.sql (.write (.saveSnapshot snapshot))) db →
    (snapshot.journalEntries.map JournalEntry.id).Nodup)

theorem StoreSql.api_ledgerGuar {c : StoreSql} (hc : c.OfApi) (i : Session) (db : Database) :
    LedgerGuar J i db (c.exec lower db).1 := by
  cases c with
  | sql c => exact KaniNetwork.api_ledgerGuar hc i db
  | select q => exact .refl i db

include hok in
theorem ServiceCall.ledgerSafe (call : ServiceCall) (i : Session) {db : Database}
    (hs : ChainSound .exact db) (haccounts : db.accounts.rows ≠ []) (hstands : LedgerStands J db) :
    (call.bodyWith .exact i).Safe (StoreSql.exec lower) (LedgerRely J i) (LedgerGuar J i) ok
      (fun _ _ => True) db := by
  unfold bodyWith
  split
  · rename_i huses
    cases call with
    | exchange state x =>
      exact .of_only (ServiceCall.exchange_only state x i)
        (fun _ s hc => StoreSql.api_ledgerGuar hc i s) fun _ _ => trivial
    | pass runtime d =>
      exact safe_background (LedgerRely.refl i)
        (NetworkCall.pass_safe (ledgerOutline hok runtime huses i) ⟨⟨hs, trivial⟩, hstands, trivial⟩)
    | seed ar d =>
      refine safe_background (LedgerRely.refl i) (.mapError (ensureSandboxSeed_safe DbView.plain
        (LedgerGuar.refl i) (LedgerRely.refl i) (fun _ _ _ => LedgerRely.trans) (fun _ _ => trivial)
        (fun institution s => ?_) fun u _ _ hu _ hempty _ _ => ?_))
      · have hc : (Sql.write (.upsertInstitution institution)).OfApi false :=
          Sql.ofApi_write (.upsertInstitution _) (by intro h; cases h)
        exact KaniNetwork.api_ledgerGuar hc i s
      · exact absurd hempty (hu.chain.accountRows haccounts)
  · exact fun _ _ => trivial

/-- The outline of the service on a database that has its accounts. -/
def ledgerService (lower : String → String) :
    Pool.Outline (StoreSql.exec lower) (ServiceCall.bodyWith .exact) ok where
  inv := fun db => (ChainSound .exact db ∧ db.accounts.rows ≠ []) ∧ LedgerStands J db
  rely := LedgerRely J
  guar := LedgerGuar J
  post := fun _ _ _ _ => True
  rely_refl := LedgerRely.refl
  rely_trans := fun _ _ _ _ => LedgerRely.trans
  guar_rely := fun _ _ _ _ hne _ h => h.rely hne
  guar_inv := fun _ _ _ hinv h =>
    ⟨⟨h.chain.sound hinv.1.1, h.chain.accounts hinv.1.2⟩, h.stands hinv.2⟩
  body_safe := fun i call _ hinv => call.ledgerSafe hok i hinv.1.1 hinv.1.2 hinv.2

include hok in
/-- In every run the chain is sound and the stored ledger stands. -/
theorem ledger_stands {settings : Settings} {d₀ : Draws} {db : Database} {log : ServiceLog}
    {P : Pool Session ServiceCall StoreSql StoreSql.Reply ApiError (Option Response) Database}
    (hseed : (Database.empty settings).saveSnapshot (sandbox d₀).snapshot = .ok db)
    (hrun : Pool.Run (StoreSql.exec lower) ServiceCall.body ok (.idle db) log P)
    (huses : ∀ i call left, P.slots i = some (call, left) → call.Uses .exact) :
    ChainSound .exact P.store ∧ LedgerStands J P.store := by
  have hholds := (ledgerService hok lower).sound ((ledgerService hok lower).holds_idle
    ⟨chainSound_seeded hseed, ledgerStands_seeded hseed⟩)
    (hrun.congr_body ServiceCall.body_eq huses).reaches
  exact ⟨hholds.1.1.1, hholds.1.2⟩

end

/-! ## The stored chain -/

theorem InMemoryLedger.Alike.accountIds_eq {l l' : InMemoryLedger} (h : l.Alike l') :
    l.accountIds = l'.accountIds := by
  ext id
  have hid := congrArg Option.isSome (h.accounts id)
  rw [Option.isSome_map, Option.isSome_map] at hid
  simp only [accountIds, List.mem_toFinset, HashMap.mem_keys_iff, ← Option.isSome_iff_exists, hid]

/-- **The database refines the ledger in memory.** In every run of any number
of requests, validators with exact amounts and starting processes on a seeded
database: a ledger in memory that starts as the sandbox accepts the stored
blocks one after another and is then alike the ledger the database gives
back. Therefore no stored balance is negative, and those of an asset add up,
over the accounts, to its issued amount. -/
theorem stored_chain_rebuilds {settings : Settings} {lower : String → String} {d₀ : Draws}
    {db : Database}
    {log : ServiceLog}
    {P : Pool Session ServiceCall StoreSql StoreSql.Reply ApiError (Option Response) Database}
    (hseed : (Database.empty settings).saveSnapshot (sandbox d₀).snapshot = .ok db)
    (hrun : ServiceRun lower db log P)
    (huses : ∀ i call left, P.slots i = some (call, left) → call.Uses .exact) (d : Draws) :
    let stored := P.store.ledger .exact
    (rebuilt d stored.blocks).blocks = stored.blocks ∧ (rebuilt d stored.blocks).Alike stored ∧
      (∀ a s, 0 ≤ stored.balance a s) ∧
      ∀ s, ∑ a ∈ stored.accountIds, stored.balance a s = stored.issuedOf s := by
  intro stored
  obtain ⟨hs, hstands⟩ := ledger_stands (J := False) (fun _ _ h => h.elim) hseed hrun huses
  have hblocks : stored.blocks = P.store.chain := Database.ledger_blocks
  have halike : (rebuilt d P.store.chain).Alike stored := (hstands.rebuilt d).alike hs
  have hsound : Sound (rebuilt d P.store.chain) := sound_run d _
  have hbalance : ∀ a s, (rebuilt d P.store.chain).balance a s = stored.balance a s :=
    halike.working.balance
  rw [hblocks]
  refine ⟨(hstands.rebuilt d).blocks, halike, fun a s => ?_, fun s => ?_⟩
  · rw [← hbalance]
    exact hsound.conserved.nonneg a s
  · rw [← halike.accountIds_eq, ← Finset.sum_congr rfl fun a _ => hbalance a s]
    exact (hsound.conserved.total s).trans (halike.working.issued s)

/-- Two blocks, saved while a page was read. -/
theorem stored_chain_rebuilds_example :
    let stored := examplePage.store.ledger .exact
    stored.blocks.length = 2 ∧ (rebuilt (.numbered "again" 9) stored.blocks).blocks = stored.blocks ∧
      ∑ a ∈ stored.accountIds, stored.balance a KCAD_TEST = stored.issuedOf KCAD_TEST := by
  intro stored
  have hseed : (Database.empty .plain).saveSnapshot (sandbox (.numbered "seed" 0)).snapshot =
      .ok (.seeded (.numbered "seed" 0)) := Database.seeded_numbered
  obtain ⟨hblocks, -, -, htotal⟩ := stored_chain_rebuilds hseed examplePageRun
    (fun _ _ _ => examplePage_uses) (.numbered "again" 9)
  exact ⟨by decide +kernel, hblocks, htotal KCAD_TEST⟩

/-! ## The stored journal -/

/-- The entries of a saved snapshot have distinct ids. -/
def StoreSql.DistinctEntries : StoreSql → Database → Prop
  | .sql c, _ => ∀ snapshot ∈ c.saved?, (snapshot.journalEntries.map JournalEntry.id).Nodup
  | .select _, _ => True

instance StoreSql.decidableDistinctEntries :
    (c : StoreSql) → (db : Database) → Decidable (c.DistinctEntries db)
  | .sql c, _ => inferInstanceAs (Decidable (∀ snapshot ∈ c.saved?, _))
  | .select _, _ => .isTrue trivial

/-- **The stored journal is the chain's.** In every such run in which the
entries of each saved snapshot have distinct ids: the stored entries are, in
some order, the lines of the transactions of the stored blocks, with their
heights; every stored balance is its credits less its debits; and the pages of
the journal of an account, of any size, add up to the balance its statement
reports. -/
theorem stored_journal_reconciles {settings : Settings} {lower : String → String} {d₀ : Draws}
    {db : Database}
    {log : ServiceLog}
    {P : Pool Session ServiceCall StoreSql StoreSql.Reply ApiError (Option Response) Database}
    (hseed : (Database.empty settings).saveSnapshot (sandbox d₀).snapshot = .ok db)
    (hrun : Pool.Run (StoreSql.exec lower) ServiceCall.body StoreSql.DistinctEntries (.idle db) log P)
    (huses : ∀ i call left, P.slots i = some (call, left) → call.Uses .exact) :
    let stored := P.store.ledger .exact
    (stored.journalEntries.map JournalEntry.line).Perm (chainLines stored.blocks) ∧
      (∀ a s, stored.balance a s =
        journalTotal .credit a s stored.journalEntries -
          journalTotal .debit a s stored.journalEntries) ∧
      ∀ (a s : String) (limit : Int), 0 < limit →
        (∃ n : Nat, P.store.journalPage ⟨a, some s, limit, n * limit⟩ = []) ∧
        ∀ n : Nat, P.store.journalPage ⟨a, some s, limit, n * limit⟩ = [] →
          ∀ (toRfc3339 : DateTime → String) (now : DateTime) (offset : Int),
            ((List.range n).map fun k : Nat =>
                netTotal (P.store.journalPage ⟨a, some s, limit, k * limit⟩)).sum =
              (camt053Statement toRfc3339 now stored a ⟨s, limit, offset⟩).balance := by
  intro stored
  obtain ⟨hs, hstands⟩ :=
    ledger_stands (J := True) (fun snapshot _ _ h => h snapshot rfl) hseed hrun huses
  have hperm : stored.journalEntries.Perm P.store.journalEntries.rows :=
    List.perm_insertionSort _ _
  have hnet : ∀ a s, netOf a s (stored.journalEntries.map JournalEntry.line) = stored.balance a s := by
    intro a s
    calc netOf a s (stored.journalEntries.map JournalEntry.line)
        = netOf a s (P.store.journalEntries.rows.map JournalEntry.line) :=
          (((hperm.map _).filter _).map _).sum_eq
      _ = P.store.balance a s := (hstands.journaled trivial).netOf_rows hs hstands.rebuilt a s
      _ = stored.balance a s := (balance_fromSnapshot rfl a s).symm
  refine ⟨?_, fun a s => ?_, fun a s limit hlimit => ?_⟩
  · rw [show stored.blocks = P.store.chain from Database.ledger_blocks]
    exact (hperm.map _).trans (hstands.journaled trivial)
  · exact (hnet a s).symm.trans (netOf_map_line a s stored.journalEntries)
  · have hpage : ∀ n : Nat, P.store.journalPage ⟨a, some s, limit, n * limit⟩ =
        statementPage stored a s limit n := fun n => (Database.ledger_journalPage _).symm
    simp only [hpage]
    refine ⟨exists_empty_statementPage stored a s hlimit, fun n hempty toRfc3339 now offset => ?_⟩
    exact (sum_netTotal_pages stored hlimit hempty).trans (hnet a s)

/-- The run of the page, with distinct entries in what it saves. -/
def exampleBooks :
    Pool Session ServiceCall StoreSql StoreSql.Reply ApiError (Option Response) Database :=
  Pool.run (StoreSql.exec String.toLower) ServiceCall.body StoreSql.DistinctEntries
    (.idle (.seeded (.numbered "seed" 0))) examplePageSchedule

def exampleBooksLog : ServiceLog :=
  Pool.runLog (StoreSql.exec String.toLower) ServiceCall.body StoreSql.DistinctEntries
    (.idle (.seeded (.numbered "seed" 0))) examplePageSchedule

theorem stored_journal_reconciles_example :
    let stored := exampleBooks.store.ledger .exact
    stored.balance SANDBOX_CORP_A_ACCOUNT KCAD_TEST = 700005 ∧
      (stored.journalEntries.map JournalEntry.line).Perm (chainLines stored.blocks) := by
  intro stored
  have hseed : (Database.empty .plain).saveSnapshot (sandbox (.numbered "seed" 0)).snapshot =
      .ok (.seeded (.numbered "seed" 0)) := Database.seeded_numbered
  have hrun : Pool.Run (StoreSql.exec String.toLower) ServiceCall.body StoreSql.DistinctEntries
      (.idle (.seeded (.numbered "seed" 0))) exampleBooksLog exampleBooks := Pool.run_runLog _ _
  have hbooks : exampleBooks = Pool.run (StoreSql.exec String.toLower) ServiceCall.body
      StoreSql.DistinctEntries (.idle (.seeded (.numbered "seed" 0))) examplePageSchedule := by
    unfold exampleBooks
    rfl
  have huses : ∀ i call left, exampleBooks.slots i = some (call, left) → call.Uses .exact :=
    fun _ _ _ => examplePageSchedule_uses hbooks
  exact ⟨by decide +kernel, (stored_journal_reconciles hseed hrun huses).1⟩

end KaniNetwork
