/-
KaniNetwork.Validator.LedgerOutline — the stored ledger under every schedule.

`LedgerStands` is what the saves of passes keep: the chain applies to the
sandbox, and, where a run gives the journal entries of each saved snapshot
distinct ids, the journal has its lines. A pass that holds the lock finds
at its save the accounts and the journal it has loaded (`LedgerRely`), for
everything else leaves the accounts alone and writes no entries meanwhile.
-/
import KaniNetwork.Validator.RebuiltLedger

namespace KaniNetwork

open InMemoryLedger

/-! ## Every schedule -/

section

variable (J : Prop)

/-- The chain applies, and the journal has its lines if `J`. -/
structure LedgerStands (db : Database) : Prop where
  rebuilt : ∀ d, Rebuilt d db
  journaled : J → Journaled db

/-- What any command of a run does to the stored ledger. -/
structure LedgerStep (db db' : Database) : Prop where
  accounts : ∀ id, db'.accountType id = db.accountType id
  stands : LedgerStands J db → LedgerStands J db'

/-- What the session `i` sees of the others: nobody writes entries while it
holds the lock. -/
structure LedgerRely (i : Session) (db db' : Database) : Prop extends LedgerStep J db db' where
  chain : ChainRely .exact i db db'
  journal : db.blockProductionLock = some i → db'.journalEntries = db.journalEntries

/-- What the session `i` lets the others see. -/
structure LedgerGuar (i : Session) (db db' : Database) : Prop extends LedgerStep J db db' where
  chain : ChainGuar .exact i db db'
  journal : ∀ j, j ≠ i → db.blockProductionLock = some j → db'.journalEntries = db.journalEntries

variable {J} {i j : Session} {db db' db'' : Database}

theorem LedgerStands.step (h : LedgerStands J db) (hsame : SameChain db db')
    (haccounts : db'.accounts = db.accounts) (hjournal : db'.journalEntries = db.journalEntries) :
    LedgerStands J db' := by
  refine ⟨fun d => (h.rebuilt d).step hsame haccounts, fun hJ => ?_⟩
  rw [Journaled, hjournal, hsame.chain_eq]
  exact h.journaled hJ

theorem LedgerRely.refl (i : Session) (db : Database) : LedgerRely J i db db where
  accounts := fun _ => rfl
  stands := fun h => h
  chain := .refl i db
  journal := fun _ => rfl

theorem LedgerRely.trans (h : LedgerRely J i db db') (h' : LedgerRely J i db' db'') :
    LedgerRely J i db db'' where
  accounts := fun id => (h'.accounts id).trans (h.accounts id)
  stands := fun hdb => h'.stands (h.stands hdb)
  chain := h.chain.trans h'.chain
  journal := fun hlock => (h'.journal (h.chain.mine hlock).1).trans (h.journal hlock)

theorem LedgerGuar.rely (h : LedgerGuar J i db db') (hne : i ≠ j) : LedgerRely J j db db' where
  accounts := h.accounts
  stands := h.stands
  chain := h.chain.rely hne
  journal := h.journal j hne.symm

/-- A command that leaves the chain, the accounts and the journal alone. -/
theorem LedgerGuar.of_chain (h : ChainGuar .exact i db db') (hsame : SameChain db db')
    (haccounts : db'.accounts = db.accounts) (hjournal : db'.journalEntries = db.journalEntries) :
    LedgerGuar J i db db' where
  accounts := fun id => by rw [Database.accountType, Database.accountType, haccounts]
  stands := fun hdb => hdb.step hsame haccounts hjournal
  chain := h
  journal := fun _ _ _ => hjournal

theorem LedgerGuar.refl (i : Session) (db : Database) : LedgerGuar J i db db :=
  .of_chain (.refl i db) (.refl db) rfl rfl

/-- A command of the API. -/
theorem api_ledgerGuar {approving : Bool} {c : Sql} (hc : c.OfApi approving) (i : Session)
    (db : Database) : LedgerGuar J i db (c.exec db).1 := by
  rcases Sql.exec_cases c db with hsame | ⟨w, reply, rfl, hrun⟩
  · rw [hsame]
    exact .refl i db
  · have hstep := apiStep_of_run (hc w rfl).1 hrun
    exact .of_chain (api_chainGuar hc i db) (.of_api hstep) hstep.accounts hstep.journalEntries

/-- What a pass knows at each place. -/
def ledgerKnows (J : Prop) (i : Session) (ph : Phase) (db : Database) : Prop :=
  chainKnows .exact i ph db ∧ LedgerStands J db ∧
    match ph with
    | .loaded snapshot =>
      Carried snapshot db ∧ snapshot.journalEntries.Perm db.journalEntries.rows
    | .selecting snapshot accepted pending =>
      (Carried snapshot db ∧ snapshot.journalEntries.Perm db.journalEntries.rows) ∧
        (accepted ++ pending).Pairwise Transaction.Before
    | _ => True

end

section

variable {J : Prop} {i : Session} {db db' : Database} {snapshot : LedgerSnapshot}

theorem Carried.ledgerStep (h : Carried snapshot db) (hs : LedgerStep J db db') :
    Carried snapshot db' :=
  ⟨fun id => (h.accounts id).trans (hs.accounts id).symm, h.nonces, h.issued⟩

theorem ledgerKnows_stable {ph : Phase} (h : ledgerKnows J i ph db) (hr : LedgerRely J i db db') :
    ledgerKnows J i ph db' := by
  refine ⟨chainKnows_stable h.1 hr.chain, hr.stands h.2.1, ?_⟩
  cases ph with
  | loaded snapshot =>
    rw [hr.journal h.1.2.1]
    exact ⟨h.2.2.1.ledgerStep hr.toLedgerStep, h.2.2.2⟩
  | selecting snapshot accepted pending =>
    rw [hr.journal h.1.2.1]
    exact ⟨⟨h.2.2.1.1.ledgerStep hr.toLedgerStep, h.2.2.1.2⟩, h.2.2.2⟩
  | idle => trivial
  | locked => trivial
  | failing txs => trivial
  | saved block => trivial

/-- A command of the pass itself that leaves all of it alone. -/
theorem ledgerKnows_same {ph : Phase} (h : ledgerKnows J i ph db) (hguar : LedgerGuar J i db db')
    (hlock : db'.blockProductionLock = db.blockProductionLock) (hsame : SameChain db db')
    (hjournal : db'.journalEntries = db.journalEntries) : ledgerKnows J i ph db' :=
  ledgerKnows_stable h {
    toLedgerStep := hguar.toLedgerStep
    chain := ⟨hguar.chain.toChainStep, fun hmine => ⟨hlock.trans hmine, hsame⟩⟩
    journal := fun _ => hjournal }

/-- What is read under the lock is what the tables have. -/
theorem ledger_of_load (hlock : db.blockProductionLock = some i)
    (h : LoadedFrom .exact (fun u => ∃ w, LedgerRely J i db w ∧ LedgerRely J i w db' ∧ w = u)
      snapshot) :
    Carried snapshot db' ∧ snapshot.journalEntries.Perm db'.journalEntries.rows := by
  refine ⟨⟨?_, h.nonces, h.issued⟩, ?_⟩
  · obtain ⟨_, ⟨w, -, hw', rfl⟩, haccounts⟩ := h.accounts
    intro id
    rw [lookup_fromSnapshot_accounts haccounts]
    exact (hw'.accounts id).symm
  · obtain ⟨_, ⟨w, hw, hw', rfl⟩, hjournal⟩ := h.journalEntries
    rw [hjournal, hw'.journal (hw.chain.mine hlock).1]
    exact List.perm_insertionSort _ _

end

section

variable {J : Prop} {ok : Sql → Database → Prop}
  (hok : ∀ snapshot db, J → ok (.write (.saveSnapshot snapshot)) db →
    (snapshot.journalEntries.map JournalEntry.id).Nodup)

include hok in
theorem LedgerStands.save {i : Session} {v : ValidatorRuntime} {snapshot : LedgerSnapshot}
    {accepted : List Transaction} {block : Block} {final : InMemoryLedger} {db db' : Database}
    (hpoint : SavePoint .exact v snapshot accepted block final db)
    (h : ledgerKnows J i (.selecting snapshot accepted []) db)
    (hsaved : ok (.write (.saveSnapshot final.snapshot)) db)
    (hsave : db.saveSnapshot final.snapshot = .ok db') : LedgerStands J db' := by
  obtain ⟨-, hstands, ⟨hcarried, hjournal⟩, hsorted⟩ := h
  rw [List.append_nil] at hsorted
  exact ⟨fun d => hpoint.rebuilds hcarried hsorted hsave (hstands.rebuilt d), fun hJ =>
    hpoint.journaled hjournal (hok _ _ hJ hsaved) hsorted hsave (hstands.journaled hJ)⟩

/-- A pass among any calls, beside the outline of the chain. -/
def ledgerOutline (v : ValidatorRuntime) (harith : v.host.arith = .exact) (i : Session) :
    PassOutline DbView.plain v i (LedgerRely J i) (LedgerGuar J i) ok where
  holds := ledgerKnows J i
  rely_refl := LedgerRely.refl i
  rely_trans := fun _ _ _ => LedgerRely.trans
  guar_refl := LedgerGuar.refl i
  stable := fun _ _ _ => ledgerKnows_stable
  bookkeeping := by
    intro ph db t u h
    have hsame : SameChain db (db.withBookkeeping t u) := .of_eq rfl rfl rfl
    have hguar : LedgerGuar J i db (db.withBookkeeping t u) :=
      .of_chain (.of_same hsame rfl rfl) hsame rfl rfl
    exact ⟨hguar, ledgerKnows_same h hguar rfl hsame rfl⟩
  lock := by
    intro db h hfree
    have hsame : SameChain db { db with blockProductionLock := some i } := .of_eq rfl rfl rfl
    obtain ⟨hguar, hchain⟩ := (chainOutline v harith i ok).lock db h.1 hfree
    exact ⟨.of_chain hguar hsame rfl rfl, hchain, h.2.1.step hsame rfl rfl, trivial⟩
  load := by
    intro db db' snapshot h hr hload
    rw [harith] at hload
    have hplain : LoadedFrom .exact
        (fun u => ∃ w, ChainRely .exact i db w ∧ ChainRely .exact i w db' ∧ w = u) snapshot :=
      hload.mono fun u ⟨w, hw, hw', heq⟩ => ⟨w, hw.chain, hw'.chain, heq⟩
    have hchain := (chainOutline v harith i ok).load db db' snapshot h.1 hr.chain (harith ▸ hplain)
    exact ⟨hchain, hr.stands h.2.1, ledger_of_load h.1.2 hload⟩
  take := fun db snapshot h =>
    ⟨(chainOutline v harith i ok).take db snapshot h.1, h.2.1, h.2.2,
      db.pendingTransactions_pairwise _ 0⟩
  accept := by
    intro db snapshot accepted tx pending h hacc
    have hsorted := h.2.2.2
    rw [List.append_cons] at hsorted
    exact ⟨(chainOutline v harith i ok).accept db snapshot accepted tx pending h.1 hacc, h.2.1,
      h.2.2.1, hsorted⟩
  reject := by
    intro db snapshot accepted tx pending e now h herror
    have hsame : SameChain db (db.rejectTransaction tx.id e.message now) := .of_reject _ _ _ _
    obtain ⟨hguar, hchain⟩ := (chainOutline v harith i ok).reject db snapshot accepted tx pending e now
      h.1 herror
    have hguar' : LedgerGuar J i db (db.rejectTransaction tx.id e.message now) :=
      .of_chain hguar hsame rfl rfl
    exact ⟨hguar', hchain, hguar'.stands h.2.1, ⟨h.2.2.1.1.ledgerStep hguar'.toLedgerStep, h.2.2.1.2⟩,
      h.2.2.2.sublist ((List.sublist_cons_self _ _).append_left _)⟩
  save := by
    intro db db' snapshot accepted block final h hne hblock hsaved hsave
    obtain ⟨hguar, hchain⟩ := (chainOutline v harith i ok).save db db' snapshot accepted block final
      h.1 hne hblock hsaved hsave
    obtain ⟨hs, hlock, hload, hsel⟩ := h.1
    rw [List.append_nil] at hsel
    have hpoint : SavePoint .exact v snapshot accepted block final db :=
      ⟨harith, hs, hblock, hload, hsel⟩
    have hstands : LedgerStands J db' := .save hok hpoint h hsaved hsave
    refine ⟨{ accounts := hpoint.accountType_eq h.2.2.1.1.accounts hsave, stands := fun _ => hstands,
              chain := hguar, journal := fun j hne hj => ?_ }, hchain, hstands, trivial⟩
    have hmine : db.blockProductionLock = some i := hlock
    rw [hj] at hmine
    exact absurd (Option.some.inj hmine) hne
  fail := fun db snapshot accepted h =>
    ⟨(chainOutline v harith i ok).fail db snapshot accepted h.1, h.2.1, trivial⟩
  failReject := by
    intro db tx txs now h
    have hsame : SameChain db
        (db.rejectTransaction tx.id LedgerError.missingBlockHash.message now) := .of_reject _ _ _ _
    obtain ⟨hguar, hchain⟩ := (chainOutline v harith i ok).failReject db tx txs now h.1
    exact ⟨.of_chain hguar hsame rfl rfl, hchain, h.2.1.step hsame rfl rfl, trivial⟩
  unlock := fun db hlock =>
    .of_chain ((chainOutline v harith i ok).unlock db hlock) (.of_eq rfl rfl rfl) rfl rfl
  savedUnlock := fun block db h =>
    ⟨(chainOutline v harith i ok).savedUnlock block db h.1, h.2.1.step (.of_eq rfl rfl rfl) rfl rfl,
      trivial⟩

end

/-- The seeded database has neither blocks nor entries. -/
theorem ledgerStands_seeded {settings : Settings} {J : Prop} {d : Draws} {db : Database}
    (hseed : (Database.empty settings).saveSnapshot (sandbox d).snapshot = .ok db) :
    LedgerStands J db := by
  refine ⟨rebuilt_seeded hseed, fun _ => ?_⟩
  have hrows : db.journalEntries.rows = [] := by
    rw [(Database.saveSnapshot_eq_ok hseed).journalEntries]
    rfl
  rw [Journaled, hrows, chain_seeded hseed]
  exact .refl []

end KaniNetwork
