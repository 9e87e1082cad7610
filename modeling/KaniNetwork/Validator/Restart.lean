/-
KaniNetwork.Validator.Restart — a restart recovers the derived state.

The record beside the database is the snapshot that was saved last. It has
what no table has: the nonces and the issued amounts as `apply_block` left
them, and the blocks as they were in memory. `Recovers` says that a reload
of the database reads like that snapshot. A save establishes it, because
what the pass had loaded read like the database and the batch was selected
in the order a reload returns; everything else a network does leaves the
chain and the accounts alone, so it stays true while payments are queued,
held and rejected around the finalized ones.
-/
import KaniNetwork.Ledger.Conservation
import KaniNetwork.Store.Reload
import KaniNetwork.Validator.StoredHash

namespace KaniNetwork

open InMemoryLedger

/-! ## The snapshot saved last -/

/-- A database and the snapshot that was saved last. -/
abbrev Saved := Database × LedgerSnapshot

def Statement.noteSaved : (w : Statement) → w.Reply → LedgerSnapshot → LedgerSnapshot
  | .saveSnapshot snapshot, _, _ => snapshot
  | _, _, last => last

def Sql.execSaved : (c : Sql) → Saved → Saved × c.Reply := Sql.execBeside Statement.noteSaved

def savedView : DbView Saved where
  sem := Sql.execSaved
  db := Prod.fst
  put := fun d s => (d, s.2)
  save := fun snapshot d _ => (d, snapshot)
  put_db := fun _ => rfl
  read := fun _ _ => rfl
  write := by
    intro w s hw
    simp only [Sql.execSaved, Sql.execBeside]
    cases w.run s.1 with
    | error e => rfl
    | ok r => cases w <;> rfl

/-- The ledgers whose snapshots are saved: the sandbox, and a loaded ledger
with a block applied. -/
inductive WorkingLedger : InMemoryLedger → Prop where
  | sandbox (d : Draws) : WorkingLedger (sandbox d)
  | applied {snapshot : LedgerSnapshot} {d : Draws} {block : Block} {l : InMemoryLedger}
      {records : List PaymentRecord}
      (happly : applyBlock .exact d block (fromSnapshot snapshot) = (l, .ok records)) :
      WorkingLedger l

/-- Their accounts are filed under their ids. -/
theorem WorkingLedger.keyed {l : InMemoryLedger} (h : WorkingLedger l) {id : String} {a : Account}
    (ha : l.accounts.lookup id = some a) : a.id = id := by
  cases h with
  | sandbox d => exact (sound_sandbox d).keyed id a ha
  | applied happly =>
    rw [(applyBlock_eq_ok happly).accounts_eq] at ha
    exact HashMap.key_of_lookup_ofPairs Account.id ha

theorem WorkingLedger.reload_accounts {l : InMemoryLedger} (h : WorkingLedger l) (id : String) :
    (fromSnapshot l.snapshot).accounts.lookup id = l.accounts.lookup id :=
  HashMap.FiledUnder.lookup_ofPairs_values (fun _ _ ha => h.keyed ha) (.refl _) id

/-! ## Accounts -/

/-- The type of an account in the tables. -/
def Database.accountType (db : Database) (id : String) : Option AccountType :=
  (db.accounts.find? id).map Account.accountType

/-- A loaded snapshot and a database have the same accounts. -/
def SameAccounts (snapshot : LedgerSnapshot) (db : Database) : Prop :=
  ∀ id, ((fromSnapshot snapshot).accounts.lookup id).map Account.accountType = db.accountType id

theorem lookup_fromSnapshot_accounts {snapshot : LedgerSnapshot} {u : Database}
    (h : snapshot.accounts = u.accountRows) (id : String) :
    (fromSnapshot snapshot).accounts.lookup id = u.accounts.find? id := by
  have hrows : snapshot.accounts.Perm u.accounts.rows := by
    rw [h]
    exact List.perm_insertionSort _ _
  exact (u.accounts.lookup_ofPairs_rows hrows (fun a => a) id).trans Option.map_id'

/-- The save writes every account of the ledger. -/
theorem accountType_saveSnapshot {l : InMemoryLedger} (hworking : WorkingLedger l) {db d : Database}
    (h : db.saveSnapshot l.snapshot = .ok d) (id : String) :
    d.accountType id =
      match l.accounts.lookup id with
      | some a => some a.accountType
      | none => db.accountType id := by
  have hrows : l.snapshot.accounts.map Account.stored = l.accounts.values.map Account.stored := rfl
  have hnd : ((l.accounts.values.map Account.stored).map Account.id).Nodup := by
    have hids : (l.accounts.values.map Account.stored).map Account.id =
        l.accounts.values.map Account.id := by
      rw [List.map_map]
      exact List.map_congr_left fun _ _ => rfl
    rw [hids]
    have hkeyed : ∀ id (a : Account), l.accounts.lookup id = some a → a.id = id :=
      fun _ _ ha => hworking.keyed ha
    exact HashMap.nodup_map_values hkeyed
  have hlook : ∀ k a, l.accounts.lookup k = some a ↔
      a ∈ l.accounts.values ∧ a.stored.id = k := by
    intro k a
    have hid : a.stored.id = a.id := rfl
    rw [HashMap.mem_values, hid]
    constructor
    · exact fun ha => ⟨⟨k, ha⟩, hworking.keyed ha⟩
    · rintro ⟨⟨k', ha⟩, hk⟩
      rwa [← hk, hworking.keyed ha]
  rw [Database.accountType, (Database.saveSnapshot_eq_ok h).accounts, hrows,
    Table.find?_upsertAll_map _ hnd hlook]
  cases l.accounts.lookup id with
  | none => rfl
  | some a => cases db.accounts.find? id <;> rfl

/-! ## What a reload gives back -/

/-- What a reload of the database returns reads like the snapshot. -/
structure Recovers (s : Saved) : Prop where
  working : ∃ l, WorkingLedger l ∧ l.snapshot = s.2
  accounts : SameAccounts s.2 s.1
  balances : ∀ a asset, (fromSnapshot s.2).balance a asset = s.1.balance a asset
  derived : DerivedFrom (s.1.chain.flatMap Block.txs) s.2.nonces s.2.issued
  blocks : s.2.blocks.map (fun b => (b.hash, b.txs)) = s.1.chain.map fun b => (b.hash, b.txs)

/-- Commands that leave the chain and the accounts alone leave it true. -/
theorem Recovers.step {db db' : Database} {last : LedgerSnapshot} (h : Recovers (db, last))
    (hsame : SameChain db db') (haccounts : db'.accounts = db.accounts) : Recovers (db', last) where
  working := h.working
  accounts := by
    intro id
    rw [Database.accountType, haccounts]
    exact h.accounts id
  balances := fun a asset => (h.balances a asset).trans (hsame.balances a asset).symm
  derived := by
    rw [hsame.chain_eq]
    exact h.derived
  blocks := by
    rw [hsame.chain_eq]
    exact h.blocks

/-- What a pass carries from its load to its save. -/
structure Carried (snapshot : LedgerSnapshot) (db : Database) : Prop where
  accounts : SameAccounts snapshot db
  nonces : snapshot.nonces = (PaymentIndex.ofPayments .exact snapshot.payments).nonces
  issued : snapshot.issued = (PaymentIndex.ofPayments .exact snapshot.payments).issued

/-- A reload under the lock derives its maps from the chain of the database. -/
theorem Carried.derived {snapshot : LedgerSnapshot} {db : Database} (h : Carried snapshot db)
    (hs : ChainSound .exact db) (hload : LoadedChain snapshot db) :
    DerivedFrom (db.chain.flatMap Block.txs) snapshot.nonces snapshot.issued := by
  obtain ⟨u, hu, hsame⟩ := hload.payments
  rw [h.nonces, h.issued, hu]
  refine (derivedFrom_ofPayments u.payments).perm (.trans ?_ hs.finalizedTxs_perm)
  refine (List.perm_ext_iff_of_nodup u.finalizedTxs_nodup db.finalizedTxs_nodup).mpr fun tx => ?_
  rw [Database.mem_finalizedTxs, Database.mem_finalizedTxs]
  constructor
  · rintro ⟨r, hr, htx, hfinal⟩
    obtain ⟨r', hr', htx', -, hfin⟩ := hsame.kept tx.id r hr
    exact ⟨r', hr', htx'.trans htx, hfin.mpr hfinal⟩
  · rintro ⟨r', hr', htx', hfinal⟩
    rcases hsame.back hr' with ⟨r, hr, htx, -, hfin⟩ | ⟨-, hwaits⟩
    · exact ⟨r, hr, htx.symm.trans htx', hfin.mp hfinal⟩
    · exact absurd hfinal hwaits

section

variable {v : ValidatorRuntime} {snapshot : LedgerSnapshot} {accepted : List Transaction}
  {block : Block} {final : InMemoryLedger} {db d : Database}

theorem SavePoint.working (h : SavePoint .exact v snapshot accepted block final db) :
    WorkingLedger final := by
  obtain ⟨draws, records, happly⟩ := h.block.run
  rw [h.arith] at happly
  exact .applied happly

/-- A save leaves the account types of the database as they are. -/
theorem SavePoint.accountType_eq (h : SavePoint .exact v snapshot accepted block final db)
    (haccounts : SameAccounts snapshot db) (hsave : db.saveSnapshot final.snapshot = .ok d)
    (id : String) : d.accountType id = db.accountType id := by
  obtain ⟨draws, records, happ⟩ := h.block.applied
  rw [accountType_saveSnapshot h.working hsave, happ.accounts_eq, ← haccounts id]
  cases (fromSnapshot snapshot).accounts.lookup id <;> rfl

/-- The save of a block makes the database give back what is saved. -/
theorem SavePoint.recovers (h : SavePoint .exact v snapshot accepted block final db)
    (hcarried : Carried snapshot db) (hsorted : accepted.Pairwise Transaction.Before)
    (hsave : db.saveSnapshot final.snapshot = .ok d) : Recovers (d, final.snapshot) := by
  obtain ⟨draws, records, happ⟩ := h.block.applied
  have hchain := h.chain_eq hsorted hsave
  refine ⟨⟨final, h.working, rfl⟩, ?_, ?_, ?_, ?_⟩
  · intro id
    rw [h.working.reload_accounts, h.accountType_eq hcarried.accounts hsave, ← hcarried.accounts,
      happ.accounts_eq]
  · intro a asset
    rw [fromSnapshot_snapshot_balance, balance_final h.block h.loaded hsave]
  · have hbatch := happ.batch
    rw [h.arith, h.block.txs] at hbatch
    have hderived := (hcarried.derived h.sound h.loaded).applyTransactions hbatch
    rw [hchain, List.flatMap_append, List.flatMap_singleton]
    exact h.block.txs ▸ hderived
  · have hblocks : final.snapshot.blocks = db.chain ++ [block] := (h.block.continues h.loaded).2.2
    rw [hblocks, hchain, List.map_append, List.map_append]
    rfl

end

/-- The seeded database gives the sandbox back. -/
theorem recovers_seeded {settings : Settings} {d : Draws} {db : Database}
    (h : (Database.empty settings).saveSnapshot (sandbox d).snapshot = .ok db) :
    Recovers (db, (sandbox d).snapshot) := by
  have hworking : WorkingLedger (sandbox d) := .sandbox d
  have hchain : db.chain = [] := chain_seeded h
  refine ⟨⟨_, hworking, rfl⟩, ?_, ?_, ?_, ?_⟩
  · intro id
    rw [hworking.reload_accounts, accountType_saveSnapshot hworking h]
    cases (sandbox d).accounts.lookup id <;> rfl
  · intro a asset
    rw [fromSnapshot_snapshot_balance, balance_of_saved h fun _ => rfl]
  · rw [hchain]
    exact .nil
  · rw [hchain]
    rfl

/-! ## Every schedule -/

/-- What every command of a run does: account types stay, and what the
database gives back is what was saved last. -/
structure RestartStep (s s' : Saved) : Prop where
  accounts : ∀ id, s'.1.accountType id = s.1.accountType id
  recovers : Recovers s → Recovers s'

theorem RestartStep.refl (s : Saved) : RestartStep s s := ⟨fun _ => rfl, fun h => h⟩

theorem RestartStep.trans {s s' s'' : Saved} (h : RestartStep s s') (h' : RestartStep s' s'') :
    RestartStep s s'' :=
  ⟨fun id => (h'.accounts id).trans (h.accounts id), fun hr => h'.recovers (h.recovers hr)⟩

theorem RestartStep.of_same {db db' : Database} {last : LedgerSnapshot} (h : SameChain db db')
    (haccounts : db'.accounts = db.accounts) : RestartStep (db, last) (db', last) := by
  refine ⟨fun id => ?_, fun hr => hr.step h haccounts⟩
  rw [Database.accountType, Database.accountType, haccounts]

def restartRely (i : Session) (s s' : Saved) : Prop :=
  ChainRely .exact i s.1 s'.1 ∧ RestartStep s s'

def restartGuar (i : Session) (s s' : Saved) : Prop :=
  ChainGuar .exact i s.1 s'.1 ∧ RestartStep s s'

theorem restartRely_refl (i : Session) (s : Saved) : restartRely i s s := ⟨.refl i s.1, .refl s⟩

theorem restartRely_trans {i : Session} {s s' s'' : Saved} (h : restartRely i s s')
    (h' : restartRely i s' s'') : restartRely i s s'' :=
  ⟨h.1.trans h'.1, h.2.trans h'.2⟩

theorem restartGuar_refl (i : Session) (s : Saved) : restartGuar i s s := ⟨.refl i s.1, .refl s⟩

/-- What a pass knows at each place. -/
def restartKnows (i : Session) (ph : Phase) (s : Saved) : Prop :=
  chainKnows .exact i ph s.1 ∧ Recovers s ∧
    match ph with
    | .loaded snapshot => Carried snapshot s.1
    | .selecting snapshot accepted pending =>
      Carried snapshot s.1 ∧ (accepted ++ pending).Pairwise Transaction.Before
    | _ => True

theorem Carried.step {snapshot : LedgerSnapshot} {s s' : Saved} (h : Carried snapshot s.1)
    (hs : RestartStep s s') : Carried snapshot s'.1 :=
  ⟨fun id => (h.accounts id).trans (hs.accounts id).symm, h.nonces, h.issued⟩

theorem restartKnows_stable {i : Session} {ph : Phase} {s s' : Saved} (h : restartKnows i ph s)
    (hs : restartRely i s s') : restartKnows i ph s' := by
  refine ⟨chainKnows_stable h.1 hs.1, hs.2.recovers h.2.1, ?_⟩
  cases ph with
  | loaded snapshot => exact h.2.2.step hs.2
  | selecting snapshot accepted pending => exact ⟨h.2.2.1.step hs.2, h.2.2.2⟩
  | _ => trivial

/-- A pass among any calls, beside the outline of the chain. -/
def restartOutline (v : ValidatorRuntime) (harith : v.host.arith = .exact) (i : Session) :
    PassOutline savedView v i (restartRely i) (restartGuar i) (fun _ _ => True) where
  holds := restartKnows i
  rely_refl := restartRely_refl i
  rely_trans := fun _ _ _ => restartRely_trans
  guar_refl := restartGuar_refl i
  stable := fun _ _ _ => restartKnows_stable
  bookkeeping := by
    rintro ph ⟨db, last⟩ t u h
    have hsame : SameChain db (db.withBookkeeping t u) := .of_eq rfl rfl rfl
    have hguar : ChainGuar .exact i db (db.withBookkeeping t u) := .of_same hsame rfl rfl
    have hstep : RestartStep (db, last) (db.withBookkeeping t u, last) := .of_same hsame rfl
    refine ⟨⟨hguar, hstep⟩, restartKnows_stable h ⟨⟨hguar.toChainStep, fun hmine => ?_⟩, hstep⟩⟩
    exact ⟨hmine, hsame⟩
  lock := by
    rintro ⟨db, last⟩ ⟨hchain, hrecovers, -⟩ hfree
    have hsame : SameChain db { db with blockProductionLock := some i } := .of_eq rfl rfl rfl
    obtain ⟨hguar, hchain'⟩ := (chainOutline v harith i fun _ _ => True).lock db hchain hfree
    exact ⟨⟨hguar, .of_same hsame rfl⟩, hchain', hrecovers.step hsame rfl, trivial⟩
  load := by
    rintro s s' snapshot ⟨hchain, hrecovers, -⟩ hs hload
    rw [harith] at hload
    have hplain : LoadedFrom .exact
        (fun u => ∃ w, ChainRely .exact i s.1 w ∧ ChainRely .exact i w s'.1 ∧ w = u) snapshot :=
      hload.mono fun u ⟨w, hw, hw', heq⟩ => ⟨w.1, hw.1, hw'.1, heq⟩
    have hloaded := (chainOutline v harith i fun _ _ => True).load s.1 s'.1 snapshot hchain hs.1
      (harith ▸ hplain)
    refine ⟨hloaded, hs.2.recovers hrecovers, ?_, hload.nonces, hload.issued⟩
    obtain ⟨_, ⟨w, -, hw', rfl⟩, haccounts⟩ := hload.accounts
    intro id
    rw [lookup_fromSnapshot_accounts haccounts]
    exact (hw'.2.accounts id).symm
  take := fun s snapshot h =>
    ⟨(chainOutline v harith i fun _ _ => True).take s.1 snapshot h.1, h.2.1, h.2.2,
      s.1.pendingTransactions_pairwise _ 0⟩
  accept := by
    rintro s snapshot accepted tx pending ⟨hchain, hrecovers, hcarried, hsorted⟩ hacc
    refine ⟨(chainOutline v harith i fun _ _ => True).accept s.1 snapshot accepted tx pending hchain
      hacc, hrecovers, hcarried, ?_⟩
    rwa [List.append_cons] at hsorted
  reject := by
    rintro ⟨db, last⟩ snapshot accepted tx pending e now ⟨hchain, hrecovers, hcarried, hsorted⟩ herror
    have hsame : SameChain db (db.rejectTransaction tx.id e.message now) := .of_reject _ _ _ _
    obtain ⟨hguar, hchain'⟩ := (chainOutline v harith i fun _ _ => True).reject db snapshot accepted
      tx pending e now hchain herror
    have hstep : RestartStep (db, last) (db.rejectTransaction tx.id e.message now, last) :=
      .of_same hsame rfl
    exact ⟨⟨hguar, hstep⟩, hchain', hstep.recovers hrecovers, hcarried.step hstep,
      hsorted.sublist ((List.sublist_cons_self _ _).append_left _)⟩
  save := by
    rintro ⟨db, last⟩ d snapshot accepted block final ⟨hchain, -, hcarried, hsorted⟩ hne hblock _ hsave
    obtain ⟨hguar, hchain'⟩ := (chainOutline v harith i fun _ _ => True).save db d snapshot accepted
      block final hchain hne hblock trivial hsave
    obtain ⟨hs, -, hload, hsel⟩ := hchain
    rw [List.append_nil] at hsel hsorted
    have hpoint : SavePoint .exact v snapshot accepted block final db :=
      ⟨harith, hs, hblock, hload, hsel⟩
    have hrecovers := hpoint.recovers hcarried hsorted hsave
    exact ⟨⟨hguar, hpoint.accountType_eq hcarried.accounts hsave, fun _ => hrecovers⟩, hchain',
      hrecovers, trivial⟩
  fail := fun s snapshot accepted h =>
    ⟨(chainOutline v harith i fun _ _ => True).fail s.1 snapshot accepted h.1, h.2.1, trivial⟩
  failReject := by
    rintro ⟨db, last⟩ tx txs now ⟨hchain, hrecovers, -⟩
    have hsame : SameChain db
        (db.rejectTransaction tx.id LedgerError.missingBlockHash.message now) := .of_reject _ _ _ _
    obtain ⟨hguar, hchain'⟩ :=
      (chainOutline v harith i fun _ _ => True).failReject db tx txs now hchain
    exact ⟨⟨hguar, .of_same hsame rfl⟩, hchain', hrecovers.step hsame rfl, trivial⟩
  unlock := by
    rintro ⟨db, last⟩ hlock
    have hsame : SameChain db { db with blockProductionLock := none } := .of_eq rfl rfl rfl
    exact ⟨(chainOutline v harith i fun _ _ => True).unlock db hlock, .of_same hsame rfl⟩
  savedUnlock := by
    rintro block ⟨db, last⟩ ⟨hchain, hrecovers, -⟩
    have hsame : SameChain db { db with blockProductionLock := none } := .of_eq rfl rfl rfl
    exact ⟨(chainOutline v harith i fun _ _ => True).savedUnlock block db hchain,
      hrecovers.step hsame rfl, trivial⟩

/-- A statement of the API saves no snapshot. -/
theorem Statement.OfApi.noteSaved {w : Statement} (hw : w.OfApi) (reply : w.Reply)
    (last : LedgerSnapshot) : w.noteSaved reply last = last := by
  cases hw <;> rfl

theorem api_restartGuar {approving : Bool} {c : Sql} (hc : c.OfApi approving) (i : Session)
    (s : Saved) : restartGuar i s (c.execSaved s).1 := by
  rcases Sql.execBeside_cases Statement.noteSaved c s with hsame | ⟨w, d, reply, rfl, hrun, hs'⟩
  · rw [Sql.execSaved, hsame]
    exact restartGuar_refl i s
  · have hstep := apiStep_of_run (hc w rfl).1 hrun
    rw [Sql.execSaved, hs', (hc w rfl).1.noteSaved]
    exact ⟨.of_same (.of_api hstep) hstep.accounts hstep.blockProductionLock,
      .of_same (.of_api hstep) hstep.accounts⟩

/-- The outline of a network on a seeded database. -/
def restartNetwork :
    Pool.Outline Sql.execSaved (UniformCall.body .exact) (fun _ (_ : Saved) => True) where
  inv := fun s => (ChainSound .exact s.1 ∧ s.1.accounts.rows ≠ []) ∧ Recovers s
  rely := restartRely
  guar := restartGuar
  post := fun _ _ _ _ => True
  rely_refl := restartRely_refl
  rely_trans := fun _ _ _ _ => restartRely_trans
  guar_rely := fun _ _ _ _ hne _ h => ⟨h.1.rely hne, h.2⟩
  guar_inv := fun _ _ _ hinv h =>
    ⟨⟨h.1.sound hinv.1.1, h.1.accounts hinv.1.2⟩, h.2.recovers hinv.2⟩
  body_safe := by
    rintro i ⟨c, harith⟩ s ⟨⟨hs, haccounts⟩, hrecovers⟩
    cases c with
    | request n op =>
      exact .of_only (KaniNode.Postgres.request_only n op) (fun _ s hc => api_restartGuar hc i s)
        fun _ _ => trivial
    | pass v d =>
      exact NetworkCall.pass_safe (restartOutline v harith i) ⟨⟨hs, trivial⟩, hrecovers, trivial⟩
    | seed ar d =>
      refine .mapError (ensureSandboxSeed_safe savedView (restartGuar_refl i) (restartRely_refl i)
        (fun _ _ _ => restartRely_trans) (fun _ _ => trivial) ?_ ?_)
      · intro institution s
        have hc : (Sql.write (.upsertInstitution institution)).OfApi false :=
          Sql.ofApi_write (.upsertInstitution _) nofun
        exact api_restartGuar hc i s
      · intro u _ _ hu _ hempty _ _
        exact absurd hempty (hu.1.accountRows haccounts)

/-- In every reachable network the database gives back what was saved last. -/
theorem recovers_reachable {settings : Settings} {d : Draws} {db : Database}
    (hseed : (Database.empty settings).saveSnapshot (sandbox d).snapshot = .ok db)
    {P : Pool Session (UniformCall .exact) Sql Sql.Reply NodeError Unit Saved}
    (hrun : Pool.Reaches Sql.execSaved (UniformCall.body .exact) (fun _ _ => True)
      (.idle (db, (sandbox d).snapshot)) P) :
    ChainSound .exact P.store.1 ∧ Recovers P.store := by
  have hholds := restartNetwork.sound
    (restartNetwork.holds_idle ⟨chainSound_seeded hseed, recovers_seeded hseed⟩) hrun
  exact ⟨hholds.1.1.1, hholds.1.2⟩

/-! ## A restart -/

theorem lastHash_eq_of_blocks {l l' : InMemoryLedger}
    (h : l.blocks.map Block.hash = l'.blocks.map Block.hash) : l.lastHash = l'.lastHash := by
  have hlast := congrArg List.getLast? h
  rw [List.getLast?_map, List.getLast?_map] at hlast
  unfold lastHash
  generalize l.blocks.getLast? = last at hlast
  generalize l'.blocks.getLast? = last' at hlast
  cases last with
  | none =>
    cases last' with
    | none => rfl
    | some b' => cases hlast
  | some b =>
    cases last' with
    | none => cases hlast
    | some b' => exact Option.some.inj hlast

/-- A reload and the ledger that was saved last are alike. -/
theorem Recovers.alike {db : Database} {before : InMemoryLedger}
    (h : Recovers (db, before.snapshot)) (hs : ChainSound .exact db)
    (hbefore : WorkingLedger before) : (fromSnapshot (readSnapshot .exact db)).Alike before where
  accounts := by
    intro id
    rw [lookup_fromSnapshot_accounts rfl, ← hbefore.reload_accounts]
    exact (h.accounts id).symm
  working := by
    refine ⟨fun a asset => ?_, fun a => ?_, fun asset => ?_⟩
    · have hreload : (fromSnapshot (readSnapshot .exact db)).balance a asset = db.balance a asset :=
        balance_fromSnapshot rfl a asset
      have hsaved : (fromSnapshot before.snapshot).balance a asset = before.balance a asset :=
        fromSnapshot_snapshot_balance before a asset
      exact hreload.trans ((h.balances a asset).symm.trans hsaved)
    · exact (hs.derivedFrom_chain.nonces a).trans (h.derived.nonces a).symm
    · exact (hs.derivedFrom_chain.issued asset).trans (h.derived.issued asset).symm

/-- In every run over a seeded database, of any number of validators, requests
and starting processes with exact amounts: a process that starts now and
loads the tables has the nonces and the issued amounts of the ledger that was
saved last, its blocks with their transactions in their order, its next
height and its last hash, and judges every batch as that ledger does. -/
theorem restart_recovers {settings : Settings} {d : Draws} {db : Database}
    (hseed : (Database.empty settings).saveSnapshot (sandbox d).snapshot = .ok db)
    {P : Pool Session (UniformCall .exact) Sql Sql.Reply NodeError Unit Saved}
    (hrun : Pool.Reaches Sql.execSaved (UniformCall.body .exact) (fun _ _ => True)
      (.idle (db, (sandbox d).snapshot)) P)
    {before : InMemoryLedger} (hbefore : WorkingLedger before) (hsaved : before.snapshot = P.store.2)
    {snapshot : LedgerSnapshot}
    (hload : ((loadSnapshot .exact : StoreProg NodeError LedgerSnapshot).exec Sql.exec P.store.1).2 =
      .ok snapshot) :
    (∀ a, (fromSnapshot snapshot).nonces.getOr a 0 = before.nonces.getOr a 0) ∧
      (∀ asset, (fromSnapshot snapshot).issued.getOr asset 0 = before.issued.getOr asset 0) ∧
      (fromSnapshot snapshot).blocks.map Block.txs = before.blocks.map Block.txs ∧
      (fromSnapshot snapshot).nextHeight = before.nextHeight ∧
      (fromSnapshot snapshot).lastHash = before.lastHash ∧
      ∀ draws txs, (fromSnapshot snapshot).validateTransactionsForNextBlock .exact draws txs =
        before.validateTransactionsForNextBlock .exact draws txs := by
  obtain ⟨hs, hrecovers⟩ := recovers_reachable hseed hrun
  rw [exec_loadSnapshot] at hload
  cases hload
  rw [← Prod.mk.eta (p := P.store), ← hsaved] at hrecovers
  have halike := hrecovers.alike hs hbefore
  have hblocks : before.blocks.map (fun b => (b.hash, b.txs)) =
      (fromSnapshot (readSnapshot .exact P.store.1)).blocks.map fun b => (b.hash, b.txs) := by
    rw [show (fromSnapshot (readSnapshot .exact P.store.1)).blocks = P.store.1.chain from
      Database.readSnapshot_blocks _ _]
    exact hrecovers.blocks
  have hhashes := congrArg (List.map Prod.fst) hblocks
  have htxs := congrArg (List.map Prod.snd) hblocks
  have hlength := congrArg List.length hblocks
  rw [List.map_map, List.map_map] at hhashes htxs
  rw [List.length_map, List.length_map] at hlength
  refine ⟨halike.working.nonce, halike.working.issued, htxs.symm, ?_,
    lastHash_eq_of_blocks hhashes.symm, ?_⟩
  · rw [nextHeight, nextHeight, hlength]
  · exact fun draws txs => halike.validateTransactionsForNextBlock .exact draws draws txs

/-- A mint, the pass of the leader that finalizes it, and a second mint that
waits. -/
def exampleRestart : List (Pool.Event Session (UniformCall .exact)) :=
  let mint (i : Session) (d : Draws) : List (Pool.Event Session (UniformCall .exact)) :=
    [.start i ⟨.request ⟨.sample, phase1Engine, .hybridPqcV1⟩ (.mintSandbox d
      SANDBOX_TREASURY_ACCOUNT SANDBOX_CORP_A_ACCOUNT KCAD_TEST 10), trivial⟩, .tick i, .tick i]
  mint 0 (.numbered "first" 1000) ++
    .start 1 ⟨.pass (.connect .sample "validator-a") (.numbered "p" 2000), Host.sample_arith⟩ ::
      List.replicate 28 (.tick 1) ++ mint 2 (.numbered "second" 3000)

/-- The process that starts after it knows the one nonce that is spent. -/
theorem restart_recovers_example :
    let P := Pool.run Sql.execSaved (UniformCall.body .exact) (fun _ _ => True)
      (.idle (.seeded (.numbered "seed" 0), (sandbox (.numbered "seed" 0)).snapshot)) exampleRestart
    P.store.2.nonces.getOr SANDBOX_TREASURY_ACCOUNT 0 = 1 ∧
      P.store.1.transactions.rows.map TransactionRow.status = [.finalized, .pending] ∧
      ∃ before : InMemoryLedger, before.snapshot = P.store.2 ∧
        (∀ a, (readSnapshot .exact P.store.1).nonces.getOr a 0 = before.nonces.getOr a 0) ∧
        (fromSnapshot (readSnapshot .exact P.store.1)).nextHeight = before.nextHeight := by
  intro P
  have hseed := Database.seeded_numbered
  have hrun : Pool.Reaches Sql.execSaved (UniformCall.body .exact) (fun _ _ => True)
      (.idle (.seeded (.numbered "seed" 0), (sandbox (.numbered "seed" 0)).snapshot)) P :=
    Pool.reaches_run _ _ _ _ _
  obtain ⟨before, hbefore, hsaved⟩ := (recovers_reachable hseed hrun).2.working
  have hload : ((loadSnapshot .exact : StoreProg NodeError LedgerSnapshot).exec Sql.exec P.store.1).2 =
      .ok (readSnapshot .exact P.store.1) := congrArg Prod.snd (exec_loadSnapshot _ _)
  obtain ⟨hnonces, -, -, hheight, -⟩ := restart_recovers hseed hrun hbefore hsaved hload
  have hfrom : ∀ s : LedgerSnapshot, (fromSnapshot s).nonces = s.nonces := fun _ => rfl
  simp only [hfrom] at hnonces
  exact ⟨by decide +kernel, by decide +kernel, before, hsaved, hnonces, hheight⟩

end KaniNetwork
