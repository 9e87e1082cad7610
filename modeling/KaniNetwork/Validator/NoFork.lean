/-
KaniNetwork.Validator.NoFork — concurrent validators extend one chain.

The lock is what a pass relies on: while it holds it, nobody else changes
the chain (`ChainRely`), and what it changes itself it changes only under
the lock (`ChainGuar`). So the snapshot it loads stays the chain of the
database until its save, and the save appends one block to it. In every
run of any number of validators and requests over a seeded database the
chain stays sound and only grows (`no_fork`).
-/
import KaniNetwork.Validator.ChainGrowth
import KaniNetwork.Validator.Network

namespace KaniNetwork

open InMemoryLedger

/-! ## Rely and guarantee -/

/-- What any command of a run does to the chain. -/
structure ChainStep (ar : Arith) (db db' : Database) : Prop where
  sound : ChainSound ar db → ChainSound ar db'
  grows : ChainSound ar db → db.chain <+: db'.chain
  accounts : db.accounts.rows ≠ [] → db'.accounts.rows ≠ []

/-- What the session `i` sees of the others: nobody takes its lock away or
touches the chain while it holds it. -/
structure ChainRely (ar : Arith) (i : Session) (db db' : Database) : Prop
    extends ChainStep ar db db' where
  mine : db.blockProductionLock = some i →
    db'.blockProductionLock = some i ∧ SameChain db db'

/-- What the session `i` lets the others see. -/
structure ChainGuar (ar : Arith) (i : Session) (db db' : Database) : Prop
    extends ChainStep ar db db' where
  others : ∀ j, j ≠ i → db.blockProductionLock = some j →
    db'.blockProductionLock = some j ∧ SameChain db db'

variable {ar : Arith}

theorem ChainStep.refl (db : Database) : ChainStep ar db db :=
  ⟨fun h => h, fun _ => List.prefix_rfl, fun h => h⟩

theorem ChainStep.trans {db db' db'' : Database} (h : ChainStep ar db db') (h' : ChainStep ar db' db'') :
    ChainStep ar db db'' :=
  ⟨fun hs => h'.sound (h.sound hs), fun hs => (h.grows hs).trans (h'.grows (h.sound hs)),
    fun ha => h'.accounts (h.accounts ha)⟩

theorem ChainRely.refl (i : Session) (db : Database) : ChainRely ar i db db :=
  ⟨.refl db, fun h => ⟨h, .refl db⟩⟩

theorem ChainRely.trans {i : Session} {db db' db'' : Database} (h : ChainRely ar i db db')
    (h' : ChainRely ar i db' db'') : ChainRely ar i db db'' := by
  refine ⟨h.toChainStep.trans h'.toChainStep, fun hlock => ?_⟩
  obtain ⟨hlock', hsame⟩ := h.mine hlock
  obtain ⟨hlock'', hsame'⟩ := h'.mine hlock'
  exact ⟨hlock'', hsame.trans hsame'⟩

theorem ChainGuar.rely {i j : Session} {db db' : Database} (h : ChainGuar ar i db db') (hne : i ≠ j) :
    ChainRely ar j db db' :=
  ⟨h.toChainStep, h.others j hne.symm⟩

/-- Accounts are never deleted, so a later process has seen them. -/
theorem ChainStep.accountRows {db db' : Database} (h : ChainStep ar db db')
    (haccounts : db.accounts.rows ≠ []) : db'.accountRows ≠ [] := by
  intro hempty
  have hrows : db'.accounts.rows.Perm db'.accountRows := (List.perm_insertionSort _ _).symm
  rw [hempty] at hrows
  exact h.accounts haccounts hrows.eq_nil

theorem ChainStep.of_same {db db' : Database} (h : SameChain db db')
    (haccounts : db'.accounts = db.accounts) : ChainStep ar db db' :=
  ⟨h.sound, fun _ => h.chain_eq ▸ List.prefix_rfl, fun hne => haccounts ▸ hne⟩

/-- A command that leaves the chain, the accounts and the lock alone. -/
theorem ChainGuar.of_same {i : Session} {db db' : Database} (h : SameChain db db')
    (haccounts : db'.accounts = db.accounts)
    (hlock : db'.blockProductionLock = db.blockProductionLock) : ChainGuar ar i db db' :=
  ⟨.of_same h haccounts, fun _ _ hj => ⟨hlock.trans hj, h⟩⟩

theorem ChainGuar.refl (i : Session) (db : Database) : ChainGuar ar i db db :=
  .of_same (.refl db) rfl rfl

/-- Taking or releasing the lock, which no other session holds. -/
theorem ChainGuar.of_lock {i : Session} {db : Database} (k : Option Session)
    (h : db.blockProductionLock = none ∨ db.blockProductionLock = some i) :
    ChainGuar ar i db { db with blockProductionLock := k } := by
  refine ⟨.of_same (.of_eq rfl rfl rfl) rfl, fun j hne hj => ?_⟩
  rcases h with hfree | hmine
  · rw [hfree] at hj
    cases hj
  · rw [hmine] at hj
    cases hj
    exact absurd rfl hne

/-- A save loses no account. -/
theorem accounts_saved {snapshot : LedgerSnapshot} {db d : Database}
    (h : db.saveSnapshot snapshot = .ok d) (hne : db.accounts.rows ≠ []) : d.accounts.rows ≠ [] := by
  obtain ⟨a, ha⟩ := List.exists_mem_of_ne_nil _ hne
  obtain ⟨a', ha', -⟩ : ∃ a', d.accounts.find? a.id = some a' ∧ a'.id = a.id := by
    rw [(Database.saveSnapshot_eq_ok h).accounts]
    exact Table.find?_upsertAll_keeps Account.id Account.merge_id (Table.mem_rows_iff.mp ha)
  exact List.ne_nil_of_mem (Table.mem_of_find? ha')

/-! ## A pass -/

/-- What a pass knows at each place. -/
def chainKnows (ar : Arith) (i : Session) (ph : Phase) (db : Database) : Prop :=
  ChainSound ar db ∧
    match ph with
    | .idle | .saved _ | .failing _ => True
    | .locked => db.blockProductionLock = some i
    | .loaded snapshot => db.blockProductionLock = some i ∧ LoadedChain snapshot db
    | .selecting snapshot accepted pending =>
      db.blockProductionLock = some i ∧ LoadedChain snapshot db ∧ Selected (accepted ++ pending) db

theorem chainKnows_stable {i : Session} {ph : Phase} {db db' : Database} (h : chainKnows ar i ph db)
    (hr : ChainRely ar i db db') : chainKnows ar i ph db' := by
  refine ⟨hr.sound h.1, ?_⟩
  cases ph with
  | idle => trivial
  | locked => exact (hr.mine h.2).1
  | loaded snapshot =>
    obtain ⟨hlock, hsame⟩ := hr.mine h.2.1
    exact ⟨hlock, h.2.2.step hsame⟩
  | selecting snapshot accepted pending =>
    obtain ⟨hlock, hsame⟩ := hr.mine h.2.1
    exact ⟨hlock, h.2.2.1.step hsame, h.2.2.2.step hsame⟩
  | failing txs => trivial
  | saved block => trivial

/-- A command of the pass itself that leaves the chain and the lock alone. -/
theorem chainKnows_same {i : Session} {ph : Phase} {db db' : Database} (h : chainKnows ar i ph db)
    (hsame : SameChain db db') (haccounts : db'.accounts = db.accounts)
    (hlock : db'.blockProductionLock = db.blockProductionLock) : chainKnows ar i ph db' :=
  chainKnows_stable h ⟨.of_same hsame haccounts, fun hmine => ⟨hlock.trans hmine, hsame⟩⟩

/-- What is read under the lock is the chain of the database. -/
theorem loadedChain_of_load {i : Session} {ar' : Arith} {db db' : Database}
    {snapshot : LedgerSnapshot} (hlock : db.blockProductionLock = some i)
    (h : LoadedFrom ar' (fun u => ∃ w, ChainRely ar i db w ∧ ChainRely ar i w db' ∧ w = u) snapshot) :
    LoadedChain snapshot db' := by
  have hsame : ∀ {u}, ChainRely ar i db u → ChainRely ar i u db' → SameChain u db' :=
    fun hu hu' => (hu'.mine (hu.mine hlock).1).2
  obtain ⟨_, ⟨u, hu, hu', rfl⟩, hblocks⟩ := h.blocks
  obtain ⟨_, ⟨w, hw, hw', rfl⟩, hbalances⟩ := h.balances
  obtain ⟨_, ⟨x, hx, hx', rfl⟩, hpayments⟩ := h.payments
  have hxsame := hsame hx hx'
  refine ⟨?_, ?_, x, hpayments, hxsame⟩
  · rw [hblocks, PaymentIndex.blocks_ofPayments, hpayments, ← (hsame hu hu').blockRows_eq]
    exact List.map_congr_left fun r _ => by rw [hxsame.txsAt_eq]
  · intro a s
    rw [balance_fromSnapshot hbalances, (hsame hw hw').balances]

/-- A pass among any calls of processes built alike. -/
def chainOutline (v : ValidatorRuntime) (harith : v.host.arith = ar) (i : Session)
    (ok : Sql → Database → Prop) :
    PassOutline DbView.plain v i (ChainRely ar i) (ChainGuar ar i) ok where
  holds := chainKnows ar i
  rely_refl := ChainRely.refl i
  rely_trans := fun _ _ _ => ChainRely.trans
  guar_refl := ChainGuar.refl i
  stable := fun _ _ _ => chainKnows_stable
  bookkeeping := by
    intro ph db t u h
    have hsame : SameChain db (db.withBookkeeping t u) := .of_eq rfl rfl rfl
    exact ⟨.of_same hsame rfl rfl, chainKnows_same h hsame rfl rfl⟩
  lock := by
    intro db h hfree
    have hsame : SameChain db { db with blockProductionLock := some i } := .of_eq rfl rfl rfl
    exact ⟨.of_lock _ hfree, hsame.sound h.1, rfl⟩
  load := by
    intro db db' snapshot h hr hload
    exact ⟨hr.sound h.1, (hr.mine h.2).1, loadedChain_of_load h.2 hload⟩
  take := by
    intro db snapshot h
    refine ⟨h.1, h.2.1, h.2.2, ?_, ?_⟩
    · intro tx htx
      obtain ⟨r, hr, hpending, htx⟩ := Database.of_mem_pendingTransactions htx
      have hfin := h.1.finalized tx.id r hr
      rw [hpending] at hfin
      exact ⟨r, hr, htx, by simpa using hfin⟩
    · exact Database.pendingTransactions_nodup _ _ _
  accept := by
    intro db snapshot accepted tx pending h _
    refine ⟨h.1, h.2.1, h.2.2.1, ?_⟩
    have hsel := h.2.2.2
    rwa [List.append_cons] at hsel
  reject := by
    intro db snapshot accepted tx pending e now h _
    have hsame : SameChain db (db.rejectTransaction tx.id e.message now) := .of_reject _ _ _ _
    refine ⟨.of_same hsame rfl rfl, ?_⟩
    obtain ⟨hs, hlock, hload, hsel⟩ := chainKnows_same h hsame rfl rfl
    exact ⟨hs, hlock, hload, hsel.sublist ((List.sublist_cons_self _ _).append_left _)⟩
  save := by
    intro db d snapshot accepted block final h _ hblock _ hsave
    obtain ⟨hs, hlock, hload, hsel⟩ := h
    rw [List.append_nil] at hsel
    have hsound := sound_saved hs hblock hload hsel hsave harith
    refine ⟨⟨⟨fun _ => hsound, fun _ => ?_, accounts_saved hsave⟩, ?_⟩, hsound, trivial⟩
    · exact ⟨_, (chain_saved hs hblock hload hsel hsave).symm⟩
    · intro j hne hj
      have hlock' : db.blockProductionLock = some i := hlock
      rw [hj] at hlock'
      exact absurd (Option.some.inj hlock') hne
  fail := fun db snapshot accepted h => ⟨h.1, trivial⟩
  failReject := by
    intro db tx txs now h
    have hsame : SameChain db
        (db.rejectTransaction tx.id LedgerError.missingBlockHash.message now) := .of_reject _ _ _ _
    exact ⟨.of_same hsame rfl rfl, hsame.sound h.1, trivial⟩
  unlock := fun db hlock => .of_lock _ (.inr hlock)
  savedUnlock := by
    intro block db h
    have hsame : SameChain db { db with blockProductionLock := none } := .of_eq rfl rfl rfl
    exact ⟨hsame.sound h.1, trivial⟩

/-! ## The network -/

/-- The safety of a call among any others; what it ends with is left open. -/
abbrev ChainSafe {ε α : Type} (ar : Arith) (i : Session) (ok : Sql → Database → Prop) (p : StoreProg ε α)
    (db : Database) : Prop :=
  p.Safe Sql.exec (ChainRely ar i) (ChainGuar ar i) ok (fun _ _ => True) db

/-- A command of the API leaves the chain alone. -/
theorem api_chainGuar {approving : Bool} {c : Sql} (hc : c.OfApi approving) (i : Session)
    (db : Database) : ChainGuar ar i db (c.exec db).1 := by
  rcases Sql.exec_cases c db with hsame | ⟨w, reply, rfl, hrun⟩
  · rw [hsame]
    exact .refl i db
  · have hstep := apiStep_of_run (hc w rfl).1 hrun
    exact .of_same (.of_api hstep) hstep.accounts hstep.blockProductionLock

theorem SameChain.of_command {approving : Bool} {c : Sql} (hc : c.OfApi approving) (db : Database) :
    SameChain db (c.exec db).1 := by
  rcases Sql.exec_cases c db with hsame | ⟨w, reply, rfl, hrun⟩
  · rw [hsame]
    exact .refl db
  · exact .of_api (apiStep_of_run (hc w rfl).1 hrun)

theorem chainSafe_request (n : KaniNode) (op : NodeOp) (i : Session)
    (ok : Sql → Database → Prop) (db : Database) :
    ChainSafe ar i ok ((NetworkCall.request n op).body i) db :=
  .of_only (KaniNode.Postgres.request_only n op) (fun _ s hc => api_chainGuar hc i s)
    fun _ _ => trivial

theorem chainSafe_pass (v : ValidatorRuntime) (harith : v.host.arith = ar) (d : Draws)
    (i : Session) (ok : Sql → Database → Prop) {db : Database} (hs : ChainSound ar db) :
    ChainSafe ar i ok ((NetworkCall.pass v d).body i) db :=
  NetworkCall.pass_safe (chainOutline v harith i ok) ⟨hs, trivial⟩

/-- A seeding that commits no save where it would matter. -/
theorem chainSafe_seed (ar' : Arith) (d : Draws) (i : Session) {ok : Sql → Database → Prop}
    {db : Database}
    (hsave : ∀ u s db', ChainRely ar i db u → ChainRely ar i u s → u.accountRows = [] →
      ok (.write (.saveSnapshot (sandbox d).snapshot)) s →
      s.saveSnapshot (sandbox d).snapshot = .ok db' → ChainGuar ar i s db') :
    ChainSafe ar i ok ((NetworkCall.seed ar' d).body i) db := by
  refine .mapError (ensureSandboxSeed_safe DbView.plain (ChainGuar.refl i) (ChainRely.refl i)
    (fun _ _ _ => ChainRely.trans) (fun _ _ => trivial) ?_ hsave)
  intro institution s
  have hc : (Sql.write (.upsertInstitution institution)).OfApi false :=
    Sql.ofApi_write (.upsertInstitution _) nofun
  exact api_chainGuar hc i s

/-- The outline of a network on a database that has its accounts. -/
def seededOutline (ar : Arith) :
    Pool.Outline Sql.exec (UniformCall.body ar) (fun _ (_ : Database) => True) where
  inv := fun db => ChainSound ar db ∧ db.accounts.rows ≠ []
  rely := ChainRely ar
  guar := ChainGuar ar
  post := fun _ _ _ _ => True
  rely_refl := ChainRely.refl
  rely_trans := fun _ _ _ _ => ChainRely.trans
  guar_rely := fun _ _ _ _ hne _ h => h.rely hne
  guar_inv := fun _ _ _ hinv h => ⟨h.sound hinv.1, h.accounts hinv.2⟩
  body_safe := by
    rintro i ⟨c, harith⟩ db ⟨hs, haccounts⟩
    cases c with
    | request n op => exact chainSafe_request n op i _ db
    | pass v d => exact chainSafe_pass v harith d i _ hs
    | seed ar' d =>
      refine chainSafe_seed ar' d i fun u _ _ hu _ hempty _ _ => ?_
      exact absurd hempty (hu.accountRows haccounts)

/-! ## Seeded databases -/

theorem chainSound_empty (settings : Settings) : ChainSound ar (.empty settings) := by
  have hchain : (Database.empty settings).chain = [] := rfl
  have hrow : ∀ id, (Database.empty settings).transactions.find? id = none := fun _ => rfl
  refine ⟨?_, ?_, ?_, ?_⟩
  · intro i b hb
    simp [hchain] at hb
  · intro id r hr
    simp [hrow] at hr
  · intro id r height hr
    simp [hrow] at hr
  · intro a s
    rw [hchain]
    cases ar <;> rfl

theorem balance_sandbox (d : Draws) (a s : String) : (sandbox d).balance a s = 0 := by
  unfold sandbox
  simp only [ensureBalanceRow_balance]
  rfl

/-- Saving the sandbox where its balances are zero leaves the chain alone. -/
theorem sandbox_sameChain {d : Draws} {db db' : Database}
    (h : db.saveSnapshot (sandbox d).snapshot = .ok db')
    (hzero : ∀ b ∈ (sandbox d).snapshot.balances, db.balance b.accountId b.asset = 0) :
    SameChain db db' := by
  have hsaved := Database.saveSnapshot_eq_ok h
  have hsame : SameChain db { db' with balances := db.balances } :=
    .of_eq rfl hsaved.blocks hsaved.transactions
  refine ⟨fun a s => ?_, hsame.blocks, hsame.kept, hsame.fresh⟩
  rw [balance_saveSnapshot h]
  have hbalance := balance_sandbox d a s
  simp only [balance, balanceFrom, HashMap.getOr] at hbalance
  cases hlook : (sandbox d).balances.lookup (a, s) with
  | none => rfl
  | some n =>
    rw [hlook] at hbalance
    have hmem : (⟨a, s, n⟩ : Balance) ∈ (sandbox d).snapshot.balances :=
      List.mem_map.mpr ⟨((a, s), n), HashMap.mem_pairs.mpr hlook, rfl⟩
    exact hbalance.trans (hzero _ hmem).symm

/-- The database `ensure_sandbox_seed` leaves has accounts and a sound chain,
which is empty. -/
theorem chainSound_seeded {settings : Settings} {d : Draws} {db : Database}
    (h : (Database.empty settings).saveSnapshot (sandbox d).snapshot = .ok db) :
    ChainSound ar db ∧ db.accounts.rows ≠ [] := by
  refine ⟨(sandbox_sameChain h fun _ _ => rfl).sound (chainSound_empty settings), ?_⟩
  rw [(Database.saveSnapshot_eq_ok h).accounts]
  exact List.cons_ne_nil _ _

theorem chain_seeded {settings : Settings} {d : Draws} {db : Database}
    (h : (Database.empty settings).saveSnapshot (sandbox d).snapshot = .ok db) : db.chain = [] :=
  (sandbox_sameChain h fun _ _ => rfl).chain_eq

/-! ## No fork -/

/-- A final payment is in one block of a sound chain. -/
theorem ChainSound.exactly_one {db : Database} (h : ChainSound ar db) {id : String}
    {r : TransactionRow} (hr : db.transactions.find? id = some r) (hfin : r.status = .finalized) :
    ∃! b, b ∈ db.chain ∧ r.toTransaction ∈ b.txs := by
  obtain ⟨height, hblock⟩ := Option.ne_none_iff_exists'.mp ((h.finalized id r hr).mp hfin)
  obtain ⟨row, hrow⟩ := Option.isSome_iff_exists.mp (h.placed id r height hr hblock)
  have hid : r.id = id := Table.key_of_find? hr
  have hheight : row.height = height := Table.key_of_find? hrow
  refine ⟨row.toBlock (txsAt db.payments row.height), ⟨?_, ?_⟩, ?_⟩
  · exact Database.mem_chain.mpr ⟨row, hheight ▸ hrow, rfl⟩
  · refine Database.mem_txsAt.mpr ⟨r, ?_, rfl, hheight ▸ hblock⟩
    rw [TransactionRow.toTransaction_id, hid, hr]
  · rintro b ⟨hb, htx⟩
    obtain ⟨row', hrow', rfl⟩ := Database.mem_chain.mp hb
    obtain ⟨r', hr', -, hblock'⟩ := Database.mem_txsAt.mp htx
    rw [TransactionRow.toTransaction_id, hid, hr] at hr'
    cases hr'
    rw [hblock] at hblock'
    cases hblock'
    rw [hrow] at hrow'
    cases hrow'
    rfl

/-- No fork and no double finalization: over a seeded database, in every run
of any number of validators, requests and starting processes with exact
amounts, the blocks are numbered from one and linked, the stored chain only
grows, every finalized payment is in exactly one block, and the balances are
the replay of the blocks from zero. -/
theorem no_fork {settings : Settings} {d : Draws} {db : Database}
    (hseed : (Database.empty settings).saveSnapshot (sandbox d).snapshot = .ok db)
    {P P' : UniformNetwork .exact}
    (hrun : Pool.Reaches Sql.exec (UniformCall.body .exact) (fun _ _ => True) (.idle db) P)
    (hrun' : Pool.Reaches Sql.exec (UniformCall.body .exact) (fun _ _ => True) P P') :
    (∀ (i : Nat) b, P.store.chain[i]? = some b →
        b.height = i + 1 ∧ b.prevHash = prevHashAt P.store.chain i) ∧
      P.store.chain <+: P'.store.chain ∧
      (∀ id r, P.store.transactions.find? id = some r → r.status = .finalized →
        ∃! b, b ∈ P.store.chain ∧ r.toTransaction ∈ b.txs) ∧
      ∀ a s, P.store.balance a s =
        (Books.replay (P.store.chain.flatMap Block.txs)).balance a s := by
  have hholds := (seededOutline .exact).sound
    ((seededOutline .exact).holds_idle (chainSound_seeded hseed)) hrun
  have hsound : ChainSound .exact P.store := hholds.1.1
  have hstep : ChainStep .exact P.store P'.store :=
    (seededOutline .exact).monotone ChainStep.refl (fun _ _ _ => ChainStep.trans)
      (fun _ _ _ _ hguar => hguar.toChainStep) hholds hrun'
  exact ⟨hsound.linked, hstep.grows hsound, fun id r hr => hsound.exactly_one hr, hsound.balances⟩

/-- A mint, and the passes of two processes of one validator, command by
command. -/
def examplePasses (n : Nat) : List (Pool.Event Session (UniformCall .exact)) :=
  [.start 0 ⟨.request ⟨.sample, phase1Engine, .hybridPqcV1⟩ (.mintSandbox (.numbered "mint" 1000)
      SANDBOX_TREASURY_ACCOUNT SANDBOX_CORP_A_ACCOUNT KCAD_TEST 10), trivial⟩, .tick 0, .tick 0,
    .start 1 ⟨.pass (.connect .sample "validator-a") (.numbered "p" 2000), Host.sample_arith⟩,
    .start 2 ⟨.pass (.connect .sample "validator-a") (.numbered "q" 3000), Host.sample_arith⟩] ++
    (List.replicate n [.tick 1, .tick 2]).flatten

/-- One of the two gets the lock, and the mint is in one block. -/
theorem no_fork_example :
    let P := Pool.run Sql.exec (UniformCall.body .exact) (fun _ _ => True)
      (.idle (.seeded (.numbered "seed" 0))) (examplePasses 13)
    let P' := Pool.run Sql.exec (UniformCall.body .exact) (fun _ _ => True) P
      (List.replicate 14 [.tick 1, .tick 2]).flatten
    P.store.chain = [] ∧ P'.store.chain.map Block.height = [1] ∧
      P'.store.balance SANDBOX_CORP_A_ACCOUNT KCAD_TEST = 10 ∧ P.store.chain <+: P'.store.chain ∧
      ∀ a s, P.store.balance a s =
        (Books.replay (P.store.chain.flatMap Block.txs)).balance a s := by
  intro P P'
  have hrun : Pool.Reaches Sql.exec (UniformCall.body .exact) (fun _ _ => True)
      (.idle (.seeded (.numbered "seed" 0))) P := Pool.reaches_run _ _ _ _ _
  have hrun' : Pool.Reaches Sql.exec (UniformCall.body .exact) (fun _ _ => True) P P' :=
    Pool.reaches_run _ _ _ _ _
  have h := no_fork Database.seeded_numbered hrun hrun'
  exact ⟨by decide +kernel, by decide +kernel, by decide +kernel, h.2.1, h.2.2.2⟩

end KaniNetwork
