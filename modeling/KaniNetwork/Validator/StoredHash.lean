/-
KaniNetwork.Validator.StoredHash — the hash of a block after it was stored.

The hash is taken over the block in memory and checked over the one that
`load_snapshot` puts together again. Everything survives but the clock: the
transactions come back in the order of the queue they were selected in,
and what they carry was read from the same rows; `blocks.created_at` keeps
microseconds of a clock that counts nanoseconds. So a stored block verifies
exactly when it was created at a whole microsecond (`stored_hash`).
-/
import KaniNetwork.Crypto.InjectiveHash
import KaniNetwork.Validator.ChainInvariant

namespace KaniNetwork

open InMemoryLedger

/-! ## What is stored of a block -/

/-- The block is read back as it was, but for its clock. -/
theorem SavePoint.chain_eq {ar : Arith} {v : ValidatorRuntime} {snapshot : LedgerSnapshot}
    {accepted : List Transaction} {block : Block} {final : InMemoryLedger} {db d : Database}
    (h : SavePoint ar v snapshot accepted block final db)
    (hsorted : accepted.Pairwise Transaction.Before)
    (hsave : db.saveSnapshot final.snapshot = .ok d) :
    d.chain = db.chain ++ [{ block with createdAt := timestamptz block.createdAt }] := by
  have hmem := mem_txsAt_saved h.sound h.block h.loaded h.selected hsave
  have htxs : txsAt d.payments block.height = block.txs := by
    rw [h.block.txs]
    exact (Database.txsAt_pairwise d block.height).eq_of_mem_iff hsorted hmem
  rw [chain_saved h.sound h.block h.loaded h.selected hsave, htxs]
  rfl

/-- The hash of a block still is the one of its fields. -/
def Block.Rehashes (hash : Block → String) (b : Block) : Prop := b.hash = hash b.unsealed

/-- A block verifies after it was stored exactly when its clock reading is
stored. -/
theorem rehashes_stored_iff {hash : Block → String} (hinj : Function.Injective hash) {block : Block}
    (hblock : block.Rehashes hash) :
    Block.Rehashes hash { block with createdAt := timestamptz block.createdAt } ↔
      block.createdAt % 1000 = 0 := by
  rw [← timestamptz_eq_iff]
  constructor
  · intro hstored
    have heq := hinj (hblock.symm.trans hstored)
    exact (congrArg Block.createdAt heq).symm
  · intro hclock
    rw [hclock]
    exact hblock

/-! ## The network -/

/-- The calls of processes that compute alike and hash blocks alike. -/
def NetworkCall.HashesWith (ar : Arith) (hash : Block → String) : NetworkCall → Prop
  | .pass v _ => v.host.arith = ar ∧ v.host.hashJson v.cryptoProfile.hash = hash
  | _ => True

abbrev HashingCall (ar : Arith) (hash : Block → String) := { c : NetworkCall // c.HashesWith ar hash }

abbrev HashingNetwork (ar : Arith) (hash : Block → String) :=
  Pool Session (HashingCall ar hash) Sql Sql.Reply NodeError Unit Database

/-- The block that a committed save writes at the height `h` was created at a
whole microsecond exactly when `whole h`. -/
def SavesAt (whole : Int → Prop) (c : Sql) (db : Database) : Prop :=
  ∀ snapshot ∈ c.saved?, (db.saveSnapshot snapshot).isOk = true →
    ∀ block ∈ snapshot.blocks.getLast?, block.createdAt % 1000 = 0 ↔ whole block.height

instance (whole : Int → Prop) [DecidablePred whole] (c : Sql) (db : Database) :
    Decidable (SavesAt whole c db) :=
  inferInstanceAs (Decidable (∀ snapshot ∈ c.saved?, (db.saveSnapshot snapshot).isOk = true →
    ∀ block ∈ snapshot.blocks.getLast?, _))

/-- The blocks that verify are those created at a whole microsecond. -/
def hashInvariant (ar : Arith) {hash : Block → String} (hinj : Function.Injective hash)
    (whole : Int → Prop) :
    ChainInvariant ar (fun v => v.host.arith = ar ∧ v.host.hashJson v.cryptoProfile.hash = hash)
      (SavesAt whole) where
  inv := fun db => ∀ b ∈ db.chain, b.Rehashes hash ↔ whole b.height
  loaded := fun _ => True
  batch := fun txs => txs.Pairwise Transaction.Before
  failed := fun _ => True
  arith := fun _ h => h.1
  bookkeeping := by
    intro db t u h
    have hsame : SameChain db (db.withBookkeeping t u) := .of_eq rfl rfl rfl
    rwa [hsame.chain_eq]
  lock := by
    intro db k h
    have hsame : SameChain db { db with blockProductionLock := k } := .of_eq rfl rfl rfl
    rwa [hsame.chain_eq]
  reject := by
    intro db id reason now h
    rwa [(SameChain.of_reject db id reason now).chain_eq]
  api := by
    intro c db approving hc h
    rwa [(SameChain.of_command hc db).chain_eq]
  load := fun _ _ _ _ => trivial
  take := fun db limit _ => db.pendingTransactions_pairwise limit 0
  sublist := fun _ _ hsub h => h.sublist hsub
  save := by
    intro v snapshot accepted block final db d hruns hpoint hinv _ hsorted hok hsave b hb
    rw [hpoint.chain_eq hsorted hsave, List.mem_append, List.mem_singleton] at hb
    rcases hb with hb | rfl
    · exact hinv b hb
    · have hlast : block ∈ final.snapshot.blocks.getLast? := by
        show final.blocks.getLast? = some block
        rw [(hpoint.block.continues hpoint.loaded).2.2, List.getLast?_concat]
      have hblock : block.Rehashes hash := by
        rw [Block.Rehashes, ← hruns.2]
        exact hpoint.block.verified.hash
      have hcommits : (db.saveSnapshot final.snapshot).isOk = true := by
        rw [hsave]
        rfl
      exact (rehashes_stored_iff hinj hblock).trans (hok _ rfl hcommits block hlast)
  failedLocal := fun _ _ => trivial
  failedReference := fun _ => trivial
  failedText := trivial
  failedSave := fun _ _ _ _ _ _ _ _ _ _ _ _ _ _ => trivial

/-! ## Stored hashes -/

/-- In every run over a seeded database, of any number of validators that hash
blocks with the injective `hash`, of requests and of starting processes, what
`load_snapshot` returns verifies block by block: exactly the blocks that were
created at a whole microsecond. -/
theorem stored_hash {settings : Settings} {ar : Arith} {hash : Block → String}
    (hinj : Function.Injective hash) {whole : Int → Prop} {d : Draws} {db : Database}
    (hseed : (Database.empty settings).saveSnapshot (sandbox d).snapshot = .ok db)
    {P : HashingNetwork ar hash}
    (hrun : Pool.Reaches Sql.exec (fun i c => c.1.body i) (SavesAt whole) (.idle db) P)
    {snapshot : LedgerSnapshot}
    (hload : ((loadSnapshot ar : StoreProg NodeError LedgerSnapshot).exec Sql.exec P.store).2 =
      .ok snapshot) :
    ∀ b ∈ snapshot.blocks, b.hash = hash b.unsealed ↔ whole b.height := by
  have hcall : ∀ (c : HashingCall ar hash) v d, c.1 = .pass v d →
      v.host.arith = ar ∧ v.host.hashJson v.cryptoProfile.hash = hash := by
    rintro ⟨_, huses⟩ v d rfl
    exact huses
  have hempty : db.chain = [] := (chain_seeded hseed)
  have hinv : ∀ b ∈ db.chain, b.Rehashes hash ↔ whole b.height := by
    rw [hempty]
    exact fun b hb => absurd hb List.not_mem_nil
  obtain ⟨-, hchain, -⟩ := (hashInvariant ar hinj whole).sound Subtype.val hcall hseed hinv hrun
  rw [exec_loadSnapshot] at hload
  cases hload
  rw [Database.readSnapshot_blocks]
  exact hchain

/-! ## Runs -/

/-- The block that mints 10 KCAD_TEST to CORP_A at the clock reading `now`,
before it is sealed. -/
def exampleStampedBlock (now : DateTime) : Block :=
  let P := Pool.run Sql.exec (fun i (c : NetworkCall) => c.body i) (fun _ _ => True)
    (.idle (.seeded (.numbered "seed" 0)))
    [.start 0 (.request ⟨.sample, phase1Engine, .hybridPqcV1⟩ (.mintSandbox (.numbered "mint" 1000)
      SANDBOX_TREASURY_ACCOUNT SANDBOX_CORP_A_ACCOUNT KCAD_TEST 10)), .tick 0, .tick 0]
  .newUnsealed now 1 GENESIS_HASH (P.store.pendingTransactions 25 0) "validator-a"

/-- The hash of the host that knows the block of `now`. -/
noncomputable abbrev exampleHash (now : DateTime) : Block → String :=
  (countingHost (exampleStampedBlock now)).hashJson .sha3_256

/-- A mint, and a pass of the leader whose clock stands at `now`. -/
noncomputable def examplePass (now : DateTime) :
    List (Pool.Event Session (HashingCall .exact (exampleHash now))) :=
  let host := countingHost (exampleStampedBlock now)
  [.start 0 ⟨.request ⟨host, phase1Engine, .hybridPqcV1⟩ (.mintSandbox (.numbered "mint" 1000)
      SANDBOX_TREASURY_ACCOUNT SANDBOX_CORP_A_ACCOUNT KCAD_TEST 10), trivial⟩, .tick 0, .tick 0,
    .start 1 ⟨.pass (.connect host "validator-a") (.numbered "pass" now), rfl, rfl⟩] ++
    List.replicate 28 (.tick 1)

/-- At a whole microsecond the stored block verifies. -/
theorem stored_hash_example :
    let P := Pool.run Sql.exec (fun i (c : HashingCall .exact (exampleHash 2000)) => c.1.body i)
      (SavesAt fun _ => True) (.idle (.seeded (.numbered "seed" 0))) (examplePass 2000)
    (readSnapshot .exact P.store).blocks.map Block.height = [1] ∧
      ∀ b ∈ (readSnapshot .exact P.store).blocks, b.hash = exampleHash 2000 b.unsealed ↔ True := by
  intro P
  have hrun : Pool.Reaches Sql.exec (fun i (c : HashingCall .exact (exampleHash 2000)) => c.1.body i)
      (SavesAt fun _ => True) (.idle (.seeded (.numbered "seed" 0))) P := Pool.reaches_run _ _ _ _ _
  have hseed : (Database.empty .plain).saveSnapshot (sandbox (.numbered "seed" 0)).snapshot =
      .ok (.seeded (.numbered "seed" 0)) := Database.seeded_numbered
  have hload : ((loadSnapshot .exact : StoreProg NodeError LedgerSnapshot).exec Sql.exec P.store).2 =
      .ok (readSnapshot .exact P.store) := congrArg Prod.snd (exec_loadSnapshot _ _)
  exact ⟨by decide +kernel, stored_hash (countingHost_injective _ _) hseed hrun hload⟩

/-- One nanosecond later the block is stored with another clock reading than it
was hashed with (rounded towards 2000), and its hash does not verify. -/
theorem stored_hash_fails :
    let P := Pool.run Sql.exec (fun i (c : HashingCall .exact (exampleHash 2001)) => c.1.body i)
      (fun _ _ => True) (.idle (.seeded (.numbered "seed" 0))) (examplePass 2001)
    Function.Injective (exampleHash 2001) ∧
      ∃ b ∈ (readSnapshot .exact P.store).blocks, b.hash ≠ exampleHash 2001 b.unsealed := by
  intro P
  refine ⟨countingHost_injective _ _, ?_⟩
  have hstored : (readSnapshot .exact P.store).blocks.map (fun b => (b.hash, b.createdAt)) =
      [(exampleHash 2001 (exampleStampedBlock 2001), 3000)] := by
    decide +kernel
  obtain ⟨b, hb, heq⟩ := List.mem_map.mp (hstored ▸ List.mem_singleton_self _)
  refine ⟨b, hb, fun hhash => ?_⟩
  obtain ⟨hb₁, hb₂⟩ := Prod.mk.inj heq
  have hblock := countingHost_injective _ _ (hb₁.symm.trans hhash)
  have hclock : (2001 : Int) = b.createdAt := congrArg Block.createdAt hblock
  rw [hb₂] at hclock
  exact absurd hclock (by decide)

end KaniNetwork
