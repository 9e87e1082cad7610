/-
KaniNetwork.Validator.Rejection — whether a rejection is final.

A pass rejects transactions one by one while it selects its batch, and at
the end saves the ledger it loaded before those rejections. Where the batch
mixes accepted and refused transactions, the save writes the refused ones
back as PENDING (`mixed_batch`): they come back in every later pass.

`Pass.Unmixed` is the condition under which this does not happen, and
`settles_iff` shows that a pass that finalizes a block leaves its queue
settled exactly then. A pass that does not lead, or does not get the lock,
takes nothing from the queue (`Pass.Takes`), and nothing is asked of it.
`rejection_final` is about any sequence of passes: if the passes that take
transactions take unmixed batches, every rejection is kept.
-/
import KaniNetwork.Store.Postgres
import KaniNetwork.Validator.SavedBlock

namespace KaniNetwork

open InMemoryLedger PostgresLedgerStore

/-- One call of `run_once`. -/
structure Pass where
  runtime : ValidatorRuntime
  session : Session
  draws : Draws

namespace Pass

def body (c : Pass) : StoreProg NodeError (Option Block) := c.runtime.runOnce c.session c.draws

/-- The queue the pass takes its transactions from. -/
def batch (c : Pass) (db : Database) : List Transaction :=
  db.pendingTransactions c.runtime.maxTransactionsPerBlock 0

/-- The ledger the pass works on. -/
def ledger (c : Pass) (db : Database) : InMemoryLedger :=
  fromSnapshot (readSnapshot c.runtime.host.arith db)

/-- The validator is the leader of the next height. -/
def Leads (c : Pass) (db : Database) : Prop :=
  ∃ leader, c.runtime.consensus.leaderForHeight (c.ledger db).nextHeight = .ok leader ∧
    leader.id = c.runtime.validatorId

/-- The lock is there for the pass to take. -/
def LockFree (c : Pass) (db : Database) : Prop :=
  db.blockProductionLock = none ∨ db.blockProductionLock = some c.session

/-- The pass gets as far as the queue: its validator leads and gets the lock. -/
def Takes (c : Pass) (db : Database) : Prop := c.LockFree db ∧ c.Leads db

/-- The batch is valid as a whole, or nothing in it is valid. -/
def Unmixed (c : Pass) (db : Database) : Prop :=
  Accepts c.runtime.host.arith (c.ledger db) (c.batch db) ∨
    ∀ tx ∈ c.batch db, ¬ Accepts c.runtime.host.arith (c.ledger db) [tx]

end Pass

/-- Rejected payments stay rejected. -/
def RejectionKept (db db' : Database) : Prop :=
  ∀ id, db.paymentStatus id = some .rejected → db'.paymentStatus id = some .rejected

theorem RejectionKept.refl (db : Database) : RejectionKept db db := fun _ h => h

theorem RejectionKept.trans {db db' db'' : Database} (h : RejectionKept db db')
    (h' : RejectionKept db' db'') : RejectionKept db db'' := fun id hid => h' id (h id hid)

instance : Trans RejectionKept RejectionKept RejectionKept := ⟨RejectionKept.trans⟩

theorem RejectionKept.of_eq {db db' : Database} (h : db'.transactions = db.transactions) :
    RejectionKept db db' := by
  intro id hid
  rwa [Database.paymentStatus, h]

theorem RejectionKept.reject (id reason : String) (now : DateTime) (db : Database) :
    RejectionKept db (db.rejectTransaction id reason now) := by
  intro id' hid
  rw [Database.rejectTransaction, Database.paymentStatus_updatePayment, hid]
  simp

/-- The payment is finalized in the block. -/
def FinalizedIn (db : Database) (block : Block) (id : String) : Prop :=
  ∃ r, db.transactions.find? id = some r ∧ r.status = .finalized ∧
    r.blockHeight = some block.height

/-- A pass that returns a block leaves every transaction of its queue
finalized in it or rejected. -/
def Pass.Settles (c : Pass) (db : Database) : Prop :=
  ∀ block, (c.body.exec Sql.exec db).2 = .ok (some block) → ∀ tx ∈ c.batch db,
    FinalizedIn (c.body.exec Sql.exec db).1 block tx.id ∨
      (c.body.exec Sql.exec db).1.paymentStatus tx.id = some .rejected

/-! ## What the ledger of a pass depends on -/

/-- Equal up to audit events, validator status and the lock. -/
def SameLedger (db s : Database) : Prop :=
  ∃ t u k, s = { db with auditEvents := t, validatorStatus := u, blockProductionLock := k }

theorem SameLedger.refl (db : Database) : SameLedger db db := ⟨_, _, _, rfl⟩

theorem SameLedger.withBookkeeping {db s : Database} (h : SameLedger db s)
    (t : Table AuditEvent.id) (u : Table ValidatorStatus.validatorId) :
    SameLedger db (s.withBookkeeping t u) := by
  obtain ⟨_, _, _, rfl⟩ := h
  exact ⟨t, u, _, rfl⟩

theorem SameLedger.withLock {db s : Database} (h : SameLedger db s) (k : Option Session) :
    SameLedger db { s with blockProductionLock := k } := by
  obtain ⟨_, _, _, rfl⟩ := h
  exact ⟨_, _, k, rfl⟩

theorem SameLedger.transactions {db s : Database} (h : SameLedger db s) :
    s.transactions = db.transactions := by
  obtain ⟨_, _, _, rfl⟩ := h
  rfl

theorem SameLedger.batch {db s : Database} (h : SameLedger db s) (c : Pass) :
    c.batch s = c.batch db := by
  obtain ⟨_, _, _, rfl⟩ := h
  rfl

/-- Audit events have no part in validation. -/
theorem SameLedger.accepts_iff {db s : Database} (h : SameLedger db s) (c : Pass)
    (txs : List Transaction) :
    Accepts c.runtime.host.arith (c.ledger s) txs ↔
      Accepts c.runtime.host.arith (c.ledger db) txs := by
  obtain ⟨_, _, _, rfl⟩ := h
  exact ⟨fun hacc => hacc.congr rfl rfl, fun hacc => hacc.congr rfl rfl⟩

/-! ## The outline of a pass -/

/-- The snapshot was read while the ledger was that of `db`. -/
def LoadedAs (ar : Arith) (db : Database) (snapshot : LedgerSnapshot) : Prop :=
  ∃ u, SameLedger db u ∧ snapshot = readSnapshot ar u

/-- What holds at each place of the pass `c` that starts in `db`. A batch
that is valid as a whole is never touched; in any case the transactions of a
saved block are finalized and the rest of the queue is as it was loaded. -/
def Pass.holdsAt (c : Pass) (db : Database) : Phase → Database → Prop
  | .idle, s => s.blockProductionLock = db.blockProductionLock ∧ SameLedger db s
  | .locked, s => c.LockFree db ∧ SameLedger db s
  | .loaded snapshot, s =>
    c.LockFree db ∧ SameLedger db s ∧ LoadedAs c.runtime.host.arith db snapshot
  | .selecting snapshot accepted pending, s =>
    c.LockFree db ∧ LoadedAs c.runtime.host.arith db snapshot ∧ (accepted ++ pending).Sublist (c.batch db) ∧
      (Accepts c.runtime.host.arith (c.ledger db) (c.batch db) →
        SameLedger db s ∧ accepted ++ pending = c.batch db)
  | .failing _, _ => True
  | .saved block, s =>
    c.Takes db ∧ block.txs.Sublist (c.batch db) ∧ block.txs ≠ [] ∧
      Accepts c.runtime.host.arith (c.ledger db) block.txs ∧
      (Accepts c.runtime.host.arith (c.ledger db) (c.batch db) → block.txs = c.batch db) ∧
      ∀ tx ∈ c.batch db, (tx ∈ block.txs → FinalizedIn s block tx.id) ∧
        (tx ∉ block.txs → s.paymentStatus tx.id = some .pending)

/-- In an unmixed batch from which something is accepted, everything is. -/
theorem Pass.Unmixed.accepts {c : Pass} {db : Database} (h : c.Unmixed db)
    {accepted : List Transaction} (hsub : accepted.Sublist (c.batch db)) (hne : accepted ≠ [])
    (hacc : Accepts c.runtime.host.arith (c.ledger db) accepted) :
    Accepts c.runtime.host.arith (c.ledger db) (c.batch db) := by
  rcases h with h | h
  · exact h
  · cases accepted with
    | nil => exact absurd rfl hne
    | cons tx rest =>
      have hfirst : Accepts c.runtime.host.arith (c.ledger db) ([tx] ++ rest) := hacc
      exact absurd hfirst.of_append (h tx (hsub.subset List.mem_cons_self))

/-- A loaded ledger validates as the ledger of the state the pass started in. -/
theorem LoadedAs.accepts_iff {c : Pass} {db : Database} {snapshot : LedgerSnapshot}
    (h : LoadedAs c.runtime.host.arith db snapshot) (txs : List Transaction) :
    Accepts c.runtime.host.arith (fromSnapshot snapshot) txs ↔
      Accepts c.runtime.host.arith (c.ledger db) txs := by
  obtain ⟨u, hu, rfl⟩ := h
  exact hu.accepts_iff c txs

section

variable {u s s' : Database} {accepted : List Transaction} {block : Block}

/-- A save over the state it was loaded from undoes no rejection: what it
finalizes was PENDING. -/
theorem rejectionKept_of_saved
    (hsaved : ∀ id, SavedPayment u s accepted block id (s'.transactions.find? id))
    (hsame : s.transactions = u.transactions)
    (hpending : ∀ tx ∈ accepted, s.paymentStatus tx.id = some .pending) : RejectionKept s s' := by
  intro id hid
  have hfate := hsaved id
  rw [Database.paymentStatus]
  generalize s'.transactions.find? id = row' at hfate ⊢
  cases hfate with
  | finalized tx now htx htxid =>
    rw [← htxid, hpending tx htx] at hid
    cases hid
  | restored row hrow hother =>
    rw [Database.paymentStatus, hsame, hrow] at hid
    simpa using hid
  | untouched hnew hother => exact hid

/-- A payment that was PENDING when the snapshot was loaded is finalized if
it is in the block, and PENDING after the save otherwise. -/
theorem pending_of_saved
    (hsaved : ∀ id, SavedPayment u s accepted block id (s'.transactions.find? id))
    {tx : Transaction} {r : TransactionRow} (hr : u.transactions.find? tx.id = some r)
    (hst : r.status = .pending) (hids : ∀ tx' ∈ accepted, tx'.id = tx.id → tx' = tx) :
    (tx ∈ accepted → FinalizedIn s' block tx.id) ∧
      (tx ∉ accepted → s'.paymentStatus tx.id = some .pending) := by
  rw [FinalizedIn, Database.paymentStatus]
  have hfate := hsaved tx.id
  generalize s'.transactions.find? tx.id = row' at hfate ⊢
  constructor
  · intro hin
    cases hfate with
    | finalized tx' now htx' hid => exact ⟨_, rfl, by simp [PaymentRecord.finalized]⟩
    | restored row hrow hother => exact absurd rfl (hother tx hin)
    | untouched hnew hother => exact absurd rfl (hother tx hin)
  · intro hout
    cases hfate with
    | finalized tx' now htx' hid => exact absurd (hids tx' htx' hid ▸ htx') hout
    | restored row hrow hother =>
      rw [hr] at hrow
      cases hrow
      simp [hst]
    | untouched hnew hother =>
      rw [hr] at hnew
      cases hnew

end

/-- Only the leader of the next height produces a block that verifies. -/
theorem PassBlock.leads {c : Pass} {db : Database} {snapshot : LedgerSnapshot}
    {accepted : List Transaction} {block : Block} {final : InMemoryLedger}
    (h : PassBlock c.runtime (fromSnapshot snapshot) accepted block final)
    (hload : LoadedAs c.runtime.host.arith db snapshot) : c.Leads db := by
  obtain ⟨leader, hleader, hvalidator⟩ := h.verified.validator
  obtain ⟨d, records, happ⟩ := h.applied
  obtain ⟨u, ⟨_, _, _, rfl⟩, rfl⟩ := hload
  rw [happ.height_next] at hleader
  exact ⟨leader, hleader, hvalidator.symm.trans h.validator⟩

/-- The save of a block: in an unmixed batch no rejection is undone, and in
any case the block's transactions are finalized and the rest of the queue is
PENDING. -/
theorem Pass.save_holds {c : Pass} {db s s' : Database} {snapshot : LedgerSnapshot}
    {accepted : List Transaction} {block : Block} {final : InMemoryLedger}
    (hsel : c.holdsAt db (.selecting snapshot accepted []) s) (hne : accepted ≠ [])
    (hblock : PassBlock c.runtime (fromSnapshot snapshot) accepted block final)
    (hsave : s.saveSnapshot final.snapshot = .ok s') :
    ((c.Takes db → c.Unmixed db) → RejectionKept s s') ∧ c.holdsAt db (.saved block) s' := by
  obtain ⟨hfree, hload, hsub, hvalid⟩ := hsel
  rw [List.append_nil] at hsub hvalid
  have hacc : Accepts c.runtime.host.arith (c.ledger db) accepted :=
    (hload.accepts_iff accepted).mp hblock.accepts
  have htakes : c.Takes db := ⟨hfree, hblock.leads hload⟩
  obtain ⟨u, hu, rfl⟩ := hload
  have hsaved := hblock.savedPayment (u := u) rfl hsave
  have hqueued : ∀ tx ∈ c.batch db, ∃ r, db.transactions.find? tx.id = some r ∧
      r.status = .pending := by
    intro tx htx
    obtain ⟨r, hr, hst, -⟩ := Database.of_mem_pendingTransactions htx
    exact ⟨r, hr, hst⟩
  constructor
  · intro hunmixed
    -- the batch is valid, so the pass has not touched a payment yet
    obtain ⟨hsame, -⟩ := hvalid ((hunmixed htakes).accepts hsub hne hacc)
    refine rejectionKept_of_saved hsaved (hsame.transactions.trans hu.transactions.symm) ?_
    intro tx htx
    obtain ⟨r, hr, hst⟩ := hqueued tx (hsub.subset htx)
    rw [Database.paymentStatus, hsame.transactions, hr, Option.map_some, hst]
  · refine ⟨htakes, ?_, ?_, ?_, ?_, ?_⟩
    · rw [hblock.txs]
      exact hsub
    · rw [hblock.txs]
      exact hne
    · rw [hblock.txs]
      exact hacc
    · intro hbatch
      rw [hblock.txs]
      exact (hvalid hbatch).2
    · intro tx htx
      obtain ⟨r, hr, hst⟩ := hqueued tx htx
      rw [← hu.transactions] at hr
      rw [hblock.txs]
      refine pending_of_saved hsaved hr hst fun tx' htx' hid => ?_
      exact List.inj_on_of_nodup_map (db.pendingTransactions_nodup _ _) (hsub.subset htx') htx hid

/-- The assertions of `Pass.holdsAt` along a pass that runs alone. -/
def Pass.outline (c : Pass) (db : Database) :
    PassOutline .plain c.runtime c.session Eq
      (fun s s' => (c.Takes db → c.Unmixed db) → RejectionKept s s') (fun _ _ => True) where
  holds := c.holdsAt db
  rely_refl := fun _ => rfl
  rely_trans := fun _ _ _ => Eq.trans
  guar_refl := fun s _ => .refl s
  stable := fun ph s s' h hs => hs ▸ h
  bookkeeping := by
    intro ph s t u h
    refine ⟨fun _ => .of_eq rfl, ?_⟩
    cases ph with
    | idle => exact ⟨h.1, h.2.withBookkeeping t u⟩
    | locked => exact ⟨h.1, h.2.withBookkeeping t u⟩
    | loaded snapshot => exact ⟨h.1, h.2.1.withBookkeeping t u, h.2.2⟩
    | selecting snapshot accepted pending =>
      obtain ⟨hfree, hload, hsub, hvalid⟩ := h
      exact ⟨hfree, hload, hsub, fun hacc =>
        ⟨(hvalid hacc).1.withBookkeeping t u, (hvalid hacc).2⟩⟩
    | failing txs => trivial
    | saved block => exact h
  lock := by
    rintro s ⟨hlock, hsame⟩ hfree
    refine ⟨fun _ => .of_eq rfl, ?_, hsame.withLock _⟩
    rw [Pass.LockFree, ← hlock]
    exact hfree
  load := by
    rintro s s' snapshot ⟨hfree, hsame⟩ rfl hload
    refine ⟨hfree, hsame, s, hsame, hload.eq_readSnapshot ?_⟩
    rintro _ ⟨w, -, rfl, rfl⟩
    rfl
  take := by
    rintro s snapshot ⟨hfree, hsame, hload⟩
    have hbatch : (DbView.plain.db s).pendingTransactions c.runtime.maxTransactionsPerBlock 0 =
        c.batch db := hsame.batch c
    rw [hbatch]
    exact ⟨hfree, hload, List.Sublist.refl _, fun _ => ⟨hsame, rfl⟩⟩
  accept := by
    rintro s snapshot accepted tx pending ⟨hfree, hload, hsub, hvalid⟩ _
    rw [List.append_cons] at hsub hvalid
    exact ⟨hfree, hload, hsub, hvalid⟩
  reject := by
    rintro s snapshot accepted tx pending e now ⟨hfree, hload, hsub, hvalid⟩ herror
    refine ⟨fun _ => .reject _ _ _ _, hfree, hload, ?_, fun hacc => ?_⟩
    · exact (List.Sublist.append_left (List.sublist_cons_self tx pending) accepted).trans hsub
    · -- a batch that is valid as a whole is valid up to `tx`
      have hall := (hload.accepts_iff _).mpr hacc
      rw [← (hvalid hacc).2, List.append_cons] at hall
      have hok := hall.of_append fun _ => ⟨"", 0⟩
      rw [herror] at hok
      cases hok
  save := fun s s' snapshot accepted block final h hne hblock _ hsave =>
    Pass.save_holds h hne hblock hsave
  fail := fun _ _ _ _ => trivial
  failReject := fun s tx txs now _ => ⟨fun _ => .reject _ _ _ _, trivial⟩
  unlock := fun s _ _ => .of_eq rfl
  savedUnlock := fun block s h => h

theorem Pass.safe (c : Pass) (db : Database) :
    c.body.Safe Sql.exec Eq (fun s s' => (c.Takes db → c.Unmixed db) → RejectionKept s s')
      (fun _ _ => True) (c.outline db).post db :=
  (c.outline db).safe_runOnce ⟨rfl, SameLedger.refl db⟩

/-- A pass that finalizes a block settles its queue exactly when the batch
is unmixed: otherwise a transaction it rejected is PENDING again. -/
theorem settles_iff {c : Pass} {db : Database} {block : Block}
    (h : (c.body.exec Sql.exec db).2 = .ok (some block)) : c.Settles db ↔ c.Unmixed db := by
  obtain ⟨-, hsub, hne, hacc, hall, hqueue⟩ := (c.safe db).exec.1 block h
  have hblocks : ∀ block', (c.body.exec Sql.exec db).2 = .ok (some block') → block' = block := by
    intro block' h'
    rw [h] at h'
    exact (Option.some.inj (Except.ok.inj h')).symm
  constructor
  · intro hsettles
    -- what is not in the block is PENDING, so everything is in the block
    have hmem : ∀ tx ∈ c.batch db, tx ∈ block.txs := by
      intro tx htx
      by_contra hout
      have hpending := (hqueue tx htx).2 hout
      rcases hsettles block h tx htx with ⟨r, hr, hst, -⟩ | hrej
      · rw [Database.paymentStatus, hr, Option.map_some, hst] at hpending
        cases hpending
      · rw [hpending] at hrej
        cases hrej
    have hnodup : (c.batch db).Nodup := (db.pendingTransactions_nodup _ _).of_map
    have heq : block.txs = c.batch db :=
      hsub.eq_of_length_le (hnodup.subperm hmem).length_le
    exact .inl (heq ▸ hacc)
  · intro hunmixed block' h' tx htx
    rw [hblocks block' h']
    have heq := hall (hunmixed.accepts hsub hne hacc)
    exact .inl ((hqueue tx htx).1 (heq ▸ htx))

/-- A pass that finalizes a block has taken its transactions. -/
theorem takes_of_finalizes {c : Pass} {db : Database} {block : Block}
    (h : (c.body.exec Sql.exec db).2 = .ok (some block)) : c.Takes db :=
  ((c.safe db).exec.1 block h).1

/-! ## Sequences of passes -/

/-- Rejections are final along any sequence of passes in which what is taken
from the queue is unmixed: whatever state comes after, a rejected transaction
stays rejected, and every pass that returns a block settles its queue. -/
theorem rejection_final {db : Database} {passes : List Pass}
    (h : Prog.Along Sql.exec Pass.body (fun c s => c.Takes s → c.Unmixed s) passes db) :
    List.Pairwise RejectionKept (db :: Prog.statesAll Sql.exec Pass.body passes db) ∧
      Prog.Along Sql.exec Pass.body Pass.Settles passes db := by
  have hsafe : ∀ c s, True → (Pass.Takes c s → Pass.Unmixed c s) →
      (Pass.body c).Safe Sql.exec Eq RejectionKept (fun _ _ => True) (fun _ _ => c.Settles s) s := by
    intro c s _ hunmixed
    refine (c.safe s).mono (fun _ _ h => h) (fun _ _ hkept => hkept hunmixed) (fun _ _ h => h)
      fun r s' _ => ?_
    exact fun block hblock =>
      (settles_iff hblock).mpr (hunmixed (takes_of_finalizes hblock)) block hblock
  refine ⟨?_, ?_⟩
  · have hchain := Prog.statesAll_isChain hsafe (fun _ _ _ _ h _ => h) trivial h
    exact hchain.pairwise
  · exact Prog.along_post hsafe (fun _ _ _ _ h _ => h) trivial h

/-! ## A mixed batch -/

/-- A transfer from an account without funds. -/
def exampleUnfunded : Transaction :=
  .newTransfer ⟨uuidNamed "t-1", 2000⟩ SANDBOX_CORP_B_ACCOUNT SANDBOX_CORP_A_ACCOUNT KCAD_TEST 50 1

/-- A seeded database with a mint and the unfunded transfer queued. -/
def exampleQueue : Database :=
  let mint := Transaction.newMint ⟨uuidNamed "m-1", 1000⟩ SANDBOX_TREASURY_ACCOUNT SANDBOX_CORP_A_ACCOUNT
    KCAD_TEST 100 1
  let db := ((enqueuePendingTransaction 1000 mint none none).exec Sql.exec
    (.seeded (.numbered "seed" 0))).1
  ((enqueuePendingTransaction 2000 exampleUnfunded none none).exec Sql.exec db).1

/-- The leader of the first height takes both transactions. -/
def exampleMixedPass : Pass :=
  ⟨.connect .sample "validator-a", 0, .numbered "pass" 3000⟩

/-- The transfer is rejected and, two statements later, PENDING again, in a
pass that returns a block. -/
theorem mixed_batch :
    ¬ List.Pairwise RejectionKept
        (exampleQueue :: Prog.statesAll Sql.exec Pass.body [exampleMixedPass] exampleQueue) ∧
      ¬ exampleMixedPass.Settles exampleQueue := by
  let states := exampleQueue :: Prog.statesAll Sql.exec Pass.body [exampleMixedPass] exampleQueue
  obtain ⟨hbefore, hafter, hrejected, hlost, hpending, hfinal, hbatch⟩ :
      ∃ (hbefore : 24 < states.length) (hafter : 26 < states.length),
        states[24].paymentStatus exampleUnfunded.id = some .rejected ∧
        states[26].paymentStatus exampleUnfunded.id ≠ some .rejected ∧
        (exampleMixedPass.body.exec Sql.exec exampleQueue).1.paymentStatus exampleUnfunded.id =
          some .pending ∧
        (exampleMixedPass.body.exec Sql.exec exampleQueue).2.toOption.join.isSome = true ∧
        exampleUnfunded ∈ exampleMixedPass.batch exampleQueue := by
    decide +kernel
  refine ⟨fun h => ?_, fun h => ?_⟩
  · have hkept := List.pairwise_iff_getElem.mp h 24 26 hbefore hafter (by decide)
    exact hlost (hkept exampleUnfunded.id hrejected)
  · obtain ⟨block, hblock⟩ := eq_ok_some_of_isSome hfinal
    rcases h block hblock exampleUnfunded hbatch with ⟨r, hr, hst, -⟩ | hrejected
    · rw [Database.paymentStatus, hr, Option.map_some, hst] at hpending
      cases hpending
    · rw [hpending] at hrejected
      cases hrejected

/-- A pass that takes one transaction. -/
def exampleSinglePass (validatorId : String) (now : DateTime) : Pass where
  runtime := (ValidatorRuntime.connect .sample validatorId).withMaxTransactionsPerBlock 1
  session := 0
  draws := .numbered validatorId now

/-- A pass of a validator that does not lead at the first height. -/
def exampleIdlePass : Pass :=
  ⟨.connect .sample "validator-b", 0, .numbered "idle" 2500⟩

/-- One transaction a pass: the first leader finalizes the mint, the second
rejects the transfer for good. A pass before them, of a validator that does
not lead, would take both, but takes nothing. -/
theorem rejection_final_example :
    let passes := [exampleIdlePass, exampleSinglePass "validator-a" 3000,
      exampleSinglePass "validator-b" 4000]
    (Prog.execAll Sql.exec Pass.body passes exampleQueue).paymentStatus exampleUnfunded.id =
        some .rejected ∧
      List.Pairwise RejectionKept
        (exampleQueue :: Prog.statesAll Sql.exec Pass.body passes exampleQueue) := by
  intro passes
  have hunmixed : Prog.Along Sql.exec Pass.body (fun c s => c.Takes s → c.Unmixed s) passes
      exampleQueue := by
    refine ⟨fun htakes => ?_, fun _ => .inl ?_, fun _ => .inr ?_, trivial⟩
    · obtain ⟨leader, hleader, hid⟩ := htakes.2
      have hfirst : leader.id = "validator-a" := by
        have hheight : (exampleIdlePass.ledger exampleQueue).nextHeight = 1 := by decide +kernel
        rw [hheight] at hleader
        cases hleader
        rfl
      rw [hfirst] at hid
      exact absurd hid (by decide)
    · rw [accepts_iff (.numbered "" 0)]
      decide +kernel
    · have hbatch : (exampleSinglePass "validator-b" 4000).batch
          ((exampleSinglePass "validator-a" 3000).body.exec Sql.exec
            (exampleIdlePass.body.exec Sql.exec exampleQueue).1).1 =
            [exampleUnfunded] := by decide +kernel
      rw [hbatch]
      intro tx htx
      rw [List.mem_singleton.mp htx, accepts_iff (.numbered "" 0)]
      decide +kernel
  exact ⟨by decide +kernel, (rejection_final hunmixed).1⟩

end KaniNetwork
