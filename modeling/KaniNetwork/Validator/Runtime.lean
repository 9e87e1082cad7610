/-
KaniNetwork.Validator.Runtime — the validator process
(`ValidatorRuntime` of `kani-node`).

`runOnce` is one pass: heartbeat, a look at the chain to see who leads the
next height, the advisory lock, and under it `runOnceWithBlockLock`, which
loads the ledger again, selects pending transactions greedily, builds and
applies a block in memory and writes the whole ledger back with
`save_snapshot`. Rejections are written while the batch is selected, each
as a status update and an audit event.

A pass draws its uuids and clock readings, the server's `now()` included,
from one supply; `session` is the connection it takes the lock on.
-/
import KaniNetwork.Node.Block
import KaniNetwork.Store.Snapshot

namespace KaniNetwork

instance : FromSqlx NodeError := ⟨fun e => .storage (.sqlx e)⟩

/-- A validator process with a positive batch size. -/
structure ValidatorRuntime where
  host : Host
  consensus : ConfiguredConsensusEngine
  cryptoProfile : CryptoProfile
  validatorId : String
  maxTransactionsPerBlock : Nat
  max_pos : 1 ≤ maxTransactionsPerBlock

/-- The audit event of a rejection. -/
def rejectionEvent (s : Stamp) (validatorId : String) (tx : Transaction) (reason : String) :
    AuditEvent :=
  let metadata : Metadata := BTreeMap.new
    |>.insert "asset" tx.asset
    |>.insert "from" tx.fromAccount
    |>.insert "kind" tx.kind.label
    |>.insert "reason" reason
    |>.insert "to" tx.toAccount
    |>.insert "transaction_id" tx.id
    |>.insert "validator" validatorId
  (AuditEvent.new s "TRANSACTION_REJECTED"
    ("transaction " ++ tx.id ++ " rejected by validator " ++ validatorId ++ ": " ++ reason)
    none (some tx.id)).withMetadata metadata

/-- `release` of the block production lock. -/
def releaseBlockProductionLock (session : Session) : StoreProg NodeError Unit := do
  let released ← execute (.unlock session)
  if released then return () else .fail (.storage .advisoryLockReleaseFailed)

namespace ValidatorRuntime

/-- `connect`: the default engine and profile, 25 transactions a block. -/
def connect (host : Host) (validatorId : String) : ValidatorRuntime where
  host := host
  consensus := phase1Engine
  cryptoProfile := .hybridPqcV1
  validatorId := validatorId
  maxTransactionsPerBlock := 25
  max_pos := by decide

/-- `with_max_transactions_per_block`, at least one. -/
def withMaxTransactionsPerBlock (v : ValidatorRuntime) (maxTransactionsPerBlock : Int) :
    ValidatorRuntime :=
  { v with
    maxTransactionsPerBlock := (max maxTransactionsPerBlock 1).toNat
    max_pos := by
      have h : 1 ≤ max maxTransactionsPerBlock 1 := le_max_right _ _
      omega }

/-- `reject_pending_transaction`. -/
def rejectPendingTransaction (v : ValidatorRuntime) (d : Draws) (tx : Transaction)
    (reason : String) : StoreProg NodeError Unit := do
  execute (.rejectTransaction tx.id reason (d.sub 0).stamp.now)
  execute (.insertAuditEvent (rejectionEvent (d.sub 1).stamp v.validatorId tx reason))

/-- The selection loop: a transaction is accepted when the batch so far
validates with it, and rejected otherwise. -/
def selectBatch (v : ValidatorRuntime) (ledger : InMemoryLedger) :
    Draws → List Transaction → List Transaction → StoreProg NodeError (List Transaction)
  | _, accepted, [] => return accepted
  | d, accepted, tx :: pending =>
    match ledger.validateTransactionsForNextBlock v.host.arith (d.sub 0) (accepted ++ [tx]) with
    | .error error => do
      v.rejectPendingTransaction (d.sub 1) tx error.message
      v.selectBatch ledger (d.sub 2) accepted pending
    | .ok () => v.selectBatch ledger (d.sub 2) (accepted ++ [tx]) pending

/-- The loop that rejects the transactions of a block. -/
def rejectAll (v : ValidatorRuntime) (reason : String) :
    Draws → List Transaction → StoreProg NodeError Unit
  | _, [] => return ()
  | d, tx :: txs => do
    v.rejectPendingTransaction (d.sub 0) tx reason
    v.rejectAll reason (d.sub 1) txs

/-- The block of a non-empty batch, applied and saved. -/
def produceBlock (v : ValidatorRuntime) (d : Draws) (ledger : InMemoryLedger)
    (accepted : List Transaction) : StoreProg NodeError (Option Block) := do
  let block ← .ofExcept (buildBlockForValidator v.host v.consensus v.cryptoProfile (d.sub 0) ledger
    accepted v.validatorId)
  .ofExcept (verifyPhase1Block v.host v.consensus v.cryptoProfile (d.sub 1) ledger block)
  match InMemoryLedger.applyBlock v.host.arith (d.sub 2) block ledger with
  | (_, .error error) => do
    v.rejectAll error.message (d.sub 3) block.txs
    .fail (.ledger error)
  | (workingLedger, .ok _) => do
    execute (.saveSnapshot workingLedger.snapshot)
    execute (.recordFinalizedBlock v.validatorId block (d.sub 4).stamp.now)
    return some block

/-- `run_once_with_block_lock`. -/
def runOnceWithBlockLock (v : ValidatorRuntime) (d : Draws) : StoreProg NodeError (Option Block) := do
  let snapshot ← loadSnapshot v.host.arith
  let ledger := InMemoryLedger.fromSnapshot snapshot
  let leader ← .ofExcept ((v.consensus.leaderForHeight ledger.nextHeight).mapError .consensus)
  if leader.id ≠ v.validatorId then return none
  else
    let pending ← query (.pendingTransactions v.maxTransactionsPerBlock 0)
    if pending.isEmpty then return none
    else
      let accepted ← v.selectBatch ledger (d.sub 0) [] pending
      if accepted.isEmpty then return none
      else v.produceBlock (d.sub 1) ledger accepted

/-- The part of a pass that holds the lock, and the release, whose failure
is reported only when the pass has none of its own. -/
def runLocked (v : ValidatorRuntime) (session : Session) (d : Draws) :
    StoreProg NodeError (Option Block) := do
  let result ← (v.runOnceWithBlockLock d).attempt
  let released ← (releaseBlockProductionLock session).attempt
  match result, released with
  | .ok _, .error error => .fail error
  | result, _ => .ofExcept result

/-- `run_once`. -/
def runOnce (v : ValidatorRuntime) (session : Session) (d : Draws) :
    StoreProg NodeError (Option Block) := do
  execute (.recordHeartbeat v.validatorId (d.sub 0).stamp.now)
  let snapshot ← loadSnapshot v.host.arith
  let ledger := InMemoryLedger.fromSnapshot snapshot
  let leader ← .ofExcept ((v.consensus.leaderForHeight ledger.nextHeight).mapError .consensus)
  if leader.id ≠ v.validatorId then return none
  else
    let acquired ← execute (.tryLock session)
    if acquired then v.runLocked session (d.sub 1) else return none

end ValidatorRuntime

end KaniNetwork
