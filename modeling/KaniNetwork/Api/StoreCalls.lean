/-
KaniNetwork.Api.StoreCalls — the calls of the node on the database.

With storage a call of the node is a program of its own (`onStore`), so the
commands of other requests, of validators and of starting processes come
between the commands of one call. The reads of payments, balances, blocks
and accounts load a whole snapshot (`current_ledger`) and ask it; the
others are queries.
-/
import KaniNetwork.Api.NodeCalls
import KaniNetwork.Node.Postgres
import KaniNetwork.Store.Selects

namespace KaniNetwork

open PostgresLedgerStore

/-- `validator_info_from`. -/
def validatorInfoFrom (validator : Validator) (status : Option ValidatorStatus) :
    ValidatorInfo where
  id := validator.id
  publicKey := validator.publicKey
  active := validator.active
  lastSeenAt := status.map ValidatorStatus.lastSeenAt
  lastFinalizedHeight := status.bind ValidatorStatus.lastFinalizedHeight
  lastFinalizedHash := status.bind ValidatorStatus.lastFinalizedHash
  lastFinalizedAt := status.bind ValidatorStatus.lastFinalizedAt

namespace KaniNode.Postgres

variable (n : KaniNode)

/-- `current_ledger` with storage. -/
def currentLedger : FullStoreProg NodeError InMemoryLedger := do
  let snapshot ← lift (loadSnapshot n.host.arith)
  return .fromSnapshot snapshot

/-- A read of the current ledger. -/
def readCurrent (r : NodeRead) : FullStoreProg NodeError r.Value := do
  let ledger ← currentLedger n
  .ofExcept (r.inMemory n ledger)

/-- `validators` with storage. -/
def validators : FullStoreProg NodeError (List ValidatorInfo) := do
  let statuses ← select .validatorStatuses
  let statuses := HashMap.ofPairs (statuses.map fun status => (status.validatorId, status))
  return n.consensus.validators.map fun validator =>
    validatorInfoFrom validator (statuses.lookup validator.id)

/-- A read with storage. -/
def read : (r : NodeRead) → FullStoreProg NodeError r.Value
  | .getPayment paymentId => readCurrent n (.getPayment paymentId)
  | .balance accountId asset => readCurrent n (.balance accountId asset)
  | .issued asset => readCurrent n (.issued asset)
  | .latestBlock => readCurrent n .latestBlock
  | .blocks search => queryBlocks search
  | .accounts => readCurrent n .accounts
  | .institutions => lift (query .institutions)
  | .getInstitution institutionId => lift (getInstitution institutionId)
  | .institutionCredentials institutionId => do
    let _ ← lift (getInstitution institutionId)
    select (.credentialsOf institutionId)
  | .institutionLimits institutionId => do
    let _ ← lift (getInstitution institutionId)
    select (.limitsOf institutionId)
  | .auditEvents search => select (.auditEvents search)
  | .journalEntries search => select (.journalEntries search)
  | .complianceCases limit offset => lift (query (.complianceCases limit.toNat offset.toNat))
  | .complianceCase caseId => lift ((PostgresLedgerStore.complianceCase caseId).mapError .storage)
  | .pendingTransactions limit offset =>
    lift (query (.pendingTransactions limit.toNat offset.toNat))
  | .validators => validators n

/-- An operation with storage. -/
def act : (op : NodeOp) → StoreProg NodeError op.Value
  | .submitPayment d f t s amount key => submitPayment n d f t s amount key
  | .holdPaymentForReview d f t s amount key caseOpen =>
    holdPaymentForReview n d f t s amount key caseOpen
  | .mintSandbox d treasury t s amount => mintSandbox d treasury t s amount
  | .burnSandbox d f treasury s amount => burnSandbox d f treasury s amount
  | .approveComplianceCase d id reviewer reason =>
    (PostgresLedgerStore.approveComplianceCase d id reviewer reason).mapError .storage
  | .rejectComplianceCase d id reviewer reason =>
    (PostgresLedgerStore.rejectComplianceCase d id reviewer reason).mapError .storage
  | .upsertInstitution institution =>
    (PostgresLedgerStore.upsertInstitution institution).mapError .storage
  | .suspendInstitution now id => suspendInstitution now id
  | .addInstitutionCredential credential => addInstitutionCredential credential
  | .upsertInstitutionLimit limit => upsertInstitutionLimit limit
  | .recordAuditEvent event => (insertAuditEvent event).mapError .storage

/-- `request` is the operation, its result dropped. -/
theorem request_eq (op : NodeOp) : request n op = (act n op >>= fun _ => pure ()) := by
  cases op <;> rfl

end KaniNode.Postgres

/-- A call with storage. -/
def NodeCall.onStore (n : KaniNode) : (q : NodeCall) → FullStoreProg NodeError q.Value
  | .read r => KaniNode.Postgres.read n r
  | .act op => lift (KaniNode.Postgres.act n op)

end KaniNetwork
