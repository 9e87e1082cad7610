/-
KaniNetwork.Node.Postgres — the node over the database (`KaniNode` with
storage).

Each operation is a program: a nonce query and an insert are two commands,
and anything may commit between them. The results and errors are those of
the store, turned into errors of the node. `request` is a call of any
operation, its result dropped; `request_only` says which statements such a
call sends.
-/
import KaniNetwork.Node.Memory
import KaniNetwork.Store.ApiStep

namespace KaniNetwork

open PostgresLedgerStore

/-- The error of a store call that carries an idempotency key. -/
def NodeError.ofStorage : LedgerStorageError → NodeError
  | .idempotencyConflict clientReferenceId _ => .idempotencyConflict clientReferenceId
  | other => .storage other

namespace KaniNode.Postgres

/-- `enqueue_postgres_payment`. -/
def enqueuePostgresPayment (now : DateTime) (tx : Transaction)
    (clientReferenceId requestFingerprint : Option String) : StoreProg NodeError PaymentRecord :=
  (enqueuePendingTransaction now tx clientReferenceId requestFingerprint).mapError .ofStorage

/-- `submit_payment` with storage. -/
def submitPayment (n : KaniNode) (d : Draws) (fromAccount toAccount asset : String)
    (amount : Int) (clientReferenceId : Option String) : StoreProg NodeError PaymentRecord := do
  let fingerprint := n.requestFingerprint .transfer fromAccount toAccount asset amount
  let nonce ← query (.nextNonce fromAccount)
  let tx := Transaction.newTransfer (d.sub 0).stamp fromAccount toAccount asset amount nonce
  enqueuePostgresPayment (d.sub 1).stamp.now (tx.withRequestMetadata clientReferenceId fingerprint)
    clientReferenceId (some fingerprint)

/-- `hold_payment_for_review` with storage. -/
def holdPaymentForReview (n : KaniNode) (d : Draws) (fromAccount toAccount asset : String)
    (amount : Int) (clientReferenceId : Option String) (caseOpen : ComplianceCaseOpen) :
    StoreProg NodeError (PaymentRecord × ComplianceCase) := do
  let fingerprint := n.requestFingerprint .transfer fromAccount toAccount asset amount
  let nonce ← query (.nextNonce fromAccount)
  let tx := Transaction.newTransfer (d.sub 0).stamp fromAccount toAccount asset amount nonce
  let tx := tx.withRequestMetadata clientReferenceId fingerprint
  let caseOpen := { caseOpen with paymentId := tx.id }
  (PostgresLedgerStore.holdPaymentForReview (d.sub 1) tx clientReferenceId (some fingerprint)
    caseOpen).mapError .ofStorage

/-- `mint_sandbox` with storage. -/
def mintSandbox (d : Draws) (treasury toAccount asset : String) (amount : Int) :
    StoreProg NodeError PaymentRecord := do
  let nonce ← query (.nextNonce treasury)
  let tx := Transaction.newMint (d.sub 0).stamp treasury toAccount asset amount nonce
  (enqueuePendingTransaction (d.sub 1).stamp.now tx none none).mapError .storage

/-- `burn_sandbox` with storage. -/
def burnSandbox (d : Draws) (fromAccount treasury asset : String) (amount : Int) :
    StoreProg NodeError PaymentRecord := do
  let nonce ← query (.nextNonce fromAccount)
  let tx := Transaction.newBurn (d.sub 0).stamp fromAccount treasury asset amount nonce
  (enqueuePendingTransaction (d.sub 1).stamp.now tx none none).mapError .storage

/-- `get_institution` with storage. -/
def getInstitution (institutionId : String) : StoreProg NodeError Institution := do
  match ← (PostgresLedgerStore.getInstitution institutionId).mapError .storage with
  | some institution => return institution
  | none => .fail (.ledger (.unknownInstitution institutionId))

/-- `suspend_institution` with storage. -/
def suspendInstitution (now : DateTime) (institutionId : String) :
    StoreProg NodeError Institution := do
  match ← (PostgresLedgerStore.suspendInstitution now institutionId).mapError .storage with
  | some institution => return institution
  | none => .fail (.ledger (.unknownInstitution institutionId))

/-- `add_institution_credential` with storage. -/
def addInstitutionCredential (credential : InstitutionCredential) :
    StoreProg NodeError InstitutionCredential := do
  let _ ← getInstitution credential.institutionId
  (insertInstitutionCredential credential).mapError .storage

/-- `upsert_institution_limit` with storage. -/
def upsertInstitutionLimit (limit : InstitutionLimit) : StoreProg NodeError InstitutionLimit := do
  let _ ← getInstitution limit.institutionId
  (PostgresLedgerStore.upsertInstitutionLimit limit).mapError .storage

/-- A call of an operation, its result dropped. -/
def request (n : KaniNode) : NodeOp → StoreProg NodeError Unit
  | .submitPayment d f t s amount key => do
    let _ ← submitPayment n d f t s amount key
  | .holdPaymentForReview d f t s amount key caseOpen => do
    let _ ← holdPaymentForReview n d f t s amount key caseOpen
  | .mintSandbox d treasury t s amount => do
    let _ ← mintSandbox d treasury t s amount
  | .burnSandbox d f treasury s amount => do
    let _ ← burnSandbox d f treasury s amount
  | .approveComplianceCase d id reviewer reason => do
    let _ ← (PostgresLedgerStore.approveComplianceCase d id reviewer reason).mapError .storage
  | .rejectComplianceCase d id reviewer reason => do
    let _ ← (PostgresLedgerStore.rejectComplianceCase d id reviewer reason).mapError .storage
  | .upsertInstitution institution => do
    let _ ← (PostgresLedgerStore.upsertInstitution institution).mapError .storage
  | .suspendInstitution now id => do
    let _ ← suspendInstitution now id
  | .addInstitutionCredential credential => do
    let _ ← addInstitutionCredential credential
  | .upsertInstitutionLimit limit => do
    let _ ← upsertInstitutionLimit limit
  | .recordAuditEvent event => do
    let _ ← (insertAuditEvent event).mapError .storage

/-! ## What a request sends -/

/-- The requests that approve a case. -/
def approves : NodeOp → Bool
  | .approveComplianceCase _ _ _ _ => true
  | _ => false

theorem enqueue_only {approving : Bool} (g : LedgerStorageError → NodeError) (now : DateTime) (tx : Transaction)
    (key fingerprint : Option String) :
    ((enqueuePendingTransaction now tx key fingerprint).mapError g).Only (Sql.OfApi approving) :=
  .mapError (enqueuePendingTransaction_only Sql.ofApi_read now tx key fingerprint
    (Sql.ofApi_write (.enqueue now tx key fingerprint) nofun))

theorem getInstitution_only {approving : Bool} (id : String) : (getInstitution id).Only (Sql.OfApi approving) := by
  refine .bind (.mapError (only_query (Sql.ofApi_read _))) ?_
  intro found
  cases found <;> trivial

/-- A request sends queries and statements of the API. -/
theorem request_only (n : KaniNode) (op : NodeOp) : (request n op).Only (Sql.OfApi (approves op)) := by
  cases op with
  | submitPayment d f t s amount key =>
    exact .bind (.bind (only_query (Sql.ofApi_read _)) fun nonce => enqueue_only _ _ _ _ _)
      fun _ => trivial
  | holdPaymentForReview d f t s amount key caseOpen =>
    refine .bind (.bind (only_query (Sql.ofApi_read _)) fun nonce => ?_) fun _ => trivial
    exact .mapError (holdPaymentForReview_only Sql.ofApi_read _ _ _ _ _
      (Sql.ofApi_write (.hold _ _ _ _ _ _ rfl) nofun))
  | mintSandbox d treasury t s amount =>
    exact .bind (.bind (only_query (Sql.ofApi_read _)) fun nonce => enqueue_only _ _ _ _ _)
      fun _ => trivial
  | burnSandbox d f treasury s amount =>
    exact .bind (.bind (only_query (Sql.ofApi_read _)) fun nonce => enqueue_only _ _ _ _ _)
      fun _ => trivial
  | approveComplianceCase d id reviewer reason =>
    exact .bind (.mapError (approveComplianceCase_only Sql.ofApi_read d id reviewer reason
      fun current => Sql.ofApi_write (.approve current _ _ _ _) fun _ => rfl)) fun _ => trivial
  | rejectComplianceCase d id reviewer reason =>
    exact .bind (.mapError (rejectComplianceCase_only Sql.ofApi_read d id reviewer reason
      fun current => Sql.ofApi_write (.reject current _ _ _ _ _) nofun)) fun _ => trivial
  | upsertInstitution institution =>
    exact .bind (.mapError (.bind (only_execute (Sql.ofApi_write (.upsertInstitution _) nofun))
      fun _ => trivial)) fun _ => trivial
  | suspendInstitution now id =>
    refine .bind (.bind (.mapError (only_execute (Sql.ofApi_write (.suspendInstitution _ _) nofun))) ?_)
      fun _ => trivial
    intro found
    cases found <;> trivial
  | addInstitutionCredential credential =>
    refine .bind (.bind (getInstitution_only _) fun _ => ?_) fun _ => trivial
    exact .mapError (.bind (only_execute (Sql.ofApi_write (.insertCredential _) nofun)) fun _ => trivial)
  | upsertInstitutionLimit limit =>
    refine .bind (.bind (getInstitution_only _) fun _ => ?_) fun _ => trivial
    exact .mapError (.bind (only_execute (Sql.ofApi_write (.upsertInstitutionLimit _) nofun))
      fun _ => trivial)
  | recordAuditEvent event =>
    exact .bind (.mapError (only_execute (Sql.ofApi_write (.insertAuditEvent _) nofun))) fun _ => trivial

end KaniNode.Postgres

end KaniNetwork
