/-
KaniNetwork.Node.Memory — the node over an in-memory ledger (`KaniNode`
without storage).

The receiver of every operation is the ledger behind the mutex, which an
operation holds from its first read to its last write. A `NodeOp` is one
call of a node operation with its arguments and with the uuids and clock
readings it draws; `KaniNode.run` is a sequence of calls, failed ones
included.
-/
import KaniNetwork.Node.Block

namespace KaniNetwork

/-- A node without storage: its engine, its profile and what it is built
on. -/
structure KaniNode where
  host : Host
  consensus : ConfiguredConsensusEngine
  cryptoProfile : CryptoProfile

/-- What a retry with a known idempotency key asks for. -/
structure IdempotencyAttempt where
  kind : TransactionKind
  fromAccount : String
  toAccount : String
  asset : String
  amount : Int
  requestFingerprint : String
  clientReferenceId : String
  deriving DecidableEq, Repr

/-- The match `ensure_idempotent_retry` makes: by fingerprint, or by the
fields of the payment when it has none. -/
def IdempotencyAttempt.matches (attempt : IdempotencyAttempt) (payment : PaymentRecord) : Bool :=
  match payment.requestFingerprint with
  | some existing => existing = attempt.requestFingerprint
  | none =>
    payment.transaction.kind = attempt.kind
      && payment.transaction.fromAccount = attempt.fromAccount
      && payment.transaction.toAccount = attempt.toAccount
      && payment.transaction.asset = attempt.asset
      && payment.transaction.amount = attempt.amount

/-- `ensure_idempotent_retry`. -/
def ensureIdempotentRetry (payment : PaymentRecord) (attempt : IdempotencyAttempt) :
    Except NodeError Unit :=
  if attempt.matches payment then .ok ()
  else .error (.idempotencyConflict attempt.clientReferenceId)

/-- A request with an idempotency key carries the key and the request
fingerprint in its metadata. -/
def Transaction.withRequestMetadata (tx : Transaction) (clientReferenceId : Option String)
    (requestFingerprint : String) : Transaction :=
  match clientReferenceId with
  | none => tx
  | some clientReferenceId =>
    { tx with
      metadata := (tx.metadata.insert "client_reference_id" clientReferenceId).insert
        "request_fingerprint" requestFingerprint }

namespace KaniNode

/-- `request_fingerprint`. -/
def requestFingerprint (n : KaniNode) (kind : TransactionKind) (fromAccount toAccount asset : String)
    (amount : Int) : String :=
  let payload := "kind=" ++ kind.label ++ "\nfrom=" ++ fromAccount ++ "\nto=" ++ toAccount
    ++ "\nasset=" ++ asset ++ "\namount=" ++ toString amount ++ "\n"
  n.host.hashBytes n.cryptoProfile.hash (utf8Bytes payload)

/-- `produce_and_apply_locked`: the block is applied to a copy, which
replaces the ledger when that succeeds. -/
def produceAndApplyLocked (n : KaniNode) (d : Draws) (txs : List Transaction) :
    Method InMemoryLedger NodeError PaymentRecord := do
  if txs.isEmpty then .throw .emptyBlock
  else
    let ledger ← .get
    let block ← .ofExcept (buildBlock n.host n.consensus n.cryptoProfile (d.sub 0) ledger txs)
    .ofExcept (verifyPhase1Block n.host n.consensus n.cryptoProfile (d.sub 1) ledger block)
    match InMemoryLedger.applyBlock n.host.arith (d.sub 2) block ledger with
    | (_, .error e) => .throw (.ledger e)
    | (workingLedger, .ok records) =>
      .set workingLedger
      match records with
      | record :: _ => return record
      | [] => .throw .emptyBlock

/-- The stored payment of an idempotency key, when there is a key. -/
def findRetried (ledger : InMemoryLedger) (clientReferenceId : Option String) :
    Option (String × PaymentRecord) :=
  clientReferenceId.bind fun key => (ledger.getPaymentByClientReferenceId key).map (key, ·)

/-- `submit_payment` without storage. -/
def submitPayment (n : KaniNode) (d : Draws) (fromAccount toAccount asset : String)
    (amount : Int) (clientReferenceId : Option String) :
    Method InMemoryLedger NodeError PaymentRecord := do
  let fingerprint := n.requestFingerprint .transfer fromAccount toAccount asset amount
  let ledger ← .get
  match findRetried ledger clientReferenceId with
  | some (key, payment) =>
    .ofExcept (ensureIdempotentRetry payment
      ⟨.transfer, fromAccount, toAccount, asset, amount, fingerprint, key⟩)
    return payment
  | none =>
    let nonce := ledger.nextNonce fromAccount
    let tx := Transaction.newTransfer (d.sub 0).stamp fromAccount toAccount asset amount nonce
    n.produceAndApplyLocked (d.sub 1) [tx.withRequestMetadata clientReferenceId fingerprint]

/-- `hold_payment_for_review` without storage. -/
def holdPaymentForReview (n : KaniNode) (d : Draws) (fromAccount toAccount asset : String)
    (amount : Int) (clientReferenceId : Option String) (caseOpen : ComplianceCaseOpen) :
    Method InMemoryLedger NodeError (PaymentRecord × ComplianceCase) := do
  let fingerprint := n.requestFingerprint .transfer fromAccount toAccount asset amount
  let ledger ← .get
  match findRetried ledger clientReferenceId with
  | some (key, payment) =>
    .ofExcept (ensureIdempotentRetry payment
      ⟨.transfer, fromAccount, toAccount, asset, amount, fingerprint, key⟩)
    match ledger.sortedComplianceCases.find? (fun c => c.paymentId = payment.transaction.id) with
    | some complianceCase => return (payment, complianceCase)
    | none => .throw (.ledger (.unknownComplianceCase payment.transaction.id))
  | none =>
    let nonce := ledger.nextNonce fromAccount
    let tx := Transaction.newTransfer (d.sub 0).stamp fromAccount toAccount asset amount nonce
    let tx := tx.withRequestMetadata clientReferenceId fingerprint
    let caseOpen := { caseOpen with paymentId := tx.id }
    let payment := ((PaymentRecord.held (d.sub 1).stamp.now tx caseOpen.reason).withClientReferenceId
      clientReferenceId).withRequestFingerprint (some fingerprint)
    (InMemoryLedger.holdPaymentForReview (d.sub 2).stamp payment caseOpen).mapError .ledger

/-- `mint_sandbox` without storage. -/
def mintSandbox (n : KaniNode) (d : Draws) (treasury toAccount asset : String) (amount : Int) :
    Method InMemoryLedger NodeError PaymentRecord := do
  let ledger ← .get
  let nonce := ledger.nextNonce treasury
  let tx := Transaction.newMint (d.sub 0).stamp treasury toAccount asset amount nonce
  n.produceAndApplyLocked (d.sub 1) [tx]

/-- `burn_sandbox` without storage. -/
def burnSandbox (n : KaniNode) (d : Draws) (fromAccount treasury asset : String) (amount : Int) :
    Method InMemoryLedger NodeError PaymentRecord := do
  let ledger ← .get
  let nonce := ledger.nextNonce fromAccount
  let tx := Transaction.newBurn (d.sub 0).stamp fromAccount treasury asset amount nonce
  n.produceAndApplyLocked (d.sub 1) [tx]

end KaniNode

/-! ## Runs -/

inductive NodeOp where
  | submitPayment (d : Draws) (fromAccount toAccount asset : String) (amount : Int)
      (clientReferenceId : Option String)
  | holdPaymentForReview (d : Draws) (fromAccount toAccount asset : String) (amount : Int)
      (clientReferenceId : Option String) (caseOpen : ComplianceCaseOpen)
  | mintSandbox (d : Draws) (treasury toAccount asset : String) (amount : Int)
  | burnSandbox (d : Draws) (fromAccount treasury asset : String) (amount : Int)
  | approveComplianceCase (d : Draws) (caseId : String) (reviewer reason : Option String)
  | rejectComplianceCase (d : Draws) (caseId : String) (reviewer reason : Option String)
  | upsertInstitution (institution : Institution)
  | suspendInstitution (now : DateTime) (institutionId : String)
  | addInstitutionCredential (credential : InstitutionCredential)
  | upsertInstitutionLimit (limit : InstitutionLimit)
  | recordAuditEvent (event : AuditEvent)

namespace KaniNode

open InMemoryLedger in
/-- The ledger after one call, whether it succeeds or fails. -/
def step (n : KaniNode) (l : InMemoryLedger) : NodeOp → InMemoryLedger
  | .submitPayment d f t s amount key => (n.submitPayment d f t s amount key l).1
  | .holdPaymentForReview d f t s amount key caseOpen =>
    (n.holdPaymentForReview d f t s amount key caseOpen l).1
  | .mintSandbox d treasury t s amount => (n.mintSandbox d treasury t s amount l).1
  | .burnSandbox d f treasury s amount => (n.burnSandbox d f treasury s amount l).1
  | .approveComplianceCase d id reviewer reason =>
    (approveComplianceCase d id reviewer reason l).1
  | .rejectComplianceCase d id reviewer reason => (rejectComplianceCase d id reviewer reason l).1
  | .upsertInstitution institution => l.upsertInstitution institution
  | .suspendInstitution now id => (suspendInstitution now id l).1
  | .addInstitutionCredential credential => (addInstitutionCredential credential l).1
  | .upsertInstitutionLimit limit => (upsertInstitutionLimit limit l).1
  | .recordAuditEvent event => l.recordAuditEvent event

/-- The ledger after a sequence of calls. -/
def run (n : KaniNode) (l : InMemoryLedger) (ops : List NodeOp) : InMemoryLedger :=
  ops.foldl n.step l

end KaniNode

end KaniNetwork
