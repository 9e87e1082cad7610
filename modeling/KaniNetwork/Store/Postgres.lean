/-
KaniNetwork.Store.Postgres — the methods of `PostgresLedgerStore` behind
the payment and compliance endpoints (`kani-ledger`).

Each method is the sequence of commands it sends, with what it computes
between them. `now()` of the database server and the clock and uuids of
the process are drawn from the same supply.
-/
import KaniNetwork.Store.Sql

namespace KaniNetwork

/-- `payment_matches_transaction`. -/
def paymentMatchesTransaction (payment : PaymentRecord) (attempted : Transaction) : Bool :=
  payment.transaction.kind = attempted.kind
    && payment.transaction.fromAccount = attempted.fromAccount
    && payment.transaction.toAccount = attempted.toAccount
    && payment.transaction.asset = attempted.asset
    && payment.transaction.amount = attempted.amount

/-- The comparison of `ensure_idempotent_retry`: fingerprints when both sides
have one, the fields of the payment otherwise. -/
def retryMatches (payment : PaymentRecord) (attempted : Transaction)
    (attemptedFingerprint : Option String) : Bool :=
  match payment.requestFingerprint, attemptedFingerprint with
  | some existing, some fingerprint => existing = fingerprint
  | _, _ => paymentMatchesTransaction payment attempted

namespace PaymentRecord

/-- The record `enqueue_pending_transaction` stores. -/
def enqueued (now : DateTime) (tx : Transaction)
    (clientReferenceId requestFingerprint : Option String) : PaymentRecord :=
  ((pending now tx).withClientReferenceId clientReferenceId).withRequestFingerprint
    requestFingerprint

/-- The record `hold_payment_for_review` stores. -/
def onHold (now : DateTime) (tx : Transaction) (reason : String)
    (clientReferenceId requestFingerprint : Option String) : PaymentRecord :=
  ((held now tx reason).withClientReferenceId clientReferenceId).withRequestFingerprint
    requestFingerprint

end PaymentRecord

namespace PostgresLedgerStore

/-- `ensure_idempotent_retry`. -/
def ensureIdempotentRetry (payment : PaymentRecord) (attempted : Transaction)
    (clientReferenceId : String) (attemptedFingerprint : Option String) :
    Except LedgerStorageError Unit :=
  if retryMatches payment attempted attemptedFingerprint then .ok ()
  else .error (.idempotencyConflict clientReferenceId payment.transaction.id)

/-- The lookup of a retried payment; a request without a key does not look. -/
def findRetried : Option String → StoreProg LedgerStorageError (Option (String × PaymentRecord))
  | none => return none
  | some clientReferenceId => do
    let payment ← query (.paymentByClientReferenceId clientReferenceId)
    return payment.map (clientReferenceId, ·)

/-- A text bound as `$1::uuid`: the rows are looked up under the column's
spelling of it. -/
def uuidParam (s : String) : Except LedgerStorageError String :=
  match uuidIn s with
  | some id => .ok id
  | none => .error (.sqlx .invalidText)

theorem uuidParam_eq_ok_iff {s id : String} : uuidParam s = .ok id ↔ uuidIn s = some id := by
  unfold uuidParam
  cases uuidIn s <;> simp

/-- `payment`. -/
def payment (paymentId : String) : StoreProg LedgerStorageError PaymentRecord := do
  let id ← .ofExcept (uuidParam paymentId)
  match ← query (.payment id) with
  | some payment => return payment
  | none => .fail (.unknownPayment paymentId)

/-- `compliance_case`. -/
def complianceCase (caseId : String) : StoreProg LedgerStorageError ComplianceCase := do
  let id ← .ofExcept (uuidParam caseId)
  match ← query (.complianceCase id) with
  | some complianceCase => return complianceCase
  | none => .fail (.unknownComplianceCase caseId)

/-- `compliance_case_by_payment_id`, which is asked for the id of a stored
payment only. -/
def complianceCaseByPaymentId (paymentId : String) :
    StoreProg LedgerStorageError ComplianceCase := do
  match ← query (.complianceCaseByPaymentId paymentId) with
  | some complianceCase => return complianceCase
  | none => .fail (.unknownComplianceCase paymentId)

/-- `enqueue_pending_transaction`. -/
def enqueuePendingTransaction (now : DateTime) (tx : Transaction)
    (clientReferenceId requestFingerprint : Option String) :
    StoreProg LedgerStorageError PaymentRecord := do
  match ← findRetried clientReferenceId with
  | some (key, stored) =>
    .ofExcept (ensureIdempotentRetry stored tx key requestFingerprint)
    return stored
  | none =>
    let payment := ((PaymentRecord.pending now tx).withClientReferenceId
      clientReferenceId).withRequestFingerprint requestFingerprint
    let inserted ← execute (.insertPending (.ofPayment payment))
    if inserted then return payment
    else
      match ← findRetried clientReferenceId with
      | some (key, stored) =>
        .ofExcept (ensureIdempotentRetry stored tx key requestFingerprint)
        return stored
      | none => return payment

/-- `hold_payment_for_review`. -/
def holdPaymentForReview (d : Draws) (tx : Transaction)
    (clientReferenceId requestFingerprint : Option String) (caseOpen : ComplianceCaseOpen) :
    StoreProg LedgerStorageError (PaymentRecord × ComplianceCase) := do
  match ← findRetried clientReferenceId with
  | some (key, stored) =>
    .ofExcept (ensureIdempotentRetry stored tx key requestFingerprint)
    let complianceCase ← complianceCaseByPaymentId stored.transaction.id
    return (stored, complianceCase)
  | none =>
    let payment := ((PaymentRecord.held (d.sub 0).stamp.now tx caseOpen.reason).withClientReferenceId
      clientReferenceId).withRequestFingerprint requestFingerprint
    let complianceCase := ComplianceCase.opened (d.sub 1).stamp caseOpen
    let inserted ← execute (.holdPayment (.ofPayment payment) complianceCase)
    if inserted then return (payment, complianceCase)
    else
      match clientReferenceId with
      | none => .fail (.unknownPayment tx.id)
      | some key =>
        match ← query (.paymentByClientReferenceId key) with
        | some stored =>
          .ofExcept (ensureIdempotentRetry stored tx key requestFingerprint)
          let complianceCase ← complianceCaseByPaymentId stored.transaction.id
          return (stored, complianceCase)
        | none => .fail (.idempotencyConflict key "unknown")

/-- `suspend_institution`. -/
def suspendInstitution (now : DateTime) (institutionId : String) :
    StoreProg LedgerStorageError (Option Institution) :=
  execute (.suspendInstitution institutionId now)

/-- `get_institution`. -/
def getInstitution (institutionId : String) : StoreProg LedgerStorageError (Option Institution) :=
  query (.institution institutionId)

/-- `insert_institution_credential`. -/
def insertInstitutionCredential (credential : InstitutionCredential) :
    StoreProg LedgerStorageError InstitutionCredential := do
  execute (.insertCredential credential)
  return credential

/-- `insert_audit_event`. -/
def insertAuditEvent (event : AuditEvent) : StoreProg LedgerStorageError Unit :=
  execute (.insertAuditEvent event)

/-- `upsert_institution`. -/
def upsertInstitution (institution : Institution) : StoreProg LedgerStorageError Institution := do
  execute (.upsertInstitution institution)
  return institution

/-- `upsert_institution_limit`. -/
def upsertInstitutionLimit (limit : InstitutionLimit) :
    StoreProg LedgerStorageError InstitutionLimit := do
  execute (.upsertInstitutionLimit limit)
  return limit

/-- `ensure_storage_case_not_terminal`. -/
def ensureStorageCaseNotTerminal (c : ComplianceCase) : Except LedgerStorageError Unit :=
  if c.status.isTerminal then .error (.terminalComplianceCase c.id c.status.toDb) else .ok ()

/-- `approve_compliance_case`: the case is read before the transaction that
updates it. -/
def approveComplianceCase (d : Draws) (caseId : String) (reviewer reason : Option String) :
    StoreProg LedgerStorageError (ComplianceCase × PaymentRecord) := do
  let current ← complianceCase caseId
  .ofExcept (ensureStorageCaseNotTerminal current)
  let approved := current.approved (d.sub 0).stamp.now reviewer reason
  execute (.approveCase approved (d.sub 1).stamp.now)
  let payment ← payment approved.paymentId
  return (approved, payment)

/-- `reject_compliance_case`. -/
def rejectComplianceCase (d : Draws) (caseId : String) (reviewer reason : Option String) :
    StoreProg LedgerStorageError (ComplianceCase × PaymentRecord) := do
  let current ← complianceCase caseId
  .ofExcept (ensureStorageCaseNotTerminal current)
  let rejectionReason := reason.getD "compliance case rejected"
  let rejected := current.rejected (d.sub 0).stamp.now reviewer reason
  execute (.rejectCase rejected rejectionReason (d.sub 1).stamp.now)
  let payment ← payment rejected.paymentId
  return (rejected, payment)

/-! ## Which commands a method sends -/

section

variable {P : Sql → Prop}

/-- A retry answers from the stored payment. -/
theorem retry_only {α : Type} (stored : PaymentRecord) (tx : Transaction) (key : String)
    (fingerprint : Option String) {p : StoreProg LedgerStorageError α} (hp : p.Only P) :
    (Prog.ofExcept (ensureIdempotentRetry stored tx key fingerprint) >>= fun _ => p).Only P :=
  .bind (.ofExcept _) fun _ => hp

variable (hread : ∀ q, P (.read q))

include hread

theorem findRetried_only (key : Option String) : (findRetried key).Only P := by
  cases key with
  | none => trivial
  | some key => exact .bind (only_query (hread _)) fun _ => trivial

theorem payment_only (id : String) : (payment id).Only P := by
  refine .bind (.ofExcept _) fun _ => .bind (only_query (hread _)) fun p => ?_
  cases p <;> trivial

theorem complianceCase_only (id : String) : (complianceCase id).Only P := by
  refine .bind (.ofExcept _) fun _ => .bind (only_query (hread _)) fun c => ?_
  cases c <;> trivial

theorem complianceCaseByPaymentId_only (id : String) : (complianceCaseByPaymentId id).Only P := by
  refine .bind (only_query (hread _)) fun c => ?_
  cases c <;> trivial

theorem enqueuePendingTransaction_only (now : DateTime) (tx : Transaction)
    (key fingerprint : Option String)
    (hinsert : P (.write (.insertPending (.ofPayment (.enqueued now tx key fingerprint))))) :
    (enqueuePendingTransaction now tx key fingerprint).Only P := by
  refine .bind (findRetried_only hread key) fun found => ?_
  cases found with
  | some found => exact retry_only _ _ _ _ trivial
  | none =>
    refine .bind (only_execute hinsert) fun inserted => ?_
    cases inserted with
    | true => trivial
    | false =>
      refine .bind (findRetried_only hread key) fun found => ?_
      cases found with
      | some found => exact retry_only _ _ _ _ trivial
      | none => trivial

theorem holdPaymentForReview_only (d : Draws) (tx : Transaction) (key fingerprint : Option String)
    (caseOpen : ComplianceCaseOpen)
    (hhold : P (.write (.holdPayment
      (.ofPayment (.onHold (d.sub 0).stamp.now tx caseOpen.reason key fingerprint))
      (.opened (d.sub 1).stamp caseOpen)))) :
    (holdPaymentForReview d tx key fingerprint caseOpen).Only P := by
  have hcase : ∀ stored : PaymentRecord, (do
      let complianceCase ← complianceCaseByPaymentId stored.transaction.id
      return (stored, complianceCase)).Only P :=
    fun stored => .bind (complianceCaseByPaymentId_only hread _) fun _ => trivial
  refine .bind (findRetried_only hread key) fun found => ?_
  cases found with
  | some found => exact retry_only _ _ _ _ (hcase _)
  | none =>
    refine .bind (only_execute hhold) fun inserted => ?_
    cases inserted with
    | true => trivial
    | false =>
      cases key with
      | none => trivial
      | some key =>
        refine .bind (only_query (hread _)) fun stored => ?_
        cases stored with
        | some stored => exact retry_only _ _ _ _ (hcase _)
        | none => trivial

theorem approveComplianceCase_only (d : Draws) (caseId : String) (reviewer reason : Option String)
    (happrove : ∀ current : ComplianceCase, P (.write (.approveCase
      (current.approved (d.sub 0).stamp.now reviewer reason) (d.sub 1).stamp.now))) :
    (approveComplianceCase d caseId reviewer reason).Only P :=
  .bind (complianceCase_only hread _) fun _ => .bind (.ofExcept _) fun _ =>
    .bind (only_execute (happrove _)) fun _ => .bind (payment_only hread _) fun _ => trivial

theorem rejectComplianceCase_only (d : Draws) (caseId : String) (reviewer reason : Option String)
    (hreject : ∀ current : ComplianceCase, P (.write (.rejectCase
      (current.rejected (d.sub 0).stamp.now reviewer reason)
      (reason.getD "compliance case rejected") (d.sub 1).stamp.now))) :
    (rejectComplianceCase d caseId reviewer reason).Only P :=
  .bind (complianceCase_only hread _) fun _ => .bind (.ofExcept _) fun _ =>
    .bind (only_execute (hreject _)) fun _ => .bind (payment_only hread _) fun _ => trivial

end

end PostgresLedgerStore

end KaniNetwork
