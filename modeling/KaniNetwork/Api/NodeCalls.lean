/-
KaniNetwork.Api.NodeCalls — the node as the handlers await it.

A handler touches the node only through its async methods. A `NodeCall` is
one call of such a method: a `NodeRead` or a `NodeOp`, answered by the value
of the method or a `NodeError`. Without storage every call takes the ledger
under the mutex, from its first read to its last write; `inMemory` is what
it does there. On the database a call is a program of its own
(`Api/StoreCalls.lean`).
-/
import KaniNetwork.Api.Reports
import KaniNetwork.Ledger.Search
import KaniNetwork.Node.Registry

namespace KaniNetwork

/-- The reading methods of the node. -/
inductive NodeRead where
  | getPayment (paymentId : String)
  | balance (accountId asset : String)
  | issued (asset : String)
  | latestBlock
  | blocks (search : BlockSearch)
  | accounts
  | institutions
  | getInstitution (institutionId : String)
  | institutionCredentials (institutionId : String)
  | institutionLimits (institutionId : String)
  | auditEvents (search : AuditEventSearch)
  | journalEntries (search : JournalEntrySearch)
  | complianceCases (limit offset : Int)
  | complianceCase (caseId : String)
  | pendingTransactions (limit offset : Int)
  | validators
  deriving DecidableEq

@[reducible] def NodeRead.Value : NodeRead → Type
  | .getPayment _ => PaymentRecord
  | .balance _ _ => Int
  | .issued _ => Int
  | .latestBlock => Option Block
  | .blocks _ => List Block
  | .accounts => List Account
  | .institutions => List Institution
  | .getInstitution _ => Institution
  | .institutionCredentials _ => List InstitutionCredential
  | .institutionLimits _ => List InstitutionLimit
  | .auditEvents _ => List AuditEvent
  | .journalEntries _ => List JournalEntry
  | .complianceCases _ _ => List ComplianceCase
  | .complianceCase _ => ComplianceCase
  | .pendingTransactions _ _ => List Transaction
  | .validators => List ValidatorInfo

/-- What an operation returns when it succeeds. -/
@[reducible] def NodeOp.Value : NodeOp → Type
  | .submitPayment _ _ _ _ _ _ => PaymentRecord
  | .holdPaymentForReview _ _ _ _ _ _ _ => PaymentRecord × ComplianceCase
  | .mintSandbox _ _ _ _ _ => PaymentRecord
  | .burnSandbox _ _ _ _ _ => PaymentRecord
  | .approveComplianceCase _ _ _ _ => ComplianceCase × PaymentRecord
  | .rejectComplianceCase _ _ _ _ => ComplianceCase × PaymentRecord
  | .upsertInstitution _ => Institution
  | .suspendInstitution _ _ => Institution
  | .addInstitutionCredential _ => InstitutionCredential
  | .upsertInstitutionLimit _ => InstitutionLimit
  | .recordAuditEvent _ => Unit

inductive NodeCall where
  | read (r : NodeRead)
  | act (op : NodeOp)

@[reducible] def NodeCall.Value : NodeCall → Type
  | .read r => r.Value
  | .act op => op.Value

@[reducible] def NodeCall.Reply (q : NodeCall) : Type := Except NodeError q.Value

/-! ## Without storage -/

/-- The payments of the ledger that wait, oldest first
(`pending_transactions`). -/
def InMemoryLedger.pendingTransactions (l : InMemoryLedger) (limit offset : Int) :
    List Transaction :=
  let pending := l.payments.values.filter fun payment => payment.status = .pending
  (page limit.toNat offset.toNat
    (pending.insertionSort fun a b => a.createdAt ≤ b.createdAt)).map PaymentRecord.transaction

/-- A read of the ledger. -/
def NodeRead.inMemory (n : KaniNode) (l : InMemoryLedger) : (r : NodeRead) → Except NodeError r.Value
  | .getPayment paymentId => (l.getPayment paymentId).mapError .ledger
  | .balance accountId asset => .ok (l.balance accountId asset)
  | .issued asset => .ok (l.issuedOf asset)
  | .latestBlock => .ok l.blocks.getLast?
  | .blocks search => .ok (search.apply l.blocks)
  | .accounts => .ok l.accounts.values
  | .institutions => .ok l.sortedInstitutions
  | .getInstitution institutionId => (l.getInstitution institutionId).mapError .ledger
  | .institutionCredentials institutionId =>
    (l.institutionCredentialsOf institutionId).elim
      (.error (.ledger (.unknownInstitution institutionId))) .ok
  | .institutionLimits institutionId =>
    (l.institutionLimitsOf institutionId).elim
      (.error (.ledger (.unknownInstitution institutionId))) .ok
  | .auditEvents search => .ok (search.apply l.auditEvents)
  | .journalEntries search => .ok (search.apply l.journalEntries)
  | .complianceCases limit offset => .ok (page limit.toNat offset.toNat l.sortedComplianceCases)
  | .complianceCase caseId => (l.getComplianceCase caseId).mapError .ledger
  | .pendingTransactions limit offset => .ok (l.pendingTransactions limit offset)
  | .validators => .ok n.validators

/-- An operation on the ledger. -/
def NodeOp.inMemory (n : KaniNode) : (op : NodeOp) → Method InMemoryLedger NodeError op.Value
  | .submitPayment d f t s amount key => n.submitPayment d f t s amount key
  | .holdPaymentForReview d f t s amount key caseOpen =>
    n.holdPaymentForReview d f t s amount key caseOpen
  | .mintSandbox d treasury t s amount => n.mintSandbox d treasury t s amount
  | .burnSandbox d f treasury s amount => n.burnSandbox d f treasury s amount
  | .approveComplianceCase d id reviewer reason =>
    (InMemoryLedger.approveComplianceCase d id reviewer reason).mapError .ledger
  | .rejectComplianceCase d id reviewer reason =>
    (InMemoryLedger.rejectComplianceCase d id reviewer reason).mapError .ledger
  | .upsertInstitution institution => do
    Method.modify (·.upsertInstitution institution)
    return institution
  | .suspendInstitution now id => (InMemoryLedger.suspendInstitution now id).mapError .ledger
  | .addInstitutionCredential credential =>
    (InMemoryLedger.addInstitutionCredential credential).mapError .ledger
  | .upsertInstitutionLimit limit => (InMemoryLedger.upsertInstitutionLimit limit).mapError .ledger
  | .recordAuditEvent event => .modify (·.recordAuditEvent event)

/-- What a call does to the ledger, and its answer. -/
def NodeCall.inMemory (n : KaniNode) : (q : NodeCall) → InMemoryLedger → InMemoryLedger × q.Reply
  | .read r, l => (l, r.inMemory n l)
  | .act op, l => op.inMemory n l

namespace NodeCall

variable {n : KaniNode} {l : InMemoryLedger}

@[simp] theorem inMemory_read (r : NodeRead) : (NodeCall.read r).inMemory n l = (l, r.inMemory n l) :=
  rfl

/-- An operation leaves the ledger a step of the node leaves. -/
theorem inMemory_act_ledger (op : NodeOp) : ((NodeCall.act op).inMemory n l).1 = n.step l op := by
  cases op <;> rfl

/-- The operation of a call, if it is one. -/
def op? : NodeCall → Option NodeOp
  | .read _ => none
  | .act op => some op

/-- The ledger after a sequence of calls is the ledger after their
operations. -/
theorem foldl_inMemory (calls : List NodeCall) :
    calls.foldl (fun l q => (q.inMemory n l).1) l = n.run l (calls.filterMap op?) := by
  induction calls generalizing l with
  | nil => rfl
  | cons q calls ih =>
    cases q with
    | read r => exact ih
    | act op =>
      rw [List.foldl_cons, inMemory_act_ledger, ih]
      rfl

end NodeCall

end KaniNetwork
