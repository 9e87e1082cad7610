/-
KaniNetwork.Types.Core — the data types shared by the ledger, the node
and the store (`kani-types`).

Identifiers are strings and timestamps are `DateTime`, nanoseconds since
the epoch. Amounts (`i128`), heights and nonces (`i64`) are integers:
what `i128` arithmetic does at the end of its range is decided in
`Ledger/InMemory.lean`, where amounts are added; heights and nonces only
count blocks and requests.

Every constructor of the source that calls `Utc::now()` or
`Uuid::new_v4()` takes the clock reading or the uuid as an argument. A
whole operation draws them from a `Draws`, a supply that splits without
being threaded.
-/
import Mathlib.Algebra.GroupWithZero.Nat
import Mathlib.Algebra.Ring.Int.Defs
import KaniNetwork.Base.BTreeMap
import KaniNetwork.Base.Result
import KaniNetwork.Base.Text
import KaniNetwork.Base.Uuid

namespace KaniNetwork

/-- Nanoseconds since the epoch. -/
abbrev DateTime := Int

/-- One uuid and one clock reading. -/
structure Stamp where
  id : String
  now : DateTime
  deriving DecidableEq, Repr

/-- The uuids and clock readings an operation consumes: `d.sub i` is the
supply of its `i`-th part, `d.stamp` the reading at this place. -/
abbrev Draws := List Nat → Stamp

namespace Draws

def stamp (d : Draws) : Stamp := d []

def sub (d : Draws) (i : Nat) : Draws := fun path => d (i :: path)

/-- A supply to run examples with: every place names its own uuid, and the
clock stands at `now`. -/
def numbered (tag : String) (now : DateTime) : Draws := fun path =>
  ⟨uuidNamed (path.foldl (fun s i => s ++ "-" ++ toString i) tag), now⟩

end Draws

def GENESIS_HASH : String := "KANI_GENESIS_V1"
def SANDBOX_TREASURY_ACCOUNT : String := "TREASURY_SANDBOX"
def SANDBOX_CORP_A_ACCOUNT : String := "CORP_A"
def SANDBOX_CORP_B_ACCOUNT : String := "CORP_B"
def SANDBOX_FEE_ACCOUNT : String := "FEE_SANDBOX"
def SANDBOX_TREASURY_INSTITUTION : String := "KANI_TREASURY"
def SANDBOX_CORP_A_INSTITUTION : String := "CORP_A"
def SANDBOX_CORP_B_INSTITUTION : String := "CORP_B"
def SANDBOX_NETWORK_INSTITUTION : String := "KANI"
def KCAD_TEST : String := "KCAD_TEST"
def KUSD_TEST : String := "KUSD_TEST"

/-! ## Accounts -/

inductive AccountType where
  | treasury | institution | settlement | fee
  deriving DecidableEq, Repr

structure Account where
  id : String
  accountType : AccountType
  institutionId : Option String
  createdAt : DateTime
  deriving DecidableEq, Repr

def Account.new (now : DateTime) (id : String) (accountType : AccountType)
    (institutionId : Option String) : Account where
  id := id
  accountType := accountType
  institutionId := institutionId
  createdAt := now

/-! ## Institutions -/

inductive InstitutionStatus where
  | requested | dueDiligence | approved | rejected | suspended | offboarded
  deriving DecidableEq, Repr

inductive InstitutionRiskTier where
  | low | medium | high | restricted
  deriving DecidableEq, Repr

inductive InstitutionRole where
  | operator | approver | auditor | complianceReviewer | technicalAdmin
  deriving DecidableEq, Repr

structure InstitutionDefinition where
  id : String
  legalName : String
  institutionCode : String
  jurisdiction : String
  status : InstitutionStatus
  riskTier : InstitutionRiskTier
  allowedAssets : List String
  roles : List InstitutionRole
  deriving DecidableEq, Repr

structure Institution where
  id : String
  legalName : String
  institutionCode : String
  jurisdiction : String
  status : InstitutionStatus
  riskTier : InstitutionRiskTier
  allowedAssets : List String
  roles : List InstitutionRole
  createdAt : DateTime
  approvedAt : Option DateTime
  suspendedAt : Option DateTime
  updatedAt : DateTime
  deriving DecidableEq, Repr

namespace Institution

def new (now : DateTime) (d : InstitutionDefinition) : Institution where
  id := d.id
  legalName := d.legalName
  institutionCode := d.institutionCode
  jurisdiction := d.jurisdiction
  status := d.status
  riskTier := d.riskTier
  allowedAssets := d.allowedAssets
  roles := d.roles
  createdAt := now
  approvedAt := if d.status = .approved then some now else none
  suspendedAt := if d.status = .suspended then some now else none
  updatedAt := now

def sandboxApproved (now : DateTime) (id legalName institutionCode : String) : Institution :=
  new now {
    id := id
    legalName := legalName
    institutionCode := institutionCode
    jurisdiction := "CA"
    status := .approved
    riskTier := .low
    allowedAssets := [KCAD_TEST, KUSD_TEST]
    roles := [.operator, .auditor, .technicalAdmin] }

/-- `suspended`: the in-memory suspension resets `suspended_at`. -/
def suspended (now : DateTime) (i : Institution) : Institution :=
  { i with status := .suspended, suspendedAt := some now, updatedAt := now }

end Institution

inductive InstitutionCredentialType where
  | sandboxApiKey | mtlsCertificate | oidcClient
  deriving DecidableEq, Repr

inductive InstitutionCredentialStatus where
  | pending | active | retired | revoked
  deriving DecidableEq, Repr

structure InstitutionCredential where
  id : String
  institutionId : String
  credentialType : InstitutionCredentialType
  label : String
  fingerprint : String
  issuer : Option String
  subject : Option String
  expiresAt : Option DateTime
  status : InstitutionCredentialStatus
  createdAt : DateTime
  revokedAt : Option DateTime
  revocationReason : Option String
  deriving DecidableEq, Repr

def InstitutionCredential.new (s : Stamp) (institutionId : String)
    (credentialType : InstitutionCredentialType) (label fingerprint : String) :
    InstitutionCredential where
  id := s.id
  institutionId := institutionId
  credentialType := credentialType
  label := label
  fingerprint := fingerprint
  issuer := none
  subject := none
  expiresAt := none
  status := .active
  createdAt := s.now
  revokedAt := none
  revocationReason := none

structure InstitutionLimit where
  institutionId : String
  asset : String
  dailyLimit : Int
  perTransactionLimit : Int
  updatedAt : DateTime
  deriving DecidableEq, Repr

def InstitutionLimit.new (now : DateTime) (institutionId asset : String)
    (dailyLimit perTransactionLimit : Int) : InstitutionLimit where
  institutionId := institutionId
  asset := asset
  dailyLimit := dailyLimit
  perTransactionLimit := perTransactionLimit
  updatedAt := now

/-! ## Compliance cases -/

inductive ComplianceCaseStatus where
  | opened | assigned | evidenceRequested | escalated | approved | rejected | closed
  deriving DecidableEq, Repr

/-- The column text of a case status (`compliance_case_status_to_db`). -/
def ComplianceCaseStatus.toDb : ComplianceCaseStatus → String
  | .opened => "OPENED"
  | .assigned => "ASSIGNED"
  | .evidenceRequested => "EVIDENCE_REQUESTED"
  | .escalated => "ESCALATED"
  | .approved => "APPROVED"
  | .rejected => "REJECTED"
  | .closed => "CLOSED"

/-- `compliance_case_is_terminal`. -/
def ComplianceCaseStatus.isTerminal : ComplianceCaseStatus → Bool
  | .approved | .rejected | .closed => true
  | _ => false

structure ComplianceCase where
  id : String
  paymentId : String
  status : ComplianceCaseStatus
  policyVersion : String
  ruleId : String
  reason : String
  openedByInstitution : String
  assignedTo : Option String
  reviewer : Option String
  resolutionReason : Option String
  createdAt : DateTime
  updatedAt : DateTime
  resolvedAt : Option DateTime
  deriving DecidableEq, Repr

structure ComplianceCaseOpen where
  paymentId : String
  policyVersion : String
  ruleId : String
  reason : String
  openedByInstitution : String
  deriving DecidableEq, Repr

namespace ComplianceCase

def opened (s : Stamp) (request : ComplianceCaseOpen) : ComplianceCase where
  id := s.id
  paymentId := request.paymentId
  status := .opened
  policyVersion := request.policyVersion
  ruleId := request.ruleId
  reason := request.reason
  openedByInstitution := request.openedByInstitution
  assignedTo := none
  reviewer := none
  resolutionReason := none
  createdAt := s.now
  updatedAt := s.now
  resolvedAt := none

/-- The shared body of `approved` and `rejected`. -/
def resolved (status : ComplianceCaseStatus) (now : DateTime) (c : ComplianceCase)
    (reviewer reason : Option String) : ComplianceCase :=
  { c with
    status := status
    reviewer := reviewer
    resolutionReason := reason
    updatedAt := now
    resolvedAt := some now }

def approved (now : DateTime) (c : ComplianceCase) (reviewer reason : Option String) :
    ComplianceCase :=
  c.resolved .approved now reviewer reason

def rejected (now : DateTime) (c : ComplianceCase) (reviewer reason : Option String) :
    ComplianceCase :=
  c.resolved .rejected now reviewer reason

@[simp] theorem resolved_id (st : ComplianceCaseStatus) (now : DateTime)
    (c : ComplianceCase) (rv rs : Option String) : (c.resolved st now rv rs).id = c.id := rfl
@[simp] theorem resolved_paymentId (st : ComplianceCaseStatus) (now : DateTime)
    (c : ComplianceCase) (rv rs : Option String) :
    (c.resolved st now rv rs).paymentId = c.paymentId := rfl
@[simp] theorem resolved_status (st : ComplianceCaseStatus) (now : DateTime)
    (c : ComplianceCase) (rv rs : Option String) : (c.resolved st now rv rs).status = st := rfl

end ComplianceCase

/-! ## Transactions and payment records -/

inductive TransactionKind where
  | mint | burn | transfer
  deriving DecidableEq, Repr

/-- `transaction_kind_fingerprint_value`, also the column text of a kind. -/
def TransactionKind.label : TransactionKind → String
  | .mint => "MINT"
  | .burn => "BURN"
  | .transfer => "TRANSFER"

abbrev Metadata := BTreeMap String String

/-- A transaction; `from` and `to` carry their column names, `from` being
a keyword here. -/
structure Transaction where
  id : String
  fromAccount : String
  toAccount : String
  asset : String
  amount : Int
  nonce : Int
  signatures : List (List UInt8)
  kind : TransactionKind
  metadata : Metadata
  createdAt : DateTime
  deriving DecidableEq

namespace Transaction

def new (s : Stamp) (kind : TransactionKind) (fromAccount toAccount asset : String)
    (amount nonce : Int) : Transaction where
  id := s.id
  fromAccount := fromAccount
  toAccount := toAccount
  asset := asset
  amount := amount
  nonce := nonce
  signatures := []
  kind := kind
  metadata := .new
  createdAt := s.now

def newTransfer (s : Stamp) (fromAccount toAccount asset : String) (amount nonce : Int) :
    Transaction :=
  new s .transfer fromAccount toAccount asset amount nonce

def newMint (s : Stamp) (treasury toAccount asset : String) (amount nonce : Int) :
    Transaction :=
  new s .mint treasury toAccount asset amount nonce

def newBurn (s : Stamp) (fromAccount treasury asset : String) (amount nonce : Int) :
    Transaction :=
  new s .burn fromAccount treasury asset amount nonce

end Transaction

inductive TransactionStatus where
  | pending | held | finalized | rejected
  deriving DecidableEq, Repr

structure PaymentRecord where
  transaction : Transaction
  status : TransactionStatus
  blockHeight : Option Int
  blockHash : Option String
  failureReason : Option String
  clientReferenceId : Option String
  requestFingerprint : Option String
  createdAt : DateTime
  updatedAt : DateTime
  deriving DecidableEq

/-- `client_reference_id_from`. -/
def clientReferenceIdFrom (tx : Transaction) : Option String :=
  tx.metadata.get "client_reference_id"

/-- `request_fingerprint_from`. -/
def requestFingerprintFrom (tx : Transaction) : Option String :=
  tx.metadata.get "request_fingerprint"

namespace PaymentRecord

def pending (now : DateTime) (tx : Transaction) : PaymentRecord where
  transaction := tx
  status := .pending
  blockHeight := none
  blockHash := none
  failureReason := none
  clientReferenceId := clientReferenceIdFrom tx
  requestFingerprint := requestFingerprintFrom tx
  createdAt := now
  updatedAt := now

def finalized (now : DateTime) (tx : Transaction) (blockHeight : Int) (blockHash : String) :
    PaymentRecord where
  transaction := tx
  status := .finalized
  blockHeight := some blockHeight
  blockHash := some blockHash
  failureReason := none
  clientReferenceId := clientReferenceIdFrom tx
  requestFingerprint := requestFingerprintFrom tx
  createdAt := now
  updatedAt := now

def held (now : DateTime) (tx : Transaction) (reason : String) : PaymentRecord where
  transaction := tx
  status := .held
  blockHeight := none
  blockHash := none
  failureReason := some reason
  clientReferenceId := clientReferenceIdFrom tx
  requestFingerprint := requestFingerprintFrom tx
  createdAt := now
  updatedAt := now

def withClientReferenceId (p : PaymentRecord) (clientReferenceId : Option String) :
    PaymentRecord :=
  { p with clientReferenceId := clientReferenceId }

def withRequestFingerprint (p : PaymentRecord) (requestFingerprint : Option String) :
    PaymentRecord :=
  { p with requestFingerprint := requestFingerprint }

def markPending (now : DateTime) (p : PaymentRecord) : PaymentRecord :=
  { p with status := .pending, failureReason := none, updatedAt := now }

def markRejected (now : DateTime) (p : PaymentRecord) (reason : String) : PaymentRecord :=
  { p with status := .rejected, failureReason := some reason, updatedAt := now }

end PaymentRecord

/-! ## Journal, blocks, audit events -/

inductive JournalDirection where
  | debit | credit
  deriving DecidableEq, Repr

structure JournalEntry where
  id : String
  transactionId : String
  accountId : String
  asset : String
  amount : Int
  direction : JournalDirection
  blockHeight : Int
  createdAt : DateTime
  deriving DecidableEq, Repr

def JournalEntry.new (s : Stamp) (transactionId accountId asset : String) (amount : Int)
    (direction : JournalDirection) (blockHeight : Int) : JournalEntry where
  id := s.id
  transactionId := transactionId
  accountId := accountId
  asset := asset
  amount := amount
  direction := direction
  blockHeight := blockHeight
  createdAt := s.now

structure Block where
  height : Int
  prevHash : String
  txs : List Transaction
  validator : String
  signature : List UInt8
  hash : String
  finalizedBy : List String
  createdAt : DateTime
  deriving DecidableEq

namespace Block

def newUnsealed (now : DateTime) (height : Int) (prevHash : String) (txs : List Transaction)
    (validator : String) : Block where
  height := height
  prevHash := prevHash
  txs := txs
  validator := validator
  signature := []
  hash := ""
  finalizedBy := []
  createdAt := now

/-- `seal`, a keyword here. -/
def sealed (b : Block) (hash : String) (signature : List UInt8) (finalizedBy : List String) :
    Block :=
  { b with hash := hash, signature := signature, finalizedBy := finalizedBy }

/-- The block whose hash is checked: hash, signature and votes cleared. -/
def unsealed (b : Block) : Block :=
  { b with hash := "", signature := [], finalizedBy := [] }

@[simp] theorem unsealed_sealed (b : Block) (hash : String) (signature : List UInt8)
    (finalizedBy : List String) : (b.sealed hash signature finalizedBy).unsealed = b.unsealed :=
  rfl

@[simp] theorem unsealed_newUnsealed (now : DateTime) (height : Int) (prevHash : String)
    (txs : List Transaction) (validator : String) :
    (newUnsealed now height prevHash txs validator).unsealed =
      newUnsealed now height prevHash txs validator := rfl

end Block

structure AuditEvent where
  id : String
  eventType : String
  message : String
  metadata : Metadata
  blockHeight : Option Int
  transactionId : Option String
  createdAt : DateTime
  deriving DecidableEq

namespace AuditEvent

def new (s : Stamp) (eventType message : String) (blockHeight : Option Int)
    (transactionId : Option String) : AuditEvent where
  id := s.id
  eventType := eventType
  message := message
  metadata := .new
  blockHeight := blockHeight
  transactionId := transactionId
  createdAt := s.now

def withMetadata (e : AuditEvent) (metadata : Metadata) : AuditEvent :=
  { e with metadata := metadata }

end AuditEvent

end KaniNetwork
