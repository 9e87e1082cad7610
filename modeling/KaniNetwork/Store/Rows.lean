/-
KaniNetwork.Store.Rows — what the columns of the database hold
(`migrations/`).

A row is written from a value of the program and read back into one.
Between the two, a timestamp is rounded to microseconds, so the row of a
value is its `stored` form. Transactions and blocks have row
types of their own: a transaction row flattens a payment record, its
`created_at` column is the one of the record and is read back into the
transaction, and a block row has no transactions; they are found through
their `block_height`.

The types of the columns refuse some values: `NUMERIC(38, 0)` long numbers,
`TEXT` and `JSONB` the character U+0000, `UUID` what does not spell a uuid.
The ids the programs draw are uuids in the spelling the column writes. An
index refuses texts that do not fit its pages.
-/
import KaniNetwork.Base.Uuid
import KaniNetwork.Types.Core
import KaniNetwork.Ledger.InMemory

namespace KaniNetwork

/-- The beginning of 2000, from which `TIMESTAMPTZ` counts. -/
def POSTGRES_EPOCH : DateTime := 946684800 * 10 ^ 9

/-- What a `TIMESTAMPTZ` column gets of a timestamp: whole microseconds, cut
towards the beginning of 2000. -/
def timestamptz (t : DateTime) : DateTime :=
  if POSTGRES_EPOCH ≤ t then t - t % 1000 else t + (-t) % 1000

theorem timestamptz_eq_iff {t : DateTime} : timestamptz t = t ↔ t % 1000 = 0 := by
  have hdown : ∀ n : Int, n - n % 1000 = n ↔ n % 1000 = 0 := by omega
  have hup : ∀ n : Int, n + (-n) % 1000 = n ↔ n % 1000 = 0 := by omega
  unfold timestamptz
  split
  · exact hdown t
  · exact hup t

@[simp] theorem timestamptz_timestamptz (t : DateTime) :
    timestamptz (timestamptz t) = timestamptz t := by
  have hdown : ∀ n : Int, (n - n % 1000) % 1000 = 0 := by omega
  have hup : ∀ n : Int, (n + (-n) % 1000) % 1000 = 0 := by omega
  rw [timestamptz_eq_iff, timestamptz]
  split
  · exact hdown t
  · exact hup t

def Account.stored (a : Account) : Account :=
  { a with createdAt := timestamptz a.createdAt }

def Institution.stored (i : Institution) : Institution :=
  { i with
    createdAt := timestamptz i.createdAt
    approvedAt := i.approvedAt.map timestamptz
    suspendedAt := i.suspendedAt.map timestamptz
    updatedAt := timestamptz i.updatedAt }

def InstitutionCredential.stored (c : InstitutionCredential) : InstitutionCredential :=
  { c with
    expiresAt := c.expiresAt.map timestamptz
    createdAt := timestamptz c.createdAt
    revokedAt := c.revokedAt.map timestamptz }

def InstitutionLimit.stored (l : InstitutionLimit) : InstitutionLimit :=
  { l with updatedAt := timestamptz l.updatedAt }

def ComplianceCase.stored (c : ComplianceCase) : ComplianceCase :=
  { c with
    createdAt := timestamptz c.createdAt
    updatedAt := timestamptz c.updatedAt
    resolvedAt := c.resolvedAt.map timestamptz }

def JournalEntry.stored (e : JournalEntry) : JournalEntry :=
  { e with createdAt := timestamptz e.createdAt }

def AuditEvent.stored (e : AuditEvent) : AuditEvent :=
  { e with createdAt := timestamptz e.createdAt }

/-- A row of `blocks`. -/
structure BlockRow where
  height : Int
  prevHash : String
  hash : String
  validator : String
  signature : List UInt8
  finalizedBy : List String
  createdAt : DateTime
  deriving DecidableEq, Repr

def BlockRow.ofBlock (b : Block) : BlockRow where
  height := b.height
  prevHash := b.prevHash
  hash := b.hash
  validator := b.validator
  signature := b.signature
  finalizedBy := b.finalizedBy
  createdAt := timestamptz b.createdAt

/-- `block_from_row`. -/
def BlockRow.toBlock (r : BlockRow) (txs : List Transaction) : Block where
  height := r.height
  prevHash := r.prevHash
  txs := txs
  validator := r.validator
  signature := r.signature
  hash := r.hash
  finalizedBy := r.finalizedBy
  createdAt := r.createdAt

/-- A row of `transactions`. -/
structure TransactionRow where
  id : String
  blockHeight : Option Int
  fromAccount : String
  toAccount : String
  asset : String
  amount : Int
  nonce : Int
  kind : TransactionKind
  status : TransactionStatus
  signatures : List (List UInt8)
  metadata : Metadata
  failureReason : Option String
  clientReferenceId : Option String
  requestFingerprint : Option String
  createdAt : DateTime
  updatedAt : DateTime
  deriving DecidableEq

namespace TransactionRow

def ofPayment (p : PaymentRecord) : TransactionRow where
  id := p.transaction.id
  blockHeight := p.blockHeight
  fromAccount := p.transaction.fromAccount
  toAccount := p.transaction.toAccount
  asset := p.transaction.asset
  amount := p.transaction.amount
  nonce := p.transaction.nonce
  kind := p.transaction.kind
  status := p.status
  signatures := p.transaction.signatures
  metadata := p.transaction.metadata
  failureReason := p.failureReason
  clientReferenceId := p.clientReferenceId
  requestFingerprint := p.requestFingerprint
  createdAt := timestamptz p.createdAt
  updatedAt := timestamptz p.updatedAt

/-- `transaction_from_row`. -/
def toTransaction (r : TransactionRow) : Transaction where
  id := r.id
  fromAccount := r.fromAccount
  toAccount := r.toAccount
  asset := r.asset
  amount := r.amount
  nonce := r.nonce
  signatures := r.signatures
  kind := r.kind
  metadata := r.metadata
  createdAt := r.createdAt

/-- `payment_from_row`; `blockHash` is the hash of the block joined on
`block_height`. -/
def toPayment (r : TransactionRow) (blockHash : Option String) : PaymentRecord where
  transaction := r.toTransaction
  status := r.status
  blockHeight := r.blockHeight
  blockHash := blockHash
  failureReason := r.failureReason
  clientReferenceId := r.clientReferenceId
  requestFingerprint := r.requestFingerprint
  createdAt := r.createdAt
  updatedAt := r.updatedAt

/-- The order of `ORDER BY created_at, id`. -/
def Before (r r' : TransactionRow) : Prop :=
  r.createdAt < r'.createdAt ∨ (r.createdAt = r'.createdAt ∧ r.id ≤ r'.id)

instance : DecidableRel Before := fun _ _ => inferInstanceAs (Decidable (_ ∨ _))

@[simp] theorem toPayment_transaction (r : TransactionRow) (h : Option String) :
    (r.toPayment h).transaction = r.toTransaction := rfl
@[simp] theorem toPayment_status (r : TransactionRow) (h : Option String) :
    (r.toPayment h).status = r.status := rfl
@[simp] theorem toTransaction_id (r : TransactionRow) : r.toTransaction.id = r.id := rfl
@[simp] theorem ofPayment_id (p : PaymentRecord) : (ofPayment p).id = p.transaction.id := rfl
@[simp] theorem ofPayment_status (p : PaymentRecord) : (ofPayment p).status = p.status := rfl
@[simp] theorem ofPayment_blockHeight (p : PaymentRecord) :
    (ofPayment p).blockHeight = p.blockHeight := rfl

end TransactionRow

structure ValidatorStatus where
  validatorId : String
  lastSeenAt : DateTime
  lastFinalizedHeight : Option Int
  lastFinalizedHash : Option String
  lastFinalizedAt : Option DateTime
  deriving DecidableEq, Repr

/-! ## Sorting -/

/-- How `ORDER BY` compares texts: whether the first comes before the second or
with it. -/
abbrev Collation := String → String → Bool

/-- The order of the bytes. -/
def Collation.bytes : Collation := fun a b => a ≤ b

/-- `ORDER BY` two texts. -/
def Collation.pair (collation : Collation) (a b : String × String) : Bool :=
  if a.1 = b.1 then collation a.2 b.2 else collation a.1 b.1

/-! ## Settings -/

/-- How a database is set up. An index entry has to fit a third of a page;
`longEntries` are the entries of more than 2600 bytes that do, which depends
on how they are compressed. -/
structure Settings where
  collation : Collation
  longEntries : List String → Bool

/-- Texts are sorted by their bytes, and long entries never fit. -/
def Settings.plain : Settings := ⟨.bytes, fun _ => false⟩

/-! ## Column constraints -/

/-- A value of the type `NUMERIC(38, 0)`. -/
def numericOk (n : Int) : Bool := -10 ^ 38 < n && n < 10 ^ 38

/-- The asset code format, `^[A-Z0-9_]{3,32}$`. -/
def assetCodeOk (asset : String) : Bool :=
  3 ≤ asset.toList.length && asset.toList.length ≤ 32 &&
    asset.toList.all fun c => ('A' ≤ c && c ≤ 'Z') || ('0' ≤ c && c ≤ '9') || c = '_'

example : assetCodeOk KCAD_TEST = true := by decide

/-- A value of the type `TEXT`, or a string within `JSONB`. -/
def isText (s : String) : Bool := (utf8Bytes s).all (· ≠ 0)

theorem isText_iff {s : String} : isText s = true ↔ '\x00' ∉ s.toList := by
  simp only [isText, List.all_eq_true, decide_eq_true_eq, ← zero_mem_utf8Bytes]
  exact ⟨fun h hzero => h 0 hzero rfl, fun h b hb hzero => h (hzero ▸ hb)⟩

/-- An asset code has no other characters. -/
theorem isText_of_assetCodeOk {asset : String} (h : assetCodeOk asset = true) :
    isText asset = true := by
  simp only [assetCodeOk, Bool.and_eq_true, List.all_eq_true] at h
  exact isText_iff.mpr fun hzero => absurd (h.2 _ hzero) (by decide)

/-- A uuid, spelled the way the column writes it. -/
def uuidOk (s : String) : Bool := uuidIn s = some s

theorem uuidOk_numbered (tag : String) (now : DateTime) (path : List Nat) :
    uuidOk (Draws.numbered tag now path).id = true :=
  decide_eq_true (uuidIn_uuidNamed _)

def shortEntry (texts : List String) : Bool := (texts.map String.utf8ByteSize).sum ≤ 2600

/-- The texts of an index entry that fits. -/
def Settings.indexOk (settings : Settings) (texts : List String) : Bool :=
  shortEntry texts || settings.longEntries texts

theorem Settings.indexOk_of_short {settings : Settings} {texts : List String}
    (h : shortEntry texts = true) : settings.indexOk texts = true := by
  rw [indexOk, h, Bool.true_or]

def metadataOk (m : Metadata) : Bool :=
  m.entries.all fun (key, value) => isText key && isText value

theorem metadataOk_insert {m : Metadata} {key value : String} (h : metadataOk m = true)
    (hkey : isText key = true) (hvalue : isText value = true) :
    metadataOk (m.insert key value) = true := by
  simp only [metadataOk, List.all_eq_true, Bool.and_eq_true] at h ⊢
  intro e he
  rcases BTreeMap.mem_insertEntry he with rfl | he
  · exact ⟨hkey, hvalue⟩
  · exact h e he

def TransactionRow.textOk (r : TransactionRow) (settings : Settings) : Bool :=
  uuidOk r.id && isText r.fromAccount && isText r.toAccount && isText r.asset
    && metadataOk r.metadata && r.failureReason.all isText && r.clientReferenceId.all isText
    && r.requestFingerprint.all isText && settings.indexOk r.clientReferenceId.toList
    && settings.indexOk r.requestFingerprint.toList

def Institution.textOk (i : Institution) (settings : Settings) : Bool :=
  isText i.id && isText i.legalName && isText i.institutionCode && isText i.jurisdiction
    && i.allowedAssets.all isText && settings.indexOk [i.id]
    && settings.indexOk [i.institutionCode]

def InstitutionLimit.textOk (l : InstitutionLimit) (settings : Settings) : Bool :=
  isText l.institutionId && isText l.asset && settings.indexOk [l.institutionId, l.asset]

/-- The texts of a credential, its id apart. -/
def InstitutionCredential.textOk (c : InstitutionCredential) (settings : Settings) : Bool :=
  isText c.institutionId && isText c.label && isText c.fingerprint && c.issuer.all isText
    && c.subject.all isText && c.revocationReason.all isText
    && settings.indexOk [c.institutionId, c.fingerprint]

/-- The texts of a review. -/
def ComplianceCase.verdictTextOk (c : ComplianceCase) : Bool :=
  c.reviewer.all isText && c.resolutionReason.all isText

def ComplianceCaseOpen.textOk (c : ComplianceCaseOpen) : Bool :=
  isText c.policyVersion && isText c.ruleId && isText c.reason && isText c.openedByInstitution

def ComplianceCase.textOk (c : ComplianceCase) : Bool :=
  uuidOk c.id && uuidOk c.paymentId && isText c.policyVersion && isText c.ruleId
    && isText c.reason && isText c.openedByInstitution && c.assignedTo.all isText
    && c.verdictTextOk

def AuditEvent.textOk (e : AuditEvent) : Bool :=
  uuidOk e.id && isText e.eventType && isText e.message && metadataOk e.metadata
    && e.transactionId.all uuidOk

end KaniNetwork
