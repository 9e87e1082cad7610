/-
KaniNetwork.Api.Reports — pages, payment responses and reports
(`kani-api`).

What the handlers make of what they read: a page of a list with the offset
of the next one, the response for a payment, its pacs.002 status, and the
three reports. A report counts over the blocks or the events it is given;
the counters are ordered maps, as in the source.
-/
import KaniNetwork.Api.Requests
import KaniNetwork.Node.Memory

namespace KaniNetwork

/-! ## Pages -/

structure PaginatedResponse (α : Type) where
  items : List α
  limit : Int
  offset : Int
  count : Nat
  nextOffset : Option Int
  deriving DecidableEq, Repr

/-- `from_limit_plus_one`: one item over the limit says that there are
more. -/
def PaginatedResponse.fromLimitPlusOne {α : Type} (items : List α) (limit offset : Int) :
    PaginatedResponse α :=
  let requested := limit.toNat
  let hasMore := requested < items.length
  let items := if hasMore then items.take requested else items
  { items := items
    limit := limit
    offset := offset
    count := items.length
    nextOffset := if hasMore then some (offset + limit) else none }

/-! ## Payments -/

structure PaymentResponse where
  paymentId : String
  transactionId : String
  status : TransactionStatus
  blockHeight : Option Int
  blockHash : Option String
  failureReason : Option String
  clientReferenceId : Option String
  deriving DecidableEq, Repr

/-- `From<PaymentRecord>`. -/
def PaymentResponse.ofRecord (record : PaymentRecord) : PaymentResponse where
  paymentId := record.transaction.id
  transactionId := record.transaction.id
  status := record.status
  blockHeight := record.blockHeight
  blockHash := record.blockHash
  failureReason := record.failureReason
  clientReferenceId := record.clientReferenceId

structure IsoPacs008PaymentResponse where
  messageType : String
  messageId : String
  instructionId : Option String
  endToEndId : String
  payment : PaymentResponse
  deriving DecidableEq, Repr

structure ComplianceCaseResponse where
  complianceCase : ComplianceCase
  payment : PaymentResponse
  deriving DecidableEq, Repr

/-- `original_pacs008_ids`: the ids before and after the last colon of a
pacs.008 reference. -/
def originalPacs008Ids (record : PaymentRecord) : Option (String × String) := do
  let referenceId ← record.clientReferenceId
  let payload ← stripPrefix referenceId "pacs.008:"
  let (messageId, endToEndId) ← rsplitOnce payload ':'
  if (trim messageId).isEmpty ∨ (trim endToEndId).isEmpty then none
  else some (trim messageId, trim endToEndId)

/-- `pacs002_transaction_status`. -/
def pacs002TransactionStatus : TransactionStatus → Pacs002TransactionStatus
  | .pending => .acceptedSettlementInProcess
  | .held => .acceptedSettlementInProcess
  | .finalized => .acceptedSettlementCompleted
  | .rejected => .rejected

/-- `pacs002_status_code`. -/
def pacs002StatusCode (status : TransactionStatus) : String :=
  (pacs002TransactionStatus status).code

/-- `pacs002_status_from_payment`, at the time `now`. -/
def pacs002StatusFromPayment (toRfc3339 : DateTime → String) (now : DateTime)
    (record : PaymentRecord) : Pacs002PaymentStatus :=
  let transaction := record.transaction
  let (originalMessageId, originalEndToEndId) :=
    (originalPacs008Ids record).getD
      (record.clientReferenceId.getD transaction.id, transaction.id)
  { messageId := "pacs.002:" ++ transaction.id ++ ":" ++ pacs002StatusCode record.status
    createdAt := toRfc3339 now
    originalMessageId := originalMessageId
    originalMessageNameId := "pacs.008.001.08"
    originalInstructionId := transaction.id
    originalEndToEndId := originalEndToEndId
    transactionId := transaction.id
    status := pacs002TransactionStatus record.status
    statusReason := record.failureReason
    asset := transaction.asset
    amount := transaction.amount
    debtorAccount := transaction.fromAccount
    creditorAccount := transaction.toAccount }

/-! ## Validators -/

structure ValidatorInfo where
  id : String
  publicKey : String
  active : Bool
  lastSeenAt : Option DateTime
  lastFinalizedHeight : Option Int
  lastFinalizedHash : Option String
  lastFinalizedAt : Option DateTime
  deriving DecidableEq, Repr

/-- The validators of the engine, active or not (`validators`). -/
def ConfiguredConsensusEngine.validators : ConfiguredConsensusEngine → List Validator
  | .poa engine => engine.validators
  | .bft engine => engine.validators

/-- `validators` without storage: no status is known of any of them. -/
def KaniNode.validators (n : KaniNode) : List ValidatorInfo :=
  n.consensus.validators.map fun validator => {
    id := validator.id
    publicKey := validator.publicKey
    active := validator.active
    lastSeenAt := none
    lastFinalizedHeight := none
    lastFinalizedHash := none
    lastFinalizedAt := none }

structure ValidatorResponse where
  id : String
  publicKey : String
  active : Bool
  lastSeenAt : Option String
  lastFinalizedHeight : Option Int
  lastFinalizedHash : Option String
  lastFinalizedAt : Option String
  deriving DecidableEq, Repr

def ValidatorResponse.ofInfo (toRfc3339 : DateTime → String) (validator : ValidatorInfo) :
    ValidatorResponse where
  id := validator.id
  publicKey := validator.publicKey
  active := validator.active
  lastSeenAt := validator.lastSeenAt.map toRfc3339
  lastFinalizedHeight := validator.lastFinalizedHeight
  lastFinalizedHash := validator.lastFinalizedHash
  lastFinalizedAt := validator.lastFinalizedAt.map toRfc3339

/-! ## Reports -/

/-- `add_amount`. -/
def addAmount (amounts : BTreeMap String Int) (asset : String) (amount : Int) :
    BTreeMap String Int :=
  amounts.insert asset ((amounts.get asset).getD 0 + amount)

/-- `increment_count`. -/
def incrementCount (counts : BTreeMap String Nat) (key : String) : BTreeMap String Nat :=
  counts.insert key ((counts.get key).getD 0 + 1)

structure SettlementSummaryReport where
  reportType : String
  environment : String
  realValue : Bool
  redeemable : Bool
  createdFrom : Option String
  createdTo : Option String
  scanLimit : Int
  scanOffset : Int
  blockCount : Nat
  transactionCount : Nat
  mintCount : Nat
  burnCount : Nat
  transferCount : Nat
  mintedAmountByAsset : BTreeMap String Int
  burnedAmountByAsset : BTreeMap String Int
  grossTransferAmountByAsset : BTreeMap String Int
  deriving DecidableEq

/-- What the loop of `build_settlement_summary_report` counts. -/
structure SettlementTotals where
  mintCount : Nat
  burnCount : Nat
  transferCount : Nat
  minted : BTreeMap String Int
  burned : BTreeMap String Int
  transferred : BTreeMap String Int
  deriving DecidableEq

def SettlementTotals.zero : SettlementTotals := ⟨0, 0, 0, .new, .new, .new⟩

/-- One transaction more. -/
def SettlementTotals.add (totals : SettlementTotals) (tx : Transaction) : SettlementTotals :=
  match tx.kind with
  | .mint =>
    { totals with
      mintCount := totals.mintCount + 1
      minted := addAmount totals.minted tx.asset tx.amount }
  | .burn =>
    { totals with
      burnCount := totals.burnCount + 1
      burned := addAmount totals.burned tx.asset tx.amount }
  | .transfer =>
    { totals with
      transferCount := totals.transferCount + 1
      transferred := addAmount totals.transferred tx.asset tx.amount }

/-- `build_settlement_summary_report`. -/
def buildSettlementSummaryReport (toRfc3339 : DateTime → String) (filter : ReportFilter)
    (blocks : List Block) : SettlementSummaryReport :=
  let totals := (blocks.flatMap Block.txs).foldl SettlementTotals.add .zero
  { reportType := "settlement_summary"
    environment := "SANDBOX"
    realValue := false
    redeemable := false
    createdFrom := filter.createdFrom.map toRfc3339
    createdTo := filter.createdTo.map toRfc3339
    scanLimit := filter.limit
    scanOffset := filter.offset
    blockCount := blocks.length
    transactionCount := totals.mintCount + totals.burnCount + totals.transferCount
    mintCount := totals.mintCount
    burnCount := totals.burnCount
    transferCount := totals.transferCount
    mintedAmountByAsset := totals.minted
    burnedAmountByAsset := totals.burned
    grossTransferAmountByAsset := totals.transferred }

structure ComplianceDecisionReport where
  reportType : String
  environment : String
  realValue : Bool
  redeemable : Bool
  createdFrom : Option String
  createdTo : Option String
  scanLimit : Int
  scanOffset : Int
  eventCount : Nat
  decisionsByDecision : BTreeMap String Nat
  decisionsByRuleId : BTreeMap String Nat
  decisionsByInstitution : BTreeMap String Nat
  latestEventAt : Option String
  deriving DecidableEq

/-- Count the events by a metadata entry, `UNKNOWN` where it is missing. -/
def countByMetadata (key : String) (events : List AuditEvent) : BTreeMap String Nat :=
  events.foldl (fun counts event =>
    incrementCount counts ((event.metadata.get key).getD "UNKNOWN")) .new

/-- The latest creation time, kept up as the loop does. -/
def latestCreatedAt (events : List AuditEvent) : Option DateTime :=
  events.foldl (fun latest event =>
    match latest with
    | none => some event.createdAt
    | some time => if time < event.createdAt then some event.createdAt else some time) none

/-- `build_compliance_decision_report`. -/
def buildComplianceDecisionReport (toRfc3339 : DateTime → String) (filter : ReportFilter)
    (events : List AuditEvent) : ComplianceDecisionReport where
  reportType := "compliance_decisions"
  environment := "SANDBOX"
  realValue := false
  redeemable := false
  createdFrom := filter.createdFrom.map toRfc3339
  createdTo := filter.createdTo.map toRfc3339
  scanLimit := filter.limit
  scanOffset := filter.offset
  eventCount := events.length
  decisionsByDecision := countByMetadata "decision" events
  decisionsByRuleId := countByMetadata "rule_id" events
  decisionsByInstitution := countByMetadata "institution_id" events
  latestEventAt := (latestCreatedAt events).map toRfc3339

structure ValidatorFinalityRow where
  id : String
  active : Bool
  producedBlocks : Nat
  finalityVotes : Nat
  lastSeenAt : Option String
  lastFinalizedHeight : Option Int
  lastFinalizedHash : Option String
  lastFinalizedAt : Option String
  deriving DecidableEq, Repr

structure ValidatorFinalityReport where
  reportType : String
  environment : String
  realValue : Bool
  redeemable : Bool
  createdFrom : Option String
  createdTo : Option String
  scanLimit : Int
  scanOffset : Int
  activeValidatorCount : Nat
  requiredFinalityVotes : Nat
  blockCount : Nat
  transactionCount : Nat
  finalizedBlockCount : Nat
  blocksBelowThreshold : Nat
  validators : List ValidatorFinalityRow
  deriving DecidableEq, Repr

/-- `required_phase1_finality_votes`. -/
def requiredPhase1FinalityVotes (activeValidatorCount : Nat) : Nat :=
  if activeValidatorCount = 0 then 0 else (activeValidatorCount * 2 + 2) / 3

/-- `build_validator_finality_report`. -/
def buildValidatorFinalityReport (toRfc3339 : DateTime → String) (filter : ReportFilter)
    (blocks : List Block) (validators : List ValidatorInfo) : ValidatorFinalityReport :=
  let activeValidatorCount := (validators.filter ValidatorInfo.active).length
  let required := requiredPhase1FinalityVotes activeValidatorCount
  let producedBlocks := blocks.foldl (fun counts block => incrementCount counts block.validator) .new
  let finalityVotes := (blocks.flatMap Block.finalizedBy).foldl incrementCount .new
  { reportType := "validator_finality"
    environment := "SANDBOX"
    realValue := false
    redeemable := false
    createdFrom := filter.createdFrom.map toRfc3339
    createdTo := filter.createdTo.map toRfc3339
    scanLimit := filter.limit
    scanOffset := filter.offset
    activeValidatorCount := activeValidatorCount
    requiredFinalityVotes := required
    blockCount := blocks.length
    transactionCount := (blocks.map fun block => block.txs.length).sum
    finalizedBlockCount := (blocks.filter fun block => required ≤ block.finalizedBy.length).length
    blocksBelowThreshold := (blocks.filter fun block => block.finalizedBy.length < required).length
    validators := validators.map fun validator => {
      id := validator.id
      active := validator.active
      producedBlocks := (producedBlocks.get validator.id).getD 0
      finalityVotes := (finalityVotes.get validator.id).getD 0
      lastSeenAt := validator.lastSeenAt.map toRfc3339
      lastFinalizedHeight := validator.lastFinalizedHeight
      lastFinalizedHash := validator.lastFinalizedHash
      lastFinalizedAt := validator.lastFinalizedAt.map toRfc3339 } }

end KaniNetwork
