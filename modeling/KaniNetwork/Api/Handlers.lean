/-
KaniNetwork.Api.Handlers — the handlers of the HTTP API over a node without
storage (`kani-api`).

A handler runs on the ledger of the node and ends in a response or an
`ApiError`; every read and every call of the node takes the ledger as it is
at that point. The order of validation, authorization, audit event and
action is that of the source, handler by handler. Handlers of one shape are
kept apart, each with its own action, resource and query.
-/
import KaniNetwork.Api.Auth
import KaniNetwork.Api.Reports
import KaniNetwork.Node.Registry

namespace KaniNetwork

open InMemoryLedger

def SANDBOX_COMPLIANCE_POLICY_VERSION : String := "sandbox-stp-v1"

/-! ## Texts -/

/-- The `Debug` text of a case status. -/
def ComplianceCaseStatus.debug : ComplianceCaseStatus → String
  | .opened => "Opened"
  | .assigned => "Assigned"
  | .evidenceRequested => "EvidenceRequested"
  | .escalated => "Escalated"
  | .approved => "Approved"
  | .rejected => "Rejected"
  | .closed => "Closed"

/-- The `Debug` text of a payment status. -/
def TransactionStatus.debug : TransactionStatus → String
  | .pending => "Pending"
  | .held => "Held"
  | .finalized => "Finalized"
  | .rejected => "Rejected"

/-- The `Debug` text of a credential type. -/
def InstitutionCredentialType.debug : InstitutionCredentialType → String
  | .sandboxApiKey => "SandboxApiKey"
  | .mtlsCertificate => "MtlsCertificate"
  | .oidcClient => "OidcClient"

/-- The `Debug` text of a credential status. -/
def InstitutionCredentialStatus.debug : InstitutionCredentialStatus → String
  | .pending => "Pending"
  | .active => "Active"
  | .retired => "Retired"
  | .revoked => "Revoked"

/-! ## Responses -/

structure HealthResponse where
  service : String
  status : String
  environment : String
  realValue : Bool
  redeemable : Bool
  deriving DecidableEq, Repr

structure InstitutionProfileResponse where
  institution : Institution
  credentials : List InstitutionCredential
  limits : List InstitutionLimit
  deriving DecidableEq, Repr

structure BalanceResponse where
  accountId : String
  asset : String
  amount : Int
  deriving DecidableEq, Repr

structure IssuedResponse where
  asset : String
  amount : Int
  deriving DecidableEq, Repr

/-- The body of a response: the value that is serialised, an XML document,
or the text of an error. `openapi` is the constant document of the API,
`rejection` whatever the framework answers by itself. -/
inductive ResponseBody where
  | health (response : HealthResponse)
  | openapi
  | payment (response : PaymentResponse)
  | isoPacs008Payment (response : IsoPacs008PaymentResponse)
  | xml (document : String)
  | institutions (institutions : List Institution)
  | institution (institution : Institution)
  | institutionProfile (response : InstitutionProfileResponse)
  | institutionCredential (credential : InstitutionCredential)
  | institutionLimit (limit : InstitutionLimit)
  | complianceCases (page : PaginatedResponse ComplianceCase)
  | complianceCase (response : ComplianceCaseResponse)
  | accounts (accounts : List Account)
  | balance (response : BalanceResponse)
  | issued (response : IssuedResponse)
  | transactions (page : PaginatedResponse Transaction)
  | block (block : Block)
  | blocks (page : PaginatedResponse Block)
  | auditEvents (page : PaginatedResponse AuditEvent)
  | settlementSummary (report : SettlementSummaryReport)
  | complianceDecisions (report : ComplianceDecisionReport)
  | validatorFinality (report : ValidatorFinalityReport)
  | validators (validators : List ValidatorResponse)
  | error (text : String)
  | rejection

structure Response where
  status : Nat
  body : ResponseBody

/-- `into_response` of an error. -/
def ApiError.intoResponse (error : ApiError) : Response := ⟨error.statusCode, .error error.message⟩

/-! ## Events -/

/-- What a payment request is screened as. -/
def ValidatedPaymentRequest.compliancePayment (request : ValidatedPaymentRequest) :
    CompliancePayment where
  fromAccount := request.fromAccount
  toAccount := request.toAccount
  asset := request.asset
  amount := request.amount

/-- The event of `audit_compliance_decision`. -/
def complianceDecisionEvent (s : Stamp) (headers : HeaderMap) (auth : AuthenticatedInstitution)
    (action resource : String) (payment : CompliancePayment) (result : ComplianceResult) :
    AuditEvent :=
  let metadata := BTreeMap.new
    |>.insert "action" action
    |>.insert "amount" (toString payment.amount)
    |>.insert "asset" payment.asset
    |>.insert "decision" result.decision.debug
    |>.insert "from" payment.fromAccount
    |>.insert "institution_id" auth.institutionId
    |>.insert "reason" result.reason
    |>.insert "resource" resource
    |>.insert "role" (authRole auth)
    |>.insert "rule_id" result.ruleId
    |>.insert "to" payment.toAccount
    |>.insert "request_institution_hint" ((institutionHint headers).getD "")
  (AuditEvent.new s "COMPLIANCE_DECISION"
    ("compliance decision decision=" ++ result.decision.debug ++ " rule_id=" ++ result.ruleId
      ++ " action=" ++ action ++ " from=" ++ payment.fromAccount ++ " to=" ++ payment.toAccount
      ++ " asset=" ++ payment.asset ++ " amount=" ++ toString payment.amount)
    none none).withMetadata metadata

/-- Put an entry when there is a value. -/
def insertSome (metadata : Metadata) (key : String) : Option String → Metadata
  | none => metadata
  | some value => metadata.insert key value

/-- The event of `audit_compliance_case_event`; every caller has the
payment. -/
def complianceCaseEvent (s : Stamp) (auth : AuthenticatedInstitution) (eventType : String)
    (complianceCase : ComplianceCase) (payment : PaymentRecord) (message : String) : AuditEvent :=
  let metadata := BTreeMap.new
    |>.insert "case_id" complianceCase.id
    |>.insert "case_status" complianceCase.status.debug
    |>.insert "institution_id" complianceCase.openedByInstitution
    |>.insert "operator_institution_id" auth.institutionId
    |>.insert "policy_version" complianceCase.policyVersion
    |>.insert "reason" complianceCase.reason
    |>.insert "role" (authRole auth)
    |>.insert "rule_id" complianceCase.ruleId
  let metadata := insertSome metadata "reviewer" complianceCase.reviewer
  let metadata := insertSome metadata "resolution_reason" complianceCase.resolutionReason
  let metadata := metadata.insert "payment_status" payment.status.debug
  (AuditEvent.new s eventType message payment.blockHeight
    (some complianceCase.paymentId)).withMetadata metadata

/-- The event of `audit_institution_event`. -/
def institutionEvent (s : Stamp) (auth : AuthenticatedInstitution) (eventType institutionId message :
    String) (metadata : Metadata) : AuditEvent :=
  let metadata := metadata
    |>.insert "actor_institution_id" auth.institutionId
    |>.insert "actor_role" (authRole auth)
    |>.insert "institution_id" institutionId
  (AuditEvent.new s eventType message none none).withMetadata metadata

namespace AppState

variable (state : AppState)

/-! ## Open to all -/

def health : Handler Response := return ⟨200, .health {
  service := "kani-api"
  status := "ok"
  environment := "SANDBOX"
  realValue := false
  redeemable := false }⟩

/-- `openapi_json`. -/
def openapiJson : Handler Response := return ⟨200, .openapi⟩

/-! ## Payments -/

/-- `enforce_payment_compliance`: none to go on, a result to review. -/
def enforcePaymentCompliance (s : Stamp) (headers : HeaderMap) (auth : AuthenticatedInstitution)
    (action resource : String) (request : ValidatedPaymentRequest) :
    Handler (Option ComplianceResult) := do
  let payment := request.compliancePayment
  let result := screenSandboxPaymentWithPolicy state.compliancePolicy payment
  recordAuditEvent (complianceDecisionEvent s headers auth action resource payment result)
  match result.decision with
  | .allow => return none
  | .review => return some result
  | .reject =>
    .throw (.forbidden ("compliance decision " ++ result.decision.debug ++ " by " ++ result.ruleId
      ++ ": " ++ result.reason))

/-- `submit_validated_payment`. -/
def submitValidatedPayment (d : Draws) (headers : HeaderMap) (request : ValidatedPaymentRequest)
    (action : String) : Handler PaymentResponse := do
  let resource := "account:" ++ request.fromAccount
  let (auth, _) ← state.authorizeRequest (d.sub 0).stamp headers action resource fun l auth =>
    state.authorizeAccountControl l auth request.fromAccount
  let l ← .get
  let _ ← .ofExcept (ensureAccountExists l request.toAccount)
  let clientReferenceId ←
    .ofExcept (normalizedClientReferenceId request.clientReferenceId request.idempotencyKey)
  let review ←
    state.enforcePaymentCompliance (d.sub 1).stamp headers auth action resource request
  match review with
  | some result => do
    let caseOpen := {
      paymentId := ""
      policyVersion := SANDBOX_COMPLIANCE_POLICY_VERSION
      ruleId := result.ruleId
      reason := result.reason
      openedByInstitution := auth.institutionId }
    let (payment, complianceCase) ← state.callNode
      (state.node.holdPaymentForReview (d.sub 2) request.fromAccount request.toAccount request.asset
        request.amount clientReferenceId caseOpen)
    recordAuditEvent (complianceCaseEvent (d.sub 3).stamp auth "COMPLIANCE_CASE_OPENED"
      complianceCase payment
      ("compliance case " ++ complianceCase.id ++ " opened for payment " ++ payment.transaction.id))
    return .ofRecord payment
  | none => do
    let payment ← state.callNode
      (state.node.submitPayment (d.sub 2) request.fromAccount request.toAccount request.asset
        request.amount clientReferenceId)
    return .ofRecord payment

def createPayment (d : Draws) (headers : HeaderMap) (request : CreatePaymentRequest) :
    Handler Response := do
  let request ← .ofExcept request.validate
  let response ← state.submitValidatedPayment d headers request "create_payment"
  return ⟨201, .payment response⟩

/-- The two steps from the body of a pacs.008 message to a payment
request. -/
def readPacs008 (body : String) :
    Except ApiError (Pacs008CreditTransfer × ValidatedPaymentRequest) := do
  let transfer ←
    (parsePacs008CreditTransfer state.libraries.parseXml body).mapError .ofIso20022Error
  let request ← pacs008TransferRequest transfer
  return (transfer, request)

/-- `create_pacs008_payment`. -/
def createPacs008Payment (d : Draws) (headers : HeaderMap) (body : String) : Handler Response := do
  let (transfer, request) ← .ofExcept (state.readPacs008 body)
  let payment ← state.submitValidatedPayment d headers request "submit_iso20022_pacs008"
  return ⟨201, .isoPacs008Payment {
    messageType := "pacs.008"
    messageId := transfer.messageId
    instructionId := transfer.instructionId
    endToEndId := transfer.endToEndId
    payment := payment }⟩

/-- `read_authorized_payment`: an unknown payment is answered before the
caller's right to it is looked at. -/
def readAuthorizedPayment (d : Draws) (headers : HeaderMap) (id action : String) :
    Handler PaymentRecord := do
  let resource := "payment:" ++ id
  let auth ← state.authenticateRequest (d.sub 0).stamp headers action resource
  let l ← .get
  let record ← .ofExcept ((l.getPayment id).mapError fun
    | .unknownPayment _ => .notFound ("payment " ++ id ++ " not found")
    | other => .ofNodeError state.libraries.sqlxMessage (.ledger other))
  auditAuthorization (d.sub 0).stamp headers auth action resource (authorizePaymentRead l auth record)
  return record

def getPayment (d : Draws) (headers : HeaderMap) (id : String) : Handler Response := do
  let record ← state.readAuthorizedPayment d headers id "read_payment"
  return ⟨200, .payment (.ofRecord record)⟩

def getPacs002Status (d : Draws) (headers : HeaderMap) (paymentId : String) : Handler Response := do
  let record ← state.readAuthorizedPayment d headers paymentId "read_iso20022_pacs002"
  let status := pacs002StatusFromPayment state.libraries.toRfc3339 (d.sub 1).stamp.now record
  return ⟨200, .xml (buildPacs002StatusReport status)⟩

def getCamt053Statement (d : Draws) (headers : HeaderMap) (accountId : String)
    (query : Camt053StatementQuery) : Handler Response := do
  let filter ← .ofExcept (Camt053StatementFilter.tryFromQuery query)
  let resource := "account:" ++ accountId ++ ":camt053:" ++ filter.asset
  let _ ← state.authorizeRequest (d.sub 0).stamp headers "read_iso20022_camt053" resource
    fun l auth => state.authorizeAccountRead l auth accountId
  let l ← .get
  let statement := camt053Statement state.libraries.toRfc3339 (d.sub 1).stamp.now l accountId filter
  return ⟨200, .xml (buildCamt053Statement statement)⟩

def sandboxMint (d : Draws) (headers : HeaderMap) (request : SandboxMintRequest) :
    Handler Response := do
  let request ← .ofExcept request.validate
  let resource := "account:" ++ request.treasury
  let _ ← state.authorizeRequest (d.sub 0).stamp headers "sandbox_mint" resource fun l auth =>
    state.authorizeTreasury l auth request.treasury
  let l ← .get
  let _ ← .ofExcept (ensureAccountExists l request.toAccount)
  let payment ← state.callNode
    (state.node.mintSandbox (d.sub 1) request.treasury request.toAccount request.asset
      request.amount)
  return ⟨201, .payment (.ofRecord payment)⟩

/-! ## Institutions -/

def getInstitutions (d : Draws) (headers : HeaderMap) : Handler Response := do
  let resource := "network:institutions"
  let _ ← state.authorizeAdminRequest (d.sub 0).stamp headers "read_institutions" resource
  let l ← .get
  return ⟨200, .institutions l.sortedInstitutions⟩

/-- `institution_profile`. -/
def institutionProfile (l : InMemoryLedger) (institutionId : String) :
    Except ApiError InstitutionProfileResponse := do
  let institution ← state.ofLedger (l.getInstitution institutionId)
  let credentials ← state.ofLedger
    ((l.institutionCredentialsOf institutionId).elim (.error (.unknownInstitution institutionId)) .ok)
  let limits ← state.ofLedger
    ((l.institutionLimitsOf institutionId).elim (.error (.unknownInstitution institutionId)) .ok)
  return { institution := institution, credentials := credentials, limits := limits }

def getInstitution (d : Draws) (headers : HeaderMap) (id : String) : Handler Response := do
  let institutionId ← .ofExcept (normalizeInstitutionId id)
  let resource := "institution:" ++ institutionId
  let _ ← state.authorizeAdminRequest (d.sub 0).stamp headers "read_institution" resource
  let l ← .get
  let profile ← .ofExcept (state.institutionProfile l institutionId)
  return ⟨200, .institutionProfile profile⟩

def createInstitution (d : Draws) (headers : HeaderMap) (request : CreateInstitutionRequest) :
    Handler Response := do
  let request ← .ofExcept request.validate
  let resource := "institution:" ++ request.id
  let auth ← state.authorizeAdminRequest (d.sub 0).stamp headers "create_institution" resource
  let institution := Institution.new (d.sub 1).stamp.now {
    id := request.id
    legalName := request.legalName
    institutionCode := request.institutionCode
    jurisdiction := request.jurisdiction
    status := .requested
    riskTier := request.riskTier
    allowedAssets := request.allowedAssets
    roles := request.roles }
  Method.modify (·.upsertInstitution institution)
  recordAuditEvent (institutionEvent (d.sub 2).stamp auth "INSTITUTION_ONBOARDING_REQUESTED"
    institution.id ("institution " ++ institution.id ++ " onboarding requested")
    (BTreeMap.new
      |>.insert "institution_id" institution.id
      |>.insert "institution_code" institution.institutionCode
      |>.insert "status" "REQUESTED"))
  return ⟨201, .institution institution⟩

def createInstitutionCredential (d : Draws) (headers : HeaderMap) (id : String)
    (request : CreateInstitutionCredentialRequest) : Handler Response := do
  let institutionId ← .ofExcept (normalizeInstitutionId id)
  let request ← .ofExcept request.validate
  let resource := "institution:" ++ institutionId ++ ":credential"
  let auth ←
    state.authorizeAdminRequest (d.sub 0).stamp headers "create_institution_credential" resource
  let l ← .get
  let _ ← .ofExcept (state.ofLedger (l.getInstitution institutionId))
  let credential := InstitutionCredential.new (d.sub 1).stamp institutionId request.credentialType
    request.label request.fingerprint
  let credential := { credential with
    issuer := request.issuer
    subject := request.subject
    expiresAt := request.expiresAt
    status := .active }
  let credential ← state.callNode ((addInstitutionCredential credential).mapError .ledger)
  recordAuditEvent (institutionEvent (d.sub 2).stamp auth "INSTITUTION_CREDENTIAL_CREATED"
    institutionId ("credential " ++ credential.id ++ " created for institution " ++ institutionId)
    (BTreeMap.new
      |>.insert "credential_id" credential.id
      |>.insert "credential_type" credential.credentialType.debug
      |>.insert "institution_id" institutionId
      |>.insert "status" credential.status.debug))
  return ⟨201, .institutionCredential credential⟩

/-- `suspend_institution`. -/
def suspendInstitutionHandler (d : Draws) (headers : HeaderMap) (id : String) :
    Handler Response := do
  let institutionId ← .ofExcept (normalizeInstitutionId id)
  let resource := "institution:" ++ institutionId
  let auth ← state.authorizeAdminRequest (d.sub 0).stamp headers "suspend_institution" resource
  let institution ← state.callNode
    ((suspendInstitution (d.sub 1).stamp.now institutionId).mapError .ledger)
  recordAuditEvent (institutionEvent (d.sub 2).stamp auth "INSTITUTION_SUSPENDED" institution.id
    ("institution " ++ institution.id ++ " suspended")
    (BTreeMap.new
      |>.insert "institution_id" institution.id
      |>.insert "status" "SUSPENDED"))
  return ⟨200, .institution institution⟩

def setInstitutionLimit (d : Draws) (headers : HeaderMap) (id : String)
    (request : SetInstitutionLimitRequest) : Handler Response := do
  let institutionId ← .ofExcept (normalizeInstitutionId id)
  let request ← .ofExcept request.validate
  let resource := "institution:" ++ institutionId ++ ":limits:" ++ request.asset
  let auth ← state.authorizeAdminRequest (d.sub 0).stamp headers "set_institution_limits" resource
  let limit := InstitutionLimit.new (d.sub 1).stamp.now institutionId request.asset
    request.dailyLimit request.perTransactionLimit
  let limit ← state.callNode ((upsertInstitutionLimit limit).mapError .ledger)
  recordAuditEvent (institutionEvent (d.sub 2).stamp auth "INSTITUTION_LIMIT_UPDATED" institutionId
    ("institution " ++ institutionId ++ " limit updated for " ++ limit.asset)
    (BTreeMap.new
      |>.insert "asset" limit.asset
      |>.insert "daily_limit" (toString limit.dailyLimit)
      |>.insert "institution_id" institutionId
      |>.insert "per_transaction_limit" (toString limit.perTransactionLimit)))
  return ⟨200, .institutionLimit limit⟩

/-! ## Compliance cases -/

def getComplianceCases (d : Draws) (headers : HeaderMap) (query : PageQuery) :
    Handler Response := do
  let resource := "network:compliance_cases"
  let _ ← state.authorizeAdminRequest (d.sub 0).stamp headers "read_compliance_cases" resource
  let (limit, offset) ← .ofExcept (validatedPage query.limit query.offset
    DEFAULT_COMPLIANCE_CASE_LIMIT MAX_COMPLIANCE_CASE_LIMIT)
  let l ← .get
  let items := page (limit + 1).toNat offset.toNat l.sortedComplianceCases
  return ⟨200, .complianceCases (.fromLimitPlusOne items limit offset)⟩

/-- `get_compliance_case`. -/
def getComplianceCaseHandler (d : Draws) (headers : HeaderMap) (id : String) :
    Handler Response := do
  let resource := "compliance_case:" ++ id
  let _ ← state.authorizeAdminRequest (d.sub 0).stamp headers "read_compliance_case" resource
  let l ← .get
  let complianceCase ← .ofExcept (state.ofLedger (l.getComplianceCase id))
  let payment ← .ofExcept (state.ofLedger (l.getPayment complianceCase.paymentId))
  return ⟨200, .complianceCase ⟨complianceCase, .ofRecord payment⟩⟩

/-- `approve_compliance_case`. -/
def approveComplianceCaseHandler (d : Draws) (headers : HeaderMap) (id : String)
    (request : ComplianceCaseResolutionRequest) : Handler Response := do
  let resource := "compliance_case:" ++ id
  let auth ← state.authorizeAdminRequest (d.sub 0).stamp headers "approve_compliance_case" resource
  let request := request.validate
  let (complianceCase, payment) ← state.callNode
    ((approveComplianceCase (d.sub 1) id request.reviewer request.reason).mapError .ledger)
  recordAuditEvent (complianceCaseEvent (d.sub 2).stamp auth "COMPLIANCE_CASE_APPROVED"
    complianceCase payment
    ("compliance case " ++ complianceCase.id ++ " approved for payment " ++ payment.transaction.id))
  return ⟨200, .complianceCase ⟨complianceCase, .ofRecord payment⟩⟩

/-- `reject_compliance_case`. -/
def rejectComplianceCaseHandler (d : Draws) (headers : HeaderMap) (id : String)
    (request : ComplianceCaseResolutionRequest) : Handler Response := do
  let resource := "compliance_case:" ++ id
  let auth ← state.authorizeAdminRequest (d.sub 0).stamp headers "reject_compliance_case" resource
  let request := request.validate
  let (complianceCase, payment) ← state.callNode
    ((rejectComplianceCase (d.sub 1) id request.reviewer request.reason).mapError .ledger)
  recordAuditEvent (complianceCaseEvent (d.sub 2).stamp auth "COMPLIANCE_CASE_REJECTED"
    complianceCase payment
    ("compliance case " ++ complianceCase.id ++ " rejected for payment " ++ payment.transaction.id))
  return ⟨200, .complianceCase ⟨complianceCase, .ofRecord payment⟩⟩

/-! ## Reads -/

def getAccounts (d : Draws) (headers : HeaderMap) : Handler Response := do
  let resource := "network:accounts"
  let _ ← state.authorizeAdminRequest (d.sub 0).stamp headers "read_accounts" resource
  let l ← .get
  return ⟨200, .accounts l.accounts.values⟩

def getBalance (d : Draws) (headers : HeaderMap) (accountId asset : String) :
    Handler Response := do
  let asset ← .ofExcept (normalizeAssetCode asset)
  let resource := "account:" ++ accountId ++ ":balance:" ++ asset
  let _ ← state.authorizeRequest (d.sub 0).stamp headers "read_balance" resource fun l auth =>
    state.authorizeAccountRead l auth accountId
  let l ← .get
  return ⟨200, .balance ⟨accountId, asset, l.balance accountId asset⟩⟩

def getIssued (d : Draws) (headers : HeaderMap) (asset : String) : Handler Response := do
  let asset ← .ofExcept (normalizeAssetCode asset)
  let resource := "asset:" ++ asset ++ ":issued"
  let _ ← state.authorizeAdminRequest (d.sub 0).stamp headers "read_issued_supply" resource
  let l ← .get
  return ⟨200, .issued ⟨asset, l.issuedOf asset⟩⟩

/-- `pending_transactions` of the ledger. -/
def pendingTransactions (l : InMemoryLedger) (limit offset : Int) : List Transaction :=
  let pending := l.payments.values.filter fun payment => payment.status = .pending
  (page limit.toNat offset.toNat
    (pending.insertionSort fun a b => a.createdAt ≤ b.createdAt)).map PaymentRecord.transaction

def getPendingTransactions (d : Draws) (headers : HeaderMap) (query : PageQuery) :
    Handler Response := do
  let resource := "network:pending_transactions"
  let _ ← state.authorizeAdminRequest (d.sub 0).stamp headers "read_pending_transactions" resource
  let filter ← .ofExcept (BlockFilter.tryFromQuery query)
  let l ← .get
  let items := pendingTransactions l (filter.limit + 1) filter.offset
  return ⟨200, .transactions (.fromLimitPlusOne items filter.limit filter.offset)⟩

def getLatestBlock (d : Draws) (headers : HeaderMap) : Handler Response := do
  let resource := "network:latest_block"
  let _ ← state.authorizeAdminRequest (d.sub 0).stamp headers "read_latest_block" resource
  let l ← .get
  match l.blocks.getLast? with
  | some block => return ⟨200, .block block⟩
  | none => .throw (.notFound "no finalized blocks yet")

def getBlocks (d : Draws) (headers : HeaderMap) (query : PageQuery) : Handler Response := do
  let resource := "network:blocks"
  let _ ← state.authorizeAdminRequest (d.sub 0).stamp headers "read_blocks" resource
  let filter ← .ofExcept (BlockFilter.tryFromQuery query)
  let l ← .get
  let items := (filter.intoSearchWithLimit (filter.limit + 1)).apply l.blocks
  return ⟨200, .blocks (.fromLimitPlusOne items filter.limit filter.offset)⟩

def getAuditEvents (d : Draws) (headers : HeaderMap) (query : AuditEventQuery) :
    Handler Response := do
  let resource := "network:audit_events"
  let _ ← state.authorizeAdminRequest (d.sub 0).stamp headers "read_audit_events" resource
  let filter ← .ofExcept (AuditEventFilter.tryFromQuery state.libraries.parseRfc3339 query)
  let l ← .get
  let items := (filter.intoSearchWithLimit (filter.limit + 1)).apply l.auditEvents
  return ⟨200, .auditEvents (.fromLimitPlusOne items filter.limit filter.offset)⟩

def getSettlementSummaryReport (d : Draws) (headers : HeaderMap) (query : ReportQuery) :
    Handler Response := do
  let resource := "network:reports:settlement_summary"
  let _ ← state.authorizeAdminRequest (d.sub 0).stamp headers "read_settlement_report" resource
  let filter ← .ofExcept (ReportFilter.tryFromQuery state.libraries.parseRfc3339 query)
  let l ← .get
  let blocks := filter.applyBlockWindow (filter.toBlockSearch.apply l.blocks)
  return ⟨200, .settlementSummary
    (buildSettlementSummaryReport state.libraries.toRfc3339 filter blocks)⟩

def getComplianceDecisionReport (d : Draws) (headers : HeaderMap) (query : ReportQuery) :
    Handler Response := do
  let resource := "network:reports:compliance_decisions"
  let _ ← state.authorizeAdminRequest (d.sub 0).stamp headers "read_compliance_report" resource
  let filter ← .ofExcept (ReportFilter.tryFromQuery state.libraries.parseRfc3339 query)
  let l ← .get
  let events := filter.toComplianceAuditSearch.apply l.auditEvents
  return ⟨200, .complianceDecisions
    (buildComplianceDecisionReport state.libraries.toRfc3339 filter events)⟩

def getValidatorFinalityReport (d : Draws) (headers : HeaderMap) (query : ReportQuery) :
    Handler Response := do
  let resource := "network:reports:validator_finality"
  let _ ← state.authorizeAdminRequest (d.sub 0).stamp headers "read_validator_report" resource
  let filter ← .ofExcept (ReportFilter.tryFromQuery state.libraries.parseRfc3339 query)
  let l ← .get
  let blocks := filter.applyBlockWindow (filter.toBlockSearch.apply l.blocks)
  return ⟨200, .validatorFinality
    (buildValidatorFinalityReport state.libraries.toRfc3339 filter blocks state.node.validators)⟩

def getValidators (d : Draws) (headers : HeaderMap) : Handler Response := do
  let resource := "network:validators"
  let _ ← state.authorizeAdminRequest (d.sub 0).stamp headers "read_validators" resource
  return ⟨200, .validators
    (state.node.validators.map (ValidatorResponse.ofInfo state.libraries.toRfc3339))⟩

end AppState

end KaniNetwork
