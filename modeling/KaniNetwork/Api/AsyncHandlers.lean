/-
KaniNetwork.Api.AsyncHandlers — the handlers as the node calls they await
(`kani-api`).

A handler is an `async fn`: between two awaited calls of the node the
handlers of other requests run. Here each handler is a program of such
calls, in the order of the source, so that requests can be interleaved and
the node behind them exchanged. `Api/Sequential.lean` shows that a handler
that is not interrupted does what `Api/Handlers.lean` says.

Handlers of one shape are kept apart, each with its own action, resource
and calls.
-/
import KaniNetwork.Api.NodeCalls
import KaniNetwork.Api.Router
import KaniNetwork.Base.Prog

namespace KaniNetwork

/-- A handler, or a part of one. -/
abbrev AsyncHandler (α : Type) := Prog NodeCall NodeCall.Reply ApiError α

namespace AsyncApi

variable (state : AppState)

/-- A node call behind `?`. -/
def call (q : NodeCall) : AsyncHandler q.Value :=
  .call q fun reply => .ofExcept (reply.mapError (.ofNodeError state.libraries.sqlxMessage))

def read (r : NodeRead) : AsyncHandler r.Value := call state (.read r)

def act (op : NodeOp) : AsyncHandler op.Value := call state (.act op)

def recordAuditEvent (event : AuditEvent) : AsyncHandler Unit := act state (.recordAuditEvent event)

/-! ## Rights -/

/-- `ensure_account_exists`. -/
def ensureAccountExists (accountId : String) : AsyncHandler Account := do
  let accounts ← read state .accounts
  match accounts.find? fun account => account.id = accountId with
  | some account => return account
  | none => .fail (.badRequest ("account " ++ accountId ++ " does not exist"))

/-- `ensure_institution_can_operate`. -/
def ensureInstitutionCanOperate (institutionId : String) : AsyncHandler Unit := do
  let institution ← read state (.getInstitution institutionId)
  if institution.status = .approved then return ()
  else
    .fail (.forbidden
      ("institution " ++ institutionId ++ " is not approved for account operations"))

/-- `authorize_account_access`. -/
def authorizeAccountAccess (accountId action : String) (auth : AuthenticatedInstitution) :
    AsyncHandler Account := do
  let account ← ensureAccountExists state accountId
  if account.institutionId = some auth.institutionId then do
    ensureInstitutionCanOperate state auth.institutionId
    return account
  else
    .fail (.forbidden ("institution is not authorized to " ++ action ++ " account " ++ accountId))

/-- `authorize_account_control`. -/
def authorizeAccountControl (accountId : String) (auth : AuthenticatedInstitution) :
    AsyncHandler Account :=
  authorizeAccountAccess state accountId "debit" auth

/-- `authorize_account_read`. -/
def authorizeAccountRead (accountId : String) (auth : AuthenticatedInstitution) :
    AsyncHandler Account :=
  authorizeAccountAccess state accountId "read" auth

/-- The two checks of `sandbox_mint`. -/
def authorizeTreasury (treasury : String) (auth : AuthenticatedInstitution) :
    AsyncHandler Account := do
  let account ← authorizeAccountControl state treasury auth
  if account.accountType ≠ .treasury then
    .fail (.badRequest ("account " ++ treasury ++ " is not a treasury account"))
  else return account

/-- `authorize_payment_read`. -/
def authorizePaymentRead (payment : PaymentRecord) (auth : AuthenticatedInstitution) :
    AsyncHandler Unit := do
  let accounts ← read state .accounts
  if accountBelongsToInstitution accounts payment.transaction.fromAccount auth.institutionId
      || accountBelongsToInstitution accounts payment.transaction.toAccount auth.institutionId then
    return ()
  else
    .fail (.forbidden
      ("institution is not authorized to read payment " ++ payment.transaction.id))

/-! ## Decisions -/

/-- `authenticate_request`. -/
def authenticateRequest (s : Stamp) (headers : HeaderMap) (action resource : String) :
    AsyncHandler AuthenticatedInstitution :=
  match state.auth.authenticate headers with
  | .ok auth => return auth
  | .error error => do
    recordAuditEvent state (authorizationDenied s headers none action resource error)
    .fail error

/-- The decision on a check: an ALLOWED event and its value, or a DENIED
event and its error. -/
def auditAuthorization {α : Type} (s : Stamp) (headers : HeaderMap)
    (auth : AuthenticatedInstitution) (action resource : String) :
    Except ApiError α → AsyncHandler α
  | .ok a => do
    recordAuditEvent state (authorizationAllowed s headers auth action resource)
    return a
  | .error error => do
    recordAuditEvent state (authorizationDenied s headers (some auth) action resource error)
    .fail error

/-- Authenticate the caller and check a right of theirs. -/
def authorizeRequest {α : Type} (s : Stamp) (headers : HeaderMap) (action resource : String)
    (check : AuthenticatedInstitution → AsyncHandler α) :
    AsyncHandler (AuthenticatedInstitution × α) := do
  let auth ← authenticateRequest state s headers action resource
  let checked ← (check auth).attempt
  let a ← auditAuthorization state s headers auth action resource checked
  return (auth, a)

/-- `authorize_admin_request`. -/
def authorizeAdminRequest (s : Stamp) (headers : HeaderMap) (action resource : String) :
    AsyncHandler AuthenticatedInstitution := do
  let (auth, _) ← authorizeRequest state s headers action resource fun auth =>
    .ofExcept (authorizeAdmin auth)
  return auth

/-! ## Open to all -/

def health : AsyncHandler Response := return ⟨200, .health {
  service := "kani-api"
  status := "ok"
  environment := "SANDBOX"
  realValue := false
  redeemable := false }⟩

/-- `openapi_json`. -/
def openapiJson : AsyncHandler Response := return ⟨200, .openapi⟩

/-! ## Payments -/

/-- `enforce_payment_compliance`. -/
def enforcePaymentCompliance (s : Stamp) (headers : HeaderMap) (auth : AuthenticatedInstitution)
    (action resource : String) (request : ValidatedPaymentRequest) :
    AsyncHandler (Option ComplianceResult) := do
  let payment := request.compliancePayment
  let result := screenSandboxPaymentWithPolicy state.compliancePolicy payment
  recordAuditEvent state (complianceDecisionEvent s headers auth action resource payment result)
  match result.decision with
  | .allow => return none
  | .review => return some result
  | .reject =>
    .fail (.forbidden ("compliance decision " ++ result.decision.debug ++ " by " ++ result.ruleId
      ++ ": " ++ result.reason))

/-- The case a review opens; the node fills in the payment. -/
def caseOpenOf (auth : AuthenticatedInstitution) (result : ComplianceResult) :
    ComplianceCaseOpen where
  paymentId := ""
  policyVersion := SANDBOX_COMPLIANCE_POLICY_VERSION
  ruleId := result.ruleId
  reason := result.reason
  openedByInstitution := auth.institutionId

/-- `submit_validated_payment`. -/
def submitValidatedPayment (d : Draws) (headers : HeaderMap) (request : ValidatedPaymentRequest)
    (action : String) : AsyncHandler PaymentResponse := do
  let resource := "account:" ++ request.fromAccount
  let (auth, _) ← authorizeRequest state (d.sub 0).stamp headers action resource
    (authorizeAccountControl state request.fromAccount)
  let _ ← ensureAccountExists state request.toAccount
  let clientReferenceId ←
    .ofExcept (normalizedClientReferenceId request.clientReferenceId request.idempotencyKey)
  let review ←
    enforcePaymentCompliance state (d.sub 1).stamp headers auth action resource request
  match review with
  | some result => do
    let (payment, complianceCase) ← act state (.holdPaymentForReview (d.sub 2) request.fromAccount
      request.toAccount request.asset request.amount clientReferenceId (caseOpenOf auth result))
    recordAuditEvent state (complianceCaseEvent (d.sub 3).stamp auth "COMPLIANCE_CASE_OPENED"
      complianceCase payment
      ("compliance case " ++ complianceCase.id ++ " opened for payment " ++ payment.transaction.id))
    return .ofRecord payment
  | none => do
    let payment ← act state (.submitPayment (d.sub 2) request.fromAccount request.toAccount
      request.asset request.amount clientReferenceId)
    return .ofRecord payment

def createPayment (d : Draws) (headers : HeaderMap) (request : CreatePaymentRequest) :
    AsyncHandler Response := do
  let request ← .ofExcept request.validate
  let response ← submitValidatedPayment state d headers request "create_payment"
  return ⟨201, .payment response⟩

/-- `create_pacs008_payment`. -/
def createPacs008Payment (d : Draws) (headers : HeaderMap) (body : String) :
    AsyncHandler Response := do
  let (transfer, request) ← .ofExcept (state.readPacs008 body)
  let payment ← submitValidatedPayment state d headers request "submit_iso20022_pacs008"
  return ⟨201, .isoPacs008Payment {
    messageType := "pacs.008"
    messageId := transfer.messageId
    instructionId := transfer.instructionId
    endToEndId := transfer.endToEndId
    payment := payment }⟩

/-- `read_authorized_payment`. -/
def readAuthorizedPayment (d : Draws) (headers : HeaderMap) (id action : String) :
    AsyncHandler PaymentRecord := do
  let resource := "payment:" ++ id
  let auth ← authenticateRequest state (d.sub 0).stamp headers action resource
  let record ← .call (.read (.getPayment id)) fun reply => .ofExcept (reply.mapError fun
    | .ledger (.unknownPayment _) => .notFound ("payment " ++ id ++ " not found")
    | other => .ofNodeError state.libraries.sqlxMessage other)
  let checked ← (authorizePaymentRead state record auth).attempt
  auditAuthorization state (d.sub 0).stamp headers auth action resource checked
  return record

def getPayment (d : Draws) (headers : HeaderMap) (id : String) : AsyncHandler Response := do
  let record ← readAuthorizedPayment state d headers id "read_payment"
  return ⟨200, .payment (.ofRecord record)⟩

def getPacs002Status (d : Draws) (headers : HeaderMap) (paymentId : String) :
    AsyncHandler Response := do
  let record ← readAuthorizedPayment state d headers paymentId "read_iso20022_pacs002"
  let status := pacs002StatusFromPayment state.libraries.toRfc3339 (d.sub 1).stamp.now record
  return ⟨200, .xml (buildPacs002StatusReport status)⟩

def getCamt053Statement (d : Draws) (headers : HeaderMap) (accountId : String)
    (query : Camt053StatementQuery) : AsyncHandler Response := do
  let filter ← .ofExcept (Camt053StatementFilter.tryFromQuery query)
  let resource := "account:" ++ accountId ++ ":camt053:" ++ filter.asset
  let _ ← authorizeRequest state (d.sub 0).stamp headers "read_iso20022_camt053" resource
    (authorizeAccountRead state accountId)
  let balance ← read state (.balance accountId filter.asset)
  let entries ← read state (.journalEntries (filter.toSearch accountId))
  let statement := camt053StatementFromJournalEntries state.libraries.toRfc3339
    (d.sub 1).stamp.now accountId filter.asset balance entries
  return ⟨200, .xml (buildCamt053Statement statement)⟩

def sandboxMint (d : Draws) (headers : HeaderMap) (request : SandboxMintRequest) :
    AsyncHandler Response := do
  let request ← .ofExcept request.validate
  let resource := "account:" ++ request.treasury
  let _ ← authorizeRequest state (d.sub 0).stamp headers "sandbox_mint" resource
    (authorizeTreasury state request.treasury)
  let _ ← ensureAccountExists state request.toAccount
  let payment ← act state (.mintSandbox (d.sub 1) request.treasury request.toAccount request.asset
    request.amount)
  return ⟨201, .payment (.ofRecord payment)⟩

/-! ## Institutions -/

def getInstitutions (d : Draws) (headers : HeaderMap) : AsyncHandler Response := do
  let resource := "network:institutions"
  let _ ← authorizeAdminRequest state (d.sub 0).stamp headers "read_institutions" resource
  let institutions ← read state .institutions
  return ⟨200, .institutions institutions⟩

/-- `institution_profile`. -/
def institutionProfile (institutionId : String) : AsyncHandler InstitutionProfileResponse := do
  let institution ← read state (.getInstitution institutionId)
  let credentials ← read state (.institutionCredentials institutionId)
  let limits ← read state (.institutionLimits institutionId)
  return { institution := institution, credentials := credentials, limits := limits }

def getInstitution (d : Draws) (headers : HeaderMap) (id : String) : AsyncHandler Response := do
  let institutionId ← .ofExcept (normalizeInstitutionId id)
  let resource := "institution:" ++ institutionId
  let _ ← authorizeAdminRequest state (d.sub 0).stamp headers "read_institution" resource
  let profile ← institutionProfile state institutionId
  return ⟨200, .institutionProfile profile⟩

def createInstitution (d : Draws) (headers : HeaderMap) (request : CreateInstitutionRequest) :
    AsyncHandler Response := do
  let request ← .ofExcept request.validate
  let resource := "institution:" ++ request.id
  let auth ← authorizeAdminRequest state (d.sub 0).stamp headers "create_institution" resource
  let institution := Institution.new (d.sub 1).stamp.now {
    id := request.id
    legalName := request.legalName
    institutionCode := request.institutionCode
    jurisdiction := request.jurisdiction
    status := .requested
    riskTier := request.riskTier
    allowedAssets := request.allowedAssets
    roles := request.roles }
  let institution ← act state (.upsertInstitution institution)
  recordAuditEvent state (institutionEvent (d.sub 2).stamp auth "INSTITUTION_ONBOARDING_REQUESTED"
    institution.id ("institution " ++ institution.id ++ " onboarding requested")
    (BTreeMap.new
      |>.insert "institution_id" institution.id
      |>.insert "institution_code" institution.institutionCode
      |>.insert "status" "REQUESTED"))
  return ⟨201, .institution institution⟩

def createInstitutionCredential (d : Draws) (headers : HeaderMap) (id : String)
    (request : CreateInstitutionCredentialRequest) : AsyncHandler Response := do
  let institutionId ← .ofExcept (normalizeInstitutionId id)
  let request ← .ofExcept request.validate
  let resource := "institution:" ++ institutionId ++ ":credential"
  let auth ←
    authorizeAdminRequest state (d.sub 0).stamp headers "create_institution_credential" resource
  let _ ← read state (.getInstitution institutionId)
  let credential := InstitutionCredential.new (d.sub 1).stamp institutionId request.credentialType
    request.label request.fingerprint
  let credential := { credential with
    issuer := request.issuer
    subject := request.subject
    expiresAt := request.expiresAt
    status := .active }
  let credential ← act state (.addInstitutionCredential credential)
  recordAuditEvent state (institutionEvent (d.sub 2).stamp auth "INSTITUTION_CREDENTIAL_CREATED"
    institutionId ("credential " ++ credential.id ++ " created for institution " ++ institutionId)
    (BTreeMap.new
      |>.insert "credential_id" credential.id
      |>.insert "credential_type" credential.credentialType.debug
      |>.insert "institution_id" institutionId
      |>.insert "status" credential.status.debug))
  return ⟨201, .institutionCredential credential⟩

def suspendInstitution (d : Draws) (headers : HeaderMap) (id : String) :
    AsyncHandler Response := do
  let institutionId ← .ofExcept (normalizeInstitutionId id)
  let resource := "institution:" ++ institutionId
  let auth ← authorizeAdminRequest state (d.sub 0).stamp headers "suspend_institution" resource
  let institution ← act state (.suspendInstitution (d.sub 1).stamp.now institutionId)
  recordAuditEvent state (institutionEvent (d.sub 2).stamp auth "INSTITUTION_SUSPENDED"
    institution.id ("institution " ++ institution.id ++ " suspended")
    (BTreeMap.new
      |>.insert "institution_id" institution.id
      |>.insert "status" "SUSPENDED"))
  return ⟨200, .institution institution⟩

def setInstitutionLimit (d : Draws) (headers : HeaderMap) (id : String)
    (request : SetInstitutionLimitRequest) : AsyncHandler Response := do
  let institutionId ← .ofExcept (normalizeInstitutionId id)
  let request ← .ofExcept request.validate
  let resource := "institution:" ++ institutionId ++ ":limits:" ++ request.asset
  let auth ← authorizeAdminRequest state (d.sub 0).stamp headers "set_institution_limits" resource
  let limit := InstitutionLimit.new (d.sub 1).stamp.now institutionId request.asset
    request.dailyLimit request.perTransactionLimit
  let limit ← act state (.upsertInstitutionLimit limit)
  recordAuditEvent state (institutionEvent (d.sub 2).stamp auth "INSTITUTION_LIMIT_UPDATED"
    institutionId ("institution " ++ institutionId ++ " limit updated for " ++ limit.asset)
    (BTreeMap.new
      |>.insert "asset" limit.asset
      |>.insert "daily_limit" (toString limit.dailyLimit)
      |>.insert "institution_id" institutionId
      |>.insert "per_transaction_limit" (toString limit.perTransactionLimit)))
  return ⟨200, .institutionLimit limit⟩

/-! ## Compliance cases -/

def getComplianceCases (d : Draws) (headers : HeaderMap) (query : PageQuery) :
    AsyncHandler Response := do
  let resource := "network:compliance_cases"
  let _ ← authorizeAdminRequest state (d.sub 0).stamp headers "read_compliance_cases" resource
  let (limit, offset) ← .ofExcept (validatedPage query.limit query.offset
    DEFAULT_COMPLIANCE_CASE_LIMIT MAX_COMPLIANCE_CASE_LIMIT)
  let items ← read state (.complianceCases (limit + 1) offset)
  return ⟨200, .complianceCases (.fromLimitPlusOne items limit offset)⟩

def getComplianceCase (d : Draws) (headers : HeaderMap) (id : String) : AsyncHandler Response := do
  let resource := "compliance_case:" ++ id
  let _ ← authorizeAdminRequest state (d.sub 0).stamp headers "read_compliance_case" resource
  let complianceCase ← read state (.complianceCase id)
  let payment ← read state (.getPayment complianceCase.paymentId)
  return ⟨200, .complianceCase ⟨complianceCase, .ofRecord payment⟩⟩

def approveComplianceCase (d : Draws) (headers : HeaderMap) (id : String)
    (request : ComplianceCaseResolutionRequest) : AsyncHandler Response := do
  let resource := "compliance_case:" ++ id
  let auth ← authorizeAdminRequest state (d.sub 0).stamp headers "approve_compliance_case" resource
  let request := request.validate
  let (complianceCase, payment) ←
    act state (.approveComplianceCase (d.sub 1) id request.reviewer request.reason)
  recordAuditEvent state (complianceCaseEvent (d.sub 2).stamp auth "COMPLIANCE_CASE_APPROVED"
    complianceCase payment
    ("compliance case " ++ complianceCase.id ++ " approved for payment " ++ payment.transaction.id))
  return ⟨200, .complianceCase ⟨complianceCase, .ofRecord payment⟩⟩

def rejectComplianceCase (d : Draws) (headers : HeaderMap) (id : String)
    (request : ComplianceCaseResolutionRequest) : AsyncHandler Response := do
  let resource := "compliance_case:" ++ id
  let auth ← authorizeAdminRequest state (d.sub 0).stamp headers "reject_compliance_case" resource
  let request := request.validate
  let (complianceCase, payment) ←
    act state (.rejectComplianceCase (d.sub 1) id request.reviewer request.reason)
  recordAuditEvent state (complianceCaseEvent (d.sub 2).stamp auth "COMPLIANCE_CASE_REJECTED"
    complianceCase payment
    ("compliance case " ++ complianceCase.id ++ " rejected for payment " ++ payment.transaction.id))
  return ⟨200, .complianceCase ⟨complianceCase, .ofRecord payment⟩⟩

/-! ## Reads -/

def getAccounts (d : Draws) (headers : HeaderMap) : AsyncHandler Response := do
  let resource := "network:accounts"
  let _ ← authorizeAdminRequest state (d.sub 0).stamp headers "read_accounts" resource
  let accounts ← read state .accounts
  return ⟨200, .accounts accounts⟩

def getBalance (d : Draws) (headers : HeaderMap) (accountId asset : String) :
    AsyncHandler Response := do
  let asset ← .ofExcept (normalizeAssetCode asset)
  let resource := "account:" ++ accountId ++ ":balance:" ++ asset
  let _ ← authorizeRequest state (d.sub 0).stamp headers "read_balance" resource
    (authorizeAccountRead state accountId)
  let amount ← read state (.balance accountId asset)
  return ⟨200, .balance ⟨accountId, asset, amount⟩⟩

def getIssued (d : Draws) (headers : HeaderMap) (asset : String) : AsyncHandler Response := do
  let asset ← .ofExcept (normalizeAssetCode asset)
  let resource := "asset:" ++ asset ++ ":issued"
  let _ ← authorizeAdminRequest state (d.sub 0).stamp headers "read_issued_supply" resource
  let amount ← read state (.issued asset)
  return ⟨200, .issued ⟨asset, amount⟩⟩

def getPendingTransactions (d : Draws) (headers : HeaderMap) (query : PageQuery) :
    AsyncHandler Response := do
  let resource := "network:pending_transactions"
  let _ ← authorizeAdminRequest state (d.sub 0).stamp headers "read_pending_transactions" resource
  let filter ← .ofExcept (BlockFilter.tryFromQuery query)
  let items ← read state (.pendingTransactions (filter.limit + 1) filter.offset)
  return ⟨200, .transactions (.fromLimitPlusOne items filter.limit filter.offset)⟩

def getLatestBlock (d : Draws) (headers : HeaderMap) : AsyncHandler Response := do
  let resource := "network:latest_block"
  let _ ← authorizeAdminRequest state (d.sub 0).stamp headers "read_latest_block" resource
  match ← read state .latestBlock with
  | some block => return ⟨200, .block block⟩
  | none => .fail (.notFound "no finalized blocks yet")

def getBlocks (d : Draws) (headers : HeaderMap) (query : PageQuery) : AsyncHandler Response := do
  let resource := "network:blocks"
  let _ ← authorizeAdminRequest state (d.sub 0).stamp headers "read_blocks" resource
  let filter ← .ofExcept (BlockFilter.tryFromQuery query)
  let items ← read state (.blocks (filter.intoSearchWithLimit (filter.limit + 1)))
  return ⟨200, .blocks (.fromLimitPlusOne items filter.limit filter.offset)⟩

def getAuditEvents (d : Draws) (headers : HeaderMap) (query : AuditEventQuery) :
    AsyncHandler Response := do
  let resource := "network:audit_events"
  let _ ← authorizeAdminRequest state (d.sub 0).stamp headers "read_audit_events" resource
  let filter ← .ofExcept (AuditEventFilter.tryFromQuery state.libraries.parseRfc3339 query)
  let items ← read state (.auditEvents (filter.intoSearchWithLimit (filter.limit + 1)))
  return ⟨200, .auditEvents (.fromLimitPlusOne items filter.limit filter.offset)⟩

def getSettlementSummaryReport (d : Draws) (headers : HeaderMap) (query : ReportQuery) :
    AsyncHandler Response := do
  let resource := "network:reports:settlement_summary"
  let _ ← authorizeAdminRequest state (d.sub 0).stamp headers "read_settlement_report" resource
  let filter ← .ofExcept (ReportFilter.tryFromQuery state.libraries.parseRfc3339 query)
  let blocks ← read state (.blocks filter.toBlockSearch)
  let blocks := filter.applyBlockWindow blocks
  return ⟨200, .settlementSummary
    (buildSettlementSummaryReport state.libraries.toRfc3339 filter blocks)⟩

def getComplianceDecisionReport (d : Draws) (headers : HeaderMap) (query : ReportQuery) :
    AsyncHandler Response := do
  let resource := "network:reports:compliance_decisions"
  let _ ← authorizeAdminRequest state (d.sub 0).stamp headers "read_compliance_report" resource
  let filter ← .ofExcept (ReportFilter.tryFromQuery state.libraries.parseRfc3339 query)
  let events ← read state (.auditEvents filter.toComplianceAuditSearch)
  return ⟨200, .complianceDecisions
    (buildComplianceDecisionReport state.libraries.toRfc3339 filter events)⟩

def getValidatorFinalityReport (d : Draws) (headers : HeaderMap) (query : ReportQuery) :
    AsyncHandler Response := do
  let resource := "network:reports:validator_finality"
  let _ ← authorizeAdminRequest state (d.sub 0).stamp headers "read_validator_report" resource
  let filter ← .ofExcept (ReportFilter.tryFromQuery state.libraries.parseRfc3339 query)
  let blocks ← read state (.blocks filter.toBlockSearch)
  let blocks := filter.applyBlockWindow blocks
  let validators ← read state .validators
  return ⟨200, .validatorFinality
    (buildValidatorFinalityReport state.libraries.toRfc3339 filter blocks validators)⟩

def getValidators (d : Draws) (headers : HeaderMap) : AsyncHandler Response := do
  let resource := "network:validators"
  let _ ← authorizeAdminRequest state (d.sub 0).stamp headers "read_validators" resource
  let validators ← read state .validators
  return ⟨200, .validators (validators.map (ValidatorResponse.ofInfo state.libraries.toRfc3339))⟩

/-- The handler of a request. -/
def handle (d : Draws) (headers : HeaderMap) : HttpRequest → AsyncHandler Response
  | .rejected rejection => return ⟨rejection.statusCode, .rejection⟩
  | .health => health
  | .openapiJson => openapiJson
  | .createPayment request => createPayment state d headers request
  | .getPayment id => getPayment state d headers id
  | .createPacs008Payment body => createPacs008Payment state d headers body
  | .getPacs002Status paymentId => getPacs002Status state d headers paymentId
  | .getCamt053Statement accountId query => getCamt053Statement state d headers accountId query
  | .getInstitutions => getInstitutions state d headers
  | .createInstitution request => createInstitution state d headers request
  | .getInstitution id => getInstitution state d headers id
  | .createInstitutionCredential id request =>
    createInstitutionCredential state d headers id request
  | .suspendInstitution id => suspendInstitution state d headers id
  | .setInstitutionLimit id request => setInstitutionLimit state d headers id request
  | .getComplianceCases query => getComplianceCases state d headers query
  | .getComplianceCase id => getComplianceCase state d headers id
  | .approveComplianceCase id request => approveComplianceCase state d headers id request
  | .rejectComplianceCase id request => rejectComplianceCase state d headers id request
  | .getAccounts => getAccounts state d headers
  | .getPendingTransactions query => getPendingTransactions state d headers query
  | .getBalance accountId asset => getBalance state d headers accountId asset
  | .getIssued asset => getIssued state d headers asset
  | .getBlocks query => getBlocks state d headers query
  | .getLatestBlock => getLatestBlock state d headers
  | .getAuditEvents query => getAuditEvents state d headers query
  | .getSettlementSummaryReport query => getSettlementSummaryReport state d headers query
  | .getComplianceDecisionReport query => getComplianceDecisionReport state d headers query
  | .getValidatorFinalityReport query => getValidatorFinalityReport state d headers query
  | .getValidators => getValidators state d headers
  | .sandboxMint request => sandboxMint state d headers request

end AsyncApi

/-- The response a handler ends in. -/
def Response.ofOutcome : Except ApiError Response → Response
  | .ok response => response
  | .error error => error.intoResponse

end KaniNetwork
