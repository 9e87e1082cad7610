/-
KaniNetwork.Api.Requests — what the API accepts as the body, the path and
the query of a request (`kani-api`).

A request is a value its JSON or query string deserialises to; `validate`
and `try_from_query` check it and return the request the handlers work
with. The checks run in the order of the source, so the error is that of
the first one that fails. Whatever it is, it is a bad request
(`IsBadRequest`), so a check that stands before the authentication is never
mistaken for a refusal.
-/
import KaniNetwork.Api.Error
import KaniNetwork.Api.Statement

namespace KaniNetwork

def DEFAULT_BLOCK_LIMIT : Int := 100
def MAX_BLOCK_LIMIT : Int := 500
def DEFAULT_AUDIT_EVENT_LIMIT : Int := 100
def MAX_AUDIT_EVENT_LIMIT : Int := 500
def DEFAULT_COMPLIANCE_CASE_LIMIT : Int := 100
def MAX_COMPLIANCE_CASE_LIMIT : Int := 500
def DEFAULT_REPORT_SCAN_LIMIT : Int := 500
def MAX_REPORT_SCAN_LIMIT : Int := 500
def DEFAULT_STATEMENT_ENTRY_LIMIT : Int := 100
def MAX_STATEMENT_ENTRY_LIMIT : Int := 500

/-! ## Fields -/

/-- `normalize_required_field`. -/
def normalizeRequiredField (name value : String) : Except ApiError String :=
  if (trim value).isEmpty then .error (.badRequest (name ++ " is required")) else .ok (trim value)

/-- The shared body of `normalize_optional_id`, `normalize_optional_text` and
`normalize_optional_filter`: trimmed, and none when nothing is left. -/
def normalizeOptional (value : Option String) : Option String := value.bind nonEmptyTrimmed

def normalizeOptionalId (value : Option String) : Option String := normalizeOptional value

def normalizeOptionalText (value : Option String) : Option String := normalizeOptional value

def normalizeOptionalFilter (value : Option String) : Option String := normalizeOptional value

/-- An upper-case ASCII letter, a digit or an underscore. -/
def isCodeCharacter (c : Char) : Bool := c.isUpper || c.isDigit || c = '_'

/-- `normalize_asset_code`; the length is in bytes. -/
def normalizeAssetCode (value : String) : Except ApiError String := do
  let asset ← normalizeRequiredField "asset" value
  if asset.utf8ByteSize < 3 then .error (.badRequest "asset must be at least 3 characters")
  else if 32 < asset.utf8ByteSize then .error (.badRequest "asset must be 32 characters or fewer")
  else if ¬ asset.toList.all isCodeCharacter then
    .error (.badRequest "asset must contain only uppercase letters, digits, or underscores")
  else .ok asset

/-- `validate_positive_amount`. -/
def validatePositiveAmount (amount : Int) : Except ApiError Int :=
  if amount ≤ 0 then .error (.badRequest "amount must be positive") else .ok amount

/-- `validate_non_negative_amount`. -/
def validateNonNegativeAmount (field : String) (amount : Int) : Except ApiError Int :=
  if amount < 0 then .error (.badRequest (field ++ " must be non-negative")) else .ok amount

/-- `normalize_institution_id`. -/
def normalizeInstitutionId (value : String) : Except ApiError String := do
  let institutionId ← normalizeRequiredField "institution_id" value
  let institutionId := toAsciiUppercase institutionId
  if 64 < institutionId.utf8ByteSize then
    .error (.badRequest "institution_id must be 64 characters or fewer")
  else if ¬ institutionId.toList.all isCodeCharacter then
    .error (.badRequest
      "institution_id must contain only uppercase letters, digits, or underscores")
  else .ok institutionId

/-- `normalize_jurisdiction`. -/
def normalizeJurisdiction (value : String) : Except ApiError String := do
  let jurisdiction ← normalizeRequiredField "jurisdiction" value
  let jurisdiction := toAsciiUppercase jurisdiction
  if jurisdiction.utf8ByteSize < 2 ∨ 8 < jurisdiction.utf8ByteSize then
    .error (.badRequest "jurisdiction must be between 2 and 8 characters")
  else if ¬ jurisdiction.toList.all (fun c => c.isUpper || c = '-') then
    .error (.badRequest "jurisdiction must contain only uppercase letters or hyphens")
  else .ok jurisdiction

/-- `normalize_asset_list`. -/
def normalizeAssetList (values : List String) : Except ApiError (List String) :=
  if values.isEmpty then
    .error (.badRequest "allowed_assets must contain at least one asset")
  else values.mapM normalizeAssetCode

/-- `normalized_client_reference_id`. -/
def normalizedClientReferenceId (clientReferenceId idempotencyKey : Option String) :
    Except ApiError (Option String) :=
  match normalizeOptionalId clientReferenceId, normalizeOptionalId idempotencyKey with
  | some clientReferenceId, some idempotencyKey =>
    if clientReferenceId ≠ idempotencyKey then
      .error (.badRequest
        "client_reference_id and idempotency_key must match when both are provided")
    else .ok (some clientReferenceId)
  | some clientReferenceId, none => .ok (some clientReferenceId)
  | none, some idempotencyKey => .ok (some idempotencyKey)
  | none, none => .ok none

/-- `validated_page`. -/
def validatedPage (limit offset : Option Int) (defaultLimit maxLimit : Int) :
    Except ApiError (Int × Int) :=
  let limit := limit.getD defaultLimit
  if limit ≤ 0 ∨ maxLimit < limit then
    .error (.badRequest ("limit must be between 1 and " ++ toString maxLimit))
  else
    let offset := offset.getD 0
    if offset < 0 then .error (.badRequest "offset must be greater than or equal to 0")
    else .ok (limit, offset)

/-- `parse_optional_rfc3339`. -/
def parseOptionalRfc3339 (parseRfc3339 : String → Option DateTime) (fieldName : String)
    (value : Option String) : Except ApiError (Option DateTime) :=
  match normalizeOptionalFilter value with
  | none => .ok none
  | some value =>
    match parseRfc3339 value with
    | some dateTime => .ok (some dateTime)
    | none => .error (.badRequest (fieldName ++ " must be an RFC3339 timestamp"))

/-! ## Bodies -/

structure CreatePaymentRequest where
  fromAccount : String
  toAccount : String
  asset : String
  amount : Int
  clientReferenceId : Option String
  idempotencyKey : Option String
  deriving DecidableEq, Repr

structure ValidatedPaymentRequest where
  fromAccount : String
  toAccount : String
  asset : String
  amount : Int
  clientReferenceId : Option String
  idempotencyKey : Option String
  deriving DecidableEq, Repr

def CreatePaymentRequest.validate (request : CreatePaymentRequest) :
    Except ApiError ValidatedPaymentRequest := do
  let fromAccount ← normalizeRequiredField "from" request.fromAccount
  let toAccount ← normalizeRequiredField "to" request.toAccount
  let asset ← normalizeAssetCode request.asset
  let amount ← validatePositiveAmount request.amount
  return {
    fromAccount := fromAccount
    toAccount := toAccount
    asset := asset
    amount := amount
    clientReferenceId := request.clientReferenceId
    idempotencyKey := request.idempotencyKey }

/-- `pacs008_client_reference_id`. -/
def pacs008ClientReferenceId (transfer : Pacs008CreditTransfer) : String :=
  "pacs.008:" ++ trim transfer.messageId ++ ":" ++ trim transfer.endToEndId

/-- `pacs008_transfer_request`. -/
def pacs008TransferRequest (transfer : Pacs008CreditTransfer) :
    Except ApiError ValidatedPaymentRequest := do
  let fromAccount ← normalizeRequiredField "debtor_account" transfer.debtorAccount
  let toAccount ← normalizeRequiredField "creditor_account" transfer.creditorAccount
  let asset ← normalizeAssetCode transfer.asset
  let amount ← validatePositiveAmount transfer.amount
  return {
    fromAccount := fromAccount
    toAccount := toAccount
    asset := asset
    amount := amount
    clientReferenceId := some (pacs008ClientReferenceId transfer)
    idempotencyKey := none }

structure SandboxMintRequest where
  treasury : String
  toAccount : String
  asset : String
  amount : Int
  deriving DecidableEq, Repr

/-- `validate`; the validated request has the same fields. -/
def SandboxMintRequest.validate (request : SandboxMintRequest) :
    Except ApiError SandboxMintRequest := do
  let treasury ← normalizeRequiredField "treasury" request.treasury
  let toAccount ← normalizeRequiredField "to" request.toAccount
  let asset ← normalizeAssetCode request.asset
  let amount ← validatePositiveAmount request.amount
  return { treasury := treasury, toAccount := toAccount, asset := asset, amount := amount }

structure CreateInstitutionRequest where
  id : String
  legalName : String
  institutionCode : String
  jurisdiction : String
  riskTier : Option InstitutionRiskTier
  allowedAssets : List String
  roles : List InstitutionRole
  deriving DecidableEq, Repr

structure ValidatedCreateInstitutionRequest where
  id : String
  legalName : String
  institutionCode : String
  jurisdiction : String
  riskTier : InstitutionRiskTier
  allowedAssets : List String
  roles : List InstitutionRole
  deriving DecidableEq, Repr

def CreateInstitutionRequest.validate (request : CreateInstitutionRequest) :
    Except ApiError ValidatedCreateInstitutionRequest := do
  let id ← normalizeInstitutionId request.id
  let institutionCode ← normalizeInstitutionId request.institutionCode
  let legalName ← normalizeRequiredField "legal_name" request.legalName
  let jurisdiction ← normalizeJurisdiction request.jurisdiction
  let allowedAssets ← normalizeAssetList request.allowedAssets
  return {
    id := id
    legalName := legalName
    institutionCode := institutionCode
    jurisdiction := jurisdiction
    riskTier := request.riskTier.getD .medium
    allowedAssets := allowedAssets
    roles := if request.roles.isEmpty then [.operator, .auditor] else request.roles }

structure CreateInstitutionCredentialRequest where
  credentialType : InstitutionCredentialType
  label : String
  fingerprint : String
  issuer : Option String
  subject : Option String
  expiresAt : Option DateTime
  deriving DecidableEq, Repr

/-- `validate`; the validated request has the same fields. -/
def CreateInstitutionCredentialRequest.validate (request : CreateInstitutionCredentialRequest) :
    Except ApiError CreateInstitutionCredentialRequest := do
  let label ← normalizeRequiredField "label" request.label
  let fingerprint ← normalizeRequiredField "fingerprint" request.fingerprint
  return {
    credentialType := request.credentialType
    label := label
    fingerprint := fingerprint
    issuer := normalizeOptionalText request.issuer
    subject := normalizeOptionalText request.subject
    expiresAt := request.expiresAt }

structure SetInstitutionLimitRequest where
  asset : String
  dailyLimit : Int
  perTransactionLimit : Int
  deriving DecidableEq, Repr

/-- `validate`; the validated request has the same fields, and its asset is
checked last. -/
def SetInstitutionLimitRequest.validate (request : SetInstitutionLimitRequest) :
    Except ApiError SetInstitutionLimitRequest := do
  let dailyLimit ← validateNonNegativeAmount "daily_limit" request.dailyLimit
  let perTransactionLimit ←
    validateNonNegativeAmount "per_transaction_limit" request.perTransactionLimit
  if dailyLimit < perTransactionLimit ∧ 0 < dailyLimit then
    .error (.badRequest "per_transaction_limit cannot exceed daily_limit")
  else do
    let asset ← normalizeAssetCode request.asset
    return { asset := asset, dailyLimit := dailyLimit, perTransactionLimit := perTransactionLimit }

structure ComplianceCaseResolutionRequest where
  reviewer : Option String
  reason : Option String
  deriving DecidableEq, Repr

/-- `validate`, which cannot fail. -/
def ComplianceCaseResolutionRequest.validate (request : ComplianceCaseResolutionRequest) :
    ComplianceCaseResolutionRequest where
  reviewer := normalizeOptionalText request.reviewer
  reason := normalizeOptionalText request.reason

/-! ## Queries -/

/-- `BlockQuery` and `ComplianceCaseQuery`. -/
structure PageQuery where
  limit : Option Int
  offset : Option Int
  deriving DecidableEq, Repr

structure AuditEventQuery where
  eventType : Option String
  decision : Option String
  institutionId : Option String
  createdFrom : Option String
  createdTo : Option String
  limit : Option Int
  offset : Option Int
  deriving DecidableEq, Repr

structure Camt053StatementQuery where
  asset : Option String
  limit : Option Int
  offset : Option Int
  deriving DecidableEq, Repr

structure ReportQuery where
  createdFrom : Option String
  createdTo : Option String
  limit : Option Int
  offset : Option Int
  deriving DecidableEq, Repr

structure BlockFilter where
  limit : Int
  offset : Int
  deriving DecidableEq, Repr

namespace BlockFilter

def tryFromQuery (query : PageQuery) : Except ApiError BlockFilter := do
  let (limit, offset) ← validatedPage query.limit query.offset DEFAULT_BLOCK_LIMIT MAX_BLOCK_LIMIT
  return { limit := limit, offset := offset }

def intoSearchWithLimit (filter : BlockFilter) (limit : Int) : BlockSearch where
  limit := limit
  offset := filter.offset

end BlockFilter

/-- The asset is required. -/
def Camt053StatementFilter.tryFromQuery (query : Camt053StatementQuery) :
    Except ApiError Camt053StatementFilter := do
  let asset ← query.asset.elim (.error (.badRequest "asset query parameter is required")) .ok
  let asset ← normalizeAssetCode asset
  let (limit, offset) ←
    validatedPage query.limit query.offset DEFAULT_STATEMENT_ENTRY_LIMIT MAX_STATEMENT_ENTRY_LIMIT
  return { asset := asset, limit := limit, offset := offset }

/-- The window of two optional timestamps, the first not after the second. -/
def parseWindow (parseRfc3339 : String → Option DateTime) (createdFrom createdTo : Option String) :
    Except ApiError (Option DateTime × Option DateTime) := do
  let createdFrom ← parseOptionalRfc3339 parseRfc3339 "created_from" createdFrom
  let createdTo ← parseOptionalRfc3339 parseRfc3339 "created_to" createdTo
  match createdFrom, createdTo with
  | some first, some last =>
    if last < first then
      .error (.badRequest "created_from must be before or equal to created_to")
    else .ok (some first, some last)
  | _, _ => .ok (createdFrom, createdTo)

structure AuditEventFilter where
  eventType : Option String
  decision : Option String
  institutionId : Option String
  createdFrom : Option DateTime
  createdTo : Option DateTime
  limit : Int
  offset : Int
  deriving DecidableEq, Repr

namespace AuditEventFilter

def tryFromQuery (parseRfc3339 : String → Option DateTime) (query : AuditEventQuery) :
    Except ApiError AuditEventFilter := do
  let (createdFrom, createdTo) ← parseWindow parseRfc3339 query.createdFrom query.createdTo
  let (limit, offset) ←
    validatedPage query.limit query.offset DEFAULT_AUDIT_EVENT_LIMIT MAX_AUDIT_EVENT_LIMIT
  return {
    eventType := normalizeOptionalFilter query.eventType
    decision := normalizeOptionalFilter query.decision
    institutionId := normalizeOptionalFilter query.institutionId
    createdFrom := createdFrom
    createdTo := createdTo
    limit := limit
    offset := offset }

def intoSearchWithLimit (filter : AuditEventFilter) (limit : Int) : AuditEventSearch where
  eventType := filter.eventType
  decision := filter.decision
  institutionId := filter.institutionId
  createdFrom := filter.createdFrom
  createdTo := filter.createdTo
  limit := limit
  offset := filter.offset

end AuditEventFilter

structure ReportFilter where
  createdFrom : Option DateTime
  createdTo : Option DateTime
  limit : Int
  offset : Int
  deriving DecidableEq, Repr

namespace ReportFilter

def tryFromQuery (parseRfc3339 : String → Option DateTime) (query : ReportQuery) :
    Except ApiError ReportFilter := do
  let (createdFrom, createdTo) ← parseWindow parseRfc3339 query.createdFrom query.createdTo
  let (limit, offset) ←
    validatedPage query.limit query.offset DEFAULT_REPORT_SCAN_LIMIT MAX_REPORT_SCAN_LIMIT
  return { createdFrom := createdFrom, createdTo := createdTo, limit := limit, offset := offset }

def toBlockSearch (filter : ReportFilter) : BlockSearch where
  limit := filter.limit
  offset := filter.offset

def toComplianceAuditSearch (filter : ReportFilter) : AuditEventSearch where
  eventType := some "COMPLIANCE_DECISION"
  decision := none
  institutionId := none
  createdFrom := filter.createdFrom
  createdTo := filter.createdTo
  limit := filter.limit
  offset := filter.offset

def applyBlockWindow (filter : ReportFilter) (blocks : List Block) : List Block :=
  blocks.filter fun block =>
    (filter.createdFrom.all fun createdFrom => createdFrom ≤ block.createdAt)
      && (filter.createdTo.all fun createdTo => block.createdAt ≤ createdTo)

end ReportFilter

/-! ## Malformed requests -/

/-- The request is answered 400. -/
def ApiError.IsBadRequest (error : ApiError) : Prop := ∃ message, error = .badRequest message

theorem ApiError.IsBadRequest.not_isRefusal {error : ApiError} (h : error.IsBadRequest) :
    ¬ error.IsRefusal := by
  obtain ⟨message, rfl⟩ := h
  exact not_isRefusal_badRequest message

section

open ApiError

theorem failsIn_badRequest {α : Type} (message : String) :
    FailsIn IsBadRequest (.error (.badRequest message) : Except ApiError α) :=
  .error ⟨message, rfl⟩

theorem normalizeRequiredField_failsIn (name value : String) :
    FailsIn IsBadRequest (normalizeRequiredField name value) :=
  .ite (failsIn_badRequest _) (.ok _)

theorem normalizeAssetCode_failsIn (value : String) :
    FailsIn IsBadRequest (normalizeAssetCode value) := by
  refine .bind (normalizeRequiredField_failsIn _ _) fun asset => ?_
  exact .ite (failsIn_badRequest _) (.ite (failsIn_badRequest _) (.ite (failsIn_badRequest _) (.ok _)))

theorem validatePositiveAmount_failsIn (amount : Int) :
    FailsIn IsBadRequest (validatePositiveAmount amount) :=
  .ite (failsIn_badRequest _) (.ok _)

theorem validateNonNegativeAmount_failsIn (field : String) (amount : Int) :
    FailsIn IsBadRequest (validateNonNegativeAmount field amount) :=
  .ite (failsIn_badRequest _) (.ok _)

theorem normalizeInstitutionId_failsIn (value : String) :
    FailsIn IsBadRequest (normalizeInstitutionId value) := by
  refine .bind (normalizeRequiredField_failsIn _ _) fun institutionId => ?_
  exact .ite (failsIn_badRequest _) (.ite (failsIn_badRequest _) (.ok _))

theorem normalizeJurisdiction_failsIn (value : String) :
    FailsIn IsBadRequest (normalizeJurisdiction value) := by
  refine .bind (normalizeRequiredField_failsIn _ _) fun jurisdiction => ?_
  exact .ite (failsIn_badRequest _) (.ite (failsIn_badRequest _) (.ok _))

theorem normalizeAssetList_failsIn (values : List String) :
    FailsIn IsBadRequest (normalizeAssetList values) :=
  .ite (failsIn_badRequest _) (.mapM normalizeAssetCode_failsIn values)

theorem normalizedClientReferenceId_failsIn (clientReferenceId idempotencyKey : Option String) :
    FailsIn IsBadRequest (normalizedClientReferenceId clientReferenceId idempotencyKey) := by
  unfold normalizedClientReferenceId
  split
  · exact .ite (failsIn_badRequest _) (.ok _)
  all_goals exact .ok _

theorem validatedPage_failsIn (limit offset : Option Int) (defaultLimit maxLimit : Int) :
    FailsIn IsBadRequest (validatedPage limit offset defaultLimit maxLimit) :=
  .ite (failsIn_badRequest _) (.ite (failsIn_badRequest _) (.ok _))

theorem validatedPage_eq_ok {queryLimit queryOffset : Option Int}
    {defaultLimit maxLimit limit offset : Int}
    (h : validatedPage queryLimit queryOffset defaultLimit maxLimit = .ok (limit, offset)) :
    limit = queryLimit.getD defaultLimit ∧ 0 < limit ∧ limit ≤ maxLimit ∧
      offset = queryOffset.getD 0 ∧ 0 ≤ offset := by
  simp only [validatedPage] at h
  split at h
  · cases h
  rename_i hlimit
  split at h
  · cases h
  rename_i hoffset
  cases h
  omega

theorem parseOptionalRfc3339_failsIn (parseRfc3339 : String → Option DateTime)
    (fieldName : String) (value : Option String) :
    FailsIn IsBadRequest (parseOptionalRfc3339 parseRfc3339 fieldName value) := by
  unfold parseOptionalRfc3339
  split
  · exact .ok _
  · split
    · exact .ok _
    · exact failsIn_badRequest _

theorem parseWindow_failsIn (parseRfc3339 : String → Option DateTime)
    (createdFrom createdTo : Option String) :
    FailsIn IsBadRequest (parseWindow parseRfc3339 createdFrom createdTo) := by
  refine .bind (parseOptionalRfc3339_failsIn _ _ _) fun first => ?_
  refine .bind (parseOptionalRfc3339_failsIn _ _ _) fun last => ?_
  split
  · exact .ite (failsIn_badRequest _) (.ok _)
  · exact .ok _

theorem CreatePaymentRequest.validate_failsIn (request : CreatePaymentRequest) :
    FailsIn IsBadRequest request.validate := by
  refine .bind (normalizeRequiredField_failsIn _ _) fun _ => ?_
  refine .bind (normalizeRequiredField_failsIn _ _) fun _ => ?_
  refine .bind (normalizeAssetCode_failsIn _) fun _ => ?_
  exact .bind (validatePositiveAmount_failsIn _) fun _ => .ok _

theorem pacs008TransferRequest_failsIn (transfer : Pacs008CreditTransfer) :
    FailsIn IsBadRequest (pacs008TransferRequest transfer) := by
  refine .bind (normalizeRequiredField_failsIn _ _) fun _ => ?_
  refine .bind (normalizeRequiredField_failsIn _ _) fun _ => ?_
  refine .bind (normalizeAssetCode_failsIn _) fun _ => ?_
  exact .bind (validatePositiveAmount_failsIn _) fun _ => .ok _

theorem SandboxMintRequest.validate_failsIn (request : SandboxMintRequest) :
    FailsIn IsBadRequest request.validate := by
  refine .bind (normalizeRequiredField_failsIn _ _) fun _ => ?_
  refine .bind (normalizeRequiredField_failsIn _ _) fun _ => ?_
  refine .bind (normalizeAssetCode_failsIn _) fun _ => ?_
  exact .bind (validatePositiveAmount_failsIn _) fun _ => .ok _

theorem CreateInstitutionRequest.validate_failsIn (request : CreateInstitutionRequest) :
    FailsIn IsBadRequest request.validate := by
  refine .bind (normalizeInstitutionId_failsIn _) fun _ => ?_
  refine .bind (normalizeInstitutionId_failsIn _) fun _ => ?_
  refine .bind (normalizeRequiredField_failsIn _ _) fun _ => ?_
  refine .bind (normalizeJurisdiction_failsIn _) fun _ => ?_
  exact .bind (normalizeAssetList_failsIn _) fun _ => .ok _

theorem CreateInstitutionCredentialRequest.validate_failsIn
    (request : CreateInstitutionCredentialRequest) : FailsIn IsBadRequest request.validate := by
  refine .bind (normalizeRequiredField_failsIn _ _) fun _ => ?_
  exact .bind (normalizeRequiredField_failsIn _ _) fun _ => .ok _

theorem SetInstitutionLimitRequest.validate_failsIn (request : SetInstitutionLimitRequest) :
    FailsIn IsBadRequest request.validate := by
  refine .bind (validateNonNegativeAmount_failsIn _ _) fun _ => ?_
  refine .bind (validateNonNegativeAmount_failsIn _ _) fun _ => ?_
  exact .ite (failsIn_badRequest _) (.bind (normalizeAssetCode_failsIn _) fun _ => .ok _)

theorem BlockFilter.tryFromQuery_failsIn (query : PageQuery) :
    FailsIn IsBadRequest (BlockFilter.tryFromQuery query) :=
  .bind (validatedPage_failsIn _ _ _ _) fun _ => .ok _

theorem Camt053StatementFilter.tryFromQuery_failsIn (query : Camt053StatementQuery) :
    FailsIn IsBadRequest (Camt053StatementFilter.tryFromQuery query) := by
  refine .bind ?_ fun asset => ?_
  · cases query.asset with
    | none => exact failsIn_badRequest _
    | some asset => exact .ok asset
  refine .bind (normalizeAssetCode_failsIn _) fun asset => ?_
  exact .bind (validatedPage_failsIn _ _ _ _) fun _ => .ok _

theorem AuditEventFilter.tryFromQuery_failsIn (parseRfc3339 : String → Option DateTime)
    (query : AuditEventQuery) :
    FailsIn IsBadRequest (AuditEventFilter.tryFromQuery parseRfc3339 query) :=
  .bind (parseWindow_failsIn _ _ _) fun _ => .bind (validatedPage_failsIn _ _ _ _) fun _ => .ok _

theorem ReportFilter.tryFromQuery_failsIn (parseRfc3339 : String → Option DateTime)
    (query : ReportQuery) :
    FailsIn IsBadRequest (ReportFilter.tryFromQuery parseRfc3339 query) :=
  .bind (parseWindow_failsIn _ _ _) fun _ => .bind (validatedPage_failsIn _ _ _ _) fun _ => .ok _

end

end KaniNetwork
