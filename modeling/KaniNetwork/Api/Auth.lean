/-
KaniNetwork.Api.Auth — authentication and authorization of requests
(`kani-api`).

A request names its institution and its key in two headers. Every guarded
handler authenticates them, checks one right of the caller against the
ledger, and records the decision as an audit event before it does anything
else. The handlers of the source write this sequence out;
`auditAuthorization` is its second half, `authorizeRequest` the whole of
it, and `authorizeRequest_ends` says what it leaves behind in each case.
-/
import KaniNetwork.Api.Requests
import KaniNetwork.Compliance.Screening
import KaniNetwork.Node.Memory

namespace KaniNetwork

def INSTITUTION_ID_HEADER : String := "x-kani-institution-id"
def API_KEY_HEADER : String := "x-kani-api-key"

/-! ## Headers -/

/-- The headers of a request in order, names in lower case, values as
bytes. -/
abbrev HeaderMap := List (String × List UInt8)

/-- `HeaderMap::get`: the first value under a name. -/
def headerValue (headers : HeaderMap) (name : String) : Option (List UInt8) :=
  (headers.find? fun header => header.1 = name).map Prod.snd

/-- `HeaderValue::to_str`: visible ASCII, spaces and tabs. -/
def headerText (value : List UInt8) : Option String :=
  if value.all fun byte => byte = 9 || (32 ≤ byte && byte < 127) then
    some (String.ofList (value.map fun byte => Char.ofNat byte.toNat))
  else none

/-- `required_header`. -/
def requiredHeader (headers : HeaderMap) (name : String) : Except ApiError String :=
  match headerValue headers name with
  | none => .error (.unauthorized ("missing " ++ name ++ " header"))
  | some value =>
    match headerText value with
    | none => .error (.unauthorized "invalid sandbox credentials")
    | some text =>
      if (trim text).isEmpty then .error (.unauthorized ("missing " ++ name ++ " header"))
      else .ok (trim text)

/-- `institution_hint`. -/
def institutionHint (headers : HeaderMap) : Option String :=
  (headerValue headers INSTITUTION_ID_HEADER).bind fun value =>
    (headerText value).bind nonEmptyTrimmed

/-! ## Credentials -/

inductive SandboxCredentialRole where
  | institution | admin
  deriving DecidableEq, Repr

structure SandboxCredential where
  institutionId : String
  apiKey : String
  role : SandboxCredentialRole
  deriving DecidableEq, Repr

structure SandboxAuthConfig where
  credentials : List SandboxCredential
  deriving DecidableEq, Repr

structure AuthenticatedInstitution where
  institutionId : String
  isAdmin : Bool
  deriving DecidableEq, Repr

namespace SandboxAuthConfig

def newWithAdmins (institutionCredentials adminCredentials : List (String × String)) :
    SandboxAuthConfig where
  credentials :=
    institutionCredentials.map (fun c => ⟨c.1, c.2, .institution⟩)
      ++ adminCredentials.map (fun c => ⟨c.1, c.2, .admin⟩)

/-- The role is that of the first credential with the id and the key. -/
def authenticate (config : SandboxAuthConfig) (headers : HeaderMap) :
    Except ApiError AuthenticatedInstitution := do
  let institutionId ← requiredHeader headers INSTITUTION_ID_HEADER
  let apiKey ← requiredHeader headers API_KEY_HEADER
  match config.credentials.find? fun credential =>
      credential.institutionId = institutionId && credential.apiKey = apiKey with
  | some credential => .ok ⟨institutionId, credential.role = .admin⟩
  | none => .error (.unauthorized "invalid sandbox credentials")

/-- The headers carry the id and the key of a configured credential. -/
structure Holds (config : SandboxAuthConfig) (headers : HeaderMap) (institutionId : String) :
    Prop where
  id : requiredHeader headers INSTITUTION_ID_HEADER = .ok institutionId
  key : ∃ credential ∈ config.credentials, credential.institutionId = institutionId ∧
    requiredHeader headers API_KEY_HEADER = .ok credential.apiKey

theorem authenticate_eq_ok {config : SandboxAuthConfig} {headers : HeaderMap}
    {auth : AuthenticatedInstitution} (h : config.authenticate headers = .ok auth) :
    config.Holds headers auth.institutionId := by
  simp only [authenticate, bind_eq_ok_iff] at h
  obtain ⟨institutionId, hid, apiKey, hkey, h⟩ := h
  split at h
  · rename_i credential hfind
    cases h
    have hmatch := List.find?_some hfind
    simp only [Bool.and_eq_true, decide_eq_true_eq] at hmatch
    refine ⟨hid, credential, List.mem_of_find?_eq_some hfind, hmatch.1, ?_⟩
    rw [hkey, hmatch.2]
  · cases h

end SandboxAuthConfig

/-- `auth_role`. -/
def authRole (auth : AuthenticatedInstitution) : String :=
  if auth.isAdmin then "ADMIN" else "INSTITUTION"

/-! ## Rights -/

/-- What the API takes from libraries outside the repository. -/
structure ApiLibraries where
  parseXml : String → Except String XmlDocument
  parseRfc3339 : String → Option DateTime
  toRfc3339 : DateTime → String
  sqlxMessage : SqlxError → String

/-- `AppState`. -/
structure AppState where
  libraries : ApiLibraries
  node : KaniNode
  auth : SandboxAuthConfig
  compliancePolicy : SandboxCompliancePolicy

/-- A handler's body, on the ledger of the node. -/
abbrev Handler : Type → Type := Method InMemoryLedger ApiError

namespace AppState

variable (state : AppState)

/-- A ledger result behind `?`. -/
def ofLedger {α : Type} (result : Except LedgerError α) : Except ApiError α :=
  result.mapError fun error => .ofNodeError state.libraries.sqlxMessage (.ledger error)

/-- A node call behind `?`. -/
def callNode {α : Type} (call : Method InMemoryLedger NodeError α) : Handler α :=
  call.mapError (.ofNodeError state.libraries.sqlxMessage)

/-- `ensure_institution_can_operate`. -/
def ensureInstitutionCanOperate (l : InMemoryLedger) (institutionId : String) :
    Except ApiError Unit := do
  let institution ← state.ofLedger (l.getInstitution institutionId)
  if institution.status = .approved then .ok ()
  else
    .error (.forbidden
      ("institution " ++ institutionId ++ " is not approved for account operations"))

end AppState

/-- `ensure_account_exists`. -/
def ensureAccountExists (l : InMemoryLedger) (accountId : String) : Except ApiError Account :=
  match l.accounts.values.find? fun account => account.id = accountId with
  | some account => .ok account
  | none => .error (.badRequest ("account " ++ accountId ++ " does not exist"))

namespace AppState

variable (state : AppState)

/-- `authorize_account_access`. -/
def authorizeAccountAccess (l : InMemoryLedger) (auth : AuthenticatedInstitution)
    (accountId action : String) : Except ApiError Account := do
  let account ← ensureAccountExists l accountId
  if account.institutionId = some auth.institutionId then do
    state.ensureInstitutionCanOperate l auth.institutionId
    return account
  else
    .error (.forbidden ("institution is not authorized to " ++ action ++ " account " ++ accountId))

/-- `authorize_account_control`. -/
def authorizeAccountControl (l : InMemoryLedger) (auth : AuthenticatedInstitution)
    (accountId : String) : Except ApiError Account :=
  state.authorizeAccountAccess l auth accountId "debit"

/-- `authorize_account_read`. -/
def authorizeAccountRead (l : InMemoryLedger) (auth : AuthenticatedInstitution)
    (accountId : String) : Except ApiError Account :=
  state.authorizeAccountAccess l auth accountId "read"

/-- The two checks of `sandbox_mint`: control of the account, which is a
treasury account. -/
def authorizeTreasury (l : InMemoryLedger) (auth : AuthenticatedInstitution)
    (treasury : String) : Except ApiError Account := do
  let account ← state.authorizeAccountControl l auth treasury
  if account.accountType ≠ .treasury then
    .error (.badRequest ("account " ++ treasury ++ " is not a treasury account"))
  else .ok account

end AppState

/-- `account_belongs_to_institution`. -/
def accountBelongsToInstitution (accounts : List Account) (accountId institutionId : String) :
    Bool :=
  accounts.any fun account =>
    account.id = accountId && account.institutionId = some institutionId

/-- `authorize_payment_read`. -/
def authorizePaymentRead (l : InMemoryLedger) (auth : AuthenticatedInstitution)
    (payment : PaymentRecord) : Except ApiError Unit :=
  let accounts := l.accounts.values
  if accountBelongsToInstitution accounts payment.transaction.fromAccount auth.institutionId
      || accountBelongsToInstitution accounts payment.transaction.toAccount auth.institutionId then
    .ok ()
  else
    .error (.forbidden
      ("institution is not authorized to read payment " ++ payment.transaction.id))

/-- `authorize_admin`. -/
def authorizeAdmin (auth : AuthenticatedInstitution) : Except ApiError Unit :=
  if auth.isAdmin then .ok ()
  else .error (.forbidden "admin credentials are required for network-wide reads")

/-! ## Decisions -/

/-- The event of `audit_authorization_decision`. -/
def authorizationDecision (s : Stamp) (headers : HeaderMap) (auth : Option AuthenticatedInstitution)
    (action resource decision reason : String) (statusCode : Nat) : AuditEvent :=
  let institutionId :=
    ((auth.map AuthenticatedInstitution.institutionId).or (institutionHint headers)).getD "UNKNOWN"
  let role := (auth.map authRole).getD "UNKNOWN"
  let metadata := BTreeMap.new
    |>.insert "action" action
    |>.insert "decision" decision
    |>.insert "institution_id" institutionId
    |>.insert "reason" reason
    |>.insert "resource" resource
    |>.insert "role" role
    |>.insert "status_code" (toString statusCode)
  (AuditEvent.new s "API_AUTHORIZATION_DECISION"
    ("api authorization decision decision=" ++ decision ++ " action=" ++ action ++ " resource="
      ++ resource ++ " institution_id=" ++ institutionId ++ " status_code=" ++ toString statusCode)
    none none).withMetadata metadata

/-- The event of `audit_authorization_allowed`. -/
def authorizationAllowed (s : Stamp) (headers : HeaderMap) (auth : AuthenticatedInstitution)
    (action resource : String) : AuditEvent :=
  authorizationDecision s headers (some auth) action resource "ALLOWED" "authorized" 200

/-- The event of `audit_authorization_denied`. -/
def authorizationDenied (s : Stamp) (headers : HeaderMap) (auth : Option AuthenticatedInstitution)
    (action resource : String) (error : ApiError) : AuditEvent :=
  authorizationDecision s headers auth action resource "DENIED" error.message error.statusCode

theorem authorizationDecision_decision (s : Stamp) (headers : HeaderMap)
    (auth : Option AuthenticatedInstitution) (action resource decision reason : String)
    (statusCode : Nat) :
    (authorizationDecision s headers auth action resource decision reason
      statusCode).metadata.get "decision" = some decision := by
  simp [authorizationDecision, AuditEvent.withMetadata, BTreeMap.get_insert]

/-- `record_audit_event` of the node without storage. -/
def recordAuditEvent (event : AuditEvent) : Handler Unit := .modify (·.recordAuditEvent event)

/-- The decision on a check: an ALLOWED event and its value, or a DENIED
event and its error. -/
def auditAuthorization {α : Type} (s : Stamp) (headers : HeaderMap)
    (auth : AuthenticatedInstitution) (action resource : String) (check : Except ApiError α) :
    Handler α :=
  match check with
  | .ok a => do
    recordAuditEvent (authorizationAllowed s headers auth action resource)
    return a
  | .error error => do
    recordAuditEvent (authorizationDenied s headers (some auth) action resource error)
    .throw error

namespace AppState

variable (state : AppState)

/-- `authenticate_request`. -/
def authenticateRequest (s : Stamp) (headers : HeaderMap) (action resource : String) :
    Handler AuthenticatedInstitution :=
  match state.auth.authenticate headers with
  | .ok auth => return auth
  | .error error => do
    recordAuditEvent (authorizationDenied s headers none action resource error)
    .throw error

/-- Authenticate the caller and check a right of theirs against the ledger. -/
def authorizeRequest {α : Type} (s : Stamp) (headers : HeaderMap) (action resource : String)
    (check : InMemoryLedger → AuthenticatedInstitution → Except ApiError α) :
    Handler (AuthenticatedInstitution × α) := do
  let auth ← state.authenticateRequest s headers action resource
  let l ← .get
  let a ← auditAuthorization s headers auth action resource (check l auth)
  return (auth, a)

/-- `authorize_admin_request`. -/
def authorizeAdminRequest (s : Stamp) (headers : HeaderMap) (action resource : String) :
    Handler AuthenticatedInstitution := do
  let (auth, _) ← state.authorizeRequest s headers action resource fun _ auth => authorizeAdmin auth
  return auth

/-! ### The gate -/

section

variable {state} {s : Stamp} {headers : HeaderMap} {action resource : String} {l : InMemoryLedger}
  {onError : ApiError → InMemoryLedger → Prop}

/-- An unknown caller leaves one DENIED event. -/
theorem authenticateRequest_ends
    (hunknown : ∀ error, state.auth.authenticate headers = .error error →
      onError error (l.recordAuditEvent
        (authorizationDenied s headers none action resource error))) :
    (state.authenticateRequest s headers action resource).Ends l
      (fun auth l' => state.auth.authenticate headers = .ok auth ∧ l' = l) onError := by
  unfold authenticateRequest
  cases hauth : state.auth.authenticate headers with
  | ok auth => exact .pure ⟨rfl, rfl⟩
  | error error => exact .modify_bind (.throw (hunknown error hauth))

/-- A checked right leaves one event, ALLOWED or DENIED. -/
theorem auditAuthorization_ends {α : Type} {auth : AuthenticatedInstitution}
    {check : Except ApiError α}
    (hdenied : ∀ error, check = .error error →
      onError error (l.recordAuditEvent
        (authorizationDenied s headers (some auth) action resource error))) :
    (auditAuthorization s headers auth action resource check).Ends l
      (fun a l' => check = .ok a ∧
        l' = l.recordAuditEvent (authorizationAllowed s headers auth action resource)) onError := by
  unfold auditAuthorization
  cases hcheck : check with
  | ok a => exact .modify_bind (.pure ⟨rfl, rfl⟩)
  | error error => exact .modify_bind (.throw (hdenied error hcheck))

/-- **The gate of a guarded handler** leaves exactly one event behind, and
lets through who is known and has the right. -/
theorem authorizeRequest_ends {α : Type}
    {check : InMemoryLedger → AuthenticatedInstitution → Except ApiError α}
    (hunknown : ∀ error, state.auth.authenticate headers = .error error →
      onError error (l.recordAuditEvent
        (authorizationDenied s headers none action resource error)))
    (hdenied : ∀ auth error, state.auth.authenticate headers = .ok auth →
      check l auth = .error error →
      onError error (l.recordAuditEvent
        (authorizationDenied s headers (some auth) action resource error))) :
    (state.authorizeRequest s headers action resource check).Ends l
      (fun r l' => state.auth.authenticate headers = .ok r.1 ∧ check l r.1 = .ok r.2 ∧
        l' = l.recordAuditEvent (authorizationAllowed s headers r.1 action resource)) onError := by
  refine .bind (authenticateRequest_ends hunknown) ?_
  rintro auth l' ⟨hauth, rfl⟩
  refine .get_bind (.bind (auditAuthorization_ends fun error => hdenied auth error hauth) ?_)
  intro a l' h
  exact .pure ⟨hauth, h.1, h.2⟩

end

end AppState

end KaniNetwork
