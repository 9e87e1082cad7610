/-
KaniNetwork.Api.Router — the routes of the HTTP API and runs of requests
(`app` of `kani-api`).

An `HttpRequest` is a request after routing and extraction: a constructor
for each route, with the parts of the path, the query and the body its
handler takes. A request no route matches, or whose parts cannot be read,
is answered by the framework and never reaches a handler (`rejected`).
`AppState.run` is a sequence of requests; requests that end in an error are
part of it.
-/
import KaniNetwork.Api.Handlers

namespace KaniNetwork

/-- Why the framework answers a request by itself: no such path or method,
a path, query or body it cannot read, or a body that is too large. -/
inductive Rejection where
  | notFound | methodNotAllowed | badRequest | payloadTooLarge | unsupportedMediaType
  | unprocessableEntity
  deriving DecidableEq, Repr

def Rejection.statusCode : Rejection → Nat
  | .notFound => 404
  | .methodNotAllowed => 405
  | .badRequest => 400
  | .payloadTooLarge => 413
  | .unsupportedMediaType => 415
  | .unprocessableEntity => 422

inductive HttpRequest where
  | rejected (rejection : Rejection)
  | health
  | openapiJson
  | createPayment (request : CreatePaymentRequest)
  | getPayment (id : String)
  | createPacs008Payment (body : String)
  | getPacs002Status (paymentId : String)
  | getCamt053Statement (accountId : String) (query : Camt053StatementQuery)
  | getInstitutions
  | createInstitution (request : CreateInstitutionRequest)
  | getInstitution (id : String)
  | createInstitutionCredential (id : String) (request : CreateInstitutionCredentialRequest)
  | suspendInstitution (id : String)
  | setInstitutionLimit (id : String) (request : SetInstitutionLimitRequest)
  | getComplianceCases (query : PageQuery)
  | getComplianceCase (id : String)
  | approveComplianceCase (id : String) (request : ComplianceCaseResolutionRequest)
  | rejectComplianceCase (id : String) (request : ComplianceCaseResolutionRequest)
  | getAccounts
  | getPendingTransactions (query : PageQuery)
  | getBalance (accountId asset : String)
  | getIssued (asset : String)
  | getBlocks (query : PageQuery)
  | getLatestBlock
  | getAuditEvents (query : AuditEventQuery)
  | getSettlementSummaryReport (query : ReportQuery)
  | getComplianceDecisionReport (query : ReportQuery)
  | getValidatorFinalityReport (query : ReportQuery)
  | getValidators
  | sandboxMint (request : SandboxMintRequest)

/-- A request as it arrives, with the uuids and clock readings drawn while
it is served. -/
structure Exchange where
  draws : Draws
  headers : HeaderMap
  request : HttpRequest

namespace AppState

variable (state : AppState)

/-- The handler of a request. -/
def handle (d : Draws) (headers : HeaderMap) : HttpRequest → Handler Response
  | .rejected rejection => return ⟨rejection.statusCode, .rejection⟩
  | .health => health
  | .openapiJson => openapiJson
  | .createPayment request => state.createPayment d headers request
  | .getPayment id => state.getPayment d headers id
  | .createPacs008Payment body => state.createPacs008Payment d headers body
  | .getPacs002Status paymentId => state.getPacs002Status d headers paymentId
  | .getCamt053Statement accountId query => state.getCamt053Statement d headers accountId query
  | .getInstitutions => state.getInstitutions d headers
  | .createInstitution request => state.createInstitution d headers request
  | .getInstitution id => state.getInstitution d headers id
  | .createInstitutionCredential id request =>
    state.createInstitutionCredential d headers id request
  | .suspendInstitution id => state.suspendInstitutionHandler d headers id
  | .setInstitutionLimit id request => state.setInstitutionLimit d headers id request
  | .getComplianceCases query => state.getComplianceCases d headers query
  | .getComplianceCase id => state.getComplianceCaseHandler d headers id
  | .approveComplianceCase id request => state.approveComplianceCaseHandler d headers id request
  | .rejectComplianceCase id request => state.rejectComplianceCaseHandler d headers id request
  | .getAccounts => state.getAccounts d headers
  | .getPendingTransactions query => state.getPendingTransactions d headers query
  | .getBalance accountId asset => state.getBalance d headers accountId asset
  | .getIssued asset => state.getIssued d headers asset
  | .getBlocks query => state.getBlocks d headers query
  | .getLatestBlock => state.getLatestBlock d headers
  | .getAuditEvents query => state.getAuditEvents d headers query
  | .getSettlementSummaryReport query => state.getSettlementSummaryReport d headers query
  | .getComplianceDecisionReport query => state.getComplianceDecisionReport d headers query
  | .getValidatorFinalityReport query => state.getValidatorFinalityReport d headers query
  | .getValidators => state.getValidators d headers
  | .sandboxMint request => state.sandboxMint d headers request

/-- Serve a request: the ledger it leaves behind and the response. -/
def serve (l : InMemoryLedger) (x : Exchange) : InMemoryLedger × Response :=
  match state.handle x.draws x.headers x.request l with
  | (l', .ok response) => (l', response)
  | (l', .error error) => (l', error.intoResponse)

/-- The ledger after a sequence of requests. -/
def run (l : InMemoryLedger) (xs : List Exchange) : InMemoryLedger :=
  xs.foldl (fun l x => (state.serve l x).1) l

end AppState

end KaniNetwork
