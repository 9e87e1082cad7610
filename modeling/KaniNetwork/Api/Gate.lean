/-
KaniNetwork.Api.Gate — what a request may ask of the node, by what it has
been told (`kani-api`).

A request knows of the node only the replies to its own calls, and between
two of them anything may happen. So its authority is stated on its history:
`Right.ShownIn` says that the replies show a right, `AppState.Passed` that
the caller is known, the demanded right was shown and the ALLOWED event is
recorded. `AppState.Permits` says which call may come next and
`AppState.Closes` how a request may end. Nothing here depends on what the
node is, nor on what other requests do.
-/
import KaniNetwork.Api.AsyncHandlers
import KaniNetwork.Api.Outcomes
import KaniNetwork.Base.History

namespace KaniNetwork

abbrev CallHistory := History NodeCall NodeCall.Reply

/-- The read got the value. -/
def ReadIn (h : CallHistory) (r : NodeRead) (v : r.Value) : Prop :=
  (⟨.read r, .ok v⟩ : (q : NodeCall) × q.Reply) ∈ h

/-- The operation succeeded with the value. -/
def DoneIn (h : CallHistory) (op : NodeOp) (v : op.Value) : Prop :=
  (⟨.act op, .ok v⟩ : (q : NodeCall) × q.Reply) ∈ h

/-- The event is in the audit log. -/
def AuditedIn (h : CallHistory) (event : AuditEvent) : Prop := DoneIn h (.recordAuditEvent event) ()

/-- The node failed to record an event. -/
def AuditFailedIn (h : CallHistory) : Prop :=
  ∃ event error, (⟨.act (.recordAuditEvent event), .error error⟩ : (q : NodeCall) × q.Reply) ∈ h

/-- A read, or the record of an event. -/
def NodeCall.IsQuiet : NodeCall → Prop
  | .read _ => True
  | .act (.recordAuditEvent _) => True
  | .act _ => False

/-- Nothing was asked of the node but reads and records of events. -/
def Quiet (h : CallHistory) : Prop := ∀ q ∈ h, q.1.IsQuiet

/-! ## Authority -/

/-- The caller's institution owns the account and was read as approved. -/
structure Operates (h : CallHistory) (auth : AuthenticatedInstitution) (account : Account) :
    Prop where
  found : ∃ accounts, ReadIn h .accounts accounts ∧
    accounts.find? (fun a => a.id = account.id) = some account
  owner : account.institutionId = some auth.institutionId
  approved : ∃ institution, ReadIn h (.getInstitution auth.institutionId) institution ∧
    institution.status = .approved

/-- The replies show that the caller has the right. -/
def Right.ShownIn (h : CallHistory) (auth : AuthenticatedInstitution) : Right → Prop
  | .admin => auth.isAdmin = true
  | .debit accountId | .readAccount accountId =>
    ∃ account : Account, account.id = accountId ∧ Operates h auth account
  | .issue treasury =>
    ∃ account : Account, account.id = treasury ∧ Operates h auth account ∧
      account.accountType = .treasury
  | .readPayment paymentId =>
    ∃ record accounts, ReadIn h (.getPayment paymentId) record ∧ ReadIn h .accounts accounts ∧
      (accountBelongsToInstitution accounts record.transaction.fromAccount auth.institutionId ||
        accountBelongsToInstitution accounts record.transaction.toAccount auth.institutionId) = true

namespace AppState

variable (state : AppState)

/-- The request has passed its gate. -/
structure Passed (x : Exchange) (auth : AuthenticatedInstitution) (h : CallHistory) : Prop where
  known : state.auth.authenticate x.headers = .ok auth
  allowed : ∃ demand, state.demand x.request = .ok (some demand) ∧ demand.right.ShownIn h auth ∧
    AuditedIn h (authorizationAllowed (x.draws.sub 0).stamp x.headers auth demand.action
      demand.resource)

/-- The reads a gate makes of a known caller. -/
def GateRead (x : Exchange) (auth : AuthenticatedInstitution) (r : NodeRead) : Prop :=
  r = .accounts ∨ r = .getInstitution auth.institutionId ∨
    ∃ demand id, state.demand x.request = .ok (some demand) ∧ demand.right = .readPayment id ∧
      r = .getPayment id

/-- The event of the decision of the policy on a payment of the request. -/
def screeningEvent (x : Exchange) (auth : AuthenticatedInstitution) (demand : Demand)
    (payment : CompliancePayment) : AuditEvent :=
  complianceDecisionEvent (x.draws.sub 1).stamp x.headers auth demand.action demand.resource payment
    (screenSandboxPaymentWithPolicy state.compliancePolicy payment)

/-- The request asks for the payment, and the decision on it is recorded. -/
def ScreenedAs (x : Exchange) (auth : AuthenticatedInstitution) (h : CallHistory)
    (payment : CompliancePayment) (decision : ComplianceDecision) : Prop :=
  state.AsksFor x.request payment ∧ state.decision payment = decision ∧
    ∃ demand, state.demand x.request = .ok (some demand) ∧
      AuditedIn h (state.screeningEvent x auth demand payment)

/-- What entitles a request that has passed its gate to an operation. -/
def EntitledBy (x : Exchange) (auth : AuthenticatedInstitution) (h : CallHistory) : NodeOp → Prop
  | .submitPayment _ f t a amount _ =>
    (Right.debit f).ShownIn h auth ∧ state.ScreenedAs x auth h ⟨f, t, a, amount⟩ .allow
  | .holdPaymentForReview _ f t a amount _ _ =>
    (Right.debit f).ShownIn h auth ∧ state.ScreenedAs x auth h ⟨f, t, a, amount⟩ .review
  | .mintSandbox _ treasury _ _ _ => (Right.issue treasury).ShownIn h auth
  | .burnSandbox .. => False
  | .approveComplianceCase .. | .rejectComplianceCase .. | .upsertInstitution .. |
    .suspendInstitution .. | .addInstitutionCredential .. | .upsertInstitutionLimit .. =>
    auth.isAdmin = true
  | .recordAuditEvent _ => True

/-- The calls a request may make next. An operation is the only one of its
request. -/
def Permits (x : Exchange) (h : CallHistory) : NodeCall → Prop
  | .read r =>
    ∃ auth, state.auth.authenticate x.headers = .ok auth ∧
      (state.GateRead x auth r ∨ state.Passed x auth h)
  | .act (.recordAuditEvent _) => True
  | .act op => Quiet h ∧ ∃ auth, state.Passed x auth h ∧ state.EntitledBy x auth h op

/-! ## Ends -/

/-- The event says who refused what, and why. -/
inductive RefusalEvent (x : Exchange) (error : ApiError) : AuditEvent → Prop
  | denied (demand : Demand) (auth : Option AuthenticatedInstitution)
      (hdemand : state.demand x.request = .ok (some demand)) :
      RefusalEvent x error (authorizationDenied (x.draws.sub 0).stamp x.headers auth demand.action
        demand.resource error)
  | screenedOut (demand : Demand) (auth : AuthenticatedInstitution) (payment : CompliancePayment)
      (hdemand : state.demand x.request = .ok (some demand))
      (hasked : state.AsksFor x.request payment) (hreject : state.decision payment = .reject) :
      RefusalEvent x error (state.screeningEvent x auth demand payment)

end AppState

/-- The event of an institution names the operation, the caller and the
institution. -/
def InstitutionEventOf (auth : AuthenticatedInstitution) (eventType institutionId : String)
    (event : AuditEvent) : Prop :=
  event.eventType = eventType ∧
    event.metadata.get "actor_institution_id" = some auth.institutionId ∧
    event.metadata.get "institution_id" = some institutionId

/-- The event of a case names the operation, the caller and the case. -/
def CaseEventOf (auth : AuthenticatedInstitution) (eventType : String) (c : ComplianceCase)
    (event : AuditEvent) : Prop :=
  event.eventType = eventType ∧
    event.metadata.get "operator_institution_id" = some auth.institutionId ∧
    event.metadata.get "case_id" = some c.id ∧ event.transactionId = some c.paymentId

/-- The events that attest an operation; payments are attested by their
screening. -/
def NodeOp.AttestedBy (auth : AuthenticatedInstitution) :
    (op : NodeOp) → op.Value → AuditEvent → Prop
  | .holdPaymentForReview .., (_, c), event => CaseEventOf auth "COMPLIANCE_CASE_OPENED" c event
  | .approveComplianceCase .., (c, _), event => CaseEventOf auth "COMPLIANCE_CASE_APPROVED" c event
  | .rejectComplianceCase .., (c, _), event => CaseEventOf auth "COMPLIANCE_CASE_REJECTED" c event
  | .upsertInstitution _, i, event =>
    InstitutionEventOf auth "INSTITUTION_ONBOARDING_REQUESTED" i.id event
  | .suspendInstitution _ _, i, event => InstitutionEventOf auth "INSTITUTION_SUSPENDED" i.id event
  | .addInstitutionCredential credential, c, event =>
    InstitutionEventOf auth "INSTITUTION_CREDENTIAL_CREATED" credential.institutionId event ∧
      event.metadata.get "credential_id" = some c.id
  | .upsertInstitutionLimit limit, l, event =>
    InstitutionEventOf auth "INSTITUTION_LIMIT_UPDATED" limit.institutionId event ∧
      event.metadata.get "asset" = some l.asset
  | .submitPayment .., _, _ | .mintSandbox .., _, _ | .burnSandbox .., _, _ |
    .recordAuditEvent _, _, _ => True

namespace AppState

variable (state : AppState)

/-- How a request may end. An answer is for a request that is open to all or
has passed its gate, and what it did is attested. A refusal is recorded and
did nothing; any other error did nothing either, unless an event could not
be recorded. -/
def Closes {α : Type} (x : Exchange) (h : CallHistory) : Except ApiError α → Prop
  | .ok _ =>
    state.demand x.request = .ok none ∨
      ∃ auth, state.Passed x auth h ∧ ∀ op v, DoneIn h op v → ∃ event,
        AuditedIn h event ∧ op.AttestedBy auth v event
  | .error error =>
    (error.IsRefusal → Quiet h ∧ ∃ event, AuditedIn h event ∧ state.RefusalEvent x error event) ∧
      ((∀ op v, DoneIn h op v → (NodeCall.act op).IsQuiet) ∨ AuditFailedIn h)

/-- From the history on, the handler makes the calls it may and ends as it
may. -/
structure Sound {α : Type} (x : Exchange) (p : AsyncHandler α) (h : CallHistory) : Prop where
  follows : p.Follows (state.Permits x) (state.Closes x) h

end AppState

end KaniNetwork
