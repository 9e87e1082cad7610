/-
KaniNetwork.Api.Decisions — what a request may do to the ledger
(`kani-api`).

* `AppState.demand` — the action, the resource and the right a request is
  checked for, read off the request alone.
* `AppState.denial` — the error and the event of a request whose caller is
  unknown or lacks that right.
* `AppState.Entitled` — who may make which call of the node.
* `Outcome` — the five ways to answer a request, with what each does to the
  ledger. `handle_outcome` goes through the handlers once; what is said
  about requests afterwards is a case analysis of `Outcome`.

A denied request leaves its DENIED event and nothing else
(`refused_changes_only_the_log`), and only a request that is answered with
success reaches the node, by a call its caller is entitled to.
-/
import KaniNetwork.Api.Router
import KaniNetwork.Node.MemoryTheorems

namespace KaniNetwork

open InMemoryLedger

/-! ## Demands -/

/-- What a guarded handler checks of an authenticated caller. -/
inductive Right where
  | admin
  | debit (accountId : String)
  | issue (treasury : String)
  | readAccount (accountId : String)
  | readPayment (paymentId : String)

structure Demand where
  action : String
  resource : String
  right : Right

namespace AppState

variable (state : AppState)

/-- The check of a right. A payment that does not exist is nobody's to
deny. -/
def checkRight (l : InMemoryLedger) (auth : AuthenticatedInstitution) : Right → Except ApiError Unit
  | .admin => authorizeAdmin auth
  | .debit accountId => (state.authorizeAccountControl l auth accountId).map fun _ => ()
  | .issue treasury => (state.authorizeTreasury l auth treasury).map fun _ => ()
  | .readAccount accountId => (state.authorizeAccountRead l auth accountId).map fun _ => ()
  | .readPayment paymentId =>
    match l.getPayment paymentId with
    | .ok record => authorizePaymentRead l auth record
    | .error _ => .ok ()

/-- The payment a request asks for, when it is well formed. -/
def payment : HttpRequest → Except ApiError (Option ValidatedPaymentRequest)
  | .createPayment request => request.validate.map some
  | .createPacs008Payment body => (state.readPacs008 body).map fun r => some r.2
  | _ => .ok none

/-- What a request is checked for: an error when it is malformed, none when
it is open to all. -/
def demand (request : HttpRequest) : Except ApiError (Option Demand) :=
  let admin (action resource : String) : Except ApiError (Option Demand) :=
    .ok (some ⟨action, resource, .admin⟩)
  match request with
  | .rejected _ | .health | .openapiJson => .ok none
  | .createPayment request => do
    let request ← request.validate
    return some ⟨"create_payment", "account:" ++ request.fromAccount, .debit request.fromAccount⟩
  | .createPacs008Payment body => do
    let (_, request) ← state.readPacs008 body
    return some ⟨"submit_iso20022_pacs008", "account:" ++ request.fromAccount,
      .debit request.fromAccount⟩
  | .sandboxMint request => do
    let request ← request.validate
    return some ⟨"sandbox_mint", "account:" ++ request.treasury, .issue request.treasury⟩
  | .getPayment id => .ok (some ⟨"read_payment", "payment:" ++ id, .readPayment id⟩)
  | .getPacs002Status id => .ok (some ⟨"read_iso20022_pacs002", "payment:" ++ id, .readPayment id⟩)
  | .getCamt053Statement accountId query => do
    let filter ← Camt053StatementFilter.tryFromQuery query
    return some ⟨"read_iso20022_camt053", "account:" ++ accountId ++ ":camt053:" ++ filter.asset,
      .readAccount accountId⟩
  | .getBalance accountId asset => do
    let asset ← normalizeAssetCode asset
    return some ⟨"read_balance", "account:" ++ accountId ++ ":balance:" ++ asset,
      .readAccount accountId⟩
  | .getInstitutions => admin "read_institutions" "network:institutions"
  | .createInstitution request => do
    let request ← request.validate
    admin "create_institution" ("institution:" ++ request.id)
  | .getInstitution id => do
    let institutionId ← normalizeInstitutionId id
    admin "read_institution" ("institution:" ++ institutionId)
  | .createInstitutionCredential id request => do
    let institutionId ← normalizeInstitutionId id
    let _ ← request.validate
    admin "create_institution_credential" ("institution:" ++ institutionId ++ ":credential")
  | .suspendInstitution id => do
    let institutionId ← normalizeInstitutionId id
    admin "suspend_institution" ("institution:" ++ institutionId)
  | .setInstitutionLimit id request => do
    let institutionId ← normalizeInstitutionId id
    let request ← request.validate
    admin "set_institution_limits" ("institution:" ++ institutionId ++ ":limits:" ++ request.asset)
  | .getComplianceCases _ => admin "read_compliance_cases" "network:compliance_cases"
  | .getComplianceCase id => admin "read_compliance_case" ("compliance_case:" ++ id)
  | .approveComplianceCase id _ => admin "approve_compliance_case" ("compliance_case:" ++ id)
  | .rejectComplianceCase id _ => admin "reject_compliance_case" ("compliance_case:" ++ id)
  | .getAccounts => admin "read_accounts" "network:accounts"
  | .getPendingTransactions _ => admin "read_pending_transactions" "network:pending_transactions"
  | .getIssued asset => do
    let asset ← normalizeAssetCode asset
    admin "read_issued_supply" ("asset:" ++ asset ++ ":issued")
  | .getBlocks _ => admin "read_blocks" "network:blocks"
  | .getLatestBlock => admin "read_latest_block" "network:latest_block"
  | .getAuditEvents _ => admin "read_audit_events" "network:audit_events"
  | .getSettlementSummaryReport _ => admin "read_settlement_report" "network:reports:settlement_summary"
  | .getComplianceDecisionReport _ =>
    admin "read_compliance_report" "network:reports:compliance_decisions"
  | .getValidatorFinalityReport _ => admin "read_validator_report" "network:reports:validator_finality"
  | .getValidators => admin "read_validators" "network:validators"

/-- The error and the event of a request that fails authentication or
authorization. -/
def denial (l : InMemoryLedger) (x : Exchange) : Option (ApiError × AuditEvent) :=
  let denied (demand : Demand) (auth : Option AuthenticatedInstitution) (error : ApiError) :=
    (error, authorizationDenied (x.draws.sub 0).stamp x.headers auth demand.action demand.resource error)
  match state.demand x.request with
  | .ok (some demand) =>
    match state.auth.authenticate x.headers with
    | .error error => some (denied demand none error)
    | .ok auth =>
      match state.checkRight l auth demand.right with
      | .error error => some (denied demand (some auth) error)
      | .ok () => none
  | _ => none

/-! ## Entitlements -/

/-- The headers carry a credential of the institution that owns the account,
and that institution is approved. -/
def Controls (l : InMemoryLedger) (headers : HeaderMap) (accountId : String) : Prop :=
  ∃ institutionId, state.auth.Holds headers institutionId ∧
    (∃ account, ensureAccountExists l accountId = .ok account ∧
      account.institutionId = some institutionId) ∧
    ∃ institution, l.getInstitution institutionId = .ok institution ∧
      institution.status = .approved

/-- The headers carry an admin credential. -/
def ByAdmin (headers : HeaderMap) : Prop :=
  ∃ auth, state.auth.authenticate headers = .ok auth ∧ auth.isAdmin = true

/-- The decision of the policy on a payment. -/
def decision (payment : CompliancePayment) : ComplianceDecision :=
  (screenSandboxPaymentWithPolicy state.compliancePolicy payment).decision

/-- The request is one for the payment. -/
def AsksFor (request : HttpRequest) (payment : CompliancePayment) : Prop :=
  ∃ validated, state.payment request = .ok (some validated) ∧
    validated.compliancePayment = payment

/-- What entitles a request to a call of the node. -/
def Entitled (l : InMemoryLedger) (x : Exchange) : NodeOp → Prop
  | .submitPayment _ f t a amount _ =>
    state.AsksFor x.request ⟨f, t, a, amount⟩ ∧ state.Controls l x.headers f ∧
      state.decision ⟨f, t, a, amount⟩ = .allow
  | .holdPaymentForReview _ f t a amount _ _ =>
    state.AsksFor x.request ⟨f, t, a, amount⟩ ∧ state.Controls l x.headers f ∧
      state.decision ⟨f, t, a, amount⟩ = .review
  | .mintSandbox _ treasury _ _ _ => state.Controls l x.headers treasury
  | .burnSandbox .. => False
  | .approveComplianceCase .. | .rejectComplianceCase .. | .upsertInstitution .. |
    .suspendInstitution .. | .addInstitutionCredential .. | .upsertInstitutionLimit .. =>
    state.ByAdmin x.headers
  | .recordAuditEvent _ => True

theorem authorizeAdmin_eq_ok {auth : AuthenticatedInstitution} (h : authorizeAdmin auth = .ok ()) :
    auth.isAdmin = true := by
  unfold authorizeAdmin at h
  split at h
  · assumption
  · cases h

variable {state}

theorem controls_of_authorizeAccountAccess {l : InMemoryLedger} {headers : HeaderMap}
    {auth : AuthenticatedInstitution} {accountId action : String} {account : Account}
    (hauth : state.auth.authenticate headers = .ok auth)
    (h : state.authorizeAccountAccess l auth accountId action = .ok account) :
    state.Controls l headers accountId := by
  simp only [authorizeAccountAccess, bind_eq_ok_iff] at h
  obtain ⟨found, hfound, h⟩ := h
  split at h
  · rename_i howner
    simp only [bind_eq_ok_iff, ensureInstitutionCanOperate] at h
    obtain ⟨_, ⟨institution, hinstitution, h⟩, _⟩ := h
    split at h
    · rename_i happroved
      refine ⟨auth.institutionId, SandboxAuthConfig.authenticate_eq_ok hauth,
        ⟨found, hfound, howner⟩, institution, ?_, happroved⟩
      exact mapError_eq_ok_iff.mp hinstitution
    · cases h
  · cases h

theorem controls_of_authorizeTreasury {l : InMemoryLedger} {headers : HeaderMap}
    {auth : AuthenticatedInstitution} {treasury : String} {account : Account}
    (hauth : state.auth.authenticate headers = .ok auth)
    (h : state.authorizeTreasury l auth treasury = .ok account) :
    state.Controls l headers treasury := by
  simp only [authorizeTreasury, bind_eq_ok_iff] at h
  obtain ⟨found, hfound, -⟩ := h
  exact controls_of_authorizeAccountAccess hauth hfound

end AppState

/-! ## Outcomes -/

/-- Only the audit log grew, at its end. -/
def Audited (l l' : InMemoryLedger) : Prop :=
  ∃ events, l' = { l with auditEvents := l.auditEvents ++ events }

namespace Audited

variable {l l' : InMemoryLedger}

theorem refl (l : InMemoryLedger) : Audited l l := ⟨[], by rw [List.append_nil]⟩

theorem record (h : Audited l l') (event : AuditEvent) : Audited l (l'.recordAuditEvent event) := by
  obtain ⟨events, rfl⟩ := h
  refine ⟨events ++ [event], ?_⟩
  simp only [InMemoryLedger.recordAuditEvent, List.append_assoc]

end Audited

/-- The response is 401 or 403. -/
def Response.IsRefusal (response : Response) : Prop :=
  response.status = 401 ∨ response.status = 403

namespace AppState

variable (state : AppState)

/-- What a request that succeeds does to the ledger. -/
inductive Served (l : InMemoryLedger) (x : Exchange) : InMemoryLedger → Prop
  /-- It was a read, or asked for nothing. -/
  | answered (l' : InMemoryLedger) (hallowed : state.denial l x = none) (hl' : Audited l l') :
      Served l x l'
  /-- It made one call of the node. -/
  | acted (op : NodeOp) (l₁ l' : InMemoryLedger) (hallowed : state.denial l x = none)
      (hop : state.Entitled l x op) (hl₁ : Audited l l₁)
      (hl' : Audited (state.node.step l₁ op) l') : Served l x l'

/-- What a request that ends in an error does to the ledger. -/
inductive Failed (l : InMemoryLedger) (x : Exchange) : InMemoryLedger → ApiError → Prop
  /-- Its caller is unknown or lacks the right. -/
  | denied (error : ApiError) (event : AuditEvent) (h : state.denial l x = some (error, event)) :
      Failed l x (l.recordAuditEvent event) error
  /-- The policy rejects its payment. -/
  | screenedOut (error : ApiError) (demand : Demand) (auth : AuthenticatedInstitution)
      (request : ValidatedPaymentRequest) (hallowed : state.denial l x = none)
      (hdemand : state.demand x.request = .ok (some demand))
      (hauth : state.auth.authenticate x.headers = .ok auth)
      (hpayment : state.payment x.request = .ok (some request))
      (hreject : state.decision request.compliancePayment = .reject) :
      Failed l x ((l.recordAuditEvent (authorizationAllowed (x.draws.sub 0).stamp x.headers auth
          demand.action demand.resource)).recordAuditEvent
        (complianceDecisionEvent (x.draws.sub 1).stamp x.headers auth demand.action demand.resource
          request.compliancePayment
          (screenSandboxPaymentWithPolicy state.compliancePolicy request.compliancePayment))) error
  /-- It is malformed, or fails after its caller was let through. -/
  | faulty (l' : InMemoryLedger) (error : ApiError) (hallowed : state.denial l x = none)
      (hl' : Audited l l') (herror : ¬ error.IsRefusal) : Failed l x l' error

/-- Serving `x` on `l`, the rest `m` of a handler run from `l₁` ends as it
may. -/
def Answers {α : Type} (l : InMemoryLedger) (x : Exchange) (P : α → Prop) (m : Handler α)
    (l₁ : InMemoryLedger) : Prop :=
  m.Ends l₁ (fun a l' => P a ∧ state.Served l x l') (fun error l' => state.Failed l x l' error)

section

variable {state} {α β : Type} {l l₁ : InMemoryLedger} {x : Exchange} {P : β → Prop}
  {f : α → Handler β}

theorem Answers.pure {b : β} (hallowed : state.denial l x = none) (hl₁ : Audited l l₁) (hb : P b) :
    state.Answers l x P (pure b) l₁ :=
  Method.Ends.pure ⟨hb, .answered l₁ hallowed hl₁⟩

theorem Answers.get {f : InMemoryLedger → Handler β} (h : state.Answers l x P (f l₁) l₁) :
    state.Answers l x P (.get >>= f) l₁ :=
  Method.Ends.get_bind h

theorem Answers.record {event : AuditEvent} {f : Unit → Handler β}
    (h : state.Answers l x P (f ()) (l₁.recordAuditEvent event)) :
    state.Answers l x P (recordAuditEvent event >>= f) l₁ :=
  Method.Ends.modify_bind h

/-- A check that does not refuse. -/
theorem Answers.check {r : Except ApiError α} (hallowed : state.denial l x = none)
    (hl₁ : Audited l l₁) (hr : FailsIn (fun error => ¬ error.IsRefusal) r)
    (hf : ∀ a, r = .ok a → state.Answers l x P (f a) l₁) :
    state.Answers l x P (.ofExcept r >>= f) l₁ :=
  .ofExcept_bind (fun error h => .faulty l₁ error hallowed hl₁ (hr error h)) hf

/-- A call of the node that changes nothing when it fails. -/
theorem Answers.call {call : Method InMemoryLedger NodeError α} (hcall : call.Commits)
    (hallowed : state.denial l x = none) (hl₁ : Audited l l₁)
    (hf : ∀ l₂ a, call l₁ = (l₂, .ok a) → state.Answers l x P (f a) l₂) :
    state.Answers l x P (state.callNode call >>= f) l₁ := by
  have hends : call.Ends l₁ (fun a l₂ => call l₁ = (l₂, .ok a)) (fun _ l₂ => l₂ = l₁) :=
    hcall.ends (fun _ _ h => h) fun _ => rfl
  refine .bind (hends.mapError ?_) fun a l₂ => hf l₂ a
  rintro error l₂ rfl
  exact .faulty l₂ _ hallowed hl₁ (ApiError.not_isRefusal_ofNodeError _ error)

/-- A call of the node that succeeded, with the events recorded after it. -/
theorem Served.called (op : NodeOp) {r : InMemoryLedger × Except NodeError α}
    {l₂ l' : InMemoryLedger} {a : α} (hrun : r = (l₂, .ok a)) (hstep : state.node.step l₁ op = r.1)
    (hallowed : state.denial l x = none) (hop : state.Entitled l x op) (hl₁ : Audited l l₁)
    (hl' : Audited l₂ l') : state.Served l x l' := by
  refine .acted op l₁ l' hallowed hop hl₁ ?_
  rw [hstep, hrun]
  exact hl'

theorem denial_of_malformed {error : ApiError} (h : state.demand x.request = .error error) :
    state.denial l x = none := by
  rw [denial, h]

/-- What stands before the authentication only reads the request. -/
theorem Answers.read {r : Except ApiError α} (hr : FailsIn ApiError.IsBadRequest r)
    (hmalformed : ∀ error, r = .error error → state.demand x.request = .error error)
    (hf : ∀ a, r = .ok a → state.Answers l x P (f a) l) :
    state.Answers l x P (.ofExcept r >>= f) l := by
  refine .ofExcept_bind (fun error h => ?_) hf
  exact .faulty l error (denial_of_malformed (hmalformed error h)) (.refl l) (hr error h).not_isRefusal

/-- **The gate** denies as `denial` says, and lets all others through. -/
theorem gate_ends {action resource : String} (right : Right)
    {check : InMemoryLedger → AuthenticatedInstitution → Except ApiError α}
    (hdemand : state.demand x.request = .ok (some ⟨action, resource, right⟩))
    (hcheck : ∀ auth, (check l auth).map (fun _ => ()) = state.checkRight l auth right) :
    (state.authorizeRequest (x.draws.sub 0).stamp x.headers action resource check).Ends l
      (fun r l' => state.denial l x = none ∧ state.auth.authenticate x.headers = .ok r.1 ∧
        check l r.1 = .ok r.2 ∧ l' = l.recordAuditEvent
          (authorizationAllowed (x.draws.sub 0).stamp x.headers r.1 action resource))
      (fun error l' => state.Failed l x l' error) := by
  refine (authorizeRequest_ends (fun error hauth => ?_) fun auth error hauth herror => ?_).mono ?_
    fun error l' h => h
  · refine .denied error _ ?_
    simp only [denial, hdemand, hauth]
  · refine .denied error _ ?_
    have hright : state.checkRight l auth right = .error error := by
      rw [← hcheck auth, herror]
      rfl
    simp only [denial, hdemand, hauth, hright]
  · intro r l' h
    obtain ⟨hauth, ha, hl'⟩ := h
    have hright : state.checkRight l r.1 right = .ok () := by
      rw [← hcheck r.1, ha]
      rfl
    refine ⟨?_, hauth, ha, hl'⟩
    simp only [denial, hdemand, hauth, hright]

theorem Answers.guard {action resource : String} (right : Right)
    {check : InMemoryLedger → AuthenticatedInstitution → Except ApiError α}
    {f : AuthenticatedInstitution × α → Handler β}
    (hdemand : state.demand x.request = .ok (some ⟨action, resource, right⟩))
    (hcheck : ∀ auth, (check l auth).map (fun _ => ()) = state.checkRight l auth right)
    (hf : ∀ auth a, state.denial l x = none → state.auth.authenticate x.headers = .ok auth →
      check l auth = .ok a → state.Answers l x P (f (auth, a)) (l.recordAuditEvent
        (authorizationAllowed (x.draws.sub 0).stamp x.headers auth action resource))) :
    state.Answers l x P
      (state.authorizeRequest (x.draws.sub 0).stamp x.headers action resource check >>= f) l := by
  refine .bind (gate_ends right hdemand hcheck) fun r l' h => ?_
  obtain ⟨hallowed, hauth, ha, rfl⟩ := h
  exact hf r.1 r.2 hallowed hauth ha

theorem gateAdmin_ends {action resource : String}
    (hdemand : state.demand x.request = .ok (some ⟨action, resource, .admin⟩)) :
    (state.authorizeAdminRequest (x.draws.sub 0).stamp x.headers action resource).Ends l
      (fun auth l' => state.denial l x = none ∧ state.ByAdmin x.headers ∧ l' = l.recordAuditEvent
        (authorizationAllowed (x.draws.sub 0).stamp x.headers auth action resource))
      (fun error l' => state.Failed l x l' error) := by
  have hcheck (auth : AuthenticatedInstitution) :
      (authorizeAdmin auth).map (fun _ => ()) = state.checkRight l auth .admin := by
    simp only [checkRight]
    cases authorizeAdmin auth <;> rfl
  refine .bind (gate_ends .admin hdemand hcheck) fun r l' h => .pure ?_
  obtain ⟨hallowed, hauth, hadmin, hl'⟩ := h
  exact ⟨hallowed, ⟨r.1, hauth, authorizeAdmin_eq_ok hadmin⟩, hl'⟩

theorem Answers.guardAdmin {action resource : String} {f : AuthenticatedInstitution → Handler β}
    (hdemand : state.demand x.request = .ok (some ⟨action, resource, .admin⟩))
    (hf : ∀ auth, state.denial l x = none → state.ByAdmin x.headers →
      state.Answers l x P (f auth) (l.recordAuditEvent
        (authorizationAllowed (x.draws.sub 0).stamp x.headers auth action resource))) :
    state.Answers l x P
      (state.authorizeAdminRequest (x.draws.sub 0).stamp x.headers action resource >>= f) l := by
  refine .bind (gateAdmin_ends hdemand) fun auth l' h => ?_
  obtain ⟨hallowed, hadmin, rfl⟩ := h
  exact hf auth hallowed hadmin

end

end AppState

end KaniNetwork
