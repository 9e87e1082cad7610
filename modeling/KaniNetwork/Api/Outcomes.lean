/-
KaniNetwork.Api.Outcomes — every handler answers as it may (`kani-api`).

One lemma for each handler, in the order of its own text: what it reads off
the request, the gate, the checks that follow, the call of the node.
`handle_answers` puts them together for the router, and from there on a
request is one of the cases of `Served` and `Failed`.
-/
import KaniNetwork.Api.Decisions

namespace KaniNetwork

open InMemoryLedger

theorem Response.not_isRefusal_ok (body : ResponseBody) : ¬ (Response.mk 200 body).IsRefusal := by
  simp [IsRefusal]

theorem Response.not_isRefusal_created (body : ResponseBody) :
    ¬ (Response.mk 201 body).IsRefusal := by
  simp [IsRefusal]

/-- The errors of a check that never refuses. -/
abbrev Unrefusing {α : Type} (r : Except ApiError α) : Prop :=
  FailsIn (fun error => ¬ error.IsRefusal) r

theorem FailsIn.unrefusing {α : Type} {r : Except ApiError α}
    (h : FailsIn ApiError.IsBadRequest r) : Unrefusing r :=
  fun error hr => (h error hr).not_isRefusal

theorem ensureAccountExists_failsIn (l : InMemoryLedger) (accountId : String) :
    FailsIn ApiError.IsBadRequest (ensureAccountExists l accountId) := by
  unfold ensureAccountExists
  split
  · exact .ok _
  · exact failsIn_badRequest _

namespace AppState

variable {state : AppState} (l : InMemoryLedger) (d : Draws) (headers : HeaderMap)

/-- A whole handler answers as it may, and no response of it is a refusal. -/
abbrev Responds (state : AppState) (l : InMemoryLedger) (x : Exchange) (m : Handler Response)
    (l₁ : InMemoryLedger) : Prop :=
  state.Answers l x (fun response => ¬ response.IsRefusal) m l₁

theorem ofLedger_unrefusing {α : Type} (r : Except LedgerError α) :
    Unrefusing (state.ofLedger r) :=
  .mapError r fun _ => ApiError.not_isRefusal_ofNodeError _ _

theorem institutionProfile_unrefusing (institutionId : String) :
    Unrefusing (state.institutionProfile l institutionId) := by
  refine .bind (ofLedger_unrefusing _) fun _ => ?_
  refine .bind (ofLedger_unrefusing _) fun _ => ?_
  exact .bind (ofLedger_unrefusing _) fun _ => .ok _

theorem readPacs008_failsIn (body : String) :
    FailsIn ApiError.IsBadRequest (state.readPacs008 body) := by
  refine .bind (.mapError _ fun error => ⟨_, rfl⟩) fun transfer => ?_
  exact .bind (pacs008TransferRequest_failsIn transfer) fun _ => .ok _

/-! ## Network-wide reads -/

section

variable {x : Exchange} {l₁ : InMemoryLedger}

/-- A response read off the ledger. -/
theorem Answers.view {g : InMemoryLedger → ResponseBody} (hallowed : state.denial l x = none)
    (hl₁ : Audited l l₁) :
    state.Responds l x (.get >>= fun l => return ⟨200, g l⟩) l₁ :=
  .get (.pure hallowed hl₁ (Response.not_isRefusal_ok _))

/-- A response read off the ledger under a filter. -/
theorem Answers.query {α : Type} {r : Except ApiError α} {g : α → InMemoryLedger → ResponseBody}
    (hr : FailsIn ApiError.IsBadRequest r) (hallowed : state.denial l x = none)
    (hl₁ : Audited l l₁) :
    state.Responds l x
      (.ofExcept r >>= fun a => .get >>= fun l => return ⟨200, g a l⟩) l₁ :=
  .check hallowed hl₁ hr.unrefusing fun _ _ => .view l hallowed hl₁

end

theorem getInstitutions_answers :
    state.Responds l ⟨d, headers, .getInstitutions⟩
      (state.getInstitutions d headers) l :=
  .guardAdmin rfl fun _ hallowed _ => .view l hallowed (.record (.refl l) _)

theorem getInstitution_answers (id : String) :
    state.Responds l ⟨d, headers, .getInstitution id⟩
      (state.getInstitution d headers id) l := by
  refine .read (normalizeInstitutionId_failsIn id) (fun error h => ?_) fun institutionId h => ?_
  · simp only [demand, h, error_bind]
  refine .guardAdmin ?_ fun _ hallowed _ => .get ?_
  · simp only [demand, h, ok_bind]
  refine .check hallowed (.record (.refl l) _) (institutionProfile_unrefusing _ _) fun _ _ => ?_
  exact .pure hallowed (.record (.refl l) _) (Response.not_isRefusal_ok _)

theorem getComplianceCases_answers (query : PageQuery) :
    state.Responds l ⟨d, headers, .getComplianceCases query⟩
      (state.getComplianceCases d headers query) l :=
  .guardAdmin rfl fun _ hallowed _ => 
    .query l (validatedPage_failsIn _ _ _ _) hallowed (.record (.refl l) _)

theorem getComplianceCaseHandler_answers (id : String) :
    state.Responds l ⟨d, headers, .getComplianceCase id⟩
      (state.getComplianceCaseHandler d headers id) l := by
  refine .guardAdmin rfl fun _ hallowed _ => .get ?_
  refine .check hallowed (.record (.refl l) _) (ofLedger_unrefusing _) fun _ _ => ?_
  refine .check hallowed (.record (.refl l) _) (ofLedger_unrefusing _) fun _ _ => ?_
  exact .pure hallowed (.record (.refl l) _) (Response.not_isRefusal_ok _)

theorem getAccounts_answers :
    state.Responds l ⟨d, headers, .getAccounts⟩
      (state.getAccounts d headers) l :=
  .guardAdmin rfl fun _ hallowed _ => .view l hallowed (.record (.refl l) _)

theorem getIssued_answers (asset : String) :
    state.Responds l ⟨d, headers, .getIssued asset⟩
      (state.getIssued d headers asset) l := by
  refine .read (normalizeAssetCode_failsIn asset) (fun error h => ?_) fun asset h => ?_
  · simp only [demand, h, error_bind]
  refine .guardAdmin ?_ fun _ hallowed _ => .view l hallowed (.record (.refl l) _)
  simp only [demand, h, ok_bind]

theorem getPendingTransactions_answers (query : PageQuery) :
    state.Responds l ⟨d, headers, .getPendingTransactions query⟩
      (state.getPendingTransactions d headers query) l :=
  .guardAdmin rfl fun _ hallowed _ => 
    .query l (BlockFilter.tryFromQuery_failsIn query) hallowed (.record (.refl l) _)

theorem getLatestBlock_answers :
    state.Responds l ⟨d, headers, .getLatestBlock⟩
      (state.getLatestBlock d headers) l := by
  refine .guardAdmin rfl fun _ hallowed _ => .get ?_
  split
  · exact .pure hallowed (.record (.refl l) _) (Response.not_isRefusal_ok _)
  · refine Method.Ends.throw ?_
    exact .faulty _ _ hallowed (.record (.refl l) _) (ApiError.not_isRefusal_notFound _)

theorem getBlocks_answers (query : PageQuery) :
    state.Responds l ⟨d, headers, .getBlocks query⟩
      (state.getBlocks d headers query) l :=
  .guardAdmin rfl fun _ hallowed _ => 
    .query l (BlockFilter.tryFromQuery_failsIn query) hallowed (.record (.refl l) _)

theorem getAuditEvents_answers (query : AuditEventQuery) :
    state.Responds l ⟨d, headers, .getAuditEvents query⟩
      (state.getAuditEvents d headers query) l :=
  .guardAdmin rfl fun _ hallowed _ => 
    .query l (AuditEventFilter.tryFromQuery_failsIn _ query) hallowed (.record (.refl l) _)

theorem getSettlementSummaryReport_answers (query : ReportQuery) :
    state.Responds l ⟨d, headers, .getSettlementSummaryReport query⟩
      (state.getSettlementSummaryReport d headers query) l :=
  .guardAdmin rfl fun _ hallowed _ => 
    .query l (ReportFilter.tryFromQuery_failsIn _ query) hallowed (.record (.refl l) _)

theorem getComplianceDecisionReport_answers (query : ReportQuery) :
    state.Responds l ⟨d, headers, .getComplianceDecisionReport query⟩
      (state.getComplianceDecisionReport d headers query) l :=
  .guardAdmin rfl fun _ hallowed _ => 
    .query l (ReportFilter.tryFromQuery_failsIn _ query) hallowed (.record (.refl l) _)

theorem getValidatorFinalityReport_answers (query : ReportQuery) :
    state.Responds l ⟨d, headers, .getValidatorFinalityReport query⟩
      (state.getValidatorFinalityReport d headers query) l :=
  .guardAdmin rfl fun _ hallowed _ => 
    .query l (ReportFilter.tryFromQuery_failsIn _ query) hallowed (.record (.refl l) _)

theorem getValidators_answers :
    state.Responds l ⟨d, headers, .getValidators⟩
      (state.getValidators d headers) l :=
  .guardAdmin rfl fun _ hallowed _ =>
    .pure hallowed (.record (.refl l) _) (Response.not_isRefusal_ok _)

/-! ## Reads of one party -/

/-- A payment that is not there is answered without a decision; the caller
is known then, and has no right that could be denied. -/
theorem readAuthorizedPayment_answers {request : HttpRequest} {id action : String}
    (hdemand : state.demand request = .ok (some ⟨action, "payment:" ++ id, .readPayment id⟩)) :
    state.Answers l ⟨d, headers, request⟩ (fun _ => True)
      (state.readAuthorizedPayment d headers id action) l := by
  refine .bind (authenticateRequest_ends fun error hauth => ?_) ?_
  · refine .denied error _ ?_
    simp only [denial, hdemand, hauth]
  rintro auth l ⟨hauth, rfl⟩
  refine .get_bind ?_
  cases hrecord : l.getPayment id with
  | error e =>
    refine .ofExcept_bind (fun error herror => ?_) (fun _ h => by cases h)
    refine .faulty l error ?_ (.refl l) ?_
    · simp only [denial, hdemand, hauth, checkRight, hrecord]
    · simp only [Except.mapError, Except.error.injEq] at herror
      subst herror
      split
      · exact ApiError.not_isRefusal_notFound _
      · exact ApiError.not_isRefusal_ofNodeError _ _
  | ok record =>
    refine .ofExcept_bind (fun _ h => by cases h) ?_
    rintro _ ⟨⟩
    refine .bind (auditAuthorization_ends fun error herror => ?_) ?_
    · refine .denied error _ ?_
      simp only [denial, hdemand, hauth, checkRight, hrecord, herror]
    · rintro _ _ ⟨hok, rfl⟩
      refine .pure ⟨trivial, .answered _ ?_ (.record (.refl l) _)⟩
      simp only [denial, hdemand, hauth, checkRight, hrecord, hok]

theorem getPayment_answers (id : String) :
    state.Responds l ⟨d, headers, .getPayment id⟩ (state.getPayment d headers id) l :=
  .bind (readAuthorizedPayment_answers l d headers rfl) fun _ _ h =>
    .pure ⟨Response.not_isRefusal_ok _, h.2⟩

theorem getPacs002Status_answers (id : String) :
    state.Responds l ⟨d, headers, .getPacs002Status id⟩ (state.getPacs002Status d headers id) l :=
  .bind (readAuthorizedPayment_answers l d headers rfl) fun _ _ h =>
    .pure ⟨Response.not_isRefusal_ok _, h.2⟩

theorem getCamt053Statement_answers (accountId : String) (query : Camt053StatementQuery) :
    state.Responds l ⟨d, headers, .getCamt053Statement accountId query⟩
      (state.getCamt053Statement d headers accountId query) l := by
  refine .read (Camt053StatementFilter.tryFromQuery_failsIn query) (fun error h => ?_)
    fun filter h => ?_
  · simp only [demand, h, error_bind]
  refine .guard (.readAccount accountId) ?_ (fun _ => rfl) fun _ _ hallowed _ _ =>
    .view l hallowed (.record (.refl l) _)
  simp only [demand, h, ok_bind, pure_eq_ok]

theorem getBalance_answers (accountId asset : String) :
    state.Responds l ⟨d, headers, .getBalance accountId asset⟩
      (state.getBalance d headers accountId asset) l := by
  refine .read (normalizeAssetCode_failsIn asset) (fun error h => ?_) fun asset h => ?_
  · simp only [demand, h, error_bind]
  refine .guard (.readAccount accountId) ?_ (fun _ => rfl) fun _ _ hallowed _ _ =>
    .view l hallowed (.record (.refl l) _)
  simp only [demand, h, ok_bind, pure_eq_ok]

/-! ## Institutions and cases -/

theorem createInstitution_answers (request : CreateInstitutionRequest) :
    state.Responds l ⟨d, headers, .createInstitution request⟩
      (state.createInstitution d headers request) l := by
  refine .read request.validate_failsIn (fun error h => ?_) fun request h => ?_
  · simp only [demand, h, error_bind]
  refine .guardAdmin ?_ fun auth hallowed hadmin => ?_
  · simp only [demand, h, ok_bind]
  refine Method.Ends.modify_bind (.modify_bind (.pure ⟨Response.not_isRefusal_created _, ?_⟩))
  exact .acted (.upsertInstitution _) _ _ hallowed hadmin (.record (.refl l) _)
    (.record (.refl _) _)

theorem createInstitutionCredential_answers (id : String)
    (request : CreateInstitutionCredentialRequest) :
    state.Responds l ⟨d, headers, .createInstitutionCredential id request⟩
      (state.createInstitutionCredential d headers id request) l := by
  refine .read (normalizeInstitutionId_failsIn id) (fun error h => ?_) fun institutionId hid => ?_
  · simp only [demand, h, error_bind]
  refine .read request.validate_failsIn (fun error h => ?_) fun request h => ?_
  · simp only [demand, hid, h, ok_bind, error_bind]
  refine .guardAdmin ?_ fun auth hallowed hadmin => .get ?_
  · simp only [demand, hid, h, ok_bind]
  refine .check hallowed (.record (.refl l) _) (ofLedger_unrefusing _) fun _ _ => ?_
  refine .call (addInstitutionCredential_commits _).mapError hallowed (.record (.refl l) _) ?_
  intro l₂ credential hrun
  refine .modify_bind (.pure ⟨Response.not_isRefusal_created _, ?_⟩)
  exact .called (.addInstitutionCredential _) hrun rfl hallowed hadmin (.record (.refl l) _)
    (.record (.refl l₂) _)

theorem suspendInstitutionHandler_answers (id : String) :
    state.Responds l ⟨d, headers, .suspendInstitution id⟩
      (state.suspendInstitutionHandler d headers id) l := by
  refine .read (normalizeInstitutionId_failsIn id) (fun error h => ?_) fun institutionId hid => ?_
  · simp only [demand, h, error_bind]
  refine .guardAdmin ?_ fun auth hallowed hadmin => ?_
  · simp only [demand, hid, ok_bind]
  refine .call (suspendInstitution_commits _ _).mapError hallowed (.record (.refl l) _) ?_
  intro l₂ institution hrun
  refine .modify_bind (.pure ⟨Response.not_isRefusal_ok _, ?_⟩)
  exact .called (.suspendInstitution _ _) hrun rfl hallowed hadmin (.record (.refl l) _)
    (.record (.refl l₂) _)

theorem setInstitutionLimit_answers (id : String) (request : SetInstitutionLimitRequest) :
    state.Responds l ⟨d, headers, .setInstitutionLimit id request⟩
      (state.setInstitutionLimit d headers id request) l := by
  refine .read (normalizeInstitutionId_failsIn id) (fun error h => ?_) fun institutionId hid => ?_
  · simp only [demand, h, error_bind]
  refine .read request.validate_failsIn (fun error h => ?_) fun request h => ?_
  · simp only [demand, hid, h, ok_bind, error_bind]
  refine .guardAdmin ?_ fun auth hallowed hadmin => ?_
  · simp only [demand, hid, h, ok_bind]
  refine .call (upsertInstitutionLimit_commits _).mapError hallowed (.record (.refl l) _) ?_
  intro l₂ limit hrun
  refine .modify_bind (.pure ⟨Response.not_isRefusal_ok _, ?_⟩)
  exact .called (.upsertInstitutionLimit _) hrun rfl hallowed hadmin (.record (.refl l) _)
    (.record (.refl l₂) _)

theorem approveComplianceCaseHandler_answers (id : String)
    (request : ComplianceCaseResolutionRequest) :
    state.Responds l ⟨d, headers, .approveComplianceCase id request⟩
      (state.approveComplianceCaseHandler d headers id request) l := by
  refine .guardAdmin rfl fun auth hallowed hadmin => ?_
  refine .call (approveComplianceCase_commits _ _ _ _).mapError hallowed (.record (.refl l) _) ?_
  rintro l₂ ⟨complianceCase, payment⟩ hrun
  refine .modify_bind (.pure ⟨Response.not_isRefusal_ok _, ?_⟩)
  exact .called (.approveComplianceCase _ _ _ _) hrun rfl hallowed hadmin
    (.record (.refl l) _) (.record (.refl l₂) _)

theorem rejectComplianceCaseHandler_answers (id : String)
    (request : ComplianceCaseResolutionRequest) :
    state.Responds l ⟨d, headers, .rejectComplianceCase id request⟩
      (state.rejectComplianceCaseHandler d headers id request) l := by
  refine .guardAdmin rfl fun auth hallowed hadmin => ?_
  refine .call (rejectComplianceCase_commits _ _ _ _).mapError hallowed (.record (.refl l) _) ?_
  rintro l₂ ⟨complianceCase, payment⟩ hrun
  refine .modify_bind (.pure ⟨Response.not_isRefusal_ok _, ?_⟩)
  exact .called (.rejectComplianceCase _ _ _ _) hrun rfl hallowed hadmin
    (.record (.refl l) _) (.record (.refl l₂) _)

/-! ## Payments -/

/-- The screening leaves its event, whatever the decision is. -/
theorem enforcePaymentCompliance_ends (s : Stamp) (auth : AuthenticatedInstitution)
    (action resource : String) (request : ValidatedPaymentRequest) :
    let result := screenSandboxPaymentWithPolicy state.compliancePolicy request.compliancePayment
    let screened := l.recordAuditEvent (complianceDecisionEvent s headers auth action resource
      request.compliancePayment result)
    (state.enforcePaymentCompliance s headers auth action resource request).Ends l
      (fun review l' => l' = screened ∧
        (review = none ∧ result.decision = .allow ∨
          review = some result ∧ result.decision = .review))
      (fun _ l' => l' = screened ∧ result.decision = .reject) := by
  intro result screened
  refine .modify_bind ?_
  split
  · rename_i hdecision
    exact .pure ⟨rfl, .inl ⟨rfl, hdecision⟩⟩
  · rename_i hdecision
    exact .pure ⟨rfl, .inr ⟨rfl, hdecision⟩⟩
  · rename_i hdecision
    exact .throw ⟨rfl, hdecision⟩

theorem submitValidatedPayment_answers {request : HttpRequest} {action : String}
    (validated : ValidatedPaymentRequest) (hpayment : state.payment request = .ok (some validated))
    (hdemand : state.demand request =
      .ok (some ⟨action, "account:" ++ validated.fromAccount, .debit validated.fromAccount⟩)) :
    state.Answers l ⟨d, headers, request⟩ (fun _ => True)
      (state.submitValidatedPayment d headers validated action) l := by
  refine .guard (.debit _) hdemand (fun _ => rfl) fun auth account hallowed hauth haccount => .get ?_
  have hcontrols : state.Controls l headers validated.fromAccount :=
    controls_of_authorizeAccountAccess hauth haccount
  refine .check hallowed (.record (.refl l) _) (ensureAccountExists_failsIn _ _).unrefusing
    fun _ _ => ?_
  refine .check hallowed (.record (.refl l) _) (normalizedClientReferenceId_failsIn _ _).unrefusing
    fun key _ => ?_
  refine .bind ((enforcePaymentCompliance_ends _ _ _ auth _ _ validated).mono
    (fun _ _ h => h) ?_) ?_
  · rintro error _ ⟨rfl, hreject⟩
    exact .screenedOut error ⟨action, "account:" ++ validated.fromAccount, _⟩ auth validated hallowed
      hdemand hauth hpayment hreject
  rintro review _ ⟨rfl, ⟨rfl, hallow⟩ | ⟨rfl, hreview⟩⟩
  · refine Answers.call (state.node.submitPayment_commits _ _ _ _ _ _) hallowed
      (.record (.record (.refl l) _) _) ?_
    intro l₂ payment hrun
    refine Method.Ends.pure ⟨trivial, ?_⟩
    exact .called (.submitPayment _ _ _ _ _ _) hrun rfl hallowed
      ⟨⟨validated, hpayment, rfl⟩, hcontrols, hallow⟩ (.record (.record (.refl l) _) _) (.refl l₂)
  · refine Answers.call (state.node.holdPaymentForReview_commits _ _ _ _ _ _ _) hallowed
      (.record (.record (.refl l) _) _) ?_
    rintro l₂ ⟨payment, complianceCase⟩ hrun
    refine Method.Ends.modify_bind (.pure ⟨trivial, ?_⟩)
    exact .called (.holdPaymentForReview _ _ _ _ _ _ _) hrun rfl hallowed
      ⟨⟨validated, hpayment, rfl⟩, hcontrols, hreview⟩ (.record (.record (.refl l) _) _)
      (.record (.refl l₂) _)

theorem createPayment_answers (request : CreatePaymentRequest) :
    state.Responds l ⟨d, headers, .createPayment request⟩
      (state.createPayment d headers request) l := by
  refine .read request.validate_failsIn (fun error h => ?_) fun validated h => ?_
  · simp only [demand, h, error_bind]
  refine .bind (submitValidatedPayment_answers l d headers validated ?_ ?_)
    fun _ _ hserved => .pure ⟨Response.not_isRefusal_created _, hserved.2⟩
  · simp only [payment, h, Except.map]
  · simp only [demand, h, ok_bind, pure_eq_ok]

theorem createPacs008Payment_answers (body : String) :
    state.Responds l ⟨d, headers, .createPacs008Payment body⟩
      (state.createPacs008Payment d headers body) l := by
  refine .read (readPacs008_failsIn body) (fun error h => ?_) ?_
  · simp only [demand, h, error_bind]
  rintro ⟨transfer, validated⟩ h
  refine .bind (submitValidatedPayment_answers l d headers validated ?_ ?_)
    fun _ _ hserved => .pure ⟨Response.not_isRefusal_created _, hserved.2⟩
  · simp only [payment, h, Except.map]
  · simp only [demand, h, ok_bind, pure_eq_ok]

theorem sandboxMint_answers (request : SandboxMintRequest) :
    state.Responds l ⟨d, headers, .sandboxMint request⟩ (state.sandboxMint d headers request) l := by
  refine .read request.validate_failsIn (fun error h => ?_) fun request h => ?_
  · simp only [demand, h, error_bind]
  refine .guard (.issue request.treasury) ?_ (fun _ => rfl)
    fun auth account hallowed hauth haccount => .get ?_
  · simp only [demand, h, ok_bind, pure_eq_ok]
  refine .check hallowed (.record (.refl l) _) (ensureAccountExists_failsIn _ _).unrefusing
    fun _ _ => ?_
  refine .call (state.node.mintSandbox_commits _ _ _ _ _) hallowed (.record (.refl l) _) ?_
  intro l₂ payment hrun
  refine Method.Ends.pure ⟨Response.not_isRefusal_created _, ?_⟩
  exact .called (.mintSandbox _ _ _ _ _) hrun rfl hallowed
    (controls_of_authorizeTreasury hauth haccount) (.record (.refl l) _) (.refl l₂)

/-! ## The router -/

/-- **Every request is answered as it may be.** -/
theorem handle_answers (l : InMemoryLedger) (x : Exchange) :
    state.Responds l x (state.handle x.draws x.headers x.request) l := by
  obtain ⟨d, headers, request⟩ := x
  cases request with
  | rejected rejection =>
    refine .pure rfl (.refl l) ?_
    cases rejection <;> simp [Response.IsRefusal, Rejection.statusCode]
  | health => exact .pure rfl (.refl l) (Response.not_isRefusal_ok _)
  | openapiJson => exact .pure rfl (.refl l) (Response.not_isRefusal_ok _)
  | createPayment request => exact createPayment_answers l d headers request
  | getPayment id => exact getPayment_answers l d headers id
  | createPacs008Payment body => exact createPacs008Payment_answers l d headers body
  | getPacs002Status id => exact getPacs002Status_answers l d headers id
  | getCamt053Statement accountId query =>
    exact getCamt053Statement_answers l d headers accountId query
  | getInstitutions => exact getInstitutions_answers l d headers
  | createInstitution request => exact createInstitution_answers l d headers request
  | getInstitution id => exact getInstitution_answers l d headers id
  | createInstitutionCredential id request =>
    exact createInstitutionCredential_answers l d headers id request
  | suspendInstitution id => exact suspendInstitutionHandler_answers l d headers id
  | setInstitutionLimit id request => exact setInstitutionLimit_answers l d headers id request
  | getComplianceCases query => exact getComplianceCases_answers l d headers query
  | getComplianceCase id => exact getComplianceCaseHandler_answers l d headers id
  | approveComplianceCase id request =>
    exact approveComplianceCaseHandler_answers l d headers id request
  | rejectComplianceCase id request =>
    exact rejectComplianceCaseHandler_answers l d headers id request
  | getAccounts => exact getAccounts_answers l d headers
  | getPendingTransactions query => exact getPendingTransactions_answers l d headers query
  | getBalance accountId asset => exact getBalance_answers l d headers accountId asset
  | getIssued asset => exact getIssued_answers l d headers asset
  | getBlocks query => exact getBlocks_answers l d headers query
  | getLatestBlock => exact getLatestBlock_answers l d headers
  | getAuditEvents query => exact getAuditEvents_answers l d headers query
  | getSettlementSummaryReport query => exact getSettlementSummaryReport_answers l d headers query
  | getComplianceDecisionReport query => exact getComplianceDecisionReport_answers l d headers query
  | getValidatorFinalityReport query => exact getValidatorFinalityReport_answers l d headers query
  | getValidators => exact getValidators_answers l d headers
  | sandboxMint request => exact sandboxMint_answers l d headers request

end AppState

end KaniNetwork
