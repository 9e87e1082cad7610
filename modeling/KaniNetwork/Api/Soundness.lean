/-
KaniNetwork.Api.Soundness — every handler keeps within its authority
(`kani-api`).

One lemma for each handler, in the order of its own text; `handle_sound`
puts them together for the router. No lemma knows what the node is, so
they hold of a request between any others, on the ledger as on the
database.
-/
import KaniNetwork.Api.GateRules

namespace KaniNetwork

namespace AsyncApi

variable {state : AppState} (d : Draws) (headers : HeaderMap)

/-- What is done to an answer does not change how it was reached. -/
theorem sound_map {x : Exchange} {h : CallHistory} {α β : Type} {p : AsyncHandler α}
    (hp : state.Sound x p h) (g : α → β) : state.Sound x (p >>= fun a => pure (g a)) h := by
  refine ⟨.bind (Prog.Follows.mono hp.follows (fun _ _ hmay => hmay) fun h' r hr => ?_)⟩
  cases r with
  | error error => exact hr
  | ok a => exact hr

/-! ## Network-wide reads -/

/-- A response read off the node. -/
theorem sound_viewAdmin {request : HttpRequest} {action resource : String}
    (hdemand : state.demand request = .ok (some ⟨action, resource, .admin⟩)) (r : NodeRead)
    (g : r.Value → Response) :
    state.Sound ⟨d, headers, request⟩ (do
      let _ ← authorizeAdminRequest state (d.sub 0).stamp headers action resource
      let v ← read state r
      return g v) [] :=
  sound_guardAdmin hdemand fun _ _ ho => sound_view ho

/-- A response read off the node under a filter. -/
theorem sound_queryAdmin {request : HttpRequest} {action resource : String} {α : Type}
    {parsed : Except ApiError α} (hparsed : FailsIn ApiError.IsBadRequest parsed)
    (hdemand : state.demand request = .ok (some ⟨action, resource, .admin⟩)) (r : α → NodeRead)
    (g : (a : α) → (r a).Value → Response) :
    state.Sound ⟨d, headers, request⟩ (do
      let _ ← authorizeAdminRequest state (d.sub 0).stamp headers action resource
      let a ← .ofExcept parsed
      let v ← read state (r a)
      return g a v) [] :=
  sound_guardAdmin hdemand fun _ _ ho => sound_check ho hparsed.unrefusing fun _ _ => sound_view ho

theorem getInstitution_sound (id : String) :
    state.Sound ⟨d, headers, .getInstitution id⟩ (getInstitution state d headers id) [] := by
  refine sound_parse (normalizeInstitutionId_failsIn id) fun institutionId h => ?_
  refine sound_guardAdmin ?_ fun _ _ ho => ?_
  · simp only [AppState.demand, h, ok_bind]
  unfold institutionProfile
  simp only [Prog.bind_assoc]
  refine sound_read ho fun _ _ ho _ _ => sound_read ho fun _ _ ho _ _ => ?_
  exact sound_read ho fun _ _ ho _ _ => sound_answer ho _

theorem getComplianceCase_sound (id : String) :
    state.Sound ⟨d, headers, .getComplianceCase id⟩ (getComplianceCase state d headers id) [] := by
  refine sound_guardAdmin rfl fun _ _ ho => ?_
  refine sound_read ho fun _ _ ho _ _ => sound_read ho fun _ _ ho _ _ => ?_
  exact sound_answer ho _

theorem getIssued_sound (asset : String) :
    state.Sound ⟨d, headers, .getIssued asset⟩ (getIssued state d headers asset) [] := by
  refine sound_parse (normalizeAssetCode_failsIn asset) fun asset h => ?_
  refine sound_viewAdmin d headers ?_ _ _
  simp only [AppState.demand, h, ok_bind]

theorem getLatestBlock_sound :
    state.Sound ⟨d, headers, .getLatestBlock⟩ (getLatestBlock state d headers) [] := by
  refine sound_guardAdmin rfl fun _ _ ho => sound_read ho fun block _ ho _ _ => ?_
  cases block with
  | some block => exact sound_answer ho _
  | none => exact ⟨AppState.closes_error ho.quiet (ApiError.not_isRefusal_notFound _)⟩

theorem getValidatorFinalityReport_sound (query : ReportQuery) :
    state.Sound ⟨d, headers, .getValidatorFinalityReport query⟩
      (getValidatorFinalityReport state d headers query) [] := by
  refine sound_guardAdmin rfl fun _ _ ho => ?_
  refine sound_check ho (ReportFilter.tryFromQuery_failsIn _ query).unrefusing fun _ _ => ?_
  exact sound_read ho fun _ _ ho _ _ => sound_view ho

/-! ## Reads of one party -/

/-- A payment that is not there is answered before any decision. -/
theorem readAuthorizedPayment_sound {request : HttpRequest} {id action : String}
    (hdemand : state.demand request = .ok (some ⟨action, "payment:" ++ id, .readPayment id⟩)) :
    state.Sound ⟨d, headers, request⟩ (readAuthorizedPayment state d headers id action) [] := by
  refine sound_authenticate hdemand fun auth hauth => ?_
  refine ⟨⟨permits_gateRead hauth (.inr (.inr ⟨_, id, hdemand, rfl, rfl⟩)), fun reply => ?_⟩⟩
  have hq := quiet_nil.read (.getPayment id) reply
  refine .ofExcept_bind (fun error herror => ?_) fun record hrecord => ?_
  · refine AppState.closes_error hq ?_
    cases reply with
    | error error' =>
      simp only [Except.mapError, Except.error.injEq] at herror
      subst herror
      split
      · exact ApiError.not_isRefusal_notFound _
      · exact ApiError.not_isRefusal_ofNodeError _ _
    | ok record => cases herror
  · obtain rfl := mapError_eq_ok_iff.mp hrecord
    refine .bind (.attempt ?_)
    refine (authorizePaymentRead_checks hauth hq (readIn_snoc _ _ _)).mono (fun _ _ h => h) ?_
    rintro h checked ⟨hq, -, hshown⟩
    exact (sound_audit hauth hdemand hq hshown fun _ _ _ _ ho => sound_answer ho _).follows

theorem getPayment_sound (id : String) :
    state.Sound ⟨d, headers, .getPayment id⟩ (getPayment state d headers id) [] :=
  sound_map (readAuthorizedPayment_sound d headers rfl) _

theorem getPacs002Status_sound (id : String) :
    state.Sound ⟨d, headers, .getPacs002Status id⟩ (getPacs002Status state d headers id) [] :=
  sound_map (readAuthorizedPayment_sound d headers rfl) _

theorem getCamt053Statement_sound (accountId : String) (query : Camt053StatementQuery) :
    state.Sound ⟨d, headers, .getCamt053Statement accountId query⟩
      (getCamt053Statement state d headers accountId query) [] := by
  refine sound_parse (Camt053StatementFilter.tryFromQuery_failsIn query) fun filter h => ?_
  have hdemand : state.demand (.getCamt053Statement accountId query) =
      .ok (some ⟨"read_iso20022_camt053", "account:" ++ accountId ++ ":camt053:" ++ filter.asset,
        .readAccount accountId⟩) := by
    simp only [AppState.demand, h, ok_bind, pure_eq_ok]
  refine sound_guard hdemand
    (fun _ hauth => authorizeAccountRead_checks hauth quiet_nil accountId) fun _ _ _ ho => ?_
  exact sound_read ho fun _ _ ho _ _ => sound_view ho

theorem getBalance_sound (accountId asset : String) :
    state.Sound ⟨d, headers, .getBalance accountId asset⟩
      (getBalance state d headers accountId asset) [] := by
  refine sound_parse (normalizeAssetCode_failsIn asset) fun code h => ?_
  have hdemand : state.demand (.getBalance accountId asset) =
      .ok (some ⟨"read_balance", "account:" ++ accountId ++ ":balance:" ++ code,
        .readAccount accountId⟩) := by
    simp only [AppState.demand, h, ok_bind, pure_eq_ok]
  exact sound_guard hdemand
    (fun _ hauth => authorizeAccountRead_checks hauth quiet_nil accountId)
    fun _ _ _ ho => sound_view ho

/-! ## Institutions and cases -/

theorem institutionEvent_of (s : Stamp) (auth : AuthenticatedInstitution)
    (eventType institutionId message : String) (metadata : Metadata) :
    InstitutionEventOf auth eventType institutionId
      (institutionEvent s auth eventType institutionId message metadata) := by
  refine ⟨rfl, ?_, ?_⟩ <;>
    simp [institutionEvent, AuditEvent.withMetadata, BTreeMap.get_insert]

theorem get_insertSome_of_ne {key key' : String} (hne : key ≠ key') (metadata : Metadata)
    (value : Option String) : (insertSome metadata key value).get key' = metadata.get key' := by
  cases value with
  | none => rfl
  | some value => simp only [insertSome, BTreeMap.get_insert, if_neg hne]

theorem complianceCaseEvent_of (s : Stamp) (auth : AuthenticatedInstitution) (eventType : String)
    (complianceCase : ComplianceCase) (payment : PaymentRecord) (message : String) :
    CaseEventOf auth eventType complianceCase
      (complianceCaseEvent s auth eventType complianceCase payment message) := by
  refine ⟨rfl, ?_, ?_, rfl⟩ <;>
    simp [complianceCaseEvent, AuditEvent.withMetadata, BTreeMap.get_insert, get_insertSome_of_ne]

theorem createInstitution_sound (request : CreateInstitutionRequest) :
    state.Sound ⟨d, headers, .createInstitution request⟩
      (createInstitution state d headers request) [] := by
  refine sound_parse request.validate_failsIn fun validated h => ?_
  have hdemand : state.demand (.createInstitution request) =
      .ok (some ⟨"create_institution", "institution:" ++ validated.id, .admin⟩) := by
    simp only [AppState.demand, h, ok_bind]
  refine sound_guardAdmin hdemand fun auth _ ho => ?_
  refine sound_act ho (ho.passed.shown hdemand) fun institution _ ha => ?_
  exact sound_attest ha (institutionEvent_of _ _ _ _ _ _) _

theorem createInstitutionCredential_sound (id : String)
    (request : CreateInstitutionCredentialRequest) :
    state.Sound ⟨d, headers, .createInstitutionCredential id request⟩
      (createInstitutionCredential state d headers id request) [] := by
  refine sound_parse (normalizeInstitutionId_failsIn id) fun institutionId hid => ?_
  refine sound_parse request.validate_failsIn fun validated h => ?_
  have hdemand : state.demand (.createInstitutionCredential id request) =
      .ok (some ⟨"create_institution_credential", "institution:" ++ institutionId ++ ":credential",
        .admin⟩) := by
    simp only [AppState.demand, hid, h, ok_bind]
  refine sound_guardAdmin hdemand fun auth _ ho => sound_read ho fun _ _ ho _ _ => ?_
  refine sound_act ho (ho.passed.shown hdemand) fun credential _ ha => ?_
  refine sound_attest ha ⟨institutionEvent_of _ _ _ _ _ _, ?_⟩ _
  simp [institutionEvent, AuditEvent.withMetadata, BTreeMap.get_insert]

theorem suspendInstitution_sound (id : String) :
    state.Sound ⟨d, headers, .suspendInstitution id⟩ (suspendInstitution state d headers id) [] := by
  refine sound_parse (normalizeInstitutionId_failsIn id) fun institutionId hid => ?_
  have hdemand : state.demand (.suspendInstitution id) =
      .ok (some ⟨"suspend_institution", "institution:" ++ institutionId, .admin⟩) := by
    simp only [AppState.demand, hid, ok_bind]
  refine sound_guardAdmin hdemand fun auth _ ho => ?_
  refine sound_act ho (ho.passed.shown hdemand) fun institution _ ha => ?_
  exact sound_attest ha (institutionEvent_of _ _ _ _ _ _) _

theorem setInstitutionLimit_sound (id : String) (request : SetInstitutionLimitRequest) :
    state.Sound ⟨d, headers, .setInstitutionLimit id request⟩
      (setInstitutionLimit state d headers id request) [] := by
  refine sound_parse (normalizeInstitutionId_failsIn id) fun institutionId hid => ?_
  refine sound_parse request.validate_failsIn fun validated h => ?_
  have hdemand : state.demand (.setInstitutionLimit id request) =
      .ok (some ⟨"set_institution_limits",
        "institution:" ++ institutionId ++ ":limits:" ++ validated.asset, .admin⟩) := by
    simp only [AppState.demand, hid, h, ok_bind]
  refine sound_guardAdmin hdemand fun auth _ ho => ?_
  refine sound_act ho (ho.passed.shown hdemand) fun limit _ ha => ?_
  refine sound_attest ha ⟨institutionEvent_of _ _ _ _ _ _, ?_⟩ _
  simp [institutionEvent, AuditEvent.withMetadata, BTreeMap.get_insert]

theorem approveComplianceCase_sound (id : String) (request : ComplianceCaseResolutionRequest) :
    state.Sound ⟨d, headers, .approveComplianceCase id request⟩
      (approveComplianceCase state d headers id request) [] := by
  refine sound_guardAdmin rfl fun auth _ ho => ?_
  refine sound_act ho (ho.passed.shown rfl) fun resolved _ ha => ?_
  exact sound_attest ha (complianceCaseEvent_of _ _ _ _ _ _) _

theorem rejectComplianceCase_sound (id : String) (request : ComplianceCaseResolutionRequest) :
    state.Sound ⟨d, headers, .rejectComplianceCase id request⟩
      (rejectComplianceCase state d headers id request) [] := by
  refine sound_guardAdmin rfl fun auth _ ho => ?_
  refine sound_act ho (ho.passed.shown rfl) fun resolved _ ha => ?_
  exact sound_attest ha (complianceCaseEvent_of _ _ _ _ _ _) _

/-! ## Payments -/

/-- An account that is not there. -/
theorem sound_ensureAccountExists {x : Exchange} {h : CallHistory} {auth : AuthenticatedInstitution}
    {β : Type} {accountId : String} {f : Account → AsyncHandler β} (ho : Open state x auth h)
    (hf : ∀ account h', Open state x auth h' → h ⊆ h' → state.Sound x (f account) h') :
    state.Sound x (ensureAccountExists state accountId >>= f) h := by
  unfold ensureAccountExists
  rw [Prog.bind_assoc]
  refine sound_read ho fun accounts h' ho' hsub _ => ?_
  split
  · exact hf _ h' ho' hsub
  · exact ⟨AppState.closes_error ho'.quiet (ApiError.not_isRefusal_badRequest _)⟩

/-- What follows the screening knows the decision, and that it is
recorded. -/
theorem sound_enforcePaymentCompliance {x : Exchange} {h : CallHistory}
    {auth : AuthenticatedInstitution} {β : Type} {action resource : String} {right : Right}
    {validated : ValidatedPaymentRequest} {f : Option ComplianceResult → AsyncHandler β}
    (ho : Open state x auth h)
    (hdemand : state.demand x.request = .ok (some ⟨action, resource, right⟩))
    (hpayment : state.payment x.request = .ok (some validated))
    (hallow : ∀ h', Open state x auth h' →
      state.ScreenedAs x auth h' validated.compliancePayment .allow → state.Sound x (f none) h')
    (hreview : ∀ result h', Open state x auth h' →
      state.ScreenedAs x auth h' validated.compliancePayment .review →
        state.Sound x (f (some result)) h') :
    state.Sound x (enforcePaymentCompliance state (x.draws.sub 1).stamp x.headers auth action
      resource validated >>= f) h := by
  unfold enforcePaymentCompliance
  simp only [Prog.bind_assoc]
  refine ⟨follows_recordAuditEvent (fun _ => AppState.closes_auditFailed _ _) ?_⟩
  have ho' := ho.record (state.screeningEvent x auth ⟨action, resource, right⟩
    validated.compliancePayment) (.ok ())
  have hrecorded := doneIn_snoc h (.recordAuditEvent (state.screeningEvent x auth
    ⟨action, resource, right⟩ validated.compliancePayment)) ()
  have hasked : state.AsksFor x.request validated.compliancePayment := ⟨validated, hpayment, rfl⟩
  split
  · rename_i hdecision
    exact (hallow _ ho' ⟨hasked, hdecision, _, hdemand, hrecorded⟩).follows
  · rename_i hdecision
    exact (hreview _ _ ho' ⟨hasked, hdecision, _, hdemand, hrecorded⟩).follows
  · rename_i hdecision
    exact closes_refused ho.quiet
      (.screenedOut ⟨action, resource, right⟩ auth validated.compliancePayment hdemand hasked
        hdecision)

theorem submitValidatedPayment_sound {request : HttpRequest} {action : String}
    (validated : ValidatedPaymentRequest) (hpayment : state.payment request = .ok (some validated))
    (hdemand : state.demand request =
      .ok (some ⟨action, "account:" ++ validated.fromAccount, .debit validated.fromAccount⟩)) :
    state.Sound ⟨d, headers, request⟩ (submitValidatedPayment state d headers validated action) [] := by
  refine sound_guard hdemand
    (fun _ hauth => authorizeAccountControl_checks hauth quiet_nil validated.fromAccount)
    fun auth _ _ ho => ?_
  refine sound_ensureAccountExists ho fun _ _ ho _ => ?_
  refine sound_check ho (normalizedClientReferenceId_failsIn _ _).unrefusing fun key _ => ?_
  refine sound_enforcePaymentCompliance ho hdemand hpayment (fun _ ho hallow => ?_)
    fun result _ ho hreview => ?_
  · refine sound_act ho ⟨ho.passed.shown hdemand, hallow⟩ fun payment _ ha => ?_
    obtain ⟨demand, -, -, hrecorded⟩ := ha.passed.allowed
    exact sound_acted ha hrecorded trivial _
  · refine sound_act ho ⟨ho.passed.shown hdemand, hreview⟩ fun held _ ha => ?_
    exact sound_attest ha (complianceCaseEvent_of _ _ _ _ _ _) _

theorem createPayment_sound (request : CreatePaymentRequest) :
    state.Sound ⟨d, headers, .createPayment request⟩ (createPayment state d headers request) [] := by
  refine sound_parse request.validate_failsIn fun validated h => ?_
  refine sound_map (submitValidatedPayment_sound d headers validated ?_ ?_) _
  · simp only [AppState.payment, h, Except.map]
  · simp only [AppState.demand, h, ok_bind, pure_eq_ok]

theorem createPacs008Payment_sound (body : String) :
    state.Sound ⟨d, headers, .createPacs008Payment body⟩
      (createPacs008Payment state d headers body) [] := by
  refine sound_parse (AppState.readPacs008_failsIn body) ?_
  rintro ⟨transfer, validated⟩ h
  refine sound_map (submitValidatedPayment_sound d headers validated ?_ ?_) _
  · simp only [AppState.payment, h, Except.map]
  · simp only [AppState.demand, h, ok_bind, pure_eq_ok]

theorem sandboxMint_sound (request : SandboxMintRequest) :
    state.Sound ⟨d, headers, .sandboxMint request⟩ (sandboxMint state d headers request) [] := by
  refine sound_parse request.validate_failsIn fun validated h => ?_
  have hdemand : state.demand (.sandboxMint request) =
      .ok (some ⟨"sandbox_mint", "account:" ++ validated.treasury, .issue validated.treasury⟩) := by
    simp only [AppState.demand, h, ok_bind, pure_eq_ok]
  refine sound_guard hdemand
    (fun _ hauth => authorizeTreasury_checks hauth quiet_nil validated.treasury)
    fun auth _ _ ho => ?_
  refine sound_ensureAccountExists ho fun _ _ ho _ => ?_
  refine sound_act ho (ho.passed.shown hdemand) fun payment _ ha => ?_
  obtain ⟨demand, -, -, hrecorded⟩ := ha.passed.allowed
  exact sound_acted ha hrecorded trivial _

/-! ## The router -/

/-- **Every request keeps within its authority**, whatever the node
replies. -/
theorem handle_sound (x : Exchange) :
    state.Sound x (handle state x.draws x.headers x.request) [] := by
  obtain ⟨d, headers, request⟩ := x
  cases request with
  | rejected rejection => exact ⟨.inl rfl⟩
  | health => exact ⟨.inl rfl⟩
  | openapiJson => exact ⟨.inl rfl⟩
  | createPayment request => exact createPayment_sound d headers request
  | getPayment id => exact getPayment_sound d headers id
  | createPacs008Payment body => exact createPacs008Payment_sound d headers body
  | getPacs002Status id => exact getPacs002Status_sound d headers id
  | getCamt053Statement accountId query =>
    exact getCamt053Statement_sound d headers accountId query
  | getInstitutions => exact sound_viewAdmin d headers rfl _ _
  | createInstitution request => exact createInstitution_sound d headers request
  | getInstitution id => exact getInstitution_sound d headers id
  | createInstitutionCredential id request =>
    exact createInstitutionCredential_sound d headers id request
  | suspendInstitution id => exact suspendInstitution_sound d headers id
  | setInstitutionLimit id request => exact setInstitutionLimit_sound d headers id request
  | getComplianceCases query =>
    exact sound_queryAdmin d headers (validatedPage_failsIn _ _ _ _) rfl
      (fun page => .complianceCases (page.1 + 1) page.2) _
  | getComplianceCase id => exact getComplianceCase_sound d headers id
  | approveComplianceCase id request => exact approveComplianceCase_sound d headers id request
  | rejectComplianceCase id request => exact rejectComplianceCase_sound d headers id request
  | getAccounts => exact sound_viewAdmin d headers rfl _ _
  | getPendingTransactions query =>
    exact sound_queryAdmin d headers (BlockFilter.tryFromQuery_failsIn query) rfl _ _
  | getBalance accountId asset => exact getBalance_sound d headers accountId asset
  | getIssued asset => exact getIssued_sound d headers asset
  | getBlocks query =>
    exact sound_queryAdmin d headers (BlockFilter.tryFromQuery_failsIn query) rfl _ _
  | getLatestBlock => exact getLatestBlock_sound d headers
  | getAuditEvents query =>
    exact sound_queryAdmin d headers (AuditEventFilter.tryFromQuery_failsIn _ query) rfl _ _
  | getSettlementSummaryReport query =>
    exact sound_queryAdmin d headers (ReportFilter.tryFromQuery_failsIn _ query) rfl _ _
  | getComplianceDecisionReport query =>
    exact sound_queryAdmin d headers (ReportFilter.tryFromQuery_failsIn _ query) rfl _ _
  | getValidatorFinalityReport query => exact getValidatorFinalityReport_sound d headers query
  | getValidators => exact sound_viewAdmin d headers rfl _ _
  | sandboxMint request => exact sandboxMint_sound d headers request

end AsyncApi

end KaniNetwork
