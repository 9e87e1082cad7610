/-
KaniNetwork.Api.Interleaving — any number of requests at once (`kani-api`).

Each slot of a pool serves one request; between two node calls of a request
come calls of the others. `requests_keep_within_authority` and
`requests_end_with_authority` hold on any store, so nothing is assumed of
the node: what a request may do follows from the replies it got itself.

Without storage every call takes the ledger under the mutex.
`Interleaved` are the runs of requests on such a ledger. The ledger of a
run is the one its operations leave one after another, a request that
fails changes only the audit log (`failed_requests_change_only_the_log`),
and every event that was recorded stays.
-/
import KaniNetwork.Api.Settlement
import KaniNetwork.Api.Soundness
import KaniNetwork.Base.Log

namespace KaniNetwork

open InMemoryLedger

namespace AppState

variable (state : AppState)

/-- A slot serves a request by its handler. -/
def requestBody {ι : Type} (_ : ι) (x : Exchange) : AsyncHandler Response :=
  AsyncApi.handle state x.draws x.headers x.request

section

variable {state} {ι σ : Type} [DecidableEq ι] {sem : (q : NodeCall) → σ → σ × q.Reply} {s : σ}
  {log : List (Pool.Issued ι Exchange NodeCall σ)}
  {P : Pool ι Exchange NodeCall NodeCall.Reply ApiError Response σ}

/-- **Requests keep within their authority.** Whatever the node is and
whatever other requests do, the next call of a request is one it may make
after the replies it has got: an operation is its only one, and comes after
its right was read, its permission recorded and its payment screened. -/
theorem requests_keep_within_authority
    (h : Pool.Run sem state.requestBody (fun _ _ => True) (.idle s) log P) {i : ι} {x : Exchange}
    {q : NodeCall} (hnext : P.next? i = some (x, q)) :
    state.Permits x (Pool.history sem i log) q :=
  h.may_of_next (fun _ x => (AsyncApi.handle_sound x).follows) hnext

/-- **Requests end with authority.** Only a request that is open to all or
has passed its gate is answered, and what it did is attested by an event.
A refused request did nothing and its refusal is recorded; a request that
fails otherwise did nothing either, unless the node failed to record an
event. -/
theorem requests_end_with_authority
    (h : Pool.Run sem state.requestBody (fun _ _ => True) (.idle s) log P) {i : ι} {x : Exchange}
    {r : Except ApiError Response} (hended : P.ended? i = some (x, r)) :
    state.Closes x (Pool.history sem i log) r :=
  h.done_of_follows (fun _ x => (AsyncApi.handle_sound x).follows) hended

end

end AppState

/-! ## On the ledger -/

/-- A failed operation changes nothing. -/
theorem NodeOp.inMemory_commits (n : KaniNode) (op : NodeOp) : (op.inMemory n).Commits := by
  cases op with
  | submitPayment d f t a amount key => exact n.submitPayment_commits d f t a amount key
  | holdPaymentForReview d f t a amount key caseOpen =>
    exact n.holdPaymentForReview_commits d f t a amount key caseOpen
  | mintSandbox d treasury t a amount => exact n.mintSandbox_commits d treasury t a amount
  | burnSandbox d f treasury a amount =>
    exact .get_bind fun _ => n.produceAndApplyLocked_commits _ _
  | approveComplianceCase d id reviewer reason =>
    exact (approveComplianceCase_commits d id reviewer reason).mapError
  | rejectComplianceCase d id reviewer reason =>
    exact (rejectComplianceCase_commits d id reviewer reason).mapError
  | upsertInstitution institution => exact .of_ok fun _ => ⟨institution, rfl⟩
  | suspendInstitution now id => exact (suspendInstitution_commits now id).mapError
  | addInstitutionCredential credential =>
    exact (addInstitutionCredential_commits credential).mapError
  | upsertInstitutionLimit limit => exact (upsertInstitutionLimit_commits limit).mapError
  | recordAuditEvent event => exact .of_ok fun _ => ⟨(), rfl⟩

/-- The audit log has grown at its end. -/
def LogGrows (l l' : InMemoryLedger) : Prop := l.auditEvents <+: l'.auditEvents

theorem LogGrows.refl (l : InMemoryLedger) : LogGrows l l := List.prefix_refl _

theorem LogGrows.trans {l l' l'' : InMemoryLedger} (h : LogGrows l l') (h' : LogGrows l' l'') :
    LogGrows l l'' :=
  List.IsPrefix.trans h h'

namespace NodeCall

variable {n : KaniNode} {l : InMemoryLedger}

theorem inMemory_audited {q : NodeCall} (h : q.IsQuiet) : Audited l (q.inMemory n l).1 := by
  cases q with
  | read r => exact .refl l
  | act op =>
    cases op with
    | recordAuditEvent event => exact (Audited.refl l).record event
    | _ => exact h.elim

/-- A call that fails changes nothing. -/
theorem inMemory_of_error {q : NodeCall} {error : NodeError}
    (h : (q.inMemory n l).2 = .error error) : (q.inMemory n l).1 = l := by
  cases q with
  | read r => rfl
  | act op => exact op.inMemory_commits n l _ error (Prod.ext rfl h)

/-- No call takes an event out of the audit log. -/
theorem inMemory_grows (q : NodeCall) (l : InMemoryLedger) : LogGrows l (q.inMemory n l).1 := by
  cases q with
  | read r => exact .refl l
  | act op =>
    rw [inMemory_act_ledger]
    have he := n.step_effect l op
    generalize n.step l op = l' at he ⊢
    cases he with
    | unchanged => exact .refl l
    | admin _ _ _ _ hevents => exact ⟨_, hevents.symm⟩
    | resolved => exact .refl l
    | held => exact .refl l
    | produced tx _ p _ _ hblock =>
      obtain ⟨block, d, records, _, _, happlied, _⟩ := hblock.block
      obtain ⟨event, _, _, haudit⟩ := happlied.audit_eq
      exact ⟨_, (haudit.trans (List.append_assoc _ _ _)).symm⟩

end NodeCall

namespace AppState

variable (state : AppState)

/-- A run of requests on a ledger, any number of them at a time. -/
abbrev Interleaved {ι : Type} [DecidableEq ι] (l : InMemoryLedger)
    (log : List (Pool.Issued ι Exchange NodeCall InMemoryLedger))
    (P : Pool ι Exchange NodeCall NodeCall.Reply ApiError Response InMemoryLedger) : Prop :=
  Pool.Run (NodeCall.inMemory state.node) state.requestBody (fun _ _ => True) (.idle l) log P

section

variable {state} {ι : Type} [DecidableEq ι] {l : InMemoryLedger}
  {log : List (Pool.Issued ι Exchange NodeCall InMemoryLedger)}
  {P : Pool ι Exchange NodeCall NodeCall.Reply ApiError Response InMemoryLedger}

/-- The ledger of a run is the one its operations leave, one after another
in the order they were called. -/
theorem Interleaved.store_eq_run (h : state.Interleaved l log P) :
    P.store = state.node.run l (log.filterMap fun e => e.command.op?) := by
  have hcalls := NodeCall.foldl_inMemory (n := state.node) (l := l) (log.map Pool.Issued.command)
  rw [List.foldl_map, List.filterMap_map] at hcalls
  exact (Pool.Run.store_eq h).trans hcalls

/-- What was recorded before a moment of the run is in the audit log of that
moment. -/
theorem Interleaved.recorded (h : state.Interleaved l log P)
    {e : Pool.Issued ι Exchange NodeCall InMemoryLedger} (he : e ∈ log) {event : AuditEvent}
    (hevent : event ∈ (e.after (NodeCall.inMemory state.node)).auditEvents) :
    event ∈ P.store.auditEvents := by
  have hgrows : LogGrows (e.after (NodeCall.inMemory state.node)) P.store :=
    h.after_rel LogGrows LogGrows.refl (fun _ _ _ => LogGrows.trans) (fun q l _ => q.inMemory_grows l)
      he
  exact hgrows.subset hevent

/-- A record in the history of a slot is in the audit log. -/
theorem Interleaved.of_auditedIn (h : state.Interleaved l log P) {i : ι} {event : AuditEvent}
    (hevent : AuditedIn (Pool.history (NodeCall.inMemory state.node) i log) event) :
    event ∈ P.store.auditEvents := by
  obtain ⟨e, he, -, hissued⟩ := Pool.mem_history.mp hevent
  obtain ⟨slot, call, command, store⟩ := e
  cases hissued
  refine h.recorded he ?_
  exact List.mem_append_right _ (List.mem_singleton.mpr rfl)

/-- A read in the history of a slot was made at some moment of the run. -/
theorem of_readIn {i : ι} {r : NodeRead} {v : r.Value}
    (hread : ReadIn (Pool.history (NodeCall.inMemory state.node) i log) r v) :
    ∃ e ∈ log, e.slot = i ∧ r.inMemory state.node e.store = .ok v := by
  obtain ⟨e, he, hslot, hissued⟩ := Pool.mem_history.mp hread
  obtain ⟨slot, call, command, store⟩ := e
  simp only [Sigma.mk.injEq] at hissued
  obtain ⟨rfl, hreply⟩ := hissued
  exact ⟨_, he, hslot, eq_of_heq hreply⟩

/-- The records of events never fail on the ledger. -/
theorem not_auditFailedIn {i : ι} :
    ¬ AuditFailedIn (Pool.history (NodeCall.inMemory state.node) i log) := by
  rintro ⟨event, error, hfailed⟩
  obtain ⟨e, -, -, hissued⟩ := Pool.mem_history.mp hfailed
  obtain ⟨slot, call, command, store⟩ := e
  simp only [Sigma.mk.injEq] at hissued
  obtain ⟨rfl, hreply⟩ := hissued
  cases eq_of_heq hreply

/-- **Failed requests change only the log.** Under every interleaving, each
call of a request that ends in an error left the ledger as it was, up to
events at the end of the audit log; and the event of a refusal is in the
log. -/
theorem failed_requests_change_only_the_log (h : state.Interleaved l log P) {i : ι} {x : Exchange}
    {error : ApiError} (hended : P.ended? i = some (x, .error error)) :
    (∀ e ∈ log, e.slot = i → Audited e.store (e.after (NodeCall.inMemory state.node))) ∧
      (error.IsRefusal → ∃ event ∈ P.store.auditEvents, state.RefusalEvent x error event) := by
  obtain ⟨hrefusal, hquiet⟩ := requests_end_with_authority h hended
  constructor
  · intro e he hslot
    obtain ⟨slot, call, command, store⟩ := e
    cases hreply : (command.inMemory state.node store).2 with
    | error error =>
      show Audited store (command.inMemory state.node store).1
      rw [NodeCall.inMemory_of_error hreply]
      exact .refl _
    | ok v =>
      refine NodeCall.inMemory_audited ?_
      cases command with
      | read r => trivial
      | act op =>
        refine (hquiet.resolve_right not_auditFailedIn) op v (Pool.mem_history.mpr ⟨_, he, hslot, ?_⟩)
        simp only [Pool.Issued.reply, hreply]
  · intro hrefused
    obtain ⟨-, event, hrecorded, hevent⟩ := hrefusal hrefused
    exact ⟨event, h.of_auditedIn hrecorded, hevent⟩

end

end AppState

/-- The treasury mints to corp A; corp A pays while the admin suspends it,
after the checks of the payment and before its submission; and someone tries
a wrong key. -/
def exampleSchedule : List (Pool.Event Nat Exchange) :=
  let pay : HttpRequest :=
    .createPayment ⟨SANDBOX_CORP_A_ACCOUNT, SANDBOX_CORP_B_ACCOUNT, KCAD_TEST, 60, none, none⟩
  let suspend : HttpRequest := .suspendInstitution SANDBOX_CORP_A_INSTITUTION
  [.start 0 ⟨.numbered "a" 1, exampleHeaders SANDBOX_TREASURY_INSTITUTION "treasury-key",
      .sandboxMint ⟨SANDBOX_TREASURY_ACCOUNT, SANDBOX_CORP_A_ACCOUNT, KCAD_TEST, 100⟩⟩,
    .tick 0, .tick 0, .tick 0, .tick 0, .tick 0,
    .start 1 ⟨.numbered "b" 2, exampleHeaders SANDBOX_CORP_A_INSTITUTION "corp-a-key", pay⟩,
    .start 2 ⟨.numbered "c" 3, exampleHeaders SANDBOX_NETWORK_INSTITUTION "admin-key", suspend⟩,
    .start 3 ⟨.numbered "d" 4, exampleHeaders SANDBOX_CORP_A_INSTITUTION "wrong-key", pay⟩,
    .tick 1, .tick 1, .tick 2, .tick 3, .tick 2, .tick 1, .tick 2, .tick 1, .tick 1, .tick 1]

/-- The pool after the first `k` entries of the schedule. -/
def examplePool (k : Nat) :
    Pool Nat Exchange NodeCall NodeCall.Reply ApiError Response InMemoryLedger :=
  Pool.run (NodeCall.inMemory exampleState.node) exampleState.requestBody (fun _ _ => True)
    (.idle (sandbox (.numbered "s" 0))) (exampleSchedule.take k)

/-- The calls of the first `k` entries. -/
def exampleLog (k : Nat) : List (Pool.Issued Nat Exchange NodeCall InMemoryLedger) :=
  Pool.runLog (NodeCall.inMemory exampleState.node) exampleState.requestBody (fun _ _ => True)
    (.idle (sandbox (.numbered "s" 0))) (exampleSchedule.take k)

theorem exampleInterleaved (k : Nat) :
    exampleState.Interleaved (sandbox (.numbered "s" 0)) (exampleLog k) (examplePool k) :=
  Pool.run_runLog _ _

namespace AppState

/-- The payment may be submitted, although its payer is suspended by then. -/
theorem requests_keep_within_authority_example :
    ∃ x op, (examplePool 18).next? 1 = some (x, .act op) ∧ op.drawnId = some (uuidNamed "b-2-0") ∧
      exampleState.Permits x
        (Pool.history (NodeCall.inMemory exampleState.node) 1 (exampleLog 18)) (.act op) := by
  have hnext : ∃ v ∈ (examplePool 18).next? 1,
      v.2.op?.bind NodeOp.drawnId = some (uuidNamed "b-2-0") := by
    decide +kernel
  obtain ⟨⟨x, q⟩, hnext, hid⟩ := hnext
  cases q with
  | read r => cases hid
  | act op =>
    exact ⟨x, op, hnext, hid, requests_keep_within_authority (exampleInterleaved 18) hnext⟩

/-- The payment is answered, the wrong key refused. -/
theorem requests_end_with_authority_example :
    (∃ x r, (examplePool 19).ended? 1 = some (x, r) ∧ (Response.ofOutcome r).status = 201 ∧
      exampleState.Closes x (Pool.history (NodeCall.inMemory exampleState.node) 1 (exampleLog 19)) r) ∧
    ∃ x r, (examplePool 19).ended? 3 = some (x, r) ∧ (Response.ofOutcome r).status = 401 ∧
      exampleState.Closes x
        (Pool.history (NodeCall.inMemory exampleState.node) 3 (exampleLog 19)) r := by
  have hpaid : ∃ v ∈ (examplePool 19).ended? 1, (Response.ofOutcome v.2).status = 201 := by
    decide +kernel
  have hrefused : ∃ v ∈ (examplePool 19).ended? 3, (Response.ofOutcome v.2).status = 401 := by
    decide +kernel
  obtain ⟨⟨x, r⟩, hended, hstatus⟩ := hpaid
  obtain ⟨⟨x', r'⟩, hended', hstatus'⟩ := hrefused
  exact ⟨⟨x, r, hended, hstatus, requests_end_with_authority (exampleInterleaved 19) hended⟩,
    x', r', hended', hstatus', requests_end_with_authority (exampleInterleaved 19) hended'⟩

/-- The wrong key. -/
theorem failed_requests_change_only_the_log_example :
    ∃ x error, (examplePool 19).ended? 3 = some (x, .error error) ∧ error.statusCode = 401 ∧
      ∃ event ∈ (examplePool 19).store.auditEvents, exampleState.RefusalEvent x error event := by
  have hrefused : ∃ v ∈ (examplePool 19).ended? 3, v.2.toOption.isNone ∧
      (Response.ofOutcome v.2).status = 401 := by
    decide +kernel
  obtain ⟨⟨x, r⟩, hended, herror, hstatus⟩ := hrefused
  cases r with
  | ok response => cases herror
  | error error =>
    exact ⟨x, error, hended, hstatus,
      (failed_requests_change_only_the_log (exampleInterleaved 19) hended).2 (.inl hstatus)⟩

end AppState

end KaniNetwork
