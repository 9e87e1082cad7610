/-
KaniNetwork.Api.InterleavedSettlement — payments settle only with authority
when requests overlap (`kani-api` over a node without storage).

`Submits` says of a call of the run that it put a transfer into a block for
a request that may have it: the payer's account and institution were read
by that request, each at a moment before the call, and the permission and
the screening were in the audit log when the call was made. The payer need
not be approved any more by then: the checks and the call are not one step
(`interleaved_settlement_example`).

`Cleared` is the invariant of `Api/Settlement.lean`; a run of requests keeps
it call by call. `interleaved_history` is about the run as a whole: its
chain is a chain of the node, and no request operates twice.
-/
import KaniNetwork.Api.Interleaving
import KaniNetwork.Node.ChainIntegrity

namespace KaniNetwork

open InMemoryLedger

namespace AppState

variable (state : AppState) {ι : Type}

/-- At moments of the slot, the institution owned the account and was
approved. -/
structure OperatedBy (log : List (Pool.Issued ι Exchange NodeCall InMemoryLedger)) (i : ι)
    (auth : AuthenticatedInstitution) (accountId : String) : Prop where
  owned : ∃ e ∈ log, e.slot = i ∧ ∃ account, ensureAccountExists e.store accountId = .ok account ∧
    account.institutionId = some auth.institutionId
  approved : ∃ e ∈ log, e.slot = i ∧ ∃ institution,
    e.store.getInstitution auth.institutionId = .ok institution ∧ institution.status = .approved

/-- The call `e`, after the calls of `log`, put the transfer into a block,
for a request that asks for it and may have it. -/
structure Submits (log : List (Pool.Issued ι Exchange NodeCall InMemoryLedger))
    (e : Pool.Issued ι Exchange NodeCall InMemoryLedger) (tx : Transaction) : Prop where
  created : ∃ block, (e.after (NodeCall.inMemory state.node)).blocks = e.store.blocks ++ [block] ∧
    block.txs = [tx]
  asked : state.AsksFor e.call.request tx.compliancePayment
  allowed : state.decision tx.compliancePayment = .allow
  authority : ∃ auth demand, state.auth.authenticate e.call.headers = .ok auth ∧
    state.demand e.call.request = .ok (some demand) ∧
    OperatedBy log e.slot auth tx.fromAccount ∧
    authorizationAllowed (e.call.draws.sub 0).stamp e.call.headers auth demand.action
      demand.resource ∈ e.store.auditEvents ∧
    state.screeningEvent e.call auth demand tx.compliancePayment ∈ e.store.auditEvents

/-- A call of the run submitted the transfer. -/
def SubmittedIn (log : List (Pool.Issued ι Exchange NodeCall InMemoryLedger)) (tx : Transaction) :
    Prop :=
  ∃ before e after, log = before ++ e :: after ∧ state.Submits before e tx

section

variable {state} [DecidableEq ι] {l : InMemoryLedger}
  {log : List (Pool.Issued ι Exchange NodeCall InMemoryLedger)}
  {P : Pool ι Exchange NodeCall NodeCall.Reply ApiError Response InMemoryLedger}

omit [DecidableEq ι] in
theorem SubmittedIn.snoc {tx : Transaction} (h : state.SubmittedIn log tx)
    (e : Pool.Issued ι Exchange NodeCall InMemoryLedger) : state.SubmittedIn (log ++ [e]) tx := by
  obtain ⟨before, e', after, rfl, hsubmits⟩ := h
  exact ⟨before, e', after ++ [e], by simp, hsubmits⟩

/-- What the replies show was so at moments of the run. -/
theorem operatedBy_of_operates {i : ι} {auth : AuthenticatedInstitution} {account : Account}
    (h : Operates (Pool.history (NodeCall.inMemory state.node) i log) auth account) :
    OperatedBy log i auth account.id := by
  obtain ⟨accounts, haccounts, hfind⟩ := h.found
  obtain ⟨institution, hinstitution, happroved⟩ := h.approved
  constructor
  · obtain ⟨e, he, hslot, hread⟩ := of_readIn haccounts
    cases hread
    refine ⟨e, he, hslot, account, ?_, h.owner⟩
    simp only [ensureAccountExists, hfind]
  · obtain ⟨e, he, hslot, hread⟩ := of_readIn hinstitution
    exact ⟨e, he, hslot, institution, mapError_eq_ok_iff.mp hread, happroved⟩

/-- The permission of a submission, in terms of the run. -/
theorem Interleaved.submits (h : state.Interleaved l log P) {i : ι} {x : Exchange} {d : Draws}
    {f t a : String} {amount : Int} {key : Option String}
    (hmay : state.Permits x (Pool.history (NodeCall.inMemory state.node) i log)
      (.act (.submitPayment d f t a amount key))) {tx : Transaction}
    (htx : tx.compliancePayment = ⟨f, t, a, amount⟩)
    (hcreated : ∃ block, (state.node.step P.store (.submitPayment d f t a amount key)).blocks =
      P.store.blocks ++ [block] ∧ block.txs = [tx]) :
    state.Submits log ⟨i, x, .act (.submitPayment d f t a amount key), P.store⟩ tx := by
  obtain ⟨-, auth, hpassed, ⟨account, hid, hoperates⟩, hasked, hallow, demand, hdemand, hscreened⟩ :=
    hmay
  obtain ⟨demand', hdemand', -, hallowed⟩ := hpassed.allowed
  have hsame : demand' = demand := by
    rw [hdemand] at hdemand'
    cases hdemand'
    rfl
  subst hsame
  have hfrom : tx.fromAccount = f := congrArg CompliancePayment.fromAccount htx
  refine ⟨hcreated, htx ▸ hasked, htx ▸ hallow, auth, demand', hpassed.known, hdemand, ?_,
    h.of_auditedIn hallowed, htx ▸ h.of_auditedIn hscreened⟩
  rw [hfrom, ← hid]
  exact operatedBy_of_operates hoperates

/-- **A call keeps the ledger cleared**, if its request may make it; the only
transfer it can settle is its own. -/
theorem Cleared.issue (h : state.Interleaved l log P)
    (hc : state.Cleared (state.SubmittedIn log) P.store)
    {i : ι} {x : Exchange} {q : NodeCall}
    (hmay : state.Permits x (Pool.history (NodeCall.inMemory state.node) i log) q) :
    state.Cleared (state.SubmittedIn (log ++ [⟨i, x, q, P.store⟩]))
      (q.inMemory state.node P.store).1 := by
  have hc' : state.Cleared (state.SubmittedIn (log ++ [⟨i, x, q, P.store⟩])) P.store :=
    hc.mono fun _ htx => htx.snoc _
  cases q with
  | read r => exact hc'
  | act op =>
    rw [NodeCall.inMemory_act_ledger]
    cases op with
    | submitPayment d f t a amount key =>
      obtain ⟨-, _, -, -, -, hallow, -⟩ := id hmay
      refine hc'.step_submit hallow fun tx htx hcreated => ?_
      exact ⟨log, _, [], rfl, h.submits hmay htx hcreated⟩
    | holdPaymentForReview d f t a amount key caseOpen =>
      obtain ⟨-, _, -, -, -, hreview, -⟩ := hmay
      exact hc'.step_hold hreview
    | mintSandbox d treasury t a amount => exact hc'.step_mint
    | burnSandbox =>
      obtain ⟨-, _, -, hnever⟩ := hmay
      exact hnever.elim
    | approveComplianceCase | rejectComplianceCase | upsertInstitution | suspendInstitution
    | addInstitutionCredential | upsertInstitutionLimit | recordAuditEvent =>
      exact hc'.step_undrawn rfl

theorem cleared_interleaved {d₀ : Draws} (h : state.Interleaved (sandbox d₀) log P) :
    state.Cleared (state.SubmittedIn log) P.store := by
  induction h with
  | nil =>
    refine (state.cleared_run d₀ []).mono fun tx hsettled => ?_
    obtain ⟨before, x, after, hnil, -⟩ := hsettled
    simp at hnil
  | start i x _ _ ih => exact ih
  | issue i x q next hrun hslot _ ih =>
    exact ih.issue hrun (requests_keep_within_authority hrun (Pool.next?_eq_some.mpr ⟨next, hslot⟩))

/-- **Payments settle only with authority and clearance, under every
interleaving** of requests to a node that starts as the sandbox: what is
finalized or in a block was submitted by a request that could have it, what
is held is for review, and there is no transfer the policy rejects. -/
theorem interleaved_settlement {d₀ : Draws} (h : state.Interleaved (sandbox d₀) log P) :
    (∀ p ∈ P.store.payments.values, p.transaction.kind = .transfer → p.status = .finalized →
      state.SubmittedIn log p.transaction) ∧
    (∀ block ∈ P.store.blocks, ∀ tx ∈ block.txs, tx.kind = .transfer → state.SubmittedIn log tx) ∧
    (∀ p ∈ P.store.payments.values, p.status = .held →
      state.decision p.transaction.compliancePayment = .review) ∧
    ∀ p ∈ P.store.payments.values, p.transaction.kind = .transfer →
      state.decision p.transaction.compliancePayment ≠ .reject := by
  have hcleared := cleared_interleaved h
  have hrecord : ∀ p ∈ P.store.payments.values, state.RecordCleared (state.SubmittedIn log) p := by
    intro p hp
    obtain ⟨id, hid⟩ := HashMap.mem_values.mp hp
    exact hcleared.record id p hid
  exact ⟨fun p hp => (hrecord p hp).finalized, hcleared.block, fun p hp => (hrecord p hp).held,
    fun p hp => (hrecord p hp).screened⟩

/-- A payment is settled by a request whose payer was suspended between the
checks and the submission. -/
theorem interleaved_settlement_example :
    (∃ institution, (examplePool 18).store.getInstitution SANDBOX_CORP_A_INSTITUTION = .ok institution ∧
      institution.status = .suspended) ∧
    ∃ p ∈ (examplePool 19).store.payments.values, p.transaction.amount = 60 ∧
      exampleState.SubmittedIn (exampleLog 19) p.transaction := by
  have hsuspended : ∃ institution ∈
      ((examplePool 18).store.getInstitution SANDBOX_CORP_A_INSTITUTION).toOption,
        institution.status = .suspended := by
    decide +kernel
  have hpaid : ∃ p ∈ (examplePool 19).store.payments.values,
      p.transaction.amount = 60 ∧ p.transaction.kind = .transfer ∧ p.status = .finalized := by
    decide +kernel
  obtain ⟨institution, hget, hstatus⟩ := hsuspended
  obtain ⟨p, hp, hamount, hkind, hfinal⟩ := hpaid
  refine ⟨⟨institution, ?_, hstatus⟩, p, hp, hamount,
    (interleaved_settlement (exampleInterleaved 19)).1 p hp hkind hfinal⟩
  cases hrun : (examplePool 18).store.getInstitution SANDBOX_CORP_A_INSTITUTION with
  | error error =>
    rw [hrun] at hget
    cases hget
  | ok found =>
    rw [hrun] at hget
    cases hget
    rfl

/-! ## The run as a whole -/

/-- The operations of a request come after nothing but reads and records, so
no request operates twice. -/
theorem operations_distinct (h : state.Interleaved l log P) :
    log.Pairwise fun e e' => ¬ e.command.IsQuiet → ¬ e'.command.IsQuiet → e.slot ≠ e'.slot := by
  induction h with
  | nil => exact .nil
  | start i x _ _ ih => exact ih
  | @issue log' P' i x q next hrun hslot _ ih =>
    refine List.pairwise_append.mpr ⟨ih, List.pairwise_singleton _ _, ?_⟩
    intro e he e' he' hfirst hlast
    cases List.mem_singleton.mp he'
    rintro rfl
    have hmay := requests_keep_within_authority hrun (Pool.next?_eq_some.mpr ⟨next, hslot⟩)
    cases q with
    | read r => exact hlast trivial
    | act op =>
      have hquiet : Quiet (Pool.history (NodeCall.inMemory state.node) e.slot log') := by
        cases op with
        | recordAuditEvent event => exact absurd trivial hlast
        | _ => exact hmay.1
      exact hfirst (hquiet _ (Pool.mem_history.mpr ⟨e, he, rfl, rfl⟩))

/-- **The run as a whole.** The ledger is the one the operations leave when
they are made one after another; its chain is a chain of the node; and the
operations serve different requests. -/
theorem interleaved_history {d₀ : Draws} (h : state.Interleaved (sandbox d₀) log P) :
    P.store = state.node.run (sandbox d₀) (log.filterMap fun e => e.command.op?) ∧
    ChainOk state.node P.store.blocks ∧
    log.Pairwise fun e e' => ¬ e.command.IsQuiet → ¬ e'.command.IsQuiet → e.slot ≠ e'.slot := by
  refine ⟨h.store_eq_run, ?_, operations_distinct h⟩
  rw [h.store_eq_run]
  exact chainOk_run state.node d₀ _

/-- Two blocks, one for the mint and one for the payment. -/
theorem interleaved_history_example :
    (examplePool 19).store.blocks.length = 2 ∧
      ChainOk exampleState.node (examplePool 19).store.blocks :=
  ⟨by decide +kernel, (interleaved_history (exampleInterleaved 19)).2.1⟩

end

end AppState

end KaniNetwork
