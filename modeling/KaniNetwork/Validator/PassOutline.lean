/-
KaniNetwork.Validator.PassOutline — how to reason about a pass.

`Phase` names the places between two commands of a pass. A `PassOutline`
gives an assertion for each phase and shows what the commands that matter
do to it: taking the lock, loading, reading the queue, accepting or
rejecting a transaction, saving. `PassOutline.safe` then carries the
assertions through the program, so a property of passes never looks at
the program again: it supplies an outline. An outline may also bound the errors a pass ends
with; then it has to say why the save does not fail otherwise.

Audit events and validator status are bookkeeping; an outline says once
that its assertions do not depend on them.
-/
import KaniNetwork.Ledger.InMemoryTheorems
import KaniNetwork.Store.Numeric
import KaniNetwork.Validator.Runtime

namespace KaniNetwork

open InMemoryLedger

/-- Where a pass stands. -/
inductive Phase where
  | idle
  | locked
  | loaded (snapshot : LedgerSnapshot)
  | selecting (snapshot : LedgerSnapshot) (accepted pending : List Transaction)
  | failing (txs : List Transaction)
  | saved (block : Block)

/-- The block a pass builds on `ledger`, and the ledger it saves. -/
structure PassBlock (v : ValidatorRuntime) (ledger : InMemoryLedger)
    (accepted : List Transaction) (block : Block) (final : InMemoryLedger) : Prop where
  verified : Verified v.host v.consensus v.cryptoProfile block
  txs : block.txs = accepted
  validator : block.validator = v.validatorId
  run : ∃ d records, applyBlock v.host.arith d block ledger = (final, .ok records)

theorem PassBlock.applied {v : ValidatorRuntime} {ledger final : InMemoryLedger}
    {accepted : List Transaction} {block : Block} (h : PassBlock v ledger accepted block final) :
    ∃ d records, Applied v.host.arith d ledger block final records := by
  obtain ⟨d, records, happly⟩ := h.run
  exact ⟨d, records, applyBlock_eq_ok happly⟩

/-- Change the tables no assertion speaks about. -/
def Database.withBookkeeping (db : Database) (auditEvents : Table AuditEvent.id)
    (validatorStatus : Table ValidatorStatus.validatorId) : Database :=
  { db with auditEvents := auditEvents, validatorStatus := validatorStatus }

/-- Assertions for the phases of a pass, and what its commands do to them. -/
structure PassOutline {σ : Type} (V : DbView σ) (v : ValidatorRuntime) (session : Session)
    (rely guar : σ → σ → Prop) (ok : Sql → σ → Prop) where
  holds : Phase → σ → Prop
  rely_refl : ∀ s, rely s s
  rely_trans : ∀ s s' s'', rely s s' → rely s' s'' → rely s s''
  guar_refl : ∀ s, guar s s
  stable : ∀ ph s s', holds ph s → rely s s' → holds ph s'
  bookkeeping : ∀ ph s t u, holds ph s →
    guar s (V.put ((V.db s).withBookkeeping t u) s) ∧
      holds ph (V.put ((V.db s).withBookkeeping t u) s)
  lock : ∀ s, holds .idle s →
    (V.db s).blockProductionLock = none ∨ (V.db s).blockProductionLock = some session →
    guar s (V.put { V.db s with blockProductionLock := some session } s) ∧
      holds .locked (V.put { V.db s with blockProductionLock := some session } s)
  load : ∀ s s' snapshot, holds .locked s → rely s s' →
    LoadedFrom v.host.arith (fun u => ∃ w, rely s w ∧ rely w s' ∧ V.db w = u) snapshot →
    holds (.loaded snapshot) s'
  take : ∀ s snapshot, holds (.loaded snapshot) s →
    holds (.selecting snapshot [] ((V.db s).pendingTransactions v.maxTransactionsPerBlock 0)) s
  accept : ∀ s snapshot accepted tx pending, holds (.selecting snapshot accepted (tx :: pending)) s →
    Accepts v.host.arith (fromSnapshot snapshot) (accepted ++ [tx]) →
    holds (.selecting snapshot (accepted ++ [tx]) pending) s
  reject : ∀ s snapshot accepted tx pending e now,
    holds (.selecting snapshot accepted (tx :: pending)) s →
    (∀ d, (fromSnapshot snapshot).validateTransactionsForNextBlock v.host.arith d
      (accepted ++ [tx]) = .error e) →
    guar s (V.put ((V.db s).rejectTransaction tx.id e.message now) s) ∧
      holds (.selecting snapshot accepted pending)
        (V.put ((V.db s).rejectTransaction tx.id e.message now) s)
  save : ∀ s d snapshot accepted block final, holds (.selecting snapshot accepted []) s →
    accepted ≠ [] → PassBlock v (fromSnapshot snapshot) accepted block final →
    ok (.write (.saveSnapshot final.snapshot)) s →
    (V.db s).saveSnapshot final.snapshot = .ok d →
    guar s (V.save final.snapshot d s) ∧ holds (.saved block) (V.save final.snapshot d s)
  fail : ∀ s snapshot accepted, holds (.selecting snapshot accepted []) s →
    holds (.failing accepted) s
  failReject : ∀ s tx txs now, holds (.failing (tx :: txs)) s →
    guar s (V.put ((V.db s).rejectTransaction tx.id LedgerError.missingBlockHash.message now) s) ∧
      holds (.failing txs)
        (V.put ((V.db s).rejectTransaction tx.id LedgerError.missingBlockHash.message now) s)
  unlock : ∀ s, (V.db s).blockProductionLock = some session →
    guar s (V.put { V.db s with blockProductionLock := none } s)
  savedUnlock : ∀ block s, holds (.saved block) s →
    holds (.saved block) (V.put { V.db s with blockProductionLock := none } s)
  /-- The errors a pass may end with. -/
  failed : NodeError → Prop := fun _ => True
  failedLocal : ∀ e, e.Local → failed e := by exact fun _ _ => trivial
  failedReference : ∀ c, failed (.storage (.sqlx (.foreignKey c))) := by exact fun _ => trivial
  failedText : failed (.storage (.sqlx .invalidText)) := by exact trivial
  failedSave : ∀ s snapshot accepted block final e, holds (.selecting snapshot accepted []) s →
    accepted ≠ [] → PassBlock v (fromSnapshot snapshot) accepted block final →
    ok (.write (.saveSnapshot final.snapshot)) s →
    (V.db s).saveSnapshot final.snapshot = .error e → failed (.storage (.sqlx e)) := by
    exact fun _ _ _ _ _ _ _ _ _ _ _ => trivial

namespace PassOutline

variable {σ : Type} {V : DbView σ} {v : ValidatorRuntime} {session : Session}
  {rely guar : σ → σ → Prop} {ok : Sql → σ → Prop}
  (O : PassOutline V v session rely guar ok)

/-- What a pass ends with: a block it returns has been saved, and an error it
returns is one it may end with. -/
def post (r : Except NodeError (Option Block)) (s : σ) : Prop :=
  (∀ block, r = .ok (some block) → O.holds (.saved block) s) ∧ ∀ e, r = .error e → O.failed e

theorem post_error {e : NodeError} (h : O.failed e) (s : σ) : O.post (.error e) s := by
  constructor
  · intro block hr
    cases hr
  · rintro _ ⟨⟩
    exact h

theorem post_none (s : σ) : O.post (.ok none) s := by
  constructor
  · intro block hr
    cases hr
  · intro e hr
    cases hr

section

variable {α : Type} {post' : Except NodeError α → σ → Prop}

/-- Writing an audit event keeps every assertion. -/
theorem safe_insertAuditEvent {ph : Phase} {event : AuditEvent}
    {f : Unit → StoreProg NodeError α} {s₀ : σ} (herror : ∀ e s, O.failed e → post' (.error e) s)
    (h : O.holds ph s₀)
    (hf : ∀ s, O.holds ph s → (f ()).Safe V.sem rely guar ok post' s) :
    (execute (.insertAuditEvent event) >>= f).Safe V.sem rely guar ok post' s₀ := by
  refine V.safe_execute_run rfl O.guar_refl ?_ fun s d _ hs _ hrun => ?_
  · intro e s _ _ hrun s' _
    rcases Database.insertAuditEvent_eq_error hrun with rfl | ⟨c, rfl⟩
    · exact herror _ s' O.failedText
    · exact herror _ s' (O.failedReference c)
  obtain ⟨hguar, hholds⟩ := O.bookkeeping ph s ((V.db s).auditEvents.insertIgnore event.stored)
    (V.db s).validatorStatus (O.stable ph _ _ h hs)
  rw [Database.insertAuditEvent_eq_ok (Statement.insertAuditEvent_eq_ok hrun).2]
  exact ⟨hguar, hf _ hholds⟩

/-- `reject_pending_transaction` takes a pass from one phase to another when
its status update does. -/
theorem safe_rejectPendingTransaction {ph ph' : Phase} {d : Draws} {tx : Transaction}
    {reason : String} {f : Unit → StoreProg NodeError α} {s₀ : σ}
    (herror : ∀ e s, O.failed e → post' (.error e) s) (h : O.holds ph s₀)
    (hreject : ∀ s now, O.holds ph s →
      guar s (V.put ((V.db s).rejectTransaction tx.id reason now) s) ∧
        O.holds ph' (V.put ((V.db s).rejectTransaction tx.id reason now) s))
    (hf : ∀ s, O.holds ph' s → (f ()).Safe V.sem rely guar ok post' s) :
    (v.rejectPendingTransaction d tx reason >>= f).Safe V.sem rely guar ok post' s₀ := by
  rw [ValidatorRuntime.rejectPendingTransaction, Prog.bind_assoc]
  refine V.safe_execute_run rfl O.guar_refl (fun _ _ _ _ hrun => by cases hrun)
    fun s _ _ hs _ hrun => ?_
  cases hrun
  obtain ⟨hguar, hholds⟩ := hreject s (d.sub 0).stamp.now (O.stable ph _ _ h hs)
  exact ⟨hguar, O.safe_insertAuditEvent herror hholds hf⟩

/-- The selection loop, by induction on what is pending. -/
theorem safe_selectBatch {snapshot : LedgerSnapshot} {pending : List Transaction} {d : Draws}
    {accepted : List Transaction} {f : List Transaction → StoreProg NodeError α} {s₀ : σ}
    (herror : ∀ e s, O.failed e → post' (.error e) s)
    (h : O.holds (.selecting snapshot accepted pending) s₀)
    (hf : ∀ s accepted, O.holds (.selecting snapshot accepted []) s →
      (f accepted).Safe V.sem rely guar ok post' s) :
    (v.selectBatch (fromSnapshot snapshot) d accepted pending >>= f).Safe V.sem rely guar ok
      post' s₀ := by
  induction pending generalizing d accepted s₀ with
  | nil => exact hf s₀ accepted h
  | cons tx pending ih =>
    rw [ValidatorRuntime.selectBatch]
    cases hval : (fromSnapshot snapshot).validateTransactionsForNextBlock v.host.arith (d.sub 0)
        (accepted ++ [tx]) with
    | ok u => exact ih (O.accept _ _ _ _ _ h ((accepts_iff _).mpr hval))
    | error e =>
      have hall : ∀ d', (fromSnapshot snapshot).validateTransactionsForNextBlock v.host.arith d'
          (accepted ++ [tx]) = .error e := fun d' =>
        (validateTransactionsForNextBlock_draws _ _ _ _ _).trans hval
      simp only [Prog.bind_assoc]
      exact O.safe_rejectPendingTransaction herror h
        (fun s now hs => O.reject s _ _ _ _ e now hs hall) fun s hs => ih hs

/-- The loop over a block that could not be applied. -/
theorem safe_rejectAll {txs : List Transaction} {d : Draws} {f : Unit → StoreProg NodeError α}
    {s₀ : σ} (herror : ∀ e s, O.failed e → post' (.error e) s) (h : O.holds (.failing txs) s₀)
    (hf : ∀ s, (f ()).Safe V.sem rely guar ok post' s) :
    (v.rejectAll LedgerError.missingBlockHash.message d txs >>= f).Safe V.sem rely guar ok
      post' s₀ := by
  induction txs generalizing d s₀ with
  | nil => exact hf s₀
  | cons tx txs ih =>
    rw [ValidatorRuntime.rejectAll, Prog.bind_assoc]
    exact O.safe_rejectPendingTransaction herror h (fun s now hs => O.failReject s tx txs now hs)
      fun s hs => ih hs

end

/-- Building, applying and saving the block of a batch. -/
theorem safe_produceBlock {snapshot : LedgerSnapshot} {accepted : List Transaction} {d : Draws}
    {s₀ : σ} (h : O.holds (.selecting snapshot accepted []) s₀) (hne : accepted ≠ []) :
    (v.produceBlock d (fromSnapshot snapshot) accepted).Safe V.sem rely guar ok O.post s₀ := by
  have herror : ∀ e s, O.failed e → O.post (.error e) s := fun e s he => O.post_error he s
  refine .ofExcept_bind (fun e he s _ => ?_) fun block hbuild => ?_
  · exact herror e s (O.failedLocal e (buildBlockForValidator_ofBlock _ _ _ _ _ _ _ e he).isLocal)
  refine .ofExcept_bind (fun e he s _ => ?_) fun u hverify => ?_
  · exact herror e s (O.failedLocal e (verifyPhase1Block_ofBlock _ _ _ _ _ _ e he).isLocal)
  obtain ⟨hverified, hvalid, hheight, hprev, htxs, hvalidator⟩ := buildBlockForValidator_eq_ok hbuild
  rcases happly : applyBlock v.host.arith (d.sub 2) block (fromSnapshot snapshot) with ⟨final, r⟩
  cases r with
  | error e =>
    have he : e = .missingBlockHash := applyBlock_error_of_accepts
      (htxs ▸ (accepts_iff _).mpr hvalid) hheight hprev happly
    subst he
    simp only [htxs]
    exact O.safe_rejectAll herror (O.fail _ _ _ h) fun s s' _ => herror _ s' (O.failedLocal _ trivial)
  | ok records =>
    have hblock : PassBlock v (fromSnapshot snapshot) accepted block final :=
      ⟨hverified, htxs, hvalidator, _, records, happly⟩
    refine V.safe_execute_run rfl O.guar_refl ?_ fun s e _ hs hok hrun => ?_
    · intro e s hs hok hrun s' _
      exact herror _ s' (O.failedSave s snapshot accepted block final e (O.stable _ _ _ h hs) hne
        hblock hok (of_unit_eq_error hrun))
    obtain ⟨hguar, hsaved⟩ := O.save s e snapshot accepted block final (O.stable _ _ _ h hs) hne
      hblock hok (of_unit_eq_ok hrun)
    refine ⟨hguar, ?_⟩
    refine V.safe_execute_run rfl O.guar_refl ?_ fun u _ _ hu _ hrun' => ?_
    · intro e u _ _ hrun' u' _
      obtain ⟨c, rfl⟩ := Database.recordFinalizedBlock_failsIn _ _ _ _ e (of_unit_eq_error hrun')
      exact herror _ u' (O.failedReference c)
    obtain ⟨t, rfl⟩ := Database.recordFinalizedBlock_eq_ok (of_unit_eq_ok hrun')
    obtain ⟨hguar', hsaved'⟩ :=
      O.bookkeeping _ u (V.db u).auditEvents t (O.stable _ _ _ hsaved hu)
    refine ⟨hguar', ?_⟩
    intro w hw
    constructor
    · rintro _ ⟨⟩
      exact O.stable _ _ _ hsaved' hw
    · intro e hr
      cases hr

theorem safe_runOnceWithBlockLock {d : Draws} {s₀ : σ} (h : O.holds .locked s₀) :
    (v.runOnceWithBlockLock d).Safe V.sem rely guar ok O.post s₀ := by
  have herror : ∀ e s, O.failed e → O.post (.error e) s := fun e s he => O.post_error he s
  refine loadSnapshot_safe V O.guar_refl O.rely_refl O.rely_trans fun s snapshot hs hload => ?_
  have hloaded := O.load s₀ s snapshot h hs hload
  refine .ofExcept_bind (fun e he s _ => ?_) fun leader _ => ?_
  · exact herror e s (O.failedLocal e (FailsIn.mapError _ (fun _ => trivial) e he))
  split
  · exact fun s _ => O.post_none s
  refine V.safe_query O.guar_refl fun u hu => ?_
  split
  · exact fun s _ => O.post_none s
  refine O.safe_selectBatch herror (O.take u snapshot (O.stable _ _ _ hloaded hu))
    fun w accepted hw => ?_
  split
  · exact fun s _ => O.post_none s
  · rename_i hne
    exact O.safe_produceBlock hw (by simpa using hne)

theorem safe_runLocked {d : Draws} {s₀ : σ} (h : O.holds .locked s₀) :
    (v.runLocked session d).Safe V.sem rely guar ok O.post s₀ := by
  refine .bind (.attempt ((O.safe_runOnceWithBlockLock h).mono (fun _ _ h => h) (fun _ _ h => h)
    (fun _ _ h => h) fun result s hpost => ?_)) O.rely_refl
  -- what is left is the release and the choice of the result
  intro u hu _
  have hpost' : O.post result u := ⟨fun block hr => O.stable _ _ _ (hpost.1 block hr) hu, hpost.2⟩
  rcases hunlock : Database.unlock session (V.db u) with ⟨d', released⟩
  have hrun : Statement.run (V.db u) (.unlock session) = .ok (d', released) := by rw [← hunlock]; rfl
  have hu' : guar u (V.put d' u) ∧ O.post result (V.put d' u) := by
    rcases Database.unlock_eq hunlock with ⟨-, hlock, rfl⟩ | ⟨-, -, rfl⟩
    · exact ⟨O.unlock u hlock, fun block hr => O.savedUnlock block u (hpost'.1 block hr), hpost.2⟩
    · rw [V.put_db]
      exact ⟨O.guar_refl _, hpost'⟩
  rw [V.write _ _ rfl, hrun]
  refine ⟨hu'.1, ?_⟩
  cases result with
  | error e =>
    have hfailed := hpost.2 e rfl
    cases released <;> exact fun w _ => O.post_error hfailed w
  | ok b =>
    cases released with
    | false =>
      have hlocal : NodeError.Local (.storage .advisoryLockReleaseFailed) := trivial
      exact fun w _ => O.post_error (O.failedLocal _ hlocal) w
    | true => exact fun w hw => ⟨fun block hr => O.stable _ _ _ (hu'.2.1 block hr) hw, hpost.2⟩

/-- A pass that starts in `idle` is safe and ends within `post`. -/
theorem safe_runOnce {d : Draws} {s₀ : σ} (h : O.holds .idle s₀) :
    (v.runOnce session d).Safe V.sem rely guar ok O.post s₀ := by
  refine V.safe_execute_run rfl O.guar_refl (fun _ _ _ _ hrun => by cases hrun)
    fun s _ _ hs _ hrun => ?_
  cases hrun
  obtain ⟨hguar, hidle⟩ := O.bookkeeping _ s (V.db s).auditEvents _ (O.stable _ _ _ h hs)
  refine ⟨hguar, ?_⟩
  refine loadSnapshot_safe V O.guar_refl O.rely_refl O.rely_trans fun u snapshot hu _ => ?_
  refine .ofExcept_bind (fun e he s _ => ?_) fun leader _ => ?_
  · exact O.post_error (O.failedLocal e (FailsIn.mapError _ (fun _ => trivial) e he)) s
  split
  · exact fun s _ => O.post_none s
  refine V.safe_execute_run rfl O.guar_refl (fun _ _ _ _ hrun => by cases hrun)
    fun w d' acquired hw _ hrun => ?_
  have hidle' := O.stable _ _ _ (O.stable _ _ _ hidle hu) hw
  rcases Database.tryLock_eq (Except.ok.inj hrun) with ⟨rfl, hfree, rfl⟩ | ⟨rfl, rfl, -⟩
  · obtain ⟨hguar', hlocked⟩ := O.lock w hidle' hfree
    exact ⟨hguar', O.safe_runLocked hlocked⟩
  · have hsame : V.commit (.tryLock session) (V.db w) w = w := V.put_db w
    rw [hsame]
    exact ⟨O.guar_refl _, fun s _ => O.post_none s⟩

end PassOutline

end KaniNetwork
