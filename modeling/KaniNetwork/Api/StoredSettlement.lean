/-
KaniNetwork.Api.StoredSettlement — blocks hold only payments somebody was
entitled to ask for (`kani-api` over `PostgresLedgerStore`).

A transaction of a stored block is a stored payment, so it was stored with
authority (`Api/StoredPayments.lean`). If it was stored on hold, an admin
has approved it: a run of the service is a run beside the record of holds
and approvals (`Validator/ComplianceHold.lean`), every call of the service
respects the hold, and what the record says has been approved was approved
by a command of the log, which only the request of an admin sends.
-/
import KaniNetwork.Api.StoredPayments
import KaniNetwork.Validator.ComplianceHold

namespace KaniNetwork

open PostgresLedgerStore

/-! ## The service beside the record -/

/-- The record follows the database. -/
theorem Sql.exec_fst_execNoted (c : Sql) (s : Noted) :
    c.exec s.1 = ((c.execNoted s).1.1, (c.execNoted s).2) := by
  cases c with
  | read q => rfl
  | write w =>
    simp only [Sql.execNoted, Sql.execBeside, Sql.exec]
    cases w.run s.1 <;> rfl

theorem StoreSql.exec_fst_execNoted (lower : String → String) (c : StoreSql) (s : Noted) :
    c.exec lower s.1 = ((c.execOn notedView lower s).1.1, (c.execOn notedView lower s).2) := by
  cases c with
  | sql c => exact c.exec_fst_execNoted s
  | select q => rfl

/-- Every node call respects the hold. -/
theorem NodeCall.holdSafe (n : KaniNode) (lower : String → String) (q : NodeCall) (s : Noted) :
    (q.onStore n).Safe (StoreSql.execOn notedView lower) HoldStep HoldCommand (fun _ _ => True)
      (fun _ _ => True) s := by
  cases q with
  | read r =>
    refine .of_only (read_reads r) (fun c s hc => ?_) fun _ _ => trivial
    rcases c with (q | w) | q
    · exact .refl s
    · exact hc.elim
    · exact .refl s
  | act op =>
    have hact : HoldSafe (KaniNode.Postgres.act n op) s := by
      cases happrove : KaniNode.Postgres.approves op with
      | false =>
        have hrequest := KaniNode.Postgres.request_only n op
        rw [KaniNode.Postgres.request_eq, happrove] at hrequest
        exact holdSafe_of_only hrequest.of_bind
      | true =>
        cases op with
        | approveComplianceCase d id reviewer reason =>
          exact .mapError ((holdSafe_approve d id reviewer reason s).mono (fun _ _ h => h)
            (fun _ _ h => h) (fun _ _ h => h) fun _ _ _ => trivial)
        | _ => cases happrove
    exact safe_lift (fun _ _ _ => trivial) hact

/-- So does every call of the service. -/
theorem ServiceCall.holdSafe (lower : String → String) (call : ServiceCall) (i : Session) {s : Noted}
    (hkept : HoldKept s) :
    (call.body i).Safe (StoreSql.execOn notedView lower) HoldStep HoldCommand (fun _ _ => True)
      (fun _ _ => True) s := by
  cases call with
  | exchange state x =>
    have hcalls : ∀ q s, (state.carryOut q).Safe (StoreSql.execOn notedView lower) HoldStep
        HoldCommand (fun _ _ => True) (fun _ _ => True) s := by
      intro q s
      exact .attempt ((q.holdSafe state.node lower s).mono (fun _ _ h => h) (fun _ _ h => h)
        (fun _ _ h => h) fun _ _ _ => trivial)
    refine .bind ((Prog.Safe.expand HoldStep.refl hcalls _ s).mono (fun _ _ h => h) (fun _ _ h => h)
      (fun _ _ h => h) ?_) HoldStep.refl
    intro r s' _
    cases r <;> exact fun _ _ => trivial
  | pass runtime d =>
    exact safe_background HoldStep.refl ((NetworkCall.pass runtime d).holdSafe i hkept)
  | seed ar d => exact safe_background HoldStep.refl ((NetworkCall.seed ar d).holdSafe i hkept)

/-- The proof outline of the service. -/
def holdService (lower : String → String) :
    Pool.Outline (StoreSql.execOn notedView lower) ServiceCall.body (fun _ (_ : Noted) => True) :=
  holdNetwork.rebase fun i call _ => call.holdSafe lower i

/-! ## What is noted -/

/-- A pass leaves the record alone. -/
def recordOutline (v : ValidatorRuntime) (session : Session) :
    PassOutline notedView v session (fun _ _ => True) (fun s s' => s'.2 = s.2) (fun _ _ => True) where
  holds := fun _ _ => True
  rely_refl := fun _ => trivial
  rely_trans := fun _ _ _ _ _ => trivial
  guar_refl := fun _ => rfl
  stable := fun _ _ _ _ _ => trivial
  bookkeeping := fun _ _ _ _ _ => ⟨rfl, trivial⟩
  lock := fun _ _ _ => ⟨rfl, trivial⟩
  load := fun _ _ _ _ _ _ => trivial
  take := fun _ _ _ => trivial
  accept := fun _ _ _ _ _ _ _ => trivial
  reject := fun _ _ _ _ _ _ _ _ _ => ⟨rfl, trivial⟩
  save := fun _ _ _ _ _ _ _ _ _ _ _ => ⟨rfl, trivial⟩
  fail := fun _ _ _ _ => trivial
  failReject := fun _ _ _ _ _ => ⟨rfl, trivial⟩
  unlock := fun _ _ => rfl
  savedUnlock := fun _ _ _ => trivial

/-- So does a seeding. -/
theorem NetworkCall.seed_leavesRecord (ar : Arith) (d : Draws) (i : Session) (s : Noted) :
    ((NetworkCall.seed ar d).body i).Safe notedView.sem (fun _ _ => True) (fun s s' => s'.2 = s.2)
      (fun _ _ => True) (fun _ _ => True) s := by
  refine .mapError (ensureSandboxSeed_safe notedView (fun _ => rfl) (fun _ => trivial)
    (fun _ _ _ _ _ => trivial) (fun _ _ => trivial) ?_ fun _ _ _ _ _ _ _ _ => rfl)
  intro institution s
  rcases Sql.execBeside_cases Statement.note (.write (.upsertInstitution institution)) s with
    hsame | ⟨w, d, reply, heq, -, hs'⟩
  · exact congrArg Prod.snd hsame
  · cases heq
    exact (congrArg Prod.snd hs').trans rfl

/-- A command that inserts a payment on hold notes it. -/
theorem noted_of_hold {lower : String → String} {row : TransactionRow} {c : ComplianceCase}
    {s : Noted} (hfresh : s.1.transactions.find? row.id = none)
    (hrow : ((StoreSql.sql (.write (.holdPayment row c))).exec lower s.1).1.transactions.find? row.id
      = some row) :
    .held row.id ∈ ((StoreSql.sql (.write (.holdPayment row c))).execOn notedView lower s).1.2 := by
  rw [StoreSql.exec_sql] at hrow
  show Note.held row.id ∈ (Sql.execBeside Statement.note (.write (.holdPayment row c)) s).1.2
  unfold Sql.execBeside
  cases hrun : (Statement.holdPayment row c).run s.1 with
  | error e =>
    rw [Sql.exec_write_error hrun, hfresh] at hrow
    cases hrow
  | ok r =>
    obtain ⟨db, inserted⟩ := r
    rw [Sql.exec_write_ok hrun] at hrow
    rcases Database.holdPayment_eq_ok hrun with ⟨-, rfl, -⟩ | ⟨rfl, -⟩
    · rw [hfresh] at hrow
      cases hrow
    · simp [hrun, Statement.note]

/-- No command takes anything out of the record. -/
theorem record_grows {lower : String → String} (c : StoreSql) (s : Noted) :
    s.2 ⊆ (c.execOn notedView lower s).1.2 := by
  cases c with
  | select q => exact List.Subset.refl _
  | sql c =>
    rcases Sql.execBeside_cases Statement.note c s with hsame | ⟨w, d, reply, rfl, -, hs'⟩
    · have hsame' : (StoreSql.execOn notedView lower (.sql c) s).1 = s := hsame
      rw [hsame']
      exact List.Subset.refl _
    · have hs'' : (StoreSql.execOn notedView lower (.sql (.write w)) s).1 = (d, w.note reply s.2) := hs'
      rw [hs'']
      cases w with
      | approveCase k now => exact List.subset_append_left _ _
      | holdPayment row k =>
        show s.2 ⊆ if reply then s.2 ++ [.held row.id] else s.2
        split
        · exact List.subset_append_left _ _
        · exact List.Subset.refl _
      | _ => exact List.Subset.refl _

/-- A new approval in the record is one the command made. -/
theorem approval_noted {lower : String → String} {c : StoreSql} {s : Noted} {caseId id : String}
    (h : .approved caseId id ∈ (c.execOn notedView lower s).1.2) :
    .approved caseId id ∈ s.2 ∨
      ∃ k now, c = .sql (.write (.approveCase k now)) ∧ k.paymentId = id ∧
        (c.execOn notedView lower s).1.2 = s.2 ++ [.approved caseId id] := by
  cases c with
  | select q => exact .inl h
  | sql c =>
    rcases Sql.execBeside_cases Statement.note c s with hsame | ⟨w, d, reply, rfl, -, hs'⟩
    · have hsame' : (StoreSql.execOn notedView lower (.sql c) s).1 = s := hsame
      rw [hsame'] at h
      exact .inl h
    · have hs'' : (StoreSql.execOn notedView lower (.sql (.write w)) s).1 = (d, w.note reply s.2) := hs'
      rw [hs''] at h
      cases w with
      | approveCase k now =>
        rcases List.mem_append.mp h with hold | hnew
        · exact .inl hold
        · cases List.mem_singleton.mp hnew
          exact .inr ⟨k, now, rfl, rfl, congrArg Prod.snd hs''⟩
      | holdPayment row k =>
        have hnote : Note.approved caseId id ∈ if reply then s.2 ++ [.held row.id] else s.2 := h
        split at hnote
        · rcases List.mem_append.mp hnote with hold | hnew
          · exact .inl hold
          · cases List.mem_singleton.mp hnew
        · exact .inl hnote
      | _ => exact .inl h

/-! ## Every run -/

/-- The request of an admin approved the case of the payment. -/
def ApprovedByAdmin (log : ServiceLog) (id : String) : Prop :=
  ∃ e ∈ log, ∃ state x auth c now, e.call = .exchange state x ∧
    state.auth.authenticate x.headers = .ok auth ∧ auth.isAdmin = true ∧
    e.command = .sql (.write (.approveCase c now)) ∧ c.paymentId = id

/-- Only approvals send the statement. -/
theorem NodeCall.onStore_approves (n : KaniNode) (q : NodeCall) :
    (q.onStore n).Only fun c => ∀ k now, c = .sql (.write (.approveCase k now)) →
      ∃ d id reviewer reason, q = .act (.approveComplianceCase d id reviewer reason) := by
  cases q with
  | read r =>
    refine (read_reads r).mono fun c hc k now heq => ?_
    subst heq
    exact hc.elim
  | act op =>
    have hrequest := KaniNode.Postgres.request_only n op
    rw [KaniNode.Postgres.request_eq] at hrequest
    refine only_lift (fun c hc k now heq => ?_) hrequest.of_bind
    cases heq
    have happroves := (hc _ rfl).2 rfl
    cases op with
    | approveComplianceCase d id reviewer reason => exact ⟨d, id, reviewer, reason, rfl⟩
    | _ => cases happroves

section

variable {lower : String → String} {db : Database} {log : ServiceLog}
  {P : Pool Session ServiceCall StoreSql StoreSql.Reply ApiError (Option Response) Database}

/-- An approval in the record was made by the request of an admin. -/
theorem approvedByAdmin {log : List (Pool.Issued Session ServiceCall StoreSql Noted)}
    {P : Pool Session ServiceCall StoreSql StoreSql.Reply ApiError (Option Response) Noted}
    (hrun : Pool.Run (StoreSql.execOn notedView lower) ServiceCall.body (fun _ _ => True)
      (.idle (db, [])) log P) {caseId id : String} (h : .approved caseId id ∈ P.store.2) :
    ApprovedByAdmin (log.map (Pool.Issued.map Prod.fst)) id := by
  induction hrun with
  | nil => cases h
  | start i c _ _ ih => exact ih h
  | @issue log M i call c next hrun hslot hok ih =>
    rw [List.map_append]
    rcases approval_noted h with hold | ⟨k, now, rfl, rfl, hnoted⟩
    · obtain ⟨e, he, hadmin⟩ := ih hold
      exact ⟨e, List.mem_append_left _ he, hadmin⟩
    · refine ⟨_, List.mem_append_right _ (List.mem_singleton.mpr rfl), ?_⟩
      have hissued := Pool.Run.issue i call _ next hrun hslot hok
      have hlast : (⟨i, call, .sql (.write (.approveCase k now)), M.store⟩ :
          Pool.Issued Session ServiceCall StoreSql Noted) ∈
            log ++ [⟨i, call, .sql (.write (.approveCase k now)), M.store⟩] :=
        List.mem_append_right _ (List.mem_singleton.mpr rfl)
      -- a call that leaves the record alone has not noted the approval
      have hunnoted : (∀ s, (call.body i).Safe (StoreSql.execOn notedView lower) (fun _ _ => True)
          (fun s s' => s'.2 = s.2) (fun _ _ => True) (fun _ _ => True) s) → False := by
        intro hsafe
        have hsame := hissued.guar_of_safe (fun _ => trivial) (fun _ _ _ _ _ => trivial)
          (fun _ _ _ => trivial) hlast hsafe
        have hunchanged := hnoted.symm.trans hsame
        simp at hunchanged
      cases call with
      | exchange state x =>
        obtain ⟨h, q, hc⟩ := carries_of_leads (hrun.leads hslot)
        obtain ⟨d, id, reviewer, reason, rfl⟩ :=
          hc.of_only (NodeCall.onStore_approves state.node q) k now rfl
        obtain ⟨-, auth, hpassed, hadmin⟩ := hc.permitted
        exact ⟨state, x, auth, k, now, rfl, hpassed.known, hadmin, rfl, rfl⟩
      | pass runtime d =>
        exact (hunnoted fun s => safe_background (fun _ => trivial)
          (NetworkCall.pass_safe (recordOutline runtime i) trivial)).elim
      | seed ar d =>
        exact (hunnoted fun s => safe_background (fun _ => trivial)
          (NetworkCall.seed_leavesRecord ar d i s)).elim

/-- A payment stored on hold is in the record at the end. -/
theorem noted_of_storedIn {log : List (Pool.Issued Session ServiceCall StoreSql Noted)}
    {P : Pool Session ServiceCall StoreSql StoreSql.Reply ApiError (Option Response) Noted}
    (hrun : Pool.Run (StoreSql.execOn notedView lower) ServiceCall.body (fun _ _ => True)
      (.idle (db, [])) log P) {row : TransactionRow}
    (hstored : StoredIn lower (log.map (Pool.Issued.map Prod.fst)) row)
    (hheld : row.status = .held) : .held row.id ∈ P.store.2 := by
  obtain ⟨before, e, after, hlog, hstores⟩ := hstored
  have he : e ∈ log.map (Pool.Issued.map Prod.fst) := by
    rw [hlog]
    exact List.mem_append_right _ List.mem_cons_self
  obtain ⟨e, hmem, rfl⟩ := List.mem_map.mp he
  have hgrows : (e.after (StoreSql.execOn notedView lower)).2 ⊆ P.store.2 :=
    hrun.after_rel (fun s s' => s.2 ⊆ s'.2) (fun _ => List.Subset.refl _)
      (fun _ _ _ => List.Subset.trans) (fun c s _ => record_grows c s) hmem
  refine hgrows ?_
  obtain ⟨slot, call, command, s⟩ := e
  have hsent := hstores.sent
  have hinserted := hstores.inserted
  simp only [Pool.Issued.map, Pool.Issued.after] at hsent hinserted ⊢
  cases hsent with
  | enqueued hstatus =>
    rw [hheld] at hstatus
    cases hstatus
  | held c hstatus hcase => exact noted_of_hold hstores.fresh hinserted

/-- **Blocks hold only payments somebody was entitled to ask for.** In every
run of the service on a database without payments, each transaction of each
stored block was stored for a request that could have it; and if it was
stored on hold, an admin has approved it. -/
theorem chain_with_authority (hrun : ServiceRun lower db log P) (hempty : db.transactions.rows = [])
    {block : Block} (hblock : block ∈ P.store.chain) {tx : Transaction} (htx : tx ∈ block.txs) :
    ∃ row, row.toTransaction = tx ∧ StoredIn lower log row ∧
      (row.status = .held → ApprovedByAdmin log tx.id) := by
  have hin : tx ∈ P.store.chain.flatMap Block.txs := List.mem_flatMap.mpr ⟨block, hblock, htx⟩
  obtain ⟨r, height, hr, rfl, hheight, -⟩ := Database.mem_chainTxs.mp hin
  obtain ⟨row, hsame, hstored⟩ := stored_with_authority hrun hempty (Table.mem_of_find? hr)
  refine ⟨row, hsame.transaction.symm, hstored, fun hheld => ?_⟩
  have hid : row.id = r.id := congrArg Transaction.id hsame.transaction.symm
  -- the same run beside the record
  have hbeside : ∀ (c : StoreSql) (s : Noted),
      StoreSql.exec lower c s.1 =
        ((StoreSql.execOn notedView lower c s).1.1, (StoreSql.execOn notedView lower c s).2) :=
    StoreSql.exec_fst_execNoted lower
  obtain ⟨log', s', hnoted, hstore, hlog⟩ := hrun.beside hbeside (t := (db, []))
  subst hlog
  have hheldIn : .held row.id ∈ s'.2 := noted_of_storedIn hnoted hstored hheld
  have hinit : HoldKept (db, []) := by
    constructor
    · rintro id ⟨⟩
    · rintro caseId id ⟨⟩
  have hkept : HoldKept s' :=
    ((holdService lower).sound ((holdService lower).holds_idle hinit) hnoted.reaches).1
  have hincluded : Included s'.1 row.id := by
    rw [hid, hstore]
    exact ⟨r, hr, by simp [hheight]⟩
  obtain ⟨caseId, happroved⟩ := hkept.approvedIn hheldIn hincluded
  have hadmin := approvedByAdmin hnoted happroved
  have htxId : r.toTransaction.id = row.id := hid.symm
  rwa [htxId]

end

/-- The payment on hold is in the block of the pass. -/
theorem chain_with_authority_example :
    ∃ block ∈ (exampleService 82).store.chain, ∃ tx ∈ block.txs, tx.amount = 600000 ∧
      ∃ row, row.toTransaction = tx ∧ StoredIn String.toLower (exampleServiceLog 82) row ∧
        (row.status = .held → ApprovedByAdmin (exampleServiceLog 82) tx.id) := by
  have hchain : ∃ block ∈ (exampleService 82).store.chain, ∃ tx ∈ block.txs, tx.amount = 600000 := by
    decide +kernel
  have hempty : (Database.seeded (.numbered "seed" 0)).transactions.rows = [] := by decide +kernel
  obtain ⟨block, hblock, tx, htx, hamount⟩ := hchain
  exact ⟨block, hblock, tx, htx, hamount,
    chain_with_authority (exampleServiceRun 82) hempty hblock htx⟩

end KaniNetwork
