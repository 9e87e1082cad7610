/-
KaniNetwork.Api.StoreReads — the answers of requests on the database.

Between the commands of a request come those of others, so a request sees
many states of the database. Each of its `atomic` reads is still answered
as the ledger of one of them answers it (`AnsweredAt`): most of them because
one query decides the answer, a page of blocks because blocks stay as they
are once they are stored. `answers_linearize` puts the moments of a request
in the order of its calls.

The other reads have no such moment. The latest block can be torn
(`torn_reads`), and the order of institutions, credentials, cases and waiting
payments and the comparison of audit filters are not those of the ledger.
-/
import KaniNetwork.Api.Service
import KaniNetwork.Api.StoredPayments
import KaniNetwork.Store.LoadedLedger
import KaniNetwork.Validator.NoFork

namespace KaniNetwork

open PostgresLedgerStore

/-- The reads with one moment. What a query compares a column with has to be
a text of the database. -/
def NodeRead.atomic : NodeRead → Bool
  | .getPayment _ | .balance _ _ | .issued _ | .blocks _ | .accounts => true
  | .getInstitution id => isText id
  | .journalEntries search => isText search.accountId && search.asset.all isText
  | _ => false

def NodeCall.atomic : NodeCall → Bool
  | .read r => r.atomic
  | .act _ => false

/-- At the moment of `e`, the ledger of the database answers so. -/
structure AnsweredAt (state : AppState) (i : Session) (x : (q : NodeCall) × q.Reply)
    (e : Pool.Issued Session ServiceCall StoreSql Database) : Prop where
  slot : e.slot = i
  reply : (x.1.inMemory state.node (e.store.ledger state.node.host.arith)).2 = x.2

/-! ## One call -/

/-- Among the commands of `k` is a query whose answer decides the reply. -/
def DecidedBy (n : KaniNode) (lower : String → String) (r : NodeRead)
    (k : History StoreSql StoreSql.Reply) (reply : Except NodeError r.Value) : Prop :=
  ∃ c a, ⟨c, a⟩ ∈ k ∧
    ∀ db, (StoreSql.exec lower c db).2 = a → r.inMemory n (db.ledger n.host.arith) = reply

/-- A page of blocks was put together from two queries. -/
def PagedIn (search : BlockSearch) (k : History StoreSql StoreSql.Reply)
    (reply : Except NodeError (List Block)) : Prop :=
  ∃ rows txs,
    k = [⟨.select (.blockPage search.limit.toNat search.offset.toNat), rows⟩,
      ⟨.select (.blockTransactions (rows.map BlockRow.height)), txs⟩] ∧
    reply = .ok (rows.map fun row => row.toBlock ((group txs).getOr row.height []))

section

variable (n : KaniNode) (lower : String → String)

/-- The queries a snapshot is loaded with. -/
def snapshotQueries (s : LedgerSnapshot) (blockRows : List BlockRow) :
    History StoreSql StoreSql.Reply :=
  [⟨.sql (.read .accounts), s.accounts⟩, ⟨.sql (.read .institutions), s.institutions⟩,
    ⟨.sql (.read .institutionCredentials), s.institutionCredentials⟩,
    ⟨.sql (.read .institutionLimits), s.institutionLimits⟩, ⟨.sql (.read .balances), s.balances⟩,
    ⟨.sql (.read .payments), s.payments⟩,
    ⟨.sql (.read (.complianceCases i64Max 0)), s.complianceCases⟩,
    ⟨.sql (.read .blocks), blockRows⟩, ⟨.sql (.read .journalEntries), s.journalEntries⟩,
    ⟨.sql (.read .auditEvents), s.auditEvents⟩]

/-- A read of the current ledger is a read of what the queries returned. -/
theorem readCurrent_follows (r : NodeRead) :
    (KaniNode.Postgres.readCurrent n r).Follows (fun _ _ => True)
      (fun k reply => ∃ s blockRows, k = snapshotQueries s blockRows ∧
        s.issued = (PaymentIndex.ofPayments n.host.arith s.payments).issued ∧
        reply = r.inMemory n (.fromSnapshot s)) [] := by
  refine ⟨trivial, fun accounts => ?_⟩
  iterate 9 refine ⟨trivial, fun _ => ?_⟩
  refine Prog.follows_ofExcept ?_
  exact ⟨_, _, rfl, rfl, rfl⟩

theorem blocks_follows (search : BlockSearch) :
    ((NodeCall.read (.blocks search)).onStore n).Follows (fun _ _ => True)
      (fun k reply => DecidedBy n lower (.blocks search) k reply ∨ PagedIn search k reply) [] := by
  refine ⟨trivial, fun rows => ?_⟩
  cases rows with
  | nil =>
    refine .inl ⟨.select (.blockPage search.limit.toNat search.offset.toNat), [], by simp, ?_⟩
    intro db hrows
    have hpage : page search.limit.toNat search.offset.toNat db.chain = [] := by
      rw [← Database.blocks_of_queries _ _ List.prefix_rfl]
      exact congrArg _ hrows
    exact congrArg Except.ok ((congrArg _ Database.ledger_blocks).trans hpage)
  | cons row rows =>
    exact ⟨trivial, fun txs => .inr ⟨_, txs, rfl, rfl⟩⟩

/-- A read that needs one part of the snapshot is decided by its query. -/
theorem readCurrent_decided {r : NodeRead} (c : Sql) (part : LedgerSnapshot → c.Reply)
    (hquery : ∀ s blockRows, ⟨.sql c, part s⟩ ∈ snapshotQueries s blockRows)
    (hpart : ∀ s db, (c.exec db).2 = part s →
      s.issued = (PaymentIndex.ofPayments n.host.arith s.payments).issued →
      r.inMemory n (db.ledger n.host.arith) = r.inMemory n (.fromSnapshot s)) :
    (KaniNode.Postgres.readCurrent n r).Follows (fun _ _ => True) (DecidedBy n lower r) [] := by
  refine (readCurrent_follows n r).mono (fun _ _ h => h) ?_
  rintro _ _ ⟨s, blockRows, rfl, hissued, rfl⟩
  exact ⟨.sql c, part s, hquery s blockRows, fun db hdb => hpart s db hdb hissued⟩

theorem read_decided {r : NodeRead} (hatomic : r.atomic = true)
    (hblocks : ∀ search, r ≠ .blocks search) :
    ((NodeCall.read r).onStore n).Follows (fun _ _ => True) (DecidedBy n lower r) [] := by
  cases r with
  | getPayment id =>
    refine readCurrent_decided n lower (.read .payments) LedgerSnapshot.payments ?_ ?_
    · simp [snapshotQueries]
    · intro s db hpayments _
      simp only [NodeRead.inMemory, InMemoryLedger.getPayment, Database.ledger,
        InMemoryLedger.fromSnapshot, ← hpayments]
      rfl
  | balance a asset =>
    refine readCurrent_decided n lower (.read .balances) LedgerSnapshot.balances ?_ ?_
    · simp [snapshotQueries]
    · intro s db hbalances _
      simp only [NodeRead.inMemory, InMemoryLedger.balance, Database.ledger,
        InMemoryLedger.fromSnapshot, ← hbalances]
      rfl
  | issued asset =>
    refine readCurrent_decided n lower (.read .payments) LedgerSnapshot.payments ?_ ?_
    · simp [snapshotQueries]
    · intro s db hpayments hissued
      simp only [NodeRead.inMemory, InMemoryLedger.issuedOf, Database.ledger,
        InMemoryLedger.fromSnapshot, hissued, ← hpayments]
      rfl
  | accounts =>
    refine readCurrent_decided n lower (.read .accounts) LedgerSnapshot.accounts ?_ ?_
    · simp [snapshotQueries]
    · intro s db haccounts _
      simp only [NodeRead.inMemory, Database.ledger, InMemoryLedger.fromSnapshot, ← haccounts]
      rfl
  | getInstitution id =>
    refine ⟨trivial, fun found => ?_⟩
    have hfound : ∀ db, (Sql.exec (.read (.institution id)) db).2 = found →
        (db.ledger n.host.arith).institutions.lookup id = found := by
      intro db hdb
      exact Database.ledger_institution id |>.trans hdb
    cases found with
    | none =>
      refine ⟨.sql (.read (.institution id)), none, by simp, fun db hdb => ?_⟩
      simp only [NodeRead.inMemory, InMemoryLedger.getInstitution, hfound db hdb]
      rfl
    | some institution =>
      refine ⟨.sql (.read (.institution id)), some institution, by simp, fun db hdb => ?_⟩
      simp only [NodeRead.inMemory, InMemoryLedger.getInstitution, hfound db hdb]
      rfl
  | journalEntries search =>
    refine ⟨trivial, fun rows => ⟨.select (.journalEntries search), rows, by simp, ?_⟩⟩
    rintro db rfl
    exact congrArg Except.ok (Database.ledger_journalPage search)
  | blocks search => exact (hblocks search rfl).elim
  | latestBlock | institutions | institutionCredentials | institutionLimits | auditEvents
  | complianceCases | complianceCase | pendingTransactions | validators => cases hatomic

end

/-! ## In a run -/

/-- The passes compute with `ar`. -/
def ServiceCall.Uses (ar : Arith) : ServiceCall → Prop
  | .pass runtime _ => runtime.host.arith = ar
  | .exchange _ _ | .seed _ _ => True

instance ServiceCall.decidableUses (ar : Arith) : (call : ServiceCall) → Decidable (call.Uses ar)
  | .pass runtime _ => inferInstanceAs (Decidable (runtime.host.arith = ar))
  | .exchange _ _ | .seed _ _ => .isTrue trivial

/-- The program of a call of such a run. -/
def ServiceCall.bodyWith (ar : Arith) (i : Session) (call : ServiceCall) :
    FullStoreProg ApiError (Option Response) :=
  if call.Uses ar then call.body i else return none

theorem ServiceCall.body_eq {ar : Arith} (i : Session) (call : ServiceCall) (h : call.Uses ar) :
    call.body i = call.bodyWith ar i :=
  (if_pos h).symm

section

variable {ar : Arith} {lower : String → String}

theorem StoreSql.api_chainGuar {c : StoreSql} (hc : c.OfApi) (i : Session) (db : Database) :
    ChainGuar ar i db (c.exec lower db).1 := by
  cases c with
  | sql c => exact KaniNetwork.api_chainGuar hc i db
  | select q => exact .refl i db

theorem ServiceCall.chainSafe (call : ServiceCall) (i : Session) {db : Database}
    (hsound : ChainSound ar db) (haccounts : db.accounts.rows ≠ []) :
    (call.bodyWith ar i).Safe (StoreSql.exec lower) (ChainRely ar i) (ChainGuar ar i)
      (fun _ _ => True) (fun _ _ => True) db := by
  unfold bodyWith
  split
  · rename_i huses
    cases call with
    | exchange state x =>
      exact .of_only (ServiceCall.exchange_only state x i)
        (fun _ s hc => StoreSql.api_chainGuar hc i s) fun _ _ => trivial
    | pass runtime d =>
      exact safe_background (ChainRely.refl i) (chainSafe_pass runtime huses d i _ hsound)
    | seed ar' d =>
      refine safe_background (ChainRely.refl i) (chainSafe_seed ar' d i fun u _ _ hu _ hempty _ _ => ?_)
      exact absurd hempty (hu.accountRows haccounts)
  · exact fun _ _ => trivial

/-- The outline of the service on a database that has its accounts. -/
def chainService (ar : Arith) (lower : String → String) :
    Pool.Outline (StoreSql.exec lower) (ServiceCall.bodyWith ar) (fun _ (_ : Database) => True) :=
  (seededOutline ar).rebase fun i call _ hinv => call.chainSafe i hinv.1 hinv.2

end

section

variable {lower : String → String} {db : Database} {log : ServiceLog}
  {P : Pool Session ServiceCall StoreSql StoreSql.Reply ApiError (Option Response) Database}
  {state : AppState} {i : Session}

/-- A decided reply is the answer at the moment of the query. -/
theorem DecidedBy.answered {r : NodeRead} {reply : Except NodeError r.Value} {mid : ServiceLog}
    (h : DecidedBy state.node lower r (Pool.history (StoreSql.exec lower) i mid) reply) :
    ∃ e ∈ mid, AnsweredAt state i ⟨.read r, reply⟩ e := by
  obtain ⟨c, a, hmem, hreply⟩ := h
  obtain ⟨e, he, hslot, hissued⟩ := Pool.mem_history.mp hmem
  obtain ⟨slot, call, command, store⟩ := e
  simp only [Sigma.mk.injEq] at hissued
  obtain ⟨rfl, hanswer⟩ := hissued
  exact ⟨_, he, hslot, hreply store (eq_of_heq hanswer)⟩

/-- Two queries put a page of the first moment together, if the chain only
grows between them. -/
theorem PagedIn.answered {search : BlockSearch} {reply : Except NodeError (List Block)}
    {mid : ServiceLog}
    (h : PagedIn search (Pool.history (StoreSql.exec lower) i mid) reply)
    (hgrows : ∀ mid₁ e mid₂ e' mid₃, mid = mid₁ ++ e :: mid₂ ++ e' :: mid₃ →
      e.store.chain <+: e'.store.chain) :
    ∃ e ∈ mid, AnsweredAt state i ⟨.read (.blocks search), reply⟩ e := by
  obtain ⟨rows, txs, hqueries, rfl⟩ := h
  obtain ⟨first, second, rfl, hfirst, hsecond⟩ := Pool.of_history_append
    (hqueries.trans List.singleton_append.symm)
  obtain ⟨e, he, hslot, hissued⟩ := Pool.mem_history.mp (hfirst ▸ List.mem_singleton_self _)
  obtain ⟨e', he', -, hissued'⟩ := Pool.mem_history.mp (hsecond ▸ List.mem_singleton_self _)
  obtain ⟨mid₁, mid₂, rfl⟩ := List.append_of_mem he
  obtain ⟨mid₃, mid₄, rfl⟩ := List.append_of_mem he'
  have hprefix := hgrows mid₁ e (mid₂ ++ mid₃) e' mid₄ (by simp)
  obtain ⟨slot, call, command, store⟩ := e
  obtain ⟨slot', call', command', store'⟩ := e'
  simp only [Sigma.mk.injEq] at hissued hissued'
  obtain ⟨rfl, hrows⟩ := hissued
  obtain ⟨rfl, htxs⟩ := hissued'
  cases hrows
  cases htxs
  refine ⟨_, by simp, hslot, congrArg Except.ok ?_⟩
  exact (congrArg _ Database.ledger_blocks).trans (Database.blocks_of_queries _ _ hprefix).symm

section

variable {settings : Settings} {ar : Arith} {d₀ : Draws}
  (hseed : (Database.empty settings).saveSnapshot (InMemoryLedger.sandbox d₀).snapshot = .ok db)
  (hrun : ServiceRun lower db log P)
  (huses : ∀ i call left, P.slots i = some (call, left) → call.Uses ar)

include hseed hrun huses

/-- Every command of a run keeps to the outline of the chain. -/
theorem ServiceRun.chain_guarded :
    Pool.Run (StoreSql.exec lower) (ServiceCall.bodyWith ar)
      (fun c db => (chainService ar lower).inv db ∧ ∃ i, ChainGuar ar i db (c.exec lower db).1)
      (.idle db) log P :=
  (hrun.congr_body ServiceCall.body_eq huses).of_outline (chainService ar lower)
    ((chainService ar lower).holds_idle (chainSound_seeded hseed))

/-- The stored chain only grows from one command of a run to a later one. -/
theorem ServiceRun.chain_grows {before mid after : ServiceLog}
    {e e' : Pool.Issued Session ServiceCall StoreSql Database}
    (hlog : log = (before ++ e :: mid) ++ e' :: after) : e.store.chain <+: e'.store.chain := by
  have hguarded := ServiceRun.chain_guarded hseed hrun huses
  have hstep : ChainStep ar e.store e'.store := by
    refine hguarded.between_rel (ChainStep ar) ChainStep.refl (fun _ _ _ => ChainStep.trans) ?_ hlog
    rintro _ _ ⟨_, _, hguar⟩
    exact hguar.toChainStep
  obtain ⟨M, next, -, -, -, ⟨⟨hsound, -⟩, -⟩, -⟩ := hguarded.split
    (hlog.trans (List.append_assoc before (e :: mid) (e' :: after)))
  exact hstep.grows hsound

/-- It only grows until the end of the run. -/
theorem ServiceRun.chain_grows_end {e : Pool.Issued Session ServiceCall StoreSql Database}
    (he : e ∈ log) : e.store.chain <+: P.store.chain := by
  have hguarded := ServiceRun.chain_guarded hseed hrun huses
  have hlater : ChainStep ar (e.after (StoreSql.exec lower)) P.store := by
    refine hguarded.after_rel (ChainStep ar) ChainStep.refl (fun _ _ _ => ChainStep.trans) ?_ he
    rintro _ _ ⟨_, _, hguar⟩
    exact hguar.toChainStep
  obtain ⟨M, next, before, after, -, -, -, -, ⟨hsound, -⟩, i, hguar⟩ := hguarded.exists_of_mem he
  have hstep : ChainStep ar e.store P.store := hguar.toChainStep.trans hlater
  exact hstep.grows hsound

end

/-- A node call that has come back as a read of one moment was answered at
one of its commands. -/
theorem AppState.answered_of_leads {x : (q : NodeCall) × q.Reply} {mid : ServiceLog}
    (hcall : (state.carryOut x.1).Leads (Pool.history (StoreSql.exec lower) i mid) (.ok x.2))
    (hatomic : x.1.atomic = true)
    (hgrows : ∀ mid₁ e mid₂ e' mid₃, mid = mid₁ ++ e :: mid₂ ++ e' :: mid₃ →
      e.store.chain <+: e'.store.chain) :
    ∃ e ∈ mid, AnsweredAt state i x e := by
  obtain ⟨q, reply⟩ := x
  cases q with
  | act op => cases hatomic
  | read r =>
    have hended : ((NodeCall.read r).onStore state.node).Leads _ (.ofExcept reply) :=
      hcall.of_attempt_ok
    by_cases hblocks : ∀ search, r ≠ .blocks search
    · exact ((read_decided state.node lower hatomic hblocks).done_of_leads hended).answered
    · simp only [not_forall, not_not] at hblocks
      obtain ⟨search, rfl⟩ := hblocks
      rcases (blocks_follows state.node lower search).done_of_leads hended with hdecided | hpaged
      · exact hdecided.answered
      · exact hpaged.answered hgrows

/-- The chosen reads of an ended request, each answered at one moment, with
the moments in the order of the reads. -/
theorem ServiceRun.answered {settings : Settings} {ar : Arith} {d₀ : Draws}
    (hseed : (Database.empty settings).saveSnapshot (InMemoryLedger.sandbox d₀).snapshot = .ok db)
    (hrun : ServiceRun lower db log P)
    (huses : ∀ i call left, P.slots i = some (call, left) → call.Uses ar) {x : Exchange}
    {r : Except ApiError (Option Response)} (hended : P.ended? i = some (.exchange state x, r))
    {chosen : NodeCall → Bool} (hchosen : ∀ q, chosen q = true → q.atomic = true) :
    ∃ h r' moments, r = r'.map some ∧
      (AsyncApi.handle state x.draws x.headers x.request).Leads h (.ofExcept r') ∧
      moments.Sublist log ∧
      List.Forall₂ (AnsweredAt state i) (h.filter fun x => chosen x.1) moments := by
  -- the request has ended as its handler, its calls carried out one after another
  have hleads := hrun.leads (Pool.ended?_eq_some.mp hended)
  obtain ⟨r', hr, hrespond⟩ := hleads.of_map_end
  obtain ⟨h, hexpands, hhandler⟩ := hrespond.of_expand_end fun q k e => Prog.not_leads_attempt_fail
  have hplace : ∀ (x : (q : NodeCall) × q.Reply) (before mid after : ServiceLog),
      log = before ++ (mid ++ after) →
      (state.carryOut x.1).Leads (Pool.history (StoreSql.exec lower) i mid) (.ok x.2) →
      chosen x.1 = true → ∃ e ∈ mid, AnsweredAt state i x e := by
    intro x before mid after hlog hcall hx
    refine AppState.answered_of_leads hcall (hchosen x.1 hx) fun mid₁ e mid₂ e' mid₃ hmid => ?_
    have hsplit : log = (before ++ mid₁ ++ e :: mid₂) ++ e' :: (mid₃ ++ after) := by
      rw [hlog, hmid]
      simp
    exact ServiceRun.chain_grows hseed hrun huses hsplit
  obtain ⟨moments, hsublist, hall⟩ :=
    Pool.moments_of_expands (fun x => chosen x.1) hplace hexpands
  exact ⟨h, r', moments, hr, hhandler, hsublist, hall⟩

/-- **Reads take effect at one moment each.** -/
theorem answers_linearize {settings : Settings} {ar : Arith} {d₀ : Draws}
    (hseed : (Database.empty settings).saveSnapshot (InMemoryLedger.sandbox d₀).snapshot = .ok db)
    (hrun : ServiceRun lower db log P)
    (huses : ∀ i call left, P.slots i = some (call, left) → call.Uses ar) {x : Exchange}
    {r : Except ApiError (Option Response)} (hended : P.ended? i = some (.exchange state x, r)) :
    ∃ h r' moments, r = r'.map some ∧
      (AsyncApi.handle state x.draws x.headers x.request).Leads h (.ofExcept r') ∧
      moments.Sublist log ∧
      List.Forall₂ (AnsweredAt state i) (h.filter fun x => x.1.atomic) moments :=
  ServiceRun.answered hseed hrun huses hended fun _ hatomic => hatomic

end

/-- The status a request was answered with, and 0 for what is not answered. -/
def ServiceCall.answerStatus : ServiceCall → Except ApiError (Option Response) → Nat
  | .exchange _ _, .ok (some response) => response.status
  | _, _ => 0

/-- A page of blocks, while a second block is saved between its two
queries. -/
def examplePageSchedule : List (Pool.Event Session ServiceCall) :=
  [.start 0 (.exchange exampleState ⟨.numbered "mint" 1,
      exampleHeaders SANDBOX_TREASURY_INSTITUTION "treasury-key",
      .sandboxMint ⟨SANDBOX_TREASURY_ACCOUNT, SANDBOX_CORP_A_ACCOUNT, KCAD_TEST, 700000⟩⟩)] ++
    List.replicate 24 (.tick 0) ++
  [.start 1 (.pass (.connect .sample "validator-a") (.numbered "first" 2))] ++
    List.replicate 26 (.tick 1) ++
  [.start 2 (.exchange exampleState ⟨.numbered "topup" 3,
      exampleHeaders SANDBOX_TREASURY_INSTITUTION "treasury-key",
      .sandboxMint ⟨SANDBOX_TREASURY_ACCOUNT, SANDBOX_CORP_A_ACCOUNT, KCAD_TEST, 5⟩⟩)] ++
    List.replicate 24 (.tick 2) ++
  [.start 3 (.exchange exampleState ⟨.numbered "page" 4,
      exampleHeaders SANDBOX_NETWORK_INSTITUTION "admin-key", .getBlocks ⟨none, none⟩⟩)] ++
    List.replicate 2 (.tick 3) ++
  [.start 4 (.pass (.connect .sample "validator-b") (.numbered "second" 5))] ++
    List.replicate 26 (.tick 4) ++ [.tick 3]

def examplePage :
    Pool Session ServiceCall StoreSql StoreSql.Reply ApiError (Option Response) Database :=
  Pool.run (StoreSql.exec String.toLower) ServiceCall.body (fun _ _ => True)
    (.idle (.seeded (.numbered "seed" 0))) examplePageSchedule

def examplePageLog : ServiceLog :=
  Pool.runLog (StoreSql.exec String.toLower) ServiceCall.body (fun _ _ => True)
    (.idle (.seeded (.numbered "seed" 0))) examplePageSchedule

theorem examplePageRun : ServiceRun String.toLower (.seeded (.numbered "seed" 0)) examplePageLog
    examplePage :=
  Pool.run_runLog _ _

theorem examplePageSchedule_uses {ok : StoreSql → Database → Prop} [∀ c db, Decidable (ok c db)]
    {P : Pool Session ServiceCall StoreSql StoreSql.Reply ApiError (Option Response) Database}
    (hP : P = Pool.run (StoreSql.exec String.toLower) ServiceCall.body ok
      (.idle (.seeded (.numbered "seed" 0))) examplePageSchedule)
    {i : Session} {call : ServiceCall} {left : FullStoreProg ApiError (Option Response)}
    (hslot : P.slots i = some (call, left)) : call.Uses .exact := by
  rw [hP] at hslot
  have hall : (examplePageSchedule.all fun e => match e with
      | .start _ call => decide (call.Uses .exact)
      | .tick _ => true) = true := by decide +kernel
  rcases Pool.start_mem_of_run hslot with ⟨p, hidle⟩ | hstart
  · cases hidle
  · exact of_decide_eq_true (List.all_eq_true.mp hall _ hstart)

theorem examplePage_uses {i : Session} {call : ServiceCall}
    {left : FullStoreProg ApiError (Option Response)}
    (hslot : examplePage.slots i = some (call, left)) : call.Uses .exact := by
  have hrun : examplePage = Pool.run (StoreSql.exec String.toLower) ServiceCall.body
      (fun _ _ => True) (.idle (.seeded (.numbered "seed" 0))) examplePageSchedule := by
    unfold examplePage
    rfl
  exact examplePageSchedule_uses hrun hslot

/-- The page is answered, though its two queries saw different chains. -/
theorem answers_linearize_example :
    examplePage.store.chain.length = 2 ∧ ∃ state x response, response.status = 200 ∧
      examplePage.ended? 3 = some (.exchange state x, .ok (some response)) ∧
      ∃ h r' moments, (.ok (some response) : Except ApiError _) = r'.map some ∧
        (AsyncApi.handle state x.draws x.headers x.request).Leads h (.ofExcept r') ∧
        moments.Sublist examplePageLog ∧
        List.Forall₂ (AnsweredAt state 3) (h.filter fun x => x.1.atomic) moments := by
  obtain ⟨hlength, hended⟩ : examplePage.store.chain.length = 2 ∧
      ∃ v ∈ examplePage.ended? 3, ServiceCall.answerStatus v.1 v.2 = 200 := by decide +kernel
  have hseed : (Database.empty .plain).saveSnapshot
      (InMemoryLedger.sandbox (.numbered "seed" 0)).snapshot =
      .ok (.seeded (.numbered "seed" 0)) := Database.seeded_numbered
  obtain ⟨⟨call, r⟩, hended, hstatus⟩ := hended
  refine ⟨hlength, ?_⟩
  rcases call with ⟨state, x⟩ | _ | _
  · rcases r with e | _ | response
    · cases hstatus
    · cases hstatus
    · exact ⟨state, x, response, hstatus, hended,
        answers_linearize hseed examplePageRun (fun _ _ _ => examplePage_uses) hended⟩
  · cases hstatus
  · cases hstatus

end KaniNetwork
