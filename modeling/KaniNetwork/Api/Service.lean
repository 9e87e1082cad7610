/-
KaniNetwork.Api.Service — the service on one database.

API processes serve requests, validators run passes, and every process
seeds the database when it starts. A `ServiceCall` is any of these, and
`ServiceRun` a run of any number of them, interleaved command by command. A
request is carried out by its handler, each node call of it by the commands
it sends; the processes may differ in their configuration.

`Carries` says where a request stands when it sends a command: which node
calls it has finished, and that the one it is carrying out is permitted.
What the finished calls were told, the database told them
(`Finished.accounts`, `Finished.institution`, `Finished.audited`).
-/
import KaniNetwork.Api.Soundness
import KaniNetwork.Api.StoreCalls
import KaniNetwork.Base.Log
import KaniNetwork.Validator.StoredRows

namespace KaniNetwork

/-- What carries out a node call, up to its reply. -/
def AppState.carryOut (state : AppState) (q : NodeCall) : FullStoreProg ApiError q.Reply :=
  (q.onStore state.node).attempt

/-- A request, by its handler, with storage. -/
def AppState.respond (state : AppState) (x : Exchange) : FullStoreProg ApiError Response :=
  (AsyncApi.handle state x.draws x.headers x.request).expand state.carryOut

inductive ServiceCall where
  | exchange (state : AppState) (x : Exchange)
  | pass (runtime : ValidatorRuntime) (d : Draws)
  | seed (ar : Arith) (d : Draws)

/-- The program of a call on the session `i`. Only a request has an answer. -/
def ServiceCall.body (i : Session) : ServiceCall → FullStoreProg ApiError (Option Response)
  | .exchange state x => do
    let response ← state.respond x
    return some response
  | .pass runtime d => do
    let _ ← (lift ((NetworkCall.pass runtime d).body i)).attempt
    return none
  | .seed ar d => do
    let _ ← (lift ((NetworkCall.seed ar d).body i)).attempt
    return none

/-- A run of the service. -/
abbrev ServiceRun (lower : String → String) (db : Database)
    (log : List (Pool.Issued Session ServiceCall StoreSql Database))
    (P : Pool Session ServiceCall StoreSql StoreSql.Reply ApiError (Option Response) Database) : Prop :=
  Pool.Run (StoreSql.exec lower) ServiceCall.body (fun _ _ => True) (.idle db) log P

/-! ## Commands -/

/-- A query. -/
def StoreSql.IsRead : StoreSql → Prop
  | .sql (.read _) => True
  | .sql (.write _) => False
  | .select _ => True

/-- A query, or a command of an API request. -/
def StoreSql.OfApi : StoreSql → Prop
  | .sql c => c.OfApi true
  | .select _ => True

theorem StoreSql.IsRead.ofApi {c : StoreSql} (h : c.IsRead) : c.OfApi := by
  cases c with
  | sql c =>
    cases c with
    | read q => exact Sql.ofApi_read q
    | write w => exact h.elim
  | select q => trivial

/-- What every command of the store does, every command of the service does. -/
theorem StoreSql.exec_rel {R : Database → Database → Prop} (hrefl : ∀ db, R db db)
    (h : ∀ (c : Sql) db, R db (c.exec db).1) (lower : String → String) (c : StoreSql)
    (db : Database) : R db (c.exec lower db).1 := by
  cases c with
  | sql c => exact h c db
  | select q => exact hrefl db

section

variable {n : KaniNode} {ε : Type}

theorem lift_reads {α : Type} {p : StoreProg ε α} (h : p.Only fun c => (StoreSql.sql c).IsRead) :
    (lift p).Only StoreSql.IsRead :=
  only_lift (fun _ h => h) h

theorem select_reads (q : Select) : (select q : FullStoreProg ε q.Reply).Only StoreSql.IsRead :=
  ⟨trivial, fun _ => trivial⟩

theorem readCurrent_reads (r : NodeRead) :
    (KaniNode.Postgres.readCurrent n r).Only StoreSql.IsRead := by
  refine .bind (.bind (lift_reads ?_) fun _ => trivial) fun _ => .ofExcept _
  unfold loadSnapshot
  iterate 10 refine .bind (only_query trivial) fun _ => ?_
  trivial

theorem getInstitution_reads (id : String) :
    (lift (KaniNode.Postgres.getInstitution id)).Only StoreSql.IsRead := by
  refine lift_reads (.bind (.mapError (only_query trivial)) fun found => ?_)
  cases found <;> trivial

theorem queryBlocks_reads (search : BlockSearch) :
    (PostgresLedgerStore.queryBlocks search : FullStoreProg ε (List Block)).Only
      StoreSql.IsRead := by
  refine .bind (select_reads _) fun rows => .bind ?_ fun _ => trivial
  unfold PostgresLedgerStore.loadTransactionsForBlocks
  split
  · trivial
  · exact .bind (select_reads _) fun _ => trivial

/-- A read of the node sends queries. -/
theorem NodeCall.read_reads (r : NodeRead) : ((NodeCall.read r).onStore n).Only StoreSql.IsRead := by
  cases r with
  | getPayment | balance | issued | latestBlock | accounts => exact readCurrent_reads _
  | blocks search => exact queryBlocks_reads search
  | institutions => exact lift_reads (only_query trivial)
  | getInstitution id => exact getInstitution_reads id
  | institutionCredentials id | institutionLimits id =>
    exact .bind (getInstitution_reads id) fun _ => select_reads _
  | auditEvents search => exact select_reads _
  | journalEntries search => exact select_reads _
  | complianceCases limit offset => exact lift_reads (only_query trivial)
  | complianceCase id =>
    exact lift_reads (.mapError (PostgresLedgerStore.complianceCase_only (fun _ => trivial) id))
  | pendingTransactions limit offset => exact lift_reads (only_query trivial)
  | validators => exact .bind (select_reads _) fun _ => trivial

/-- A node call sends queries and statements of the API. -/
theorem NodeCall.onStore_only (q : NodeCall) : (q.onStore n).Only StoreSql.OfApi := by
  cases q with
  | read r => exact (read_reads r).mono fun _ => StoreSql.IsRead.ofApi
  | act op =>
    have hrequest := KaniNode.Postgres.request_only n op
    rw [KaniNode.Postgres.request_eq] at hrequest
    exact only_lift (fun c hc w hw => ⟨(hc w hw).1, fun _ => rfl⟩) hrequest.of_bind

end

theorem ServiceCall.exchange_only (state : AppState) (x : Exchange) (i : Session) :
    ((ServiceCall.exchange state x).body i).Only StoreSql.OfApi :=
  .bind (.expand fun q => .attempt (NodeCall.onStore_only q)) fun _ => trivial

/-- A pass or a seeding is as safe in the service as it is by itself. -/
theorem safe_background {σ ε α : Type} {V : DbView σ} {lower : String → String}
    {p : StoreProg ε α} {rely guar : σ → σ → Prop} {ok : StoreSql → σ → Prop} {s : σ}
    (hrefl : ∀ s, rely s s)
    (h : p.Safe V.sem rely guar (fun c s => ok (.sql c) s) (fun _ _ => True) s) :
    (do
      let _ ← (lift p).attempt
      return none : FullStoreProg ApiError (Option Response)).Safe (StoreSql.execOn V lower) rely guar
        ok (fun _ _ => True) s := by
  have hlifted : (lift p).Safe (StoreSql.execOn V lower) rely guar ok (fun _ _ => True) s :=
    safe_lift (fun _ _ h => h) h
  refine .bind (.attempt (hlifted.mono (fun _ _ h => h) (fun _ _ h => h) (fun _ _ h => h) ?_)) hrefl
  exact fun _ _ _ _ _ => trivial

/-! ## Where a request stands -/

/-- Among the commands of `done`, the node calls of `h` were carried out to
their replies. -/
def Finished (state : AppState) (done : History StoreSql StoreSql.Reply) (h : CallHistory) : Prop :=
  ∃ k, Prog.Expands state.carryOut h k ∧ k <+: done

/-- After the commands `done`, a request sends `c`: it has finished the node
calls of `h` and carries out `q`, which it may. -/
structure Carries (state : AppState) (x : Exchange) (done : History StoreSql StoreSql.Reply)
    (c : StoreSql) (h : CallHistory) (q : NodeCall) : Prop where
  finished : Finished state done h
  current : ∃ k rest, (q.onStore state.node).Leads k (.call c rest)
  permitted : state.Permits x h q

section

variable {state : AppState} {x : Exchange} {done : History StoreSql StoreSql.Reply}
  {c : StoreSql} {h : CallHistory} {q : NodeCall}

theorem carries_of_leads {i : Session}
    {rest : c.Reply → FullStoreProg ApiError (Option Response)}
    (hleads : ((ServiceCall.exchange state x).body i).Leads done (.call c rest)) :
    ∃ h q, Carries state x done c h q := by
  have hrespond : ∃ rest', (state.respond x).Leads done (.call c rest') := by
    rcases hleads.of_bind with ⟨p, hp, hcall⟩ | ⟨k₁, k₂, response, -, -, hrest⟩
    · cases p with
      | ok response => cases hcall
      | fail e => cases hcall
      | call c' rest' =>
        cases hcall
        exact ⟨rest', hp⟩
    · cases hrest.ok_inv.2
  obtain ⟨rest', hrespond⟩ := hrespond
  obtain ⟨h, k₁, k₂, q, next, rest₂, rfl, hfinished, hhandler, hcurrent⟩ := hrespond.of_expand
  obtain ⟨p, hp, hcall⟩ := hcurrent.of_attempt
  have hsound : state.Sound x (AsyncApi.handle state x.draws x.headers x.request) [] :=
    AsyncApi.handle_sound x
  have hmay := hsound.follows.may_of_leads hhandler
  cases p with
  | ok v => cases hcall
  | fail e => cases hcall
  | call c' rest₃ =>
    cases hcall
    exact ⟨h, q, ⟨k₁, hfinished, List.prefix_append _ _⟩, ⟨k₂, rest₃, hp⟩, hmay⟩

/-- The command a request sends is one of the node call it carries out. -/
theorem Carries.of_only (hc : Carries state x done c h q) {A : StoreSql → Prop}
    (honly : (q.onStore state.node).Only A) : A c := by
  obtain ⟨k, rest, hleads⟩ := hc.current
  exact honly.of_leads hleads

/-- What a finished call ended with. -/
theorem Finished.done_of_mem (hf : Finished state done h) {q : NodeCall} {r : q.Reply}
    (hmem : ⟨q, r⟩ ∈ h) {ended : History StoreSql StoreSql.Reply → q.Reply → Prop}
    (hfollows : (q.onStore state.node).Follows (fun _ _ => True) ended []) :
    ∃ k, ended k r ∧ k <:+: done := by
  obtain ⟨k, hexpands, hprefix⟩ := hf
  obtain ⟨k', hended, hin⟩ := hexpands.done_of_mem hmem hfollows
  exact ⟨k', hended, hin.trans hprefix.isInfix⟩

/-- The accounts a call returns were read from the table. -/
theorem accounts_follows (n : KaniNode) :
    ((NodeCall.read .accounts).onStore n).Follows (fun _ _ => True)
      (fun k r => ∀ accounts, r = .ok accounts → ∃ rows, ⟨.sql (.read .accounts), rows⟩ ∈ k ∧
        ∀ account ∈ accounts, account ∈ rows) [] := by
  refine ⟨trivial, fun rows => ?_⟩
  iterate 9 refine ⟨trivial, fun _ => ?_⟩
  rintro _ ⟨⟩
  refine ⟨rows, by simp, fun account haccount => ?_⟩
  obtain ⟨id, hid⟩ := HashMap.mem_values.mp haccount
  obtain ⟨account', hmem, heq⟩ := List.mem_map.mp (HashMap.mem_of_lookup_ofPairs hid)
  cases heq
  exact hmem

theorem Finished.accounts (hf : Finished state done h) {accounts : List Account}
    (hread : ReadIn h .accounts accounts) :
    ∃ rows, ⟨.sql (.read .accounts), rows⟩ ∈ done ∧ ∀ account ∈ accounts, account ∈ rows := by
  obtain ⟨k, hended, hin⟩ := hf.done_of_mem hread (accounts_follows _)
  obtain ⟨rows, hrows, hall⟩ := hended accounts rfl
  exact ⟨rows, hin.subset hrows, hall⟩

/-- The institution a call returns was read from the table. -/
theorem institution_follows (n : KaniNode) (id : String) :
    ((NodeCall.read (.getInstitution id)).onStore n).Follows (fun _ _ => True)
      (fun k r => ∀ institution, r = .ok institution →
        ⟨.sql (.read (.institution id)), some institution⟩ ∈ k) [] := by
  refine ⟨trivial, fun found => ?_⟩
  cases found with
  | none =>
    rintro _ ⟨⟩
  | some institution =>
    rintro _ ⟨⟩
    simp

theorem Finished.institution (hf : Finished state done h) {id : String}
    {institution : Institution} (hread : ReadIn h (.getInstitution id) institution) :
    ⟨.sql (.read (.institution id)), some institution⟩ ∈ done := by
  obtain ⟨k, hended, hin⟩ := hf.done_of_mem hread (institution_follows _ id)
  exact hin.subset (hended institution rfl)

/-- A recorded event was inserted. -/
theorem recordAuditEvent_follows (n : KaniNode) (event : AuditEvent) :
    ((NodeCall.act (.recordAuditEvent event)).onStore n).Follows (fun _ _ => True)
      (fun k r => r = .ok () → ⟨.sql (.write (.insertAuditEvent event)), .ok ()⟩ ∈ k) [] := by
  refine ⟨trivial, fun reply => ?_⟩
  cases reply with
  | error e =>
    rintro ⟨⟩
  | ok u =>
    rintro -
    simp

theorem Finished.audited (hf : Finished state done h) {event : AuditEvent}
    (haudited : AuditedIn h event) :
    ⟨.sql (.write (.insertAuditEvent event)), .ok ()⟩ ∈ done := by
  obtain ⟨k, hended, hin⟩ := hf.done_of_mem haudited (recordAuditEvent_follows _ event)
  exact hin.subset (hended rfl)

end

end KaniNetwork
