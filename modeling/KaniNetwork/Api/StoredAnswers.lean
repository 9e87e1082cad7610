/-
KaniNetwork.Api.StoredAnswers — what the service tells of the chain.

Balances, issued amounts and pages of blocks are told as one ledger in memory
would tell them: it starts as the sandbox and applies stored blocks one after
another, and each answer is the one it gives after a prefix of the stored
chain (`answers_replay`). The prefixes grow in the order of the reads of a
request, so no request sees a payment undone.
-/
import KaniNetwork.Api.StoredBooks

namespace KaniNetwork

open InMemoryLedger

/-- The reads that the chain decides. -/
def NodeRead.ofChain : NodeRead → Bool
  | .balance _ _ | .issued _ | .blocks _ => true
  | _ => false

def NodeCall.ofChain : NodeCall → Bool
  | .read r => r.ofChain
  | .act _ => false

theorem NodeCall.atomic_of_ofChain {q : NodeCall} (h : q.ofChain = true) : q.atomic = true := by
  cases q with
  | read r => cases r <;> first | rfl | cases h
  | act op => cases h

/-- The sandbox answers so after these blocks. -/
def ReplayedBy (d : Draws) (n : KaniNode) (x : (q : NodeCall) × q.Reply) (blocks : List Block) :
    Prop :=
  (x.1.inMemory n (rebuilt d blocks)).2 = x.2

/-- Ledgers that are alike and have the same blocks answer alike. -/
theorem NodeRead.inMemory_of_alike {n : KaniNode} {l l' : InMemoryLedger} (h : l.Alike l')
    (hblocks : l.blocks = l'.blocks) {r : NodeRead} (hr : r.ofChain = true) :
    r.inMemory n l = r.inMemory n l' := by
  cases r with
  | balance a s => exact congrArg Except.ok (h.working.balance a s)
  | issued s => exact congrArg Except.ok (h.working.issued s)
  | blocks search => exact congrArg (fun blocks => Except.ok (search.apply blocks)) hblocks
  | _ => cases hr

section

variable {lower : String → String} {db : Database} {log : ServiceLog}
  {P : Pool Session ServiceCall StoreSql StoreSql.Reply ApiError (Option Response) Database}

/-- The stored ledger stands at every command of a run. -/
theorem ServiceRun.stands_at {settings : Settings} {d₀ : Draws}
    (hseed : (Database.empty settings).saveSnapshot (sandbox d₀).snapshot = .ok db)
    (hrun : ServiceRun lower db log P)
    (huses : ∀ i call left, P.slots i = some (call, left) → call.Uses .exact)
    {e : Pool.Issued Session ServiceCall StoreSql Database} (he : e ∈ log) :
    ChainSound .exact e.store ∧ LedgerStands False e.store := by
  have hguarded := (hrun.congr_body ServiceCall.body_eq huses).of_outline
    (ledgerService (J := False) (fun _ _ h => h.elim) lower)
    ((ledgerService _ lower).holds_idle ⟨chainSound_seeded hseed, ledgerStands_seeded hseed⟩)
  obtain ⟨M, next, before, after, -, -, -, -, hinv, -⟩ := hguarded.exists_of_mem he
  exact ⟨hinv.1.1, hinv.2⟩

/-- **Clients are told the replay of one chain.** In every run of any number
of requests, validators with exact amounts and starting processes on a seeded
database: the balances, issued amounts and pages of blocks that a request has
read are those of the sandbox after growing prefixes of the stored chain. -/
theorem answers_replay {settings : Settings} {d₀ : Draws} {state : AppState} {i : Session}
    (hseed : (Database.empty settings).saveSnapshot (sandbox d₀).snapshot = .ok db)
    (hrun : ServiceRun lower db log P)
    (huses : ∀ i call left, P.slots i = some (call, left) → call.Uses .exact)
    (harith : state.node.host.arith = .exact) {x : Exchange}
    {r : Except ApiError (Option Response)} (hended : P.ended? i = some (.exchange state x, r))
    (d : Draws) :
    ∃ h r' chains, r = r'.map some ∧
      (AsyncApi.handle state x.draws x.headers x.request).Leads h (.ofExcept r') ∧
      chains.Pairwise (· <+: ·) ∧ (∀ chain ∈ chains, chain <+: P.store.chain) ∧
      List.Forall₂ (ReplayedBy d state.node) (h.filter fun x => x.1.ofChain) chains := by
  obtain ⟨h, r', moments, hr, hhandler, hsub, hall⟩ :=
    ServiceRun.answered hseed hrun huses hended fun _ => NodeCall.atomic_of_ofChain
  refine ⟨h, r', moments.map fun e => e.store.chain, hr, hhandler, ?_, ?_, ?_⟩
  · have hgrow : log.Pairwise fun e e' => e.store.chain <+: e'.store.chain :=
      Pool.pairwise_of_splits fun _ _ _ _ _ hlog => ServiceRun.chain_grows hseed hrun huses hlog
    exact List.pairwise_map.mpr (hgrow.sublist hsub)
  · intro chain hchain
    obtain ⟨e, he, rfl⟩ := List.mem_map.mp hchain
    exact ServiceRun.chain_grows_end hseed hrun huses (hsub.subset he)
  · rw [List.forall₂_map_right_iff]
    -- each answer with its moment in the log, and of a read of the chain
    have hlogged : List.Forall₂ (fun e x => e ∈ log ∧ AnsweredAt state i x e) moments
        (h.filter fun x => x.1.ofChain) :=
      (List.forall₂_and_left _ _).mpr ⟨fun e he => hsub.subset he, hall.flip⟩
    have hchosen : List.Forall₂ (fun (x : (q : NodeCall) × q.Reply) e =>
        x.1.ofChain = true ∧ e ∈ log ∧ AnsweredAt state i x e) (h.filter fun x => x.1.ofChain) moments :=
      (List.forall₂_and_left _ _).mpr ⟨fun x hx => (List.mem_filter.mp hx).2, hlogged.flip⟩
    refine hchosen.imp fun x e hx => ?_
    obtain ⟨hread, he, hanswered⟩ := hx
    obtain ⟨hs, hstands⟩ := ServiceRun.stands_at hseed hrun huses he
    have halike : (rebuilt d e.store.chain).Alike (e.store.ledger .exact) :=
      (hstands.rebuilt d).alike hs
    have hblocks : (rebuilt d e.store.chain).blocks = (e.store.ledger .exact).blocks :=
      (hstands.rebuilt d).blocks.trans Database.ledger_blocks.symm
    have hreply := hanswered.reply
    rw [harith] at hreply
    obtain ⟨q, reply⟩ := x
    cases q with
    | act op => cases hread
    | read r => exact (NodeRead.inMemory_of_alike halike hblocks hread).trans hreply

end

/-- The node a request asks computes with these amounts. -/
def ServiceCall.arith? : ServiceCall → Option Arith
  | .exchange state _ => some state.node.host.arith
  | _ => none

/-- The page of blocks, and the chain it was told from. -/
theorem answers_replay_example :
    ∃ state x r, examplePage.ended? 3 = some (.exchange state x, r) ∧
      ∃ h r' chains, r = r'.map some ∧
        (AsyncApi.handle state x.draws x.headers x.request).Leads h (.ofExcept r') ∧
        chains.Pairwise (· <+: ·) ∧ (∀ chain ∈ chains, chain <+: examplePage.store.chain) ∧
        List.Forall₂ (ReplayedBy (.numbered "again" 9) state.node)
          (h.filter fun x => x.1.ofChain) chains := by
  have hended : ∃ v ∈ examplePage.ended? 3, ServiceCall.arith? v.1 = some .exact := by
    decide +kernel
  have hseed : (Database.empty .plain).saveSnapshot (sandbox (.numbered "seed" 0)).snapshot =
      .ok (.seeded (.numbered "seed" 0)) := Database.seeded_numbered
  obtain ⟨⟨call, r⟩, hended, harith⟩ := hended
  cases call with
  | exchange state x =>
    exact ⟨state, x, r, hended, answers_replay hseed examplePageRun (fun _ _ _ => examplePage_uses)
      (Option.some.inj harith) hended (.numbered "again" 9)⟩
  | pass runtime d => cases harith
  | seed ar d => cases harith

end KaniNetwork
