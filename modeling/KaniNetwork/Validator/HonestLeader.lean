/-
KaniNetwork.Validator.HonestLeader — a pass of the leader never fails on
its own block.

With distinct active ids the votes of every height are a quorum, so what
`build_block_for_validator` seals passes `verify_phase1_block`: the hash is
taken of the unsealed block on both sides, and the transactions passed the
dry run. The block extends the ledger it was built on, so `apply_block`
takes it as well. What is left of `produceBlock` is the save: the branch that
rejects the whole batch is not reached.
-/
import KaniNetwork.Ledger.DryRun
import KaniNetwork.Node.Liveness
import KaniNetwork.Validator.BatchSelection

namespace KaniNetwork

open InMemoryLedger

/-- Distinct active ids give a quorum at every height. -/
theorem quorum_of_distinct {engine : ConfiguredConsensusEngine}
    (hids : (engine.activeValidators.map Validator.id).Nodup) {height : Int} (hh : 1 ≤ height) :
    ∃ leader votes, engine.leaderForHeight height = .ok leader ∧
      engine.finalityVotesForBlock height = .ok votes ∧ Quorum engine leader votes := by
  obtain ⟨leader, votes, hleader, hvotes, hquorum, -⟩ :=
    (forall_height_iff_ids engine).mpr (.inl hids) height hh
  exact ⟨leader, votes, hleader, hvotes, hquorum⟩

section

variable {host : Host} {consensus : ConfiguredConsensusEngine} (profile : CryptoProfile)

/-- The leader of a height with a quorum seals a block, and the block
passes. -/
theorem sealBlock_isOk {ledger : InMemoryLedger} {txs : List Transaction} {height : Int}
    {leader : Validator} {votes : List String} (hne : txs ≠ [])
    (hvalid : Accepts host.arith ledger txs)
    (hleader : consensus.leaderForHeight height = .ok leader)
    (hvotes : consensus.finalityVotesForBlock height = .ok votes)
    (hquorum : Quorum consensus leader votes) (d : Draws) :
    ∃ block, sealBlock host consensus profile d ledger txs leader.id height = .ok block ∧
      Verified host consensus profile block := by
  let block := Block.newUnsealed (d.sub 0).stamp.now height ledger.lastHash txs leader.id
  let hash := host.hashJson profile.hash block
  have hverified : Verified host consensus profile (block.sealed hash
      (host.sandboxValidatorSignature profile leader.id hash) votes) := {
    txs_nonempty := hne
    validator := ⟨leader, hleader, rfl⟩
    quorum := hquorum.enough
    votes_active := by
      intro v hv
      obtain ⟨w, hw, hid⟩ := List.mem_map.mp (hquorum.active v hv)
      exact ⟨w, hw, hid⟩
    votes_distinct := hquorum.distinct
    producer_voted := hquorum.leader_voted
    hash := rfl
    signature := rfl }
  refine ⟨_, ?_, hverified⟩
  unfold sealBlock
  rw [hvotes]
  simp only [Except.mapError, ok_bind]
  rw [if_neg (not_lt.mpr hquorum.enough), hverified.verifies (hvalid _)]
  rfl

/-- The leader builds a block that verification accepts, and that extends
the ledger. -/
theorem buildBlockForValidator_isOk
    (hids : (consensus.activeValidators.map Validator.id).Nodup)
    (hhash : ∀ algorithm bytes, host.hashBytes algorithm bytes ≠ "")
    {ledger : InMemoryLedger} {txs : List Transaction} (hne : txs ≠ [])
    (hvalid : Accepts host.arith ledger txs) {leader : Validator}
    (hleader : consensus.leaderForHeight ledger.nextHeight = .ok leader) (d : Draws) :
    ∃ block, buildBlockForValidator host consensus profile d ledger txs leader.id = .ok block ∧
      block.txs = txs ∧ ledger.Extends block ∧
      ∀ d', verifyPhase1Block host consensus profile d' ledger block = .ok () := by
  have hheight : 1 ≤ ledger.nextHeight := by
    unfold nextHeight
    omega
  obtain ⟨leader', votes, hleader', hvotes, hquorum⟩ := quorum_of_distinct hids hheight
  rw [hleader] at hleader'
  cases hleader'
  obtain ⟨block, hseal, hverified⟩ :=
    sealBlock_isOk profile hne hvalid hleader hvotes hquorum d
  obtain ⟨-, -, hheight, hprev, htxs, -⟩ := sealBlock_eq_ok hseal
  refine ⟨block, ?_, htxs, ⟨?_, hheight, hprev⟩, ?_⟩
  · unfold buildBlockForValidator
    rw [if_neg (by simpa using hne)]
    exact hseal
  · rw [hverified.hash]
    exact hhash _ _
  · intro d'
    exact hverified.verifies (htxs ▸ hvalid d')

end

/-- Save the block of a pass and record it. -/
def ValidatorRuntime.saveBlock (v : ValidatorRuntime) (d : Draws) (block : Block)
    (final : InMemoryLedger) : StoreProg NodeError (Option Block) := do
  execute (.saveSnapshot final.snapshot)
  execute (.recordFinalizedBlock v.validatorId block (d.sub 4).stamp.now)
  return some block

section

variable {v : ValidatorRuntime} {ledger : InMemoryLedger} {leader : Validator}

/-- The block of an accepted batch is saved. -/
theorem produceBlock_eq_saveBlock
    (hids : (v.consensus.activeValidators.map Validator.id).Nodup)
    (hhash : ∀ algorithm bytes, v.host.hashBytes algorithm bytes ≠ "")
    {txs : List Transaction} (hne : txs ≠ []) (hvalid : Accepts v.host.arith ledger txs)
    (hleader : v.consensus.leaderForHeight ledger.nextHeight = .ok leader)
    (hself : leader.id = v.validatorId) (d : Draws) :
    ∃ block final, v.produceBlock d ledger txs = v.saveBlock d block final := by
  obtain ⟨block, hblock, htxs, hextends, hverify⟩ :=
    buildBlockForValidator_isOk v.cryptoProfile hids hhash hne hvalid hleader (d.sub 0)
  obtain ⟨final, records, happ⟩ := hextends.applies (htxs ▸ hvalid) (d.sub 2)
  rw [hself] at hblock
  refine ⟨block, final, ?_⟩
  unfold ValidatorRuntime.produceBlock
  simp only [hblock, Prog.ofExcept_ok, Prog.ok_bind, hverify, happ]
  rfl

/-- What a pass does with the pending transactions once it knows that it
leads: it writes the rejections of the selection, and saves a block of the
rest if there is any. -/
theorem selectBatch_produceBlock_eq
    (hids : (v.consensus.activeValidators.map Validator.id).Nodup)
    (hhash : ∀ algorithm bytes, v.host.hashBytes algorithm bytes ≠ "")
    (hleader : v.consensus.leaderForHeight ledger.nextHeight = .ok leader)
    (hself : leader.id = v.validatorId) (pending : List Transaction) (d d' : Draws) :
    let vs := ledger.verdicts v.host.arith pending
    ∃ block final,
      (v.selectBatch ledger d [] pending >>= fun accepted =>
        if accepted.isEmpty then return none else v.produceBlock d' ledger accepted) =
      (v.carryOut d vs >>= fun _ =>
        if (kept vs).isEmpty then return none else v.saveBlock d' block final) := by
  intro vs
  rw [v.selectBatch_eq]
  by_cases hempty : kept vs = []
  · refine ⟨⟨0, "", [], "", [], "", [], 0⟩, ledger, ?_⟩
    simp [vs, hempty, Prog.bind_assoc]
  · obtain ⟨block, final, hsave⟩ := produceBlock_eq_saveBlock hids hhash hempty
      (accepts_kept v.host.arith ledger pending) hleader hself d'
    refine ⟨block, final, ?_⟩
    simp [vs, hempty, Prog.bind_assoc, hsave]

end

/-- **An honest leader never fails.** With distinct active ids and a digest
that is never empty, from any ledger and any transactions that the dry run
accepts, at least one: the next height has a leader, building a block under
its id succeeds, verification accepts the block against the same ledger and
`apply_block` takes it. So when the validator of a pass is this leader, the
pass rejects what the selection rejects, saves its block, and does not come
to the branch that rejects the whole batch. -/
theorem honest_leader_never_fails (v : ValidatorRuntime)
    (hids : (v.consensus.activeValidators.map Validator.id).Nodup)
    (hhash : ∀ algorithm bytes, v.host.hashBytes algorithm bytes ≠ "")
    (ledger : InMemoryLedger) {txs : List Transaction} (hne : txs ≠ []) (d₀ : Draws)
    (hvalid : ledger.validateTransactionsForNextBlock v.host.arith d₀ txs = .ok ()) :
    ∃ leader, v.consensus.leaderForHeight ledger.nextHeight = .ok leader ∧
      (∀ d, ∃ block,
        buildBlockForValidator v.host v.consensus v.cryptoProfile d ledger txs leader.id =
          .ok block ∧
        (∀ d', verifyPhase1Block v.host v.consensus v.cryptoProfile d' ledger block = .ok ()) ∧
        ∀ d', ∃ final records, applyBlock v.host.arith d' block ledger = (final, .ok records)) ∧
      (leader.id = v.validatorId → ∀ pending d d', ∃ block final,
        (v.selectBatch ledger d [] pending >>= fun accepted =>
          if accepted.isEmpty then return none else v.produceBlock d' ledger accepted) =
        (v.carryOut d (ledger.verdicts v.host.arith pending) >>= fun _ =>
          if (kept (ledger.verdicts v.host.arith pending)).isEmpty then return none
          else v.saveBlock d' block final)) := by
  have hacc : Accepts v.host.arith ledger txs := (accepts_iff d₀).mpr hvalid
  have hheight : 1 ≤ ledger.nextHeight := by
    unfold nextHeight
    omega
  obtain ⟨leader, -, hleader, -, -⟩ := quorum_of_distinct hids hheight
  refine ⟨leader, hleader, ?_, ?_⟩
  · intro d
    obtain ⟨block, hblock, htxs, hextends, hverify⟩ :=
      buildBlockForValidator_isOk v.cryptoProfile hids hhash hne hacc hleader d
    exact ⟨block, hblock, hverify, hextends.applies (htxs ▸ hacc)⟩
  · intro hself pending d d'
    exact selectBatch_produceBlock_eq hids hhash hleader hself pending d d'

/-- The digest of the sample host is never empty. -/
theorem sample_hashBytes_ne (algorithm : HashAlgorithm) (bytes : List UInt8) :
    Host.sample.hashBytes algorithm bytes ≠ "" := by
  intro hempty
  have hlength := congrArg String.length hempty
  simp [Host.sample] at hlength

/-- A mint on the empty sandbox ledger under the default engine. -/
theorem honest_leader_example : ∃ leader block,
    phase1Engine.leaderForHeight 1 = .ok leader ∧
      buildBlockForValidator .sample phase1Engine .hybridPqcV1 (.numbered "d" 0)
        (sandbox (.numbered "s" 0)) [.newMint ⟨"mint", 0⟩ SANDBOX_TREASURY_ACCOUNT
          SANDBOX_CORP_A_ACCOUNT KCAD_TEST 5 1] leader.id = .ok block := by
  obtain ⟨leader, hleader, hbuild, -⟩ := honest_leader_never_fails
    (.connect .sample "validator-a") (by decide) sample_hashBytes_ne (sandbox (.numbered "s" 0))
    (List.cons_ne_nil (Transaction.newMint ⟨"mint", 0⟩ SANDBOX_TREASURY_ACCOUNT
      SANDBOX_CORP_A_ACCOUNT KCAD_TEST 5 1) [])
    (.numbered "v" 0) (by decide +kernel)
  obtain ⟨block, hblock, -⟩ := hbuild (.numbered "d" 0)
  exact ⟨leader, block, hleader, hblock⟩

end KaniNetwork
