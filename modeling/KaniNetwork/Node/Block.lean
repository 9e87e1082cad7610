/-
KaniNetwork.Node.Block — building and verifying a block (`kani-node`).

`build_block` of the in-memory node and `build_block_for_validator` of the
validator differ in who is asked for the producer: the node takes the
leader of the height, the validator passes its own id. Both seal the same
way and both end with `verify_phase1_block`, which checks everything about
a block except its height and its previous hash; those are left to
`apply_block`.
-/
import KaniNetwork.Consensus.Engine
import KaniNetwork.Crypto.Profile

namespace KaniNetwork

inductive NodeError where
  | ledger (error : LedgerError)
  | storage (error : LedgerStorageError)
  | consensus (error : ConsensusError)
  | emptyBlock
  | insufficientFinality (got required : Nat)
  | invalidBlockValidator (expected actual : String)
  | unknownFinalityValidator (id : String)
  | duplicateFinalityVote (id : String)
  | missingProducerFinalityVote (id : String)
  | invalidBlockHash (expected actual : String)
  | invalidBlockSignature (validator hash : String)
  | idempotencyConflict (clientReferenceId : String)
  deriving DecidableEq, Repr

/-- The loop over the finality votes; returns the set of votes seen. -/
def checkFinalityVotes (active : List String) :
    List String → List String → Except NodeError (List String)
  | seen, [] => .ok seen
  | seen, id :: votes =>
    if id ∉ active then .error (.unknownFinalityValidator id)
    else if id ∈ seen then .error (.duplicateFinalityVote id)
    else checkFinalityVotes active (id :: seen) votes

section

variable (host : Host) (consensus : ConfiguredConsensusEngine) (profile : CryptoProfile)

/-- `verify_phase1_block`. -/
def verifyPhase1Block (d : Draws) (ledger : InMemoryLedger) (block : Block) :
    Except NodeError Unit := do
  if block.txs.isEmpty then .error .emptyBlock
  else
    let leader ← (consensus.leaderForHeight block.height).mapError .consensus
    if block.validator ≠ leader.id then
      .error (.invalidBlockValidator leader.id block.validator)
    else
      let required := consensus.finalityThreshold
      if block.finalizedBy.length < required then
        .error (.insufficientFinality block.finalizedBy.length required)
      else
        let active := consensus.activeValidators.map Validator.id
        let seen ← checkFinalityVotes active [] block.finalizedBy
        if block.validator ∉ seen then .error (.missingProducerFinalityVote block.validator)
        else
          let expectedHash := host.hashJson profile.hash block.unsealed
          if block.hash ≠ expectedHash then
            .error (.invalidBlockHash expectedHash block.hash)
          else
            let expectedSignature :=
              host.sandboxValidatorSignature profile block.validator block.hash
            if block.signature ≠ expectedSignature then
              .error (.invalidBlockSignature block.validator block.hash)
            else
              (ledger.validateTransactionsForNextBlock host.arith d block.txs).mapError .ledger

/-- Seal a new block of the producer `validatorId` with the votes of its
height. -/
def sealBlock (d : Draws) (ledger : InMemoryLedger) (txs : List Transaction)
    (validatorId : String) (height : Int) : Except NodeError Block := do
  let votes ← (consensus.finalityVotesForBlock height).mapError .consensus
  let required := consensus.finalityThreshold
  if votes.length < required then .error (.insufficientFinality votes.length required)
  else
    let block := Block.newUnsealed (d.sub 0).stamp.now height ledger.lastHash txs validatorId
    let hash := host.hashJson profile.hash block
    let signature := host.sandboxValidatorSignature profile validatorId hash
    let block := block.sealed hash signature votes
    verifyPhase1Block host consensus profile (d.sub 1) ledger block
    return block

/-- `build_block`. -/
def buildBlock (d : Draws) (ledger : InMemoryLedger) (txs : List Transaction) :
    Except NodeError Block := do
  let height := ledger.nextHeight
  let validator ← (consensus.leaderForHeight height).mapError .consensus
  sealBlock host consensus profile d ledger txs validator.id height

/-- `build_block_for_validator`. -/
def buildBlockForValidator (d : Draws) (ledger : InMemoryLedger) (txs : List Transaction)
    (validatorId : String) : Except NodeError Block := do
  if txs.isEmpty then .error .emptyBlock
  else sealBlock host consensus profile d ledger txs validatorId ledger.nextHeight

end

/-! ## What a verified block satisfies -/

theorem checkFinalityVotes_eq_checkVotes (active seen votes : List String) :
    checkFinalityVotes active seen votes
      = checkVotes .unknownFinalityValidator .duplicateFinalityVote active seen votes := by
  induction votes generalizing seen with
  | nil => rfl
  | cons id votes ih => simp only [checkFinalityVotes, checkVotes, ih]

/-- What `verify_phase1_block` establishes about the seal of a block. -/
structure Verified (host : Host) (consensus : ConfiguredConsensusEngine)
    (profile : CryptoProfile) (block : Block) : Prop where
  txs_nonempty : block.txs ≠ []
  validator : ∃ leader, consensus.leaderForHeight block.height = .ok leader ∧
    block.validator = leader.id
  quorum : consensus.finalityThreshold ≤ block.finalizedBy.length
  votes_active : ∀ v ∈ block.finalizedBy, ∃ w ∈ consensus.activeValidators, w.id = v
  votes_distinct : block.finalizedBy.Nodup
  producer_voted : block.validator ∈ block.finalizedBy
  hash : block.hash = host.hashJson profile.hash block.unsealed
  signature : block.signature = host.sandboxValidatorSignature profile block.validator block.hash

/-- `verify_phase1_block` accepts a block only with its seal in order and
its transactions valid for the next block. -/
theorem verifyPhase1Block_eq_ok {host : Host} {consensus : ConfiguredConsensusEngine}
    {profile : CryptoProfile} {d : Draws} {ledger : InMemoryLedger} {block : Block}
    (h : verifyPhase1Block host consensus profile d ledger block = .ok ()) :
    Verified host consensus profile block ∧
      ledger.validateTransactionsForNextBlock host.arith d block.txs = .ok () := by
  unfold verifyPhase1Block at h
  split at h
  · cases h
  rename_i htxs
  simp only [bind_eq_ok_iff, mapError_eq_ok_iff] at h
  obtain ⟨leader, hleader, h⟩ := h
  split at h
  · cases h
  rename_i hvalidator
  split at h
  · cases h
  rename_i hquorum
  simp only [bind_eq_ok_iff] at h
  obtain ⟨seen, hvotes, h⟩ := h
  rw [checkFinalityVotes_eq_checkVotes] at hvotes
  split at h
  · cases h
  rename_i hproducer
  split at h
  · cases h
  rename_i hhash
  split at h
  · cases h
  rename_i hsig
  obtain ⟨hactive, hnodup, -, hseen⟩ := checkVotes_eq_ok hvotes
  refine ⟨?_, mapError_eq_ok_iff.mp h⟩
  exact {
    txs_nonempty := by simpa using htxs
    validator := ⟨leader, hleader, not_not.mp hvalidator⟩
    quorum := not_lt.mp hquorum
    votes_active := fun v hv => by simpa using hactive v hv
    votes_distinct := hnodup
    producer_voted := by simpa [hseen] using hproducer
    hash := not_not.mp hhash
    signature := not_not.mp hsig }

/-- Conversely, a block with its seal in order passes with transactions that
are valid for the next block. -/
theorem Verified.verifies {host : Host} {consensus : ConfiguredConsensusEngine}
    {profile : CryptoProfile} {d : Draws} {ledger : InMemoryLedger} {block : Block}
    (h : Verified host consensus profile block)
    (hvalid : ledger.validateTransactionsForNextBlock host.arith d block.txs = .ok ()) :
    verifyPhase1Block host consensus profile d ledger block = .ok () := by
  obtain ⟨leader, hleader, hvalidator⟩ := h.validator
  have hactive : ∀ v ∈ block.finalizedBy, v ∈ consensus.activeValidators.map Validator.id := by
    intro v hv
    simpa using h.votes_active v hv
  have hvotes : ∃ seen, checkVotes NodeError.unknownFinalityValidator .duplicateFinalityVote
      (consensus.activeValidators.map Validator.id) [] block.finalizedBy = .ok seen :=
    checkVotes_isOk hactive h.votes_distinct (by simp)
  obtain ⟨seen, hseen⟩ := hvotes
  obtain ⟨-, -, -, hmem⟩ := checkVotes_eq_ok hseen
  have hproducer : block.validator ∈ seen := (hmem _).mpr (.inl h.producer_voted)
  unfold verifyPhase1Block
  rw [if_neg (by simpa using h.txs_nonempty), hleader]
  simp only [Except.mapError, ok_bind]
  rw [if_neg (not_not.mpr hvalidator), if_neg (not_lt.mpr h.quorum),
    checkFinalityVotes_eq_checkVotes, hseen, ok_bind, if_neg (not_not.mpr hproducer),
    if_neg (not_not.mpr h.hash), if_neg (not_not.mpr h.signature), hvalid]

/-- A sealed block is verified and extends the ledger it was built on. -/
theorem sealBlock_eq_ok {host : Host} {consensus : ConfiguredConsensusEngine}
    {profile : CryptoProfile} {d : Draws} {ledger : InMemoryLedger} {txs : List Transaction}
    {validatorId : String} {height : Int} {block : Block}
    (h : sealBlock host consensus profile d ledger txs validatorId height = .ok block) :
    Verified host consensus profile block ∧
      ledger.validateTransactionsForNextBlock host.arith (d.sub 1) txs = .ok () ∧
      block.height = height ∧ block.prevHash = ledger.lastHash ∧ block.txs = txs ∧
      block.validator = validatorId := by
  simp only [sealBlock, bind_eq_ok_iff, mapError_eq_ok_iff] at h
  obtain ⟨votes, hvotes, h⟩ := h
  split at h
  · cases h
  simp only [bind_eq_ok_iff, pure_eq_ok, Except.ok.injEq] at h
  obtain ⟨_, hverify, rfl⟩ := h
  obtain ⟨hverified, hvalid⟩ := verifyPhase1Block_eq_ok hverify
  exact ⟨hverified, hvalid, rfl, rfl, rfl, rfl⟩

theorem buildBlock_eq_ok {host : Host} {consensus : ConfiguredConsensusEngine}
    {profile : CryptoProfile} {d : Draws} {ledger : InMemoryLedger} {txs : List Transaction}
    {block : Block} (h : buildBlock host consensus profile d ledger txs = .ok block) :
    Verified host consensus profile block ∧
      ledger.validateTransactionsForNextBlock host.arith (d.sub 1) txs = .ok () ∧
      block.height = ledger.nextHeight ∧ block.prevHash = ledger.lastHash ∧ block.txs = txs := by
  simp only [buildBlock, bind_eq_ok_iff, mapError_eq_ok_iff] at h
  obtain ⟨validator, _, h⟩ := h
  obtain ⟨hv, hvalid, hheight, hprev, htxs, _⟩ := sealBlock_eq_ok h
  exact ⟨hv, hvalid, hheight, hprev, htxs⟩

theorem buildBlockForValidator_eq_ok {host : Host} {consensus : ConfiguredConsensusEngine}
    {profile : CryptoProfile} {d : Draws} {ledger : InMemoryLedger} {txs : List Transaction}
    {validatorId : String} {block : Block}
    (h : buildBlockForValidator host consensus profile d ledger txs validatorId = .ok block) :
    Verified host consensus profile block ∧
      ledger.validateTransactionsForNextBlock host.arith (d.sub 1) txs = .ok () ∧
      block.height = ledger.nextHeight ∧ block.prevHash = ledger.lastHash ∧ block.txs = txs ∧
      block.validator = validatorId := by
  unfold buildBlockForValidator at h
  split at h
  · cases h
  exact sealBlock_eq_ok h

/-! ## Errors of the process itself -/

/-- An error that no statement of the database caused. -/
def NodeError.Local : NodeError → Prop
  | .storage (.sqlx _) => False
  | _ => True

/-- An error of building or verifying a block: neither the database nor an
idempotency key has a part in it. -/
def NodeError.OfBlock : NodeError → Prop
  | .storage _ | .idempotencyConflict _ => False
  | _ => True

theorem NodeError.OfBlock.isLocal {e : NodeError} (h : e.OfBlock) : e.Local := by
  cases e with
  | storage error => exact h.elim
  | _ => trivial

section

variable (host : Host) (consensus : ConfiguredConsensusEngine) (profile : CryptoProfile)

theorem verifyPhase1Block_ofBlock (d : Draws) (ledger : InMemoryLedger) (block : Block) :
    FailsIn NodeError.OfBlock (verifyPhase1Block host consensus profile d ledger block) := by
  have hvotes : ∀ active votes seen,
      FailsIn NodeError.OfBlock (checkFinalityVotes active seen votes) := by
    intro active votes
    induction votes with
    | nil => exact fun seen => .ok seen
    | cons id votes ih => exact fun seen => .ite (.error trivial) (.ite (.error trivial) (ih _))
  unfold verifyPhase1Block
  refine .ite (.error trivial) (.bind (.mapError _ fun _ => trivial) fun leader => ?_)
  refine .ite (.error trivial) (.ite (.error trivial) ?_)
  refine .bind (hvotes _ _ _) fun seen => .ite (.error trivial) (.ite (.error trivial) ?_)
  exact .ite (.error trivial) (.mapError _ fun _ => trivial)

theorem sealBlock_ofBlock (d : Draws) (ledger : InMemoryLedger) (txs : List Transaction)
    (validatorId : String) (height : Int) : FailsIn NodeError.OfBlock
      (sealBlock host consensus profile d ledger txs validatorId height) := by
  unfold sealBlock
  refine .bind (.mapError _ fun _ => trivial) fun votes => .ite (.error trivial) ?_
  exact .bind (verifyPhase1Block_ofBlock host consensus profile _ _ _) fun _ => .ok _

theorem buildBlock_ofBlock (d : Draws) (ledger : InMemoryLedger) (txs : List Transaction) :
    FailsIn NodeError.OfBlock (buildBlock host consensus profile d ledger txs) := by
  unfold buildBlock
  refine .bind (.mapError _ fun _ => trivial) fun leader => ?_
  exact sealBlock_ofBlock host consensus profile _ _ _ _ _

theorem buildBlockForValidator_ofBlock (d : Draws) (ledger : InMemoryLedger)
    (txs : List Transaction) (validatorId : String) : FailsIn NodeError.OfBlock
      (buildBlockForValidator host consensus profile d ledger txs validatorId) :=
  .ite (.error trivial) (sealBlock_ofBlock host consensus profile _ _ _ _ _)

end

end KaniNetwork
