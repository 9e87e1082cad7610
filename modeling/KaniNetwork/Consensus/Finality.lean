/-
KaniNetwork.Consensus.Finality — quorum certificates and finality proofs of
the BFT prototype (`kani-consensus`).

`verify_finality_proof` compares the validator set and the block hash of a
proof with its certificate and hands the certificate to
`verify_quorum_certificate`, which checks epoch, block hash, quorum and
voters. Neither compares the two heights, and neither reads the vote kind.
The proofs that `simulate_finality_proof` builds certify their own block;
of all proofs that pass this holds only where none passes at all, because
the active validators have too few ids between them for a quorum
(`finality_proof_bound`).
-/
import KaniNetwork.Consensus.Engine
import Mathlib.Data.List.Dedup
import Mathlib.Data.List.Perm.Subperm

namespace KaniNetwork

def voteKindLabel : ConsensusVoteKind → String
  | .prevote => "prevote"
  | .precommit => "precommit"
  | .finality => "finality"

def prototypeSignature (voter proposalId blockHash : String) : List UInt8 :=
  utf8Bytes ("sandbox-bft-signature:" ++ voter ++ ":" ++ proposalId ++ ":" ++ blockHash)

structure BftFinalityPrototype where
  validatorSet : ValidatorSet
  proposal : ConsensusProposal
  prevotes : List ConsensusVote
  precommits : List ConsensusVote
  precommitQc : QuorumCertificate
  finalityProof : FinalityProof
  deriving DecidableEq, Repr

namespace BftConsensus

/-! ## Verification -/

def verifyQuorumCertificate (c : BftConsensus) (certificate : QuorumCertificate) :
    Except ConsensusError Unit := do
  if certificate.epoch ≠ c.epoch then .error (.invalidEpoch c.epoch certificate.epoch)
  else if (trim certificate.blockHash).isEmpty then .error .emptyBlockHash
  else
    let required := c.finalityThreshold
    if certificate.voters.length < required then
      .error (.invalidQuorum certificate.voters.length required)
    else
      let active := c.activeValidators.map Validator.id
      let _seen ← checkVotes .inactiveValidator .duplicateVote active [] certificate.voters
      return ()

def verifyFinalityProof (c : BftConsensus) (proof : FinalityProof) : Except ConsensusError Unit :=
  if proof.validatorSetId ≠ c.validatorSet.id then
    .error (.invalidValidatorSet c.validatorSet.id proof.validatorSetId)
  else if proof.blockHash ≠ proof.quorumCertificate.blockHash then
    .error (.finalityProofBlockHashMismatch proof.blockHash proof.quorumCertificate.blockHash)
  else c.verifyQuorumCertificate proof.quorumCertificate

/-! ## Simulation -/

def buildVotes (now : DateTime) (proposal : ConsensusProposal) (voters : List String)
    (voteKind : ConsensusVoteKind) : List ConsensusVote :=
  voters.map fun voter => {
    id := proposal.id ++ ":" ++ voteKindLabel voteKind ++ ":" ++ toString proposal.round ++ ":"
      ++ voter
    proposalId := proposal.id
    height := proposal.height
    round := proposal.round
    epoch := proposal.epoch
    voter := voter
    voteKind := voteKind
    blockHash := proposal.blockHash
    signature := prototypeSignature voter proposal.id proposal.blockHash
    createdAt := now }

def buildCertificate (now : DateTime) (proposal : ConsensusProposal) (voters : List String)
    (voteKind : ConsensusVoteKind) : QuorumCertificate where
  id := proposal.id ++ ":" ++ voteKindLabel voteKind ++ ":" ++ "qc"
  height := proposal.height
  round := proposal.round
  epoch := proposal.epoch
  blockHash := proposal.blockHash
  voteKind := voteKind
  voters := voters
  signature := prototypeSignature "quorum" proposal.id proposal.blockHash
  createdAt := now

def simulateFinalityProof (d : Draws) (c : BftConsensus) (height : Int)
    (prevHash blockHash : String) : Except ConsensusError BftFinalityPrototype := do
  let round : Int := 0
  if (trim blockHash).isEmpty then .error .emptyBlockHash
  else
    let proposer ← c.leaderForHeight height
    let proposal : ConsensusProposal := {
      id := c.validatorSet.id ++ ":" ++ toString height ++ ":" ++ toString round ++ ":"
        ++ blockHash
      height := height
      round := round
      epoch := c.epoch
      proposer := proposer.id
      blockHash := blockHash
      prevHash := prevHash
      createdAt := (d.sub 0).stamp.now }
    let voters ← c.finalityVotesForBlock height
    let prevotes := buildVotes (d.sub 1).stamp.now proposal voters .prevote
    let precommits := buildVotes (d.sub 2).stamp.now proposal voters .precommit
    let precommitQc := buildCertificate (d.sub 3).stamp.now proposal voters .precommit
    c.verifyQuorumCertificate precommitQc
    let finalityProof : FinalityProof := {
      blockHeight := height
      blockHash := blockHash
      validatorSetId := c.validatorSet.id
      quorumCertificate := precommitQc
      finalizedAt := (d.sub 4).stamp.now }
    c.verifyFinalityProof finalityProof
    return ⟨c.validatorSet, proposal, prevotes, precommits, precommitQc, finalityProof⟩

/-! ## What verification establishes -/

/-- A certificate of the epoch with a block hash, a quorum and active,
distinct voters. -/
structure Quorate (c : BftConsensus) (certificate : QuorumCertificate) : Prop where
  epoch : certificate.epoch = c.epoch
  block_hash : (trim certificate.blockHash).isEmpty = false
  quorum : c.finalityThreshold ≤ certificate.voters.length
  voters_active : ∀ v ∈ certificate.voters, v ∈ c.activeValidators.map Validator.id
  voters_distinct : certificate.voters.Nodup

theorem verifyQuorumCertificate_eq_ok_iff {c : BftConsensus} {certificate : QuorumCertificate} :
    c.verifyQuorumCertificate certificate = .ok () ↔ c.Quorate certificate := by
  constructor
  · intro h
    unfold verifyQuorumCertificate at h
    split at h
    · cases h
    rename_i hepoch
    split at h
    · cases h
    rename_i hhash
    simp only [] at h
    split at h
    · cases h
    rename_i hquorum
    obtain ⟨_, hvotes, -⟩ := bind_eq_ok_iff.mp h
    obtain ⟨hactive, hnodup, -, -⟩ := checkVotes_eq_ok hvotes
    exact ⟨not_not.mp hepoch, Bool.eq_false_iff.mpr hhash, not_lt.mp hquorum, hactive, hnodup⟩
  · intro h
    have hvotes : ∃ seen, checkVotes ConsensusError.inactiveValidator .duplicateVote
        (c.activeValidators.map Validator.id) [] certificate.voters = .ok seen :=
      checkVotes_isOk h.voters_active h.voters_distinct (by simp)
    obtain ⟨seen, hseen⟩ := hvotes
    unfold verifyQuorumCertificate
    rw [if_neg (not_not.mpr h.epoch), if_neg (by simp [h.block_hash])]
    simp only [not_lt.mpr h.quorum, if_false, hseen, ok_bind, pure_eq_ok]

/-- A proof passes when it names the validator set, its block hash is the
certificate's and the certificate passes. Heights and vote kind are free. -/
theorem verifyFinalityProof_eq_ok_iff {c : BftConsensus} {proof : FinalityProof} :
    c.verifyFinalityProof proof = .ok () ↔ proof.validatorSetId = c.validatorSet.id ∧
      proof.blockHash = proof.quorumCertificate.blockHash ∧ c.Quorate proof.quorumCertificate := by
  rw [← verifyQuorumCertificate_eq_ok_iff]
  unfold verifyFinalityProof
  split
  · rename_i hset
    simp [hset]
  rename_i hset
  split
  · rename_i hhash
    simp [hhash]
  rename_i hhash
  simp only [not_not] at hset hhash
  simp [hset, hhash]

end BftConsensus

/-! ## What a finality proof certifies -/

namespace FinalityProof

/-- The certificate of a proof is for the proof's own block, and it is not a
prevote certificate. -/
structure CertifiesItsBlock (proof : FinalityProof) : Prop where
  height : proof.quorumCertificate.height = proof.blockHeight
  block_hash : proof.quorumCertificate.blockHash = proof.blockHash
  not_prevote : proof.quorumCertificate.voteKind ≠ .prevote

end FinalityProof

open BftConsensus FinalityProof

/-- Every simulated proof passes and certifies its own block. -/
theorem simulateFinalityProof_certifies {d : Draws} {c : BftConsensus} {height : Int}
    {prevHash blockHash : String} {prototype : BftFinalityPrototype}
    (h : c.simulateFinalityProof d height prevHash blockHash = .ok prototype) :
    c.verifyFinalityProof prototype.finalityProof = .ok () ∧
      CertifiesItsBlock prototype.finalityProof ∧
      prototype.finalityProof.blockHeight = height ∧
      prototype.finalityProof.blockHash = blockHash := by
  unfold simulateFinalityProof at h
  simp only [] at h
  split at h
  · cases h
  simp only [bind_eq_ok_iff, pure_eq_ok, Except.ok.injEq] at h
  obtain ⟨proposer, _, voters, _, _, _, _, hverify, rfl⟩ := h
  refine ⟨hverify, ?_, rfl, rfl⟩
  exact {
    height := rfl
    block_hash := rfl
    not_prevote := by simp [buildCertificate] }

/-! ## The proofs that pass -/

/-- A proof for `blockHeight` with a certificate of these voters for
`certified`. -/
def sampleProof (blockHeight certified : Int) (voteKind : ConsensusVoteKind)
    (voters : List String) : FinalityProof where
  blockHeight := blockHeight
  blockHash := "block-hash-1"
  validatorSetId := "sandbox-bft-v1"
  quorumCertificate := {
    id := "qc"
    height := certified
    round := 0
    epoch := 1
    blockHash := "block-hash-1"
    voteKind := voteKind
    voters := voters
    signature := []
    createdAt := 0 }
  finalizedAt := 0

/-- The ids there are to vote with; a list of validators may repeat one. -/
def votingIds (validators : List Validator) : List String :=
  ((activeOf validators).map Validator.id).dedup

section

variable {now : DateTime} {validators : List Validator} {c : BftConsensus}

/-- A quorate certificate takes as many ids as the threshold. -/
theorem threshold_le_of_quorate (hc : newSandboxPrototype now validators = .ok c)
    {certificate : QuorumCertificate} (h : c.Quorate certificate) :
    c.finalityThreshold ≤ (votingIds validators).length := by
  obtain ⟨hvalidators, -, -⟩ := newSandboxPrototype_eq_ok hc
  have hsub : certificate.voters ⊆ votingIds validators := by
    intro v hv
    have hactive := h.voters_active v hv
    rw [activeValidators, hvalidators] at hactive
    exact List.mem_dedup.mpr hactive
  exact h.quorum.trans (h.voters_distinct.subperm hsub).length_le

/-- Where there are ids enough, all of them together pass for any height and
any vote kind. -/
theorem verifyFinalityProof_sampleProof (hc : newSandboxPrototype now validators = .ok c)
    (h : c.finalityThreshold ≤ (votingIds validators).length) (blockHeight certified : Int)
    (voteKind : ConsensusVoteKind) :
    c.verifyFinalityProof (sampleProof blockHeight certified voteKind (votingIds validators)) =
      .ok () := by
  obtain ⟨hvalidators, hset, hepoch⟩ := newSandboxPrototype_eq_ok hc
  refine verifyFinalityProof_eq_ok_iff.mpr ⟨?_, rfl, ?_⟩
  · rw [hset]
    rfl
  · exact {
      epoch := hepoch.symm
      block_hash := (by decide : (trim "block-hash-1").isEmpty = false)
      quorum := h
      voters_active := by
        intro v hv
        rw [activeValidators, hvalidators]
        exact List.mem_dedup.mp hv
      voters_distinct := List.nodup_dedup _ }

/-- **Finality proofs and what they certify.** Whatever passes certifies its
own block only where nothing can pass: where the active validators have fewer
ids between them than the threshold asks for. -/
theorem finality_proof_bound (hc : newSandboxPrototype now validators = .ok c) :
    (∀ proof, c.verifyFinalityProof proof = .ok () → CertifiesItsBlock proof) ↔
      (votingIds validators).length < c.finalityThreshold := by
  constructor
  · intro h
    by_contra hids
    -- a certificate of height 1 presented for height 2
    have hcert := h _ (verifyFinalityProof_sampleProof hc (not_lt.mp hids) 2 1 .precommit)
    exact absurd hcert.height (by simp [sampleProof])
  · intro h proof hproof
    obtain ⟨-, -, hquorate⟩ := verifyFinalityProof_eq_ok_iff.mp hproof
    exact absurd (threshold_le_of_quorate hc hquorate) (not_le.mpr h)

/-- Validators with ids of their own have ids enough. -/
theorem threshold_le_of_nodup (hc : newSandboxPrototype now validators = .ok c)
    (hids : ((activeOf validators).map Validator.id).Nodup) :
    c.finalityThreshold ≤ (votingIds validators).length := by
  obtain ⟨hvalidators, -, -⟩ := newSandboxPrototype_eq_ok hc
  have henough := c.enough
  rw [finalityThreshold, activeValidators, votingIds, hids.dedup, List.length_map, hvalidators]
  rw [hvalidators] at henough
  omega

/-- With such validators a prevote certificate passes as finality. -/
theorem prevotes_pass (hc : newSandboxPrototype now validators = .ok c)
    (hids : ((activeOf validators).map Validator.id).Nodup) (height : Int) :
    ∃ proof, c.verifyFinalityProof proof = .ok () ∧ proof.blockHeight = height ∧
      proof.quorumCertificate.height = height ∧ proof.quorumCertificate.voteKind = .prevote :=
  ⟨_, verifyFinalityProof_sampleProof hc (threshold_le_of_nodup hc hids) height height .prevote,
    rfl, rfl, rfl⟩

end

/-- A proof for `blockHeight` with a certificate of all three default
validators for `certified`. -/
def exampleProof (blockHeight certified : Int) (voteKind : ConsensusVoteKind) : FinalityProof :=
  sampleProof blockHeight certified voteKind ["validator-a", "validator-b", "validator-c"]

/-- A certificate of height 1 passes as finality of height 2, and a prevote
certificate passes as finality. -/
theorem replayed_and_prevote_certificates :
    newSandboxPrototype 0 phase1DefaultValidators = .ok (sandboxDefault 0) ∧
      (sandboxDefault 0).verifyFinalityProof (exampleProof 2 1 .precommit) = .ok () ∧
      ¬ CertifiesItsBlock (exampleProof 2 1 .precommit) ∧
      (sandboxDefault 0).verifyFinalityProof (exampleProof 1 1 .prevote) = .ok () ∧
      ¬ CertifiesItsBlock (exampleProof 1 1 .prevote) := by
  refine ⟨rfl, by decide +kernel, ?_, by decide +kernel, ?_⟩
  · intro h
    exact absurd h.height (by decide)
  · intro h
    exact absurd rfl h.not_prevote

/-- Three active validators with one id between them: a quorum takes three,
so no proof passes. -/
theorem finality_proof_bound_example :
    let validators := List.replicate 3 (Validator.newActive "validator-a" "sandbox-pubkey-a")
    ∃ c, newSandboxPrototype 0 validators = .ok c ∧
      ∀ proof, c.verifyFinalityProof proof = .ok () → CertifiesItsBlock proof := by
  intro validators
  obtain ⟨c, hc⟩ : ∃ c, newSandboxPrototype 0 validators = .ok c := ⟨_, rfl⟩
  have hfew : (votingIds validators).length < c.finalityThreshold := by
    cases hc
    decide
  exact ⟨c, hc, (finality_proof_bound hc).mpr hfew⟩

end KaniNetwork
