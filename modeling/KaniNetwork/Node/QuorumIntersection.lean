/-
KaniNetwork.Node.QuorumIntersection — two quorums of one engine overlap.

Certificates of the BFT prototype and blocks of the PoA engine carry active
voters, no two the same, at least as many as the threshold. The thresholds
round differently, `2n/3 + 1` downwards and `2n/3` upwards; the counting is
the same.
-/
import KaniNetwork.Base.Quorum
import KaniNetwork.Consensus.Finality
import KaniNetwork.Node.Block

namespace KaniNetwork

/-- The ids of the active entries of an engine, in order. -/
def activeIds (active : List Validator) : List String := active.map Validator.id

@[simp] theorem length_activeIds (active : List Validator) :
    (activeIds active).length = active.length := by
  simp [activeIds]

/-- Two quorate certificates share more than a third of the active voters. -/
theorem quorate_overlap {c : BftConsensus} {q₁ q₂ : QuorumCertificate} (h₁ : c.Quorate q₁)
    (h₂ : c.Quorate q₂) :
    c.activeValidators.length
      < 3 * (commonVoters (activeIds c.activeValidators) q₁.voters q₂.voters).card := by
  have hcount := two_mul_quorum_le h₁.voters_active h₂.voters_active h₁.voters_distinct
    h₂.voters_distinct h₁.quorum h₂.quorum
  have hlen := length_activeIds c.activeValidators
  simp only [BftConsensus.finalityThreshold] at hcount
  unfold activeIds at hlen ⊢
  omega

theorem Verified.finalizedBy_active {host : Host} {consensus : ConfiguredConsensusEngine}
    {profile : CryptoProfile} {block : Block} (h : Verified host consensus profile block) :
    ∀ v ∈ block.finalizedBy, v ∈ activeIds consensus.activeValidators := by
  intro v hv
  obtain ⟨w, hw, rfl⟩ := h.votes_active v hv
  exact List.mem_map_of_mem hw

/-- Two blocks verified under one PoA engine share at least a third of the
active validators among their votes. -/
theorem verified_overlap {c : PoAConsensus} {host₁ host₂ : Host} {profile₁ profile₂ : CryptoProfile}
    {b₁ b₂ : Block} (h₁ : Verified host₁ (.poa c) profile₁ b₁)
    (h₂ : Verified host₂ (.poa c) profile₂ b₂) :
    c.activeValidators.length
      ≤ 3 * (commonVoters (activeIds c.activeValidators) b₁.finalizedBy b₂.finalizedBy).card := by
  have hcount := two_mul_quorum_le h₁.finalizedBy_active h₂.finalizedBy_active h₁.votes_distinct
    h₂.votes_distinct h₁.quorum h₂.quorum
  simp only [ConfiguredConsensusEngine.activeValidators,
    ConfiguredConsensusEngine.finalityThreshold, PoAConsensus.finalityThreshold,
    length_activeIds] at hcount
  omega

/-- **Quorum intersection.** Any two certificates a BFT prototype accepts
have more than a third of its active validators voting in both; any two
blocks a PoA engine accepts, against any ledgers, have at least a third of
them, and at least one, voting in both. -/
theorem quorum_intersection :
    (∀ (now : DateTime) (validators : List Validator) (c : BftConsensus)
        (q₁ q₂ : QuorumCertificate),
      BftConsensus.newSandboxPrototype now validators = .ok c →
      c.verifyQuorumCertificate q₁ = .ok () → c.verifyQuorumCertificate q₂ = .ok () →
      (activeOf validators).length
        < 3 * (commonVoters (activeIds (activeOf validators)) q₁.voters q₂.voters).card) ∧
    (∀ (validators : List Validator) (c : PoAConsensus) (host₁ host₂ : Host)
        (profile₁ profile₂ : CryptoProfile) (d₁ d₂ : Draws) (ledger₁ ledger₂ : InMemoryLedger)
        (b₁ b₂ : Block),
      PoAConsensus.newPhase1 validators = .ok c →
      verifyPhase1Block host₁ (.poa c) profile₁ d₁ ledger₁ b₁ = .ok () →
      verifyPhase1Block host₂ (.poa c) profile₂ d₂ ledger₂ b₂ = .ok () →
      (activeOf validators).length
          ≤ 3 * (commonVoters (activeIds (activeOf validators)) b₁.finalizedBy b₂.finalizedBy).card ∧
        0 < (commonVoters (activeIds (activeOf validators)) b₁.finalizedBy b₂.finalizedBy).card) := by
  refine ⟨?_, ?_⟩
  · intro now validators c q₁ q₂ hc h₁ h₂
    obtain ⟨rfl, -, -⟩ := BftConsensus.newSandboxPrototype_eq_ok hc
    rw [BftConsensus.verifyQuorumCertificate_eq_ok_iff] at h₁ h₂
    exact quorate_overlap h₁ h₂
  · intro validators c host₁ host₂ profile₁ profile₂ d₁ d₂ ledger₁ ledger₂ b₁ b₂ hc h₁ h₂
    obtain rfl := PoAConsensus.newPhase1_eq_ok hc
    have hoverlap := verified_overlap (verifyPhase1Block_eq_ok h₁).1 (verifyPhase1Block_eq_ok h₂).1
    have henough := c.enough
    unfold PoAConsensus.activeValidators at hoverlap
    exact ⟨hoverlap, by omega⟩

/-- A block of height 1 of the sample host with the given votes: a mint into
an account of the sandbox. -/
def exampleBlock (finalizedBy : List String) : Block :=
  let mint := Transaction.newMint ⟨"mint", 0⟩ SANDBOX_TREASURY_ACCOUNT SANDBOX_CORP_A_ACCOUNT
    KCAD_TEST 5 1
  let block := Block.newUnsealed 0 1 GENESIS_HASH [mint] "validator-a"
  let hash := Host.sample.hashJson .sha3_256 block
  block.sealed hash
    (Host.sample.sandboxValidatorSignature .hybridPqcV1 "validator-a" hash) finalizedBy

/-- Two blocks of height 1, one voted by `a` and `b` and the other by `a` and
`c`, share the vote of `a`; any certificate of the default validators shares
all three voters with itself. -/
theorem quorum_intersection_example :
    3 < 3 * (commonVoters ["validator-a", "validator-b", "validator-c"]
        (exampleProof 1 1 .precommit).quorumCertificate.voters
        (exampleProof 2 2 .precommit).quorumCertificate.voters).card ∧
      0 < (commonVoters ["validator-a", "validator-b", "validator-c"]
        (exampleBlock ["validator-a", "validator-b"]).finalizedBy
        (exampleBlock ["validator-a", "validator-c"]).finalizedBy).card := by
  have hbft := quorum_intersection.1 0 phase1DefaultValidators (.sandboxDefault 0)
    (exampleProof 1 1 .precommit).quorumCertificate
    (exampleProof 2 2 .precommit).quorumCertificate rfl (by decide +kernel) (by decide +kernel)
  have hpoa := quorum_intersection.2 phase1DefaultValidators
    ⟨PHASE1_POA_ENGINE_ID, phase1DefaultValidators, by decide⟩ .sample .sample .hybridPqcV1
    .hybridPqcV1 (.numbered "d" 0) (.numbered "d" 1) (.sandbox (.numbered "s" 0))
    (.sandbox (.numbered "s" 1)) (exampleBlock ["validator-a", "validator-b"])
    (exampleBlock ["validator-a", "validator-c"]) rfl (by decide +kernel) (by decide +kernel)
  exact ⟨hbft, hpoa.2⟩

end KaniNetwork
