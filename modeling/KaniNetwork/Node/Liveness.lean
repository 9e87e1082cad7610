/-
KaniNetwork.Node.Liveness — when an engine can finalize.

The constructors count active entries and never look at their ids, while
votes are ids and every check of votes refuses an id that votes twice. An
engine with a repeated id can therefore be built and then propose votes that
its own checks refuse.

`ReachesFinality` says that a height has no such trouble. At one height it
asks that the window of the votes repeats no id (`reachesFinality_iff`). Over
all heights it asks for distinct ids, with one exception: three active
entries of a PoA engine, the first and the last with one id, have windows of
two positions that never hold both ends, because the last entry leads under
the id of the first (`finality_reached_iff`).
-/
import KaniNetwork.Consensus.Finality
import KaniNetwork.Consensus.Rotation
import KaniNetwork.Node.Block

namespace KaniNetwork

open BftConsensus

/-! ## Checks of a vote list -/

/-- Enough active and distinct votes, the leader's among them. -/
structure Quorum (engine : ConfiguredConsensusEngine) (leader : Validator) (votes : List String) :
    Prop where
  enough : engine.finalityThreshold ≤ votes.length
  distinct : votes.Nodup
  active : ∀ v ∈ votes, v ∈ engine.activeValidators.map Validator.id
  leader_voted : leader.id ∈ votes

/-- What the votes of a height are for: the checks of `verify_phase1_block`
under PoA, a finality proof for any block hash under BFT. -/
def PassesChecks (engine : ConfiguredConsensusEngine) (height : Int) (leader : Validator)
    (votes : List String) : Prop :=
  match engine with
  | .poa c => ∃ seen,
      checkFinalityVotes (c.activeValidators.map Validator.id) [] votes = .ok seen ∧
        leader.id ∈ seen
  | .bft c => ∀ d prevHash blockHash, (trim blockHash).isEmpty = false →
      ∃ prototype, c.simulateFinalityProof d height prevHash blockHash = .ok prototype

/-- At this height the engine has a leader and votes that finalize. -/
def ReachesFinality (engine : ConfiguredConsensusEngine) (height : Int) : Prop :=
  ∃ leader votes, engine.leaderForHeight height = .ok leader ∧
    engine.finalityVotesForBlock height = .ok votes ∧ Quorum engine leader votes ∧
    PassesChecks engine height leader votes

/-- A quorum of votes makes a finality proof. -/
theorem simulateFinalityProof_isOk {c : BftConsensus} {height : Int} {leader : Validator}
    {votes : List String} (hleader : c.leaderForHeight height = .ok leader)
    (hvotes : c.finalityVotesForBlock height = .ok votes) (h : Quorum (.bft c) leader votes)
    (d : Draws) (prevHash : String) {blockHash : String} (hhash : (trim blockHash).isEmpty = false) :
    ∃ prototype, c.simulateFinalityProof d height prevHash blockHash = .ok prototype := by
  have hquorate : ∀ certificate : QuorumCertificate, certificate.epoch = c.epoch →
      certificate.blockHash = blockHash → certificate.voters = votes → c.Quorate certificate := by
    intro certificate hepoch hblock hvoters
    exact ⟨hepoch, hblock ▸ hhash, hvoters ▸ h.enough, hvoters ▸ h.active, hvoters ▸ h.distinct⟩
  unfold simulateFinalityProof
  simp only [hhash, Bool.false_eq_true, if_false, hleader, hvotes, ok_bind]
  rw [verifyQuorumCertificate_eq_ok_iff.mpr (hquorate _ rfl rfl rfl), ok_bind,
    verifyFinalityProof_eq_ok_iff.mpr ⟨rfl, rfl, hquorate _ rfl rfl rfl⟩, ok_bind]
  exact ⟨_, rfl⟩

/-- A quorum passes the checks. -/
theorem Quorum.passesChecks {engine : ConfiguredConsensusEngine} {height : Int}
    {leader : Validator} {votes : List String} (h : Quorum engine leader votes)
    (hleader : engine.leaderForHeight height = .ok leader)
    (hvotes : engine.finalityVotesForBlock height = .ok votes) :
    PassesChecks engine height leader votes := by
  cases engine with
  | poa c =>
    have hseen : ∃ seen, checkVotes NodeError.unknownFinalityValidator .duplicateFinalityVote
        (c.activeValidators.map Validator.id) [] votes = .ok seen :=
      checkVotes_isOk h.active h.distinct (by simp)
    obtain ⟨seen, hseen⟩ := hseen
    obtain ⟨-, -, -, hmem⟩ := checkVotes_eq_ok hseen
    refine ⟨seen, ?_, (hmem _).mpr (.inl h.leader_voted)⟩
    rw [checkFinalityVotes_eq_checkVotes, hseen]
  | bft c =>
    intro d prevHash blockHash hhash
    exact simulateFinalityProof_isOk hleader hvotes h d prevHash hhash

/-- Votes on a window fall short of a quorum only by a repeated id. -/
theorem VotesFrom.quorum {engine : ConfiguredConsensusEngine} {first : Nat} {leader : Validator}
    {votes : List String}
    (h : VotesFrom engine.activeValidators engine.finalityThreshold first leader votes)
    (hnodup : votes.Nodup) : Quorum engine leader votes where
  enough := h.length_eq.ge
  distinct := hnodup
  active := fun _ hv => h.active_of_mem hv
  leader_voted := h.leader_mem engine.finalityThreshold_pos

/-! ## One height -/

/-- Counted round from the first entry with the id of the leader of the
height, the first `threshold` active entries have distinct ids. -/
def NoIdTwice (active : List Validator) (threshold : Nat) (height : Int) : Prop :=
  ∃ first, IsFirst (idAt active) first ∧
    idAt active first = idAt active (turnOf height % active.length) ∧
    ((ring active.length first threshold).map (idAt active)).Nodup

/-- A label has one first position. -/
theorem IsFirst.unique {α : Type} {f : Nat → α} {p q : Nat} (hp : IsFirst f p) (hq : IsFirst f q)
    (heq : f p = f q) : p = q := by
  by_contra hne
  rcases Nat.lt_or_gt_of_ne hne with hlt | hgt
  · exact hq p hlt heq
  · exact hp q hgt heq.symm

theorem reachesFinality_iff (engine : ConfiguredConsensusEngine) {height : Int} (hh : 1 ≤ height) :
    ReachesFinality engine height ↔
      NoIdTwice engine.activeValidators engine.finalityThreshold height := by
  obtain ⟨leader, first, votes, hleader, hpos, hvotes, hfrom⟩ := engine.votes_of_height hh
  have hlabel : idAt engine.activeValidators first =
      idAt engine.activeValidators (turnOf height % engine.activeValidators.length) := by
    rw [hfrom.leader_id, idAt, hpos, Option.map_some]
  constructor
  · rintro ⟨leader', votes', -, hvotes', hquorum, -⟩
    rw [hvotes] at hvotes'
    cases hvotes'
    exact ⟨first, hfrom.is_first, hlabel, hfrom.nodup_iff.mp hquorum.distinct⟩
  · rintro ⟨first', hfirst', hlabel', hnodup⟩
    have hsame : first' = first := hfirst'.unique hfrom.is_first (hlabel'.trans hlabel.symm)
    rw [hsame] at hnodup
    have hquorum := hfrom.quorum (hfrom.nodup_iff.mpr hnodup)
    exact ⟨leader, votes, hleader, hvotes, hquorum, hquorum.passesChecks hleader hvotes⟩

/-! ## All heights -/

/-- Every first position is where the votes of some height begin. -/
theorem forall_height_iff (engine : ConfiguredConsensusEngine) :
    (∀ height, 1 ≤ height → ReachesFinality engine height) ↔
      ∀ p < engine.activeValidators.length, IsFirst (idAt engine.activeValidators) p →
        ((ring engine.activeValidators.length p engine.finalityThreshold).map
          (idAt engine.activeValidators)).Nodup := by
  have hn := engine.enough
  constructor
  · intro h p hp hfirst
    obtain ⟨first, hfirst', hlabel, hnodup⟩ :=
      (reachesFinality_iff engine (by omega)).mp (h (p + 1) (by omega))
    have hturn : turnOf ((p : Int) + 1) = p := by
      unfold turnOf
      omega
    rw [hturn, Nat.mod_eq_of_lt hp] at hlabel
    rwa [← hfirst'.unique hfirst hlabel]
  · intro h height hh
    rw [reachesFinality_iff engine hh]
    obtain ⟨leader, first, votes, -, hpos, -, hfrom⟩ := engine.votes_of_height hh
    refine ⟨first, hfrom.is_first, ?_, h first hfrom.lt_length hfrom.is_first⟩
    rw [hfrom.leader_id, idAt, hpos, Option.map_some]

/-- Three positions with one id at both ends. -/
theorem ends_iff (active : List Validator) :
    (active.length = 3 ∧ idAt active 0 = idAt active 2 ∧ idAt active 0 ≠ idAt active 1) ↔
      ∃ x y, x ≠ y ∧ active.map Validator.id = [x, y, x] := by
  constructor
  · rintro ⟨hlen, hends, hne⟩
    obtain ⟨a, b, c, rfl⟩ := List.length_eq_three.mp hlen
    simp only [idAt, List.getElem?_cons_zero, List.getElem?_cons_succ, Option.map_some,
      Option.some.injEq] at hends
    have hne' : a.id ≠ b.id := by simpa [idAt] using hne
    exact ⟨a.id, b.id, hne', by simp [hends]⟩
  · rintro ⟨x, y, hxy, hids⟩
    have hlabel : ∀ i, idAt active i = ([x, y, x] : List String)[i]? := by
      intro i
      rw [idAt, ← List.getElem?_map, hids]
    refine ⟨by simpa using congrArg List.length hids, ?_, ?_⟩
    · rw [hlabel, hlabel]
      rfl
    · rw [hlabel, hlabel]
      simpa using hxy

theorem forall_height_iff_ids (engine : ConfiguredConsensusEngine) :
    (∀ height, 1 ≤ height → ReachesFinality engine height) ↔
      (engine.activeValidators.map Validator.id).Nodup ∨ (engine.finalityThreshold = 2 ∧
        ∃ x y, x ≠ y ∧ engine.activeValidators.map Validator.id = [x, y, x]) := by
  obtain ⟨hlow, hhigh⟩ := engine.finalityThreshold_bounds
  rw [forall_height_iff, distinct_windows_iff engine.enough hlow hhigh, distinct_idAt_iff,
    ← ends_iff]
  tauto

/-- Two votes of three reach the threshold, so PoA survives one repetition. -/
theorem PoAConsensus.always_finalizes_iff (c : PoAConsensus) :
    (∀ height, 1 ≤ height → ReachesFinality (.poa c) height) ↔
      (c.activeValidators.map Validator.id).Nodup ∨
        ∃ x y, x ≠ y ∧ c.activeValidators.map Validator.id = [x, y, x] := by
  have hthree : ∀ x y, c.activeValidators.map Validator.id = [x, y, x] →
      c.finalityThreshold = 2 := by
    intro x y hids
    have hlen : c.activeValidators.length = 3 := by simpa using congrArg List.length hids
    rw [PoAConsensus.finalityThreshold, hlen]
  rw [forall_height_iff_ids]
  show (c.activeValidators.map Validator.id).Nodup ∨ (c.finalityThreshold = 2 ∧
    ∃ x y, x ≠ y ∧ c.activeValidators.map Validator.id = [x, y, x]) ↔ _
  constructor
  · exact fun h => h.imp_right And.right
  · intro h
    refine h.imp_right ?_
    rintro ⟨x, y, hxy, hids⟩
    exact ⟨hthree x y hids, x, y, hxy, hids⟩

/-- The threshold of the prototype is above two. -/
theorem BftConsensus.always_finalizes_iff (c : BftConsensus) :
    (∀ height, 1 ≤ height → ReachesFinality (.bft c) height) ↔
      (c.activeValidators.map Validator.id).Nodup := by
  have hne : c.finalityThreshold ≠ 2 := by
    have hn : 3 ≤ c.activeValidators.length := c.enough
    rw [BftConsensus.finalityThreshold]
    omega
  rw [forall_height_iff_ids]
  constructor
  · intro h
    rcases h with hnodup | ⟨htwo, -⟩
    · exact hnodup
    · exact absurd htwo hne
  · exact .inl

/-- **Which configurations finalize.** A PoA engine reaches finality at
every height exactly when its active ids are distinct or there are three of
them, the first and the last the same and the second another; a BFT
prototype exactly when they are distinct. At a single height an engine of
either kind reaches finality exactly when the threshold many active entries
from the first with the leader's id on have distinct ids. -/
theorem finality_reached_iff (now : DateTime) (validators : List Validator) :
    (∀ c, PoAConsensus.newPhase1 validators = .ok c →
      ((∀ height, 1 ≤ height → ReachesFinality (.poa c) height) ↔
        ((activeOf validators).map Validator.id).Nodup ∨
          ∃ x y, x ≠ y ∧ (activeOf validators).map Validator.id = [x, y, x])) ∧
    (∀ c, newSandboxPrototype now validators = .ok c →
      ((∀ height, 1 ≤ height → ReachesFinality (.bft c) height) ↔
        ((activeOf validators).map Validator.id).Nodup)) ∧
    ∀ engine height, engine.activeValidators = activeOf validators → 1 ≤ height →
      (ReachesFinality engine height ↔
        NoIdTwice (activeOf validators) engine.finalityThreshold height) := by
  refine ⟨?_, ?_, ?_⟩
  · intro c hc
    obtain rfl := PoAConsensus.newPhase1_eq_ok hc
    exact c.always_finalizes_iff
  · intro c hc
    obtain ⟨rfl, -, -⟩ := newSandboxPrototype_eq_ok hc
    exact c.always_finalizes_iff
  · intro engine height hactive hh
    rw [← hactive]
    exact reachesFinality_iff engine hh

/-- Two entries of one id, then another: both constructors accept them. -/
def exampleRepeated : List Validator :=
  [.newActive "validator-a" "key-1", .newActive "validator-a" "key-2",
    .newActive "validator-b" "key-3"]

/-- The votes of height 1 repeat the first id, under either engine. -/
theorem repeated_id_accepted :
    (∃ c, PoAConsensus.newPhase1 exampleRepeated = .ok c ∧ ¬ ReachesFinality (.poa c) 1) ∧
      ∃ c, newSandboxPrototype 0 exampleRepeated = .ok c ∧ ¬ ReachesFinality (.bft c) 1 := by
  constructor
  · refine ⟨⟨PHASE1_POA_ENGINE_ID, exampleRepeated, by decide⟩, rfl, ?_⟩
    intro ⟨leader, votes, hleader, hvotes, hquorum, _⟩
    cases hvotes
    exact absurd hquorum.distinct (by decide)
  · refine ⟨⟨SANDBOX_BFT_ENGINE_ID, exampleRepeated, sandboxValidatorSet 0 exampleRepeated,
      SANDBOX_BFT_EPOCH, by decide⟩, rfl, ?_⟩
    intro ⟨leader, votes, hleader, hvotes, hquorum, _⟩
    cases hvotes
    exact absurd hquorum.distinct (by decide)

/-- The default validators finalize at every height under both engines. -/
theorem finality_reached_default :
    (∀ height, 1 ≤ height → ReachesFinality phase1Engine height) ∧
      ∀ height, 1 ≤ height → ReachesFinality (.bft (.sandboxDefault 0)) height := by
  constructor
  · exact ((finality_reached_iff 0 phase1DefaultValidators).1 _ rfl).mpr (.inl (by decide))
  · exact ((finality_reached_iff 0 phase1DefaultValidators).2.1 _
      (newSandboxPrototype_phase1 0)).mpr (by decide)

end KaniNetwork
