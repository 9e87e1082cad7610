/-
KaniNetwork.Consensus.Engine — the PoA engine, the BFT prototype and the
configuration that builds one of them (`kani-consensus`).

Both constructors refuse a validator list with fewer than three active
entries, and the fields of an engine are private, so the bound is a field
of the engine types. The two engines pick leaders and votes alike and
differ in their threshold: `leaderAt` and `votesAt` are the shared bodies.
The certificates of the BFT prototype are in `Consensus/Finality.lean`.
-/
import KaniNetwork.Base.Result
import KaniNetwork.Types.Consensus

namespace KaniNetwork

def PHASE1_POA_ENGINE_ID : String := "phase1-poa"
def SANDBOX_BFT_ENGINE_ID : String := "sandbox-bft-prototype"
def SANDBOX_BFT_VALIDATOR_SET_ID : String := "sandbox-bft-v1"
def SANDBOX_BFT_EPOCH : Int := 1

inductive ConsensusError where
  | notEnoughValidators
  | invalidHeight (height : Int)
  | inactiveValidator (id : String)
  | bftPrototypeNotEnabled (expected actual : String)
  | invalidEpoch (expected actual : Int)
  | invalidValidatorSet (expected actual : String)
  | emptyBlockHash
  | invalidQuorum (got required : Nat)
  | duplicateVote (id : String)
  | finalityProofBlockHashMismatch (expected actual : String)
  deriving DecidableEq, Repr

/-- The `Display` text of an error. -/
def ConsensusError.message : ConsensusError → String
  | .notEnoughValidators => "phase 1 PoA requires at least 3 active validators"
  | .invalidHeight height => "invalid block height " ++ toString height
  | .inactiveValidator id => "validator " ++ id ++ " is not active"
  | .bftPrototypeNotEnabled expected actual =>
    "BFT prototype requires sandbox engine id " ++ expected ++ ", got " ++ actual
  | .invalidEpoch expected actual =>
    "quorum certificate epoch mismatch: expected " ++ toString expected ++ ", got "
      ++ toString actual
  | .invalidValidatorSet expected actual =>
    "finality proof validator set mismatch: expected " ++ expected ++ ", got " ++ actual
  | .emptyBlockHash => "quorum certificate block hash is empty"
  | .invalidQuorum got required =>
    "quorum certificate threshold not met: got " ++ toString got ++ ", required "
      ++ toString required
  | .duplicateVote id => "duplicate consensus vote from validator " ++ id
  | .finalityProofBlockHashMismatch expected actual =>
    "finality proof block hash mismatch: expected " ++ expected ++ ", got " ++ actual

structure Validator where
  id : String
  publicKey : String
  active : Bool
  deriving DecidableEq, Repr

def Validator.newActive (id publicKey : String) : Validator := ⟨id, publicKey, true⟩

def phase1DefaultValidators : List Validator :=
  [.newActive "validator-a" "sandbox-pubkey-a", .newActive "validator-b" "sandbox-pubkey-b",
    .newActive "validator-c" "sandbox-pubkey-c"]

/-- The active entries of a validator list, in order. -/
def activeOf (validators : List Validator) : List Validator :=
  validators.filter Validator.active

/-- Round robin over the active validators. -/
def leaderAt (active : List Validator) (height : Int) : Except ConsensusError Validator :=
  if height < 1 then .error (.invalidHeight height)
  else if h : active.length < 3 then .error .notEnoughValidators
  else .ok (active.get ⟨(height - 1).toNat % active.length, Nat.mod_lt _ (by omega)⟩)

/-- The ids of `threshold` active validators from the leader on. -/
def votesAt (active : List Validator) (threshold : Nat) (height : Int) :
    Except ConsensusError (List String) :=
  if h : active.length < 3 then .error .notEnoughValidators
  else do
    let leader ← leaderAt active height
    match active.findIdx? (fun v => v.id = leader.id) with
    | none => .error (.inactiveValidator leader.id)
    | some leaderIndex =>
      .ok ((List.range threshold).map fun offset =>
        (active.get ⟨(leaderIndex + offset) % active.length, Nat.mod_lt _ (by omega)⟩).id)

/-- The loop over a list of votes: refuses a voter that is not active or has
voted before, returns the set of votes seen. -/
def checkVotes {ε : Type} (unknown duplicate : String → ε) (active : List String) :
    List String → List String → Except ε (List String)
  | seen, [] => .ok seen
  | seen, voter :: votes =>
    if voter ∉ active then .error (unknown voter)
    else if voter ∈ seen then .error (duplicate voter)
    else checkVotes unknown duplicate active (voter :: seen) votes

/-! ## Proof of authority -/

/-- A PoA engine with at least three active validators. -/
structure PoAConsensus where
  engineId : String
  validators : List Validator
  enough : 3 ≤ (activeOf validators).length

namespace PoAConsensus

def newPhase1 (validators : List Validator) : Except ConsensusError PoAConsensus :=
  if h : (activeOf validators).length < 3 then .error .notEnoughValidators
  else .ok ⟨PHASE1_POA_ENGINE_ID, validators, by omega⟩

theorem newPhase1_eq_ok {validators : List Validator} {c : PoAConsensus}
    (h : newPhase1 validators = .ok c) : c.validators = validators := by
  unfold newPhase1 at h
  split at h
  · cases h
  cases h
  rfl

def activeValidators (c : PoAConsensus) : List Validator := activeOf c.validators

/-- Two thirds of the active validators, rounded up. -/
def finalityThreshold (c : PoAConsensus) : Nat := (c.activeValidators.length * 2 + 2) / 3

def leaderForHeight (c : PoAConsensus) (height : Int) : Except ConsensusError Validator :=
  leaderAt c.activeValidators height

def finalityVotesForBlock (c : PoAConsensus) (height : Int) :
    Except ConsensusError (List String) :=
  votesAt c.activeValidators c.finalityThreshold height

end PoAConsensus

/-! ## BFT prototype -/

/-- A BFT prototype with at least three active validators. -/
structure BftConsensus where
  engineId : String
  validators : List Validator
  validatorSet : ValidatorSet
  epoch : Int
  enough : 3 ≤ (activeOf validators).length

namespace BftConsensus

/-- The validator set of a prototype over a list of validators. -/
def sandboxValidatorSet (now : DateTime) (validators : List Validator) : ValidatorSet where
  id := SANDBOX_BFT_VALIDATOR_SET_ID
  epoch := SANDBOX_BFT_EPOCH
  validators := validators.map fun v => {
    id := v.id
    publicKey := v.publicKey
    votingPower := if v.active then 1 else 0
    active := v.active }
  createdAt := now

def newSandboxPrototype (now : DateTime) (validators : List Validator) :
    Except ConsensusError BftConsensus :=
  if h : (activeOf validators).length < 3 then .error .notEnoughValidators
  else
    .ok {
      engineId := SANDBOX_BFT_ENGINE_ID
      validators := validators
      validatorSet := sandboxValidatorSet now validators
      epoch := SANDBOX_BFT_EPOCH
      enough := by omega }

def sandboxDefault (now : DateTime) : BftConsensus where
  engineId := SANDBOX_BFT_ENGINE_ID
  validators := phase1DefaultValidators
  validatorSet := sandboxValidatorSet now phase1DefaultValidators
  epoch := SANDBOX_BFT_EPOCH
  enough := by decide

theorem newSandboxPrototype_phase1 (now : DateTime) :
    newSandboxPrototype now phase1DefaultValidators = .ok (sandboxDefault now) := rfl

/-- What the constructor accepts, and what it makes of it. -/
theorem newSandboxPrototype_eq_ok {now : DateTime} {validators : List Validator}
    {c : BftConsensus} (h : newSandboxPrototype now validators = .ok c) :
    c.validators = validators ∧ c.validatorSet = sandboxValidatorSet now validators ∧
      c.epoch = SANDBOX_BFT_EPOCH := by
  unfold newSandboxPrototype at h
  split at h
  · cases h
  cases h
  exact ⟨rfl, rfl, rfl⟩

def activeValidators (c : BftConsensus) : List Validator := activeOf c.validators

/-- More than two thirds of the active validators. -/
def finalityThreshold (c : BftConsensus) : Nat := c.activeValidators.length * 2 / 3 + 1

def leaderForHeight (c : BftConsensus) (height : Int) : Except ConsensusError Validator :=
  leaderAt c.activeValidators height

def finalityVotesForBlock (c : BftConsensus) (height : Int) :
    Except ConsensusError (List String) :=
  votesAt c.activeValidators c.finalityThreshold height

end BftConsensus

/-! ## The configured engine -/

inductive ConfiguredConsensusEngine where
  | poa (engine : PoAConsensus)
  | bft (engine : BftConsensus)

namespace ConfiguredConsensusEngine

def activeValidators : ConfiguredConsensusEngine → List Validator
  | .poa engine => engine.activeValidators
  | .bft engine => engine.activeValidators

def finalityThreshold : ConfiguredConsensusEngine → Nat
  | .poa engine => engine.finalityThreshold
  | .bft engine => engine.finalityThreshold

def leaderForHeight : ConfiguredConsensusEngine → Int → Except ConsensusError Validator
  | .poa engine => engine.leaderForHeight
  | .bft engine => engine.leaderForHeight

def finalityVotesForBlock :
    ConfiguredConsensusEngine → Int → Except ConsensusError (List String)
  | .poa engine => engine.finalityVotesForBlock
  | .bft engine => engine.finalityVotesForBlock

end ConfiguredConsensusEngine

inductive ConsensusAlgorithm where
  | poa | bft
  deriving DecidableEq, Repr

structure ConsensusEngineConfig where
  engineId : String
  algorithm : ConsensusAlgorithm
  validators : List Validator
  deriving DecidableEq, Repr

namespace ConsensusEngineConfig

def phase1Poa : ConsensusEngineConfig := ⟨PHASE1_POA_ENGINE_ID, .poa, phase1DefaultValidators⟩

def sandboxBftPrototype : ConsensusEngineConfig :=
  ⟨SANDBOX_BFT_ENGINE_ID, .bft, phase1DefaultValidators⟩

def buildEngine (now : DateTime) (c : ConsensusEngineConfig) :
    Except ConsensusError ConfiguredConsensusEngine :=
  match c.algorithm with
  | .poa => do
    let engine ← PoAConsensus.newPhase1 c.validators
    return .poa engine
  | .bft =>
    if c.engineId ≠ SANDBOX_BFT_ENGINE_ID then
      .error (.bftPrototypeNotEnabled SANDBOX_BFT_ENGINE_ID c.engineId)
    else do
      let engine ← BftConsensus.newSandboxPrototype now c.validators
      return .bft engine

end ConsensusEngineConfig

/-- The engine of the default deployment, `phase1_poa().build_engine()`. -/
def phase1Engine : ConfiguredConsensusEngine :=
  .poa ⟨PHASE1_POA_ENGINE_ID, phase1DefaultValidators, by decide⟩

theorem buildEngine_phase1Poa (now : DateTime) :
    ConsensusEngineConfig.phase1Poa.buildEngine now = .ok phase1Engine := rfl

/-! ## Leaders and votes -/

/-- Votes pass when they are active, distinct and not seen before; the votes
seen in the end are the ones seen before and these. -/
theorem checkVotes_eq_ok {ε : Type} {unknown duplicate : String → ε}
    {active seen votes seen' : List String}
    (h : checkVotes unknown duplicate active seen votes = .ok seen') :
    (∀ v ∈ votes, v ∈ active) ∧ votes.Nodup ∧ (∀ v ∈ votes, v ∉ seen) ∧
      ∀ v, v ∈ seen' ↔ v ∈ votes ∨ v ∈ seen := by
  induction votes generalizing seen with
  | nil =>
    cases h
    simp
  | cons id votes ih =>
    unfold checkVotes at h
    split at h
    · cases h
    rename_i hactive
    split at h
    · cases h
    rename_i hseen
    obtain ⟨hact, hnodup, hnew, hmem⟩ := ih h
    refine ⟨?_, ?_, ?_, ?_⟩
    · simp only [List.forall_mem_cons]
      exact ⟨not_not.mp hactive, hact⟩
    · rw [List.nodup_cons]
      exact ⟨fun hid => hnew id hid List.mem_cons_self, hnodup⟩
    · simp only [List.forall_mem_cons]
      exact ⟨hseen, fun v hv hin => hnew v hv (List.mem_cons_of_mem _ hin)⟩
    · intro v
      rw [hmem, List.mem_cons, List.mem_cons]
      tauto

/-- Active and distinct votes pass. -/
theorem checkVotes_isOk {ε : Type} {unknown duplicate : String → ε}
    {active seen votes : List String} (hactive : ∀ v ∈ votes, v ∈ active) (hnd : votes.Nodup)
    (hnew : ∀ v ∈ votes, v ∉ seen) :
    ∃ seen', checkVotes unknown duplicate active seen votes = .ok seen' := by
  induction votes generalizing seen with
  | nil => exact ⟨seen, rfl⟩
  | cons id votes ih =>
    rw [List.forall_mem_cons] at hactive hnew
    rw [List.nodup_cons] at hnd
    rw [checkVotes, if_neg (not_not.mpr hactive.1), if_neg hnew.1]
    refine ih hactive.2 hnd.2 ?_
    intro v hv hin
    rcases List.mem_cons.mp hin with rfl | hin
    · exact hnd.1 hv
    · exact hnew.2 v hv hin

/-- The leader is an active validator. -/
theorem mem_of_leaderAt {active : List Validator} {height : Int} {v : Validator}
    (h : leaderAt active height = .ok v) : v ∈ active := by
  unfold leaderAt at h
  split at h
  · cases h
  split at h
  · cases h
  cases h
  exact List.get_mem _ _

theorem leaderForHeight_mem {engine : ConfiguredConsensusEngine} {height : Int} {v : Validator}
    (h : engine.leaderForHeight height = .ok v) : v ∈ engine.activeValidators := by
  cases engine with
  | poa engine => exact mem_of_leaderAt h
  | bft engine => exact mem_of_leaderAt h

end KaniNetwork
