/-
KaniNetwork.Types.Consensus — the data types of the BFT prototype
(`kani-types`): proposals, votes, certificates and finality proofs.
-/
import KaniNetwork.Types.Core

namespace KaniNetwork

structure ConsensusValidator where
  id : String
  publicKey : String
  votingPower : Int
  active : Bool
  deriving DecidableEq, Repr

structure ValidatorSet where
  id : String
  epoch : Int
  validators : List ConsensusValidator
  createdAt : DateTime
  deriving DecidableEq, Repr

structure ConsensusProposal where
  id : String
  height : Int
  round : Int
  epoch : Int
  proposer : String
  blockHash : String
  prevHash : String
  createdAt : DateTime
  deriving DecidableEq, Repr

inductive ConsensusVoteKind where
  | prevote | precommit | finality
  deriving DecidableEq, Repr

structure ConsensusVote where
  id : String
  proposalId : String
  height : Int
  round : Int
  epoch : Int
  voter : String
  voteKind : ConsensusVoteKind
  blockHash : String
  signature : List UInt8
  createdAt : DateTime
  deriving DecidableEq, Repr

structure QuorumCertificate where
  id : String
  height : Int
  round : Int
  epoch : Int
  blockHash : String
  voteKind : ConsensusVoteKind
  voters : List String
  signature : List UInt8
  createdAt : DateTime
  deriving DecidableEq, Repr

structure FinalityProof where
  blockHeight : Int
  blockHash : String
  validatorSetId : String
  quorumCertificate : QuorumCertificate
  finalizedAt : DateTime
  deriving DecidableEq, Repr

end KaniNetwork
