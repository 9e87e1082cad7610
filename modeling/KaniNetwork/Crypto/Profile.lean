/-
KaniNetwork.Crypto.Profile — crypto profiles and the sandbox signature
(`kani-crypto`).

The hash functions and the JSON encoder are libraries outside the
repository. `Host` holds them as parameters, next to the arithmetic of the
build; nothing is assumed about them here. Encoding a block cannot fail
(its maps have string keys), so `hash_json` is total.
-/
import KaniNetwork.Ledger.InMemory

namespace KaniNetwork

inductive SignatureAlgorithm where
  | ed25519 | mlDsa65
  deriving DecidableEq, Repr

inductive HashAlgorithm where
  | sha2_256 | sha3_256
  deriving DecidableEq, Repr

structure CryptoProfile where
  name : String
  transactionSignature : List SignatureAlgorithm
  validatorSignature : List SignatureAlgorithm
  hash : HashAlgorithm
  deriving DecidableEq, Repr

def CryptoProfile.hybridPqcV1 : CryptoProfile where
  name := "hybrid-pqc-v1"
  transactionSignature := [.ed25519, .mlDsa65]
  validatorSignature := [.mlDsa65]
  hash := .sha3_256

/-- What the program is built on: `i128` arithmetic, `hash_bytes` over the
two digests, and `serde_json::to_vec` on blocks. -/
structure Host where
  arith : Arith
  hashBytes : HashAlgorithm → List UInt8 → String
  blockToVec : Block → List UInt8

namespace Host

/-- `hash_json` on a block. -/
def hashJson (host : Host) (algorithm : HashAlgorithm) (block : Block) : String :=
  host.hashBytes algorithm (host.blockToVec block)

/-- `sandbox_validator_signature`. -/
def sandboxValidatorSignature (host : Host) (profile : CryptoProfile)
    (validatorId blockHash : String) : List UInt8 :=
  let payload := profile.name ++ ":" ++ validatorId ++ ":" ++ blockHash
  utf8Bytes (host.hashBytes profile.hash (utf8Bytes payload))

/-- A host to run examples on: exact amounts, and a digest that tells blocks
apart by their height. -/
def sample : Host where
  arith := .exact
  hashBytes := fun _ bytes => "h" ++ toString bytes.length
  blockToVec := fun b => List.replicate b.height.toNat 0

theorem sample_arith : sample.arith = .exact := rfl

end Host

end KaniNetwork
