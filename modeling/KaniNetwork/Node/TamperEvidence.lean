/-
KaniNetwork.Node.TamperEvidence — what the last hash of a chain fixes.

The hash of a block covers the block with its hash, its signature and its
votes cleared. The height and the previous hash are inside, so with a hash
that tells blocks apart the last hash of a chain fixes the block before,
and down to the first; the signature is computed from the hash. The votes
are outside: they can be exchanged in any block of a chain without any hash
noticing (`sealed_withVotes`).
-/
import KaniNetwork.Crypto.InjectiveHash
import KaniNetwork.Node.ChainIntegrity

namespace KaniNetwork

/-- The block at index `i` has its height, links to the block before, and
passes the checks of `verify_phase1_block` on its validator, its hash and
its signature. -/
structure SealOk (n : KaniNode) (blocks : List Block) (i : Nat) (b : Block) : Prop where
  height : b.height = i + 1
  prev_hash : b.prevHash = prevHashAt blocks i
  validator : ∃ leader, n.consensus.leaderForHeight b.height = .ok leader ∧
    b.validator = leader.id
  hash : b.hash = n.host.hashJson n.cryptoProfile.hash b.unsealed
  signature : b.signature = n.host.sandboxValidatorSignature n.cryptoProfile b.validator b.hash

/-- Every block of the chain links and passes these checks. -/
def Sealed (n : KaniNode) (blocks : List Block) : Prop :=
  ∀ i b, blocks[i]? = some b → SealOk n blocks i b

/-- A chain in order is sealed, so every ledger of the node has a sealed
chain. -/
theorem ChainOk.sealed {n : KaniNode} {blocks : List Block} (h : ChainOk n blocks) :
    Sealed n blocks := by
  intro i b hb
  have hok := h i b hb
  exact {
    height := hok.height
    prev_hash := hok.prev_hash
    validator := by
      rw [hok.height]
      exact hok.validator
    hash := hok.hash
    signature := hok.signature }

/-- The hash of `n` tells blocks apart that differ beyond their seal. -/
def HashInjective (n : KaniNode) : Prop :=
  ∀ b c : Block, n.host.hashJson n.cryptoProfile.hash b.unsealed =
    n.host.hashJson n.cryptoProfile.hash c.unsealed → b.unsealed = c.unsealed

/-! ## Votes are not covered -/

/-- The chain with the votes of each block replaced. -/
def withVotes (votes : Block → List String) (blocks : List Block) : List Block :=
  blocks.map fun b => { b with finalizedBy := votes b }

theorem prevHashAt_withVotes (votes : Block → List String) (blocks : List Block) (i : Nat) :
    prevHashAt (withVotes votes blocks) i = prevHashAt blocks i := by
  cases i with
  | zero => rfl
  | succ i =>
    simp only [prevHashAt, withVotes, List.getElem?_map]
    cases blocks[i]? <;> rfl

/-- A sealed chain stays sealed with any other votes. -/
theorem sealed_withVotes {n : KaniNode} {blocks : List Block} (h : Sealed n blocks)
    (votes : Block → List String) : Sealed n (withVotes votes blocks) := by
  intro i b hb
  rw [withVotes, List.getElem?_map, Option.map_eq_some_iff] at hb
  obtain ⟨c, hc, rfl⟩ := hb
  have hok := h i c hc
  exact { hok with
    prev_hash := by
      rw [prevHashAt_withVotes]
      exact hok.prev_hash }

/-! ## Everything else is -/

/-- Two blocks that can differ in their votes only. -/
structure SameButVotes (b c : Block) : Prop where
  height : b.height = c.height
  prev_hash : b.prevHash = c.prevHash
  txs : b.txs = c.txs
  validator : b.validator = c.validator
  created_at : b.createdAt = c.createdAt
  hash : b.hash = c.hash
  signature : b.signature = c.signature

/-- Blocks of sealed chains with the same hash are the same but for their
votes. -/
theorem sameButVotes_of_hash {n : KaniNode} (hinj : HashInjective n) {xs ys : List Block}
    {i j : Nat} {b c : Block} (hb : SealOk n xs i b) (hc : SealOk n ys j c)
    (hhash : b.hash = c.hash) : SameButVotes b c := by
  have hunsealed : b.unsealed = c.unsealed := hinj b c (by rw [← hb.hash, ← hc.hash, hhash])
  -- clearing the seal keeps these fields
  have hfield {α : Type} (f : Block → α) : f b.unsealed = f c.unsealed := congrArg f hunsealed
  have hvalidator : b.validator = c.validator := hfield Block.validator
  exact {
    height := hfield Block.height
    prev_hash := hfield Block.prevHash
    txs := hfield Block.txs
    validator := hvalidator
    created_at := hfield Block.createdAt
    hash := hhash
    signature := by rw [hb.signature, hc.signature, hvalidator, hhash] }

/-- Two sealed chains whose blocks at one index have the same hash agree up to
there. -/
theorem agree_upto {n : KaniNode} (hinj : HashInjective n) {xs ys : List Block}
    (hxs : Sealed n xs) (hys : Sealed n ys) {i : Nat} {b c : Block} (hb : xs[i]? = some b)
    (hc : ys[i]? = some c) (hhash : b.hash = c.hash) :
    ∀ k ≤ i, ∀ b' c', xs[k]? = some b' → ys[k]? = some c' → SameButVotes b' c' := by
  induction i generalizing b c with
  | zero =>
    intro k hk b' c' hb' hc'
    obtain rfl : k = 0 := by omega
    rw [hb] at hb'
    rw [hc] at hc'
    cases hb'
    cases hc'
    exact sameButVotes_of_hash hinj (hxs 0 b hb) (hys 0 c hc) hhash
  | succ i ih =>
    intro k hk b' c' hb' hc'
    have hsame := sameButVotes_of_hash hinj (hxs _ b hb) (hys _ c hc) hhash
    rcases Nat.lt_or_eq_of_le hk with hlt | rfl
    · -- the previous hashes are equal, and they are the hashes one below
      have hi : i < xs.length := by
        have := (List.getElem?_eq_some_iff.mp hb).1
        omega
      have hi' : i < ys.length := by
        have := (List.getElem?_eq_some_iff.mp hc).1
        omega
      have hprev : xs[i].hash = ys[i].hash := by
        have hlinks := (hxs _ b hb).prev_hash.symm.trans
          (hsame.prev_hash.trans (hys _ c hc).prev_hash)
        simpa only [prevHashAt, List.getElem?_eq_getElem hi, List.getElem?_eq_getElem hi',
          Option.map_some, Option.getD_some] using hlinks
      exact ih (List.getElem?_eq_getElem hi) (List.getElem?_eq_getElem hi') hprev k (by omega)
        b' c' hb' hc'
    · rw [hb] at hb'
      rw [hc] at hc'
      cases hb'
      cases hc'
      exact hsame

/-- **Tamper evidence.** With a hash that tells blocks apart, two sealed
chains under one engine and profile that end in blocks with the same hash
have the same length and agree block by block in everything but votes. -/
theorem tamper_evidence (n : KaniNode) (hinj : HashInjective n) (xs ys : List Block)
    (hxs : Sealed n xs) (hys : Sealed n ys) (b c : Block) (hb : xs.getLast? = some b)
    (hc : ys.getLast? = some c) (hhash : b.hash = c.hash) :
    xs.length = ys.length ∧
      ∀ (i : Nat) (b c : Block), xs[i]? = some b → ys[i]? = some c → SameButVotes b c := by
  rw [List.getLast?_eq_getElem?] at hb hc
  have hsame := sameButVotes_of_hash hinj (hxs _ b hb) (hys _ c hc) hhash
  have hheight := (hxs _ b hb).height.symm.trans (hsame.height.trans (hys _ c hc).height)
  have hxlen := (List.getElem?_eq_some_iff.mp hb).1
  have hylen := (List.getElem?_eq_some_iff.mp hc).1
  have hlength : xs.length = ys.length := by omega
  refine ⟨hlength, ?_⟩
  intro i b' c' hb' hc'
  have hi := (List.getElem?_eq_some_iff.mp hb').1
  rw [hlength] at hb
  exact agree_upto hinj hxs hys hb hc hhash i (by omega) b' c' hb' hc'

/-- A node whose hash tells blocks apart. -/
noncomputable def exampleSealingNode : KaniNode where
  host := countingHost (.newUnsealed 0 1 GENESIS_HASH [] "")
  consensus := phase1Engine
  cryptoProfile := .hybridPqcV1

/-- A first block that mints, sealed with the given votes. -/
noncomputable def exampleSealedBlock (votes : List String) : Block :=
  let n := exampleSealingNode
  let unsealed := Block.newUnsealed 7 1 GENESIS_HASH
    [.newMint ⟨"mint", 5⟩ SANDBOX_TREASURY_ACCOUNT SANDBOX_CORP_A_ACCOUNT KCAD_TEST 5 1] "validator-a"
  let hash := n.host.hashJson n.cryptoProfile.hash unsealed
  unsealed.sealed hash (n.host.sandboxValidatorSignature n.cryptoProfile "validator-a" hash) votes

/-- Two copies of it with different votes end two chains with one hash: they
agree in everything else, and are not the same block. -/
theorem tamper_evidence_example :
    SameButVotes (exampleSealedBlock ["validator-a"])
        (exampleSealedBlock ["validator-a", "validator-b"]) ∧
      exampleSealedBlock ["validator-a"] ≠ exampleSealedBlock ["validator-a", "validator-b"] := by
  have hsealed : ∀ votes, Sealed exampleSealingNode [exampleSealedBlock votes] := by
    intro votes i b hb
    obtain ⟨hi, rfl⟩ := List.getElem?_eq_some_iff.mp hb
    have hzero : i = 0 := by simpa using hi
    subst hzero
    exact ⟨rfl, rfl, ⟨_, rfl, rfl⟩, rfl, rfl⟩
  refine ⟨?_, fun h => absurd (congrArg Block.finalizedBy h) (by decide)⟩
  exact (tamper_evidence exampleSealingNode (fun _ _ h => countingHost_injective _ _ h)
    [exampleSealedBlock ["validator-a"]] [exampleSealedBlock ["validator-a", "validator-b"]]
    (hsealed _) (hsealed _) _ _ rfl rfl rfl).2 0 _ _ rfl rfl

end KaniNetwork
