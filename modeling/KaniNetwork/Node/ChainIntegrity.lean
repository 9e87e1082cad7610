/-
KaniNetwork.Node.ChainIntegrity — the chain of the in-memory node.

`BlockOk` says of the block at index `i` what the verification objective
of the replay lists: its height, its link to the block before, its
producer, its votes, its hash, its signature, and that it is not empty.
No single function checks all of it. `verify_phase1_block` looks at the
seal and not at the link, `apply_block` at the link and not at the seal;
the invariant holds because every block a call appends went through both
(`Produced`).
-/
import KaniNetwork.Node.MemoryTheorems

namespace KaniNetwork

/-- The hash the block at index `i` has to link to. -/
def prevHashAt (blocks : List Block) : Nat → String
  | 0 => GENESIS_HASH
  | i + 1 => (blocks[i]?.map Block.hash).getD GENESIS_HASH

/-- The block at index `i` of a chain is in order. -/
structure BlockOk (n : KaniNode) (blocks : List Block) (i : Nat) (b : Block) : Prop where
  height : b.height = i + 1
  prev_hash : b.prevHash = prevHashAt blocks i
  validator : ∃ leader, n.consensus.leaderForHeight (i + 1) = .ok leader ∧
    b.validator = leader.id
  quorum : n.consensus.finalityThreshold ≤ b.finalizedBy.length
  votes_distinct : b.finalizedBy.Nodup
  votes_active : ∀ v ∈ b.finalizedBy, ∃ w ∈ n.consensus.activeValidators, w.id = v
  producer_voted : b.validator ∈ b.finalizedBy
  hash : b.hash = n.host.hashJson n.cryptoProfile.hash b.unsealed
  signature : b.signature = n.host.sandboxValidatorSignature n.cryptoProfile b.validator b.hash
  txs_nonempty : b.txs ≠ []

/-- Every block of the chain is in order. -/
def ChainOk (n : KaniNode) (blocks : List Block) : Prop :=
  ∀ i b, blocks[i]? = some b → BlockOk n blocks i b

/-- Appending a block does not change what the blocks up to it link to. -/
theorem prevHashAt_append (blocks : List Block) (b : Block) {i : Nat} (h : i ≤ blocks.length) :
    prevHashAt (blocks ++ [b]) i = prevHashAt blocks i := by
  cases i with
  | zero => rfl
  | succ i =>
    have hi : i < blocks.length := h
    simp only [prevHashAt, List.getElem?_append_left hi]

/-- The hash to link to next is the last one. -/
theorem prevHashAt_length (l : InMemoryLedger) :
    prevHashAt l.blocks l.blocks.length = l.lastHash := by
  unfold InMemoryLedger.lastHash
  rw [List.getLast?_eq_getElem?]
  cases hlen : l.blocks.length with
  | zero =>
    have hnil : l.blocks = [] := List.eq_nil_of_length_eq_zero hlen
    simp [hnil, prevHashAt]
  | succ k =>
    simp only [prevHashAt, Nat.add_sub_cancel]
    cases l.blocks[k]? <;> rfl

/-- Appending a verified block that extends the ledger keeps the chain in
order. -/
theorem chainOk_append {n : KaniNode} {l l' : InMemoryLedger} {b : Block} {d : Draws}
    {records : List PaymentRecord} (h : ChainOk n l.blocks)
    (hverified : Verified n.host n.consensus n.cryptoProfile b)
    (happlied : InMemoryLedger.Applied n.host.arith d l b l' records) :
    ChainOk n l'.blocks := by
  rw [happlied.blocks_eq]
  intro i b' hb'
  rcases Nat.lt_trichotomy i l.blocks.length with hlt | rfl | hgt
  · rw [List.getElem?_append_left hlt] at hb'
    have hold := h i b' hb'
    exact { hold with
      prev_hash := by rw [prevHashAt_append _ _ hlt.le, hold.prev_hash] }
  · -- the new block
    simp only [List.getElem?_concat_length, Option.some.injEq] at hb'
    subst hb'
    have hheight : b.height = (l.blocks.length : Int) + 1 := happlied.height_next
    exact {
      height := hheight
      prev_hash := by
        rw [prevHashAt_append _ _ le_rfl, prevHashAt_length, happlied.prev_last]
      validator := by
        rw [← hheight]
        exact hverified.validator
      quorum := hverified.quorum
      votes_distinct := hverified.votes_distinct
      votes_active := hverified.votes_active
      producer_voted := hverified.producer_voted
      hash := hverified.hash
      signature := hverified.signature
      txs_nonempty := hverified.txs_nonempty }
  · have hnone : (l.blocks ++ [b])[i]? = none := by
      rw [List.getElem?_eq_none_iff, List.length_append, List.length_singleton]
      omega
    rw [hnone] at hb'
    cases hb'

/-- Every call keeps the chain in order. -/
theorem chainOk_transition {n : KaniNode} {op : NodeOp} {l l' : InMemoryLedger}
    (ht : n.Transition op l l') (h : ChainOk n l.blocks) : ChainOk n l'.blocks := by
  cases ht with
  | unchanged => exact h
  | admin _ hpayments hblocks => rwa [hblocks]
  | resolved c p p' c' hp htx hkey hfp => exact h
  | held p c hid hnew => exact h
  | produced tx _ p hid hnew hblock =>
    obtain ⟨block, d, records, hverified, _, happlied, _⟩ := hblock.block
    exact chainOk_append h hverified happlied

theorem chainOk_run (n : KaniNode) (d : Draws) (ops : List NodeOp) :
    ChainOk n (n.run (InMemoryLedger.sandbox d) ops).blocks := by
  refine KaniNode.run_induct (P := fun l => ChainOk n l.blocks)
    (fun _ _ _ ht h => chainOk_transition ht h) ?_ ops
  intro i b hb
  simp at hb

/-- **Chain integrity.** Whatever engine, profile and hash function the
node is built with, after any sequence of its operations from the sandbox
every block of its ledger is in order. -/
theorem chain_integrity (n : KaniNode) (d : Draws) (ops : List NodeOp) :
    let l := n.run (InMemoryLedger.sandbox d) ops
    ∀ i b, l.blocks[i]? = some b → BlockOk n l.blocks i b :=
  chainOk_run n d ops

end KaniNetwork
