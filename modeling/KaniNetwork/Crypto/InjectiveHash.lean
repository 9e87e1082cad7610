/-
KaniNetwork.Crypto.InjectiveHash — a host whose hash tells blocks apart.

Results that assume an injective hash are run on this host. Blocks are
countable, so they can be numbered; the hash of a block is a string as long
as its number. The number of one block is fixed, so that a run that hashes
only this block can be evaluated.
-/
import Mathlib.Data.Countable.Basic
import Mathlib.Logic.Equiv.List
import KaniNetwork.Crypto.Profile

namespace KaniNetwork

theorem char_countable : Countable Char :=
  Function.Injective.countable (f := Char.toNat) fun _ _ h => Char.toNat_inj.mp h

instance string_countable : Countable String :=
  have := char_countable
  Function.Injective.countable (f := String.toList) fun _ _ h => String.toList_inj.mp h

theorem uint8_countable : Countable UInt8 :=
  Function.Injective.countable (f := UInt8.toNat) fun _ _ h => UInt8.toNat_inj.mp h

instance : Countable TransactionKind :=
  Function.Injective.countable (f := TransactionKind.label) (by
    intro a b h
    cases a <;> cases b <;> first | rfl | simp [TransactionKind.label] at h)

instance : Countable Metadata :=
  Function.Injective.countable (f := BTreeMap.entries) (by
    rintro ⟨_, _⟩ ⟨_, _⟩ rfl
    rfl)

instance : Countable Transaction :=
  have := uint8_countable
  have : Countable DateTime := inferInstanceAs (Countable Int)
  Function.Injective.countable (f := fun tx : Transaction => (tx.id, tx.fromAccount, tx.toAccount,
    tx.asset, tx.amount, tx.nonce, tx.signatures, tx.kind, tx.metadata, tx.createdAt)) (by
    rintro ⟨⟩ ⟨⟩ h
    simp only [Prod.mk.injEq] at h
    obtain ⟨rfl, rfl, rfl, rfl, rfl, rfl, rfl, rfl, rfl, rfl⟩ := h
    rfl)

instance : Countable Block :=
  have := uint8_countable
  have : Countable DateTime := inferInstanceAs (Countable Int)
  Function.Injective.countable (f := fun b : Block => (b.height, b.prevHash, b.txs, b.validator,
    b.signature, b.hash, b.finalizedBy, b.createdAt)) (by
    rintro ⟨⟩ ⟨⟩ h
    simp only [Prod.mk.injEq] at h
    obtain ⟨rfl, rfl, rfl, rfl, rfl, rfl, rfl, rfl⟩ := h
    rfl)

/-- Some numbering of all blocks. -/
noncomputable def blockCode : Block → Nat := Classical.choose (Countable.exists_injective_nat Block)

theorem blockCode_injective : Function.Injective blockCode :=
  Classical.choose_spec (Countable.exists_injective_nat Block)

/-- A host whose hash tells all blocks apart; the one of `first` is known. -/
noncomputable def countingHost (first : Block) : Host where
  arith := .exact
  hashBytes := fun _ bytes => String.ofList ('h' :: bytes.map fun _ => 'h')
  blockToVec := fun b => List.replicate (if b = first then 0 else blockCode b + 1) 0

theorem countingHost_injective (first : Block) (algorithm : HashAlgorithm) :
    Function.Injective ((countingHost first).hashJson algorithm) := by
  intro b b' h
  have hcode : (if b = first then 0 else blockCode b + 1) =
      if b' = first then 0 else blockCode b' + 1 := by
    have hlength := congrArg String.length h
    simpa [Host.hashJson, countingHost] using hlength
  split at hcode <;> split at hcode
  · simp_all
  · omega
  · omega
  · exact blockCode_injective (by omega)

end KaniNetwork
