/-
KaniNetwork.Store.Reload — what `load_payments` derives, and from what.

The nonces and the issued amounts are in no table. `apply_block` keeps them
up transaction by transaction; `load_payments` computes them again from the
FINALIZED rows, the nonces as a maximum and the issued amounts as a sum.
`DerivedFrom txs nonces issued` says that two maps are what a list of
transactions makes of them in any order. Both computations have it: the
reload of the payments (`derivedFrom_ofPayments`), and the batch of a block
on top of what came before (`DerivedFrom.applyTransactions`), because a
nonce that is accepted is above the ones before it. In a sound chain the
FINALIZED rows are the transactions of the blocks (`finalizedTxs_perm`).
-/
import KaniNetwork.Ledger.Alike
import KaniNetwork.Ledger.ReplayProtection
import KaniNetwork.Store.Chain

namespace KaniNetwork

open InMemoryLedger

/-- The transactions of the FINALIZED payments. -/
def finalizedTxs (payments : List PaymentRecord) : List Transaction :=
  (payments.filter fun p => p.status = .finalized).map PaymentRecord.transaction

theorem finalizedTxs_append_singleton (ps : List PaymentRecord) (p : PaymentRecord) :
    finalizedTxs (ps ++ [p]) =
      if p.status = .finalized then finalizedTxs ps ++ [p.transaction] else finalizedTxs ps := by
  unfold finalizedTxs
  rw [List.filter_append, List.filter_singleton]
  split <;> simp_all

/-- The highest nonce of the account `a`, zero when it has none. -/
def peakNonce (a : String) (txs : List Transaction) : Int := (noncesOf a txs).foldl max 0

/-- The sum of what was minted less what was burnt of the asset `s`. -/
def netIssued (s : String) (txs : List Transaction) : Int :=
  (txs.map fun tx => tx.issuedDelta s).sum

theorem peakNonce_append_singleton (a : String) (txs : List Transaction) (tx : Transaction) :
    peakNonce a (txs ++ [tx]) =
      if tx.fromAccount = a then max (peakNonce a txs) tx.nonce else peakNonce a txs := by
  unfold peakNonce
  rw [noncesOf_append_singleton]
  split
  · rw [List.foldl_append, List.foldl_cons, List.foldl_nil]
  · rfl

theorem netIssued_append_singleton (s : String) (txs : List Transaction) (tx : Transaction) :
    netIssued s (txs ++ [tx]) = netIssued s txs + tx.issuedDelta s := by
  simp [netIssued]

/-! ## Derived maps -/

/-- The maps are what the transactions make of them; what has no key reads
zero. -/
structure DerivedFrom (txs : List Transaction) (nonces issued : HashMap String Int) : Prop where
  nonces : ∀ a, nonces.getOr a 0 = peakNonce a txs
  issued : ∀ s, issued.getOr s 0 = netIssued s txs

namespace DerivedFrom

variable {txs : List Transaction} {nonces issued : HashMap String Int}

theorem nil : DerivedFrom [] ∅ ∅ := ⟨fun _ => rfl, fun _ => rfl⟩

/-- The order of the transactions does not matter. -/
theorem perm {txs' : List Transaction} (h : DerivedFrom txs nonces issued) (hperm : txs.Perm txs') :
    DerivedFrom txs' nonces issued := by
  constructor
  · intro a
    have hnonces : (noncesOf a txs).Perm (noncesOf a txs') := (hperm.filter _).map _
    have hpeak : (noncesOf a txs).foldl max 0 = (noncesOf a txs').foldl max 0 :=
      hnonces.foldl_eq 0
    rw [h.nonces, peakNonce, hpeak, peakNonce]
  · intro s
    rw [h.issued, netIssued, (hperm.map _).sum_eq, netIssued]

/-- A batch that the loop accepts derives the maps further. -/
theorem applyTransactions {l : InMemoryLedger} {height : Int} {d : Draws} {batch : List Transaction}
    {w w' : Working} (h : DerivedFrom txs w.nonces w.issued)
    (hrun : l.applyTransactions .exact height d batch w = .ok w') :
    DerivedFrom (txs ++ batch) w'.nonces w'.issued := by
  induction batch generalizing txs d w with
  | nil =>
    cases hrun
    simpa using h
  | cons tx batch ih =>
    simp only [InMemoryLedger.applyTransactions, bind_eq_ok_iff] at hrun
    obtain ⟨_, hval, w₁, happ, hrest⟩ := hrun
    have hfresh := (validateTransaction_eq_ok_iff.mp hval).nonce_fresh
    have heffect := applyTransaction_exact happ
    rw [List.append_cons]
    refine ih ⟨fun a => ?_, fun s => ?_⟩ hrest
    · rw [heffect.nonces, HashMap.getOr_insert, peakNonce_append_singleton, ← h.nonces a]
      by_cases ha : tx.fromAccount = a
      · -- the accepted nonce is above the last one, so it is the maximum
        subst ha
        rw [if_pos rfl, if_pos rfl, max_eq_right hfresh.le]
      · rw [if_neg (Ne.symm ha), if_neg ha]
    · rw [netIssued_append_singleton, ← h.issued s]
      exact heffect.issued s

end DerivedFrom

/-! ## The reload -/

theorem PaymentIndex.nonces_add (ar : Arith) (ix : PaymentIndex) (p : PaymentRecord) :
    (ix.add ar p).nonces =
      (if p.status = .finalized then ix.addFinalized ar p.transaction else ix).nonces := by
  unfold add
  cases p.blockHeight <;> rfl

theorem PaymentIndex.issued_add_eq (ar : Arith) (ix : PaymentIndex) (p : PaymentRecord) :
    (ix.add ar p).issued =
      (if p.status = .finalized then ix.addFinalized ar p.transaction else ix).issued := by
  unfold add
  cases p.blockHeight <;> rfl

theorem PaymentIndex.issued_addFinalized (ix : PaymentIndex) (tx : Transaction) (s : String) :
    (ix.addFinalized .exact tx).issued.getOr s 0 = ix.issued.getOr s 0 + tx.issuedDelta s := by
  cases hkind : tx.kind with
  | transfer => simp [addFinalized, Transaction.issuedDelta, hkind]
  | mint =>
    simp only [addFinalized, hkind, HashMap.getOr_insert, Arith.norm_exact, Transaction.issuedDelta]
    grind
  | burn =>
    simp only [addFinalized, hkind, HashMap.getOr_insert, Arith.norm_exact, Transaction.issuedDelta]
    grind

/-- `load_payments` derives its maps from the FINALIZED rows. -/
theorem derivedFrom_ofPayments (payments : List PaymentRecord) :
    DerivedFrom (finalizedTxs payments) (PaymentIndex.ofPayments .exact payments).nonces
      (PaymentIndex.ofPayments .exact payments).issued := by
  induction payments using List.reverseRecOn with
  | nil => exact .nil
  | append_singleton ps p ih =>
    have hstep : PaymentIndex.ofPayments .exact (ps ++ [p]) =
        (PaymentIndex.ofPayments .exact ps).add .exact p := by
      simp [PaymentIndex.ofPayments]
    rw [hstep, PaymentIndex.nonces_add, PaymentIndex.issued_add_eq, finalizedTxs_append_singleton]
    split
    · refine ⟨fun a => ?_, fun s => ?_⟩
      · rw [peakNonce_append_singleton, ← ih.nonces a]
        simp only [PaymentIndex.addFinalized, HashMap.getOr_insert]
        grind
      · rw [netIssued_append_singleton, ← ih.issued s, PaymentIndex.issued_addFinalized]
    · exact ih

/-! ## A sound chain -/

/-- A transaction is that of a FINALIZED payment when its row says so. -/
theorem Database.mem_finalizedTxs {db : Database} {tx : Transaction} :
    tx ∈ finalizedTxs db.payments ↔
      ∃ r, db.transactions.find? tx.id = some r ∧ r.toTransaction = tx ∧ r.status = .finalized := by
  simp only [finalizedTxs, List.mem_map, List.mem_filter, mem_payments, decide_eq_true_eq]
  constructor
  · rintro ⟨_, ⟨⟨r, hr, rfl⟩, hstatus⟩, rfl⟩
    exact ⟨r, Table.mem_rows_iff.mp hr, rfl, hstatus⟩
  · rintro ⟨r, hr, rfl, hstatus⟩
    exact ⟨db.joinBlock r, ⟨⟨r, Table.mem_of_find? hr, rfl⟩, hstatus⟩, rfl⟩

theorem Database.finalizedTxs_nodup (db : Database) : (finalizedTxs db.payments).Nodup := by
  have hids : ((db.payments.filter fun p => p.status = .finalized).map
      fun p => p.transaction.id).Nodup := db.payments_nodup.sublist (List.filter_sublist.map _)
  rw [finalizedTxs]
  exact .of_map Transaction.id (by rwa [List.map_map])

/-- The FINALIZED rows are the transactions of the blocks. -/
theorem ChainSound.finalizedTxs_perm {ar : Arith} {db : Database} (h : ChainSound ar db) :
    (finalizedTxs db.payments).Perm (db.chain.flatMap Block.txs) := by
  refine (List.perm_ext_iff_of_nodup db.finalizedTxs_nodup db.chainTxs_nodup).mpr fun tx => ?_
  rw [Database.mem_finalizedTxs, Database.mem_chainTxs]
  constructor
  · rintro ⟨r, hr, htx, hstatus⟩
    obtain ⟨height, hblock⟩ := Option.ne_none_iff_exists'.mp ((h.finalized _ r hr).mp hstatus)
    exact ⟨r, height, hr, htx, hblock, h.placed _ r height hr hblock⟩
  · rintro ⟨r, height, hr, htx, hblock, -⟩
    have hplaced : r.blockHeight ≠ none := by
      rw [hblock]
      exact Option.some_ne_none height
    exact ⟨r, hr, htx, (h.finalized _ r hr).mpr hplaced⟩

/-- A reload derives its maps from the transactions of the chain. -/
theorem ChainSound.derivedFrom_chain {ar : Arith} {db : Database} (h : ChainSound ar db) :
    DerivedFrom (db.chain.flatMap Block.txs) (PaymentIndex.ofPayments .exact db.payments).nonces
      (PaymentIndex.ofPayments .exact db.payments).issued :=
  (derivedFrom_ofPayments db.payments).perm h.finalizedTxs_perm

end KaniNetwork
