/-
KaniNetwork.Validator.SnapshotReads — what a reader gets while validators
commit.

`load_snapshot` is ten statements without a transaction around them. The
balances come from the fifth, the payments from the sixth and the block
rows from the eighth, so a block that is committed between two of them is
in one part of the snapshot and not in another (`torn_balances`,
`torn_block`). `ChainStays` is the condition such a schedule breaks; under
it the snapshot is the chain, the balances and the issued amounts of one
moment (`snapshot_consistent`).
-/
import KaniNetwork.Store.Reload
import KaniNetwork.Validator.NoFork

namespace KaniNetwork

open InMemoryLedger

variable {ar : Arith}

/-! ## Issued amounts -/

theorem PaymentIndex.issued_add (ar : Arith) (ix : PaymentIndex) (p : PaymentRecord) (s : String)
    {n : Int} (h : ix.issued.getOr s 0 = ar.norm n) : (ix.add ar p).issued.getOr s 0 =
      ar.norm (n + if p.status = .finalized then p.transaction.issuedDelta s else 0) := by
  rw [issued_add_eq]
  split
  · unfold addFinalized Transaction.issuedDelta
    cases p.transaction.kind with
    | mint =>
      simp only [HashMap.getOr_insert]
      split
      · rename_i hs
        rw [← hs, h, Arith.norm_add]
      · rw [Int.add_zero, h]
    | burn =>
      simp only [HashMap.getOr_insert]
      split
      · rename_i hs
        rw [← hs, h, Int.sub_eq_add_neg, Arith.norm_add]
      · rw [Int.add_zero, h]
    | transfer => simp [h]
  · rw [Int.add_zero, h]

/-- The issued amounts of a snapshot are those of its finalized payments. -/
theorem PaymentIndex.issued_ofPayments (ar : Arith) (payments : List PaymentRecord) (s : String) :
    (ofPayments ar payments).issued.getOr s 0 =
      ar.norm (netIssued s (finalizedTxs payments)) := by
  induction payments using List.reverseRecOn with
  | nil => cases ar <;> rfl
  | append_singleton ps p ih =>
    have hstep : ofPayments ar (ps ++ [p]) = (ofPayments ar ps).add ar p := by
      simp [ofPayments]
    rw [hstep, issued_add ar _ p s ih, finalizedTxs_append_singleton]
    split
    · rw [netIssued_append_singleton]
    · rw [Int.add_zero]

/-! ## One moment -/

/-- As far as the chain is concerned the snapshot is the database: its blocks
are the stored ones with their transactions, and replaying them gives its
balances and its issued amounts. -/
structure ChainView (ar : Arith) (snapshot : LedgerSnapshot) (db : Database) : Prop where
  blocks : snapshot.blocks = db.chain
  stored : ∀ a s, (fromSnapshot snapshot).balance a s = db.balance a s
  balances : ∀ a s, (fromSnapshot snapshot).balance a s =
    ar.norm ((Books.replay (snapshot.blocks.flatMap Block.txs)).balance a s)
  issued : ∀ s, (fromSnapshot snapshot).issuedOf s =
    ar.norm ((Books.replay (snapshot.blocks.flatMap Block.txs)).issued s)

/-- Balances, payments and block rows that were read at three moments, when
the chain is that of the second throughout. -/
theorem chainView_of_parts {snapshot : LedgerSnapshot} {u db w : Database}
    (hs : ChainSound ar db) (hbalances : snapshot.balances = u.balanceRows)
    (hpayments : snapshot.payments = db.payments)
    (hblocks : snapshot.blocks = (PaymentIndex.ofPayments ar snapshot.payments).blocks w.blockRows)
    (hissued : snapshot.issued = (PaymentIndex.ofPayments ar snapshot.payments).issued)
    (hsame : ∀ a s, db.balance a s = u.balance a s) (hrows : w.blocks = db.blocks) :
    ChainView ar snapshot db := by
  have hchain : snapshot.blocks = db.chain := by
    have hblockRows : w.blockRows = db.blockRows := by
      rw [Database.blockRows, Database.blockRows, hrows]
    rw [hblocks, PaymentIndex.blocks_ofPayments, hpayments, hblockRows]
    rfl
  have hstored : ∀ a s, (fromSnapshot snapshot).balance a s = db.balance a s := by
    intro a s
    rw [balance_fromSnapshot hbalances, hsame]
  refine ⟨hchain, hstored, ?_, ?_⟩
  · intro a s
    rw [hstored, hchain]
    exact hs.balances a s
  · intro s
    have hsum := PaymentIndex.issued_ofPayments ar db.payments s
    rw [netIssued, (hs.finalizedTxs_perm.map fun tx => tx.issuedDelta s).sum_eq,
      ← Books.replay_issued] at hsum
    rw [hchain, ← hsum, ← hpayments, ← hissued]
    rfl

/-! ## A load amid a run -/

/-- Any run of the network. -/
def UniformNetwork.Goes (P P' : UniformNetwork ar) : Prop :=
  Pool.Reaches Sql.exec (UniformCall.body ar) (fun _ _ => True) P P'

/-- The answer to a query, in the network as it is. -/
def UniformNetwork.answer (q : Sql) (P : UniformNetwork ar) : q.Reply := (q.exec P.store).2

/-- A run before the command a load awaits, in which the chain stays: no
block that changes a balance is committed between the balances and the
payments, and no block at all between the payments and the block rows. -/
def ChainStays (next : Option Sql) (P P' : UniformNetwork ar) : Prop :=
  P.Goes P' ∧
    match next with
    | some (.read .payments) => ∀ a s, P'.store.balance a s = P.store.balance a s
    | some (.read (.complianceCases _ _)) | some (.read .blocks) =>
      P'.store.blocks = P.store.blocks
    | _ => True

/-- Consistent snapshots for readers: a load amid a run of the network over a
seeded database, in which the chain stays between the parts of the chain the
load reads, returns the chain, the balances and the issued amounts of one
moment of that run. -/
theorem snapshot_consistent {settings : Settings} {ε : Type} {d : Draws} {db : Database}
    (hseed : (Database.empty settings).saveSnapshot (sandbox d).snapshot = .ok db)
    {P P' : UniformNetwork ar}
    (hrun : UniformNetwork.Goes (.idle db) P) {snapshot : LedgerSnapshot}
    (hload : Prog.ReadsAmid UniformNetwork.answer ChainStays
      (loadSnapshot ar : StoreProg ε LedgerSnapshot) P (.ok snapshot) P') :
    ∃ Q, P.Goes Q ∧ Q.Goes P' ∧ ChainView ar snapshot Q.store := by
  obtain ⟨P₁, ⟨h₁, -⟩, hload⟩ := hload.call_inv
  obtain ⟨P₂, ⟨h₂, -⟩, hload⟩ := hload.call_inv
  obtain ⟨P₃, ⟨h₃, -⟩, hload⟩ := hload.call_inv
  obtain ⟨P₄, ⟨h₄, -⟩, hload⟩ := hload.call_inv
  obtain ⟨P₅, ⟨h₅, -⟩, hload⟩ := hload.call_inv
  obtain ⟨P₆, ⟨h₆, hbalances⟩, hload⟩ := hload.call_inv
  obtain ⟨P₇, ⟨h₇, hcases⟩, hload⟩ := hload.call_inv
  obtain ⟨P₈, ⟨h₈, hblocks⟩, hload⟩ := hload.call_inv
  obtain ⟨P₉, ⟨h₉, -⟩, hload⟩ := hload.call_inv
  obtain ⟨P₁₀, ⟨h₁₀, -⟩, hload⟩ := hload.call_inv
  obtain ⟨hsnapshot, hend, -⟩ := hload.ok_inv
  cases hsnapshot
  have hbefore : P.Goes P₆ :=
    ((((h₁.trans h₂).trans h₃).trans h₄).trans h₅).trans h₆
  have hafter : P₆.Goes P' := (((h₇.trans h₈).trans h₉).trans h₁₀).trans hend
  have hsound : ChainSound ar P₆.store :=
    ((seededOutline ar).sound ((seededOutline ar).holds_idle (chainSound_seeded hseed))
      (hrun.trans hbefore)).1.1
  exact ⟨P₆, hbefore, hafter,
    chainView_of_parts hsound rfl rfl rfl rfl hbalances (hblocks.trans hcases)⟩

/-! ## Torn reads -/

/-- A snapshot whose balances, payments and block rows are of the moments
`a`, `b` and `c`. -/
def mixedSnapshot (ar : Arith) (u a b c : Database) : LedgerSnapshot where
  accounts := u.accountRows
  institutions := u.institutionRows
  institutionCredentials := u.credentialRows
  institutionLimits := u.limitRows
  balances := a.balanceRows
  payments := b.payments
  complianceCases := b.complianceCasePage i64Max 0
  blocks := (PaymentIndex.ofPayments ar b.payments).blocks c.blockRows
  auditEvents := c.auditRows
  journalEntries := c.journalRows
  nonces := (PaymentIndex.ofPayments ar b.payments).nonces
  issued := (PaymentIndex.ofPayments ar b.payments).issued

/-- A load that waits before the balances, the payments and the block rows. -/
theorem readsAmid_mixed {ε : Type} {moves : Option Sql → UniformNetwork ar → UniformNetwork ar → Prop}
    (hrefl : ∀ q P, moves q P P) {P A B C : UniformNetwork ar}
    (hbalances : moves (some (.read .balances)) P A)
    (hpayments : moves (some (.read .payments)) A B)
    (hblocks : moves (some (.read .blocks)) B C) :
    Prog.ReadsAmid UniformNetwork.answer moves (loadSnapshot ar : StoreProg ε LedgerSnapshot) P
      (.ok (mixedSnapshot ar P.store A.store B.store C.store)) C :=
  .call (hrefl _ P) (.call (hrefl _ P) (.call (hrefl _ P) (.call (hrefl _ P)
    (.call hbalances (.call hpayments (.call (hrefl _ B) (.call hblocks (.call (hrefl _ C)
      (.call (hrefl _ C) (.ok (hrefl _ C)))))))))))

/-- A network in which a pass has selected a mint, and the same network after
the pass has committed its block. -/
def exampleSelecting : UniformNetwork .exact :=
  Pool.run Sql.exec (UniformCall.body .exact) (fun _ _ => True)
    (.idle (.seeded (.numbered "seed" 0))) (examplePasses 13)

def exampleCommitted : UniformNetwork .exact :=
  Pool.run Sql.exec (UniformCall.body .exact) (fun _ _ => True) exampleSelecting
    (List.replicate 14 [.tick 1, .tick 2]).flatten

theorem exampleSelecting_goes : UniformNetwork.Goes (.idle (.seeded (.numbered "seed" 0)))
    exampleSelecting := Pool.reaches_run _ _ _ _ _

theorem exampleCommitted_goes : exampleSelecting.Goes exampleCommitted := Pool.reaches_run _ _ _ _ _

/-- A block committed after the balances are read is in the chain and not in
the balances; one committed after the payments are read is in the chain
without its transactions. -/
theorem torn_reads : ∃ (P P' : UniformNetwork .exact) (s s' : LedgerSnapshot),
    UniformNetwork.Goes (.idle (.seeded (.numbered "seed" 0))) P ∧
      Prog.ReadsAmid UniformNetwork.answer (fun _ => UniformNetwork.Goes)
        (loadSnapshot .exact : StoreProg NodeError LedgerSnapshot) P (.ok s) P' ∧
      (fromSnapshot s).balance SANDBOX_CORP_A_ACCOUNT KCAD_TEST = 0 ∧
      (Books.replay (s.blocks.flatMap Block.txs)).balance SANDBOX_CORP_A_ACCOUNT KCAD_TEST = 10 ∧
      Prog.ReadsAmid UniformNetwork.answer (fun _ => UniformNetwork.Goes)
        (loadSnapshot .exact : StoreProg NodeError LedgerSnapshot) P (.ok s') P' ∧
      s'.blocks.map (fun b => (b.height, b.txs.length)) = [(1, 0)] ∧
      P'.store.chain.map (fun b => (b.height, b.txs.length)) = [(1, 1)] :=
  ⟨exampleSelecting, exampleCommitted, _, _, exampleSelecting_goes,
    readsAmid_mixed (fun _ _ => .refl) .refl exampleCommitted_goes .refl,
    by decide +kernel, by decide +kernel,
    readsAmid_mixed (fun _ _ => .refl) .refl .refl exampleCommitted_goes,
    by decide +kernel, by decide +kernel⟩

theorem chainStays_refl (next : Option Sql) (P : UniformNetwork ar) : ChainStays next P P := by
  refine ⟨.refl, ?_⟩
  split
  · exact fun _ _ => rfl
  · rfl
  · rfl
  · trivial

/-- A commit before the balances are read is in every part of the snapshot. -/
theorem snapshot_consistent_example : ∃ Q, exampleSelecting.Goes Q ∧ Q.Goes exampleCommitted ∧
    ChainView .exact (mixedSnapshot .exact exampleSelecting.store exampleCommitted.store
      exampleCommitted.store exampleCommitted.store) Q.store :=
  snapshot_consistent Database.seeded_numbered exampleSelecting_goes
    (readsAmid_mixed (ε := NodeError) chainStays_refl ⟨exampleCommitted_goes, trivial⟩
      (chainStays_refl _ _) (chainStays_refl _ _))

end KaniNetwork
