/-
KaniNetwork.Node.FinalizedPayments — what is finalized, three times over.

A finalized transaction is written into the payments, into a block and into
the audit log. `FinalityAgrees` is the invariant that the three say the
same: the chain has every transaction id once, its records are the
finalized ones, and the audit log lists its transactions and its blocks in
order. Hold, approve and reject write the payments too; they miss the
finalized records because a case never has one (`CasesMatch`) and a new
payment has a new id.
-/
import KaniNetwork.Ledger.ReplayProtection
import KaniNetwork.Node.CaseLifecycle
import KaniNetwork.Node.ChainIntegrity

namespace KaniNetwork

open InMemoryLedger

/-- The events of one type, in order. -/
def eventsOf (eventType : String) (events : List AuditEvent) : List AuditEvent :=
  events.filter fun e => e.eventType = eventType

/-- The payments, as far as they are finalized. -/
def InMemoryLedger.finalizedPayments (l : InMemoryLedger) : List PaymentRecord :=
  l.payments.values.filter fun p => p.status = .finalized

/-- A call that is not asked to record an event of a block or of one of its
transactions. -/
def NodeOp.NoFinalityEvent (op : NodeOp) : Prop :=
  ∀ e ∈ op.recordedEvents, e.eventType ≠ "TRANSACTION_FINALIZED" ∧ e.eventType ≠ "BLOCK_FINALIZED"

/-- The record `p` of the transaction `tx` says that the block has it. -/
structure RecordedIn (block : Block) (tx : Transaction) (p : PaymentRecord) : Prop where
  status : p.status = .finalized
  transaction : p.transaction = tx
  height : p.blockHeight = some block.height
  hash : p.blockHash = some block.hash

/-- Payments, blocks and audit log agree on what is finalized. -/
structure FinalityAgrees (l : InMemoryLedger) : Prop where
  ids_nodup : (l.chainTransactions.map Transaction.id).Nodup
  recorded : ∀ block ∈ l.blocks, ∀ tx ∈ block.txs,
    ∃ p, l.payments.lookup tx.id = some p ∧ RecordedIn block tx p
  contained : ∀ id p, l.payments.lookup id = some p → p.status = .finalized →
    id ∈ l.chainTransactions.map Transaction.id
  transaction_events : (eventsOf "TRANSACTION_FINALIZED" l.auditEvents).map
    AuditEvent.transactionId = l.chainTransactions.map fun tx => some tx.id
  block_events : (eventsOf "BLOCK_FINALIZED" l.auditEvents).map AuditEvent.blockHeight =
    l.blocks.map fun block => some block.height

/-- A finalized record stays as it is. -/
def FinalizedKept (l l' : InMemoryLedger) : Prop :=
  ∀ id p, l.payments.lookup id = some p → p.status = .finalized →
    l'.payments.lookup id = some p

/-! ## The events of a block -/

theorem eventsOf_append (eventType : String) (xs ys : List AuditEvent) :
    eventsOf eventType (xs ++ ys) = eventsOf eventType xs ++ eventsOf eventType ys :=
  List.filter_append ..

theorem eventsOf_transaction_finalizationEvents (height : Int) (d : Draws)
    (records : List PaymentRecord) :
    (eventsOf "TRANSACTION_FINALIZED" (finalizationEvents height d records)).map
        AuditEvent.transactionId = records.map fun r => some r.transaction.id := by
  induction records generalizing d with
  | nil => rfl
  | cons r records ih => exact congrArg (some r.transaction.id :: ·) (ih _)

theorem eventsOf_block_finalizationEvents (height : Int) (d : Draws)
    (records : List PaymentRecord) :
    eventsOf "BLOCK_FINALIZED" (finalizationEvents height d records) = [] := by
  induction records generalizing d with
  | nil => rfl
  | cons r records ih => exact ih _

/-- What a produced block added to the three. -/
structure Settles (l l' : InMemoryLedger) (block : Block) (tx : Transaction) (p : PaymentRecord) :
    Prop where
  blocks : l'.blocks = l.blocks ++ [block]
  txs : block.txs = [tx]
  recorded : RecordedIn block tx p
  transaction_events : (eventsOf "TRANSACTION_FINALIZED" l'.auditEvents).map
    AuditEvent.transactionId =
      (eventsOf "TRANSACTION_FINALIZED" l.auditEvents).map AuditEvent.transactionId ++ [some tx.id]
  block_events : (eventsOf "BLOCK_FINALIZED" l'.auditEvents).map AuditEvent.blockHeight =
    (eventsOf "BLOCK_FINALIZED" l.auditEvents).map AuditEvent.blockHeight ++ [some block.height]

theorem KaniNode.Produced.settles {n : KaniNode} {l l' : InMemoryLedger} {tx : Transaction}
    {p : PaymentRecord} (h : n.Produced l tx l' p) : ∃ block, Settles l l' block tx p := by
  obtain ⟨block, d, records, -, htxs, happlied, hhead⟩ := h.block
  obtain ⟨event, htype, hheight, hevents⟩ := happlied.audit_eq
  have hrecords := happlied.records_eq
  rw [htxs] at hrecords
  simp only [finalizedRecords] at hrecords
  subst hrecords
  cases hhead
  refine ⟨block, happlied.blocks_eq, htxs, ⟨rfl, rfl, rfl, rfl⟩, ?_, ?_⟩
  · have hother : eventsOf "TRANSACTION_FINALIZED" [event] = [] := by
      simp [eventsOf, htype]
    rw [hevents, eventsOf_append, eventsOf_append, hother, List.append_nil, List.map_append,
      eventsOf_transaction_finalizationEvents]
    rfl
  · have hown : eventsOf "BLOCK_FINALIZED" [event] = [event] := by
      simp [eventsOf, htype]
    rw [hevents, eventsOf_append, eventsOf_append, hown, eventsOf_block_finalizationEvents,
      List.append_nil, List.map_append, List.map_singleton, hheight]

/-! ## One call -/

/-- The same blocks, the same events of the two types, and the same
finalized records: nothing to show. -/
theorem FinalityAgrees.of_kept {l l' : InMemoryLedger} (h : FinalityAgrees l)
    (hblocks : l'.blocks = l.blocks) (hkept : FinalizedKept l l') (hback : FinalizedKept l' l)
    (htx : eventsOf "TRANSACTION_FINALIZED" l'.auditEvents =
      eventsOf "TRANSACTION_FINALIZED" l.auditEvents)
    (hblock : eventsOf "BLOCK_FINALIZED" l'.auditEvents =
      eventsOf "BLOCK_FINALIZED" l.auditEvents) : FinalityAgrees l' := by
  have hchain : l'.chainTransactions = l.chainTransactions := by
    rw [chainTransactions, hblocks, chainTransactions]
  constructor
  · rw [hchain]
    exact h.ids_nodup
  · rw [hblocks]
    intro block hmem tx htx
    obtain ⟨p, hp, hrec⟩ := h.recorded block hmem tx htx
    exact ⟨p, hkept _ p hp hrec.status, hrec⟩
  · rw [hchain]
    exact fun id p hp hstatus => h.contained id p (hback id p hp hstatus) hstatus
  · rw [htx, hchain]
    exact h.transaction_events
  · rw [hblock, hblocks]
    exact h.block_events

/-- Writing a record that is not finalized over one that is not keeps the
finalized ones, in both directions. -/
theorem finalizedKept_file {l : InMemoryLedger} (p : PaymentRecord) (c : ComplianceCase)
    (hold : ∀ q, l.payments.lookup p.transaction.id = some q → q.status ≠ .finalized)
    (hnew : p.status ≠ .finalized) :
    FinalizedKept l (l.filePaymentAndCase p c) ∧ FinalizedKept (l.filePaymentAndCase p c) l := by
  constructor
  · intro id q hq hstatus
    rw [lookup_payments_file, if_neg, hq]
    rintro rfl
    exact hold q hq hstatus
  · intro id q hq hstatus
    rw [lookup_payments_file] at hq
    split at hq
    · cases hq
      exact absurd hstatus hnew
    · exact hq

/-- A block with a new transaction adds it to each of the three. -/
theorem FinalityAgrees.produced {n : KaniNode} {l l' : InMemoryLedger} {tx : Transaction}
    {p : PaymentRecord} (h : FinalityAgrees l) (hblock : n.Produced l tx l' p)
    (hnone : l.payments.lookup tx.id = none) : FinalityAgrees l' ∧ FinalizedKept l l' := by
  obtain ⟨block, hsettles⟩ := hblock.settles
  have hchain : l'.chainTransactions = l.chainTransactions ++ [tx] := by
    simp [chainTransactions, hsettles.blocks, hsettles.txs]
  have hkept : FinalizedKept l l' := by
    intro id q hq _
    rw [hblock.lookup, if_neg, hq]
    rintro rfl
    rw [hnone] at hq
    cases hq
  refine ⟨⟨?_, ?_, ?_, ?_, ?_⟩, hkept⟩
  · rw [hchain, List.map_append, List.map_singleton, List.nodup_append]
    refine ⟨h.ids_nodup, List.nodup_singleton _, ?_⟩
    intro id hmem id' hid' hsame
    rw [List.mem_singleton] at hid'
    -- a transaction of the chain has a record, and the new id has none
    obtain ⟨tx', htx', rfl⟩ := List.mem_map.mp hmem
    obtain ⟨block', hblock', hin⟩ := List.mem_flatMap.mp htx'
    obtain ⟨q, hq, -⟩ := h.recorded block' hblock' tx' hin
    rw [hsame, hid', hnone] at hq
    cases hq
  · rw [hsettles.blocks]
    intro block' hmem tx' htx'
    rcases List.mem_append.mp hmem with hmem | hmem
    · obtain ⟨q, hq, hrec⟩ := h.recorded block' hmem tx' htx'
      exact ⟨q, hkept _ q hq hrec.status, hrec⟩
    · rw [List.mem_singleton] at hmem
      subst hmem
      rw [hsettles.txs, List.mem_singleton] at htx'
      subst htx'
      exact ⟨p, by rw [hblock.lookup, if_pos rfl], hsettles.recorded⟩
  · intro id q hq hstatus
    rw [hchain, List.map_append, List.mem_append]
    rw [hblock.lookup] at hq
    split at hq
    · rename_i heq
      exact .inr (by simp [heq])
    · exact .inl (h.contained id q hq hstatus)
  · rw [hsettles.transaction_events, h.transaction_events, hchain, List.map_append]
    rfl
  · rw [hsettles.block_events, h.block_events, hsettles.blocks, List.map_append]
    rfl

/-- A call with a fresh transaction id keeps the three in agreement and
every finalized record. -/
theorem finalityAgrees_effect {n : KaniNode} {op : NodeOp} {l l' : InMemoryLedger}
    (he : n.Effect op l l') (hfresh : op.Fresh l) (hquiet : op.NoFinalityEvent) (hkeyed : Keyed l)
    (hmatch : CasesMatch l) (h : FinalityAgrees l) : FinalityAgrees l' ∧ FinalizedKept l l' := by
  cases he with
  | unchanged => exact ⟨h, fun _ _ hp _ => hp⟩
  | admin _ hpayments _ hblocks hevents =>
    have hother : ∀ eventType, (∀ e ∈ op.recordedEvents, e.eventType ≠ eventType) →
        eventsOf eventType l'.auditEvents = eventsOf eventType l.auditEvents := by
      intro eventType hne
      have hnone : eventsOf eventType op.recordedEvents = [] := by
        rw [eventsOf, List.filter_eq_nil_iff]
        intro e he
        simpa using hne e he
      rw [hevents, eventsOf_append, hnone, List.append_nil]
    have hkept : FinalizedKept l l' := fun id p hp _ => by rw [hpayments, hp]
    have hback : FinalizedKept l' l := fun id p hp _ => by rw [← hpayments, hp]
    exact ⟨h.of_kept hblocks hkept hback (hother _ fun e he => (hquiet e he).1)
      (hother _ fun e he => (hquiet e he).2), hkept⟩
  | resolved caseId c c' p p' hc _ hp hres =>
    have hid : p'.transaction.id = c.paymentId := by
      rw [hres.transaction, hkeyed.filed _ p hp]
    obtain ⟨q, hq, hphase⟩ := hmatch.payment caseId c hc
    obtain ⟨hkept, hback⟩ := finalizedKept_file p' c'
      (fun q' hq' => by
        rw [hid, hq] at hq'
        cases hq'
        exact hphase.not_finalized) hres.phase.not_finalized
    exact ⟨h.of_kept rfl hkept hback rfl rfl, hkept⟩
  | held p c hid _ _ hheld _ _ =>
    have hnone := hfresh _ hid
    obtain ⟨hkept, hback⟩ := finalizedKept_file p c
      (fun q hq => by
        rw [hnone] at hq
        cases hq) (by rw [hheld]; simp)
    exact ⟨h.of_kept rfl hkept hback rfl rfl, hkept⟩
  | produced tx _ p hid _ hblock => exact h.produced hblock (hfresh _ hid)

/-! ## Runs -/

theorem finalityAgrees_run {n : KaniNode} {l : InMemoryLedger} {ops : List NodeOp}
    (hkeyed : Keyed l) (hmatch : CasesMatch l) (h : FinalityAgrees l) (hfresh : n.FreshRun l ops)
    (hquiet : ∀ op ∈ ops, op.NoFinalityEvent) :
    FinalityAgrees (n.run l ops) ∧ FinalizedKept l (n.run l ops) := by
  induction ops generalizing l with
  | nil => exact ⟨h, fun _ _ hp _ => hp⟩
  | cons op ops ih =>
    obtain ⟨hop, hrest⟩ := hfresh
    obtain ⟨hop_quiet, hrest_quiet⟩ := List.forall_mem_cons.mp hquiet
    obtain ⟨hagrees, hkept⟩ :=
      finalityAgrees_effect (n.step_effect l op) hop hop_quiet hkeyed hmatch h
    obtain ⟨hagrees', hkept'⟩ := ih (keyed_transition (n.step_transition l op) hop hkeyed).1
      (casesMatch_effect (n.step_effect l op) hop hkeyed hmatch) hagrees hrest hrest_quiet
    exact ⟨hagrees', fun id p hp hstatus => hkept' id p (hkept id p hp hstatus) hstatus⟩

theorem finalityAgrees_sandbox (d : Draws) : FinalityAgrees (sandbox d) := by
  refine ⟨List.nodup_nil, fun _ hmem => absurd hmem List.not_mem_nil, ?_, rfl, rfl⟩
  intro id p hp
  rw [sandbox_payments, AList.lookup_empty] at hp
  cases hp

/-- The finalized records are those of the transactions of the chain. -/
theorem FinalityAgrees.perm {l : InMemoryLedger} (h : FinalityAgrees l) (hkeyed : Keyed l) :
    (l.finalizedPayments.map fun p => p.transaction.id).Perm
      (l.chainTransactions.map Transaction.id) := by
  have hnodup : (l.finalizedPayments.map fun p => p.transaction.id).Nodup :=
    (HashMap.nodup_map_values hkeyed.filed).sublist (List.filter_sublist.map _)
  rw [List.perm_ext_iff_of_nodup hnodup h.ids_nodup]
  intro id
  constructor
  · intro hmem
    obtain ⟨p, hp, rfl⟩ := List.mem_map.mp hmem
    obtain ⟨hvalue, hstatus⟩ := List.mem_filter.mp hp
    obtain ⟨id, hlookup⟩ := HashMap.mem_values.mp hvalue
    rw [hkeyed.filed id p hlookup]
    exact h.contained id p hlookup (of_decide_eq_true hstatus)
  · intro hmem
    obtain ⟨tx, htx, rfl⟩ := List.mem_map.mp hmem
    obtain ⟨block, hblock, hin⟩ := List.mem_flatMap.mp htx
    obtain ⟨p, hp, hrec⟩ := h.recorded block hblock tx hin
    refine List.mem_map.mpr ⟨p, List.mem_filter.mpr ⟨HashMap.mem_values.mpr ⟨_, hp⟩, ?_⟩, ?_⟩
    · exact decide_eq_true hrec.status
    · rw [hrec.transaction]

/-- A finalized record names a block that has its transaction. -/
theorem FinalityAgrees.block_of_finalized {l : InMemoryLedger} (h : FinalityAgrees l)
    {id : String} {p : PaymentRecord} (hp : l.payments.lookup id = some p)
    (hstatus : p.status = .finalized) :
    ∃ block ∈ l.blocks, p.transaction ∈ block.txs ∧ RecordedIn block p.transaction p := by
  obtain ⟨tx, htx, rfl⟩ := List.mem_map.mp (h.contained id p hp hstatus)
  obtain ⟨block, hblock, hin⟩ := List.mem_flatMap.mp htx
  obtain ⟨q, hq, hrec⟩ := h.recorded block hblock tx hin
  rw [hp] at hq
  cases hq
  exact ⟨block, hblock, hrec.transaction.symm ▸ hin, hrec.status, rfl, hrec.height, hrec.hash⟩

/-- The heights of a chain in order are distinct. -/
theorem ChainOk.heights_nodup {n : KaniNode} {blocks : List Block} (h : ChainOk n blocks) :
    (blocks.map Block.height).Nodup := by
  rw [List.Nodup, List.pairwise_map, List.pairwise_iff_getElem]
  intro i j hi hj hlt
  have hheight_i := (h i _ (List.getElem?_eq_getElem hi)).height
  have hheight_j := (h j _ (List.getElem?_eq_getElem hj)).height
  omega

/-- **Finalized payments, blocks and audit trail agree.** In every run from
the sandbox whose calls draw fresh transaction ids and record no event of
the two types by hand, the finalized payments, the transactions of the
chain and the `TRANSACTION_FINALIZED` events have the same ids, each once;
a finalized record names the block that has its transaction; the
`BLOCK_FINALIZED` events have the heights of the blocks, which are
distinct; and a finalized record never changes. -/
theorem finalized_payments_agree {n : KaniNode} {d₀ : Draws} {ops : List NodeOp}
    (hfresh : n.FreshRun (sandbox d₀) ops) (hquiet : ∀ op ∈ ops, op.NoFinalityEvent) :
    let l := n.run (sandbox d₀) ops
    (l.chainTransactions.map Transaction.id).Nodup ∧
      (l.finalizedPayments.map fun p => p.transaction.id).Perm
        (l.chainTransactions.map Transaction.id) ∧
      (eventsOf "TRANSACTION_FINALIZED" l.auditEvents).map AuditEvent.transactionId =
        l.chainTransactions.map (fun tx => some tx.id) ∧
      (∀ id p, l.payments.lookup id = some p → p.status = .finalized →
        ∃ block ∈ l.blocks, p.transaction ∈ block.txs ∧ RecordedIn block p.transaction p) ∧
      (eventsOf "BLOCK_FINALIZED" l.auditEvents).map AuditEvent.blockHeight =
        l.blocks.map (fun block => some block.height) ∧
      (l.blocks.map Block.height).Nodup ∧
      ∀ before after, ops = before ++ after → FinalizedKept (n.run (sandbox d₀) before) l := by
  intro l
  have hkeyed : Keyed l := (keyed_run (keyed_sandbox d₀) hfresh).1
  obtain ⟨hagrees, -⟩ : FinalityAgrees l ∧ _ := finalityAgrees_run (keyed_sandbox d₀)
    (casesMatch_sandbox d₀) (finalityAgrees_sandbox d₀) hfresh hquiet
  refine ⟨hagrees.ids_nodup, hagrees.perm hkeyed, hagrees.transaction_events,
    fun id p hp => hagrees.block_of_finalized hp, hagrees.block_events,
    (chainOk_run n d₀ ops).heights_nodup, ?_⟩
  rintro before after rfl
  obtain ⟨hbefore, hafter⟩ := hfresh.append
  have hquiet_before : ∀ op ∈ before, op.NoFinalityEvent :=
    fun op hop => hquiet op (List.mem_append_left _ hop)
  -- the invariants at the end of the first part, then the second part
  have hkeyed₁ := (keyed_run (keyed_sandbox d₀) hbefore).1
  have hmatch₁ := casesMatch_run (keyed_sandbox d₀) (casesMatch_sandbox d₀) hbefore
  have hagrees₁ := (finalityAgrees_run (keyed_sandbox d₀) (casesMatch_sandbox d₀)
    (finalityAgrees_sandbox d₀) hbefore hquiet_before).1
  have hkept := (finalityAgrees_run hkeyed₁ hmatch₁ hagrees₁ hafter
    fun op hop => hquiet op (List.mem_append_right _ hop)).2
  have hrun : l = n.run (n.run (sandbox d₀) before) after := List.foldl_append
  rw [hrun]
  exact hkept

/-- The three transactions of the example run are finalized, in order. -/
theorem finalized_payments_agree_example :
    let l := exampleNode.run (sandbox (.numbered "s" 0)) exampleOps
    (eventsOf "TRANSACTION_FINALIZED" l.auditEvents).map AuditEvent.transactionId =
        [some (uuidNamed "a-0"), some (uuidNamed "b-0"), some (uuidNamed "c-0")] ∧
      (l.finalizedPayments.map fun p => p.transaction.id).Perm
        [uuidNamed "a-0", uuidNamed "b-0", uuidNamed "c-0"] := by
  intro l
  have hquiet : ∀ op ∈ exampleOps, op.NoFinalityEvent := by
    intro op hop
    simp only [exampleOps, List.mem_cons, List.not_mem_nil, or_false] at hop
    rcases hop with rfl | rfl | rfl <;> exact fun e he => absurd he List.not_mem_nil
  obtain ⟨-, hperm, hevents, -⟩ := finalized_payments_agree exampleOps_fresh hquiet
  have hids : l.chainTransactions.map Transaction.id =
      [uuidNamed "a-0", uuidNamed "b-0", uuidNamed "c-0"] := by
    decide +kernel
  have hsome : l.chainTransactions.map (fun tx => some tx.id) =
      (l.chainTransactions.map Transaction.id).map some := List.map_map.symm
  exact ⟨by rw [hevents, hsome, hids]; rfl, hids ▸ hperm⟩

end KaniNetwork
