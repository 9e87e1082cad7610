/-
KaniNetwork.Validator.QueueDrain — every pass of the leader shortens the
queue.

`QueueStep` is what passes do to the payments: what waits may become
FINALIZED or REJECTED, nothing else changes and nothing new waits. A pass
that saves a block puts the payments it has rejected back (`settles_iff`),
but it has finalized at least one then; a pass that accepts nothing has
rejected its batch for good. So a pass of the leader that ends without an
error leaves fewer payments waiting, if there were any
(`Pass.shortens`), and one of another validator changes nothing.
-/
import KaniNetwork.Base.History
import KaniNetwork.Consensus.Rotation
import KaniNetwork.Validator.NonceOrder

namespace KaniNetwork

open InMemoryLedger

/-! ## The queue -/

/-- What passes do to payments. -/
structure QueueStep (db db' : Database) : Prop where
  within : ∀ id, db'.paymentStatus id = some .pending → db.paymentStatus id = some .pending
  outcome : ∀ id, db.paymentStatus id = some .pending →
    db'.paymentStatus id = some .pending ∨ db'.paymentStatus id = some .finalized ∨
      db'.paymentStatus id = some .rejected
  kept : ∀ id status, status ≠ .pending → db.paymentStatus id = some status →
    db'.paymentStatus id = some status

theorem QueueStep.of_eq {db db' : Database} (h : db'.transactions = db.transactions) :
    QueueStep db db' := by
  have hstatus : ∀ id, db'.paymentStatus id = db.paymentStatus id := by
    intro id
    rw [Database.paymentStatus, Database.paymentStatus, h]
  constructor
  · intro id hid
    rwa [hstatus] at hid
  · intro id hid
    exact .inl ((hstatus id).trans hid)
  · intro id status _ hid
    exact (hstatus id).trans hid

theorem QueueStep.trans {db db' db'' : Database} (h : QueueStep db db') (h' : QueueStep db' db'') :
    QueueStep db db'' := by
  refine ⟨fun id hid => h.within id (h'.within id hid), fun id hid => ?_, fun id status hne hid => ?_⟩
  · rcases h.outcome id hid with hst | hst | hst
    · exact h'.outcome id hst
    · exact .inr (.inl (h'.kept id _ nofun hst))
    · exact .inr (.inr (h'.kept id _ nofun hst))
  · exact h'.kept id status hne (h.kept id status hne hid)

/-- A rejection is a step of the queue. -/
theorem QueueStep.reject {db s : Database} (h : QueueStep db s) (id reason : String) (now : DateTime) :
    QueueStep db (s.rejectTransaction id reason now) := by
  refine h.trans ⟨fun id' hid => ?_, fun id' hid => ?_, fun id' status hne hid => ?_⟩
  · rw [Database.rejectTransaction, Database.paymentStatus_updatePayment] at hid
    split at hid
    · cases hid
    · exact hid
  · rw [Database.rejectTransaction, Database.paymentStatus_updatePayment]
    split
    · exact .inr (.inr rfl)
    · exact .inl hid
  · rw [Database.rejectTransaction, Database.paymentStatus_updatePayment, if_neg, hid]
    rintro ⟨-, hpending⟩
    rw [hid] at hpending
    exact hne (Option.some.inj hpending)

/-- A step of the queue after which fewer payments wait, if any did. -/
structure Shortened (db db' : Database) : Prop extends QueueStep db db' where
  fewer : ∀ id, db.paymentStatus id = some .pending →
    ∃ id', db.paymentStatus id' = some .pending ∧ db'.paymentStatus id' ≠ some .pending

theorem Shortened.trans {db db' db'' : Database} (h : Shortened db db') (h' : QueueStep db' db'') :
    Shortened db db'' := by
  refine ⟨h.toQueueStep.trans h', fun id hid => ?_⟩
  obtain ⟨id', hbefore, hafter⟩ := h.fewer id hid
  exact ⟨id', hbefore, fun hst => hafter (h'.within id' hst)⟩

theorem Shortened.of_same {db s s' : Database} (hsame : s.transactions = db.transactions)
    (h : Shortened s s') : Shortened db s' := by
  have hstatus : ∀ id, s.paymentStatus id = db.paymentStatus id := by
    intro id
    rw [Database.paymentStatus, Database.paymentStatus, hsame]
  refine ⟨(QueueStep.of_eq hsame).trans h.toQueueStep, fun id hid => ?_⟩
  rw [← hstatus] at hid
  obtain ⟨id', hbefore, hafter⟩ := h.fewer id hid
  rw [hstatus] at hbefore
  exact ⟨id', hbefore, hafter⟩

/-- The payments that wait. -/
def Database.waiting (db : Database) : List String :=
  (db.transactions.rows.filter fun r => r.status = .pending).map TransactionRow.id

theorem Database.mem_waiting {db : Database} {id : String} :
    id ∈ db.waiting ↔ db.paymentStatus id = some .pending := by
  simp only [waiting, List.mem_map, List.mem_filter, decide_eq_true_eq, paymentStatus,
    Option.map_eq_some_iff]
  constructor
  · rintro ⟨r, ⟨hr, hst⟩, rfl⟩
    exact ⟨r, Table.mem_rows_iff.mp hr, hst⟩
  · rintro ⟨r, hr, hst⟩
    exact ⟨r, ⟨Table.mem_of_find? hr, hst⟩, Table.key_of_find? hr⟩

theorem Database.waiting_nodup (db : Database) : db.waiting.Nodup :=
  db.transactions.nodup.sublist (List.filter_sublist.map _)

theorem QueueStep.length_le {db db' : Database} (h : QueueStep db db') :
    db'.waiting.length ≤ db.waiting.length :=
  (db'.waiting_nodup.subperm fun id hid =>
    Database.mem_waiting.mpr (h.within id (Database.mem_waiting.mp hid))).length_le

theorem Shortened.length_lt {db db' : Database} (h : Shortened db db') (hne : db.waiting ≠ []) :
    db'.waiting.length < db.waiting.length := by
  obtain ⟨id, hid⟩ := List.exists_mem_of_ne_nil _ hne
  obtain ⟨id', hbefore, hafter⟩ := h.fewer id (Database.mem_waiting.mp hid)
  have hcons : (id' :: db'.waiting).Nodup :=
    List.nodup_cons.mpr ⟨fun hin => hafter (Database.mem_waiting.mp hin), db'.waiting_nodup⟩
  have hsub : id' :: db'.waiting ⊆ db.waiting := by
    intro k hk
    rcases List.mem_cons.mp hk with rfl | hk
    · exact Database.mem_waiting.mpr hbefore
    · exact Database.mem_waiting.mpr (h.within k (Database.mem_waiting.mp hk))
  exact (hcons.subperm hsub).length_le

/-! ## A pass -/

/-- What holds at each place of a pass that starts in `db`. -/
def Pass.queueAt (c : Pass) (db : Database) : Phase → Database → Prop
  | .idle, s | .locked, s => SameLedger db s
  | .loaded snapshot, s => SameLedger db s ∧ LoadedAs c.runtime.host.arith db snapshot
  | .selecting snapshot accepted pending, s =>
    LoadedAs c.runtime.host.arith db snapshot ∧ (accepted ++ pending).Sublist (c.batch db) ∧
      QueueStep db s ∧
      ∀ tx ∈ c.batch db, tx ∉ accepted ++ pending → s.paymentStatus tx.id ≠ some .pending
  | .failing _, _ => True
  | .saved _, s => Shortened db s

theorem SameLedger.queueStep {db s : Database} (h : SameLedger db s) : QueueStep db s :=
  .of_eq h.transactions

/-- The batch of a pass waits. -/
theorem Pass.waits_of_mem_batch {c : Pass} {db : Database} {tx : Transaction} (h : tx ∈ c.batch db) :
    db.paymentStatus tx.id = some .pending := by
  obtain ⟨r, hr, hst, -⟩ := Database.of_mem_pendingTransactions h
  rw [Database.paymentStatus, hr, Option.map_some, hst]

/-- The batch is empty only if nothing waits. -/
theorem Pass.batch_ne_nil {c : Pass} {db : Database} {id : String}
    (h : db.paymentStatus id = some .pending) : c.batch db ≠ [] := by
  obtain ⟨r, hr, hst⟩ := Option.map_eq_some_iff.mp h
  have hmem : r ∈ (db.transactions.rows.filter fun r => r.status = .pending).insertionSort
      TransactionRow.Before := by
    rw [List.mem_insertionSort, List.mem_filter, decide_eq_true_eq]
    exact ⟨Table.mem_of_find? hr, hst⟩
  have hmax := c.runtime.max_pos
  intro hnil
  rw [Pass.batch, Database.pendingTransactions, List.map_eq_nil_iff, List.drop_zero,
    List.take_eq_nil_iff] at hnil
  rcases hnil with hzero | hnil
  · omega
  · exact List.ne_nil_of_mem hmem hnil

/-- A batch of which nothing waits any more has made the queue shorter. -/
theorem Shortened.of_batch {c : Pass} {db s : Database} (hstep : QueueStep db s)
    (hdone : ∃ tx ∈ c.batch db, s.paymentStatus tx.id ≠ some .pending) : Shortened db s := by
  obtain ⟨tx, htx, hst⟩ := hdone
  exact ⟨hstep, fun _ _ => ⟨tx.id, c.waits_of_mem_batch htx, hst⟩⟩

/-- What becomes of a payment when a block is saved: it is in the block and
finalized, or as when the pass loaded, or it came after that and is as before
the save. -/
theorem Pass.save_fate {v : ValidatorRuntime} {db s s' : Database} {snapshot : LedgerSnapshot}
    {accepted : List Transaction} {block : Block} {final : InMemoryLedger}
    (hload : LoadedAs v.host.arith db snapshot)
    (hblock : PassBlock v (fromSnapshot snapshot) accepted block final)
    (hsave : s.saveSnapshot final.snapshot = .ok s') (id : String) :
    ((∃ tx ∈ accepted, tx.id = id) ∧ s'.paymentStatus id = some .finalized) ∨
      ((∀ tx ∈ accepted, tx.id ≠ id) ∧ s'.paymentStatus id = db.paymentStatus id) ∨
      (db.paymentStatus id = none ∧ s'.paymentStatus id = s.paymentStatus id) := by
  obtain ⟨u, hu, rfl⟩ := hload
  have hrow := hblock.savedPayment (u := u) rfl hsave id
  simp only [Database.paymentStatus]
  generalize s'.transactions.find? id = row' at hrow ⊢
  rw [← hu.transactions]
  cases hrow with
  | finalized tx now htx hid => exact .inl ⟨⟨tx, htx, hid⟩, by simp [PaymentRecord.finalized]⟩
  | restored row hrow hother => exact .inr (.inl ⟨hother, by simp [hrow]⟩)
  | untouched hnew hother => exact .inr (.inr ⟨by simp [hnew], rfl⟩)

/-- The save of a block finalizes its payments and puts the others back. -/
theorem Pass.save_shortens {c : Pass} {db s s' : Database} {snapshot : LedgerSnapshot}
    {accepted : List Transaction} {block : Block} {final : InMemoryLedger}
    (hsel : c.queueAt db (.selecting snapshot accepted []) s) (hne : accepted ≠ [])
    (hblock : PassBlock c.runtime (fromSnapshot snapshot) accepted block final)
    (hsave : s.saveSnapshot final.snapshot = .ok s') : Shortened db s' := by
  obtain ⟨hload, hsub, hstep, -⟩ := hsel
  rw [List.append_nil] at hsub
  have hfate := Pass.save_fate hload hblock hsave
  have hwaits : ∀ tx ∈ accepted, db.paymentStatus tx.id = some .pending :=
    fun tx htx => c.waits_of_mem_batch (hsub.subset htx)
  have hstep' : QueueStep db s' := by
    refine ⟨fun id hid => ?_, fun id hid => ?_, fun id status hnot hid => ?_⟩
    · rcases hfate id with ⟨-, hfin⟩ | ⟨-, hsame⟩ | ⟨-, hsame⟩
      · rw [hfin] at hid
        cases hid
      · rwa [hsame] at hid
      · exact hstep.within id (hsame.symm.trans hid)
    · rcases hfate id with ⟨-, hfin⟩ | ⟨-, hsame⟩ | ⟨hnone, -⟩
      · exact .inr (.inl hfin)
      · exact .inl (hsame.trans hid)
      · rw [hnone] at hid
        cases hid
    · rcases hfate id with ⟨⟨tx, htx, rfl⟩, -⟩ | ⟨-, hsame⟩ | ⟨hnone, -⟩
      · rw [hwaits tx htx] at hid
        exact absurd (Option.some.inj hid).symm hnot
      · exact hsame.trans hid
      · rw [hnone] at hid
        cases hid
  obtain ⟨tx, htx⟩ := List.exists_mem_of_ne_nil _ hne
  refine .of_batch hstep' ⟨tx, hsub.subset htx, ?_⟩
  rcases hfate tx.id with ⟨-, hfin⟩ | ⟨hother, -⟩ | ⟨hnone, -⟩
  · rw [hfin]
    intro h
    cases h
  · exact absurd rfl (hother tx htx)
  · rw [hwaits tx htx] at hnone
    cases hnone

/-- The assertions of `Pass.queueAt` along a pass that runs alone. -/
def Pass.queueOutline (c : Pass) (db : Database) :
    PassOutline .plain c.runtime c.session Eq (fun _ _ => True) (fun _ _ => True) where
  holds := c.queueAt db
  rely_refl := fun _ => rfl
  rely_trans := fun _ _ _ => Eq.trans
  guar_refl := fun _ => trivial
  stable := fun _ _ _ h hs => hs ▸ h
  bookkeeping := by
    intro ph s t u h
    refine ⟨trivial, ?_⟩
    cases ph with
    | idle => exact SameLedger.withBookkeeping h t u
    | locked => exact SameLedger.withBookkeeping h t u
    | loaded snapshot => exact ⟨h.1.withBookkeeping t u, h.2⟩
    | selecting snapshot accepted pending => exact ⟨h.1, h.2.1, h.2.2.1.trans (.of_eq rfl), h.2.2.2⟩
    | failing txs => trivial
    | saved block => exact h.trans (.of_eq rfl)
  lock := fun _ h _ => ⟨trivial, SameLedger.withLock h _⟩
  load := by
    rintro s s' snapshot h rfl hload
    refine ⟨h, s, h, hload.eq_readSnapshot ?_⟩
    rintro _ ⟨w, -, rfl, rfl⟩
    rfl
  take := by
    rintro s snapshot ⟨hsame, hload⟩
    have hbatch : (DbView.plain.db s).pendingTransactions c.runtime.maxTransactionsPerBlock 0 =
        c.batch db := hsame.batch c
    rw [hbatch]
    exact ⟨hload, List.Sublist.refl _, hsame.queueStep, fun tx htx hout => absurd htx hout⟩
  accept := by
    rintro s snapshot accepted tx pending h _
    rwa [Pass.queueAt, List.append_assoc, List.singleton_append]
  reject := by
    rintro s snapshot accepted tx pending e now ⟨hload, hsub, hstep, hdone⟩ -
    refine ⟨trivial, hload, ?_, hstep.reject _ _ _, fun tx' htx' hout => ?_⟩
    · exact (List.Sublist.append_left (List.sublist_cons_self tx pending) accepted).trans hsub
    · show (Database.rejectTransaction _ _ _ s).paymentStatus tx'.id ≠ some .pending
      rw [Database.rejectTransaction, Database.paymentStatus_updatePayment]
      split
      · nofun
      · rename_i hnot
        by_cases heq : tx' = tx
        · subst heq
          exact fun hst => hnot ⟨rfl, hst⟩
        · refine hdone tx' htx' fun hin => ?_
          simp_all
  save := fun _ _ _ _ _ _ h hne hblock _ hsave => ⟨trivial, Pass.save_shortens h hne hblock hsave⟩
  fail := fun _ _ _ _ => trivial
  failReject := fun _ _ _ _ _ => ⟨trivial, trivial⟩
  unlock := fun _ _ => trivial
  savedUnlock := fun _ _ h => h.trans (.of_eq rfl)

theorem LoadedAs.nextHeight {ar : Arith} {db : Database} {snapshot : LedgerSnapshot}
    (h : LoadedAs ar db snapshot) :
    (fromSnapshot snapshot).nextHeight = (fromSnapshot (readSnapshot ar db)).nextHeight := by
  obtain ⟨_, ⟨_, _, _, rfl⟩, rfl⟩ := h
  rfl

theorem SameLedger.loadedAs {ar : Arith} {db s : Database} {snapshot : LedgerSnapshot}
    (h : SameLedger db s)
    (hload : LoadedFrom ar (fun u => ∃ w, s = w ∧ w = s ∧ DbView.plain.db w = u) snapshot) :
    LoadedAs ar db snapshot := by
  refine ⟨s, h, hload.eq_readSnapshot ?_⟩
  rintro _ ⟨w, rfl, -, rfl⟩
  rfl

/-- Producing a block ends in an error or with the block. -/
theorem ValidatorRuntime.produceBlock_ends (v : ValidatorRuntime) (d : Draws)
    (ledger : InMemoryLedger) (accepted : List Transaction) (h : History Sql Sql.Reply) :
    (v.produceBlock d ledger accepted).Follows (fun _ _ => True) (fun _ r => r ≠ .ok none) h := by
  refine .ofExcept_bind (fun _ _ => nofun) fun block _ => ?_
  refine .ofExcept_bind (fun _ _ => nofun) fun _ _ => ?_
  split
  · refine .bind (Prog.follows_of_forall (fun _ _ => trivial) fun _ r => ?_)
    cases r <;> exact nofun
  · refine .bind (Prog.follows_of_forall (fun _ _ => trivial) fun h r => ?_)
    cases r with
    | error e => exact nofun
    | ok u =>
      refine .bind (Prog.follows_of_forall (fun _ _ => trivial) fun _ r => ?_)
      cases r <;> exact nofun

/-- How a pass that ends without an error leaves the ledger of `db`. -/
def Pass.Advances (c : Pass) (db : Database) (r : Except NodeError (Option Block)) (s : Database) :
    Prop :=
  ∀ b, r = .ok b → (SameLedger db s ∧ ¬ c.Leads db) ∨ Shortened db s

theorem Pass.advances_error (c : Pass) (db : Database) (e : NodeError) (s : Database) :
    c.Advances db (.error e) s :=
  fun _ hr => nomatch hr

/-- A pass that does not find its validator leading changes nothing. -/
theorem Pass.advances_of_other {c : Pass} {db s : Database} {snapshot : LedgerSnapshot}
    {leader : Validator} (h : SameLedger db s)
    (hload : LoadedAs c.runtime.host.arith db snapshot)
    (hleader : (c.runtime.consensus.leaderForHeight (fromSnapshot snapshot).nextHeight).mapError
      NodeError.consensus = .ok leader) (hother : leader.id ≠ c.runtime.validatorId) :
    c.Advances db (.ok none) s := by
  refine fun _ _ => .inl ⟨h, ?_⟩
  rintro ⟨leader', hleader', hid⟩
  rw [hload.nextHeight] at hleader
  rw [Pass.ledger] at hleader'
  rw [hleader'] at hleader
  cases hleader
  exact hother hid

/-- The part that holds the lock. -/
theorem Pass.runOnceWithBlockLock_advances (c : Pass) {db s₀ : Database} (h : SameLedger db s₀)
    (d : Draws) :
    (c.runtime.runOnceWithBlockLock d).Safe Sql.exec Eq (fun _ _ => True) (fun _ _ => True)
      (c.Advances db) s₀ := by
  refine loadSnapshot_safe DbView.plain (fun _ => trivial) (fun _ => rfl) (fun _ _ _ => Eq.trans)
    fun s snapshot hs hload => ?_
  subst hs
  have hloaded : LoadedAs c.runtime.host.arith db snapshot := h.loadedAs hload
  refine .ofExcept_bind (fun e _ s _ => c.advances_error db e s) fun leader hleader => ?_
  split
  · rename_i hother
    rintro _ rfl
    exact Pass.advances_of_other h hloaded hleader hother
  refine DbView.plain.safe_query (fun _ => trivial) fun _ hu => ?_
  subst hu
  split
  · -- nothing waits
    rename_i hempty
    rintro _ rfl
    refine fun _ _ => .inr ⟨h.queueStep, fun id hid => absurd ?_ (c.batch_ne_nil hid)⟩
    rw [← h.batch c]
    exact List.isEmpty_iff.mp hempty
  refine (c.queueOutline db).safe_selectBatch (fun e s _ => c.advances_error db e s)
    ((c.queueOutline db).take _ snapshot ⟨h, hloaded⟩) fun w accepted hw => ?_
  split
  · -- the whole batch has been rejected
    rename_i hempty
    rintro _ rfl
    obtain ⟨-, -, hstep, hdone⟩ := hw
    refine fun _ _ => .inr ⟨hstep, fun id hid => ?_⟩
    obtain ⟨tx, htx⟩ := List.exists_mem_of_ne_nil _ (c.batch_ne_nil hid)
    rw [List.isEmpty_iff.mp hempty] at hdone
    exact ⟨tx.id, c.waits_of_mem_batch htx, hdone tx htx List.not_mem_nil⟩
  · rename_i hne
    refine (((c.queueOutline db).safe_produceBlock hw (by simpa using hne)).and_end
      (c.runtime.produceBlock_ends _ _ _ [])).mono (fun _ _ hs => hs) (fun _ _ hs => hs)
      (fun _ _ hs => hs) ?_
    rintro r s ⟨hpost, hend⟩ b rfl
    cases b with
    | none => exact absurd rfl hend
    | some block => exact .inr (hpost.1 block rfl)

theorem Pass.Advances.unlock {c : Pass} {db s : Database} {r : Except NodeError (Option Block)}
    (h : c.Advances db r s) : c.Advances db r { s with blockProductionLock := none } := by
  intro b hr
  rcases h b hr with ⟨hsame, hother⟩ | hshort
  · exact .inl ⟨hsame.withLock none, hother⟩
  · exact .inr (hshort.trans (.of_eq rfl))

/-- How a pass that finds the lock free ends: an end without an error leaves
the lock free. -/
def Pass.Frees (c : Pass) (db : Database) (r : Except NodeError (Option Block)) (s : Database) :
    Prop :=
  c.Advances db r s ∧ ∀ b, r = .ok b → s.blockProductionLock = none

theorem Pass.frees_error (c : Pass) (db : Database) (e : NodeError) (s : Database) :
    c.Frees db (.error e) s :=
  ⟨c.advances_error db e s, fun _ hr => nomatch hr⟩

/-- The part that holds the lock, and its release. -/
theorem Pass.runLocked_frees (c : Pass) {db s₀ : Database} (h : SameLedger db s₀) (d : Draws) :
    (c.runtime.runLocked c.session d).Safe Sql.exec Eq (fun _ _ => True) (fun _ _ => True)
      (c.Frees db) s₀ := by
  refine .bind (.attempt ((c.runOnceWithBlockLock_advances h d).mono (fun _ _ h => h)
    (fun _ _ h => h) (fun _ _ h => h) fun result s hpost => ?_)) (fun _ => rfl)
  rintro _ rfl -
  rcases hunlock : Database.unlock c.session s with ⟨s', released⟩
  have hrun : Statement.run s (.unlock c.session) = .ok (s', released) := by rw [← hunlock]; rfl
  rw [Sql.exec_write_ok hrun]
  refine ⟨trivial, ?_⟩
  rcases Database.unlock_eq hunlock with ⟨rfl, -, rfl⟩ | ⟨rfl, -, rfl⟩
  · cases result with
    | error e =>
      rintro _ rfl
      exact c.frees_error db e _
    | ok b =>
      rintro _ rfl
      exact ⟨hpost.unlock, fun _ _ => rfl⟩
  · cases result with
    | error e =>
      rintro _ rfl
      exact c.frees_error db e _
    | ok b =>
      rintro _ rfl
      exact c.frees_error db _ _

/-- A pass that finds the lock free and ends without an error leaves it free
and, when its validator leads, leaves fewer payments waiting, if any waited. -/
theorem Pass.shortens (c : Pass) {db : Database} (hfree : db.blockProductionLock = none) :
    c.body.Safe Sql.exec Eq (fun _ _ => True) (fun _ _ => True) (c.Frees db) db := by
  refine safe_execute_run (fun _ => trivial) (fun _ _ _ _ hrun => by cases hrun)
    fun _ s _ hs _ hrun => ?_
  have hsame : SameLedger db s := by
    cases hs
    cases hrun
    exact ⟨_, _, _, rfl⟩
  have hlock : s.blockProductionLock = none := by
    cases hs
    cases hrun
    exact hfree
  refine ⟨trivial, ?_⟩
  refine loadSnapshot_safe DbView.plain (fun _ => trivial) (fun _ => rfl) (fun _ _ _ => Eq.trans)
    fun _ snapshot hs hload => ?_
  subst hs
  refine .ofExcept_bind (fun e _ s _ => c.frees_error db e s) fun leader hleader => ?_
  split
  · rename_i hother
    rintro _ rfl
    exact ⟨Pass.advances_of_other hsame (hsame.loadedAs hload) hleader hother, fun _ _ => hlock⟩
  refine safe_execute_run (fun _ => trivial) (fun _ _ _ _ hrun => by cases hrun)
    fun u u' acquired hu _ hrun => ?_
  subst hu
  refine ⟨trivial, ?_⟩
  rcases Database.tryLock_eq (Except.ok.inj hrun) with ⟨rfl, -, rfl⟩ | ⟨-, -, holder, hheld, -⟩
  · exact c.runLocked_frees (hsame.withLock _) _
  · rw [hlock] at hheld
    cases hheld

end KaniNetwork
