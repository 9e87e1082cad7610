/-
KaniNetwork.Validator.Sweep — the sweep job drains the queue.

`kani-node` in sweep mode connects as one validator after the other and
runs a pass as each. When the ids name every active validator, one of them
leads the next height, so its pass shortens the queue (`Pass.shortens`) and
the others leave it alone or shorten it further (`Sweep.shortens`). As many
sweeps as payments wait therefore leave nothing waiting (`sweeps_drain`),
whatever the size of a block and however the batches mix; and each payment
that waited is FINALIZED or REJECTED then.
-/
import KaniNetwork.Validator.HonestLeader
import KaniNetwork.Validator.QueueDrain
import KaniNetwork.Validator.Seeding

namespace KaniNetwork

open InMemoryLedger

/-! ## The job -/

/-- `parse_validator_ids`. -/
def parseValidatorIds (value : Option String) (fallbackValidatorId : String) : List String :=
  let ids := (((value.getD fallbackValidatorId).toList.splitOn ',').map fun cs =>
    trim (String.ofList cs)).filter fun id => !id.isEmpty
  if ids.isEmpty then [fallbackValidatorId] else ids

/-- `run_validator_once`: whether the pass finalized a block. -/
def runValidatorOnce (validator : ValidatorRuntime) (session : Session) (d : Draws) :
    StoreProg NodeError Bool := do
  let block ← validator.runOnce session d
  return block.isSome

/-- The loop of the sweep: connect, which seeds the database, and run a pass
as each validator. It counts the blocks. -/
def sweepAs (host : Host) (maxTransactionsPerBlock : Int) :
    Session → Draws → List String → StoreProg NodeError Nat
  | _, _, [] => return 0
  | session, d, validatorId :: validatorIds => do
    (ensureSandboxSeed host.arith (d.sub 0)).mapError .storage
    let validator := (ValidatorRuntime.connect host validatorId).withMaxTransactionsPerBlock
      maxTransactionsPerBlock
    let finalized ← runValidatorOnce validator session (d.sub 1)
    let finalizedBlocks ← sweepAs host maxTransactionsPerBlock (session + 1) (d.sub 2) validatorIds
    return (if finalized then finalizedBlocks + 1 else finalizedBlocks)

/-- One run of the job, with its settings. -/
structure Sweep where
  host : Host
  maxTransactionsPerBlock : Int
  validatorIds : Option String
  validatorId : String
  session : Session
  draws : Draws

namespace Sweep

def ids (j : Sweep) : List String := parseValidatorIds j.validatorIds j.validatorId

def body (j : Sweep) : StoreProg NodeError Nat :=
  sweepAs j.host j.maxTransactionsPerBlock j.session j.draws j.ids

/-- The ids name every active validator. -/
def Covers (j : Sweep) : Prop := ∀ v ∈ phase1Engine.activeValidators, v.id ∈ j.ids

/-- Alone on `db`, the job ends without an error. -/
def Ends (j : Sweep) (db : Database) : Prop := (j.body.exec Sql.exec db).2.isOk = true

end Sweep

/-! ## One sweep -/

/-- What the lock, the queue and the leader of the next height depend on. -/
structure SameQueue (db s : Database) : Prop where
  transactions : s.transactions = db.transactions
  blocks : s.blocks = db.blocks
  lock : s.blockProductionLock = db.blockProductionLock

theorem SameQueue.refl (db : Database) : SameQueue db db := ⟨rfl, rfl, rfl⟩

theorem SameQueue.trans {db s s' : Database} (h : SameQueue db s) (h' : SameQueue s s') :
    SameQueue db s' :=
  ⟨h'.transactions.trans h.transactions, h'.blocks.trans h.blocks, h'.lock.trans h.lock⟩

/-- Seeding touches neither payments nor blocks: the sandbox has none. -/
theorem SameQueue.seed {d : Draws} {q : Sql} (hq : q.OfSeed d) {db s : Database}
    (h : SameQueue db s) : SameQueue db (q.exec s).1 := by
  rcases q.exec_cases s with hsame | ⟨w, reply, rfl, hrun⟩
  · rwa [hsame]
  rcases hq with ⟨i, rfl⟩ | rfl
  · rw [Database.upsertInstitution_eq_ok (of_unit_eq_ok hrun)]
    exact h.trans ⟨rfl, rfl, rfl⟩
  · have hsaved := Database.saveSnapshot_eq_ok (of_unit_eq_ok hrun)
    exact h.trans ⟨hsaved.transactions, hsaved.blocks, hsaved.blockProductionLock⟩

/-- The pass of the job as the validator `id`. -/
def sweepPass (host : Host) (maxTransactionsPerBlock : Int) (session : Session) (d : Draws)
    (id : String) : Pass where
  runtime := (ValidatorRuntime.connect host id).withMaxTransactionsPerBlock maxTransactionsPerBlock
  session := session
  draws := d

/-- The validator `id` leads the height after the blocks of `db`. -/
def LeadsNext (db : Database) (id : String) : Prop :=
  ∃ leader, phase1Engine.leaderForHeight (db.blocks.rows.length + 1) = .ok leader ∧ leader.id = id

theorem sweepPass_leads {host : Host} {max : Int} {session : Session} {d : Draws} {id : String}
    {db : Database} : (sweepPass host max session d id).Leads db ↔ LeadsNext db id := by
  have hheight : ((sweepPass host max session d id).ledger db).nextHeight =
      db.blocks.rows.length + 1 := by
    show (((PaymentIndex.blocks _ db.blockRows).length : Nat) : Int) + 1 = _
    rw [PaymentIndex.blocks, List.length_map, Database.blockRows, List.length_insertionSort]
  rw [Pass.Leads, hheight]
  rfl

theorem SameLedger.sameQueue {db s : Database} (h : SameLedger db s)
    (hlock : s.blockProductionLock = db.blockProductionLock) : SameQueue db s := by
  obtain ⟨_, _, _, rfl⟩ := h
  exact ⟨rfl, rfl, hlock⟩

theorem LeadsNext.of_sameQueue {db s : Database} {id : String} (h : SameQueue db s)
    (hid : LeadsNext db id) : LeadsNext s id := by
  rwa [LeadsNext, h.blocks]

/-- Some active validator leads. -/
theorem exists_leadsNext (db : Database) :
    ∃ v ∈ phase1Engine.activeValidators, LeadsNext db v.id := by
  have hids : (phase1Engine.activeValidators.map Validator.id).Nodup := by decide
  have hheight : (1 : Int) ≤ db.blocks.rows.length + 1 := by omega
  obtain ⟨leader, -, hleader, -, -⟩ := quorum_of_distinct hids hheight
  exact ⟨leader, leaderForHeight_mem hleader, leader, hleader, rfl⟩

/-- Where a sweep that has run as `ids` stands: it has not met the leader
yet, or the queue is shorter. -/
def Swept (db : Database) (ids : List String) (s : Database) : Prop :=
  (SameQueue db s ∧ ∀ id ∈ ids, ¬ LeadsNext db id) ∨ Shortened db s

/-- A pass takes a sweep one validator further. -/
theorem Swept.pass {db s s₁ s₂ : Database} {ids : List String} {c : Pass} {id : String}
    (h : Swept db ids s) (hseed : SameQueue s s₁) (hleads : c.Leads s₁ ↔ LeadsNext s₁ id)
    (hlock : s₂.blockProductionLock = s₁.blockProductionLock)
    (hpass : (SameLedger s₁ s₂ ∧ ¬ c.Leads s₁) ∨ Shortened s₁ s₂) : Swept db (ids ++ [id]) s₂ := by
  rcases h with ⟨hsame, hids⟩ | hshort
  · have hsame₁ := hsame.trans hseed
    rcases hpass with ⟨hledger, hother⟩ | hshort
    · refine .inl ⟨hsame₁.trans (hledger.sameQueue hlock), fun id' hid' => ?_⟩
      rcases List.mem_append.mp hid' with hin | hin
      · exact hids id' hin
      · rw [List.mem_singleton.mp hin]
        exact fun hid => hother (hleads.mpr (hid.of_sameQueue hsame₁))
    · exact .inr (hshort.of_same hsame₁.transactions)
  · have hshort₁ := hshort.trans (.of_eq hseed.transactions)
    rcases hpass with ⟨hledger, -⟩ | hnext
    · exact .inr (hshort₁.trans hledger.queueStep)
    · exact .inr (hshort₁.trans hnext.toQueueStep)

/-- The loop, by induction on the validators that are left. -/
theorem sweepAs_swept {host : Host} {max : Int} {db : Database} {ids : List String} :
    ∀ {done : List String} {session : Session} {d : Draws} {s : Database},
      s.blockProductionLock = none → Swept db done s →
        (sweepAs host max session d ids).Safe Sql.exec Eq (fun _ _ => True) (fun _ _ => True)
          (fun r s' => r.isOk = true →
            s'.blockProductionLock = none ∧ Swept db (done ++ ids) s') s := by
  induction ids with
  | nil =>
    rintro done session d s hfree hswept _ rfl -
    rw [List.append_nil]
    exact ⟨hfree, hswept⟩
  | cons id ids ih =>
    intro done session d s hfree hswept
    -- connecting
    refine .bind (.mapError ((Prog.Safe.of_only_inv (ensureSandboxSeed_only _ _)
      (fun q s' hq h => SameQueue.seed hq h) (SameQueue.refl s)).mono (fun _ _ h => h)
      (fun _ _ _ => trivial) (fun _ _ h => h) fun r s₁ hseed => ?_)) (fun _ => rfl)
    cases r with
    | error e =>
      rintro _ rfl hr
      cases hr
    | ok u =>
    have hfree₁ : s₁.blockProductionLock = none := hseed.lock.trans hfree
    -- the pass
    refine .bind (.bind (((sweepPass host max session (d.sub 1) id).shortens hfree₁).mono
      (fun _ _ h => h) (fun _ _ h => h) (fun _ _ h => h) fun r s₂ hpass => ?_) (fun _ => rfl))
      (fun _ => rfl)
    cases r with
    | error e =>
      rintro _ rfl _ rfl hr
      cases hr
    | ok block =>
    rintro _ rfl
    have hfree₂ := hpass.2 block rfl
    have hnext : Swept db (done ++ [id]) s₂ :=
      hswept.pass hseed sweepPass_leads (hfree₂.trans hfree₁.symm) (hpass.1 block rfl)
    refine .bind ((ih hfree₂ hnext).mono (fun _ _ h => h) (fun _ _ h => h) (fun _ _ h => h)
      fun r s₃ hrest => ?_) (fun _ => rfl)
    cases r with
    | error e =>
      rintro _ rfl hr
      cases hr
    | ok n =>
      rintro _ rfl -
      have hend := hrest rfl
      rwa [List.append_assoc, List.singleton_append] at hend

/-- A sweep as every active validator that ends without an error leaves the
lock free and, if payments waited, fewer of them waiting. -/
theorem Sweep.shortens {j : Sweep} {db : Database} (hfree : db.blockProductionLock = none)
    (hcovers : j.Covers) :
    j.body.Safe Sql.exec Eq (fun _ _ => True) (fun _ _ => True)
      (fun r s => r.isOk = true → s.blockProductionLock = none ∧ Shortened db s) db := by
  have hstart : Swept db [] db := .inl ⟨.refl db, nofun⟩
  refine (sweepAs_swept hfree hstart).mono (fun _ _ h => h) (fun _ _ h => h) (fun _ _ h => h)
    fun r s hend hr => ?_
  obtain ⟨hlock, hswept⟩ := hend hr
  refine ⟨hlock, hswept.resolve_left fun hnone => ?_⟩
  obtain ⟨v, hv, hleads⟩ := exists_leadsNext db
  exact hnone.2 v.id (hcovers v hv) hleads

/-! ## Sequences of sweeps -/

/-- Sweeps shorten the queue until nothing waits. -/
theorem sweeps_shorten {jobs : List Sweep} {db : Database} (hfree : db.blockProductionLock = none)
    (hends : Prog.Along Sql.exec Sweep.body (fun j s => j.Covers ∧ j.Ends s) jobs db) :
    QueueStep db (Prog.execAll Sql.exec Sweep.body jobs db) ∧
      (Prog.execAll Sql.exec Sweep.body jobs db).waiting.length ≤ db.waiting.length - jobs.length := by
  induction jobs generalizing db with
  | nil => exact ⟨.of_eq rfl, le_rfl⟩
  | cons j jobs ih =>
    obtain ⟨⟨hcovers, hend⟩, hrest⟩ := hends
    obtain ⟨hfree', hshort⟩ := (Sweep.shortens hfree hcovers).exec hend
    obtain ⟨hstep, hfewer⟩ := ih hfree' hrest
    refine ⟨hshort.toQueueStep.trans hstep, hfewer.trans ?_⟩
    rw [List.length_cons]
    by_cases hempty : db.waiting = []
    · have hle := hshort.length_le
      rw [hempty, List.length_nil] at hle ⊢
      omega
    · have hlt := hshort.length_lt hempty
      omega

/-- As many sweeps as payments wait drain the queue: none waits in the end,
those that waited are FINALIZED or REJECTED, and the others are as they
were. -/
theorem sweeps_drain {jobs : List Sweep} {db : Database} (hfree : db.blockProductionLock = none)
    (hends : Prog.Along Sql.exec Sweep.body (fun j s => j.Covers ∧ j.Ends s) jobs db)
    (hmany : db.waiting.length ≤ jobs.length) :
    let db' := Prog.execAll Sql.exec Sweep.body jobs db
    (∀ id, db'.paymentStatus id ≠ some .pending) ∧
      (∀ id, db.paymentStatus id = some .pending →
        db'.paymentStatus id = some .finalized ∨ db'.paymentStatus id = some .rejected) ∧
      ∀ id status, status ≠ .pending → db.paymentStatus id = some status →
        db'.paymentStatus id = some status := by
  intro db'
  obtain ⟨hstep, hfewer⟩ := sweeps_shorten hfree hends
  have hzero : db'.waiting.length ≤ db.waiting.length - jobs.length := hfewer
  have hnil : db'.waiting = [] := List.eq_nil_of_length_eq_zero (by omega)
  have hnone : ∀ id, db'.paymentStatus id ≠ some .pending := by
    intro id hid
    have hin := Database.mem_waiting.mpr hid
    rw [hnil] at hin
    cases hin
  exact ⟨hnone, fun id hid => (hstep.outcome id hid).resolve_left (hnone id), hstep.kept⟩

/-- The sweep of the three validators. -/
def exampleSweep (name : String) (now : DateTime) : Sweep where
  host := .sample
  maxTransactionsPerBlock := 25
  validatorIds := some "validator-a, validator-b,, validator-c"
  validatorId := "validator-a"
  session := 0
  draws := .numbered name now

/-- A queue with a mixed batch: the mint is finalized and the unfunded
transfer rejected. -/
theorem sweeps_drain_example :
    let db' := Prog.execAll Sql.exec Sweep.body [exampleSweep "s" 3000, exampleSweep "s'" 4000]
      exampleQueue
    exampleQueue.paymentStatus exampleUnfunded.id = some .pending ∧
      (db'.paymentStatus exampleUnfunded.id = some .finalized ∨
        db'.paymentStatus exampleUnfunded.id = some .rejected) := by
  have hends : Prog.Along Sql.exec Sweep.body (fun j s => j.Covers ∧ j.Ends s)
      [exampleSweep "s" 3000, exampleSweep "s'" 4000] exampleQueue := by
    refine ⟨⟨?_, ?_⟩, ⟨?_, ?_⟩, trivial⟩
    · unfold Sweep.Covers
      decide +kernel
    · unfold Sweep.Ends
      decide +kernel
    · unfold Sweep.Covers
      decide +kernel
    · unfold Sweep.Ends
      decide +kernel
  have hpending : exampleQueue.paymentStatus exampleUnfunded.id = some .pending := by decide +kernel
  exact ⟨hpending, (sweeps_drain (by decide +kernel) hends (by decide +kernel)).2.1 _ hpending⟩

end KaniNetwork
