/-
KaniNetwork.Validator.Seeding — processes that seed the database while
others run.

`ensure_sandbox_seed` looks for accounts in one statement and saves the
sandbox in another, and the save writes zero over the balances it finds.
A process that is slow between the two wipes out what the blocks committed
in between have paid (`seeding_overwrites`). `SeedsOnZero` is the condition
such a schedule breaks; under it the balances are the replay of the blocks
in every run, from the empty database on.
-/
import KaniNetwork.Validator.NoFork

namespace KaniNetwork

open InMemoryLedger

/-- A seeding saves the sandbox only while the balances it writes are zero or
missing. A ledger without blocks is saved by no pass. -/
def SeedsOnZero : Sql → Database → Prop
  | .write (.saveSnapshot s), db =>
    s.blocks.isEmpty = true → ∀ b ∈ s.balances, db.balance b.accountId b.asset = 0
  | _, _ => True

variable {ar : Arith}

instance : (c : Sql) → (db : Database) → Decidable (SeedsOnZero c db)
  | .write (.saveSnapshot s), db => inferInstanceAs (Decidable (s.blocks.isEmpty = true →
      ∀ b ∈ s.balances, db.balance b.accountId b.asset = 0))
  | .read _, _ | .write (.insertPending _), _ | .write (.holdPayment _ _), _
  | .write (.upsertInstitution _), _ | .write (.upsertInstitutionLimit _), _
  | .write (.insertCredential _), _
  | .write (.suspendInstitution _ _), _ | .write (.rejectTransaction _ _ _), _
  | .write (.insertAuditEvent _), _ | .write (.recordHeartbeat _ _), _
  | .write (.recordFinalizedBlock _ _ _), _ | .write (.approveCase _ _), _
  | .write (.rejectCase _ _ _), _ | .write (.tryLock _), _ | .write (.unlock _), _ => .isTrue trivial

/-- The save of a seeding that finds its balances zero. -/
theorem sandbox_chainGuar {d : Draws} {db db' : Database} (i : Session)
    (h : db.saveSnapshot (sandbox d).snapshot = .ok db')
    (hzero : ∀ b ∈ (sandbox d).snapshot.balances, db.balance b.accountId b.asset = 0) :
    ChainGuar ar i db db' := by
  have hsame := sandbox_sameChain h hzero
  refine ⟨⟨hsame.sound, fun _ => hsame.chain_eq ▸ List.prefix_rfl, accounts_saved h⟩, ?_⟩
  intro j _ hj
  exact ⟨(Database.saveSnapshot_eq_ok h).blockProductionLock.trans hj, hsame⟩

/-- The condition is exact: a save that breaks it leaves a balance that is not
the replay of the blocks. -/
theorem seeding_unsound {d : Draws} {db db' : Database} (hs : ChainSound ar db)
    (h : db.saveSnapshot (sandbox d).snapshot = .ok db') {b : Balance}
    (hb : b ∈ (sandbox d).snapshot.balances) (hne : db.balance b.accountId b.asset ≠ 0) :
    db'.balance b.accountId b.asset ≠
      ar.norm ((Books.replay (db'.chain.flatMap Block.txs)).balance b.accountId b.asset) := by
  have hsaved := Database.saveSnapshot_eq_ok h
  have hchain : db'.chain = db.chain := by
    have hsame : SameChain db { db' with balances := db.balances } :=
      .of_eq rfl hsaved.blocks hsaved.transactions
    exact hsame.chain_eq
  have hzero : db'.balance b.accountId b.asset = 0 := by
    obtain ⟨e, he, rfl⟩ := List.mem_map.mp hb
    have hlook : (sandbox d).balances.lookup (e.1.1, e.1.2) = some e.2 := HashMap.mem_pairs.mp he
    have hbalance := balance_sandbox d e.1.1 e.1.2
    simp only [balance, balanceFrom, HashMap.getOr, hlook] at hbalance
    rw [balance_saveSnapshot h, hlook]
    exact hbalance
  rw [hchain, ← hs.balances, hzero]
  exact hne.symm

/-- The outline of a network from the empty database on. -/
def seedingOutline (ar : Arith) : Pool.Outline Sql.exec (UniformCall.body ar) SeedsOnZero where
  inv := ChainSound ar
  rely := ChainRely ar
  guar := ChainGuar ar
  post := fun _ _ _ _ => True
  rely_refl := ChainRely.refl
  rely_trans := fun _ _ _ _ => ChainRely.trans
  guar_rely := fun _ _ _ _ hne _ h => h.rely hne
  guar_inv := fun _ _ _ hinv h => h.sound hinv
  body_safe := by
    rintro i ⟨c, harith⟩ db hs
    cases c with
    | request n op => exact chainSafe_request n op i _ db
    | pass v d => exact chainSafe_pass v harith d i _ hs
    | seed ar' d =>
      exact chainSafe_seed ar' d i fun _ _ _ _ _ _ hok hsave => sandbox_chainGuar i hsave (hok rfl)

/-! ## What a seeding sends -/

/-- Queries, institutions, and the sandbox. -/
def Sql.OfSeed (d : Draws) : Sql → Prop
  | .read _ => True
  | .write w => (∃ i, w = .upsertInstitution i) ∨ w = .saveSnapshot (sandbox d).snapshot

theorem loadSnapshot_only {ε : Type} {A : Sql → Prop} (hread : ∀ q, A (.read q)) (ar : Arith) :
    (loadSnapshot ar : StoreProg ε LedgerSnapshot).Only A :=
  ⟨hread _, fun _ => ⟨hread _, fun _ => ⟨hread _, fun _ => ⟨hread _, fun _ => ⟨hread _, fun _ =>
    ⟨hread _, fun _ => ⟨hread _, fun _ => ⟨hread _, fun _ => ⟨hread _, fun _ => ⟨hread _, fun _ =>
      trivial⟩⟩⟩⟩⟩⟩⟩⟩⟩⟩

theorem ensureSandboxSeed_only (ar : Arith) (d : Draws) :
    (ensureSandboxSeed ar d).Only (Sql.OfSeed d) := by
  refine .bind (loadSnapshot_only (fun _ => trivial) ar) fun snapshot => ?_
  split
  · exact .bind (only_execute (.inr rfl)) fun _ => trivial
  split
  · exact seedInstitutions_only (fun i => .inl ⟨i, rfl⟩) _
  · trivial

/-- The commands of a call, as far as seedings go. -/
def UniformCall.Sends (c : UniformCall ar) (q : Sql) : Prop :=
  ∀ ar' d, c.1 = .seed ar' d → q.OfSeed d

theorem UniformCall.body_sends (i : Session) (c : UniformCall ar) :
    (UniformCall.body ar i c).Only (UniformCall.Sends c) := by
  obtain ⟨c, harith⟩ := c
  cases c with
  | seed ar' d =>
    refine .mapError ((ensureSandboxSeed_only ar' d).mono fun q hq => ?_)
    rintro _ _ ⟨⟩
    exact hq
  | request n op => exact Prog.only_of_forall (fun q ar d h => by cases h) _
  | pass v d => exact Prog.only_of_forall (fun q ar d h => by cases h) _

/-- No command of a seeding changes a balance. -/
theorem balance_ofSeed {d : Draws} {q : Sql} (hq : q.OfSeed d) {db : Database}
    (hok : SeedsOnZero q db) (a s : String) : (q.exec db).1.balance a s = db.balance a s := by
  rcases Sql.exec_cases q db with hsame | ⟨w, reply, rfl, hrun⟩
  · rw [hsame]
  · rcases hq with ⟨i, rfl⟩ | rfl
    · rw [Database.upsertInstitution_eq_ok (of_unit_eq_ok hrun)]
      rfl
    · exact (sandbox_sameChain (of_unit_eq_ok hrun) (hok rfl)).balances a s

/-- Seeding never overwrites balances: in every run of starting processes,
validators and requests in which each seeding saves while the balances it
writes are zero, the balances are the replay of the blocks, and no command
of a seeding changes one. -/
theorem seeding_keeps_balances {settings : Settings} {P : UniformNetwork ar}
    (hrun : Pool.Reaches Sql.exec (UniformCall.body ar) SeedsOnZero (.idle (.empty settings)) P) :
    (∀ a s, P.store.balance a s =
        ar.norm ((Books.replay (P.store.chain.flatMap Block.txs)).balance a s)) ∧
      ∀ i ar' d h q next, P.slots i = some (⟨.seed ar' d, h⟩, .call q next) → SeedsOnZero q P.store →
        ∀ a s, (q.exec P.store).1.balance a s = P.store.balance a s := by
  have hholds := (seedingOutline ar).sound
    ((seedingOutline ar).holds_idle (chainSound_empty settings)) hrun
  refine ⟨hholds.1.balances, ?_⟩
  intro i ar' d h q next hslot hok
  have honly := Pool.only_of_reaches UniformCall.body_sends (fun _ _ _ h => by cases h) hrun i _ _ hslot
  exact balance_ofSeed (honly.1 ar' d rfl) hok

/-! ## The race -/

/-- A process that has found no accounts, and then another one that seeds, a
mint and the pass that finalizes it; `n` more commands of the first. -/
def exampleStartUp (n : Nat) : List (Pool.Event Session (UniformCall .exact)) :=
  [.start 0 ⟨.seed .exact (.numbered "s" 0), trivial⟩] ++ List.replicate 10 (.tick 0) ++
    [.start 1 ⟨.seed .exact (.numbered "t" 0), trivial⟩] ++ List.replicate 11 (.tick 1) ++
    [.start 2 ⟨.request ⟨.sample, phase1Engine, .hybridPqcV1⟩ (.mintSandbox (.numbered "mint" 1000)
      SANDBOX_TREASURY_ACCOUNT SANDBOX_CORP_A_ACCOUNT KCAD_TEST 10), trivial⟩, .tick 2, .tick 2,
    .start 3 ⟨.pass (.connect .sample "validator-a") (.numbered "p" 2000), Host.sample_arith⟩] ++
    List.replicate 27 (.tick 3) ++ List.replicate n (.tick 0)

def exampleStarted (ok : Sql → Database → Prop) [∀ c db, Decidable (ok c db)] (n : Nat) :
    UniformNetwork .exact :=
  Pool.run Sql.exec (UniformCall.body .exact) ok (.idle (.empty .plain)) (exampleStartUp n)

/-- The first process saves its zeros over the minted balance. -/
theorem seeding_overwrites :
    ∃ P : UniformNetwork .exact,
      Pool.Reaches Sql.exec (UniformCall.body .exact) (fun _ _ => True) (.idle (.empty .plain)) P ∧
        P.store.balance SANDBOX_CORP_A_ACCOUNT KCAD_TEST = 0 ∧
        (Books.replay (P.store.chain.flatMap Block.txs)).balance SANDBOX_CORP_A_ACCOUNT KCAD_TEST
          = 10 :=
  ⟨exampleStarted (fun _ _ => True) 1, Pool.reaches_run _ _ _ _ _, by decide +kernel,
    by decide +kernel⟩

/-- Under the condition its save is not issued, and the balance stays. -/
theorem seeding_keeps_balances_example :
    let P := exampleStarted SeedsOnZero 1
    P.store.balance SANDBOX_CORP_A_ACCOUNT KCAD_TEST = 10 ∧
      P.store.balance SANDBOX_CORP_A_ACCOUNT KCAD_TEST =
        (Books.replay (P.store.chain.flatMap Block.txs)).balance SANDBOX_CORP_A_ACCOUNT
          KCAD_TEST := by
  intro P
  have hrun : Pool.Reaches Sql.exec (UniformCall.body .exact) SeedsOnZero
      (.idle (.empty .plain)) P := Pool.reaches_run _ _ _ _ _
  exact ⟨by decide +kernel, (seeding_keeps_balances hrun).1 _ _⟩

end KaniNetwork
