/-
KaniNetwork.Validator.ChainInvariant — further invariants of a network.

A property of databases that the bookkeeping, the lock, the rejections and
the API leave alone can be broken by the save of a block only. A
`ChainInvariant` is such a property with its argument at the save, where
everything `NoFork` knows may be used (`SavePoint`), together with what a
pass may end with. `ChainInvariant.sound` gives it for every run over a
seeded database; the outlines of `NoFork` do the interleaving.
-/
import KaniNetwork.Validator.NoFork

namespace KaniNetwork

open InMemoryLedger

/-- What a pass knows when it saves: the chain it loaded is the one in the
tables, and its batch waits in the queue. -/
structure SavePoint (ar : Arith) (v : ValidatorRuntime) (snapshot : LedgerSnapshot)
    (accepted : List Transaction) (block : Block) (final : InMemoryLedger) (db : Database) :
    Prop where
  arith : v.host.arith = ar
  sound : ChainSound ar db
  block : PassBlock v (fromSnapshot snapshot) accepted block final
  loaded : LoadedChain snapshot db
  selected : Selected accepted db

/-- An invariant of the validators `runs` over a network whose commands are
`ok`: of the database, of what a pass has loaded and of what it selects from. -/
structure ChainInvariant (ar : Arith) (runs : ValidatorRuntime → Prop)
    (ok : Sql → Database → Prop) where
  inv : Database → Prop
  loaded : LedgerSnapshot → Prop
  batch : List Transaction → Prop
  /-- The errors a pass may end with. -/
  failed : NodeError → Prop
  arith : ∀ v, runs v → v.host.arith = ar
  bookkeeping : ∀ db t u, inv db → inv (db.withBookkeeping t u)
  lock : ∀ db k, inv db → inv { db with blockProductionLock := k }
  reject : ∀ db id reason now, inv db → inv (db.rejectTransaction id reason now)
  api : ∀ (c : Sql) db approving, c.OfApi approving → inv db → inv (c.exec db).1
  load : ∀ P snapshot, LoadedFrom ar P snapshot → (∀ u, P u → inv u) → loaded snapshot
  take : ∀ db limit, inv db → batch (db.pendingTransactions limit 0)
  sublist : ∀ txs txs', txs'.Sublist txs → batch txs → batch txs'
  save : ∀ v snapshot accepted block final db d, runs v →
    SavePoint ar v snapshot accepted block final db → inv db → loaded snapshot → batch accepted →
    ok (.write (.saveSnapshot final.snapshot)) db → db.saveSnapshot final.snapshot = .ok d → inv d
  failedLocal : ∀ e, e.Local → failed e
  failedReference : ∀ c, failed (.storage (.sqlx (.foreignKey c)))
  failedText : failed (.storage (.sqlx .invalidText))
  failedSave : ∀ v snapshot accepted block final db e, runs v →
    SavePoint ar v snapshot accepted block final db → inv db → loaded snapshot → batch accepted →
    ok (.write (.saveSnapshot final.snapshot)) db → db.saveSnapshot final.snapshot = .error e →
    failed (.storage (.sqlx e))

namespace ChainInvariant

variable {ar : Arith} {runs : ValidatorRuntime → Prop} {ok : Sql → Database → Prop}
  (I : ChainInvariant ar runs ok)

/-- The steps of the chain that keep the invariant. -/
def rely (i : Session) (db db' : Database) : Prop :=
  ChainRely ar i db db' ∧ (I.inv db → I.inv db')

def guar (i : Session) (db db' : Database) : Prop :=
  ChainGuar ar i db db' ∧ (I.inv db → I.inv db')

theorem rely_trans {i : Session} {db db' db'' : Database} (h : I.rely i db db')
    (h' : I.rely i db' db'') : I.rely i db db'' :=
  ⟨h.1.trans h'.1, fun hinv => h'.2 (h.2 hinv)⟩

/-- What a pass knows at each place. -/
def knows (i : Session) (ph : Phase) (db : Database) : Prop :=
  chainKnows ar i ph db ∧ I.inv db ∧
    match ph with
    | .loaded snapshot => I.loaded snapshot
    | .selecting snapshot accepted pending => I.loaded snapshot ∧ I.batch (accepted ++ pending)
    | _ => True

theorem savePoint {i : Session} {v : ValidatorRuntime} {snapshot : LedgerSnapshot}
    {accepted : List Transaction} {block : Block} {final : InMemoryLedger} {db : Database}
    (hruns : runs v) (h : I.knows i (.selecting snapshot accepted []) db)
    (hblock : PassBlock v (fromSnapshot snapshot) accepted block final) :
    SavePoint ar v snapshot accepted block final db ∧ I.inv db ∧ I.loaded snapshot ∧
      I.batch accepted := by
  obtain ⟨⟨hs, -, hload, hsel⟩, hinv, hloaded, hbatch⟩ := h
  rw [List.append_nil] at hsel hbatch
  exact ⟨⟨I.arith v hruns, hs, hblock, hload, hsel⟩, hinv, hloaded, hbatch⟩

/-- The outline of `NoFork` with the invariant beside it. -/
def passOutline {v : ValidatorRuntime} (hruns : runs v) (i : Session) :
    PassOutline DbView.plain v i (I.rely i) (I.guar i) ok where
  holds := I.knows i
  rely_refl := fun db => ⟨.refl i db, fun h => h⟩
  rely_trans := fun _ _ _ => I.rely_trans
  guar_refl := fun db => ⟨.refl i db, fun h => h⟩
  stable := fun _ _ _ h hr => ⟨chainKnows_stable h.1 hr.1, hr.2 h.2.1, h.2.2⟩
  bookkeeping := by
    rintro ph db t u ⟨hchain, hinv, hph⟩
    obtain ⟨hguar, hchain'⟩ :=
      (chainOutline v (I.arith v hruns) i ok).bookkeeping ph db t u hchain
    exact ⟨⟨hguar, I.bookkeeping db t u⟩, hchain', I.bookkeeping db t u hinv, hph⟩
  lock := by
    rintro db ⟨hchain, hinv, -⟩ hfree
    obtain ⟨hguar, hchain'⟩ := (chainOutline v (I.arith v hruns) i ok).lock db hchain hfree
    exact ⟨⟨hguar, I.lock db _⟩, hchain', I.lock db _ hinv, trivial⟩
  load := by
    rintro db db' snapshot ⟨hchain, hinv, -⟩ hr hload
    have hplain : LoadedFrom v.host.arith
        (fun u => ∃ w, ChainRely ar i db w ∧ ChainRely ar i w db' ∧ w = u) snapshot :=
      hload.mono fun u ⟨w, hw, hw', heq⟩ => ⟨w, hw.1, hw'.1, heq⟩
    refine ⟨(chainOutline v (I.arith v hruns) i ok).load db db' snapshot hchain hr.1 hplain,
      hr.2 hinv, I.load _ snapshot (I.arith v hruns ▸ hload) ?_⟩
    rintro _ ⟨w, hw, -, rfl⟩
    exact hw.2 hinv
  take := fun db snapshot h =>
    ⟨(chainOutline v (I.arith v hruns) i ok).take db snapshot h.1, h.2.1, h.2.2, I.take db _ h.2.1⟩
  accept := by
    rintro db snapshot accepted tx pending ⟨hchain, hinv, hloaded, hbatch⟩ hacc
    refine ⟨(chainOutline v (I.arith v hruns) i ok).accept db snapshot accepted tx pending hchain hacc,
      hinv, hloaded, ?_⟩
    rwa [List.append_cons] at hbatch
  reject := by
    rintro db snapshot accepted tx pending e now ⟨hchain, hinv, hloaded, hbatch⟩ herror
    obtain ⟨hguar, hchain'⟩ := (chainOutline v (I.arith v hruns) i ok).reject db snapshot accepted tx
      pending e now hchain herror
    exact ⟨⟨hguar, I.reject db _ _ _⟩, hchain', I.reject db _ _ _ hinv, hloaded,
      I.sublist _ _ ((List.sublist_cons_self _ _).append_left _) hbatch⟩
  save := by
    rintro db d snapshot accepted block final h hne hblock hok hsave
    obtain ⟨hguar, hchain'⟩ := (chainOutline v (I.arith v hruns) i ok).save db d snapshot accepted
      block final h.1 hne hblock hok hsave
    obtain ⟨hpoint, hinv, hloaded, hbatch⟩ := I.savePoint hruns h hblock
    have hinv' := I.save v snapshot accepted block final db d hruns hpoint hinv hloaded hbatch hok hsave
    exact ⟨⟨hguar, fun _ => hinv'⟩, hchain', hinv', trivial⟩
  fail := fun db snapshot accepted h =>
    ⟨(chainOutline v (I.arith v hruns) i ok).fail db snapshot accepted h.1, h.2.1, trivial⟩
  failReject := by
    rintro db tx txs now ⟨hchain, hinv, -⟩
    obtain ⟨hguar, hchain'⟩ :=
      (chainOutline v (I.arith v hruns) i ok).failReject db tx txs now hchain
    exact ⟨⟨hguar, I.reject db _ _ _⟩, hchain', I.reject db _ _ _ hinv, trivial⟩
  unlock := fun db hlock =>
    ⟨(chainOutline v (I.arith v hruns) i ok).unlock db hlock, I.lock db _⟩
  savedUnlock := fun block db h =>
    ⟨(chainOutline v (I.arith v hruns) i ok).savedUnlock block db h.1, I.lock db _ h.2.1, trivial⟩
  failed := I.failed
  failedLocal := I.failedLocal
  failedReference := I.failedReference
  failedText := I.failedText
  failedSave := by
    intro db snapshot accepted block final e h _ hblock hok hsave
    obtain ⟨hpoint, hinv, hloaded, hbatch⟩ := I.savePoint hruns h hblock
    exact I.failedSave v snapshot accepted block final db e hruns hpoint hinv hloaded hbatch hok hsave

/-! ## Networks -/

variable {C : Type} (call : C → NetworkCall) (hcall : ∀ c v d, call c = .pass v d → runs v)

include hcall in
theorem body_safe (i : Session) (c : C) {db : Database} (hs : ChainSound ar db)
    (haccounts : db.accounts.rows ≠ []) (hinv : I.inv db) :
    ((call c).body i).Safe Sql.exec (I.rely i) (I.guar i) ok
      (fun r _ => ∀ v d, call c = .pass v d → ∀ e, r = .error e → I.failed e) db := by
  have hapi : ∀ (c : Sql) db approving, c.OfApi approving → I.guar i db (c.exec db).1 :=
    fun c db approving hc => ⟨api_chainGuar hc i db, I.api c db approving hc⟩
  cases hc : call c with
  | request n op =>
    refine .of_only (KaniNode.Postgres.request_only n op) (fun c db hc => hapi c db _ hc) ?_
    intro r s v d heq
    cases heq
  | pass v d =>
    refine (NetworkCall.pass_safe_failed (I.passOutline (hcall c v d hc) i)
      ⟨⟨hs, trivial⟩, hinv, trivial⟩).mono (fun _ _ h => h) (fun _ _ h => h) (fun _ _ h => h) ?_
    intro r s hr _ _ _ e he
    exact hr e he
  | seed ar' d =>
    refine .mapError (ensureSandboxSeed_safe DbView.plain (fun db => ⟨.refl i db, fun h => h⟩)
      (fun db => ⟨.refl i db, fun h => h⟩) (fun _ _ _ => I.rely_trans) ?_ ?_ ?_)
    · intro r s v d heq
      cases heq
    · intro institution db
      exact hapi _ db false (Sql.ofApi_write (.upsertInstitution _) nofun)
    · intro u _ _ hu _ hempty _ _
      exact absurd hempty (hu.1.accountRows haccounts)

/-- The outline of a network on a database that has its accounts. -/
def outline : Pool.Outline Sql.exec (fun i c => (call c).body i) ok where
  inv := fun db => (ChainSound ar db ∧ db.accounts.rows ≠ []) ∧ I.inv db
  rely := I.rely
  guar := I.guar
  post := fun _ c r _ => ∀ v d, call c = .pass v d → ∀ e, r = .error e → I.failed e
  rely_refl := fun i db => ⟨.refl i db, fun h => h⟩
  rely_trans := fun _ _ _ _ => I.rely_trans
  guar_rely := fun _ _ _ _ hne _ h => ⟨h.1.rely hne, h.2⟩
  guar_inv := fun _ _ _ hinv h =>
    ⟨⟨h.1.sound hinv.1.1, h.1.accounts hinv.1.2⟩, h.2 hinv.2⟩
  body_safe := fun i c _ hinv => I.body_safe call hcall i c hinv.1.1 hinv.1.2 hinv.2

include hcall in
/-- In every run over a seeded database the chain stays sound, the invariant
holds, and no pass ends with an error beyond `failed`. -/
theorem sound {settings : Settings} {d : Draws} {db : Database}
    (hseed : (Database.empty settings).saveSnapshot (sandbox d).snapshot = .ok db) (hinv : I.inv db)
    {P : Pool Session C Sql Sql.Reply NodeError Unit Database}
    (hrun : Pool.Reaches Sql.exec (fun i c => (call c).body i) ok (.idle db) P) :
    ChainSound ar P.store ∧ I.inv P.store ∧
      ∀ i c v d e, call c = .pass v d → P.slots i = some (c, .fail e) → I.failed e := by
  have hholds := (I.outline call hcall).sound
    ((I.outline call hcall).holds_idle ⟨chainSound_seeded hseed, hinv⟩) hrun
  refine ⟨hholds.1.1.1, hholds.1.2, fun i c v d e hc hslot => ?_⟩
  exact hholds.2 i c _ hslot P.store ((I.outline call hcall).rely_refl i _) v d hc e rfl

end ChainInvariant

end KaniNetwork
