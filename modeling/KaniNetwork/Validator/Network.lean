/-
KaniNetwork.Validator.Network — the processes around one database.

API processes serve requests, validators run passes, and every process
seeds the database when it starts. A `NetworkCall` is any of these; a run
of the network is a run of a pool of them, each on a session of its own.
-/
import KaniNetwork.Base.Pool
import KaniNetwork.Node.Postgres
import KaniNetwork.Validator.SavedBlock

namespace KaniNetwork

inductive NetworkCall where
  | request (n : KaniNode) (op : NodeOp)
  | pass (runtime : ValidatorRuntime) (d : Draws)
  | seed (ar : Arith) (d : Draws)

/-- The program of a call on the session `i`, its result dropped. -/
def NetworkCall.body (i : Session) : NetworkCall → StoreProg NodeError Unit
  | .request n op => KaniNode.Postgres.request n op
  | .pass runtime d => do
    let _ ← runtime.runOnce i d
  | .seed ar d => (ensureSandboxSeed ar d).mapError .storage

/-- The arithmetic a call computes balances with. -/
def NetworkCall.Uses (ar : Arith) : NetworkCall → Prop
  | .pass v _ => v.host.arith = ar
  | _ => True

/-- The calls of processes that compute alike. -/
abbrev UniformCall (ar : Arith) := { c : NetworkCall // c.Uses ar }

def UniformCall.body (ar : Arith) (i : Session) (c : UniformCall ar) : StoreProg NodeError Unit :=
  c.1.body i

/-- The network over a store `σ` with a database in it. -/
abbrev Network (σ : Type) := Pool Session NetworkCall Sql Sql.Reply NodeError Unit σ

/-- The network of such processes on the database alone. -/
abbrev UniformNetwork (ar : Arith) := Pool Session (UniformCall ar) Sql Sql.Reply NodeError Unit Database

/-- A pass whose result is dropped still ends with an error its outline
admits. -/
theorem NetworkCall.pass_safe_failed {σ : Type} {V : DbView σ} {v : ValidatorRuntime}
    {session : Session} {rely guar : σ → σ → Prop} {ok : Sql → σ → Prop} {d : Draws} {s : σ}
    (O : PassOutline V v session rely guar ok) (h : O.holds .idle s) :
    ((NetworkCall.pass v d).body session).Safe V.sem rely guar ok
      (fun r _ => ∀ e, r = .error e → O.failed e) s := by
  refine .bind ((O.safe_runOnce h).mono (fun _ _ h => h) (fun _ _ h => h) (fun _ _ h => h)
    fun r s hpost => ?_) O.rely_refl
  cases r with
  | ok b =>
    intro s' _ e he
    cases he
  | error e =>
    rintro s' _ _ ⟨⟩
    exact hpost.2 e rfl

/-- A pass whose result is dropped is safe when its outline is. -/
theorem NetworkCall.pass_safe {σ : Type} {V : DbView σ} {v : ValidatorRuntime} {session : Session}
    {rely guar : σ → σ → Prop} {ok : Sql → σ → Prop} {d : Draws} {s : σ}
    (O : PassOutline V v session rely guar ok) (h : O.holds .idle s) :
    ((NetworkCall.pass v d).body session).Safe V.sem rely guar ok (fun _ _ => True) s :=
  (NetworkCall.pass_safe_failed O h).mono (fun _ _ h => h) (fun _ _ h => h) (fun _ _ h => h)
    fun _ _ _ => trivial

end KaniNetwork
