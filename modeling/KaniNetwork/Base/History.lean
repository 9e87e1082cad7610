/-
KaniNetwork.Base.History — what a program has done so far.

The history of a program is the list of the commands it has issued, each
with its reply. `Leads` ties a program to what is left of it after a
history. `Follows` is the rule of reasoning: `may` says which commands a
history allows next and `done` which ends, whatever the replies are. It
speaks of no store, so one proof serves every store the program may run
on; `Follows.leads` is how a run uses it. `LastReply` is what a program
knows of a query it may have sent more than once.

`expand` carries the commands of a program out by programs of another
level. `Leads.of_expand` reads a history of the lower level back as one of
the upper level and the command that is being carried out.
-/
import KaniNetwork.Base.Prog

namespace KaniNetwork

/-- Commands with their replies, oldest first. -/
abbrev History (Q : Type) (R : Q → Type) := List ((q : Q) × R q)

namespace Prog

variable {Q Q' : Type} {R : Q → Type} {R' : Q' → Type} {ε ε' α β : Type}

/-! ## What is left of a program -/

/-- After the commands and replies of a history, what is left of `p`. -/
inductive Leads : Prog Q R ε α → History Q R → Prog Q R ε α → Prop where
  | refl (p : Prog Q R ε α) : Leads p [] p
  | call {q : Q} {next : R q → Prog Q R ε α} {r : R q} {h : History Q R} {p : Prog Q R ε α}
    (hnext : Leads (next r) h p) : Leads (.call q next) (⟨q, r⟩ :: h) p

theorem Leads.snoc {p : Prog Q R ε α} {h : History Q R} {q : Q} {next : R q → Prog Q R ε α}
    (hp : p.Leads h (.call q next)) (r : R q) : p.Leads (h ++ [⟨q, r⟩]) (next r) := by
  generalize hleft : Prog.call q next = left at hp
  induction hp with
  | refl p =>
    subst hleft
    exact .call (.refl _)
  | call hnext ih => exact .call (ih hleft)

theorem Leads.ok_inv {a : α} {h : History Q R} {left : Prog Q R ε α}
    (hp : (Prog.ok a : Prog Q R ε α).Leads h left) : h = [] ∧ left = .ok a := by
  cases hp
  exact ⟨rfl, rfl⟩

theorem Leads.fail_inv {e : ε} {h : History Q R} {left : Prog Q R ε α}
    (hp : (Prog.fail e : Prog Q R ε α).Leads h left) : h = [] ∧ left = .fail e := by
  cases hp
  exact ⟨rfl, rfl⟩

/-- A sequence is still in its first part, or in what follows a result. -/
theorem Leads.of_bind {p : Prog Q R ε α} {f : α → Prog Q R ε β} {h : History Q R}
    {left : Prog Q R ε β} (hp : (p >>= f).Leads h left) :
    (∃ p', p.Leads h p' ∧ left = (p' >>= f)) ∨
      ∃ h₁ h₂ a, h = h₁ ++ h₂ ∧ p.Leads h₁ (.ok a) ∧ (f a).Leads h₂ left := by
  induction p generalizing h with
  | ok a => exact .inr ⟨[], h, a, rfl, .refl _, hp⟩
  | fail e =>
    obtain ⟨rfl, rfl⟩ := hp.fail_inv
    exact .inl ⟨_, .refl _, rfl⟩
  | call q next ih =>
    rw [call_bind] at hp
    cases hp with
    | refl => exact .inl ⟨_, .refl _, rfl⟩
    | call hnext =>
      rcases ih _ hnext with ⟨p', hp', rfl⟩ | ⟨h₁, h₂, a, rfl, hp', ha⟩
      · exact .inl ⟨p', .call hp', rfl⟩
      · exact .inr ⟨_, h₂, a, rfl, .call hp', ha⟩

/-- What is left of an attempt is an attempt of what is left. -/
theorem Leads.of_attempt {p : Prog Q R ε α} {h : History Q R} {left : Prog Q R ε' (Except ε α)}
    (hp : (p.attempt : Prog Q R ε' _).Leads h left) : ∃ p', p.Leads h p' ∧ left = p'.attempt := by
  induction p generalizing h with
  | ok a =>
    obtain ⟨rfl, rfl⟩ := hp.ok_inv
    exact ⟨_, .refl _, rfl⟩
  | fail e =>
    obtain ⟨rfl, rfl⟩ := hp.ok_inv
    exact ⟨_, .refl _, rfl⟩
  | call q next ih =>
    cases hp with
    | refl => exact ⟨_, .refl _, rfl⟩
    | call hnext =>
      obtain ⟨p', hp', rfl⟩ := ih _ hnext
      exact ⟨p', .call hp', rfl⟩

/-- An attempt does not end with an error. -/
theorem not_leads_attempt_fail {p : Prog Q R ε α} {h : History Q R} {e : ε'} :
    ¬ (p.attempt : Prog Q R ε' (Except ε α)).Leads h (.fail e) := by
  intro hleads
  obtain ⟨p', -, hleft⟩ := hleads.of_attempt
  cases p' <;> cases hleft

/-- An attempt ends with what the program has ended with. -/
theorem Leads.of_attempt_ok {p : Prog Q R ε α} {h : History Q R} {r : Except ε α}
    (hp : (p.attempt : Prog Q R ε' _).Leads h (.ok r)) : p.Leads h (.ofExcept r) := by
  obtain ⟨p', hp', hleft⟩ := hp.of_attempt
  cases p' with
  | ok a =>
    cases hleft
    exact hp'
  | fail e =>
    cases hleft
    exact hp'
  | call q next => cases hleft

/-- A program that ends with the image of a result has ended with one. -/
theorem Leads.of_map_end {p : Prog Q R ε α} {f : α → β} {h : History Q R} {r : Except ε β}
    (hp : (p >>= fun a => pure (f a)).Leads h (.ofExcept r)) :
    ∃ r', r = r'.map f ∧ p.Leads h (.ofExcept r') := by
  rcases hp.of_bind with ⟨p', hp', hend⟩ | ⟨h₁, h₂, a, rfl, hp', hend⟩
  · cases p' with
    | ok a =>
      cases r <;> cases hend
      exact ⟨.ok a, rfl, hp'⟩
    | fail e =>
      cases r <;> cases hend
      exact ⟨.error e, rfl, hp'⟩
    | call q next => cases r <;> cases hend
  · obtain ⟨rfl, hend⟩ := hend.ok_inv
    cases r <;> cases hend
    exact ⟨.ok a, rfl, by rwa [List.append_nil]⟩

/-! ## What a program follows -/

/-- From the history `h` on: each command is one that `may` allows after what
has been issued, and the end is one that `done` allows. -/
def Follows (may : History Q R → Q → Prop) (done : History Q R → Except ε α → Prop) :
    Prog Q R ε α → History Q R → Prop
  | .ok a, h => done h (.ok a)
  | .fail e, h => done h (.error e)
  | .call q next, h => may h q ∧ ∀ r, (next r).Follows may done (h ++ [⟨q, r⟩])

section

variable {may : History Q R → Q → Prop} {done : History Q R → Except ε α → Prop}
  {h : History Q R}

/-- Sequencing: what follows a result starts where it ends. -/
theorem Follows.bind {done : History Q R → Except ε β → Prop} {p : Prog Q R ε α}
    {f : α → Prog Q R ε β}
    (hp : p.Follows may (fun h r => match r with
      | .ok a => (f a).Follows may done h
      | .error e => done h (.error e)) h) : (p >>= f).Follows may done h := by
  induction p generalizing h with
  | ok a => exact hp
  | fail e => exact hp
  | call q next ih => exact ⟨hp.1, fun r => ih r (hp.2 r)⟩

theorem follows_ofExcept {x : Except ε α} (hx : done h x) :
    (ofExcept x : Prog Q R ε α).Follows may done h := by
  cases x <;> exact hx

/-- A decided result: an error ends the program, a value goes on. -/
theorem Follows.ofExcept_bind {done : History Q R → Except ε β → Prop} {x : Except ε α}
    {f : α → Prog Q R ε β} (herror : ∀ e, x = .error e → done h (.error e))
    (hok : ∀ a, x = .ok a → (f a).Follows may done h) :
    (ofExcept x >>= f).Follows may done h := by
  cases x with
  | error e => exact herror e rfl
  | ok a => exact hok a rfl

theorem Follows.attempt {done : History Q R → Except ε' (Except ε α) → Prop} {p : Prog Q R ε α}
    (hp : p.Follows may (fun h r => done h (.ok r)) h) :
    (p.attempt : Prog Q R ε' _).Follows may done h := by
  induction p generalizing h with
  | ok a => exact hp
  | fail e => exact hp
  | call q next ih => exact ⟨hp.1, fun r => ih r (hp.2 r)⟩

theorem Follows.mono {may' : History Q R → Q → Prop} {done' : History Q R → Except ε α → Prop}
    {p : Prog Q R ε α} (hp : p.Follows may done h) (hmay : ∀ h q, may h q → may' h q)
    (hdone : ∀ h r, done h r → done' h r) : p.Follows may' done' h := by
  induction p generalizing h with
  | ok a => exact hdone _ _ hp
  | fail e => exact hdone _ _ hp
  | call q next ih => exact ⟨hmay _ _ hp.1, fun r => ih r (hp.2 r)⟩

/-- A program follows what its commands are allowed to do anywhere. -/
theorem Only.follows {A : Q → Prop} {p : Prog Q R ε α} (hp : p.Only A) (hmay : ∀ h q, A q → may h q)
    (hdone : ∀ h r, done h r) : p.Follows may done h := by
  induction p generalizing h with
  | ok a => exact hdone _ _
  | fail e => exact hdone _ _
  | call q next ih => exact ⟨hmay _ _ hp.1, fun r => ih r (hp.2 r)⟩

/-- Where everything is allowed, a program follows it. -/
theorem follows_of_forall {p : Prog Q R ε α} (hmay : ∀ h q, may h q) (hdone : ∀ h r, done h r) :
    p.Follows may done h := by
  induction p generalizing h with
  | ok a => exact hdone _ _
  | fail e => exact hdone _ _
  | call q next ih => exact ⟨hmay _ _, fun r => ih r⟩

/-- What is left of a program follows what the program follows. -/
theorem Follows.leads {p left : Prog Q R ε α} {h' : History Q R} (hp : p.Follows may done h)
    (hleft : p.Leads h' left) : left.Follows may done (h ++ h') := by
  induction hleft generalizing h with
  | refl p =>
    rw [List.append_nil]
    exact hp
  | call hnext ih =>
    have hnext := ih (hp.2 _)
    rwa [List.append_assoc] at hnext

/-- The next command of what is left is one the history allows. -/
theorem Follows.may_of_leads {p : Prog Q R ε α} {h : History Q R} {q : Q}
    {next : R q → Prog Q R ε α} (hp : p.Follows may done []) (hleft : p.Leads h (.call q next)) :
    may h q := by
  have hleft := hp.leads hleft
  exact hleft.1

/-- The end of a program is one its history allows. -/
theorem Follows.done_of_leads {p : Prog Q R ε α} {h : History Q R} {r : Except ε α}
    (hp : p.Follows may done []) (hleft : p.Leads h (.ofExcept r)) : done h r := by
  have hleft := hp.leads hleft
  cases r <;> exact hleft

end

/-- A safe program also ends in one of its ends. -/
theorem Safe.and_end {σ : Type} {sem : (q : Q) → σ → σ × R q} {rely guar : σ → σ → Prop}
    {ok : Q → σ → Prop} {post : Except ε α → σ → Prop} {p : Prog Q R ε α} {s : σ}
    {E : Except ε α → Prop} {may : History Q R → Q → Prop} {h : History Q R}
    (hp : p.Safe sem rely guar ok post s) (hE : p.Follows may (fun _ => E) h) :
    p.Safe sem rely guar ok (fun r s => post r s ∧ E r) s := by
  induction p generalizing s h with
  | ok a => exact fun s' hs => ⟨hp s' hs, hE⟩
  | fail e => exact fun s' hs => ⟨hp s' hs, hE⟩
  | call q next ih =>
    intro s' hs hok
    obtain ⟨hguar, hnext⟩ := hp s' hs hok
    exact ⟨hguar, ih _ hnext (hE.2 _)⟩

theorem Only.of_leads {P : Q → Prop} {p : Prog Q R ε α} {h : History Q R} {q : Q}
    {next : R q → Prog Q R ε α} (hp : p.Only P) (hleft : p.Leads h (.call q next)) : P q := by
  generalize hcall : Prog.call q next = left at hleft
  induction hleft with
  | refl p =>
    subst hcall
    exact hp.1
  | call hnext ih => exact ih (hp.2 _) hcall

/-! ## Last replies -/

/-- `r` is the reply to the last `q` of a history. -/
def LastReply (q : Q) (r : R q) (h : History Q R) : Prop :=
  ∃ h₁ h₂, h = h₁ ++ ⟨q, r⟩ :: h₂ ∧ ∀ x ∈ h₂, x.1 ≠ q

theorem LastReply.concat {q : Q} (r : R q) (h : History Q R) : LastReply q r (h ++ [⟨q, r⟩]) :=
  ⟨h, [], rfl, by simp⟩

theorem LastReply.snoc {q q' : Q} {r : R q} {h : History Q R} (hlast : LastReply q r h)
    (hne : q' ≠ q) (r' : R q') : LastReply q r (h ++ [⟨q', r'⟩]) := by
  obtain ⟨h₁, h₂, rfl, hafter⟩ := hlast
  refine ⟨h₁, h₂ ++ [⟨q', r'⟩], by simp, fun x hx => ?_⟩
  rcases List.mem_append.mp hx with hx | hx
  · exact hafter x hx
  · cases List.mem_singleton.mp hx
    exact hne

/-! ## Carrying commands out -/

/-- Carry each command of a program out by a program of another level. -/
def expand (f : (q : Q) → Prog Q' R' ε (R q)) : Prog Q R ε α → Prog Q' R' ε α
  | .ok a => .ok a
  | .fail e => .fail e
  | .call q next => (f q).bind fun r => (next r).expand f

section

variable {f : (q : Q) → Prog Q' R' ε (R q)}

@[simp] theorem expand_call (q : Q) (next : R q → Prog Q R ε α) :
    (Prog.call q next).expand f = (f q >>= fun r => (next r).expand f) := rfl

theorem Only.expand {A : Q' → Prop} {p : Prog Q R ε α} (h : ∀ q, (f q).Only A) :
    (p.expand f).Only A := by
  induction p with
  | ok a => trivial
  | fail e => trivial
  | call q next ih => exact (h q).bind ih

/-- A program is safe when what carries out each of its commands is, wherever
it starts. -/
theorem Safe.expand {σ : Type} {sem : (q : Q') → σ → σ × R' q} {rely guar : σ → σ → Prop}
    {ok : Q' → σ → Prop} (hrefl : ∀ s, rely s s)
    (h : ∀ q s, (f q).Safe sem rely guar ok (fun _ _ => True) s) (p : Prog Q R ε α) (s : σ) :
    (p.expand f).Safe sem rely guar ok (fun _ _ => True) s := by
  induction p generalizing s with
  | ok a => exact fun _ _ => trivial
  | fail e => exact fun _ _ => trivial
  | call q next ih =>
    refine .bind ((h q s).mono (fun _ _ h => h) (fun _ _ h => h) (fun _ _ h => h) ?_) hrefl
    intro r s' _
    cases r with
    | ok r => exact ih r s'
    | error e => exact fun _ _ => trivial

/-- The commands of `h`, each carried out to its reply, make up `h'`. -/
inductive Expands (f : (q : Q) → Prog Q' R' ε (R q)) : History Q R → History Q' R' → Prop where
  | nil : Expands f [] []
  | cons {q : Q} {r : R q} {k h' : History Q' R'} {h : History Q R}
    (hq : (f q).Leads k (.ok r)) (hrest : Expands f h h') : Expands f (⟨q, r⟩ :: h) (k ++ h')

theorem Expands.append {h₁ h₂ : History Q R} {h₁' h₂' : History Q' R'} (h : Expands f h₁ h₁')
    (h' : Expands f h₂ h₂') : Expands f (h₁ ++ h₂) (h₁' ++ h₂') := by
  induction h with
  | nil => exact h'
  | cons hq hrest ih =>
    rw [List.cons_append, List.append_assoc]
    exact .cons hq ih

/-- A command of the upper history and where it was carried out. -/
theorem Expands.of_mem {h : History Q R} {h' : History Q' R'} (hex : Expands f h h') {q : Q}
    {r : R q} (hmem : ⟨q, r⟩ ∈ h) : ∃ k, (f q).Leads k (.ok r) ∧ k <:+: h' := by
  induction hex with
  | nil => cases hmem
  | cons hq hrest ih =>
    rename_i k h' h
    rcases List.mem_cons.mp hmem with heq | hmem
    · cases heq
      exact ⟨k, hq, List.infix_append' [] k h'⟩
    · obtain ⟨k', hk', hin⟩ := ih hmem
      exact ⟨k', hk', hin.trans (List.suffix_append _ _).isInfix⟩

/-- The end of what carried a command out, where its outcome is the reply. -/
theorem Expands.done_of_mem {V : Q → Type} {ε'' : Type} {g : (q : Q) → Prog Q' R' ε'' (V q)}
    {may : History Q' R' → Q' → Prop} {h : History Q fun q => Except ε'' (V q)}
    {h' : History Q' R'}
    (hex : Expands (fun q => ((g q).attempt : Prog Q' R' ε (Except ε'' (V q)))) h h') {q : Q}
    {r : Except ε'' (V q)} (hmem : ⟨q, r⟩ ∈ h) {done : History Q' R' → Except ε'' (V q) → Prop}
    (hg : (g q).Follows may done []) : ∃ k, done k r ∧ k <:+: h' := by
  obtain ⟨k, hk, hin⟩ := hex.of_mem hmem
  exact ⟨k, hg.done_of_leads hk.of_attempt_ok, hin⟩

/-- The next command of the lower level: the finished commands make up a
history of the upper level, and the command is the next one of what carries
out the next command there. -/
theorem Leads.of_expand {p : Prog Q R ε α} {k : History Q' R'} {c : Q'}
    {rest : R' c → Prog Q' R' ε α} (hp : (p.expand f).Leads k (.call c rest)) :
    ∃ h k₁ k₂ q next rest', k = k₁ ++ k₂ ∧ Expands f h k₁ ∧ p.Leads h (.call q next) ∧
      (f q).Leads k₂ (.call c rest') := by
  induction p generalizing k with
  | ok a => cases hp.ok_inv.2
  | fail e => cases hp.fail_inv.2
  | call q next ih =>
    -- the upper history grows by `q` once it has its reply
    have hlater : ∀ {k₁ k₂ : History Q' R'} {r : R q}, (f q).Leads k₁ (.ok r) →
        ((next r).expand f).Leads k₂ (.call c rest) →
        ∃ h l₁ l₂ q' next' rest', k₁ ++ k₂ = l₁ ++ l₂ ∧ Expands f h l₁ ∧
          (Prog.call q next).Leads h (.call q' next') ∧ (f q').Leads l₂ (.call c rest') := by
      intro k₁ k₂ r hq hrest
      obtain ⟨h, l₁, l₂, q', next', rest', rfl, hex, hleads, hcurrent⟩ := ih r hrest
      exact ⟨⟨q, r⟩ :: h, k₁ ++ l₁, l₂, q', next', rest', (List.append_assoc _ _ _).symm,
        .cons hq hex, .call hleads, hcurrent⟩
    rw [expand_call] at hp
    rcases hp.of_bind with ⟨p', hp', hcall⟩ | ⟨k₁, k₂, r, rfl, hq, hrest⟩
    · cases p' with
      | ok r =>
        have hrest : ((next r).expand f).Leads [] (.call c rest) := hcall ▸ .refl _
        obtain ⟨h, l₁, l₂, hlater⟩ := hlater hp' hrest
        rw [List.append_nil] at hlater
        exact ⟨h, l₁, l₂, hlater⟩
      | fail e => cases hcall
      | call c' rest' =>
        cases hcall
        exact ⟨[], [], k, q, next, rest', rfl, .nil, .refl _, hp'⟩
    · exact hlater hq hrest

/-- At the end of the lower level, where no command is carried out to an
error, all its commands make up the history of the upper level, which has
ended alike. -/
theorem Leads.of_expand_end (hf : ∀ q k e, ¬ (f q).Leads k (.fail e)) {p : Prog Q R ε α}
    {k : History Q' R'} {r : Except ε α} (hp : (p.expand f).Leads k (.ofExcept r)) :
    ∃ h, Expands f h k ∧ p.Leads h (.ofExcept r) := by
  induction p generalizing k with
  | ok a =>
    obtain ⟨rfl, hend⟩ := hp.ok_inv
    cases r <;> cases hend
    exact ⟨[], .nil, .refl _⟩
  | fail e =>
    obtain ⟨rfl, hend⟩ := hp.fail_inv
    cases r <;> cases hend
    exact ⟨[], .nil, .refl _⟩
  | call q next ih =>
    have hlater : ∀ {k₁ k₂ : History Q' R'} {a : R q}, (f q).Leads k₁ (.ok a) →
        ((next a).expand f).Leads k₂ (.ofExcept r) →
        ∃ h, Expands f h (k₁ ++ k₂) ∧ (Prog.call q next).Leads h (.ofExcept r) := by
      intro k₁ k₂ a hq hrest
      obtain ⟨h, hex, hleads⟩ := ih a hrest
      exact ⟨⟨q, a⟩ :: h, .cons hq hex, .call hleads⟩
    rw [expand_call] at hp
    rcases hp.of_bind with ⟨p', hp', hend⟩ | ⟨k₁, k₂, a, rfl, hq, hrest⟩
    · cases p' with
      | ok a =>
        have hrest : ((next a).expand f).Leads [] (.ofExcept r) := by
          rw [hend]
          exact .refl _
        have hdone := hlater hp' hrest
        rwa [List.append_nil] at hdone
      | fail e => exact (hf q k e hp').elim
      | call c' rest' => cases r <;> cases hend
    · exact hlater hq hrest

end

end Prog

end KaniNetwork
