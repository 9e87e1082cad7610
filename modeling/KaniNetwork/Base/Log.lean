/-
KaniNetwork.Base.Log — the runs of a pool with the commands they issued.

`Run P log P'` is a run from `P` to `P'` with the list of its commands in
the order they were issued: for each the slot, the call the slot serves
and the store the command was issued on. The store of `P'` is what the
commands of the log do one after another (`Run.store_eq`), so a log is an
order in which the interleaved calls might have been served one command at
a time.

`history` picks out of a log what one slot has done. In a run from an idle
pool it is a history of the call the slot serves (`Run.leads`), and every
command of the log is the next command of its call after what the slot had
done until then (`Run.issued`). With `Prog.Follows` this turns a fact about
one call into one about every call of every interleaving
(`Run.may_of_follows`, `Run.done_of_follows`), and a condition on the log
into one on each of its commands (`Run.restrict`). `last?` finds where a slot
last issued a command. `runLog` is the log of a given schedule. `Run.beside`
is the same run on a store with a record beside it.
-/
import KaniNetwork.Base.History
import KaniNetwork.Base.Pool

namespace KaniNetwork

namespace Pool

variable {ι C Q : Type} {R : Q → Type} {ε α σ : Type} [DecidableEq ι]

/-- A command of a run: who issued it for which call, and on which store. -/
structure Issued (ι C Q σ : Type) where
  slot : ι
  call : C
  command : Q
  store : σ

/-- The command a running slot issues next. -/
def next? (P : Pool ι C Q R ε α σ) (i : ι) : Option (C × Q) :=
  match P.slots i with
  | some (c, .call q _) => some (c, q)
  | _ => none

/-- How the call of a slot has ended. -/
def ended? (P : Pool ι C Q R ε α σ) (i : ι) : Option (C × Except ε α) :=
  match P.slots i with
  | some (c, .ok a) => some (c, .ok a)
  | some (c, .fail e) => some (c, .error e)
  | _ => none

omit [DecidableEq ι] in
theorem next?_eq_some {P : Pool ι C Q R ε α σ} {i : ι} {c : C} {q : Q} :
    P.next? i = some (c, q) ↔ ∃ next, P.slots i = some (c, .call q next) := by
  constructor
  · intro h
    unfold next? at h
    split at h
    · rename_i next hslot
      cases h
      exact ⟨next, hslot⟩
    · cases h
  · rintro ⟨next, hslot⟩
    simp only [next?, hslot]

omit [DecidableEq ι] in
theorem ended?_eq_some {P : Pool ι C Q R ε α σ} {i : ι} {c : C} {r : Except ε α} :
    P.ended? i = some (c, r) ↔ P.slots i = some (c, .ofExcept r) := by
  unfold ended?
  rcases P.slots i with _ | ⟨c', _ | _ | ⟨q', next⟩⟩ <;> cases r <;> simp [Prog.ofExcept]

variable (sem : (q : Q) → σ → σ × R q) (body : ι → C → Prog Q R ε α) (ok : Q → σ → Prop)

/-- The store a command leaves behind. -/
def Issued.after (e : Issued ι C Q σ) : σ := (sem e.command e.store).1

/-- What a command was answered. -/
def Issued.reply (e : Issued ι C Q σ) : R e.command := (sem e.command e.store).2

/-- A run and its commands. -/
inductive Run (P : Pool ι C Q R ε α σ) :
    List (Issued ι C Q σ) → Pool ι C Q R ε α σ → Prop where
  | nil : Run P [] P
  | start {log : List (Issued ι C Q σ)} {P' : Pool ι C Q R ε α σ} (i : ι) (c : C)
    (h : Run P log P') (hidle : P'.slots i = none) :
    Run P log (P'.set P'.store i c (body i c))
  | issue {log : List (Issued ι C Q σ)} {P' : Pool ι C Q R ε α σ} (i : ι) (c : C) (q : Q)
    (next : R q → Prog Q R ε α) (h : Run P log P') (hslot : P'.slots i = some (c, .call q next))
    (hok : ok q P'.store) :
    Run P (log ++ [⟨i, c, q, P'.store⟩])
      (P'.set (sem q P'.store).1 i c (next (sem q P'.store).2))

variable {sem body ok} {P P' : Pool ι C Q R ε α σ} {log : List (Issued ι C Q σ)}

theorem Run.reaches (h : Run sem body ok P log P') : Reaches sem body ok P P' := by
  induction h with
  | nil => exact .refl
  | start i c _ hidle ih => exact ih.tail (.start i c hidle)
  | issue i c q next _ hslot hok ih => exact ih.tail (.issue i c q next hslot hok)

/-- Every run has a log. -/
theorem exists_run (h : Reaches sem body ok P P') : ∃ log, Run sem body ok P log P' := by
  induction h with
  | refl => exact ⟨[], .nil⟩
  | tail _ hstep ih =>
    obtain ⟨log, hrun⟩ := ih
    cases hstep with
    | start i c hidle => exact ⟨log, .start i c hrun hidle⟩
    | issue i c q next hslot hok => exact ⟨_, .issue i c q next hrun hslot hok⟩

/-- The commands of a run, one after another, lead to its store. -/
theorem Run.store_eq (h : Run sem body ok P log P') :
    P'.store = log.foldl (fun s e => (sem e.command s).1) P.store := by
  induction h with
  | nil => rfl
  | start i c _ _ ih => exact ih
  | issue i c q next _ _ _ ih =>
    rw [List.foldl_append, ← ih]
    rfl

/-- A command of the log was issued by its slot on the store of its moment,
and the rest of the log after it. -/
theorem Run.split (h : Run sem body ok P log P') {before after : List (Issued ι C Q σ)}
    {e : Issued ι C Q σ} (hlog : log = before ++ e :: after) :
    ∃ M next, Run sem body ok P before M ∧ M.slots e.slot = some (e.call, .call e.command next) ∧
      e.store = M.store ∧ ok e.command e.store ∧
        Run sem body ok (M.set (e.after sem) e.slot e.call (next (e.reply sem))) after P' := by
  induction h generalizing after with
  | nil =>
    have hlength := congrArg List.length hlog
    simp at hlength
  | start i c hrun hidle ih =>
    obtain ⟨M, next, hbefore, hslot, hstore, hok, hafter⟩ := ih hlog
    exact ⟨M, next, hbefore, hslot, hstore, hok, .start i c hafter hidle⟩
  | issue i c q next hrun hslot hok ih =>
    rcases List.eq_nil_or_concat after with rfl | ⟨after', last, rfl⟩
    · obtain ⟨rfl, hlast⟩ := List.append_inj' hlog rfl
      cases List.singleton_inj.mp hlast
      exact ⟨_, next, hrun, hslot, rfl, hok, .nil⟩
    · rw [List.concat_eq_append, ← List.cons_append, ← List.append_assoc] at hlog
      obtain ⟨hlog', hlast⟩ := List.append_inj' hlog rfl
      cases List.singleton_inj.mp hlast
      obtain ⟨M, next', hbefore, hslot', hstore, hok', hafter⟩ := ih hlog'
      rw [List.concat_eq_append]
      exact ⟨M, next', hbefore, hslot', hstore, hok', .issue i c q next hafter hslot hok⟩

theorem Run.exists_of_mem (h : Run sem body ok P log P') {e : Issued ι C Q σ} (he : e ∈ log) :
    ∃ M next before after, log = before ++ e :: after ∧ Run sem body ok P before M ∧
      M.slots e.slot = some (e.call, .call e.command next) ∧ e.store = M.store ∧
        ok e.command e.store := by
  obtain ⟨before, after, hlog⟩ := List.append_of_mem he
  obtain ⟨M, next, hrun, hslot, hstore, hok, -⟩ := h.split hlog
  exact ⟨M, next, before, after, hlog, hrun, hslot, hstore, hok⟩

/-! ## What one slot has done -/

variable (sem) in
/-- The commands of one slot with their replies. -/
def history (i : ι) (log : List (Issued ι C Q σ)) : History Q R :=
  (log.filter fun e => e.slot = i).map fun e => ⟨e.command, e.reply sem⟩

theorem history_append (i : ι) (log log' : List (Issued ι C Q σ)) :
    history sem i (log ++ log') = history sem i log ++ history sem i log' := by
  simp only [history, List.filter_append, List.map_append]

theorem history_singleton_self (i : ι) (c : C) (q : Q) (s : σ) :
    history sem i [(⟨i, c, q, s⟩ : Issued ι C Q σ)] = [⟨q, (sem q s).2⟩] := by
  simp [history, Issued.reply]

theorem history_singleton_of_ne {i : ι} {e : Issued ι C Q σ} (h : e.slot ≠ i) :
    history sem i [e] = [] := by
  simp [history, h]

/-- A command of a history is a command of the log with the reply it got. -/
theorem mem_history {i : ι} {x : (q : Q) × R q} :
    x ∈ history sem i log ↔ ∃ e ∈ log, e.slot = i ∧ ⟨e.command, e.reply sem⟩ = x := by
  simp only [history, List.mem_map, List.mem_filter, decide_eq_true_eq, and_assoc]

/-- A history in two parts is that of a log in two parts. -/
theorem of_history_append {i : ι} {k₁ k₂ : History Q R} (h : history sem i log = k₁ ++ k₂) :
    ∃ log₁ log₂, log = log₁ ++ log₂ ∧ history sem i log₁ = k₁ ∧ history sem i log₂ = k₂ := by
  obtain ⟨l₁, l₂, hfilter, rfl, rfl⟩ := List.map_eq_append_iff.mp h
  obtain ⟨log₁, log₂, rfl, rfl, rfl⟩ := List.filter_eq_append_iff.mp hfilter
  exact ⟨log₁, log₂, rfl, rfl, rfl⟩

/-- What a slot has done leads from its call to what is left of it; an unused
slot has done nothing. -/
theorem Run.slot_cases {s : σ} (h : Run sem body ok (.idle s) log P') (i : ι) :
    (P'.slots i = none ∧ history sem i log = []) ∨
      ∃ c left, P'.slots i = some (c, left) ∧ (body i c).Leads (history sem i log) left := by
  induction h with
  | nil => exact .inl ⟨rfl, rfl⟩
  | @start log' M j c _ hidle ih =>
    by_cases hij : i = j
    · subst hij
      have hnone : history sem i log' = [] := by
        rcases ih with ⟨-, hnone⟩ | ⟨c', left, hslot, -⟩
        · exact hnone
        · rw [hidle] at hslot
          cases hslot
      exact .inr ⟨c, body i c, by rw [set_slots, if_pos rfl], hnone ▸ .refl _⟩
    · rw [set_slots, if_neg hij]
      exact ih
  | @issue log' M j c q next _ hslot _ ih =>
    have hlast : history sem i (log' ++ [⟨j, c, q, M.store⟩]) =
        history sem i log' ++ history sem i [⟨j, c, q, M.store⟩] := history_append i log' _
    by_cases hij : i = j
    · subst hij
      rcases ih with ⟨hnone, -⟩ | ⟨c', left, hslot', hleads⟩
      · rw [hnone] at hslot
        cases hslot
      · rw [hslot] at hslot'
        cases hslot'
        refine .inr ⟨c, _, by rw [set_slots, if_pos rfl], ?_⟩
        rw [hlast, history_singleton_self]
        exact hleads.snoc _
    · rw [set_slots, if_neg hij, hlast, history_singleton_of_ne fun h => hij h.symm,
        List.append_nil]
      exact ih

theorem Run.leads {s : σ} (h : Run sem body ok (.idle s) log P') {i : ι} {c : C}
    {left : Prog Q R ε α} (hslot : P'.slots i = some (c, left)) :
    (body i c).Leads (history sem i log) left := by
  rcases h.slot_cases i with ⟨hnone, -⟩ | ⟨c', left', hslot', hleads⟩
  · rw [hnone] at hslot
    cases hslot
  · rw [hslot] at hslot'
    cases hslot'
    exact hleads

/-- A command of the log is the next one of its call after what its slot had
done. -/
theorem Run.issued {s : σ} (h : Run sem body ok (.idle s) log P')
    {before after : List (Issued ι C Q σ)} {e : Issued ι C Q σ} (hlog : log = before ++ e :: after) :
    ∃ next, (body e.slot e.call).Leads (history sem e.slot before) (.call e.command next) := by
  obtain ⟨M, next, hrun, hslot, -⟩ := h.split hlog
  exact ⟨next, hrun.leads hslot⟩

section

variable {may : C → History Q R → Q → Prop} {done : C → History Q R → Except ε α → Prop}

/-- Every command of every interleaving is one its call may issue after what
it has done. -/
theorem Run.may_of_follows {s : σ} (h : Run sem body ok (.idle s) log P')
    (hbody : ∀ i c, (body i c).Follows (may c) (done c) [])
    {before after : List (Issued ι C Q σ)} {e : Issued ι C Q σ} (hlog : log = before ++ e :: after) :
    may e.call (history sem e.slot before) e.command := by
  obtain ⟨next, hleads⟩ := h.issued hlog
  exact (hbody e.slot e.call).may_of_leads hleads

/-- So is the command a slot issues next. -/
theorem Run.may_of_next {s : σ} (h : Run sem body ok (.idle s) log P')
    (hbody : ∀ i c, (body i c).Follows (may c) (done c) []) {i : ι} {c : C} {q : Q}
    (hnext : P'.next? i = some (c, q)) : may c (history sem i log) q := by
  obtain ⟨next, hslot⟩ := next?_eq_some.mp hnext
  exact (hbody i c).may_of_leads (h.leads hslot)

/-- Every call that has ended, ended in one of the ends its history allows. -/
theorem Run.done_of_follows {s : σ} (h : Run sem body ok (.idle s) log P')
    (hbody : ∀ i c, (body i c).Follows (may c) (done c) []) {i : ι} {c : C} {r : Except ε α}
    (hended : P'.ended? i = some (c, r)) : done c (history sem i log) r :=
  (hbody i c).done_of_leads (h.leads (ended?_eq_some.mp hended))

end

/-- A run whose commands meet a condition where they stand in its log. -/
theorem Run.restrict {ok' : Q → σ → Prop} (h : Run sem body ok P log P')
    (hok : ∀ before e after, log = before ++ e :: after → ok' e.command e.store) :
    Run sem body ok' P log P' := by
  induction h with
  | nil => exact .nil
  | start i c _ hidle ih => exact .start i c (ih hok) hidle
  | issue i c q next hrun hslot _ ih =>
    refine .issue i c q next (ih fun before e after hlog => ?_) hslot (hok _ _ [] rfl)
    exact hok before e (after ++ _) (by rw [hlog, List.append_assoc, List.cons_append])

/-- The last command of a slot that `p` picks. -/
def last? (i : ι) (p : Q → Bool) (log : List (Issued ι C Q σ)) : Option (Issued ι C Q σ) :=
  log.findRev? fun e => decide (e.slot = i) && p e.command

/-- The last reply of a slot is that of its last command. -/
theorem last?_of_lastReply {i : ι} {p : Q → Bool} {q : Q} {r : R q}
    (h : Prog.LastReply q r (history sem i log)) (hp : ∀ q', p q' = true ↔ q' = q) :
    ∃ e ∈ last? i p log, (⟨e.command, e.reply sem⟩ : (q : Q) × R q) = ⟨q, r⟩ := by
  obtain ⟨h₁, h₂, hhistory, hafter⟩ := h
  obtain ⟨_, rest, hfilter, -, hrest⟩ := List.map_eq_append_iff.mp hhistory
  obtain ⟨e, later, rfl, he, rfl⟩ := List.map_eq_cons_iff.mp hrest
  refine ⟨e, ?_, he⟩
  have hthis : p e.command = true := (hp _).mpr (congrArg Sigma.fst he)
  have hlater : later.reverse.find? (fun e => p e.command) = none := by
    refine List.find?_eq_none.mpr fun e' he' hpick => ?_
    exact hafter _ (List.mem_map_of_mem (List.mem_reverse.mp he')) ((hp _).mp hpick)
  have hfind : last? i p log = (log.filter fun e => e.slot = i).reverse.find? fun e => p e.command := by
    rw [last?, List.findRev?_eq_find?_reverse, ← List.filter_reverse, List.find?_filter]
    simp only [Bool.decide_and, Bool.decide_eq_true, decide_eq_true_eq]
  rw [hfind, hfilter, List.reverse_append, List.reverse_cons, List.append_assoc, List.find?_append,
    hlater, Option.none_or, List.singleton_append, List.find?_cons, hthis]
  rfl

/-- What every command keeps, a run keeps. -/
theorem Run.store_rel (M : σ → σ → Prop) (hrefl : ∀ s, M s s)
    (htrans : ∀ s s' s'', M s s' → M s' s'' → M s s'')
    (hM : ∀ q s, ok q s → M s (sem q s).1) (h : Run sem body ok P log P') :
    M P.store P'.store := by
  induction h with
  | nil => exact hrefl _
  | start i c _ _ ih => exact ih
  | issue i c q next _ _ hok ih => exact htrans _ _ _ ih (hM q _ hok)

/-- From a command of the log on. -/
theorem Run.after_rel (M : σ → σ → Prop) (hrefl : ∀ s, M s s)
    (htrans : ∀ s s' s'', M s s' → M s' s'' → M s s'')
    (hM : ∀ q s, ok q s → M s (sem q s).1) (h : Run sem body ok P log P') {e : Issued ι C Q σ}
    (he : e ∈ log) : M (e.after sem) P'.store := by
  obtain ⟨before, after, hlog⟩ := List.append_of_mem he
  obtain ⟨M₁, next, -, -, -, -, hafter⟩ := h.split hlog
  exact hafter.store_rel M hrefl htrans hM

/-- Between two commands of the log. -/
theorem Run.between_rel (M : σ → σ → Prop) (hrefl : ∀ s, M s s)
    (htrans : ∀ s s' s'', M s s' → M s' s'' → M s s'')
    (hM : ∀ q s, ok q s → M s (sem q s).1) (h : Run sem body ok P log P')
    {before mid after : List (Issued ι C Q σ)} {e e' : Issued ι C Q σ}
    (hlog : log = (before ++ e :: mid) ++ e' :: after) : M e.store e'.store := by
  obtain ⟨M₂, next', hrun, -, hstore', -⟩ := h.split hlog
  obtain ⟨M₁, next, -, -, -, hok, hmid⟩ := hrun.split rfl
  have hlater : M (e.after sem) M₂.store := hmid.store_rel M hrefl htrans hM
  rw [hstore']
  exact htrans _ _ _ (hM e.command e.store hok) hlater

omit [DecidableEq ι] in
/-- Entries of a log that are related wherever two of them stand. -/
theorem pairwise_of_splits {M : Issued ι C Q σ → Issued ι C Q σ → Prop}
    (h : ∀ before e mid e' after, log = (before ++ e :: mid) ++ e' :: after → M e e') :
    log.Pairwise M := by
  induction log with
  | nil => exact .nil
  | cons e log ih =>
    refine List.pairwise_cons.mpr ⟨fun e' he' => ?_, ih fun before e₁ mid e₂ after hlog => ?_⟩
    · obtain ⟨mid, after, rfl⟩ := List.append_of_mem he'
      exact h [] e mid e' after rfl
    · exact h (e :: before) e₁ mid e₂ after (by rw [hlog]; rfl)

/-- Under an outline every command keeps the guarantee, from a store with the
invariant. -/
theorem Run.of_outline (O : Outline sem body ok) (hP : O.Holds P) (h : Run sem body ok P log P') :
    Run sem body (fun q s => O.inv s ∧ ∃ i, O.guar i s (sem q s).1) P log P' := by
  induction h with
  | nil => exact .nil
  | start i c _ hidle ih => exact .start i c ih hidle
  | issue i c q next hrun hslot hok ih =>
    have hholds := O.sound hP hrun.reaches
    exact .issue i c q next ih hslot ⟨hholds.1, i, O.guar_of_issue hholds hslot hok⟩

/-- The commands of a call that is safe whenever it starts are within its
guarantee, if every command is within what it relies on. -/
theorem Run.guar_of_safe {rely guar : σ → σ → Prop} {post : Except ε α → σ → Prop}
    (hrefl : ∀ s, rely s s) (htrans : ∀ s s' s'', rely s s' → rely s' s'' → rely s s'')
    (hrely : ∀ q s, ok q s → rely s (sem q s).1) {s : σ} (h : Run sem body ok (.idle s) log P')
    {e : Issued ι C Q σ} (he : e ∈ log)
    (hsafe : ∀ s, (body e.slot e.call).Safe sem rely guar ok post s) :
    guar e.store (e.after sem) := by
  -- what is left of a safe call stays safe
  have hleft : ∀ {log : List (Issued ι C Q σ)} {P : Pool ι C Q R ε α σ},
      Run sem body ok (.idle s) log P → ∀ i c p, P.slots i = some (c, p) →
        (∀ s, (body i c).Safe sem rely guar ok post s) → p.Safe sem rely guar ok post P.store := by
    intro log P hrun
    induction hrun with
    | nil =>
      intro i c p hslot
      cases hslot
    | start j c' _ _ ih =>
      intro i c p hslot hbody
      rw [set_slots] at hslot
      split at hslot
      · rename_i hi
        cases hslot
        exact hi ▸ hbody _
      · exact ih i c p hslot hbody
    | issue j c' q next _ hslot' hok ih =>
      intro i c p hslot hbody
      rw [set_slots] at hslot
      split at hslot
      · rename_i hi
        cases hslot
        exact (ih j c' _ hslot' (hi ▸ hbody) _ (hrefl _) hok).2
      · exact (ih i c p hslot hbody).of_rely htrans (hrely q _ hok)
  obtain ⟨M, next, before, after, -, hrun, hslot, hstore, hok⟩ := h.exists_of_mem he
  have hsafeM := hleft hrun e.slot e.call _ hslot hsafe
  rw [hstore] at hok ⊢
  obtain ⟨hguar, -⟩ := hsafeM M.store (hrefl _) hok
  simpa only [Issued.after, hstore] using hguar

/-- The commands of a slot all serve the call the slot still serves. -/
theorem Run.call_of_mem {s : σ} (h : Run sem body ok (.idle s) log P') {e : Issued ι C Q σ}
    (he : e ∈ log) : ∃ left, P'.slots e.slot = some (e.call, left) := by
  induction h with
  | nil => cases he
  | start i c _ hidle ih =>
    obtain ⟨left, hslot⟩ := ih he
    rw [set_slots]
    split
    · rename_i hi
      rw [← hi, hslot] at hidle
      cases hidle
    · exact ⟨left, hslot⟩
  | issue i c q next _ hslot _ ih =>
    rw [set_slots]
    rcases List.mem_append.mp he with he | he
    · obtain ⟨left, hslot'⟩ := ih he
      split
      · rename_i hi
        rw [hi, hslot] at hslot'
        cases hslot'
        exact ⟨_, rfl⟩
      · exact ⟨left, hslot'⟩
    · cases List.mem_singleton.mp he
      exact ⟨_, if_pos rfl⟩

/-- Where each command of an upper history can be placed in the part of the log
that carried it out, the places follow one another in the log. -/
theorem moments_of_expands {Q' : Type} {R' : Q' → Type} {f : (q : Q') → Prog Q R ε (R' q)}
    {placed : ((q : Q') × R' q) → Issued ι C Q σ → Prop} (chosen : ((q : Q') × R' q) → Bool) {i : ι}
    (hplace : ∀ x before mid after, log = before ++ (mid ++ after) →
      (f x.1).Leads (history sem i mid) (.ok x.2) → chosen x = true → ∃ e ∈ mid, placed x e)
    {h : History Q' R'} (hexpands : Prog.Expands f h (history sem i log)) :
    ∃ moments, moments.Sublist log ∧ List.Forall₂ placed (h.filter chosen) moments := by
  suffices hrest : ∀ before rest, log = before ++ rest → Prog.Expands f h (history sem i rest) →
      ∃ moments, moments.Sublist rest ∧ List.Forall₂ placed (h.filter chosen) moments from
    hrest [] log rfl hexpands
  clear hexpands
  intro before rest hlog hrest
  generalize hk : history sem i rest = k at hrest
  induction hrest generalizing before rest with
  | nil => exact ⟨[], List.nil_sublist _, .nil⟩
  | @cons q r k h' h hq hmore ih =>
    obtain ⟨mid, after, rfl, rfl, rfl⟩ := of_history_append hk
    obtain ⟨moments, hsub, hall⟩ := ih (before ++ mid) after (by rw [hlog, List.append_assoc]) rfl
    cases hchosen : chosen ⟨q, r⟩ with
    | false =>
      rw [List.filter_cons_of_neg (by simp [hchosen])]
      exact ⟨moments, hsub.trans (List.sublist_append_right mid after), hall⟩
    | true =>
      obtain ⟨e, he, hat⟩ := hplace ⟨q, r⟩ before mid after hlog hq hchosen
      rw [List.filter_cons_of_pos hchosen]
      exact ⟨e :: moments, (List.singleton_sublist.mpr he).append hsub, .cons hat hall⟩

/-- A run is one of other programs too, where its calls have the same. -/
theorem Run.congr_body {body' : ι → C → Prog Q R ε α} {A : C → Prop}
    (hbody : ∀ i c, A c → body i c = body' i c) (h : Run sem body ok P log P')
    (hA : ∀ i c left, P'.slots i = some (c, left) → A c) : Run sem body' ok P log P' := by
  induction h with
  | nil => exact .nil
  | @start log' M i c _ hidle ih =>
    have hc : A c := hA i c (body i c) (by rw [set_slots, if_pos rfl])
    have hrest : ∀ j c' left, M.slots j = some (c', left) → A c' := by
      intro j c' left hslot
      refine hA j c' left ?_
      rw [set_slots, if_neg, hslot]
      rintro rfl
      rw [hidle] at hslot
      cases hslot
    rw [hbody i c hc]
    exact .start i c (ih hrest) hidle
  | @issue log' M i c q next _ hslot hok ih =>
    have hrest : ∀ j c' left, M.slots j = some (c', left) → A c' := by
      intro j c' left hslot'
      by_cases hj : j = i
      · subst hj
        rw [hslot] at hslot'
        cases hslot'
        exact hA j c _ (by rw [set_slots, if_pos rfl])
      · exact hA j c' left (by rw [set_slots, if_neg hj, hslot'])
    exact .issue i c q next (ih hrest) hslot hok

/-! ## A record beside the store -/

/-- A command of a run on a larger store, on the store in it. -/
def Issued.map {τ : Type} (π : τ → σ) (e : Issued ι C Q τ) : Issued ι C Q σ where
  slot := e.slot
  call := e.call
  command := e.command
  store := π e.store

/-- A run on a store is a run on a larger one that answers alike. -/
theorem Run.beside {τ : Type} {π : τ → σ} {sem' : (q : Q) → τ → τ × R q}
    (hsem : ∀ q t, sem q (π t) = (π (sem' q t).1, (sem' q t).2)) {t : τ}
    (h : Run sem body ok (.idle (π t)) log P') :
    ∃ log' t', Run sem' body (fun q t => ok q (π t)) (.idle t) log' ⟨t', P'.slots⟩ ∧
      π t' = P'.store ∧ log'.map (Issued.map π) = log := by
  induction h with
  | nil => exact ⟨[], t, .nil, rfl, rfl⟩
  | start i c _ hidle ih =>
    obtain ⟨log', t', hrun, hstore, hlog⟩ := ih
    exact ⟨log', t', .start i c hrun hidle, hstore, hlog⟩
  | issue i c q next _ hslot hok ih =>
    obtain ⟨log', t', hrun, hstore, hlog⟩ := ih
    rw [← hstore] at hok ⊢
    refine ⟨log' ++ [⟨i, c, q, t'⟩], (sem' q t').1, ?_, ?_, ?_⟩
    · rw [hsem]
      exact .issue i c q next hrun hslot hok
    · rw [hsem]
      rfl
    · rw [List.map_append, hlog]
      rfl

/-! ## The log of a schedule -/

section

variable (sem body ok) [∀ q s, Decidable (ok q s)]

/-- The command a schedule entry issues, if it issues one. -/
def issuedBy (P : Pool ι C Q R ε α σ) : Event ι C → List (Issued ι C Q σ)
  | .start _ _ => []
  | .tick i =>
    match P.slots i with
    | some (c, .call q _) => if ok q P.store then [⟨i, c, q, P.store⟩] else []
    | _ => []

/-- The commands a schedule issues. -/
def runLog (P : Pool ι C Q R ε α σ) : List (Event ι C) → List (Issued ι C Q σ)
  | [] => []
  | e :: es => P.issuedBy ok e ++ (P.fire sem body ok e).runLog es

variable {sem body ok}

theorem Run.fire (h : Run sem body ok P log P') (e : Event ι C) :
    Run sem body ok P (log ++ P'.issuedBy ok e) (P'.fire sem body ok e) := by
  cases e with
  | start i c =>
    rw [issuedBy, List.append_nil]
    cases hslot : P'.slots i with
    | none =>
      simp only [Pool.fire, hslot]
      exact .start i c h hslot
    | some x =>
      simp only [Pool.fire, hslot]
      exact h
  | tick i =>
    have hnothing : P'.issuedBy ok (.tick i : Event ι C) = [] → P'.fire sem body ok (.tick i) = P' →
        Run sem body ok P (log ++ P'.issuedBy ok (.tick i)) (P'.fire sem body ok (.tick i)) := by
      intro hnone hsame
      rw [hnone, hsame, List.append_nil]
      exact h
    rcases hslot : P'.slots i with _ | ⟨c, _ | _ | ⟨q, next⟩⟩
    · exact hnothing (by simp only [issuedBy, hslot]) (by simp only [Pool.fire, hslot])
    · exact hnothing (by simp only [issuedBy, hslot]) (by simp only [Pool.fire, hslot])
    · exact hnothing (by simp only [issuedBy, hslot]) (by simp only [Pool.fire, hslot])
    · by_cases hok : ok q P'.store
      · simp only [Pool.fire, issuedBy, hslot, if_pos hok]
        exact .issue i c q next h hslot hok
      · exact hnothing (by simp only [issuedBy, hslot, if_neg hok])
          (by simp only [Pool.fire, hslot, if_neg hok])

/-- A schedule is a run with the commands it issues. -/
theorem Run.of_schedule (h : Run sem body ok P log P') (es : List (Event ι C)) :
    Run sem body ok P (log ++ P'.runLog sem body ok es) (P'.run sem body ok es) := by
  induction es generalizing log P' with
  | nil =>
    rw [runLog, List.append_nil]
    exact h
  | cons e es ih =>
    have hrest := ih (h.fire e)
    rwa [List.append_assoc] at hrest

/-- A call that a slot serves after a schedule was started by it. -/
theorem start_mem_of_run {es : List (Event ι C)} {i : ι} {c : C} {p : Prog Q R ε α}
    (h : (P.run sem body ok es).slots i = some (c, p)) :
    (∃ p', P.slots i = some (c, p')) ∨ Event.start i c ∈ es := by
  induction es generalizing P with
  | nil => exact .inl ⟨p, h⟩
  | cons e es ih =>
    rcases ih (P := P.fire sem body ok e) h with ⟨p', hfired⟩ | hlater
    · cases e with
      | start j c' =>
        cases hslot : P.slots j with
        | some x =>
          simp only [Pool.fire, hslot] at hfired
          exact .inl ⟨p', hfired⟩
        | none =>
          simp only [Pool.fire, hslot, set_slots] at hfired
          split at hfired
          · rename_i hij
            cases hfired
            exact .inr (hij ▸ List.mem_cons_self)
          · exact .inl ⟨p', hfired⟩
      | tick j =>
        simp only [Pool.fire] at hfired
        split at hfired
        · rename_i c' q next hslot
          split at hfired
          · rw [set_slots] at hfired
            split at hfired
            · rename_i hij
              cases hfired
              exact .inl ⟨_, hij ▸ hslot⟩
            · exact .inl ⟨p', hfired⟩
          · exact .inl ⟨p', hfired⟩
        · exact .inl ⟨p', hfired⟩
    · exact .inr (List.mem_cons_of_mem _ hlater)

theorem run_runLog (P : Pool ι C Q R ε α σ) (es : List (Event ι C)) :
    Run sem body ok P (P.runLog sem body ok es) (P.run sem body ok es) := by
  have h : Run sem body ok P [] P := .nil
  exact h.of_schedule es

end

end Pool

end KaniNetwork
