/-
KaniNetwork.Consensus.Rotation — who leads and who votes at each height.

The leader of a height is the active entry at a position that goes round
with the height. The votes are the ids on a window of the ring of active
entries; the window begins where the leader's id stands first, which is the
leader's own position only when ids are distinct (`votesAt_eq`).

With distinct ids every turn of `n` heights gives each active validator one
turn as leader and one place in `finality_threshold` of the vote lists
(`fair_rotation`).
-/
import KaniNetwork.Base.RoundRobin
import KaniNetwork.Consensus.Engine

namespace KaniNetwork

/-! ## The ring of active entries -/

/-- The id at a position. -/
def idAt (active : List Validator) (i : Nat) : Option String := active[i]?.map Validator.id

/-- The position of the leader, counted from the first height. -/
def turnOf (height : Int) : Nat := (height - 1).toNat

theorem turnOf_add {height : Int} (hh : 1 ≤ height) (k : Nat) :
    turnOf (height + k) = turnOf height + k := by
  unfold turnOf
  omega

/-- Positions have distinct labels when no id is listed twice. -/
theorem distinct_idAt_iff {active : List Validator} :
    Distinct (idAt active) active.length ↔ (active.map Validator.id).Nodup := by
  have hlabel : ∀ i, idAt active i = (active.map Validator.id)[i]? := by
    intro i
    rw [idAt, List.getElem?_map]
  constructor
  · intro h
    rw [List.nodup_iff_getElem?_ne_getElem?]
    intro i j hij hj heq
    rw [List.length_map] at hj
    rw [← hlabel, ← hlabel] at heq
    have := h i (hij.trans hj) j hj heq
    omega
  · intro h i hi j hj heq
    rw [hlabel, hlabel] at heq
    exact (List.getElem?_inj (by rwa [List.length_map]) h).mp heq

theorem leaderAt_eq {active : List Validator} {height : Int} (hn : 3 ≤ active.length)
    (hh : 1 ≤ height) :
    ∃ leader, leaderAt active height = .ok leader ∧
      active[turnOf height % active.length]? = some leader := by
  unfold leaderAt
  rw [if_neg (by omega), dif_neg (by omega)]
  exact ⟨_, rfl, List.getElem?_eq_getElem _⟩

/-- What a vote list is: the ids on a window that begins at the first
position `first` of the leader's id. -/
structure VotesFrom (active : List Validator) (threshold first : Nat) (leader : Validator)
    (votes : List String) : Prop where
  lt_length : first < active.length
  leader_id : idAt active first = some leader.id
  is_first : IsFirst (idAt active) first
  votes_eq : votes.map some = (ring active.length first threshold).map (idAt active)

theorem votesAt_eq {active : List Validator} {height : Int} (threshold : Nat)
    (hn : 3 ≤ active.length) (hh : 1 ≤ height) :
    ∃ leader first votes, leaderAt active height = .ok leader ∧
      active[turnOf height % active.length]? = some leader ∧
      votesAt active threshold height = .ok votes ∧
      VotesFrom active threshold first leader votes := by
  obtain ⟨leader, hleader, hpos⟩ := leaderAt_eq hn hh
  have hmem : leader ∈ active := List.mem_of_getElem? hpos
  unfold votesAt
  rw [dif_neg (by omega)]
  simp only [hleader, ok_bind]
  cases hfind : active.findIdx? fun v => v.id = leader.id with
  | none =>
    have hno := List.findIdx?_eq_none_iff.mp hfind leader hmem
    simp at hno
  | some first =>
    obtain ⟨hlt, hid, hbefore⟩ := List.findIdx?_eq_some_iff_getElem.mp hfind
    simp only [decide_eq_true_eq] at hid hbefore
    refine ⟨leader, first, _, rfl, hpos, rfl, hlt, ?_, ?_, ?_⟩
    · simp only [idAt, List.getElem?_eq_getElem hlt, Option.map_some, hid]
    · intro j hj heq
      simp only [idAt, List.getElem?_eq_getElem hlt, List.getElem?_eq_getElem (hj.trans hlt),
        Option.map_some, Option.some.injEq] at heq
      exact hbefore j hj (heq.trans hid)
    · simp only [ring, List.map_map]
      refine List.map_congr_left ?_
      intro offset _
      have hpos : (first + offset) % active.length < active.length := Nat.mod_lt _ (by omega)
      simp only [Function.comp, idAt, List.getElem?_eq_getElem hpos, Option.map_some]
      rfl

namespace VotesFrom

variable {active : List Validator} {threshold first : Nat} {leader : Validator}
  {votes : List String}

theorem length_eq (h : VotesFrom active threshold first leader votes) :
    votes.length = threshold := by
  have hlen := congrArg List.length h.votes_eq
  rwa [List.length_map, List.length_map, length_ring] at hlen

theorem mem_iff (h : VotesFrom active threshold first leader votes) (id : String) :
    id ∈ votes ↔ ∃ i ∈ ring active.length first threshold, idAt active i = some id := by
  have hmem : id ∈ votes ↔ some id ∈ votes.map some := by simp
  rw [hmem, h.votes_eq, List.mem_map]

/-- Voters are active. -/
theorem active_of_mem (h : VotesFrom active threshold first leader votes) {id : String}
    (hid : id ∈ votes) : id ∈ active.map Validator.id := by
  obtain ⟨i, -, hi⟩ := (h.mem_iff id).mp hid
  obtain ⟨v, hv, rfl⟩ := Option.map_eq_some_iff.mp hi
  exact List.mem_map_of_mem (List.mem_of_getElem? hv)

/-- The leader votes. -/
theorem leader_mem (h : VotesFrom active threshold first leader votes) (hpos : 0 < threshold) :
    leader.id ∈ votes := by
  refine (h.mem_iff leader.id).mpr ⟨first, mem_ring.mpr ⟨0, hpos, ?_⟩, h.leader_id⟩
  rw [Nat.add_zero, Nat.mod_eq_of_lt h.lt_length]

theorem nodup_iff (h : VotesFrom active threshold first leader votes) :
    votes.Nodup ↔ ((ring active.length first threshold).map (idAt active)).Nodup := by
  rw [← h.votes_eq, List.nodup_map_iff (Option.some_injective _)]

end VotesFrom

/-! ## Engines -/

namespace ConfiguredConsensusEngine

theorem enough (engine : ConfiguredConsensusEngine) : 3 ≤ engine.activeValidators.length := by
  cases engine with
  | poa engine => exact engine.enough
  | bft engine => exact engine.enough

theorem leaderForHeight_eq (engine : ConfiguredConsensusEngine) (height : Int) :
    engine.leaderForHeight height = leaderAt engine.activeValidators height := by
  cases engine <;> rfl

theorem finalityVotesForBlock_eq (engine : ConfiguredConsensusEngine) (height : Int) :
    engine.finalityVotesForBlock height =
      votesAt engine.activeValidators engine.finalityThreshold height := by
  cases engine <;> rfl

/-- Both thresholds are at least two thirds, and at most all, of the active
validators. -/
theorem finalityThreshold_bounds (engine : ConfiguredConsensusEngine) :
    2 * engine.activeValidators.length ≤ 3 * engine.finalityThreshold ∧
      engine.finalityThreshold ≤ engine.activeValidators.length := by
  have hn := engine.enough
  cases engine with
  | poa engine =>
    simp only [activeValidators, finalityThreshold, PoAConsensus.finalityThreshold] at hn ⊢
    omega
  | bft engine =>
    simp only [activeValidators, finalityThreshold, BftConsensus.finalityThreshold] at hn ⊢
    omega

theorem finalityThreshold_pos (engine : ConfiguredConsensusEngine) :
    0 < engine.finalityThreshold := by
  have hn := engine.enough
  have hlow := engine.finalityThreshold_bounds.1
  omega

/-- The leader and the votes of a height. -/
theorem votes_of_height (engine : ConfiguredConsensusEngine) {height : Int} (hh : 1 ≤ height) :
    ∃ leader first votes, engine.leaderForHeight height = .ok leader ∧
      engine.activeValidators[turnOf height % engine.activeValidators.length]? = some leader ∧
      engine.finalityVotesForBlock height = .ok votes ∧
      VotesFrom engine.activeValidators engine.finalityThreshold first leader votes := by
  rw [leaderForHeight_eq, finalityVotesForBlock_eq]
  exact votesAt_eq engine.finalityThreshold engine.enough hh

end ConfiguredConsensusEngine

/-! ## One turn of heights -/

theorem countP_forall₂ {α β : Type} {P : α → β → Prop} {p : α → Bool} {q : β → Bool}
    {xs : List α} {bs : List β} (h : List.Forall₂ P xs bs) (hpq : ∀ a b, P a b → q b = p a) :
    bs.countP q = xs.countP p := by
  induction h with
  | nil => rfl
  | cons hP _ ih => rw [List.countP_cons, List.countP_cons, ih, hpq _ _ hP]

section

variable (engine : ConfiguredConsensusEngine) {height : Int}

/-- The leaders of one turn, each at the position of its height. -/
theorem leaders_of_turn (hh : 1 ≤ height) :
    ∃ leaders, (List.range engine.activeValidators.length).mapM
        (fun k : Nat => engine.leaderForHeight (height + k)) = .ok leaders ∧
      List.Forall₂ (fun k leader => engine.activeValidators[(turnOf height + k) %
          engine.activeValidators.length]? = some leader)
        (List.range engine.activeValidators.length) leaders := by
  refine mapM_forall₂ ?_
  intro k _
  obtain ⟨leader, -, -, hleader, hpos, -, -⟩ :=
    engine.votes_of_height (show 1 ≤ height + k by omega)
  rw [turnOf_add hh] at hpos
  exact ⟨leader, hleader, hpos⟩

/-- The vote lists of one turn: with distinct ids the window of a height
begins at the position of the height. -/
theorem votes_of_turn (hids : Distinct (idAt engine.activeValidators) engine.activeValidators.length)
    (hh : 1 ≤ height) :
    ∃ votes, (List.range engine.activeValidators.length).mapM
        (fun k : Nat => engine.finalityVotesForBlock (height + k)) = .ok votes ∧
      List.Forall₂ (fun k ids => ∀ id, id ∈ ids ↔ ∃ i ∈ ring engine.activeValidators.length
          (turnOf height + k) engine.finalityThreshold, idAt engine.activeValidators i = some id)
        (List.range engine.activeValidators.length) votes := by
  refine mapM_forall₂ ?_
  intro k _
  have henough := engine.enough
  obtain ⟨leader, first, ids, -, hpos, hvotes, hfrom⟩ :=
    engine.votes_of_height (show 1 ≤ height + k by omega)
  rw [turnOf_add hh] at hpos
  have hlt : (turnOf height + k) % engine.activeValidators.length <
      engine.activeValidators.length := Nat.mod_lt _ (by omega)
  have hfirst : first = (turnOf height + k) % engine.activeValidators.length := by
    refine hids first hfrom.lt_length _ hlt ?_
    rw [hfrom.leader_id, idAt, hpos, Option.map_some]
  refine ⟨ids, hvotes, fun id => ?_⟩
  rw [hfrom.mem_iff, hfirst, ring_mod]

end

section

variable {active : List Validator} (hids : Distinct (idAt active) active.length) {i turn : Nat}
  (hi : i < active.length)

include hids

/-- An entry leads a turn when the window of length one there is its position. -/
theorem leads_iff_mem_ring {leader : Validator}
    (hpos : active[turn % active.length]? = some leader) :
    leader = active[i] ↔ i ∈ ring active.length turn 1 := by
  have hlt : turn % active.length < active.length := Nat.mod_lt _ (by omega)
  rw [mem_ring]
  constructor
  · intro hleader
    refine ⟨0, by omega, hids _ hlt i hi ?_⟩
    rw [idAt, idAt, List.getElem?_eq_getElem hi, ← hleader, hpos]
  · intro ⟨offset, hoffset, hmod⟩
    obtain rfl : offset = 0 := by omega
    rw [Nat.add_zero] at hmod
    rw [hmod, List.getElem?_eq_getElem hi] at hpos
    exact (Option.some.inj hpos).symm

/-- An entry votes when its position is in the window. -/
theorem votes_iff_mem_ring {threshold : Nat} {ids : List String}
    (hmem : ∀ id, id ∈ ids ↔ ∃ j ∈ ring active.length turn threshold, idAt active j = some id) :
    active[i].id ∈ ids ↔ i ∈ ring active.length turn threshold := by
  have hidAt : idAt active i = some active[i].id := by
    rw [idAt, List.getElem?_eq_getElem hi, Option.map_some]
  rw [hmem]
  constructor
  · intro ⟨j, hj, hid⟩
    have hlt : j < active.length := lt_of_mem_ring (by omega) hj
    rwa [← hids j hlt i hi (hid.trans hidAt.symm)]
  · intro hi'
    exact ⟨i, hi', hidAt⟩

end

/-- **Fair rotation.** When the ids of the `n` active validators are
distinct, from any height `height ≥ 1` on, over `n` heights in a row each
active validator is leader once, and its id is in as many of the `n` vote
lists as the threshold says. -/
theorem fair_rotation (engine : ConfiguredConsensusEngine)
    (hids : (engine.activeValidators.map Validator.id).Nodup) {height : Int} (hh : 1 ≤ height) :
    let n := engine.activeValidators.length
    ∃ leaders votes,
      (List.range n).mapM (fun k : Nat => engine.leaderForHeight (height + k)) = .ok leaders ∧
      (List.range n).mapM (fun k : Nat => engine.finalityVotesForBlock (height + k)) = .ok votes ∧
      ∀ v ∈ engine.activeValidators, leaders.count v = 1 ∧
        votes.countP (fun ids => v.id ∈ ids) = engine.finalityThreshold := by
  intro n
  have hn : 3 ≤ n := engine.enough
  have hdistinct : Distinct (idAt engine.activeValidators) n := distinct_idAt_iff.mpr hids
  obtain ⟨leaders, hleaders, hled⟩ := leaders_of_turn engine hh
  obtain ⟨votes, hvotes, hvoted⟩ := votes_of_turn engine hdistinct hh
  refine ⟨leaders, votes, hleaders, hvotes, ?_⟩
  intro v hv
  obtain ⟨i, hi, rfl⟩ := List.mem_iff_getElem.mp hv
  constructor
  · have hcount := countP_forall₂ (p := fun k => decide (i ∈ ring n (turnOf height + k) 1))
      (q := fun leader => leader == engine.activeValidators[i]) hled ?_
    · rw [List.count_eq_countP, hcount]
      exact count_ring (by omega) hi _
    · intro k leader hpos
      simp only [beq_eq_decide, leads_iff_mem_ring hdistinct hi hpos, n]
  · have hcount := countP_forall₂
      (p := fun k => decide (i ∈ ring n (turnOf height + k) engine.finalityThreshold))
      (q := fun ids => decide (engine.activeValidators[i].id ∈ ids)) hvoted ?_
    · rw [hcount]
      exact count_ring engine.finalityThreshold_bounds.2 hi _
    · intro k ids hmem
      simp only [votes_iff_mem_ring hdistinct hi hmem, n]

/-- Four active validators and an inactive one. -/
def exampleFiveValidators : List Validator :=
  [.newActive "a" "1", ⟨"idle", "2", false⟩, .newActive "b" "3", .newActive "c" "4",
    .newActive "d" "5"]

/-- A BFT prototype over them. -/
def exampleFourActive : ConfiguredConsensusEngine :=
  .bft {
    engineId := SANDBOX_BFT_ENGINE_ID
    validators := exampleFiveValidators
    validatorSet := BftConsensus.sandboxValidatorSet 0 exampleFiveValidators
    epoch := SANDBOX_BFT_EPOCH
    enough := by decide }

/-- Heights 7 to 10 of four active validators. -/
theorem fair_rotation_example : ∃ leaders votes,
    (List.range 4).mapM (fun k : Nat => exampleFourActive.leaderForHeight (7 + k)) = .ok leaders ∧
    (List.range 4).mapM (fun k : Nat => exampleFourActive.finalityVotesForBlock (7 + k)) =
      .ok votes ∧
    ∀ v ∈ exampleFourActive.activeValidators, leaders.count v = 1 ∧
      votes.countP (fun ids => v.id ∈ ids) = exampleFourActive.finalityThreshold :=
  fair_rotation exampleFourActive (by decide) (by decide)

end KaniNetwork
