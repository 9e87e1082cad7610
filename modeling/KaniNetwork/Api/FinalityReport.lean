/-
KaniNetwork.Api.FinalityReport — validator finality reports add up.

The report counts producers and votes by id and reads the counts back for
the validators of the engine, with a threshold formula of its own. Nothing
is lost, because every block of the in-memory node is `Accounted`: its
voters are validators of the engine and its producer is one of them.
Nothing is counted twice when the ids of the validators are distinct. The
threshold of the report is two thirds of the active validators rounded up,
which no engine undercuts (`required_le_finalityThreshold`).

The blocks of a report may be any of the chain, in any selection.
-/
import KaniNetwork.Api.Reports
import KaniNetwork.Base.Tally
import KaniNetwork.Consensus.Rotation
import KaniNetwork.Node.ChainIntegrity

namespace KaniNetwork

open InMemoryLedger

/-- The ids of the validators of an engine, active or not. -/
def ConfiguredConsensusEngine.ids (engine : ConfiguredConsensusEngine) : List String :=
  engine.validators.map Validator.id

/-- A block that names validators of the engine only, its producer among its
voters, with a quorum. -/
structure Accounted (engine : ConfiguredConsensusEngine) (b : Block) : Prop where
  producer_voted : b.validator ∈ b.finalizedBy
  voters : ∀ id ∈ b.finalizedBy, id ∈ engine.ids
  quorum : engine.finalityThreshold ≤ b.finalizedBy.length

/-! ## Blocks of the chain -/

theorem activeValidators_eq (engine : ConfiguredConsensusEngine) :
    engine.activeValidators = engine.validators.filter Validator.active := by
  cases engine <;> rfl

theorem BlockOk.accounted {n : KaniNode} {blocks : List Block} {i : Nat} {b : Block}
    (h : BlockOk n blocks i b) : Accounted n.consensus b where
  producer_voted := h.producer_voted
  voters := by
    intro id hid
    obtain ⟨v, hv, rfl⟩ := h.votes_active id hid
    rw [activeValidators_eq] at hv
    exact List.mem_map_of_mem (List.mem_of_mem_filter hv)
  quorum := h.quorum

theorem accounted_run (n : KaniNode) (d : Draws) (ops : List NodeOp) :
    ∀ b ∈ (n.run (sandbox d) ops).blocks, Accounted n.consensus b := by
  intro b hb
  obtain ⟨i, hi⟩ := List.mem_iff_getElem?.mp hb
  exact (chainOk_run n d ops i b hi).accounted

/-! ## Thresholds -/

/-- The threshold of the report is no higher than that of the engine. -/
theorem required_le_finalityThreshold (engine : ConfiguredConsensusEngine) :
    requiredPhase1FinalityVotes engine.activeValidators.length ≤ engine.finalityThreshold := by
  have hbounds := engine.finalityThreshold_bounds.1
  unfold requiredPhase1FinalityVotes
  split
  · exact Nat.zero_le _
  · omega

theorem length_active (n : KaniNode) :
    (n.validators.filter ValidatorInfo.active).length = n.consensus.activeValidators.length := by
  rw [activeValidators_eq, KaniNode.validators, List.filter_map, List.length_map]
  rfl

/-! ## Counts -/

theorem foldl_incrementCount (keys : List String) :
    keys.foldl incrementCount .new = BTreeMap.addAll .new (keys.map fun k => (k, 1)) := by
  rw [BTreeMap.addAll, List.foldl_map]
  rfl

theorem getD_get_count (keys : List String) (id : String) :
    ((keys.foldl incrementCount .new).get id).getD 0 = keys.count id := by
  rw [foldl_incrementCount]
  exact BTreeMap.amount_count keys id

/-- The rows of a report count producers and votes. -/
theorem validators_report (toRfc3339 : DateTime → String) (filter : ReportFilter)
    (blocks : List Block) (n : KaniNode) :
    (buildValidatorFinalityReport toRfc3339 filter blocks n.validators).validators.map
        (fun row => (row.producedBlocks, row.finalityVotes)) =
      n.consensus.ids.map fun id =>
        ((blocks.map Block.validator).count id, (blocks.flatMap Block.finalizedBy).count id) := by
  have hproduced : blocks.foldl (fun counts block => incrementCount counts block.validator) .new =
      (blocks.map Block.validator).foldl incrementCount .new := by
    rw [List.foldl_map]
  simp only [buildValidatorFinalityReport, hproduced, getD_get_count, List.map_map,
    ConfiguredConsensusEngine.ids, KaniNode.validators]
  rfl

/-- Who produced a block voted for it. -/
theorem count_producers_le {blocks : List Block}
    (h : ∀ b ∈ blocks, b.validator ∈ b.finalizedBy) (id : String) :
    (blocks.map Block.validator).count id ≤ (blocks.flatMap Block.finalizedBy).count id := by
  induction blocks with
  | nil => exact Nat.le_refl 0
  | cons b blocks ih =>
    have hrest := ih fun b' hb' => h b' (List.mem_cons_of_mem _ hb')
    rw [List.map_cons, List.count_cons, List.flatMap_cons, List.count_append]
    split
    · rename_i heq
      have hvoted := h b List.mem_cons_self
      rw [eq_of_beq heq] at hvoted
      have hpos := List.count_pos_iff.mpr hvoted
      omega
    · omega

/-! ## The report -/

section

variable {n : KaniNode} {blocks : List Block} (toRfc3339 : DateTime → String)
  (filter : ReportFilter)

/-- The produced blocks of the rows are the blocks. -/
theorem sum_producedBlocks (hids : n.consensus.ids.Nodup)
    (h : ∀ b ∈ blocks, Accounted n.consensus b) :
    ((buildValidatorFinalityReport toRfc3339 filter blocks n.validators).validators.map
      ValidatorFinalityRow.producedBlocks).sum = blocks.length := by
  have hrows := congrArg (List.map Prod.fst) (validators_report toRfc3339 filter blocks n)
  rw [List.map_map, List.map_map] at hrows
  have hcover : ∀ id ∈ blocks.map Block.validator, id ∈ n.consensus.ids := by
    intro id hid
    obtain ⟨b, hb, rfl⟩ := List.mem_map.mp hid
    exact (h b hb).voters _ (h b hb).producer_voted
  have hsum := BTreeMap.sum_count hids hcover
  rw [List.length_map] at hsum
  exact (congrArg List.sum hrows).trans hsum

/-- Their votes are the votes of the blocks. -/
theorem sum_finalityVotes (hids : n.consensus.ids.Nodup)
    (h : ∀ b ∈ blocks, Accounted n.consensus b) :
    ((buildValidatorFinalityReport toRfc3339 filter blocks n.validators).validators.map
      ValidatorFinalityRow.finalityVotes).sum =
        (blocks.map fun block => block.finalizedBy.length).sum := by
  have hrows := congrArg (List.map Prod.snd) (validators_report toRfc3339 filter blocks n)
  rw [List.map_map, List.map_map] at hrows
  have hcover : ∀ id ∈ blocks.flatMap Block.finalizedBy, id ∈ n.consensus.ids := by
    intro id hid
    obtain ⟨b, hb, hvoted⟩ := List.mem_flatMap.mp hid
    exact (h b hb).voters id hvoted
  have hsum := BTreeMap.sum_count hids hcover
  rw [List.length_flatMap] at hsum
  exact (congrArg List.sum hrows).trans hsum

theorem producedBlocks_le_finalityVotes (h : ∀ b ∈ blocks, Accounted n.consensus b)
    {row : ValidatorFinalityRow}
    (hrow : row ∈ (buildValidatorFinalityReport toRfc3339 filter blocks n.validators).validators) :
    row.producedBlocks ≤ row.finalityVotes := by
  have hmem := List.mem_map_of_mem
    (f := fun row : ValidatorFinalityRow => (row.producedBlocks, row.finalityVotes)) hrow
  rw [validators_report, List.mem_map] at hmem
  obtain ⟨id, -, heq⟩ := hmem
  obtain ⟨hproduced, hvotes⟩ := Prod.mk.inj heq
  rw [← hproduced, ← hvotes]
  exact count_producers_le (fun b hb => (h b hb).producer_voted) id

/-- The quorum of every block meets the threshold of the report. -/
theorem required_le_finalizedBy (h : ∀ b ∈ blocks, Accounted n.consensus b) {b : Block}
    (hb : b ∈ blocks) :
    requiredPhase1FinalityVotes (n.validators.filter ValidatorInfo.active).length ≤
      b.finalizedBy.length := by
  rw [length_active]
  exact (required_le_finalityThreshold n.consensus).trans (h b hb).quorum

theorem finalizedBlockCount_eq (h : ∀ b ∈ blocks, Accounted n.consensus b) :
    (buildValidatorFinalityReport toRfc3339 filter blocks n.validators).finalizedBlockCount =
      blocks.length := by
  have hall : (blocks.filter fun block => decide (requiredPhase1FinalityVotes
      (n.validators.filter ValidatorInfo.active).length ≤ block.finalizedBy.length)) = blocks := by
    refine List.filter_eq_self.mpr fun b hb => ?_
    exact decide_eq_true (required_le_finalizedBy h hb)
  exact congrArg List.length hall

theorem blocksBelowThreshold_eq (h : ∀ b ∈ blocks, Accounted n.consensus b) :
    (buildValidatorFinalityReport toRfc3339 filter blocks n.validators).blocksBelowThreshold =
      0 := by
  have hnone : (blocks.filter fun block => decide (block.finalizedBy.length <
      requiredPhase1FinalityVotes (n.validators.filter ValidatorInfo.active).length)) = [] := by
    refine List.filter_eq_nil_iff.mpr fun b hb => ?_
    rw [decide_eq_true_eq]
    exact Nat.not_lt.mpr (required_le_finalizedBy h hb)
  exact congrArg List.length hnone

end

/-- **Validator finality reports reconcile.** For every engine with distinct
validator ids, every chain the in-memory node reaches with it and every
selection of its blocks: the produced blocks of the rows are the blocks,
their votes are the votes of the blocks, no block is below the threshold,
and no row has produced more than it voted for. -/
theorem validator_finality_reconciles (n : KaniNode) (hids : n.consensus.ids.Nodup) (d : Draws)
    (ops : List NodeOp) {blocks : List Block}
    (hblocks : blocks.Sublist (n.run (sandbox d) ops).blocks) (toRfc3339 : DateTime → String)
    (filter : ReportFilter) :
    let report := buildValidatorFinalityReport toRfc3339 filter blocks n.validators
    (report.validators.map ValidatorFinalityRow.producedBlocks).sum = report.blockCount ∧
      (report.validators.map ValidatorFinalityRow.finalityVotes).sum =
        (blocks.map fun block => block.finalizedBy.length).sum ∧
      report.finalizedBlockCount + report.blocksBelowThreshold = report.blockCount ∧
      report.blocksBelowThreshold = 0 ∧
      ∀ row ∈ report.validators, row.producedBlocks ≤ row.finalityVotes := by
  intro report
  have haccounted : ∀ b ∈ blocks, Accounted n.consensus b :=
    fun b hb => accounted_run n d ops b (hblocks.subset hb)
  have hfinalized : report.finalizedBlockCount = blocks.length :=
    finalizedBlockCount_eq toRfc3339 filter haccounted
  have hbelow : report.blocksBelowThreshold = 0 :=
    blocksBelowThreshold_eq toRfc3339 filter haccounted
  refine ⟨sum_producedBlocks toRfc3339 filter hids haccounted,
    sum_finalityVotes toRfc3339 filter hids haccounted, ?_, hbelow,
    fun _ hrow => producedBlocks_le_finalityVotes toRfc3339 filter haccounted hrow⟩
  rw [hfinalized, hbelow]
  rfl

/-- The second of two sandbox mints, each with two of three votes. -/
theorem validator_finality_reconciles_example :
    let n : KaniNode := ⟨.sample, phase1Engine, .hybridPqcV1⟩
    let l := n.run (sandbox (.numbered "s" 0))
      [.mintSandbox (.numbered "a" 1) SANDBOX_TREASURY_ACCOUNT SANDBOX_CORP_A_ACCOUNT KCAD_TEST 5,
        .mintSandbox (.numbered "b" 2) SANDBOX_TREASURY_ACCOUNT SANDBOX_CORP_A_ACCOUNT KCAD_TEST 6]
    let report :=
      buildValidatorFinalityReport toString ⟨none, none, 500, 0⟩ (l.blocks.drop 1) n.validators
    (report.validators.map ValidatorFinalityRow.producedBlocks).sum = 1 ∧
      (report.validators.map ValidatorFinalityRow.finalityVotes).sum = 2 ∧
      report.blocksBelowThreshold = 0 := by
  intro n l report
  obtain ⟨hproduced, hvotes, -, hbelow, -⟩ := validator_finality_reconciles n (by decide)
    (.numbered "s" 0) _ (List.drop_sublist 1 l.blocks) toString ⟨none, none, 500, 0⟩
  exact ⟨hproduced.trans (by decide +kernel), hvotes.trans (by decide +kernel), hbelow⟩

end KaniNetwork
