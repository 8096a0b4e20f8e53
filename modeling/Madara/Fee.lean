import Madara.Lib.FixedPoint
import Madara.Lib.Transactional
import Madara.State

/-! The transaction fee (`calculate_tx_fee`, `crates/primitives/fee/src/lib.rs`).
The resources mapping holds the L1 gas used under `l1_gas_usage` and the count
of each VM resource. Every count is weighed with `VM_RESOURCE_FEE_COSTS` and
the largest weighted count is kept. The L1 gas is added to it, the sum is
rounded up, and the result is multiplied by the gas price. The arithmetic is
`sp_arithmetic`'s `FixedU128` (`Lib/FixedPoint`). Its conversions are checked,
its `mul` panics on overflow, its `+` is raw `u128` addition, which wraps in a
release build, and its `ceil` saturates.

The rule the fee should follow is stated on exact rationals: `txFeeExact`,
with the weights as decimals (`vmResourceWeights`). When every quantity of the
rule fits (`FeeFits`), the code computes it exactly
(`calculateTxFee_of_fits`). An unknown resource is refused
(`calculateTxFee_of_unknown`). A weighted count too large for `FixedU128`
makes the code panic (`calculateTxFee_of_overflow`) where the rule asks for
`FixedPointConversion`, and a total too large for it wraps into a small fee
(`fee_panics_or_wraps_past_fixed_u128`). -/
namespace Madara.Fee

open FixedPoint Madara.Transactions Madara.State

/-- `sp_arithmetic::FixedU128`: a `u128` counting units of `10^-18`. -/
def fixedU128 : Format := ⟨2 ^ 128, 10 ^ 18, by norm_num, by norm_num⟩

abbrev FixedU128 := Fixed fixedU128

/-- `GAS_USAGE`, blockifier's key of the L1 gas in a resources mapping. -/
def gasUsage : String := "l1_gas_usage"

/-- `VM_RESOURCE_FEE_COSTS`, by the inner values of its weights. -/
def vmResourceFeeCosts : List (String × FixedU128) :=
  [("n_steps", ⟨10000000000000000, by decide⟩),
    ("pedersen_builtin", ⟨320000000000000000, by decide⟩),
    ("range_check_builtin", ⟨160000000000000000, by decide⟩),
    ("ecdsa_builtin", ⟨20480000000000000000, by decide⟩),
    ("bitwise_builtin", ⟨640000000000000000, by decide⟩),
    ("poseidon_builtin", ⟨320000000000000000, by decide⟩),
    ("ec_op_builtin", ⟨10240000000000000000, by decide⟩)]

/-- `ResourcesMapping(HashMap<String, usize>)`, by its entries in iteration
order; a key appears once. -/
structure ResourcesMapping where
  entries : List (String × UInt64)
  keys_nodup : (entries.map Prod.fst).Nodup

/-- `extract_l1_gas_and_vm_usage`: the L1 gas is removed from the mapping. The
`expect` panics when it is absent. -/
def extractL1GasAndVmUsage (resources : ResourcesMapping) : Option (UInt64 × ResourcesMapping) :=
  match resources.entries.lookup gasUsage with
  | none => none
  | some l1GasUsage =>
    some (l1GasUsage, ⟨resources.entries.filter (·.1 != gasUsage),
      resources.keys_nodup.sublist (List.filter_sublist.map Prod.fst)⟩)

/-- One item of `calculate_l1_gas_by_vm_usage`'s map: the count converted with
`checked_from_integer`, its cost looked up with `unwrap`, and their product
taken with `mul`, which panics on overflow. -/
def weighResource (entry : String × UInt64) : Option (Except TransactionExecutionError FixedU128) :=
  (Fixed.checkedFromInteger entry.2.toNat : Option FixedU128).elim (some (.error .fixedPointConversion))
    fun converted => (vmResourceFeeCosts.lookup entry.1).bind fun cost => (cost.checkedMul converted).map .ok

/-- The `try_fold` of `calculate_l1_gas_by_vm_usage`: the largest product is
kept, and the first error or panic stops it. -/
def vmL1GasUsage : List (String × UInt64) → FixedU128 → Option (Except TransactionExecutionError FixedU128)
  | [], accum => some (.ok accum)
  | entry :: rest, accum =>
    (weighResource entry).bind fun weighed =>
      match weighed with
      | .error error => some (.error error)
      | .ok product => vmL1GasUsage rest (product.max accum)

/-- `calculate_l1_gas_by_vm_usage`. -/
def calculateL1GasByVmUsage (vmResourceUsage : ResourcesMapping) :
    Option (Except TransactionExecutionError FixedU128) :=
  if vmResourceUsage.entries.any (fun entry => (vmResourceFeeCosts.lookup entry.1).isNone) then
    some (.error .cairoResourcesNotContainedInFeeCosts)
  else vmL1GasUsage vmResourceUsage.entries Fixed.zero

/-- `calculate_tx_fee`: `none` is a panic. Each `ok_or(FixedPointConversion)`
is an `Option.elim`. -/
def calculateTxFee (resources : ResourcesMapping) (blockContext : BlockContext) :
    Option (Except TransactionExecutionError U128) :=
  (extractL1GasAndVmUsage resources).bind fun (l1GasUsage, vmResources) =>
    (calculateL1GasByVmUsage vmResources).map fun computed => do
      let l1GasByVmUsage ← computed
      let l1Gas ← (Fixed.checkedFromInteger l1GasUsage.toNat : Option FixedU128).elim
        (.error .fixedPointConversion) .ok
      let totalL1GasUsage := l1Gas.wrappingAdd l1GasByVmUsage
      (totalL1GasUsage.ceil.checkedMulInt blockContext.gasPrice.val (2 ^ 128)).elim
        (.error .fixedPointConversion) .ok

/-! ### The rule, on exact rationals -/

/-- The weights of `VM_RESOURCE_FEE_COSTS`, as exact decimals. -/
def vmResourceWeights : List (String × ℚ) :=
  [("n_steps", 1 / 100), ("pedersen_builtin", 32 / 100), ("range_check_builtin", 16 / 100),
    ("ecdsa_builtin", 2048 / 100), ("bitwise_builtin", 64 / 100), ("poseidon_builtin", 32 / 100),
    ("ec_op_builtin", 1024 / 100)]

/-- The L1 gas of the heaviest VM resource. -/
def vmL1GasExact (usage : List (String × UInt64)) : ℚ :=
  (usage.map fun entry => (vmResourceWeights.lookup entry.1).getD 0 * entry.2.toNat).foldr max 0

/-- The fee the rule asks for: the L1 gas plus the heaviest VM resource,
rounded up, times the gas price. -/
def txFeeExact (l1GasUsage : UInt64) (usage : List (String × UInt64)) (gasPrice : U128) : Nat :=
  ⌈(l1GasUsage.toNat : ℚ) + vmL1GasExact usage⌉₊ * gasPrice.val

/-- Every quantity of the rule fits: each weighted count, the total and its
ceiling in `FixedU128`, the fee in `u128`. -/
def FeeFits (l1GasUsage : UInt64) (usage : List (String × UInt64)) (gasPrice : U128) : Prop :=
  (∀ entry ∈ usage, (vmResourceWeights.lookup entry.1).getD 0 * entry.2.toNat * 10 ^ 18 < 2 ^ 128) ∧
    ((l1GasUsage.toNat : ℚ) + vmL1GasExact usage) * 10 ^ 18 < 2 ^ 128 ∧
    ⌈(l1GasUsage.toNat : ℚ) + vmL1GasExact usage⌉₊ * 10 ^ 18 < 2 ^ 128 ∧
    txFeeExact l1GasUsage usage gasPrice < 2 ^ 128

/-! ### The costs are the weights -/

/-- The inner value of a resource's cost; `0` for an unknown resource. -/
def costInner (key : String) : Nat := ((vmResourceFeeCosts.lookup key).map (·.inner)).getD 0

/-- The largest weighted count, as an inner value. -/
def maxProduct (usage : List (String × UInt64)) : Nat :=
  (usage.map fun entry => costInner entry.1 * entry.2.toNat).foldr max 0

theorem lookup_map_snd {α β γ : Type} [BEq α] (f : β → γ) (key : α) (entries : List (α × β)) :
    (entries.map fun entry => (entry.1, f entry.2)).lookup key = (entries.lookup key).map f := by
  induction entries with
  | nil => rfl
  | cons entry entries ih =>
    obtain ⟨k, v⟩ := entry
    simp only [List.map_cons, List.lookup_cons]
    cases key == k with
    | true => rfl
    | false => exact ih

/-- The weights are the costs, read as rationals. -/
theorem vmResourceWeights_eq :
    vmResourceWeights = vmResourceFeeCosts.map fun entry => (entry.1, (entry.2.inner : ℚ) / 10 ^ 18) := by
  simp only [vmResourceWeights, vmResourceFeeCosts, List.map_cons, List.map_nil]
  norm_num

theorem weight_mul_scale (key : String) :
    (vmResourceWeights.lookup key).getD 0 * 10 ^ 18 = (costInner key : ℚ) := by
  rw [vmResourceWeights_eq, lookup_map_snd (fun cost : FixedU128 => (cost.inner : ℚ) / 10 ^ 18), costInner]
  cases vmResourceFeeCosts.lookup key with
  | none => simp
  | some cost =>
    simp only [Option.map_some, Option.getD_some]
    field_simp

theorem vmL1GasExact_mul_scale (usage : List (String × UInt64)) :
    vmL1GasExact usage * 10 ^ 18 = (maxProduct usage : ℚ) := by
  induction usage with
  | nil => simp [vmL1GasExact, maxProduct]
  | cons entry usage ih =>
    have weighted : (vmResourceWeights.lookup entry.1).getD 0 * entry.2.toNat * 10 ^ 18 =
        ((costInner entry.1 * entry.2.toNat : Nat) : ℚ) := by
      rw [mul_right_comm, weight_mul_scale]
      push_cast
      rfl
    simp only [vmL1GasExact, maxProduct, List.map_cons, List.foldr_cons] at ih ⊢
    rw [max_mul_of_nonneg _ _ (by norm_num), weighted, ih, Nat.cast_max]

/-! ### The loop -/

theorem u64_fits (value : UInt64) : value.toNat * fixedU128.scale < fixedU128.bound := by
  have bound := value.toNat_lt
  simp only [fixedU128]
  omega

/-- A `usize` always converts. -/
theorem checkedFromInteger_u64 (value : UInt64) :
    (Fixed.checkedFromInteger value.toNat : Option FixedU128) = some ⟨value.toNat * fixedU128.scale, u64_fits value⟩ :=
  Fixed.checkedFromInteger_of_lt (u64_fits value)

theorem cost_inner_of_lookup {key : String} {cost : FixedU128} (found : vmResourceFeeCosts.lookup key = some cost) :
    cost.inner = costInner key := by
  simp [costInner, found]

/-- A known resource is weighed by its cost. -/
theorem weighResource_of_lookup {entry : String × UInt64} {cost : FixedU128}
    (found : vmResourceFeeCosts.lookup entry.1 = some cost) :
    weighResource entry = (cost.checkedMul ⟨entry.2.toNat * fixedU128.scale, u64_fits entry.2⟩).map .ok := by
  unfold weighResource
  rw [checkedFromInteger_u64 entry.2, Option.elim_some, found, Option.bind_some]

/-- Over known resources whose weighted counts fit, the loop keeps the largest. -/
theorem vmL1GasUsage_of_fits (entries : List (String × UInt64)) (accum : FixedU128)
    (known : ∀ entry ∈ entries, (vmResourceFeeCosts.lookup entry.1).isSome)
    (fits : ∀ entry ∈ entries, costInner entry.1 * entry.2.toNat < 2 ^ 128) :
    ∃ total : FixedU128, vmL1GasUsage entries accum = some (.ok total) ∧
      total.inner = max accum.inner (maxProduct entries) := by
  induction entries generalizing accum with
  | nil => exact ⟨accum, rfl, by simp [maxProduct]⟩
  | cons entry entries ih =>
    obtain ⟨cost, found⟩ := Option.isSome_iff_exists.mp (known entry List.mem_cons_self)
    have productFits : cost.inner * entry.2.toNat < fixedU128.bound := by
      rw [cost_inner_of_lookup found]
      exact fits entry List.mem_cons_self
    obtain ⟨total, ran, largest⟩ := ih ((⟨cost.inner * entry.2.toNat, productFits⟩ : FixedU128).max accum)
      (fun other member => known other (List.mem_cons_of_mem _ member))
      (fun other member => fits other (List.mem_cons_of_mem _ member))
    refine ⟨total, ?_, ?_⟩
    · simp only [vmL1GasUsage, weighResource_of_lookup found, Fixed.checkedMul_of_integer,
        dif_pos productFits, Option.map_some, Option.bind_some]
      exact ran
    · have productInner : (⟨cost.inner * entry.2.toNat, productFits⟩ : FixedU128).inner =
          costInner entry.1 * entry.2.toNat := by
        rw [← cost_inner_of_lookup found]
      rw [largest, Fixed.max_inner, productInner]
      simp only [maxProduct, List.map_cons, List.foldr_cons]
      omega

/-- A known resource whose weighted count does not fit makes the loop panic. -/
theorem vmL1GasUsage_of_overflow (entries : List (String × UInt64)) (accum : FixedU128)
    (known : ∀ entry ∈ entries, (vmResourceFeeCosts.lookup entry.1).isSome)
    (overflow : ∃ entry ∈ entries, 2 ^ 128 ≤ costInner entry.1 * entry.2.toNat) :
    vmL1GasUsage entries accum = none := by
  induction entries generalizing accum with
  | nil =>
    obtain ⟨_, member, _⟩ := overflow
    exact absurd member List.not_mem_nil
  | cons entry entries ih =>
    obtain ⟨cost, found⟩ := Option.isSome_iff_exists.mp (known entry List.mem_cons_self)
    simp only [vmL1GasUsage, weighResource_of_lookup found, Fixed.checkedMul_of_integer]
    by_cases productFits : cost.inner * entry.2.toNat < fixedU128.bound
    · simp only [dif_pos productFits, Option.map_some, Option.bind_some]
      obtain ⟨other, member, large⟩ := overflow
      rcases List.mem_cons.mp member with rfl | later
      · rw [← cost_inner_of_lookup found] at large
        exact absurd productFits (Nat.not_lt.mpr large)
      · exact ih _ (fun other member => known other (List.mem_cons_of_mem _ member)) ⟨other, later, large⟩
    · simp only [dif_neg productFits, Option.map_none, Option.bind_none]

/-! ### The fee -/

theorem extractL1GasAndVmUsage_of_lookup {resources : ResourcesMapping} {l1GasUsage : UInt64}
    (present : resources.entries.lookup gasUsage = some l1GasUsage) :
    ∃ vmResources : ResourcesMapping, extractL1GasAndVmUsage resources = some (l1GasUsage, vmResources) ∧
      vmResources.entries = resources.entries.filter (·.1 != gasUsage) := by
  simp only [extractL1GasAndVmUsage, present]
  exact ⟨_, rfl, rfl⟩

/-- Over known resources, `calculate_l1_gas_by_vm_usage` goes on to the loop. -/
theorem calculateL1GasByVmUsage_of_known {vmResources : ResourcesMapping}
    (known : ∀ entry ∈ vmResources.entries, (vmResourceFeeCosts.lookup entry.1).isSome) :
    calculateL1GasByVmUsage vmResources = vmL1GasUsage vmResources.entries Fixed.zero := by
  have accepted : vmResources.entries.any (fun entry => (vmResourceFeeCosts.lookup entry.1).isNone) = false := by
    rw [List.any_eq_false]
    intro entry member
    simpa using known entry member
  simp only [calculateL1GasByVmUsage, accepted, Bool.false_eq_true, ↓reduceIte]

/-- The weighted counts of the rule fit as inner values. -/
theorem products_of_fits {usage : List (String × UInt64)}
    (fits : ∀ entry ∈ usage, (vmResourceWeights.lookup entry.1).getD 0 * entry.2.toNat * 10 ^ 18 < 2 ^ 128) :
    ∀ entry ∈ usage, costInner entry.1 * entry.2.toNat < 2 ^ 128 := by
  intro entry member
  have exact := fits entry member
  rw [mul_right_comm, weight_mul_scale] at exact
  exact_mod_cast exact

/-- Once both gas figures are computed, the fee is the ceiling of their
wrapping sum times the gas price. -/
theorem calculateTxFee_of_computed {resources vmResources : ResourcesMapping} {blockContext : BlockContext}
    {l1GasUsage : UInt64} {vmGas : FixedU128}
    (extracted : extractL1GasAndVmUsage resources = some (l1GasUsage, vmResources))
    (computed : calculateL1GasByVmUsage vmResources = some (.ok vmGas)) :
    calculateTxFee resources blockContext =
      some ((((⟨l1GasUsage.toNat * fixedU128.scale, u64_fits l1GasUsage⟩ : FixedU128).wrappingAdd
        vmGas).ceil.checkedMulInt blockContext.gasPrice.val (2 ^ 128)).elim (.error .fixedPointConversion) .ok) := by
  simp only [calculateTxFee, extracted, Option.bind_some, computed, Option.map_some, checkedFromInteger_u64,
    Option.elim_some]
  -- rewritten and not closed by rfl: the kernel would unfold the 10^18 of each product
  rw [Transactional.ok_bind, Transactional.ok_bind]

section Fee

variable {resources : ResourcesMapping} {blockContext : BlockContext} {l1GasUsage : UInt64}
  (present : resources.entries.lookup gasUsage = some l1GasUsage)
include present

/-- A resource that is not one of the seven is refused. -/
theorem calculateTxFee_of_unknown
    (unknown : ∃ entry ∈ resources.entries.filter (·.1 != gasUsage), vmResourceFeeCosts.lookup entry.1 = none) :
    calculateTxFee resources blockContext = some (.error .cairoResourcesNotContainedInFeeCosts) := by
  obtain ⟨vmResources, extracted, entries⟩ := extractL1GasAndVmUsage_of_lookup present
  have refused : vmResources.entries.any (fun entry => (vmResourceFeeCosts.lookup entry.1).isNone) = true := by
    obtain ⟨entry, member, missing⟩ := unknown
    rw [entries]
    exact List.any_eq_true.mpr ⟨entry, member, by simp [missing]⟩
  simp only [calculateTxFee, extracted, Option.bind_some, calculateL1GasByVmUsage, if_pos refused, Option.map_some]
  rfl

/-- Over known resources, a weighted count that does not fit `FixedU128` makes
`mul` panic. -/
theorem calculateTxFee_of_overflow
    (known : ∀ entry ∈ resources.entries.filter (·.1 != gasUsage), (vmResourceFeeCosts.lookup entry.1).isSome)
    (overflow : ∃ entry ∈ resources.entries.filter (·.1 != gasUsage),
      2 ^ 128 ≤ costInner entry.1 * entry.2.toNat) :
    calculateTxFee resources blockContext = none := by
  obtain ⟨vmResources, extracted, entries⟩ := extractL1GasAndVmUsage_of_lookup present
  rw [← entries] at known overflow
  simp only [calculateTxFee, extracted, Option.bind_some, calculateL1GasByVmUsage_of_known known,
    vmL1GasUsage_of_overflow _ _ known overflow, Option.map_none]

/-- Over known resources, when every quantity of the rule fits, the code
computes the rule's fee. -/
theorem calculateTxFee_of_fits
    (known : ∀ entry ∈ resources.entries.filter (·.1 != gasUsage), (vmResourceFeeCosts.lookup entry.1).isSome)
    (fits : FeeFits l1GasUsage (resources.entries.filter (·.1 != gasUsage)) blockContext.gasPrice) :
    calculateTxFee resources blockContext =
      some (.ok ⟨txFeeExact l1GasUsage (resources.entries.filter (·.1 != gasUsage)) blockContext.gasPrice,
        fits.2.2.2⟩) := by
  obtain ⟨vmResources, extracted, entries⟩ := extractL1GasAndVmUsage_of_lookup present
  obtain ⟨productsFit, totalFits, ceilFits, feeFits⟩ := fits
  rw [← entries] at known productsFit totalFits ceilFits feeFits
  simp only [← entries]
  obtain ⟨vmGas, ran, largest⟩ :=
    vmL1GasUsage_of_fits vmResources.entries Fixed.zero known (products_of_fits productsFit)
  rw [calculateTxFee_of_computed extracted (by rw [calculateL1GasByVmUsage_of_known known, ran])]
  generalize sumDef : (⟨l1GasUsage.toNat * fixedU128.scale, u64_fits l1GasUsage⟩ : FixedU128).wrappingAdd vmGas = sum
  -- the sum is exact: it stays below the bound
  have total : (l1GasUsage.toNat : ℚ) * 10 ^ 18 + maxProduct vmResources.entries < 2 ^ 128 := by
    rw [← vmL1GasExact_mul_scale, ← add_mul]
    exact totalFits
  have sumInner : sum.inner = l1GasUsage.toNat * fixedU128.scale + maxProduct vmResources.entries := by
    have vmInner : vmGas.inner = maxProduct vmResources.entries := by
      rw [largest]
      simp [Fixed.zero]
    have sumFits : l1GasUsage.toNat * fixedU128.scale + vmGas.inner < fixedU128.bound := by
      rw [vmInner]
      simp only [fixedU128]
      exact_mod_cast total
    rw [← sumDef, Fixed.wrappingAdd_of_lt sumFits, vmInner]
  have sumRat : sum.toRat = (l1GasUsage.toNat : ℚ) + vmL1GasExact vmResources.entries := by
    have vmRat : vmL1GasExact vmResources.entries = (maxProduct vmResources.entries : ℚ) / 10 ^ 18 := by
      rw [← vmL1GasExact_mul_scale]
      field_simp
    rw [Fixed.toRat, sumInner, vmRat]
    simp only [fixedU128]
    push_cast
    ring
  -- the ceiling is exact: the next integer fits
  have room := Fixed.room_of_ceil_lt (by rw [sumRat]; exact ceilFits : ⌈sum.toRat⌉₊ * fixedU128.scale < fixedU128.bound)
  have product := Fixed.checkedMulInt_of_integer sum.ceil (Fixed.toRat_ceil room) blockContext.gasPrice.val (2 ^ 128)
  unfold txFeeExact at feeFits
  rw [product, sumRat, dif_pos feeFits]
  rfl

end Fee

/-- A resources mapping whose ECDSA count is the largest `usize`. -/
def ecdsaSaturated : ResourcesMapping :=
  ⟨[("l1_gas_usage", 0), ("ecdsa_builtin", 18446744073709551615)], by decide⟩

/-- A resources mapping whose total is just past `FixedU128`. -/
def totalPastBound : ResourcesMapping :=
  ⟨[("l1_gas_usage", 10), ("ecdsa_builtin", 16615349947311448411)], by decide⟩

/-- A block whose gas price is one. -/
def unitGasPrice : BlockContext := ⟨0, 0, 0, 0, 1⟩

theorem fee_panics_or_wraps_past_fixed_u128 :
    (¬FeeFits 0 [("ecdsa_builtin", 18446744073709551615)] 1 ∧ calculateTxFee ecdsaSaturated unitGasPrice = none) ∧
      (¬FeeFits 10 [("ecdsa_builtin", 16615349947311448411)] 1 ∧
        calculateTxFee totalPastBound unitGasPrice = some (.ok 4)) := by
  refine ⟨⟨?_, ?_⟩, ?_, ?_⟩
  · intro fits
    exact absurd (products_of_fits fits.1 _ List.mem_cons_self) (by decide)
  · exact calculateTxFee_of_overflow rfl (by decide) ⟨_, List.mem_cons_self, by decide⟩
  · intro fits
    have total := fits.2.1
    rw [add_mul, vmL1GasExact_mul_scale] at total
    have product : maxProduct [("ecdsa_builtin", 16615349947311448411)] = 340282366920938463457280000000000000000 := by
      decide
    have l1Gas : (10 : UInt64).toNat = 10 := rfl
    rw [product, l1Gas] at total
    norm_num at total
  · -- the sum 10·10^18 + 340282366920938463457280000000000000000 wraps to 3905392568231788544
    rfl

/-- Ten L1 gas and a hundred steps. -/
def tenGasHundredSteps : ResourcesMapping :=
  ⟨[("l1_gas_usage", 10), ("n_steps", 100)], by decide⟩

/-- A hundred steps weigh one L1 gas, so at gas price one the fee is `11`. -/
theorem calculateTxFee_of_fits_ten_gas_hundred_steps :
    tenGasHundredSteps.entries.lookup gasUsage = some 10 ∧
    (∀ entry ∈ tenGasHundredSteps.entries.filter (·.1 != gasUsage), (vmResourceFeeCosts.lookup entry.1).isSome) ∧
    ∃ fits : FeeFits 10 (tenGasHundredSteps.entries.filter (·.1 != gasUsage)) unitGasPrice.gasPrice,
      calculateTxFee tenGasHundredSteps unitGasPrice =
        some (.ok ⟨txFeeExact 10 (tenGasHundredSteps.entries.filter (·.1 != gasUsage)) unitGasPrice.gasPrice,
          fits.2.2.2⟩) := by
  have present : tenGasHundredSteps.entries.lookup gasUsage = some 10 := by decide
  have known : ∀ entry ∈ tenGasHundredSteps.entries.filter (·.1 != gasUsage),
      (vmResourceFeeCosts.lookup entry.1).isSome := by decide
  have usage : tenGasHundredSteps.entries.filter (·.1 != gasUsage) = [("n_steps", 100)] := by decide
  have hundred : (100 : UInt64).toNat = 100 := rfl
  have ten : (10 : UInt64).toNat = 10 := rfl
  -- the weighted steps come to exactly one gas, so the sum is the integer `11`
  have total : ((10 : UInt64).toNat : ℚ) + vmL1GasExact [("n_steps", 100)] = ((11 : ℕ) : ℚ) := by
    rw [ten]
    norm_num [vmL1GasExact, vmResourceWeights, hundred]
  have fits : FeeFits 10 (tenGasHundredSteps.entries.filter (·.1 != gasUsage)) unitGasPrice.gasPrice := by
    rw [usage]
    refine ⟨?_, ?_, ?_, ?_⟩
    · norm_num [vmResourceWeights, hundred]
    · rw [total]
      norm_num
    · rw [total, Nat.ceil_natCast]
      norm_num
    · rw [txFeeExact, total, Nat.ceil_natCast]
      norm_num [unitGasPrice]
  exact ⟨present, known, fits, calculateTxFee_of_fits present known fits⟩

end Madara.Fee
