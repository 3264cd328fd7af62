import TabletDrain.Shard.Spec

/-! What a valid spec is: it has names, and so has every pool, for a number of replicas that is not
negative. Each violation is one problem of its own. -/
namespace TabletDrain.ShardSpec

structure IsValid (spec : ShardSpec) : Prop where
  cluster : spec.cluster ≠ ""
  keyspace : spec.keyspace ≠ ""
  name : spec.name ≠ ""
  pools : ∀ pool ∈ spec.pools, pool.cell ≠ "" ∧ 0 ≤ pool.replicas

/-- How many names are empty and how many numbers negative. -/
def violations (spec : ShardSpec) : Nat :=
  [spec.cluster, spec.keyspace, spec.name].count "" + (spec.pools.map Pool.cell).count "" +
    spec.pools.countP fun pool => pool.replicas < 0

theorem length_problemIf (bad : Bool) (field message : String) :
    (problemIf bad field message).length = if bad then 1 else 0 := by
  cases bad <;> rfl

theorem length_poolProblemsFrom (place : Nat) (pools : List Pool) :
    (poolProblemsFrom place pools).length =
      (pools.map Pool.cell).count "" + pools.countP fun pool => pool.replicas < 0 := by
  induction pools generalizing place with
  | nil => rfl
  | cons pool rest ih =>
    rw [poolProblemsFrom, List.length_append, ih, poolProblems, List.length_append, length_problemIf,
      length_problemIf, List.map_cons, List.count_cons, List.countP_cons]
    simp only [String.isEmpty_iff, beq_iff_eq]
    omega

theorem length_problems (spec : ShardSpec) : spec.problems.length = spec.violations := by
  simp only [problems, List.length_append, length_problemIf, length_poolProblemsFrom, violations,
    List.count_cons, List.count_nil, String.isEmpty_iff, beq_iff_eq]
  omega

theorem violations_eq_zero_iff {spec : ShardSpec} : spec.violations = 0 ↔ spec.IsValid := by
  simp only [violations, Nat.add_eq_zero_iff, List.count_eq_zero, List.countP_eq_zero, List.mem_cons,
    List.not_mem_nil, or_false, not_or, List.mem_map, not_exists, not_and, decide_eq_true_eq, Int.not_lt]
  constructor
  · rintro ⟨⟨⟨cluster, keyspace, name⟩, cells⟩, replicas⟩
    exact ⟨Ne.symm cluster, Ne.symm keyspace, Ne.symm name,
      fun pool member => ⟨cells pool member, replicas pool member⟩⟩
  · rintro ⟨cluster, keyspace, name, pools⟩
    exact ⟨⟨⟨cluster.symm, keyspace.symm, name.symm⟩, fun pool member => (pools pool member).1⟩,
      fun pool member => (pools pool member).2⟩

theorem isEmpty_problems_iff {spec : ShardSpec} : spec.problems.isEmpty = true ↔ spec.IsValid := by
  rw [List.isEmpty_iff_length_eq_zero, length_problems, violations_eq_zero_iff]

instance (spec : ShardSpec) : Decidable spec.IsValid := decidable_of_iff _ violations_eq_zero_iff

end TabletDrain.ShardSpec
