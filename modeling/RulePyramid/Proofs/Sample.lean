import RulePyramid.Sample
import RulePyramid.Proofs.Date
import RulePyramid.Proofs.Expression
import RulePyramid.Proofs.Graph.Cycles
import RulePyramid.Proofs.Graph.Dependencies
import RulePyramid.Proofs.Json.Numbers
import RulePyramid.Proofs.Layout.Arrangement

/-!
The graph of the rules for measurements. The number of a rule can be read off its name
(`ruleName_injective`), and an expression mentions the names that it adds up and no others: a quoted
text, functions and numbers do not count (`mem_candidates_expressionOf`). So the nodes are the rules
in their order (`nodes_ofRules`), with the dependencies that are meant (`mem_dependencies_nodeOf`);
all of them are earlier rules, which leaves no cycle (`cycles_ofRules`); and the rank of a rule
grows with its number (`layerKey_nodeOf`, `rankOf_mono`).
-/

namespace RulePyramid.Sample

open Expression

variable {count fanIn i j : Nat} {name : String}

/-! ## Names -/

theorem toList_ruleName (i : Nat) :
    (ruleName i).toList =
      'C' :: (['o', 'm', 'p', 'o', 'n', 'e', 'n', 't'] ++ Nat.toDigits 10 i) := by
  have hstem : "Component".toList = ['C', 'o', 'm', 'p', 'o', 'n', 'e', 'n', 't'] := by decide
  rw [ruleName, String.toList_append]
  exact congrArg₂ (· ++ ·) hstem Nat.toList_repr

theorem ruleName_injective : Function.Injective ruleName := by
  intro i j h
  have hdigits := congrArg String.toList h
  rw [toList_ruleName, toList_ruleName, List.cons.injEq, List.append_cancel_left_eq] at hdigits
  rw [← Nat.ofDigitChars_ten_toDigits (n := i), hdigits.2, Nat.ofDigitChars_ten_toDigits]

theorem isRuleName_ruleName (i : Nat) : isRuleName (ruleName i).toList := by
  rw [toList_ruleName]
  refine isRuleName_cons.mpr ⟨rfl, ?_, 'o', List.mem_cons_self, rfl⟩
  rw [List.forall_mem_append]
  refine ⟨List.all_eq_true.mp (by decide), fun c hc => isNameChar_iff.mpr (.inr (.inr (.inl ?_)))⟩
  exact Json.isDigit_of_mem_toDigits hc

theorem trim_ruleName (i : Nat) : Text.trim (ruleName i) = ruleName i := by
  refine Text.IsTrimmed.trim_eq_self ⟨?_, ?_⟩
  · rw [toList_ruleName]
    rintro _ ⟨⟩
    decide
  · intro c hc
    have hne := List.append_ne_nil_of_right_ne_nil ['o', 'm', 'p', 'o', 'n', 'e', 'n', 't']
      (Nat.toDigits_ne_nil (b := 10) (n := i))
    rw [toList_ruleName, List.getLast?_cons_of_ne_nil hne,
      List.getLast?_append_of_ne_nil _ Nat.toDigits_ne_nil] at hc
    exact Date.not_isBlank_of_isDigit (Json.isDigit_of_mem_toDigits (List.mem_of_mem_getLast? hc))

/-! ## Expressions -/

theorem toList_plus : " + ".toList = [' ', '+', ' '] := by decide

theorem toList_intercalate_cons_cons (a b : String) (names : List String) :
    (" + ".intercalate (a :: b :: names)).toList =
      a.toList ++ ' ' :: (['+'] ++ ' ' :: (" + ".intercalate (b :: names)).toList) := by
  rw [String.intercalate_cons_cons, String.toList_append, String.toList_append, toList_plus,
    List.append_assoc]
  rfl

/-- Names that are added up are found again. -/
theorem findAll_ruleName_intercalate {names : List String}
    (hnames : ∀ name ∈ names, isRuleName name.toList) :
    Expression.ruleName.findAll (" + ".intercalate names).toList = names.map String.toList := by
  have hblank : ¬Text.isWordChar ' ' := by decide +kernel
  induction names with
  | nil => exact findAll_ruleName_eq_nil rfl
  | cons name names ih =>
    obtain ⟨hname, hnames⟩ := List.forall_mem_cons.mp hnames
    have hfound := findAll_ruleName_eq_singleton hname
    cases names with
    | nil => rwa [String.intercalate_singleton]
    | cons next names =>
      rw [toList_intercalate_cons_cons, findAll_ruleName_append_cons hblank,
        findAll_ruleName_append_cons hblank, hfound, ih hnames,
        findAll_ruleName_eq_nil (by decide)]
      rfl

theorem quote_notMem_intercalate {names : List String}
    (hnames : ∀ name ∈ names, '"' ∉ name.toList) : '"' ∉ (" + ".intercalate names).toList := by
  induction names with
  | nil => exact List.not_mem_nil
  | cons name names ih =>
    obtain ⟨hname, hnames⟩ := List.forall_mem_cons.mp hnames
    cases names with
    | nil => rwa [String.intercalate_singleton]
    | cons next names =>
      rw [toList_intercalate_cons_cons]
      simp only [List.mem_append, List.mem_cons, hname, ih hnames, List.not_mem_nil, Char.reduceEq,
        or_false, not_false_eq_true]

/-- What the `i`-th rule adds up. -/
def sumOf (fanIn i : Nat) : String :=
  match referencesOf fanIn i with
  | [] => toString i
  | names => " + ".intercalate names

theorem expressionOf_eq (fanIn i : Nat) :
    expressionOf fanIn i = if i % 7 = 0
      then "MAX(" ++ sumOf fanIn i ++ ", 0) + IF(\"Code Word\", 1, 0)" else sumOf fanIn i := rfl

theorem isRuleName_of_mem_referencesOf (hname : name ∈ referencesOf fanIn i) :
    isRuleName name.toList := by
  obtain ⟨k, -, rfl⟩ := List.mem_map.mp hname
  exact isRuleName_ruleName _

theorem findAll_ruleName_sumOf (fanIn i : Nat) :
    Expression.ruleName.findAll (sumOf fanIn i).toList =
      (referencesOf fanIn i).map String.toList := by
  have hnames : ∀ name ∈ referencesOf fanIn i, isRuleName name.toList := fun _ =>
    isRuleName_of_mem_referencesOf
  rw [sumOf]
  split
  · next hnil =>
    rw [hnil]
    refine findAll_ruleName_eq_nil (List.any_eq_false.mpr fun c hc => ?_)
    have hdigit := Text.range_of_isDigit (Json.isDigit_of_mem_toDigits (Nat.toList_repr ▸ hc))
    intro hlower
    have hrange := Text.range_of_isLower hlower
    omega
  · exact findAll_ruleName_intercalate hnames

theorem quote_notMem_sumOf (fanIn i : Nat) : '"' ∉ (sumOf fanIn i).toList := by
  have hnames : ∀ name ∈ referencesOf fanIn i, '"' ∉ name.toList := fun name hname hquote => by
    have hword := isWordChar_of_isRuleName (isRuleName_of_mem_referencesOf hname) _ hquote
    revert hword
    decide +kernel
  rw [sumOf]
  split
  · intro hquote
    have hdigit := Json.isDigit_of_mem_toDigits (Nat.toList_repr ▸ hquote)
    cases hdigit
  · exact quote_notMem_intercalate hnames

/-- Around the sum there are only a quoted text and functions. -/
theorem toList_around (sum : String) :
    ("MAX(" ++ sum ++ ", 0) + IF(\"Code Word\", 1, 0)").toList =
      (['M', 'A', 'X'] ++ '(' :: (sum.toList ++ ',' :: " 0) + IF(".toList)) ++
        '"' :: ("Code Word".toList ++ '"' :: ", 1, 0)".toList) := by
  have hfront : "MAX(".toList = ['M', 'A', 'X'] ++ ['('] := by decide
  have hback : ", 0) + IF(\"Code Word\", 1, 0)".toList =
      ',' :: " 0) + IF(".toList ++ '"' :: ("Code Word".toList ++ '"' :: ", 1, 0)".toList) := by
    decide
  simp only [String.toList_append, hfront, hback, List.append_assoc, List.cons_append,
    List.nil_append]

theorem findAll_ruleName_around {sum : String} (hsum : '"' ∉ sum.toList) :
    Expression.ruleName.findAll
        (blankLiterals ("MAX(" ++ sum ++ ", 0) + IF(\"Code Word\", 1, 0)").toList) =
      Expression.ruleName.findAll sum.toList := by
  have hopen : ¬Text.isWordChar '(' := by decide +kernel
  have hcomma : ¬Text.isWordChar ',' := by decide +kernel
  have hblank : ¬Text.isWordChar ' ' := by decide +kernel
  have hmax : Expression.ruleName.findAll ['M', 'A', 'X'] = [] :=
    findAll_ruleName_eq_nil (by decide)
  have hif : Expression.ruleName.findAll " 0) + IF(".toList = [] :=
    findAll_ruleName_eq_nil (by decide)
  have hrest : Expression.ruleName.findAll ", 1, 0)".toList = [] :=
    findAll_ruleName_eq_nil (by decide)
  have hcount : (['M', 'A', 'X'] ++ '(' :: (sum.toList ++ ',' :: " 0) + IF(".toList)).count '"' =
      0 := by
    simp only [List.count_append, List.count_cons, List.count_eq_zero.mpr hsum]
    decide
  rw [toList_around, blankLiterals_append_literal (hcount ▸ Even.zero) (by decide),
    blankLiterals_eq_self (hcount ▸ Nat.zero_le 1),
    blankLiterals_eq_self (by decide),
    findAll_ruleName_append_cons hblank, findAll_ruleName_append_cons hopen,
    findAll_ruleName_append_cons hcomma, hmax, hif, hrest, List.nil_append,
    List.append_nil, List.append_nil]

/-- **The candidates of an expression are the names that it adds up.** -/
theorem mem_candidates_expressionOf :
    name ∈ candidates (expressionOf fanIn i) ↔ name ∈ referencesOf fanIn i := by
  have hquote := quote_notMem_sumOf fanIn i
  have hcount : (sumOf fanIn i).toList.count '"' ≤ 1 :=
    List.count_eq_zero.mpr hquote ▸ Nat.zero_le 1
  have hfound : Expression.ruleName.findAll (blankLiterals (expressionOf fanIn i).toList) =
      (referencesOf fanIn i).map String.toList := by
    rw [expressionOf_eq]
    split
    · rw [findAll_ruleName_around hquote, findAll_ruleName_sumOf]
    · rw [blankLiterals_eq_self hcount, findAll_ruleName_sumOf]
  rw [mem_candidates, hfound, List.mem_map_of_injective fun _ _ => String.toList_inj.mp]

theorem mem_referencesOf :
    name ∈ referencesOf fanIn i ↔
      ∃ k, 1 ≤ k ∧ k ≤ fanIn ∧ 3 * k ≤ i ∧ name = ruleName (i - 3 * k) := by
  simp only [referencesOf, List.mem_map, List.mem_filter, List.mem_range, decide_eq_true_eq]
  constructor
  · rintro ⟨k, ⟨hk, hle⟩, rfl⟩
    exact ⟨k + 1, by omega, by omega, by omega, by rw [Nat.mul_comm]⟩
  · rintro ⟨k, hpos, hk, hle, rfl⟩
    obtain ⟨k, rfl⟩ := Nat.exists_eq_succ_of_ne_zero (Nat.one_le_iff_ne_zero.mp hpos)
    exact ⟨k, ⟨by omega, by omega⟩, by rw [Nat.mul_comm]⟩

/-! ## The graph -/

theorem map_target_rules (count fanIn : Nat) :
    (rules count fanIn).map (·.target) = (List.range count).map ruleName := by
  rw [rules, List.map_map]
  rfl

theorem nodup_targets (count fanIn : Nat) : ((rules count fanIn).map (·.target)).Nodup := by
  rw [map_target_rules]
  exact List.nodup_range.map ruleName_injective

theorem isTarget_rules_iff :
    Node.isTarget (rules count fanIn) name ↔ ∃ i < count, ruleName i = name := by
  simp only [Node.isTarget_iff, map_target_rules, List.mem_map, List.mem_range]

/-- The node of the `i`-th of `count` rules. -/
def nodeOf (count fanIn i : Nat) : Node :=
  .ofRule (Node.isTarget (rules count fanIn)) (rule count fanIn i)

theorem nodes_ofRules (count fanIn : Nat) :
    (RuleGraph.ofRules (rules count fanIn)).nodes.toList =
      (List.range count).map (nodeOf count fanIn) := by
  rw [RuleGraph.toList_ofRules, Node.ofRules_of_nodup (nodup_targets count fanIn)]
  exact List.map_map

theorem get?_ruleName (hi : i < count) :
    (RuleGraph.ofRules (rules count fanIn)).get? (ruleName i) = some (nodeOf count fanIn i) := by
  rw [(RuleGraph.WellFormed.ofRules _).get?_eq_some_iff, nodes_ofRules]
  exact ⟨List.mem_map_of_mem (List.mem_range.mpr hi), rfl⟩

/-- What the `i`-th rule is meant to depend on: the rules that it adds up, and every eleventh one
also on the rule before it. -/
def Depends (fanIn i : Nat) (d : Dependency) : Prop :=
  (∃ k, 1 ≤ k ∧ k ≤ fanIn ∧ 3 * k ≤ i ∧ d = ⟨ruleName (i - 3 * k), .inferred⟩) ∨
    0 < i ∧ 11 ∣ i ∧ d = ⟨ruleName (i - 1), .explicit⟩

theorem mem_dependsOn_rule :
    name ∈ (rule count fanIn i).dependsOn.map Text.trim ↔
      0 < i ∧ 11 ∣ i ∧ name = ruleName (i - 1) := by
  simp only [rule]
  split
  · next h => simp [trim_ruleName, h.2, Nat.dvd_of_mod_eq_zero h.1]
  · next h =>
    rw [List.map_nil]
    refine iff_of_false List.not_mem_nil ?_
    rintro ⟨hpos, hdvd, -⟩
    exact h ⟨Nat.mod_eq_zero_of_dvd hdvd, hpos⟩

theorem mem_dependencies_nodeOf (hi : i < count) {d : Dependency} :
    d ∈ (nodeOf count fanIn i).dependencies ↔ Depends fanIn i d := by
  obtain ⟨id, origin⟩ := d
  rw [nodeOf, Node.mem_dependencies_ofRule, Node.mem_dependencyIds_ofRule, isTarget_rules_iff,
    mem_dependsOn_rule]
  simp only [rule]
  rw [mem_candidates_expressionOf, mem_referencesOf]
  -- The rule before it is never among those that it adds up.
  have hapart : ∀ {k}, 1 ≤ k → 3 * k ≤ i → ruleName (i - 3 * k) ≠ ruleName (i - 1) :=
    fun _ _ hsame => by
      have := ruleName_injective hsame
      omega
  constructor
  · rintro ⟨-, htells⟩
    cases htells with
    | explicit hdeclared =>
      obtain ⟨hpos, hdvd, rfl⟩ := hdeclared
      exact .inr ⟨hpos, hdvd, rfl⟩
    | inferred _ hmentioned =>
      obtain ⟨k, hk, hfan, hle, rfl⟩ := hmentioned
      exact .inl ⟨k, hk, hfan, hle, rfl⟩
    | both hdeclared hmentioned =>
      obtain ⟨k, hk, -, hle, hname⟩ := hmentioned
      exact (hapart hk hle (hname.symm.trans hdeclared.2.2)).elim
  · rintro (⟨k, hk, hfan, hle, hd⟩ | ⟨hpos, hdvd, hd⟩)
    · obtain ⟨rfl, rfl⟩ := Dependency.mk.inj hd
      have hne : ruleName (i - 3 * k) ≠ ruleName i := ruleName_injective.ne (by omega)
      exact ⟨⟨hne, ⟨_, by omega, rfl⟩, .inr ⟨k, hk, hfan, hle, rfl⟩⟩,
        .inferred (fun hdeclared => hapart hk hle hdeclared.2.2) ⟨k, hk, hfan, hle, rfl⟩⟩
    · obtain ⟨rfl, rfl⟩ := Dependency.mk.inj hd
      have hne : ruleName (i - 1) ≠ ruleName i := ruleName_injective.ne (by omega)
      refine ⟨⟨hne, ⟨_, by omega, rfl⟩, .inl ⟨hpos, hdvd, rfl⟩⟩,
        .explicit ⟨hpos, hdvd, rfl⟩ ?_⟩
      rintro ⟨k, hk, -, hle, hname⟩
      exact hapart hk hle hname.symm

theorem Depends.exists_lt {d : Dependency} (h : Depends fanIn i d) :
    ∃ j < i, d.id = ruleName j := by
  rcases h with ⟨k, hk, -, hle, rfl⟩ | ⟨hpos, -, rfl⟩
  · exact ⟨_, by omega, rfl⟩
  · exact ⟨_, by omega, rfl⟩

/-! ## No cycles -/

/-- Both are names of rules, the one of an earlier rule first. -/
def Earlier (a b : String) : Prop := ∃ i j, a = ruleName i ∧ b = ruleName j ∧ i < j

instance : IsStrictOrder String Earlier where
  irrefl := by
    rintro _ ⟨i, j, rfl, hsame, hlt⟩
    exact hlt.ne (ruleName_injective hsame)
  trans := by
    rintro _ _ _ ⟨i, j, rfl, rfl, hlt⟩ ⟨j', k, hsame, rfl, hlt'⟩
    obtain rfl := ruleName_injective hsame
    exact ⟨i, k, rfl, rfl, hlt.trans hlt'⟩

theorem earlier_of_leadsTo {a b : String}
    (h : (RuleGraph.ofRules (rules count fanIn)).LeadsTo a b) : Earlier a b := by
  obtain ⟨n, hn, ha⟩ := RuleGraph.mem_edges_ofRules.mp h
  rw [(RuleGraph.WellFormed.ofRules _).get?_eq_some_iff, nodes_ofRules] at hn
  obtain ⟨hn, rfl⟩ := hn
  obtain ⟨i, hi, rfl⟩ := List.mem_map.mp hn
  obtain ⟨d, hd, rfl⟩ := List.mem_map.mp ha
  obtain ⟨j, hlt, hid⟩ := ((mem_dependencies_nodeOf (List.mem_range.mp hi)).mp hd).exists_lt
  exact ⟨j, i, hid, rfl, hlt⟩

theorem cycles_ofRules (count fanIn : Nat) : (RuleGraph.ofRules (rules count fanIn)).cycles = [] :=
  (RuleGraph.WellFormed.ofRules _).cycles_eq_nil fun _ _ => earlier_of_leadsTo

/-! ## Bands -/

theorem names_ofGroups_catalog : (Ranking.ofGroups catalog.groups).names = groupNames := by
  have hsorted : catalog.groups.Pairwise fun a b =>
      decide (a.displayOrder ≤ b.displayOrder) = true := by decide
  rw [Ranking.ofGroups, List.mergeSort_of_pairwise hsorted]
  decide +kernel

/-- The groups have the ranks from one to five. -/
theorem ordinal?_groupName (h : i < groupNames.length) :
    (Ranking.ofGroups catalog.groups).ordinal? (normalizeGroupName groupNames[i]?) =
      some (i + 1) := by
  rw [Ranking.ordinal?, names_ofGroups_catalog]
  revert i h
  decide +kernel

/-- The rank of the `i`-th of `count` rules. -/
def rankOf (count i : Nat) : Nat := i * groupNames.length / count + 1

theorem rankOf_mono (count : Nat) (hij : i ≤ j) : rankOf count i ≤ rankOf count j :=
  Nat.succ_le_succ (Nat.div_le_div_right (Nat.mul_le_mul_right _ hij))

theorem layerKey_nodeOf (hi : i < count) :
    (Ranking.ofGroups catalog.groups).layerKey (nodeOf count fanIn i).group =
      .ranked (rankOf count i) := by
  have hmax : max count 1 = count := by omega
  have hplace : i * groupNames.length / count < groupNames.length :=
    Nat.div_lt_of_lt_mul (Nat.mul_lt_mul_of_pos_right hi (by decide))
  have hordinal := ordinal?_groupName hplace
  rw [Ranking.layerKey_eq_iff]
  simp only [nodeOf, Node.ofRule, Rule.group, rule, hmax]
  exact hordinal

theorem exists_layerOf?_ruleName {α : Type} [Scalar α] (c : LayoutConfig α) (fanIn : Nat)
    (hi : i < count) :
    ∃ l, (c.pyramid (RuleGraph.ofRules (rules count fanIn)).nodes.toList
        (.ofGroups catalog.groups)).layerOf? (ruleName i) = some l ∧
      l.key = .ranked (rankOf count i) := by
  have hmem : nodeOf count fanIn i ∈ (RuleGraph.ofRules (rules count fanIn)).nodes.toList := by
    rw [nodes_ofRules]
    exact List.mem_map_of_mem (List.mem_range.mpr hi)
  obtain ⟨l, -, hlayer, hkey, -⟩ :=
    LayoutConfig.exists_layerOf? (RuleGraph.WellFormed.ofRules _).nodup_ids hmem _ c
  exact ⟨l, hlayer, hkey.symm.trans (layerKey_nodeOf hi)⟩

/-! ## The intended graph -/

/-- What the graph of `count` rules is meant to be. -/
structure Intended (count fanIn : Nat) (g : RuleGraph) : Prop where
  map_id : g.nodes.toList.map (·.id) = (List.range count).map ruleName
  nodup_ids : (g.nodes.toList.map (·.id)).Nodup
  /-- Each rule depends on what it is meant to depend on, and on each only once. -/
  exists_node : ∀ i < count, ∃ n, g.get? (ruleName i) = some n ∧ n.dependencyIds.Nodup ∧
    ∀ d, d ∈ n.dependencies ↔ Depends fanIn i d
  cycles_eq : g.cycles = []
  /-- In the catalog every rule has a ranked band, and an earlier rule has no higher one. -/
  exists_layers : ∀ {α : Type} [Scalar α] (c : LayoutConfig α) (i j : Nat), i ≤ j → j < count →
    let p := c.pyramid g.nodes.toList (.ofGroups catalog.groups)
    ∃ l l', p.layerOf? (ruleName i) = some l ∧ p.layerOf? (ruleName j) = some l' ∧
      l.key ≠ .ungrouped ∧ l'.key ≠ .ungrouped ∧ l.key.le l'.key

/-- **The graph is the intended one**, however many rules there are. -/
theorem intended_ofRules (count fanIn : Nat) :
    Intended count fanIn (.ofRules (rules count fanIn)) where
  map_id := by
    rw [nodes_ofRules, List.map_map]
    rfl
  nodup_ids := (RuleGraph.WellFormed.ofRules _).nodup_ids
  exists_node i hi := ⟨nodeOf count fanIn i, get?_ruleName hi,
    (Node.ascending_dependencyIds _ _).imp ne_of_lt, fun _ => mem_dependencies_nodeOf hi⟩
  cycles_eq := cycles_ofRules count fanIn
  exists_layers c i j hij hj := by
    obtain ⟨l, hl, hkey⟩ := exists_layerOf?_ruleName c fanIn (hij.trans_lt hj)
    obtain ⟨l', hl', hkey'⟩ := exists_layerOf?_ruleName c fanIn hj
    refine ⟨l, l', hl, hl', ?_, ?_, ?_⟩
    · rw [hkey]
      nofun
    · rw [hkey']
      nofun
    · rw [hkey, hkey']
      exact decide_eq_true (rankOf_mono count hij)

end RulePyramid.Sample
