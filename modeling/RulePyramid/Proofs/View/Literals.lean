import RulePyramid.Proofs.Expression
import RulePyramid.Proofs.Graph.Nodes
import RulePyramid.View.Basic

/-!
Quoted text has no part in a view. Rules make the same nodes with a blank in the place of each
literal (`Node.ofRules_map_unquoted`), so it does not matter what a literal says, not even where it
has the name of a rule in it (`componentsGraph_literal`).
-/

namespace RulePyramid

/-- A rule with a blank in the place of each literal of its expression. -/
def Rule.unquoted (r : Rule) : Rule :=
  { r with expression := Expression.stripLiterals r.expression }

/-- A rule with a literal in its expression. -/
def Rule.quoting (r : Rule) (a inside b : String) : Rule :=
  { r with expression := a ++ "\"" ++ inside ++ "\"" ++ b }

variable {a b x y : String}

/-- What a literal says is gone. -/
theorem Rule.unquoted_quoting (ha : Even (a.toList.count '"')) (hx : '"' ∉ x.toList) (b : String)
    (r : Rule) :
    (r.quoting a x b).unquoted = { r with
      expression := .ofList (Expression.blankLiterals a.toList ++
        ' ' :: Expression.blankLiterals b.toList) } := by
  have hchars : (a ++ "\"" ++ x ++ "\"" ++ b).toList =
      a.toList ++ '"' :: (x.toList ++ '"' :: b.toList) := by
    simp only [String.toList_append, List.append_assoc]
    rfl
  rw [unquoted, quoting, Expression.stripLiterals, hchars,
    Expression.blankLiterals_append_literal ha hx]

/-! ## Nodes -/

namespace Node

theorem ofRule_unquoted (known : String → Bool) (r : Rule) :
    ofRule known r.unquoted = ofRule known r := by
  have htarget : r.unquoted.target = r.target := rfl
  have hgroup : r.unquoted.group = r.group := rfl
  have hdeclared : declaredIds r.unquoted known = declaredIds r known := rfl
  have hreferences : Expression.references r.unquoted.expression known r.target =
      Expression.references r.expression known r.target := by
    rw [Expression.references, Rule.unquoted, Expression.candidates_stripLiterals,
      ← Expression.references]
  simp only [ofRule, htarget, hgroup, hdeclared, hreferences]

theorem firstDefinitions_map (f : Rule → Rule) (hf : ∀ r, (f r).target = r.target)
    (rules : List Rule) : firstDefinitions (rules.map f) = (firstDefinitions rules).map f := by
  rw [firstDefinitions, eraseDupsBy_map]
  simp only [hf]
  rfl

theorem ofRules_map_unquoted (rules : List Rule) :
    ofRules (rules.map Rule.unquoted) = ofRules rules := by
  have htargets : isTarget (rules.map Rule.unquoted) = isTarget rules := by
    funext name
    rw [isTarget, isTarget, List.map_map]
    rfl
  rw [ofRules_eq, ofRules_eq, htargets, firstDefinitions_map Rule.unquoted fun _ => rfl,
    List.map_map]
  exact List.map_congr_left fun r _ => ofRule_unquoted _ r

end Node

/-! ## Views -/

variable {α : Type} [Scalar α]

theorem componentsGraph_map_unquoted (rules : List Rule) (catalog : Catalog)
    (config : LayoutConfig α) :
    componentsGraph (rules.map Rule.unquoted) catalog config =
      componentsGraph rules catalog config := by
  rw [componentsGraph, RuleGraph.ofRules, Node.ofRules_map_unquoted]
  rfl

/-- **What a literal says does not matter**: not in which rule it is, nor what else there is in the
expression. -/
theorem componentsGraph_literal (ha : Even (a.toList.count '"')) (hx : '"' ∉ x.toList)
    (hy : '"' ∉ y.toList) (b : String) (before after : List Rule) (r : Rule) (catalog : Catalog)
    (config : LayoutConfig α) :
    componentsGraph (before ++ r.quoting a x b :: after) catalog config =
      componentsGraph (before ++ r.quoting a y b :: after) catalog config := by
  have hunquoted : (before ++ r.quoting a x b :: after).map Rule.unquoted =
      (before ++ r.quoting a y b :: after).map Rule.unquoted := by
    simp only [List.map_append, List.map_cons, Rule.unquoted_quoting ha hx,
      Rule.unquoted_quoting ha hy]
  rw [← componentsGraph_map_unquoted, hunquoted, componentsGraph_map_unquoted]

/-- The literal may name either of two rules, between another literal and a quote without a
partner. -/
theorem componentsGraph_literal_of_names :
    let a := "TBL(\"Bonus\", "
    let rules (inside : String) : List Rule :=
      [{ target := "Gross", expression := "100" },
        ({ target := "Net" } : Rule).quoting a inside ") - Bonus & \"Gross",
        { target := "Bonus", expression := "5" }]
    Even (a.toList.count '"') ∧ '"' ∉ "Gross".toList ∧ '"' ∉ "Bonus".toList ∧
      componentsGraph (rules "Gross") .fallback (.default : LayoutConfig Single) =
        componentsGraph (rules "Bonus") .fallback .default := by
  intro a rules
  have ha : Even (a.toList.count '"') := by decide
  have hx : '"' ∉ "Gross".toList := by decide
  have hy : '"' ∉ "Bonus".toList := by decide
  exact ⟨ha, hx, hy, componentsGraph_literal ha hx hy ") - Bonus & \"Gross"
    [{ target := "Gross", expression := "100" }] [{ target := "Bonus", expression := "5" }]
    { target := "Net" } .fallback .default⟩

end RulePyramid
