import RulePyramid.Proofs.Session.Moves
import RulePyramid.Proofs.View.Details

/-!
The selected node is never one that is gone. Graph and selection of a session go together with the
rules in use (`Session.Drawn`): drawing anew makes this so whatever was before, and the other moves
keep it. What can be said of the selection at any moment of a run follows from it
(`Traces.soundSelection_of_start`).
-/

namespace RulePyramid

open Operation

namespace Session

variable (s : Session) {id : String}

/-! ## What drawing changes -/

@[simp] theorem dropSelection_graph (g : RuleGraph) : (s.dropSelection g).graph = s.graph := by
  unfold dropSelection
  split
  · split <;> rfl
  · rfl

@[simp] theorem dropSelection_ruleset (g : RuleGraph) :
    (s.dropSelection g).ruleset = s.ruleset :=
  congrArg Data.ruleset (s.data_dropSelection g)

/-- What is still selected is in the graph. -/
theorem contains_of_selected_dropSelection {g : RuleGraph}
    (hselected : (s.dropSelection g).selected = some id) : g.contains id := by
  unfold dropSelection at hselected
  split at hselected
  · next id' hbefore =>
    split at hselected
    · next hcontains =>
      cases hbefore.symm.trans hselected
      exact hcontains
    · cases hselected
  · next hnone => cases hnone.symm.trans hselected

theorem graph_drawn (reason : RecomputeReason) : (s.drawn reason).graph = .ofRules s.rules := rfl

theorem ruleset_drawn (reason : RecomputeReason) : (s.drawn reason).ruleset = s.ruleset := by
  simp only [drawn]
  split <;> rfl

/-! ## Graph and selection -/

/-- The graph is that of the rules in use, and a selected node is one of its nodes. -/
structure Drawn : Prop where
  graph_eq : s.graph = .ofRules s.rules
  contains : ∀ id, s.selected = some id → s.graph.contains id

variable {s}

theorem drawn_recompute (reason : RecomputeReason) : (s.recompute reason).Drawn := by
  have hgraph : (s.recompute reason).graph = .ofRules s.rules := by
    rw [recompute_eq, dropSelection_graph, graph_drawn]
  refine ⟨?_, fun id hselected => ?_⟩
  · rw [hgraph, rules, rules, recompute_eq, dropSelection_ruleset, ruleset_drawn]
  · rw [hgraph]
    rw [recompute_eq] at hselected
    exact contains_of_selected_dropSelection _ hselected

namespace Drawn

/-- The rest of the session does not matter. -/
theorem congr {s' : Session} (H : s.Drawn) (hgraph : s'.graph = s.graph)
    (hruleset : s'.ruleset = s.ruleset) (hselected : s'.selected = s.selected) : s'.Drawn where
  graph_eq := by rw [hgraph, H.graph_eq, rules, rules, hruleset]
  contains id h := by
    rw [hgraph]
    exact H.contains id (hselected ▸ h)

theorem start {config : LayoutConfig Single} (hstart : Session.start config = .ok s) :
    s.Drawn := by
  cases eq_of_start hstart
  exact ⟨rfl, nofun⟩

theorem contains_iff (H : s.Drawn) : s.graph.contains id ↔ ∃ r ∈ s.rules, r.target = id := by
  rw [H.graph_eq, RuleGraph.contains_ofRules, List.mem_map]

theorem selectNode (H : s.Drawn) (id : String) : (s.selectNode id).2.Drawn := by
  unfold Session.selectNode
  split
  · next details hdetails =>
    refine ⟨H.graph_eq, fun id' hselected => ?_⟩
    cases hselected
    exact H.contains_iff.mpr (RuleDetails.isSome_select_iff.mp (by rw [hdetails]; rfl))
  · exact H

theorem clearSelection (H : s.Drawn) : s.clearSelection.Drawn := by
  unfold Session.clearSelection
  split
  · exact ⟨H.graph_eq, nofun⟩
  · exact H

theorem move (H : s.Drawn) (m : Move) : (s.move m).Drawn := by
  cases m with
  | request | advance | issue | next | drain => exact H.congr rfl rfl rfl
  | announce ticket saved => cases saved <;> exact H.congr rfl rfl rfl
  | apply ticket response reason =>
    simp only [Session.move, Session.apply]
    split
    · cases response <;> exact drawn_recompute reason
    · exact H.congr rfl rfl rfl
  | receive groups =>
    obtain ⟨catalog, issue, hreceive⟩ := s.exists_move_receive groups
    rw [hreceive]
    split
    · cases issue <;> exact H.congr rfl rfl rfl
    · exact drawn_recompute _
  | select id => exact H.selectNode id
  | clear => exact H.clearSelection

theorem follow (H : s.Drawn) (ms : List Move) : (s.follow ms).Drawn := by
  induction ms generalizing s with
  | nil => exact H
  | cons m ms ih => exact ih (H.move m)

end Drawn

/-! ## Selections -/

/-- What a selection is worth, which nodes can be selected, and what selecting one does. -/
structure SoundSelection (s : Session) : Prop where
  graph_eq : s.graph = match s.ruleset with
    | some ruleset => .ofRules ruleset.rules
    | none => .empty
  details_of_selected : ∀ id, s.selected = some id → s.graph.contains id ∧
    ∃ ruleset r, s.ruleset = some ruleset ∧ ruleset.rules.find? (·.target = id) = some r ∧
      s.selectedDetails = some (.ofRule s.graph r)
  details_of_not_selected : s.selected = none → s.selectedDetails = none
  isSome_selectNode_iff : ∀ id, (s.selectNode id).1.isSome ↔
    ∃ ruleset, s.ruleset = some ruleset ∧ ∃ r ∈ ruleset.rules, r.target = id
  selectNode_of_none : ∀ id, (s.selectNode id).1 = none → (s.selectNode id).2 = s
  /-- A node that can be selected is the selected one from then on, and one event tells so. -/
  selectNode_of_some : ∀ id details, (s.selectNode id).1 = some details →
    (s.selectNode id).2 = { s with selected := some id }.publish (.nodeSelected id) ∧
      (s.selectNode id).2.selectedDetails = some details

theorem exists_mem_rules_iff {p : Rule → Prop} : (∃ r ∈ s.rules, p r) ↔
    ∃ ruleset, s.ruleset = some ruleset ∧ ∃ r ∈ ruleset.rules, p r := by
  unfold rules
  cases s.ruleset <;> simp

theorem fst_selectNode (id : String) :
    (s.selectNode id).1 = RuleDetails.select s.rules s.graph id := by
  unfold selectNode
  split
  · next hdetails => exact hdetails.symm
  · next hdetails => exact hdetails.symm

theorem Drawn.soundSelection (H : s.Drawn) : s.SoundSelection where
  graph_eq := by
    rw [H.graph_eq, rules]
    cases s.ruleset <;> rfl
  details_of_selected id hselected := by
    have hcontains := H.contains id hselected
    obtain ⟨ruleset, hruleset, hrule⟩ := exists_mem_rules_iff.mp (H.contains_iff.mp hcontains)
    have hrules : s.rules = ruleset.rules := by rw [rules, hruleset]; rfl
    obtain ⟨r, hr⟩ : ∃ r, ruleset.rules.find? (·.target = id) = some r := by
      simpa [← Option.isSome_iff_exists] using hrule
    refine ⟨hcontains, ruleset, r, hruleset, hr, ?_⟩
    rw [selectedDetails, hselected, Option.bind_eq_bind, Option.bind_some, RuleDetails.select,
      hrules, hr, Option.map_some]
  details_of_not_selected hselected := by rw [selectedDetails, hselected]; rfl
  isSome_selectNode_iff id := by
    rw [fst_selectNode, RuleDetails.isSome_select_iff, exists_mem_rules_iff]
  selectNode_of_none id hnone := by
    rw [fst_selectNode] at hnone
    simp only [Session.selectNode, hnone]
  selectNode_of_some id details hsome := by
    rw [fst_selectNode] at hsome
    have hsession : (s.selectNode id).2 =
        { s with selected := some id }.publish (.nodeSelected id) := by
      simp only [Session.selectNode, hsome]
    refine ⟨hsession, ?_⟩
    rw [hsession]
    exact hsome

end Session

namespace Traces

open Session

variable {σ α : Type} {store : List Move → Prop} {op : Operation σ α} {ms : List Move}
  {config : LayoutConfig Single}

/-- **A selection never dangles.** Whatever operations are run on a new session, and however they
overlap, its selection is sound at the end and at each moment before. -/
theorem soundSelection_of_start {s : Session} {outside : σ}
    (H : Traces store op ⟨s, outside⟩ ms) (hstart : Session.start config = .ok s) :
    (op.after ⟨s, outside⟩).session = s.follow ms ∧
      ∀ ms', ms' <+: ms → (s.follow ms').SoundSelection :=
  ⟨H.session_after, fun ms' _ => ((Drawn.start hstart).follow ms').soundSelection⟩

/-- While the groups are fetched, a ruleset and one of its nodes are selected. While the ruleset is
fetched again, another one is asked for. -/
theorem soundSelection_of_nested :
    let inner : Collaborators Unit := .constant (.ok ⟨"a", "", [⟨"Net", "", [], {}⟩]⟩) (.ok [])
    let outer : Collaborators Unit := { inner with
      fetchGroups := inner.selectRuleset "a" >>= fun _ => onSession (·.selectNode "Net") >>= fun _ =>
        inner.fetchGroups
      fetchRuleset := fun _ => inner.beginRequest "b" >>= fun _ => inner.fetchRuleset "a" }
    let op := outer.resume >>= fun _ => onSession (·.selectNode "Net")
    ∃ ms, .select "Net" ∈ ms ∧
      (op.after ⟨{ config := .default }, ()⟩).session = Session.follow { config := .default } ms ∧
      ∀ ms', ms' <+: ms → (Session.follow { config := .default } ms').SoundSelection := by
  intro inner outer op
  have hstart : Session.start .default = .ok { config := .default } := by rfl
  have hinner : inner.Traced fun _ => True := .constant trivial _ _
  have houter : outer.Traced fun _ => True := { hinner with
    fetchGroups := fun w => by
      obtain ⟨ms, hselect⟩ := hinner.selectRuleset "a" w
      exact ⟨_, hselect.bind ((Traces.selectNode "Net").bind (.look _))⟩
    fetchRuleset := fun _ w => by
      obtain ⟨ms, hbegin⟩ := hinner.beginRequest "b" w
      exact ⟨_, hbegin.bind (.look _)⟩ }
  obtain ⟨ms, hresume⟩ := houter.resume ⟨{ config := .default }, ()⟩
  have H : Traces (fun _ => True) op ⟨{ config := .default }, ()⟩ (ms ++ [.select "Net"]) :=
    hresume.bind (.selectNode "Net")
  exact ⟨_, List.mem_append_right _ (.head _), H.soundSelection_of_start hstart⟩

end Traces
end RulePyramid
