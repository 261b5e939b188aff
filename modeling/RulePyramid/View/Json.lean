import RulePyramid.View.Basic
import RulePyramid.View.Details
import RulePyramid.Graph.Json
import RulePyramid.Layout.Json
import RulePyramid.Rule.Json

/-!
Views and details as JSON. They are written and never read.
-/

namespace RulePyramid

def Color.toJson (c : Color) : Json := .object [
  ("r", .nat c.r.toNat), ("g", .nat c.g.toNat), ("b", .nat c.b.toNat), ("a", .nat c.a.toNat)]

def EdgeStyle.toJson (s : EdgeStyle Single) : Json := .object [
  ("color", s.color.toJson),
  ("width", .single s.width),
  ("dashed", .bool s.dashed),
  ("arrow_head", .bool s.arrowHead)]

def ViewNode.toJson (n : ViewNode Single) : Json := .object [
  ("id", .string n.id),
  ("label", .string n.label),
  ("group", .string n.group),
  ("color", n.color.toJson),
  ("position", n.position.toJson),
  ("size", n.size.toJson),
  ("dependencies", .texts n.dependencies)]

def ViewEdge.toJson (e : ViewEdge Single) : Json := .object [
  ("source", .string e.source),
  ("target", .string e.target),
  ("origin", e.origin.toJson),
  ("from", e.start.toJson),
  ("to", e.stop.toJson),
  ("in_cycle", .bool e.inCycle),
  ("style", e.style.toJson)]

def ViewLayer.toJson (l : ViewLayer Single) : Json := .object [
  ("key", l.key.toJson),
  ("group", .string l.group),
  ("display_name", .string l.displayName),
  ("color", l.color.toJson),
  ("label_anchor", l.labelAnchor.toJson),
  ("separator_from", l.separatorStart.toJson),
  ("separator_to", l.separatorStop.toJson)]

def View.toJson (v : View Single) : Json := .object [
  ("nodes", .list ViewNode.toJson v.nodes),
  ("edges", .list ViewEdge.toJson v.edges),
  ("layers", .list ViewLayer.toJson v.layers),
  ("cycles", .list .texts v.cycles)]

def RuleDetails.toJson (d : RuleDetails) : Json := .object [
  ("target", .string d.target),
  ("expression", .string d.expression),
  ("depends_on", .texts d.dependsOn),
  ("group", .option .string d.group),
  ("effective_from", .option Date.toJson d.effectiveFrom),
  ("effective_to", .option Date.toJson d.effectiveTo),
  ("used_by", .texts d.usedBy)]

end RulePyramid
