-- The networks that come with the test bed. There are three of them, all made
-- by adding hosts and links, and what can be computed about each of them holds
-- of every network that the catalogue gives out.
import Testbed.Catalogue.Topologies
import Testbed.Proofs.Topology.Shape

namespace Testbed.Catalogue

theorem mem_topologyNames {name : String} {t : Topology} (h : topology? name = some t) :
    name ∈ topologyNames := by
  unfold topology? at h
  split at h
  · next hname => simp [hname, topologyNames]
  split at h
  · next hname => simp [hname, topologyNames]
  split at h
  · next hname => simp [hname, topologyNames]
  · cases h

/-- What holds of each network in the list holds of one that is looked up. -/
theorem of_topology? {check : Topology → Bool}
    (hall : (topologyNames.all fun name => (topology? name).all check) = true) {name : String}
    {t : Topology} (h : topology? name = some t) : check t = true := by
  have hname := List.all_eq_true.mp hall name (mem_topologyNames h)
  rw [h] at hname
  exact hname

theorem built_of_network {name : String} {hosts : List String} {loss : Float}
    {pairs : List (String × String)} {t : Topology} (h : network name hosts loss pairs = some t) :
    t.Built := by
  unfold network Except.toOption at h
  split at h
  · next hbuild =>
    cases h
    exact Topology.built_of_build _ _ _ hbuild
  · cases h

theorem built {name : String} {t : Topology} (h : topology? name = some t) : t.Built := by
  unfold topology? at h
  split at h
  · exact built_of_network h
  split at h
  · exact built_of_network h
  split at h
  · exact built_of_network h
  · cases h

theorem not_instantiated {name : String} {t : Topology} (h : topology? name = some t) :
    t.instantiated = false := by
  have hall : (topologyNames.all fun name =>
      (topology? name).all fun t => !t.instantiated) = true := by
    decide +kernel
  simpa using of_topology? hall h

end Testbed.Catalogue
