import Conformance.Exchange
import Conformance.Resolution.Basic

/-!
# Report

The answer of the command line: the packages of a result in the exchange format, then the
implementations of each satisfied interface, then all edges.

**Order.**  Interfaces, the structs of an interface, and the edges are in the order of their names;
packages and their records are in the order of the result.
-/

namespace Conformance
namespace Report

section Defs

/-- The object of an edge. -/
def edgeJson (key : EdgeKey) (e : Edge) : Json :=
  .obj [("interface", .str key.1), ("struct", .str key.2), ("reason", .str e.reason.name),
    ("match_rate", (e.rate.map Json.real).getD .null)]

/-- The object that lists the implementations of each satisfied interface. -/
def implementationsJson (r : Resolution) : Json :=
  .obj (r.implementations.map fun (interfaceName, structNames) =>
    (interfaceName, .arr (structNames.map .str)))

/-- The list of all edges. -/
def edgesJson (r : Resolution) : Json :=
  .arr (r.sortedEdges.map fun e => edgeJson e.1 e.2)

/-- The report on a result and its implementations. -/
def full (result : Result) (resolution : Resolution) : Json :=
  .obj ((Exchange.Payload.ofResult result).members ++
    [("implementations", implementationsJson resolution), ("edges", edgesJson resolution)])

/-- The report where there is nothing to report. -/
def nothing : Json :=
  Exchange.Payload.empty.toJson

end Defs

end Report
end Conformance
