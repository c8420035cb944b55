import BrokerMaps.Flatten.Report
import BrokerMaps.Value.Arithmetic

/-!
# Counters

The three counters of the transform, each with one label. A counter is registered under a namespace,
which with its name makes the base name that all names of its series begin with. It has one number
per label value, in the order in which the label values were first used.
-/
namespace BrokerMaps

/-- A counter as it is declared: its full name, the one label it has, and what it counts. -/
structure CounterSpec where
  name : String
  label : String
  help : String
  deriving DecidableEq, Repr

/-- The three counters of the transform in the order of registration. -/
def transformCounters : List CounterSpec :=
  [⟨transformedTotal, "kind", "Objects flattened into property maps, by shape."⟩,
    ⟨unsupportedTotal, "type", "Objects with no registered map transform, by type."⟩,
    ⟨failedTotal, "kind", "Transforms aborted by a field read failure, by shape."⟩]

/-- A registered counter: the name its series are derived from, and a number per label value. -/
structure Family where
  base : String
  label : String
  help : String
  samples : List (String × Binary64)
  distinct : (samples.map (·.1)).Nodup

namespace Family

def dropTotal (name : List Char) : List Char :=
  let total := "_total".toList
  if total.isSuffixOf name then name.take (name.length - total.length) else name

/-- The base name: the namespace, if there is one, an underscore, and the name without its final
`_total`. -/
def baseName (nameSpace name : String) : String :=
  let full := if nameSpace.isEmpty then name else nameSpace ++ "_" ++ name
  String.ofList (dropTotal full.toList)

/-- A counter that nothing was counted with yet. -/
def ofSpec (nameSpace : String) (spec : CounterSpec) : Family :=
  ⟨baseName nameSpace spec.name, spec.label, spec.help, [], .nil⟩

/-- The series names that a family claims. -/
def claims (family : Family) : List String :=
  [family.base, family.base ++ "_total", family.base ++ "_created"]

/-- The name under which the numbers of a family are shown. -/
def sampleName (family : Family) : String := family.base ++ "_total"

end Family
end BrokerMaps
