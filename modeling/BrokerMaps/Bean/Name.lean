import BrokerMaps.Text.Cut
import BrokerMaps.Value.Table

/-!
# Bean names

A bean name is a domain and named components in order. Its written form is the domain, a colon and
the components `key=value` between commas. Only this unquoted form is read: the first colon ends
the domain, every comma ends a component, and the first equals sign of a component ends its key,
so that a value may hold colons, equals signs and quotes, and may be empty.

Names are also built from values. Then the domain may be anything that counts as true, the
components come from a table or from a sequence of pairs, and only the keys are checked: they must
be non-empty texts. Such a name need not have a written form that reads back.
-/
namespace BrokerMaps

namespace BeanName

/-! ## Reading -/

def nameFault {α : Type} (fault : NameFault) : Except Fault α := .error (.name fault)

/-- Reads one component; `name` is the whole text, which the fault shows. -/
def parseComponent (name : String) (component : List Char) : Except Fault (String × String) :=
  match Text.cut '=' component with
  | (_, none) => nameFault (.missingEquals (String.ofList component) name)
  | (key, some value) =>
    if key.isEmpty then nameFault (.emptyKey (String.ofList component) name)
    else .ok (String.ofList key, String.ofList value)

/-- Reads components in order after those already read, refusing a key that occurred before. -/
def parseComponents (name : String) (read : List (String × String)) :
    List (List Char) → Except Fault (List (String × String))
  | [] => .ok read
  | component :: rest => do
    let (key, value) ← parseComponent name component
    if (read.map (·.1)).contains key then nameFault (.duplicateKey key name)
    else parseComponents name (read ++ [(key, value)]) rest

/-- Reads the written form of a name. The domain is looked at last. -/
def parse (name : String) : Except Fault (BeanName String) :=
  match Text.cut ':' name.toList with
  | (_, none) => nameFault (.missingColon name)
  | (_, some []) => nameFault (.noComponents name)
  | (domain, some rest) => do
    let components ← parseComponents name [] (Text.pieces ',' rest)
    if domain.isEmpty then nameFault .emptyDomain
    else return ⟨String.ofList domain, components⟩

/-! ## Building -/

/-- Components out of a table, provided that every key is a non-empty text. -/
def componentsOf : Table → Except Fault (List (String × Value))
  | [] => .ok []
  | (key, value) :: rest => do
    let name ←
      match key with
      | .text s => if s.isEmpty then refuse key else .ok s
      | key => refuse key
    let others ← componentsOf rest
    return (name, value) :: others
where
  refuse (key : Value) : Except Fault String := do
    let shown ← key.quoted
    nameFault (.unusableKey shown)

def build (domain components : Value) : Except Fault (BeanName Value) := do
  let present ← domain.truth
  if present then
    let table ← Table.copyOf components
    let components ← componentsOf table
    return ⟨domain, components⟩
  else nameFault .emptyDomain

/-- A name of texts as a name of values. -/
def ofTexts (name : BeanName String) : BeanName Value :=
  ⟨.text name.domain, name.components.map fun component => (component.1, .text component.2)⟩

/-! ## Components -/

/-- The components as a table of their own, which can change without the name changing. -/
def toTable (name : BeanName Value) : Table :=
  name.components.map fun component => (.text component.1, component.2)

/-- The value of a component, null when there is none of that name. -/
def component (name : BeanName Value) (key : Value) : Except Fault Value :=
  Table.get name.toTable key

/-- The written form; null components are left out. -/
def write (name : BeanName Value) : Except Fault String := (Value.beanName (.fresh none) name).plain

end BeanName
end BrokerMaps
