import BrokerMaps.Value.Basic

/-!
# Calls

Calling a method of a value by its name. An object may have been given an extra field under the
name of a method. Such a field stands in the way of the method, and since no value can be called,
the call fails as soon as it is made: arguments are worked out before, effects come after.
-/
namespace BrokerMaps.Value

def shapeFault {α : Type} (fault : ShapeFault) : Except Fault α := .error (.shape fault)

/-- Refuses a call of a method that an extra field stands in the way of. -/
def checkCallable (value : Value) (method : String) : Except Fault Unit :=
  match value.extraField? method with
  | some given => shapeFault (.notCallable given.className)
  | none => .ok ()

/-- A call of a method that the class of the value does not have. -/
def refuseCall {α : Type} (value : Value) (method : String) : Except Fault α := do
  value.checkCallable method
  shapeFault (.noAttribute value.className method)

end BrokerMaps.Value
