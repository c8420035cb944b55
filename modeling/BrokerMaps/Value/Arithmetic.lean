import BrokerMaps.Value.Sequence

/-!
# Values in arithmetic

The few operators that settings and chunk layout apply to values: comparison with an integer,
addition, and division into chunks. Truth values and modes count as integers;
mixing an integer with a double rounds the integer first, which fails when it is out of range.
A sum is a new object and has no identity yet.
-/
namespace BrokerMaps.Value

/-- The integer that a value counts as, doubles excepted. -/
def integral? : Value → Option Int
  | .bool b => some (if b then 1 else 0)
  | .int n => some n
  | .mode m => some m.toNat
  | .shared _ _ content _ => integral? (content ())
  | _ => none

/-- The double that a number is converted to next to a double. -/
def toBinary64? (value : Value) : Option (Except Fault Binary64) :=
  match value with
  | .float _ x => some (.ok x)
  | value =>
    value.integral?.map fun n =>
      match Binary64.ofInt? n with
      | some x => .ok x
      | none => shapeFault .integerTooLarge

def lessThan (value : Value) (bound : Int) : Except Fault Bool :=
  match value.number? with
  | some number => .ok (number.lessInt bound)
  | none => shapeFault (.notOrdered value.className "int")

def unsupported {α : Type} (operator : String) (left right : Value) : Except Fault α :=
  shapeFault (.unsupportedOperands operator left.className right.className)

/-- Addition of numbers, concatenation of texts and of sequences of one class. -/
def plus (left right : Value) : Except Fault Value :=
  match left.opened, right.opened with
  | .text s, .text t => .ok (.text (s ++ t))
  | .text _, found => shapeFault (.concatenatesOnly "str" found.className)
  | .list _ items, .list _ more => .ok (.list none (items ++ more))
  | .list _ _, found => shapeFault (.concatenatesOnly "list" found.className)
  | .tuple _ items, .tuple _ more => .ok (.tuple none (items ++ more))
  | .tuple _ _, found => shapeFault (.concatenatesOnly "tuple" found.className)
  -- A view cannot be concatenated, but it can be appended to another buffer.
  | .buffer (.view form) bytes, found => unsupported "+" (.buffer (.view form) bytes) found
  | .buffer kind bytes, .buffer _ more => .ok (.buffer kind (bytes ++ more))
  | .buffer kind _, found =>
    shapeFault (.cannotConcatenate (bufferClass kind) found.className)
  -- Without a sequence on the left it is arithmetic, exact unless a double takes part.
  | left, right =>
    match left.integral?, right.integral? with
    | some n, some m => .ok (.int (n + m))
    | _, _ =>
      match left.toBinary64?, right.toBinary64? with
      | some x, some y => do
        let x ← x
        let y ← y
        return .float none (x.add y)
      | _, _ => unsupported "+" left right

/-- A length and a chunk size as integers to count by. A quotient that involves a double cannot be
counted by, and nothing can be divided by zero. -/
def countedBy (length chunkSize : Value) : Except Fault (Int × Int) :=
  match length.integral?, chunkSize.integral? with
  | some n, some m => if m = 0 then shapeFault .integerDivisionByZero else .ok (n, m)
  | _, _ =>
    match length.toBinary64?, chunkSize.toBinary64? with
    | some x, some y => do
      let _ ← x
      let y ← y
      if y.isZero then shapeFault .floatDivisionByZero
      else shapeFault (.notAnInteger "float")
    | _, _ => unsupported "//" length chunkSize

end BrokerMaps.Value
