import BrokerMaps.Flatten.Contribution

/-!
# Reports

Transforming one object gives a report: the outcome, the one increment it makes, the diagnostic
line for an object that cannot be flattened, and the log records, of which the closing ones follow
the increment. There are three outcomes, a property map, nothing, or a fault, and the increment says
which. A fault met while flattening is wrapped so as to name the class of the object, unless it is a
transform fault already; so the fault is a transform fault, provided that the one that was met has a
text.
-/
namespace BrokerMaps

abbrev PropertyMap := Table

/-! ## Events -/

/-- The level of a log record: a number, or a truth value that counts as one. -/
inductive Level where
  | number (n : Int)
  | truth (b : Bool)
  deriving DecidableEq, Repr

def Level.toInt : Level → Int
  | .number n => n
  | .truth b => if b then 1 else 0

/-- The level that a value can be used as. -/
def Level.ofValue? : Value → Option Level
  | .bool b => some (.truth b)
  | value => value.integral?.map .number

structure LogRecord where
  logger : String
  level : Level
  text : String
  deriving DecidableEq, Repr

def debugLevel : Int := 10
def warningLevel : Int := 30

/-- The logger of the flattening filter. -/
def flattenLogger : String := "brokerconsole.filters.map_transform"

/-- A request to count something, with tags where there are any. -/
structure Increment where
  name : String
  amount : Value
  tags? : Option (List (String × Value))

def transformedTotal : String := "map_transform_total"
def unsupportedTotal : String := "map_transform_unsupported_total"
def failedTotal : String := "map_transform_failed_total"

def countOnce (name label value : String) : Increment := ⟨name, .int 1, some [(label, .text value)]⟩

/-! ## Flattening into a map -/

/-- A map and the records logged on the way to it. -/
structure Flattened where
  map : PropertyMap
  records : List LogRecord

/-- A bytes message logs into how many chunks its body was split. -/
def splitRecords (settings : Settings) (value : Value) : List LogRecord :=
  match (value.field "body_length").toOption.bind Value.integral?, settings.chunkSize.integral? with
  | some length, some chunkSize =>
    [⟨flattenLogger, .number debugLevel,
      "Split " ++ toString length ++ " body bytes into "
        ++ toString (length.fdiv chunkSize + 1) ++ " chunk(s)"⟩]
  | _, _ => []

/-- A key that came out of an addition is a new object, and a NaN that is new is no other key. Its
place among the contributions tells it from the others. -/
def newKey (place : Nat) : Value → Value
  | .float none x => .float (some place) x
  | key => key

def withNewKeys (contributions : List Contribution) : List Contribution :=
  contributions.zipIdx.map fun placed => (newKey placed.2 placed.1.1, placed.1.2)

/-- Reads a value as being of a shape and sets its contributions one after the other. -/
def flattenAs (flattener : Flattener) (shape : Shape) (value : Value) :
    Except Fault Flattened := do
  let contributions ← shape.contributions flattener value
  return ⟨Table.insertAll [] (withNewKeys contributions),
    if shape = .message .bytes then splitRecords flattener.settings value else []⟩

/-! ## Reports -/

structure Report where
  outcome : Except Fault (Option PropertyMap)
  increment : Increment
  line? : Option String
  records : List LogRecord
  closing : List LogRecord

def unsupportedLine (typeName : String) : String :=
  "Unable to transform mbean of type: " ++ typeName
    ++ ". No corresponding transformToMap method found."

def unsupportedReport (value : Value) : Report :=
  let typeName := value.classOf.qualified
  { outcome := .ok none
    increment := countOnce unsupportedTotal "type" typeName
    line? := some (unsupportedLine typeName)
    records :=
      [⟨flattenLogger, .number warningLevel,
        "No map transform registered for type " ++ typeName⟩]
    closing := [] }

/-- What a fault of flattening becomes. The text of the fault is put into that of the one that wraps
it, so where it cannot be formed the failure to form it takes the place of both. -/
def wrapFault (className : String) (fault : Fault) : Fault :=
  if fault.kind = .transform then fault
  else
    match fault.text with
    | .ok _ => .flattenFailed className fault
    | .error failure => failure

def failedReport (className : String) (fault : Fault) : Report :=
  { outcome := .error (wrapFault className fault)
    increment := countOnce failedTotal "kind" className
    line? := none
    records := []
    closing := [] }

def transformedReport (className : String) (flattened : Flattened) : Report :=
  { outcome := .ok (some flattened.map)
    increment := countOnce transformedTotal "kind" className
    line? := none
    records := flattened.records
    closing :=
      [⟨flattenLogger, .number debugLevel,
        "Transformed " ++ className ++ " into " ++ toString flattened.map.length
          ++ " properties"⟩] }

/-- Transforms one object. -/
def Flattener.report (flattener : Flattener) (value : Value) : Report :=
  match Shape.of? value with
  | none => unsupportedReport value
  | some shape =>
    match flattenAs flattener shape value with
    | .ok flattened => transformedReport value.className flattened
    | .error fault => failedReport value.className fault

end BrokerMaps
