import BrokerMaps.Text.Clipped
import BrokerMaps.Text.Quoted

/-!
# Faults

Every way in which an operation of this library can fail, named by its cause. The causes are
grouped by what was asked: a shape fault means that a value was used in a way its class does not
offer, the others belong to bean names, settings, messages, chunks, metrics and the flattening
itself. A fault carries the texts that its wording needs and nothing else; `message` is the only
place where the wording stands, and `kind` sorts the causes into classes of errors.

A fault raised by an application object is passed on as it is. The application may raise what has no
text, because the text is formed only when it is asked for and forming it fails; `text` is the
wording for whoever has to cope with that.

The name of a class can be of any length. Where a value was used in a way that its class does not
offer, the wording clips the name: after fifty bytes where something is missing from the value,
after a hundred where two classes do not go together, and after two hundred elsewhere. Everything
else is shown in full.
-/
namespace BrokerMaps

/-! ## Kinds -/

/-- Classes of errors. -/
inductive FaultKind where
  | transform
  | console
  | malformedName
  | settings
  | messaging
  | messageFormat
  | value
  | type
  | missingAttribute
  | frozenField
  | key
  | lookup
  | runtime
  | assertion
  | arithmetic
  | overflow
  | zeroDivision
  | index
  | recursion
  | duplicateSeries
  | exhausted
  | other (name : String)
  deriving DecidableEq, Repr

/-- The more general kind that a kind belongs to, when that is a kind of its own. -/
def FaultKind.parent? : FaultKind → Option FaultKind
  | .transform => some .console
  | .console => some .runtime
  | .malformedName => some .value
  | .settings => some .value
  | .messageFormat => some .messaging
  | .messaging => some .runtime
  | .frozenField => some .missingAttribute
  | .key => some .lookup
  | .index => some .lookup
  | .recursion => some .runtime
  | .overflow => some .arithmetic
  | .zeroDivision => some .arithmetic
  | .duplicateSeries => some .value
  | _ => none

def FaultKind.lineageFrom : Nat → FaultKind → List FaultKind
  | 0, kind => [kind]
  | steps + 1, kind =>
    match kind.parent? with
    | some parent => kind :: lineageFrom steps parent
    | none => [kind]

/-- A kind followed by the kinds it belongs to, most specific first. No chain is longer than
three. -/
def FaultKind.lineage (kind : FaultKind) : List FaultKind := lineageFrom 3 kind

/-! ## Causes -/

inductive NameFault where
  | emptyDomain
  | unusableKey (shown : String)
  | missingColon (name : String)
  | noComponents (name : String)
  | missingEquals (component name : String)
  | emptyKey (component name : String)
  | duplicateKey (key name : String)
  deriving DecidableEq, Repr

inductive SettingsFault where
  | chunkSizeTooSmall (shown : String)
  | unknownRendering (shown : String)
  | chunkSizeNotInteger (given : String)
  deriving DecidableEq, Repr

/-- The two stores of a message whose entries are named. -/
inductive EntryRole where
  | property
  | mapField
  deriving DecidableEq, Repr

inductive MetricFault where
  | unknownMetric (name : String)
  | missingTag (name label : String)
  | negativeIncrement
  | seriesAlreadyClaimed
  deriving DecidableEq, Repr

/-- A value was used in a way that its class does not offer. Class names stand for the values. -/
inductive ShapeFault where
  | noAttribute (owner name : String)
  | noSetter (owner name : String)
  | readOnlyAttribute (owner name : String)
  | fixedMember (name : String)
  | frozenField (name : String)
  | unknownFrozenField
  | noLength (owner : String)
  | lengthNegative
  | lengthTooLarge
  | notIterable (owner : String)
  | notSubscriptable (owner : String)
  | noItemAssignment (owner : String)
  | indexNotInteger (owner index : String)
  | indexOutOfRange (owner : String)
  | indexTooLarge
  | notCallable (owner : String)
  | readOnlyMemory
  | viewKeyNotSlice
  | unhashable (owner : String)
  | writableView
  | wideView
  | notAnInteger (owner : String)
  | notOrdered (left right : String)
  | unsupportedOperands (operator left right : String)
  | concatenatesOnly (owner found : String)
  | cannotConcatenate (owner found : String)
  | cannotExtend (owner found : String)
  | byteOutOfRange
  | bytesOutOfRange
  | textWithoutEncoding
  | integerTooLong
  | integerTooLarge
  | integerDivisionByZero
  | floatDivisionByZero
  | pairNotSequence (index : Nat)
  | pairLength (index length : Nat)
  | unexpectedArgument (owner name : String)
  | missingArgument (owner name : String)
  | tooManyArguments (owner : String) (least most given : Nat)
  | unreadableNumber (text : String)
  | notAnAttribute (found : String)
  | unusableClassName
  | levelNotInteger
  deriving DecidableEq, Repr

inductive Fault where
  /-- The identity attribute of a bean holds something that is not a name. -/
  | identityNotAName (found : String)
  /-- A field could not be read while flattening an object of this shape. -/
  | flattenFailed (shape : String) (cause : Fault)
  | name (fault : NameFault)
  | settings (fault : SettingsFault)
  | entryName (role : EntryRole) (shown : String)
  | shape (fault : ShapeFault)
  | negativeLength (shown : String)
  | unknownRenderer (shown : String)
  /-- Content whose length alone may be asked for was read. -/
  | contentWithheld
  | metric (fault : MetricFault)
  | noNextFilter (filter : String)
  | unknownVariable (name : String)
  /-- The operation would go on for ever. -/
  | endless
  /-- The operation asks for more room than there is. -/
  | outOfRoom
  /-- A value holds itself in a way that no writing of it comes to an end. -/
  | tooDeep
  | raised (kind : FaultKind) (text : String)
  /-- Raised with a text that cannot be formed, because forming it fails in turn. -/
  | untold (kind : FaultKind) (failure : Fault)
  deriving DecidableEq, Repr

/-! ## Kind of a cause -/

def ShapeFault.kind : ShapeFault → FaultKind
  | .noAttribute _ _ | .noSetter _ _ | .readOnlyAttribute _ _ | .fixedMember _ =>
    .missingAttribute
  | .indexOutOfRange _ | .indexTooLarge => .index
  | .frozenField _ => .frozenField
  | .lengthNegative | .byteOutOfRange | .bytesOutOfRange | .integerTooLong | .pairLength _ _
  | .unreadableNumber _ | .unusableClassName | .writableView | .wideView => .value
  | .lengthTooLarge | .integerTooLarge => .overflow
  | .integerDivisionByZero | .floatDivisionByZero => .zeroDivision
  | _ => .type

def MetricFault.kind : MetricFault → FaultKind
  | .seriesAlreadyClaimed => .duplicateSeries
  | _ => .value

def Fault.kind : Fault → FaultKind
  | .identityNotAName _ | .flattenFailed _ _ => .transform
  | .name _ => .malformedName
  | .settings _ => .settings
  | .entryName _ _ => .messageFormat
  | .shape fault => fault.kind
  | .negativeLength _ | .unknownRenderer _ => .value
  | .contentWithheld => .assertion
  | .metric fault => fault.kind
  | .noNextFilter _ => .runtime
  | .unknownVariable _ => .key
  | .endless | .outOfRoom => .exhausted
  | .tooDeep => .recursion
  | .raised kind _ => kind
  | .untold kind _ => kind

/-- The kind of the fault that gave rise to a fault, where one is named as its cause. -/
def Fault.causeKind? : Fault → Option FaultKind
  | .flattenFailed _ cause => some cause.kind
  | .settings (.chunkSizeNotInteger _) => some .value
  | _ => none

/-! ## Wording -/

open Text (clipped quoted)

def NameFault.message : NameFault → String
  | .emptyDomain => "ObjectName domain must be non-empty"
  | .unusableKey shown => "ObjectName key must be a non-empty string, got " ++ shown
  | .missingColon name => "Missing ':' in ObjectName " ++ quoted name
  | .noComponents name => "ObjectName " ++ quoted name ++ " has no key properties"
  | .missingEquals component name =>
    "Component " ++ quoted component ++ " of " ++ quoted name ++ " is missing '='"
  | .emptyKey component name =>
    "Component " ++ quoted component ++ " of " ++ quoted name ++ " has an empty key"
  | .duplicateKey key name => "Duplicate key " ++ quoted key ++ " in ObjectName " ++ quoted name

def SettingsFault.message : SettingsFault → String
  | .chunkSizeTooSmall shown => "bytes_chunk_size must be >= 1, got " ++ shown
  | .unknownRendering shown =>
    "Unknown bytes_rendering '" ++ shown ++ "', expected one of text, base64, length"
  | .chunkSizeNotInteger given =>
    "BROKERCONSOLE_BYTES_CHUNK_SIZE must be an integer, got " ++ quoted given

def EntryRole.title : EntryRole → String
  | .property => "Property"
  | .mapField => "Map field"

def MetricFault.message : MetricFault → String
  | .unknownMetric name => "Unknown transform metric '" ++ name ++ "'"
  | .missingTag name label => "Metric '" ++ name ++ "' requires a '" ++ label ++ "' tag"
  | .negativeIncrement => "Counters can only be incremented by non-negative amounts."
  | .seriesAlreadyClaimed => "Duplicated timeseries in CollectorRegistry"

/-- The name of a class from which something is missing. -/
def narrowName (className : String) : String := clipped 50 className

/-- The name of a class that does not go together with another. -/
def pairedName (className : String) : String := clipped 100 className

/-- The name of a class that a value should not be of. -/
def wideName (className : String) : String := clipped 200 className

def ShapeFault.message : ShapeFault → String
  | .noAttribute owner name =>
    "'" ++ narrowName owner ++ "' object has no attribute '" ++ name ++ "'"
  | .noSetter owner name =>
    "property '" ++ name ++ "' of " ++ quoted owner ++ " object has no setter"
  | .readOnlyAttribute owner name =>
    "'" ++ narrowName owner ++ "' object attribute '" ++ name ++ "' is read-only"
  | .fixedMember name => "<enum 'Enum'> cannot set attribute " ++ quoted name
  | .frozenField name => "cannot assign to field " ++ quoted name
  | .unknownFrozenField => "super(type, obj): obj must be an instance or subtype of type"
  | .noLength owner => "object of type '" ++ wideName owner ++ "' has no len()"
  | .lengthNegative => "__len__() should return >= 0"
  | .lengthTooLarge | .indexTooLarge => "cannot fit 'int' into an index-sized integer"
  | .notIterable owner => "'" ++ wideName owner ++ "' object is not iterable"
  | .notSubscriptable owner => "'" ++ wideName owner ++ "' object is not subscriptable"
  | .noItemAssignment owner =>
    "'" ++ wideName owner ++ "' object does not support item assignment"
  | .indexNotInteger owner index =>
    owner ++ " indices must be integers or slices, not " ++ wideName index
  | .indexOutOfRange owner => owner ++ " index out of range"
  | .notCallable owner => "'" ++ wideName owner ++ "' object is not callable"
  | .readOnlyMemory => "cannot modify read-only memory"
  | .viewKeyNotSlice => "memoryview: invalid slice key"
  | .unhashable owner => "unhashable type: '" ++ wideName owner ++ "'"
  | .writableView => "cannot hash writable memoryview object"
  | .wideView => "memoryview: hashing is restricted to formats 'B', 'b' or 'c'"
  | .notAnInteger owner =>
    "'" ++ wideName owner ++ "' object cannot be interpreted as an integer"
  | .notOrdered left right =>
    "'<' not supported between instances of '" ++ pairedName left ++ "' and '"
      ++ pairedName right ++ "'"
  | .unsupportedOperands operator left right =>
    "unsupported operand type(s) for " ++ operator ++ ": '" ++ pairedName left ++ "' and '"
      ++ pairedName right ++ "'"
  | .concatenatesOnly owner found =>
    "can only concatenate " ++ owner ++ " (not \"" ++ wideName found ++ "\") to " ++ owner
  | .cannotConcatenate owner found => "can't concat " ++ pairedName found ++ " to " ++ owner
  | .cannotExtend owner found => "can't extend " ++ owner ++ " with " ++ pairedName found
  | .byteOutOfRange => "byte must be in range(0, 256)"
  | .bytesOutOfRange => "bytes must be in range(0, 256)"
  | .textWithoutEncoding => "string argument without an encoding"
  | .integerTooLong =>
    "Exceeds the limit (4300 digits) for integer string conversion; "
      ++ "use sys.set_int_max_str_digits() to increase the limit"
  | .integerTooLarge => "int too large to convert to float"
  | .integerDivisionByZero => "integer division or modulo by zero"
  | .floatDivisionByZero => "float floor division by zero"
  | .pairNotSequence index =>
    "cannot convert dictionary update sequence element #" ++ toString index ++ " to a sequence"
  | .pairLength index length =>
    "dictionary update sequence element #" ++ toString index ++ " has length "
      ++ toString length ++ "; 2 is required"
  | .unexpectedArgument owner name =>
    owner ++ ".__init__() got an unexpected keyword argument '" ++ name ++ "'"
  | .missingArgument owner name =>
    owner ++ ".__init__() missing 1 required positional argument: '" ++ name ++ "'"
  | .tooManyArguments owner least most given =>
    owner ++ ".__init__() takes "
      ++ (if least = most then toString most else
        "from " ++ toString least ++ " to " ++ toString most)
      ++ " positional arguments but " ++ toString given ++ " were given"
  | .unreadableNumber text => "could not convert string to float: " ++ quoted text
  | .notAnAttribute found => "AttributeList accepts Attribute values, got " ++ found
  | .unusableClassName => "type name must not contain null characters"
  | .levelNotInteger => "level must be an integer"

/-- The name under which a bean's attributes carry the identity of the bean itself. -/
def identityAttribute : String := "Attribute:ObjectName:"

/-- A fault of a lookup shows the key it looked for, quoted. -/
def Fault.message : Fault → String
  | .identityNotAName found =>
    "Attribute " ++ quoted identityAttribute ++ " must hold an ObjectName, got " ++ found
  | .flattenFailed className cause => "Failed to transform " ++ className ++ ": " ++ cause.message
  | .name fault => fault.message
  | .settings fault => fault.message
  | .entryName role shown => role.title ++ " name must be a non-empty string, got " ++ shown
  | .shape fault => fault.message
  | .negativeLength shown => "Body length must be >= 0, got " ++ shown
  | .unknownRenderer shown => "Unknown bytes rendering '" ++ shown ++ "'"
  | .contentWithheld => "chunk content should not be read"
  | .metric fault => fault.message
  | .noNextFilter filter => filter ++ " has no next filter to query"
  | .unknownVariable sought => quoted sought
  | .endless | .outOfRoom => ""
  | .tooDeep => "maximum recursion depth exceeded"
  | .raised .key text => quoted text
  | .raised _ text => text
  | .untold _ _ => ""

/-- The text of a fault, for whoever puts it into a text of their own. -/
def Fault.text : Fault → Except Fault String
  | .untold _ failure => .error failure
  | fault => .ok fault.message

end BrokerMaps
