import BrokerMaps.Chunk.Rendering
import BrokerMaps.Text.Integer
import BrokerMaps.Text.LowerCase

/-!
# Settings

How keys are prefixed and how bodies are divided and rendered. Settings are built from named
arguments or read from an environment of texts. Only two things are checked: the chunk size must
not be below one and the rendering must be known. A prefix may be any value, and so may the chunk
size as long as it compares; what does not fit fails when it is used.
-/
namespace BrokerMaps

structure Settings where
  headerPrefix : Value
  customPrefix : Value
  bodyPrefix : Value
  chunkSize : Value
  rendering : Rendering

namespace Settings

def defaultHeaderPrefix : String := "JMS_HEADER_FIELD:"
def defaultCustomPrefix : String := "JMS_CUSTOM_FIELD:"
def defaultBodyPrefix : String := "JMS_BODY_FIELD:"

/-- The greatest length that a signed 32-bit number can hold. -/
def int32Max : Int := Int.pow 2 31 - 1

/-- Arguments before they are checked. -/
structure Draft where
  headerPrefix : Value := .text defaultHeaderPrefix
  customPrefix : Value := .text defaultCustomPrefix
  bodyPrefix : Value := .text defaultBodyPrefix
  chunkSize : Value := .int int32Max
  rendering : Value := .text Rendering.text.name

/-- Checks the chunk size before the rendering. -/
def check (draft : Draft) : Except Fault Settings := do
  if ← draft.chunkSize.lessThan 1 then
    let shown ← draft.chunkSize.formatted
    .error (.settings (.chunkSizeTooSmall shown))
  match Rendering.ofValue? draft.rendering with
  | some rendering =>
    return ⟨draft.headerPrefix, draft.customPrefix, draft.bodyPrefix, draft.chunkSize, rendering⟩
  | none =>
    let shown ← draft.rendering.formatted
    .error (.settings (.unknownRendering shown))

def Draft.withArguments (draft : Draft) : List (String × Value) → Except Fault Draft
  | [] => .ok draft
  | (name, value) :: rest =>
    match name with
    | "header_prefix" => withArguments { draft with headerPrefix := value } rest
    | "custom_prefix" => withArguments { draft with customPrefix := value } rest
    | "body_prefix" => withArguments { draft with bodyPrefix := value } rest
    | "bytes_chunk_size" => withArguments { draft with chunkSize := value } rest
    | "bytes_rendering" => withArguments { draft with rendering := value } rest
    | name => Value.shapeFault (.unexpectedArgument "FilterSettings" name)

/-- Settings from named arguments over the defaults. -/
def ofArguments (arguments : List (String × Value)) : Except Fault Settings := do
  let draft ← Draft.withArguments {} arguments
  check draft

def default : Settings :=
  ⟨.text defaultHeaderPrefix, .text defaultCustomPrefix, .text defaultBodyPrefix, .int int32Max,
    .text⟩

/-- The defaults pass their own check. -/
theorem check_default : check {} = .ok default := rfl

/-- The fields in the order in which they are declared, each under its name. -/
def fields (settings : Settings) : List (String × Value) :=
  [("header_prefix", settings.headerPrefix), ("custom_prefix", settings.customPrefix),
    ("body_prefix", settings.bodyPrefix), ("bytes_chunk_size", settings.chunkSize),
    ("bytes_rendering", .text settings.rendering.name)]

/-- The settings as a record. -/
def quoted (settings : Settings) : Except Fault String := do
  let written ← settings.fields.mapM fun field => do
    let shown ← field.2.quoted
    return (field.1, shown)
  return Value.recordText "FilterSettings" written

/-- The settings with every value that may be shared replaced. -/
def mapValues (settings : Settings) (change : Value → Value) : Settings :=
  { settings with
    headerPrefix := change settings.headerPrefix
    customPrefix := change settings.customPrefix
    bodyPrefix := change settings.bodyPrefix
    chunkSize := change settings.chunkSize }

/-! ## Environment -/

/-- The variables that settings are read from, where they are set. -/
structure Environment where
  headerPrefix? : Option String := none
  customPrefix? : Option String := none
  bodyPrefix? : Option String := none
  chunkSize? : Option String := none
  rendering? : Option String := none

/-- A rendering name may stand between blanks and in any letter case. -/
def normalized (name : String) : String :=
  String.ofList (Text.lowerCase (Text.trim Text.isBlank name.toList))

/-- Reads the chunk size before anything else is looked at. -/
def ofEnvironment (environment : Environment) : Except Fault Settings :=
  let given := environment.chunkSize?.getD (toString int32Max)
  match Text.readInteger? given with
  | none => .error (.settings (.chunkSizeNotInteger given))
  | some chunkSize =>
    check
      { headerPrefix := .text (environment.headerPrefix?.getD defaultHeaderPrefix)
        customPrefix := .text (environment.customPrefix?.getD defaultCustomPrefix)
        bodyPrefix := .text (environment.bodyPrefix?.getD defaultBodyPrefix)
        chunkSize := .int chunkSize
        rendering := .text (normalized (environment.rendering?.getD Rendering.text.name)) }

end Settings
end BrokerMaps
