import BrokerMaps.Chunk.Span
import BrokerMaps.Text.Base64
import BrokerMaps.Text.Utf8
import BrokerMaps.Value.Digest

/-!
# Chunk rendering

The content of a chunk enters the property map as text, as base64, or only by its length. The last
of these never looks at the body.
-/
namespace BrokerMaps

inductive Rendering where
  | text
  | base64
  | length
  deriving DecidableEq, Repr

namespace Rendering

def name : Rendering → String
  | .text => "text"
  | .base64 => "base64"
  | .length => "length"

def all : List Rendering := [.text, .base64, .length]

def ofName? (name : String) : Option Rendering := all.find? fun rendering => rendering.name = name

def ofValue? : Value → Option Rendering
  | .text s => ofName? s
  | _ => none

/-- Looks a rendering up by a value used as a key. -/
def lookup (key : Value) : Except Fault Rendering := do
  key.requireDigest
  match ofValue? key with
  | some rendering => return rendering
  | none =>
    let shown ← key.formatted
    .error (.unknownRenderer shown)

/-- The text of a chunk of `body` from `start`, `size` long, whose size is shown as given. -/
def render (rendering : Rendering) (body : Value) (start size : Int) (shownSize : Value) :
    Except Fault String :=
  match rendering with
  | .text => do
    let bytes ← body.sliceBytes start (start + size)
    return String.ofList (Text.Utf8.decode bytes)
  | .base64 => do
    let bytes ← body.sliceBytes start (start + size)
    return String.ofList (Text.Base64.encode bytes)
  -- The body is left alone, so that one which cannot be read still shows its length.
  | .length => shownSize.plain

end Rendering
end BrokerMaps
