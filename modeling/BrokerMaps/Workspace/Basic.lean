import BrokerMaps.Console.Chain
import BrokerMaps.Value.Field
import BrokerMaps.Value.Reference

/-!
# Workspaces

A workspace holds the objects of one session under names, and the console they use. An object that
can change is kept apart under its identity, and everyone who holds it refers to it, so that all see
its changes; any other object is as good as its value. Binding a name again leaves the object that
it named where it is.

Filters, writers and sinks are named too, and a name of one can stand wherever a value can. The
value is then an application object, and what it stands for is found by its identity. A filter holds
the values that it was given, which may be anything, and what they stand for is found when the
filter is used.

Reading a value puts the content of shared objects in. Objects may hold each other in circles, so
this goes as deep as any value can be read before it repeats itself, and no deeper.
-/
namespace BrokerMaps

/-- A filter as it was built. A sink that counted as false is none. -/
inductive Link where
  | fixed (results : List Value)
  | identity (next : Value)
  | flattening (next : Value) (settings : Settings) (writer : Value) (sink? : Option Value)

def Link.kind : Link → FilterKind
  | .fixed _ => .fixed
  | .identity _ => .identity
  | .flattening _ _ _ _ => .flattening

/-- What an application object stands for when it is one of the library's own. -/
inductive Part where
  | writer (number : Nat)
  | sink (number : Nat)
  | filter (link : Link)

namespace Part

def writer? : Part → Option Nat
  | .writer number => some number
  | _ => none

def sink? : Part → Option Nat
  | .sink number => some number
  | _ => none

def writerMethod : String := "print_line"
def sinkMethod : String := "incr"

/-- Whether a part has a method of a name. -/
def offers (method : String) : Part → Bool
  | .writer _ => method = writerMethod
  | .sink _ => method = sinkMethod
  | .filter link => link.kind.offers method

/-- What can be read of a part without calling a method. -/
def properties : Part → List String
  | .filter link => link.kind.properties
  | _ => []

end Part

/-- `installed?` is the value that was installed as the writer to use, if any was. -/
structure Workspace where
  nextIdentity : Nat
  objects : List (Nat × Value)
  extras : List ((Nat × String) × Value)
  names : List (String × Value)
  parts : List (Nat × Part)
  installed? : Option Value
  console : Console

abbrev WorkspaceM (α : Type) := ExceptT Fault (StateM Workspace) α

namespace Workspace

/-- The first identity that is free, after those of the delivery modes. -/
def firstIdentity : Nat := 3

def fresh (level : Int) : Workspace :=
  ⟨firstIdentity, [], [], [], [], none, Console.fresh level⟩

/-! ## Reading -/

def objectAt (workspace : Workspace) (identity : Nat) : Value :=
  (workspace.objects.lookup identity).getD .unread

def extraAt (workspace : Workspace) (identity : Nat) (name : String) : Value :=
  (workspace.extras.lookup (identity, name)).getD .unread

/-- Whether an object was given any extra fields. -/
def hasExtras (workspace : Workspace) (identity : Nat) : Bool :=
  workspace.extras.any fun extra => extra.1.1 = identity

/-- A delivery mode as it is now. -/
def modeNow (workspace : Workspace) (extra : Nat → String → Value) (mode : DeliveryMode) : Value :=
  if workspace.hasExtras mode.toNat then Value.modeWith extra mode else .mode mode

/-- A value with the content of shared objects put in down to a depth. -/
def refreshed (workspace : Workspace) : Nat → Value → Value
  -- At the bottom nothing more is read, and whoever looks deeper finds it unread.
  | 0, value => value.refresh .mode (fun _ => .unread) (fun _ _ => .unread)
  | depth + 1, value =>
    let content identity := refreshed workspace depth (workspace.objectAt identity)
    let extra identity name := refreshed workspace depth (workspace.extraAt identity name)
    value.refresh (workspace.modeNow extra) content extra

/-- The depth to which a value may hold others without holding itself. -/
def nestingLimit : Nat := 1000

/-- Whoever shows a value goes through its containers, writes a part of it plainly and quotes parts
of that. None of the three meets an object twice unless it never ends. Comparing goes as deep as
the value that is compared. -/
def depth (workspace : Workspace) : Nat := nestingLimit + 3 * (workspace.objects.length + 2)

/-- A value with everything it refers to. -/
def look (workspace : Workspace) (value : Value) : Value :=
  workspace.refreshed workspace.depth value

/-- What a value stands for, if it stands for a part. -/
def part? (workspace : Workspace) (value : Value) : Option Part :=
  match value.opened with
  | .object held => workspace.parts.lookup held.serial
  | _ => none

/-! ## Endpoints -/

/-- What becomes of a call of a method on a value that is put in the place of a part. -/
def endpoint (workspace : Workspace) (number? : Part → Option Nat) (method : String)
    (value : Value) : Endpoint :=
  match value.extraField? method, (workspace.part? value).bind number? with
  | none, some number => .ok number
  | _, _ => value.refuseCall method

def writerEndpoint (workspace : Workspace) (value : Value) : Endpoint :=
  workspace.endpoint Part.writer? Part.writerMethod value

def sinkEndpoint (workspace : Workspace) (value : Value) : Endpoint :=
  workspace.endpoint Part.sink? Part.sinkMethod value

/-- The writer to use where no other is named. The first one writes to the standard output. -/
def installedWriter (workspace : Workspace) : Endpoint :=
  match workspace.installed? with
  | some value => workspace.writerEndpoint (workspace.look value)
  | none => .ok 0

/-! ## Keeping -/

/-- Runs a console operation on the console of the workspace. -/
def onConsole {α : Type} (operation : ConsoleM α) : WorkspaceM α := do
  let workspace ← get
  -- The console knows no names, so it is told beforehand which writer is installed.
  let console := workspace.console.install workspace.installedWriter
  let (result, console) := operation.run.run console
  set { workspace with console := console }
  MonadExcept.ofExcept result

def freshIdentity : WorkspaceM Nat := do
  let workspace ← get
  set { workspace with nextIdentity := workspace.nextIdentity + 1 }
  pure workspace.nextIdentity

/-- A value ready to be held by something in the workspace. -/
def identified (value : Value) : WorkspaceM Value := do
  let workspace ← get
  let (kept, next) := value.identify.run workspace.nextIdentity
  set { workspace with nextIdentity := next }
  pure kept

/-- Replaces the content of a shared object. -/
def setObject (identity : Nat) (content : Value) : WorkspaceM Unit := do
  let kept ← identified content
  modify fun workspace =>
    { workspace with
      objects := workspace.objects.map fun object =>
        if object.1 = identity then (identity, kept) else object }

/-- A value ready to be held under a name: an object that can change is kept apart. -/
def held (value : Value) : WorkspaceM Value := do
  let kept ← identified value
  if kept.isChangeable then
    let identity ←
      match kept.identity? with
      | some identity => pure identity
      | none => freshIdentity
    -- From now on the content is here only, and whoever holds the object refers to it.
    modify fun workspace => { workspace with objects := (identity, kept) :: workspace.objects }
    pure (Value.reference identity kept.classOf)
  else pure kept

def setExtra (identity : Nat) (name : String) (value : Value) : WorkspaceM Unit := do
  let kept ← held value
  modify fun workspace =>
    { workspace with extras := ((identity, name), kept) :: workspace.extras }

/-! ## Names -/

/-- Keeps a value under a name. A shared object gets one more name. -/
def bindValue (name : String) (value : Value) : WorkspaceM Unit := do
  let kept ← held value
  modify fun workspace => { workspace with names := (name, kept) :: workspace.names }

def valueOf (name : String) : WorkspaceM Value := do
  let workspace ← get
  match workspace.names.lookup name with
  | some kept => pure (workspace.look kept)
  | none => throw (.unknownVariable name)

/-! ## Parts -/

/-- The text of an object that has no text of its own. -/
def objectText (className : ClassName) : String := "<" ++ className.qualified ++ " object>"

def bindPart (name : String) (className : ClassName) (part : Part) : WorkspaceM Unit := do
  let identity ← freshIdentity
  modify fun workspace => { workspace with parts := (identity, part) :: workspace.parts }
  let shown := objectText className
  bindValue name (.object (.ordinary identity className shown (.ok shown)))

def lacks {α : Type} (value : Value) (name : String) : WorkspaceM α :=
  throw (.shape (.noAttribute value.className name))

/-- Refuses a call of a method that what a name stands for does not offer. -/
def checkMethod (name method : String) : WorkspaceM Unit := do
  let value ← valueOf name
  match (← get).part? value with
  | some part =>
    if part.offers method || (value.extraField? method).isSome then pure ()
    else lacks value method
  | none => MonadExcept.ofExcept (value.checkOffers method)

/-- What a name stands for, provided that a method of it can be called. -/
def receiver (name method : String) : WorkspaceM Value := do
  checkMethod name method
  let value ← valueOf name
  MonadExcept.ofExcept (value.checkCallable method)
  pure value

end Workspace
end BrokerMaps
