import TapPort.Error
import TapPort.Link
import TapPort.Text.Columns
import TapPort.Text.Record
import TapPort.Text.Utf8

namespace TapPort

structure PortArgs where
  -- The interface; where there is none, a name is generated.
  iface : Option String
  speed : UInt32
  queues : UInt16
  numaNode : UInt8
deriving DecidableEq, Repr

namespace PortArgs

def default : PortArgs := ⟨none, Link.defaultSpeed, UInt16.ofNat maxQueues, 0⟩

instance : Inhabited PortArgs := ⟨default⟩

-- A name cannot hold a NUL, a slash, or a blank of any kind.
def isNameChar (c : Char) : Bool :=
  !(c == '\x00' || c == '/' || c == ' ' || c == '\t' || c == '\n' || c == '\x0c' || c == '\r')

def checkName (name : String) : Except Error Unit :=
  if name.isEmpty then .error (.config .emptyInterfaceName)
  else if nameLimit ≤ (Text.utf8 name).length then .error (.config (.interfaceNameTooLong name))
  else if name.toList.all isNameChar then .ok ()
  else .error (.config (.badInterfaceName name))

def validate (args : PortArgs) : Except Error Unit := do
  if let some name := args.iface then checkName name
  if args.queues.toNat = 0 ∨ maxQueues < args.queues.toNat then
    .error (.config (.queueCountOutOfRange args.queues.toNat))

inductive Key where
  | iface
  | speed
deriving DecidableEq, Repr

def Key.ofWord? (word : String) : Option Key :=
  if word = "iface" ∨ word = "interface" then some .iface
  else if word = "speed" then some .speed
  else none

-- The parts before and after the first equals sign.
def splitPair (segment : List Char) : Option (String × String) :=
  match segment.dropWhile (· != '=') with
  | _ :: value => some (String.ofList (segment.takeWhile (· != '=')), String.ofList value)
  | [] => none

-- The arguments so far, and the keys that were given.
structure Progress where
  args : PortArgs
  seen : List Key

def readSegment (p : Progress) (segment : List Char) : Except Error Progress :=
  match splitPair segment with
  | none => .error (.config (.expectedKeyValue (String.ofList segment)))
  | some (word, value) =>
    match Key.ofWord? word with
    | none => .error (.config (.unknownKey word))
    | some key =>
      if key ∈ p.seen then .error (.config (.repeatedKey word))
      else match key with
        | .iface => do
          checkName value
          pure ⟨{ p.args with iface := some value }, key :: p.seen⟩
        | .speed =>
          match Text.natBelow? UInt32.size value.toList with
          | some n => .ok ⟨{ p.args with speed := UInt32.ofNat n }, key :: p.seen⟩
          | none => .error (.config (.badSpeed value))

-- Reads arguments. What is not said keeps its default.
def parse (text : String) : Except Error PortArgs :=
  if text.isEmpty then .ok default
  else do
    let p ← (Text.splitAt ',' text.toList).foldlM readSegment ⟨default, []⟩
    pure p.args

def text (args : PortArgs) : String :=
  (match args.iface with
    | some name => "iface=" ++ name ++ ","
    | none => "")
  ++ "speed=" ++ toString args.speed.toNat

def inRecord (args : PortArgs) : String :=
  Text.record "TapArgs"
    [("iface", Text.optional (args.iface.map Text.quoted)),
      ("speed", toString args.speed.toNat), ("queues", toString args.queues.toNat),
      ("numa_node", toString args.numaNode.toNat)]

end PortArgs

end TapPort
