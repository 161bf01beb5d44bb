import TapPort.Text.Numeral

namespace TapPort

structure RunOptions where
  devargs : String
  queues : UInt16
  -- Buffers in the pool of each queue.
  poolSize : Nat
  burst : Nat
  -- How long the port is polled.
  seconds : Nat
  reflect : Bool
  json : Bool
deriving DecidableEq, Repr

inductive Command where
  | version
  | features
  -- Set up a port, poll it for a while and report on it.
  | run (options : RunOptions)
deriving DecidableEq, Repr

namespace RunOptions

def default : RunOptions := ⟨"", 1, 512, 32, 10, false, false⟩

inductive Key where
  | devargs
  | queues
  | poolSize
  | burst
  | seconds
  | reflect
  | json
deriving DecidableEq, Repr

namespace Key

def ofWord? : String → Option Key
  | "--devargs" => some devargs
  | "--queues" => some queues
  | "--pool-size" => some poolSize
  | "--burst" => some burst
  | "--seconds" => some seconds
  | "--reflect" => some reflect
  | "--json" => some json
  | _ => none

-- Whether the option stands alone, without a value.
def isFlag : Key → Bool
  | reflect | json => true
  | _ => false

end Key

def set? (o : RunOptions) (key : Key) (value : String) : Option RunOptions :=
  let cs := value.toList
  match key with
  | .devargs => some { o with devargs := value }
  | .queues =>
    (Text.signedNatBelow? UInt16.size cs).map fun n => { o with queues := UInt16.ofNat n }
  | .poolSize => (Text.natBelow? UInt64.size cs).map fun n => { o with poolSize := n }
  | .burst => (Text.signedNatBelow? UInt16.size cs).map fun n => { o with burst := n }
  | .seconds => (Text.natBelow? UInt64.size cs).map fun n => { o with seconds := n }
  | .reflect => some { o with reflect := true }
  | .json => some { o with json := true }

-- The option in a word, with the value after its equals sign, if it has one.
def splitWord (word : String) : String × Option String :=
  match word.toList.dropWhile (· != '=') with
  | _ :: value => (String.ofList (word.toList.takeWhile (· != '=')), some (String.ofList value))
  | [] => (word, none)

-- Whether a word of its own can be a value. It does not begin with a hyphen, unless it is one.
def isValue (word : String) : Bool := word == "-" || word.toList.head? != some '-'

-- Sets each option from its word, or from that and the next one. No option may come twice.
def parse (o : RunOptions) (seen : List Key) : List String → Option RunOptions
  | [] => some o
  | word :: rest =>
    if word = "--" then if rest.isEmpty then some o else none
    else
      let (name, attached) := splitWord word
      match Key.ofWord? name with
      | none => none
      | some key =>
        if key ∈ seen then none
        else if key.isFlag then
          if attached.isSome then none
          else (o.set? key "").bind fun o => parse o (key :: seen) rest
        else match attached, rest with
          | some value, rest => (o.set? key value).bind fun o => parse o (key :: seen) rest
          | none, [] => none
          | none, value :: rest =>
            if isValue value then (o.set? key value).bind fun o => parse o (key :: seen) rest
            else none

end RunOptions

namespace Command

-- Whether a word asks for the version. The short form counts whatever letters come after it.
def asksVersion (word : String) : Bool := word == "--version" || "-V".toList.isPrefixOf word.toList

-- The command that the words of a command line ask for, if they ask for one. A version is all that
-- is told, whatever words come after it.
def parse : List String → Option Command
  | "features" :: rest => if rest.isEmpty || rest == ["--"] then some features else none
  | "run" :: rest => (RunOptions.default.parse [] rest).map run
  | word :: _ => if asksVersion word then some version else none
  | [] => none

end Command

end TapPort
