import TapPort.Command.Args
import TapPort.Port.Operate
import TapPort.Registry
import TapPort.Report.Table
import TapPort.Tun.Device

namespace TapPort

-- A clock that goes on by the same time between any two readings. It shows seconds and parts of
-- them.
structure Clock where
  -- Milliseconds from one reading to the next.
  tick : Nat
  positive : 0 < tick

namespace Clock

def reading (c : Clock) (k : Nat) : Nat := k * c.tick

-- The seconds that a clock shows are a number of 64 bits with a sign, and stay below this one.
def secondsLimit : Nat := 0x8000000000000000

-- What the clock shows so many seconds after its first reading, unless it cannot show that.
def deadline? (c : Clock) (seconds : Nat) : Option Nat :=
  if c.reading 1 / 1000 + seconds < secondsLimit then some (c.reading 1 + 1000 * seconds) else none

end Clock

namespace Command

inductive Failure where
  | queueCount
  | devargs (cause : Error)
  | operation (cause : Error)
  -- The clock does not go as far as the run would last.
  | deadline
  -- The statistics have no table. The other tables were shown.
  | noTable (shown : String)
  -- The port does not stop. The report was shown.
  | unstopped (shown : String) (cause : Error)
deriving DecidableEq, Repr

def Failure.message : Failure → String
  | queueCount => "queues must be between 1 and " ++ toString maxQueues
  | devargs cause => "invalid devargs: " ++ cause.message
  | operation cause => cause.message
  | deadline => "overflow when adding duration to instant"
  | noTable _ => "index out of bounds"
  | unstopped _ cause => cause.message

def Failure.shown : Failure → String
  | noTable shown | unstopped shown _ => shown
  | _ => ""

-- Whether the command is broken off.
def Failure.aborts : Failure → Bool
  | deadline | noTable _ => true
  | _ => false

structure Output where
  code : Nat
  stdout : String
  stderr : String
deriving DecidableEq, Repr

def usage : String := "usage: --version | features | run [options]\n"

def versionText : String := "tapadm 0.1.0\n"

def usageCode : Nat := 2

-- The code of a command that was broken off.
def abortCode : Nat := 101

def Output.ofResult : Except Failure String → Output
  | .ok text => ⟨0, text, ""⟩
  | .error e =>
    if e.aborts then ⟨abortCode, e.shown, e.message ++ "\n"⟩
    else ⟨1, e.shown, "Error: " ++ e.message ++ "\n"⟩

def featuresText (flags : TunFlags) : String :=
  "TUN features 0x" ++ Text.hexPadded 4 flags.bits.toNat ++ "\n"
    ++ String.join (flags.names.map fun name => "  " ++ name ++ "\n")

def portName : String := "net_tap0"

def portArgs (o : RunOptions) : Except Failure PortArgs :=
  if o.queues.toNat = 0 ∨ maxQueues < o.queues.toNat then .error .queueCount
  else match PortArgs.parse o.devargs with
    | .error e => .error (.devargs e)
    | .ok args => .ok { args with queues := o.queues }

-- A round of polling each time the clock shows less than the deadline; `now` is its next reading.
-- As the clock goes on with each reading, no more rounds are left than it takes milliseconds.
def pollUntil (clock : Clock) (burst : Nat) (reflect : Bool) (deadline : Nat) :
    Nat → Nat → Port.Round TunQueue TunDevice → Port.Round TunQueue TunDevice
  | 0, _, r => r
  | left + 1, now, r =>
    if now < deadline then
      let next := r.port.poll burst reflect r.dev r.pools
      pollUntil clock burst reflect deadline left (now + clock.tick)
        { next with received := r.received + next.received }
    else r

-- Polls a port from the second reading of the clock on.
def pollPort (clock : Clock) (burst : Nat) (reflect : Bool) (deadline : Nat)
    (r : Port.Round TunQueue TunDevice) : Port.Round TunQueue TunDevice :=
  let now := clock.reading 2
  pollUntil clock burst reflect deadline (deadline - now) now r

-- The report on a port: encoded, or as tables with an empty line between.
def reportText (json : Bool) (r : PortReport) : Except Failure String :=
  if json then .ok (r.toJson.pretty ++ "\n")
  else
    let shown := r.info.table ++ "\n" ++ r.devInfo.table ++ "\n"
    match r.stats.table? with
    | some stats => .ok (shown ++ stats)
    | none => .error (.noTable shown)

def abandon (p : Port TunQueue) (dev : TunDevice) : TunDevice := (Port.closeQueues p.queues dev).2

-- Takes a port into operation, polls it until the deadline, reports and stops it. Also says what
-- became of the port.
def operate (o : RunOptions) (clock : Clock) (p : Port TunQueue) (dev : TunDevice) :
    Except Failure String × Port TunQueue × TunDevice :=
  match p.bringUp o.poolSize dev [] with
  | ⟨.error e, p, dev, _⟩ => (.error (.operation e), p, dev)
  | ⟨.ok _, p, dev, pools⟩ =>
    match clock.deadline? o.seconds with
    | none => (.error .deadline, p, dev)
    | some deadline =>
      let r := pollPort clock o.burst o.reflect deadline ⟨0, p, dev, pools⟩
      match reportText o.json r.port.report with
      | .error e => (.error e, r.port, r.dev)
      | .ok text =>
        match r.port.stop r.dev with
        | .error e => (.error (.unstopped text e), r.port, r.dev)
        | .ok (p, dev) => (.ok text, p, dev)

def runPort (o : RunOptions) (clock : Clock) (dev : TunDevice) :
    Except Failure String × TunDevice :=
  match portArgs o with
  | .error e => (.error e, dev)
  | .ok args =>
    match (Registry.ofDevice (κ := TunQueue) dev).probe portName args with
    | (.error e, r) => (.error (.operation e), r.dev)
    | (.ok place, r) =>
      match r.ports[place]? with
      | none => (.ok "", r.dev)
      | some port =>
        match operate o clock port r.dev with
        | (.error e, port, dev) => (.error e, abandon port dev)
        | (.ok text, port, dev) =>
          let r := { r with dev, ports := r.ports.set place port }
          (.ok text, (r.remove portName).dev)

def execute (clock : Clock) (dev : TunDevice) : Command → Output × TunDevice
  | .version => (.ofResult (.ok versionText), dev)
  | .features =>
    match dev.features with
    | (.ok flags, dev) => (.ofResult (.ok (featuresText flags)), dev)
    | (.error e, dev) => (.ofResult (.error (.operation e)), dev)
  | .run o =>
    let (result, dev) := runPort o clock dev
    (.ofResult result, dev)

def perform (clock : Clock) (dev : TunDevice) (words : List String) : Output × TunDevice :=
  match parse words with
  | none => (⟨usageCode, "", usage⟩, dev)
  | some command => command.execute clock dev

end Command

end TapPort
