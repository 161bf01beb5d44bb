import TapPort.Device
import TapPort.Tun.Kernel

namespace TapPort

-- The kernel, and the path that is opened to reach its control device.
structure TunDevice where
  path : String
  -- Where the control device is.
  controlAt : String
  kernel : Kernel

structure TunQueue where
  id : Nat
  name : String
deriving DecidableEq, Repr

namespace TunDevice

def controlPath : String := "/dev/net/tun"

def ofKernel (path : String) (kernel : Kernel) : TunDevice := ⟨path, path, kernel⟩

inductive Control where
  | descriptor (id : Nat)
  | foreign
deriving DecidableEq, Repr

-- A call on the kernel; its error number becomes a failure.
def call {α : Type} (f : Kernel → Except Errno α × Kernel) (d : TunDevice) :
    Except IoError α × TunDevice :=
  let (result, kernel) := f d.kernel
  (result.mapError .os, { d with kernel })

-- Opens the path. One that no path can be is refused before the kernel is asked.
def openControl (d : TunDevice) : Except Error Control × TunDevice :=
  let failed (e : IoError) : Error := .deviceUnavailable (.openControl d.path e)
  if FileNode.isPath d.path && d.path == d.controlAt then
    match d.call Kernel.openControl with
    | (.ok id, d) => (.ok (.descriptor id), d)
    | (.error e, d) => (.error (failed e), d)
  else
    match d.kernel.files.openPath d.path with
    | .ok () => (.ok .foreign, d)
    | .error e => (.error (failed e), d)

-- Why a file that is no control device has no flags.
def foreignError : Error := .deviceUnavailable (.readFeatures (.os Errno.notTty))

def close (id : Nat) (d : TunDevice) : TunDevice := { d with kernel := d.kernel.close id }

def readFeatures (id : Nat) (d : TunDevice) : Except Error TunFlags × TunDevice :=
  match d.call (Kernel.getFeatures id) with
  | (.ok features, d) => (.ok (TunFlags.ofFeatures features), d)
  | (.error e, d) => (.error (.deviceUnavailable (.readFeatures e)), d)

def features (d : TunDevice) : Except Error TunFlags × TunDevice :=
  match d.openControl with
  | (.error e, d) => (.error e, d)
  | (.ok .foreign, d) => (.error foreignError, d)
  | (.ok (.descriptor id), d) =>
    let (result, d) := d.readFeatures id
    (result, d.close id)

def requestFor (requested : Option String) : Except Error IfReq :=
  match requested with
  | none => .ok .empty
  | some name =>
    match IfReq.ofName? name with
    | some request => .ok request
    | none => .error (.deviceUnavailable (.nameDoesNotFit name))

-- Makes calls on a descriptor return at once.
def setNonblocking (id : Nat) (d : TunDevice) : Except Error Unit × TunDevice :=
  match d.call (Kernel.getStatus id) with
  | (.error e, d) => (.error (.deviceUnavailable (.setNonblocking e)), d)
  | (.ok status, d) =>
    match d.call (Kernel.setStatus id (status ||| Kernel.nonblocking)) with
    | (.error e, d) => (.error (.deviceUnavailable (.setNonblocking e)), d)
    | (.ok (), d) => (.ok (), d)

-- Sets up an interface on a descriptor, with the flags that the features allow for. The answer is
-- the name of the interface.
def setUp (id : Nat) (requested : Option String) (request : IfReq) (queues : UInt16)
    (d : TunDevice) : Except Error String × TunDevice :=
  match d.readFeatures id with
  | (.error e, d) => (.error e, d)
  | (.ok features, d) =>
    match TunFlags.negotiate features queues with
    | .error e => (.error (.deviceUnavailable (.refused e)), d)
    | .ok flags =>
      match d.call (Kernel.setInterface id (request.setFlags flags)) with
      | (.error e, d) => (.error (.deviceUnavailable (.setInterface requested e)), d)
      | (.ok answer, d) =>
        match d.setNonblocking id with
        | (.error e, d) => (.error e, d)
        | (.ok (), d) => (.ok answer.nameText, d)

def openQueue (requested : Option String) (queues : UInt16) (d : TunDevice) :
    Except Error (TunQueue × String) × TunDevice :=
  match requestFor requested with
  | .error e => (.error e, d)
  | .ok request =>
    match d.openControl with
    | (.error e, d) => (.error e, d)
    | (.ok .foreign, d) => (.error foreignError, d)
    | (.ok (.descriptor id), d) =>
      match d.setUp id requested request queues with
      | (.ok name, d) => (.ok (⟨id, name⟩, name), d)
      | (.error e, d) => (.error e, d.close id)

def read (q : TunQueue) (room : Nat) (d : TunDevice) : Read × TunDevice :=
  match d.call (Kernel.read q.id room) with
  | (.ok bytes, d) => (⟨bytes, .ok bytes.length⟩, d)
  | (.error e, d) => (⟨[], .error e⟩, d)

-- Whether a descriptor can be written now. Error conditions are failures.
def pollWritable (q : TunQueue) (d : TunDevice) : Except IoError Bool × TunDevice :=
  match d.call (Kernel.poll q.id Polled.writable 0) with
  | (.error e, d) => (.error e, d)
  | (.ok polled, d) =>
    if polled.events &&& (Polled.error ||| Polled.hangup ||| Polled.invalid) != 0 then
      (.error (.pollEvents polled.events.toNat q.name), d)
    else (.ok (0 < polled.ready && polled.events &&& Polled.writable != 0), d)

def withRequest {α : Type} (q : TunQueue) (f : IfReq → TunDevice → Except IoError α × TunDevice)
    (d : TunDevice) : Except IoError α × TunDevice :=
  match IfReq.ofName? q.name with
  | none => (.error .badInterfaceName, d)
  | some request => f request d

def address (q : TunQueue) (d : TunDevice) : Except IoError Mac × TunDevice :=
  d.withRequest q fun request d =>
    let (result, d) := d.call (Kernel.getAddress q.id request)
    (result.map IfReq.address, d)

def setAddress (q : TunQueue) (mac : Mac) (d : TunDevice) : Except IoError Unit × TunDevice :=
  d.withRequest q fun request d => d.call (Kernel.setAddress q.id (request.setAddress mac))

instance : Device TunDevice TunQueue where
  features := features
  openQueue := openQueue
  read := read
  write q frame d := d.call (Kernel.write q.id frame)
  pollWritable := pollWritable
  address := address
  setAddress := setAddress
  index q d := d.call (Kernel.index (Text.utf8 q.name))
  close q d := d.close q.id

instance : Controlled TunDevice KernelOutcomes Unit where
  control more d :=
    ((), { d with kernel := { d.kernel with outcomes := d.kernel.outcomes.append more } })

end TunDevice

end TapPort
