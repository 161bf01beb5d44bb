import TapPort.Port.Operate
import TapPort.Registry
import TapPort.Report.Table
import TapPort.Scenario.Stock

namespace TapPort

-- A scenario on a registry, with a stock of buffers for the bursts of its ports, and with the pools
-- that the last port to be taken into operation got.
structure Session (δ κ : Type) where
  registry : Registry δ κ
  stock : Stock
  own : List PoolId

namespace Session

variable {δ κ χ ρ : Type} [Device δ κ] [Controlled δ χ ρ]

def ofDevice (dev : δ) : Session δ κ := ⟨.ofDevice dev, .empty, []⟩

inductive View where
  | info
  | device
  | stats
deriving DecidableEq, Repr

inductive PortOp where
  | configure (conf : DevConf)
  | start
  | stop
  | close
  | setUpRx (q pool : Nat)
  | setUpTx (q : Nat)
  | releaseRx (q : Nat)
  | releaseTx (q : Nat)
  | resetStats
  | devInfo
  | link
  | stats
  | rx (q n : Nat) (list : String)
  | tx (q : Nat) (list : String)
  | queueCounters (q : Nat)
  | queueOpen (q : Nat)
  | info
  | inRecord
  | table (view : View)
  | report
  | bringUp (size : Nat)
  | startShared (pool : Nat)
  | poll (burst : Nat) (reflect : Bool)
deriving DecidableEq, Repr

inductive Op (χ : Type) where
  | probe (name : String) (args : PortArgs)
  | probeText (name text : String)
  | create (name iface : String) (id : UInt16) (args : PortArgs)
  | remove (name : String)
  | get (name : String)
  | list
  | port (place : Nat) (op : PortOp)
  | stock (op : Stock.Op)
  | control (c : χ)

inductive Reply (ρ : Type) where
  | done
  | failed (cause : Error)
  -- The place, id and interface of a new port.
  | made (place : Nat) (id : UInt16) (iface : String)
  | found (info : Option PortInfo)
  | listing (ports : List (String × UInt16))
  | noPort
  | unknownPool
  | devInfo (d : DevInfo)
  | link (l : Link)
  | stats (s : PortStats)
  | count (n : Nat)
  | counters (c : Option QueueCounters)
  | queueOpen (isOpen : Bool) (openCount : Nat)
  | info (i : PortInfo)
  | text (s : String)
  | report (r : PortReport)
  -- The name, the level and the usable room of each pool.
  | pools (pools : List (String × Nat × Nat))
  | stock (reply : Stock.Reply)
  | answer (a : ρ)

-- Puts a port back in its place, with the device as it is now.
def setPort (s : Session δ κ) (place : Nat) (p : Port κ) (dev : δ) : Session δ κ :=
  { s with registry := { s.registry with dev, ports := s.registry.ports.set place p } }

def setPools (s : Session δ κ) (pools : Pools) : Session δ κ :=
  { s with stock := { s.stock with pools } }

def setList (s : Session δ κ) (list : String) (buffers : List Buffer) : Session δ κ :=
  { s with stock := s.stock.setList list buffers }

-- The reply to a change of a port, which stays as it is where the change is refused.
def changed (s : Session δ κ) (place : Nat) (p : Port κ) (r : Except Error (Port κ) × δ) :
    Reply ρ × Session δ κ :=
  match r with
  | (.ok p, dev) => (.done, s.setPort place p dev)
  | (.error e, dev) => (.failed e, s.setPort place p dev)

-- The reply to a change of a port that leaves port and device as they are where it is refused.
def moved (s : Session δ κ) (place : Nat) (r : Except Error (Port κ × δ)) : Reply ρ × Session δ κ :=
  match r with
  | .ok (p, dev) => (.done, s.setPort place p dev)
  | .error e => (.failed e, s)

def afterBurst (s : Session δ κ) (place : Nat) (list : String) (o : Port.Outcome κ δ) :
    Reply ρ × Session δ κ :=
  (.count o.count, ((s.setPort place o.port o.dev).setPools o.pools).setList list o.buffers)

-- A table that shows a port; statistics need all of their lists.
def tableOf (p : Port κ) : View → Option String
  | .info => some p.info.table
  | .device => some p.devInfo.table
  | .stats => p.stats.table?

-- The reply to taking a port into operation. Its pools are kept if that succeeds.
def afterBringUp (s : Session δ κ) (place : Nat) (b : Port.BringUp κ δ) : Reply ρ × Session δ κ :=
  let s := (s.setPort place b.port b.dev).setPools b.pools
  match b.result with
  | .error e => (.failed e, s)
  | .ok made =>
    let describe (id : PoolId) : String × Nat × Nat :=
      (b.pools.nameOf id, b.pools.available id, (b.pools[id]?.map Pool.usableRoom).getD 0)
    (.pools (made.map describe), { s with own := made })

-- Carries out a step on the port in a place. There is no result where a port that has to start does
-- not, or where a table has no form.
def stepPort (s : Session δ κ) (place : Nat) (p : Port κ) :
    PortOp → Option (Reply ρ × Session δ κ)
  | .configure conf => some (s.changed place p (p.configure conf, s.registry.dev))
  | .start => some (s.changed place p (p.start, s.registry.dev))
  | .stop => some (s.moved place (p.stop s.registry.dev))
  | .close => some (s.moved place (p.close s.registry.dev))
  | .setUpRx q pool =>
    match s.stock.numbered[pool]? with
    | none => some (.unknownPool, s)
    | some pool => some (s.changed place p (p.setUpRx q pool s.stock.pools s.registry.dev))
  | .setUpTx q => some (s.changed place p (p.setUpTx q s.registry.dev))
  | .releaseRx q => some (s.moved place (.ok (p.releaseRx q s.registry.dev)))
  | .releaseTx q => some (s.moved place (.ok (p.releaseTx q s.registry.dev)))
  | .resetStats => some (s.moved place (.ok (p.resetStats, s.registry.dev)))
  | .devInfo => some (.devInfo p.devInfo, s)
  | .link => some (.link p.link, s)
  | .stats => some (.stats p.stats, s)
  | .rx q n list =>
    some (s.afterBurst place list (p.rx q (s.stock.list list) n s.registry.dev s.stock.pools))
  | .tx q list =>
    some (s.afterBurst place list (p.tx q (s.stock.list list) s.registry.dev s.stock.pools))
  | .queueCounters q => some (.counters (p.queueCounters? q), s)
  | .queueOpen q => some (.queueOpen (p.queueIsOpen q) p.openCount, s)
  | .info => some (.info p.info, s)
  | .inRecord => some (.text p.inRecord, s)
  | .table view => (tableOf p view).map fun text => (.text text, s)
  | .report => some (.report p.report, s)
  | .bringUp size => some (s.afterBringUp place (p.bringUp size s.registry.dev s.stock.pools))
  | .startShared pool =>
    match s.stock.numbered[pool]? with
    | none => some (.unknownPool, s)
    | some pool =>
      match p.startShared pool s.stock.pools s.registry.dev with
      | (.error _, _) => none
      | (.ok p, dev) => some (.done, s.setPort place p dev)
  | .poll burst reflect =>
    let r := p.poll burst reflect s.registry.dev s.stock.pools
    some (.count r.received, (s.setPort place r.port r.dev).setPools r.pools)

def afterMaking (s : Session δ κ) (r : Except Error Nat × Registry δ κ) : Reply ρ × Session δ κ :=
  let s := { s with registry := r.2 }
  match r.1 with
  | .error e => (.failed e, s)
  | .ok place =>
    match r.2.ports[place]? with
    | some p => (.made place p.id p.iface, s)
    | none => (.noPort, s)

def attempt (s : Session δ κ) : Op χ → Option (Reply ρ × Session δ κ)
  | .probe name args => some (s.afterMaking (s.registry.probe name args))
  | .probeText name text => some (s.afterMaking (s.registry.probeText name text))
  | .create name iface id args => some (s.afterMaking (s.registry.create name iface id args))
  | .remove name => some (.done, { s with registry := s.registry.remove name })
  | .get name => some (.found ((s.registry.get? name).map Port.info), s)
  | .list => some (.listing (s.registry.registered.map fun p => (p.name, p.id)), s)
  | .port place op =>
    match s.registry.ports[place]? with
    | none => some (.noPort, s)
    | some p => s.stepPort place p op
  | .stock op =>
    let (reply, stock) := s.stock.step op
    some (.stock reply, { s with stock })
  | .control c =>
    let (a, dev) := Controlled.control c s.registry.dev
    some (.answer a, { s with registry := { s.registry with dev } })

-- Carries out a step. There is no result either where that leaves no room for a count of the
-- device.
def step (s : Session δ κ) (op : Op χ) : Option (Reply ρ × Session δ κ) :=
  (s.attempt op).filter fun r => !Device.halted r.2.registry.dev

-- Carries out steps in order, as far as they have results.
def run (s : Session δ κ) : List (Op χ) → Session δ κ
  | [] => s
  | op :: rest =>
    match s.step op with
    | some (_, s) => run s rest
    | none => s

end Session

end TapPort
