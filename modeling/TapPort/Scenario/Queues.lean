import TapPort.Burst
import TapPort.Device.Scripted
import TapPort.Scenario.Stock

namespace TapPort

-- A queue, its device, and a stock of buffers.
structure QueueBench where
  dev : ScriptedTap
  queue : QueuePair Nat
  stock : Stock

namespace QueueBench

def ofScript (index : Nat) (portId : UInt16) (script : Script) : QueueBench :=
  ⟨.ofScript script, .ofIndex index portId, .empty⟩

inductive Op where
  | stock (op : Stock.Op)
  | script (more : Script)
  | install
  | close
  | setPool (pool : Nat)
  | clearPool
  | resetCounters
  | rx (n : Nat) (list : String)
  | tx (list : String)

inductive Reply where
  | stock (reply : Stock.Reply)
  | done
  | flag (b : Bool)
  | number (n : Nat)
  | unknownPool

def afterBurst (s : QueueBench) (list : String) (o : Burst.Outcome Nat ScriptedTap) :
    Reply × QueueBench :=
  (.number o.count,
    { dev := o.dev
      queue := o.queue
      stock := { s.stock with pools := o.pools }.setList list o.buffers })

def step (s : QueueBench) : Op → Reply × QueueBench
  | .stock op =>
    let (reply, stock) := s.stock.step op
    (.stock reply, { s with stock })
  | .script more => (.done, { s with dev := (Controlled.control more s.dev).2 })
  | .install =>
    let (id, dev) := s.dev.fresh
    let (queue, dev) := s.queue.install id dev
    (.number id, { s with queue, dev })
  | .close =>
    let (queue, dev) := s.queue.close s.dev
    (.flag s.queue.isOpen, { s with queue, dev })
  | .setPool pool =>
    match s.stock.numbered[pool]? with
    | none => (.unknownPool, s)
    | some pool => (.done, { s with queue := s.queue.setPool pool })
  | .clearPool => (.done, { s with queue := s.queue.clearPool })
  | .resetCounters => (.done, { s with queue := s.queue.resetCounters })
  | .rx n list => s.afterBurst list (Burst.rx s.queue (s.stock.list list) n s.dev s.stock.pools)
  | .tx list => s.afterBurst list (Burst.tx s.queue (s.stock.list list) s.dev s.stock.pools)

end QueueBench

end TapPort
