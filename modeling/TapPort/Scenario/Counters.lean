import TapPort.Counter

namespace TapPort

structure CounterBench where
  demo : CounterBlock
  queue : CounterBlock
  lone : Counter
deriving DecidableEq, Repr

namespace CounterBench

def empty : CounterBench :=
  ⟨.ofFields "DemoStats" ["hits", "misses", "type"], QueueCounters.zero.toBlock, .zero⟩

instance : Inhabited CounterBench := ⟨empty⟩

inductive Change where
  | add (n : UInt64)
  | sub (n : UInt64)
  | set (n : UInt64)
deriving DecidableEq, Repr

def Change.apply (change : Change) (c : Counter) : Counter :=
  match change with
  | add n => c.add n
  | sub n => c.sub n
  | set n => ⟨n⟩

inductive Op where
  -- Changes the counter of a field, in whichever block has it.
  | change (field : String) (change : Change)
  | resetDemo
  | resetQueue
deriving DecidableEq, Repr

-- The field that stands for the counter alone.
def loneField : String := "lone"

def step (s : CounterBench) : Op → CounterBench
  | .change field change =>
    { demo := s.demo.update field change.apply
      queue := s.queue.update field change.apply
      lone := if field = loneField then change.apply s.lone else s.lone }
  | .resetDemo => { s with demo := s.demo.reset }
  | .resetQueue => { s with queue := s.queue.reset }

end CounterBench

end TapPort
