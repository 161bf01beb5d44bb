import TapPort.Port.Basic

namespace TapPort

namespace Port

variable {κ δ : Type} [Device δ κ]

def expect (p : Port κ) (phases : List Phase) : Except Error Unit :=
  if p.phase ∈ phases then .ok () else .error (.badState p.phase)

def closeQueues : List (QueuePair κ) → δ → List (QueuePair κ) × δ
  | [], dev => ([], dev)
  | q :: rest, dev =>
    let (q, dev) := q.close dev
    let (rest, dev) := closeQueues rest dev
    (q :: rest, dev)

def halt (p : Port κ) (phase : Phase) (dev : δ) : Port κ × δ :=
  let (queues, dev) := closeQueues p.queues dev
  ({ p with queues, phase, link := { p.link with state := .down } }, dev)

-- Configures a port that does not run. The queues are what they were made to be, whatever numbers
-- are asked for.
def configure (p : Port κ) (_ : DevConf) : Except Error (Port κ) := do
  p.expect [.created, .configured, .stopped]
  pure { p with phase := .configured }

-- Starts a port that is configured or was stopped. One that runs keeps running.
def start (p : Port κ) : Except Error (Port κ) :=
  if p.phase = .started then .ok p
  else do
    p.expect [.configured, .stopped]
    pure { p with phase := .started, link := { p.link with state := .up } }

-- Stops a port that runs. One that is stopped stays as it is.
def stop (p : Port κ) (dev : δ) : Except Error (Port κ × δ) :=
  if p.phase = .stopped then .ok (p, dev)
  else do
    p.expect [.started]
    pure (p.halt .stopped dev)

-- Closes a port for good, in whatever phase it is.
def shutdown (p : Port κ) (dev : δ) : Port κ × δ :=
  if p.phase = .closed then (p, dev) else p.halt .closed dev

def close (p : Port κ) (dev : δ) : Except Error (Port κ × δ) := do
  p.expect [.created, .configured, .started, .stopped]
  pure (p.shutdown dev)

end Port

end TapPort
