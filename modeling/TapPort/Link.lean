
namespace TapPort

inductive LinkState where
  | down
  | up
deriving DecidableEq, Repr, Inhabited

def LinkState.text : LinkState → String
  | down => "DOWN"
  | up => "UP"

inductive Duplex where
  | half
  | full
deriving DecidableEq, Repr, Inhabited

def Duplex.text : Duplex → String
  | half => "half"
  | full => "full"

structure Link where
  -- In megabits a second.
  speed : UInt32
  duplex : Duplex
  autoneg : Bool
  state : LinkState
deriving DecidableEq, Repr, Inhabited

namespace Link

def defaultSpeed : UInt32 := 10000

-- A full-duplex link of a fixed speed that is still down.
def ofSpeed (speed : UInt32) : Link := ⟨speed, .full, false, .down⟩

def isUp (l : Link) : Bool := l.state == .up

def text (l : Link) : String :=
  l.state.text ++ " " ++ toString l.speed.toNat ++ " Mb/s " ++ l.duplex.text ++ "-duplex"
    ++ (if l.autoneg then " autoneg" else "")

end Link

end TapPort
