import TapPort.Text.Numeral

namespace TapPort

structure TunFlags where
  bits : UInt16
deriving DecidableEq, Repr, Inhabited

namespace TunFlags

def tun : TunFlags := ⟨0x0001⟩
def tap : TunFlags := ⟨0x0002⟩
def napi : TunFlags := ⟨0x0010⟩
def napiFrags : TunFlags := ⟨0x0020⟩
def multiQueue : TunFlags := ⟨0x0100⟩
def attachQueue : TunFlags := ⟨0x0200⟩
def detachQueue : TunFlags := ⟨0x0400⟩
def persist : TunFlags := ⟨0x0800⟩
def noPacketInfo : TunFlags := ⟨0x1000⟩
def oneQueue : TunFlags := ⟨0x2000⟩
def vnetHeader : TunFlags := ⟨0x4000⟩
def exclusive : TunFlags := ⟨0x8000⟩

-- The flags that have a name, in the order in which they are listed.
def named : List (String × TunFlags) :=
  [("TUN", tun), ("TAP", tap), ("NAPI", napi), ("NAPI_FRAGS", napiFrags),
    ("MULTI_QUEUE", multiQueue), ("ATTACH_QUEUE", attachQueue), ("DETACH_QUEUE", detachQueue),
    ("PERSIST", persist), ("NO_PI", noPacketInfo), ("ONE_QUEUE", oneQueue),
    ("VNET_HDR", vnetHeader), ("TUN_EXCL", exclusive)]

def union (x y : TunFlags) : TunFlags := ⟨x.bits ||| y.bits⟩

def all : TunFlags := named.foldl (fun acc f => acc.union f.2) ⟨0⟩

def contains (x y : TunFlags) : Bool := x.bits &&& y.bits == y.bits

-- Drops the bits that have no name.
def truncate (x : TunFlags) : TunFlags := ⟨x.bits &&& all.bits⟩

def isNamed (x : TunFlags) : Bool := x.truncate == x

-- The flags in a report of the kernel: the named ones among its low sixteen bits.
def ofFeatures (features : UInt32) : TunFlags := truncate ⟨features.toUInt16⟩

def names (x : TunFlags) : List String :=
  (named.filter fun f => x.contains f.2).map (·.1)

def unnamed (x : TunFlags) : UInt16 := x.bits &&& ~~~all.bits

-- The names, and last the bits without one in hexadecimal.
def text (x : TunFlags) : String :=
  let rest := if x.unnamed == 0 && x.bits != 0 then [] else ["0x" ++ Text.hexNat x.unnamed.toNat]
  "TunFlags(" ++ String.intercalate " | " (x.names ++ rest) ++ ")"

inductive Refusal where
  | noQueues
  -- The kernel's flags do not allow for that many queues.
  | unsupported (queues : Nat) (features : TunFlags)
deriving DecidableEq, Repr

-- The flags to ask for, so that an interface gets `queues` queues from a kernel with `features`.
-- One queue takes the one-queue flag where there is one and else a multi-queue interface; more than
-- one takes a multi-queue interface. Fewer queues than asked for are never an answer.
def negotiate (features : TunFlags) (queues : UInt16) : Except Refusal TunFlags :=
  let base := tap.union noPacketInfo
  if queues = 0 then .error .noQueues
  else if queues = 1 ∧ features.contains oneQueue then .ok (base.union oneQueue)
  else if features.contains multiQueue then .ok (base.union multiQueue)
  else .error (.unsupported queues.toNat features)

end TunFlags

end TapPort
