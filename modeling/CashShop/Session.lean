import CashShop.Bus
import CashShop.Config
import CashShop.Dispatch
import CashShop.Remote

namespace CashShop

def Ambient.draws : Nat := 8

/-- An identifier of the random kind, whose marks replace six of the bits. -/
def Uuid.ofRandom (n : Nat) : Uuid :=
  ⟨(BitVec.ofNat 128 n &&& ~~~(0xF#128 <<< 76) &&& ~~~(0x3#128 <<< 62)) ||| (0x4#128 <<< 76) ||| (0x2#128 <<< 62)⟩

def Ambient.ofSeed (seed : Nat) (now : Instant) (call : Nat) : Ambient :=
  let first := seed + call * draws
  { now
    compartment := fun l => ⟨.ofRandom (first + l.code.toNat)⟩
    asset := ⟨.ofRandom (first + 4)⟩
    transaction := ⟨.ofRandom (first + 5)⟩
    cashIds := (List.range draws).map fun k => ⟨Int64.ofNat ((first + k) % (1 <<< 63))⟩ }

/-- The service under a configuration. Where an address is missing there is nothing to be found. -/
def Service.ofConfig (c : Config) (ask : String → Remote.Exchange) : Service where
  settings := c.settings
  store := .ofKeyCapacity c.keyCapacity
  catalog := (c.catalogUrl.map fun url => Remote.catalog (ask url)).getD (.ofList [])
  directory := (c.characterUrl.map fun url => Remote.directory (ask url)).getD (.ofList [])
  transport := .working
  reservations := .ofTtl (c.settings.reservationTtlSeconds * 1000)
  metrics := .zero

structure Handling where
  topic : Topic
  message : Message
  result : Except ConsumerError Verdict

structure Session where
  bus : Bus
  service : Service
  handled : List Handling

inductive Turn where
  | publish (t : Topic) (m : Message)
  /-- A consumer asks for its next message. Consumers are numbered like the topics. -/
  | poll (consumer : Nat)
deriving DecidableEq

namespace Session

def start (capacity : Nat) (s : Service) : Session :=
  ⟨Topic.inbound.foldl (fun b t => (b.subscribe t).2) (.ofCapacity capacity true), s, []⟩

def relay (n : Session) : Session :=
  { n with
    bus := (n.service.transport.calls.filter (·.accepted)).foldl (fun b c => (b.publish c.topic c.messages).2) n.bus
    service := { n.service with transport := { n.service.transport with calls := [] } } }

def hand (ambient : Nat → Ambient) (t : Topic) (m : Message) (n : Session) : Session :=
  let r := n.service.dispatch (ambient n.handled.length) t m
  relay { n with service := r.2, handled := n.handled ++ [⟨t, m, r.1⟩] }

def turn (ambient : Nat → Ambient) (n : Session) : Turn → Session
  | .publish t m => { n with bus := (n.bus.publish t [m]).2 }
  | .poll i => match Topic.inbound[i]?, n.bus.recv i with
    | some t, (.message m, bus) => hand ambient t m { n with bus }
    | _, (_, bus) => { n with bus }

def run (ambient : Nat → Ambient) (turns : List Turn) (n : Session) : Session := turns.foldl (turn ambient) n

/-- All messages are published, then the consumers empty their receivers one after the other. No receiver holds more
than all the messages, and it tells at most once that some are lost. -/
def replayTurns (records : List (Topic × Message)) : List Turn :=
  records.map (fun r => .publish r.1 r.2) ++
    (List.range Topic.inbound.length).flatMap fun i => List.replicate (records.length + 1) (.poll i)

def replay (ambient : Nat → Ambient) (records : List (Topic × Message)) (n : Session) : Session :=
  n.run ambient (replayTurns records)

end Session

end CashShop
