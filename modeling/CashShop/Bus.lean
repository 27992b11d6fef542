import CashShop.Transport

namespace CashShop

structure Channel where
  sent : Nat
  kept : List Message
deriving DecidableEq

namespace Channel

def send (ring : Nat) (c : Channel) (m : Message) : Channel :=
  let kept := c.kept ++ [m]
  ⟨c.sent + 1, kept.drop (kept.length - ring)⟩

def oldest (c : Channel) : Nat := c.sent - c.kept.length

end Channel

structure Receiver where
  topic : Topic
  next : Nat
deriving DecidableEq

inductive Reception where
  | message (m : Message)
  | empty
  | lagged (lost : Nat)
  | closed
  | unsubscribed
deriving DecidableEq

structure Bus where
  ring : Nat
  journal : Option (List (Topic × Message))
  channel : Topic → Channel
  receivers : List (Option Receiver)
  failing : Bool
  closed : Bool

namespace Bus

/-- A ring holds a power of two, and one message at least. -/
def ofCapacity (capacity : Nat) (journaled : Bool) : Bus :=
  ⟨(max capacity 1).nextPowerOfTwo, if journaled then some [] else none, fun _ => ⟨0, []⟩, [], false, false⟩

def subscribe (b : Bus) (t : Topic) : Nat × Bus :=
  (b.receivers.length, { b with receivers := b.receivers ++ [some ⟨t, (b.channel t).sent⟩] })

def unsubscribe (b : Bus) (i : Nat) : Bus := { b with receivers := b.receivers.set i none }

def publish : Publisher Bus := fun t ms b =>
  if b.failing then (.error (.transportDown t), b)
  else
    (.ok (), { b with
      journal := b.journal.map (· ++ ms.map fun m => (t, m))
      channel := fun u => if u = t then ms.foldl (Channel.send b.ring) (b.channel t) else b.channel u })

def published (b : Bus) (t : Topic) : List Message := ((b.journal.getD []).filter (·.1 = t)).map (·.2)

def clear (b : Bus) : Bus := { b with journal := b.journal.map fun _ => [] }

def setFailing (b : Bus) (failing : Bool) : Bus := { b with failing }

def close (b : Bus) : Bus := { b with closed := true }

/-- What a receiver is given next, and where it stands then. -/
def Receiver.poll (r : Receiver) (c : Channel) (closed : Bool) : Reception × Receiver :=
  if r.next < c.oldest then (.lagged (c.oldest - r.next), { r with next := c.oldest })
  else match c.kept[r.next - c.oldest]? with
    | some m => (.message m, { r with next := r.next + 1 })
    | none => (if closed then .closed else .empty, r)

def recv (b : Bus) (i : Nat) : Reception × Bus :=
  match b.receivers[i]? with
  | some (some r) =>
    let (got, r') := Receiver.poll r (b.channel r.topic) b.closed
    (got, { b with receivers := b.receivers.set i (some r') })
  | _ => (.unsubscribed, b)

end Bus

end CashShop
