import CashShop.Error
import CashShop.Wire.Record

namespace CashShop

structure Message where
  key : String
  value : Json
deriving DecidableEq, Inhabited

namespace Message

def toJson (m : Message) : Json := .obj [("key", .str m.key), ("value", m.value)]

def decode : Wire.Decoder Message :=
  (Message.mk <$> Wire.Record.field "key" Wire.string <*> Wire.Record.field "value" Wire.value).decode

end Message

structure Outbox where
  entries : List (Topic × Message)
deriving DecidableEq

namespace Outbox

def empty : Outbox := ⟨[]⟩

instance : Inhabited Outbox := ⟨empty⟩

def put (o : Outbox) (t : Topic) (m : Message) : Outbox := ⟨o.entries ++ [(t, m)]⟩

def size (o : Outbox) : Nat := o.entries.length

def isEmpty (o : Outbox) : Bool := o.entries.isEmpty

/-- Each element once, at its first place. -/
def firsts {α : Type} [DecidableEq α] : List α → List α
  | [] => []
  | a :: as => a :: (firsts as).filter (· ≠ a)

def topics (o : Outbox) : List Topic := firsts (o.entries.map (·.1))

def batch (o : Outbox) (t : Topic) : List Message := (o.entries.filter (·.1 = t)).map (·.2)

def batches (o : Outbox) : List (Topic × List Message) := o.topics.map fun t => (t, o.batch t)

end Outbox

/-- A transport over states of type `σ`: a batch is delivered or refused as a whole. -/
abbrev Publisher (σ : Type) := Topic → List Message → σ → Except Fault Unit × σ

variable {σ : Type}

/-- Publishes the batches in turn and stops at the first one that is refused. -/
def Publisher.publishAll (p : Publisher σ) : List (Topic × List Message) → σ → Except Fault Unit × σ
  | [], s => (.ok (), s)
  | b :: bs, s => match p b.1 b.2 s with
    | (.ok (), s') => publishAll p bs s'
    | (.error e, s') => (.error e, s')

def Outbox.flush (o : Outbox) (p : Publisher σ) (s : σ) : Except Fault Unit × σ := p.publishAll o.batches s

structure Publication where
  topic : Topic
  messages : List Message
  accepted : Bool
deriving DecidableEq

structure Transport where
  failing : Bool
  refused : List Topic
  calls : List Publication
deriving DecidableEq

namespace Transport

def working : Transport := ⟨false, [], []⟩

def refuses (t : Transport) (topic : Topic) : Bool := t.failing || t.refused.contains topic

def publish : Publisher Transport := fun topic messages t =>
  let t' := { t with calls := t.calls ++ [⟨topic, messages, !t.refuses topic⟩] }
  if t.refuses topic then (.error (.transportDown topic), t') else (.ok (), t')

def delivered (t : Transport) (topic : Topic) : List Message :=
  (t.calls.filter fun c => c.topic = topic && c.accepted).flatMap (·.messages)

end Transport

end CashShop
