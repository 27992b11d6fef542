import CashShop.Config
import CashShop.Lookup
import CashShop.Message.Shop
import CashShop.Metrics
import CashShop.Reservation
import CashShop.Transport
import CashShop.Work

namespace CashShop

structure Service where
  settings : Settings
  store : Store
  catalog : Catalog
  directory : Directory
  transport : Transport
  reservations : Reservations
  metrics : Metrics

/-- What a call draws from its surroundings: the time, and ids that it may need for new records. -/
structure Ambient where
  now : Instant
  compartment : ClassLine → CompartmentId
  asset : AssetId
  transaction : TransactionId
  cashIds : List CashId

variable {α β : Type}

/-- Runs work on a fresh draft, and commits the draft if the answer is one to keep. -/
def Store.transact (s : Store) (work : Work α) (kept : α → Bool) : Except WorkflowError (α × Outbox) × Store :=
  match work (Draft.begin s) with
  | (.error e, _) => (.error e, s)
  | (.ok a, d) =>
    if kept a then
      match d.commit with
      | .ok s' => (.ok (a, d.outbox), s')
      | .error f => (.error (.internal f), s)
    else (.ok (a, .empty), s)

namespace Service

def count (s : Service) (c : Counter) : Service := { s with metrics := s.metrics.add c 1 }

/-- Publishes what it can. What is announced is durable already, so a refusal changes nothing else. -/
def publish (s : Service) (o : Outbox) : Service :=
  { s with transport := (o.flush Transport.publish s.transport).2 }

def announce (s : Service) (t : Topic) (key : String) (value : Json) : Service :=
  s.publish (Outbox.empty.put t ⟨key, value⟩)

def answerError (s : Service) (c : CharacterId) (code : ErrorCode) : Service :=
  s.announce .shopStatus (toString c) (ShopEvent.error c code).toJson

def reportFailure (s : Service) (c : CharacterId) (e : WorkflowError) : Service :=
  (s.count .workflowErrors).answerError c e.code

/-- Runs work on the store, and publishes what it announces if it is kept. -/
def run (s : Service) (work : Work α) (kept : α → Bool) : Except WorkflowError α × Service :=
  match s.store.transact work kept with
  | (.ok (a, o), store) => (.ok a, { s with store }.publish o)
  | (.error e, store) => (.error e, { s with store })

def perform (s : Service) (prepared : Except WorkflowError (Work α)) (kept : α → Bool) :
    Except WorkflowError α × Service :=
  match prepared with
  | .ok work => s.run work kept
  | .error e => (.error e, s)

def commodity (s : Service) (n : SerialNumber) : Except WorkflowError Commodity :=
  (s.catalog n).mapError .lookup

def character (s : Service) (c : CharacterId) (withInventory : Bool) : Except WorkflowError Character :=
  (s.directory c withInventory).mapError .lookup

end Service

def resolveCurrency (code : UInt32) : Except WorkflowError Currency :=
  match Currency.ofCode? code with
  | some c => .ok c
  | none => .error (.unknownCurrency code)

def resolveTab (code : UInt8) : Except WorkflowError Tab :=
  match Tab.ofCode? code with
  | some t => .ok t
  | none => .error (.invalidTab (unknownTabMessage code.toNat))

def lineCompartmentName (l : ClassLine) (a : AccountId) : String := s!"{l.name} compartment of account {a}"

end CashShop
