import CashShop.Message.Account
import CashShop.Workflow.Account
import CashShop.Workflow.Capacity
import CashShop.Workflow.Handoff
import CashShop.Workflow.Purchase
import CashShop.Workflow.Transfer

namespace CashShop

inductive Verdict where
  | applied
  | ignored
deriving DecidableEq

def Verdict.name : Verdict → String
  | applied => "APPLIED"
  | ignored => "IGNORED"

def Verdict.ofCallback : CallbackOutcome → Verdict
  | .applied => applied
  | .dropped => ignored

namespace Service

/-- The verdict on a workflow that has ended. -/
def settle {α : Type} (r : Except WorkflowError α × Service) (verdict : α → Verdict) :
    Except RequestError Verdict × Service := ((r.1.map verdict).mapError .workflow, r.2)

def handleAccount (s : Service) (amb : Ambient) (e : AccountEvent) : Except RequestError Verdict × Service :=
  match e.status with
  | .created => settle (s.accountCreated amb e.account) fun _ => .applied
  | .deleted => settle (s.accountDeleted e.account) fun _ => .applied
  | .other => (.ok .ignored, s)

def handleShop (s : Service) (amb : Ambient) : ShopCommand → Except RequestError Verdict × Service
  | .purchase c o => settle (s.purchase amb c o) fun _ => .applied
  | .increaseByType c currency tab => settle (s.increaseByType c currency tab) fun _ => .applied
  | .increaseByItem c currency n => settle (s.increaseByItem c currency n) fun _ => .applied
  | .move c o => settle (s.move amb c o) fun _ => .applied
  | .unsupported => (.ok .ignored, s)

def handleCompartment (s : Service) (amb : Ambient) : CompartmentCommand → Except RequestError Verdict × Service
  | .accept h => settle (s.accept amb h) fun _ => .applied
  | .release h => settle (s.release amb h) fun _ => .applied
  | .unsupported => (.ok .ignored, s)

def handleItem (s : Service) (amb : Ambient) : ItemCommand → Except RequestError Verdict × Service
  | .create g => settle (s.grant amb g) fun _ => .applied
  | .unsupported => (.ok .ignored, s)

/-- Of the errors of the other service only a failed move of a named item concerns the shop. -/
def handleCharacter (s : Service) (amb : Ambient) : CharacterEvent → Except RequestError Verdict × Service
  | .itemMoved c k m => settle (s.moved amb ⟨c, k, m⟩) .ofCallback
  | .error c _ failure =>
    match failure.item with
    | some i =>
      if failure.code = moveFailedCode then settle (s.moveFailed amb c i failure.transaction) .ofCallback
      else (.ok .ignored, s)
    | none => (.ok .ignored, s)
  | .other => (.ok .ignored, s)

def decoded {α : Type} (d : Wire.Decoder α) (t : Topic) (m : Message) (s : Service)
    (handle : α → Except RequestError Verdict × Service) : Except RequestError Verdict × Service :=
  match d m.value with
  | .ok a => handle a
  | .error e => (.error (.badRequest s!"{t} key {m.key}: {e.message}"), s)

def handle (s : Service) (amb : Ambient) (t : Topic) (m : Message) : Except RequestError Verdict × Service :=
  match t with
  | .accountStatus => decoded AccountEvent.decode t m s (s.handleAccount amb)
  | .shopCommand => decoded ShopCommand.decode t m s (s.handleShop amb)
  | .compartmentCommand => decoded CompartmentCommand.decode t m s (s.handleCompartment amb)
  | .itemCommand => decoded ItemCommand.decode t m s (s.handleItem amb)
  | .characterStatus => decoded CharacterEvent.decode t m s (s.handleCharacter amb)
  | _ => (.ok .ignored, s)

def dispatch (s : Service) (amb : Ambient) (t : Topic) (m : Message) : Except ConsumerError Verdict × Service :=
  let r := s.handle amb t m
  (r.1.mapError .ofRequest, r.2)

end Service

end CashShop
