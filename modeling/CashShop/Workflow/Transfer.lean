import CashShop.Message.Character
import CashShop.Query
import CashShop.Service
import CashShop.Work.Stores

namespace CashShop

structure TransferStarted where
  item : ItemId
  transaction : TransactionId
deriving DecidableEq

structure MoveCompletion where
  character : CharacterId
  compartment : CompartmentId
  moved : ItemMoved
deriving DecidableEq

inductive CallbackOutcome where
  | applied
  | dropped
deriving DecidableEq

def CallbackOutcome.name : CallbackOutcome → String
  | applied => "APPLIED"
  | dropped => "DROPPED"

namespace Transfer

def locate (s : Service) (c : CharacterId) (o : MoveOrder) : Except WorkflowError (Tab × ItemId) := do
  let tab ← resolveTab o.tab
  let ch ← s.character c false
  let d := Draft.begin s.store
  let line := ClassLine.ofJob ch.job
  match d.compartmentOf? ch.account line with
  | none => throw (.compartmentNotFound (lineCompartmentName line ch.account))
  | some k =>
    match (d.compartmentView k).findByCashId? o.cashId with
    | some v => pure (tab, v.asset.item)
    | none => throw (.itemNotFound s!"cash item {o.cashId}")

def command (c : CharacterId) (tab : Tab) (slot : Int16) (i : ItemId) (t : TransactionId) : Message :=
  ⟨toString c, (CharacterCommand.moveItem c tab slot i t).toJson⟩

/-- Reserves the item and sends the command. A command that cannot be sent gives the reservation back. -/
def start (s : Service) (amb : Ambient) (c : CharacterId) (o : MoveOrder) :
    Except WorkflowError TransferStarted × Service :=
  match locate s c o with
  | .error e => (.error e, s)
  | .ok (tab, i) =>
    match s.reservations.reserve i c (some amb.transaction) amb.now with
    | (false, reservations) => (.error (.itemAlreadyReserved i), { s with reservations })
    | (true, reservations) =>
      match Transport.publish .characterCommand [command c tab o.slot i amb.transaction] s.transport with
      | (.ok (), transport) => (.ok ⟨i, amb.transaction⟩, { s with reservations, transport })
      | (.error f, transport) => (.error (.internal f), { s with reservations := reservations.release i, transport })

def complete (m : MoveCompletion) : Work CallbackOutcome := do
  if (← Placement.deleteItem m.moved.item) = 0 then pure .dropped
  else
    Work.put .shopStatus (toString m.character) (ShopEvent.moved m.character ⟨m.compartment, m.moved.slot⟩).toJson
    pure .applied

end Transfer

namespace Service

def move (s : Service) (amb : Ambient) (c : CharacterId) (o : MoveOrder) :
    Except WorkflowError TransferStarted × Service :=
  match Transfer.start s amb c o with
  | (.ok t, s') => (.ok t, s'.count .transfersStarted)
  | (.error e, s') => (.error e, s'.reportFailure c e)

/-- The other service has refused an item. A refusal without a live reservation counts if the item is known. -/
def moveFailed (s : Service) (amb : Ambient) (c : CharacterId) (i : ItemId) (t : Option TransactionId) :
    Except WorkflowError CallbackOutcome × Service :=
  let (correlation, reservations) := s.reservations.releaseMatching i t amb.now
  let s := { s with reservations }
  let drop := (.ok .dropped, s.count .callbacksDropped)
  let apply := (.ok .applied, (s.count .transfersFailed).answerError c .unknownError)
  match correlation with
  | .mismatched _ => drop
  | .matched _ => apply
  | .missing =>
    match (Draft.begin s.store).item? i with
    | .ok (some _) => apply
    | .ok none => drop
    | .error f => (.error (.internal f), s)

def moved (s : Service) (amb : Ambient) (m : MoveCompletion) : Except WorkflowError CallbackOutcome × Service :=
  let (correlation, reservations) := s.reservations.releaseMatching m.moved.item m.moved.transaction amb.now
  let s := { s with reservations }
  match correlation with
  | .mismatched _ => (.ok .dropped, s.count .callbacksDropped)
  | _ =>
    match s.run (Transfer.complete m) (· = .applied) with
    | (.ok .applied, s') => (.ok .applied, s'.count .transfersCompleted)
    | (.ok .dropped, s') => (.ok .dropped, s'.count .callbacksDropped)
    | (.error e, s') => (.error e, s'.reportFailure m.character e)

end Service

end CashShop
