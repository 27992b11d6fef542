import CashShop.Message.Compartment
import CashShop.Service
import CashShop.Work.Stores

namespace CashShop

namespace Handoff

def place (amb : Ambient) (h : Handoff) : Work Asset := do
  if (← Work.read (·.compartment? h.compartment)).isNone then throw (.compartmentNotFound (toString h.compartment))
  match ← Work.read (·.assetOf? h.item) with
  | some a =>
    if a.compartment = h.compartment then pure a
    else throw (.assetCreationFailed s!"item {h.item} is already placed in compartment {a.compartment}")
  | none => tryCatch (Placement.create amb.asset h.compartment h.item) fun e => match e with
    | .inventoryFull _ => throw (.assetCreationFailed e.message)
    | _ => throw e

def acceptWork (amb : Ambient) (h : Handoff) : Work Asset := do
  let a ← place amb h
  Work.put .compartmentStatus (toString h.account) (CompartmentEvent.accepted h.ref h.transaction).toJson
  pure a

def withdraw (h : Handoff) : Work Asset := do
  if (← Work.read (·.compartment? h.compartment)).isNone then throw (.compartmentNotFound (toString h.compartment))
  let assets ← Work.tryRead (·.assetsIn h.compartment)
  let a ← Work.orElseThrow (.itemNotFound s!"item {h.item} in compartment {h.compartment}")
    (assets.find? (·.item = h.item))
  let _ ← Placement.delete a.id
  pure a

def releaseWork (h : Handoff) : Work Asset := do
  let a ← withdraw h
  Work.put .compartmentStatus (toString h.account) (CompartmentEvent.released h.ref h.transaction).toJson
  pure a

/-- A missing compartment is no failure to create an asset; every other reason to refuse an item is. -/
def acceptCode : WorkflowError → ErrorCode
  | .compartmentNotFound _ => .unknownError
  | _ => .assetCreationFailed

end Handoff

namespace Service

def answerHandoffError (s : Service) (h : Handoff) (code : ErrorCode) : Service :=
  (s.count .workflowErrors).announce .compartmentStatus (toString h.account)
    (CompartmentEvent.error h.ref code h.transaction).toJson

def accept (s : Service) (amb : Ambient) (h : Handoff) : Except WorkflowError Asset × Service :=
  match s.run (h.acceptWork amb) fun _ => true with
  | (.ok a, s') => (.ok a, s')
  | (.error e, s') => (.error e, s'.answerHandoffError h (Handoff.acceptCode e))

/-- An item in transfer is not released. -/
def release (s : Service) (amb : Ambient) (h : Handoff) : Except WorkflowError Asset × Service :=
  let (reserved, reservations) := s.reservations.isReserved h.item amb.now
  let s := { s with reservations }
  match s.perform (if reserved then .error (.itemAlreadyReserved h.item) else .ok h.releaseWork) fun _ => true with
  | (.ok a, s') => (.ok a, s')
  | (.error e, s') => (.error e, s'.answerHandoffError h e.code)

end Service

end CashShop
