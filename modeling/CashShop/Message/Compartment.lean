import CashShop.Item
import CashShop.Wire.Record

namespace CashShop

open Wire Record

structure Handoff where
  account : AccountId
  line : ClassLine
  transaction : TransactionId
  compartment : CompartmentId
  item : ItemId
deriving DecidableEq

inductive CompartmentCommand where
  | accept (handoff : Handoff)
  | release (handoff : Handoff)
  | unsupported
deriving DecidableEq

namespace CompartmentCommand

def handoffJson (kind : String) (h : Handoff) : Json := .obj [
  ("accountId", accountJson h.account),
  ("body", .obj [("compartmentId", compartmentJson h.compartment), ("itemId", itemJson h.item),
    ("transactionId", transactionJson h.transaction)]),
  ("compartmentType", lineJson h.line), ("type", .str kind)]

def toJson : CompartmentCommand → Json
  | accept h => handoffJson "ACCEPT" h
  | release h => handoffJson "RELEASE" h
  | unsupported => .obj [("type", .str "UNSUPPORTED")]

def handoffBody : Decoder (TransactionId × CompartmentId × ItemId) :=
  ((fun t c i => (t, c, i)) <$> field "transactionId" transaction <*> field "compartmentId" compartment
    <*> field "itemId" item).decode

def handoff : Record Json Handoff :=
  (fun a l b => ⟨a, l, b.1, b.2.1, b.2.2⟩) <$> field "accountId" account <*> field "compartmentType" line
    <*> field "body" handoffBody

def kinds : String → Option (Record Json CompartmentCommand)
  | "ACCEPT" => some (accept <$> handoff)
  | "RELEASE" => some (release <$> handoff)
  | _ => none

def decode : Decoder CompartmentCommand := tagged kinds (some unsupported)

end CompartmentCommand

structure CompartmentRef where
  account : AccountId
  compartment : CompartmentId
  line : ClassLine
deriving DecidableEq

def Handoff.ref (h : Handoff) : CompartmentRef := ⟨h.account, h.compartment, h.line⟩

def Compartment.ref (c : Compartment) : CompartmentRef := ⟨c.account, c.id, c.line⟩

inductive CompartmentEvent where
  | created (ref : CompartmentRef) (capacity : UInt32)
  | updated (ref : CompartmentRef) (capacity : UInt32)
  | deleted (ref : CompartmentRef)
  | accepted (ref : CompartmentRef) (transaction : TransactionId)
  | released (ref : CompartmentRef) (transaction : TransactionId)
  | error (ref : CompartmentRef) (code : ErrorCode) (transaction : TransactionId)
deriving DecidableEq

namespace CompartmentEvent

def refJson (kind : String) (r : CompartmentRef) (body : List (String × Json)) : Json :=
  .obj (("accountId", accountJson r.account) :: body ++ [("compartmentId", compartmentJson r.compartment),
    ("compartmentType", lineJson r.line), ("type", .str kind)])

def capacityBodyJson (n : UInt32) : List (String × Json) := [("body", .obj [("capacity", .ofUInt32 n)])]

def transactionBodyJson (t : TransactionId) : List (String × Json) :=
  [("body", .obj [("transactionId", transactionJson t)])]

def toJson : CompartmentEvent → Json
  | created r n => refJson "CREATED" r (capacityBodyJson n)
  | updated r n => refJson "UPDATED" r (capacityBodyJson n)
  | deleted r => refJson "DELETED" r []
  | accepted r t => refJson "ACCEPTED" r (transactionBodyJson t)
  | released r t => refJson "RELEASED" r (transactionBodyJson t)
  | error r code t =>
    refJson "ERROR" r [("body", .obj [("errorCode", .str code.name), ("transactionId", transactionJson t)])]

def ref : Record Json CompartmentRef :=
  CompartmentRef.mk <$> field "accountId" account <*> field "compartmentId" compartment
    <*> field "compartmentType" line

def capacityBody : Decoder UInt32 := (id <$> field "capacity" uint32).decode

def transactionBody : Decoder TransactionId := (id <$> field "transactionId" transaction).decode

def errorBody : Decoder (ErrorCode × TransactionId) :=
  (Prod.mk <$> field "errorCode" (errorCode isNullOrEmpty) <*> field "transactionId" transaction).decode

def kinds : String → Option (Record Json CompartmentEvent)
  | "CREATED" => some (created <$> ref <*> field "body" capacityBody)
  | "UPDATED" => some (updated <$> ref <*> field "body" capacityBody)
  | "DELETED" => some (deleted <$> ref)
  | "ACCEPTED" => some (accepted <$> ref <*> field "body" transactionBody)
  | "RELEASED" => some (released <$> ref <*> field "body" transactionBody)
  | "ERROR" => some ((fun r b => error r b.1 b.2) <$> ref <*> field "body" errorBody)
  | _ => none

def decode : Decoder CompartmentEvent := tagged kinds none

end CompartmentEvent

end CashShop
