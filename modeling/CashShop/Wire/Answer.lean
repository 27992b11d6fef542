import CashShop.Bus
import CashShop.Reservation
import CashShop.Wire.Entity
import CashShop.Workflow.Capacity
import CashShop.Workflow.Purchase
import CashShop.Workflow.Transfer

namespace CashShop

open Wire

def errorJson (kind message : String) : Json := .obj [("error", .str kind), ("message", .str message)]

def WorkflowError.toJson (e : WorkflowError) : Json := .obj [
  ("business", .bool e.isBusiness), ("code", .str e.code.name), ("error", .str e.kind), ("message", .str e.message)]

def ConsumerError.toJson (e : ConsumerError) : Json := errorJson e.kind e.message

def Receipt.toJson (r : Receipt) : Json := .obj [
  ("assetId", assetJson r.asset), ("compartmentId", compartmentJson r.compartment), ("itemId", itemJson r.item),
  ("price", .ofUInt32 r.price), ("templateId", templateJson r.template), ("wallet", r.wallet.toJson)]

def PurchaseOutcome.toJson : PurchaseOutcome → Json
  | completed r => .obj [("completed", r.toJson)]
  | inventoryFull => .str "INVENTORY_FULL"
  | duplicate => .str "DUPLICATE"

def CapacityIncrease.toJson (r : CapacityIncrease) : Json := .obj [
  ("amount", .ofUInt32 r.amount), ("capacity", .ofUInt32 r.capacity), ("inventoryType", tabJson r.tab),
  ("wallet", r.wallet.toJson)]

def TransferStarted.toJson (t : TransferStarted) : Json :=
  .obj [("itemId", itemJson t.item), ("transactionId", transactionJson t.transaction)]

def Reservation.claimJson (r : Reservation) : Json :=
  .obj [("claimant", characterJson r.claimant), ("transactionId", Json.ofOption transactionJson r.transaction)]

def Reservation.toJson (r : Reservation) : Json := .obj [
  ("claimant", characterJson r.claimant), ("expiresAt", .int r.expiresAt),
  ("transactionId", Json.ofOption transactionJson r.transaction)]

def Correlation.toJson (f : Reservation → Json) : Correlation → Json
  | matched r => .obj [("matched", f r)]
  | mismatched r => .obj [("mismatched", f r)]
  | missing => .str "missing"

def Reception.toJson : Reception → Json
  | message m => m.toJson
  | empty => .str "EMPTY"
  | lagged n => .obj [("lagged", .int n)]
  | closed => .str "CLOSED"
  | unsubscribed => .str "UNSUBSCRIBED"

end CashShop
