import CashShop.Wire.Record

namespace CashShop

open Wire Record

/-- The currency and the tab of a command are bare codes: whether they name something is answered by an event. -/
structure PurchaseOrder where
  currency : UInt32
  serial : SerialNumber
  idempotencyKey : Option String
deriving DecidableEq

structure MoveOrder where
  cashId : CashId
  tab : UInt8
  slot : Int16
deriving DecidableEq

inductive ShopCommand where
  | purchase (character : CharacterId) (order : PurchaseOrder)
  | increaseByType (character : CharacterId) (currency : UInt32) (tab : UInt8)
  | increaseByItem (character : CharacterId) (currency : UInt32) (serial : SerialNumber)
  | move (character : CharacterId) (order : MoveOrder)
  | unsupported
deriving DecidableEq

namespace ShopCommand

def toJson : ShopCommand → Json
  | purchase c o => .obj [
      ("body", .obj <| ("currency", .ofUInt32 o.currency) ::
        ((o.idempotencyKey.map fun k => ("idempotencyKey", Json.str k)).toList ++
          [("serialNumber", serialJson o.serial)])),
      ("characterId", characterJson c), ("type", .str "PURCHASE")]
  | increaseByType c currency tab => .obj [
      ("body", .obj [("currency", .ofUInt32 currency), ("inventoryType", .int tab.toNat)]),
      ("characterId", characterJson c), ("type", .str "REQUEST_INVENTORY_INCREASE_BY_TYPE")]
  | increaseByItem c currency serial => .obj [
      ("body", .obj [("currency", .ofUInt32 currency), ("serialNumber", serialJson serial)]),
      ("characterId", characterJson c), ("type", .str "REQUEST_INVENTORY_INCREASE_BY_ITEM")]
  | move c o => .obj [
      ("body", .obj [("inventoryType", .int o.tab.toNat), ("serialNumber", cashIdJson o.cashId),
        ("slot", .int o.slot.toInt)]),
      ("characterId", characterJson c), ("type", .str "MOVE_FROM_CASH_INVENTORY")]
  | unsupported => .obj [("type", .str "UNSUPPORTED")]

def purchaseOrder : Decoder PurchaseOrder :=
  (PurchaseOrder.mk <$> field "currency" uint32 <*> field "serialNumber" serial
    <*> omissible "idempotencyKey" string).decode

def tabOrder : Decoder (UInt32 × UInt8) :=
  (Prod.mk <$> field "currency" uint32 <*> field "inventoryType" uint8).decode

def couponOrder : Decoder (UInt32 × SerialNumber) :=
  (Prod.mk <$> field "currency" uint32 <*> field "serialNumber" serial).decode

def moveOrder : Decoder MoveOrder :=
  (MoveOrder.mk <$> field "serialNumber" cashId <*> field "inventoryType" uint8 <*> field "slot" int16).decode

def kinds : String → Option (Record Json ShopCommand)
  | "PURCHASE" => some (purchase <$> field "characterId" character <*> field "body" purchaseOrder)
  | "REQUEST_INVENTORY_INCREASE_BY_TYPE" =>
    some ((fun c o => increaseByType c o.1 o.2) <$> field "characterId" character <*> field "body" tabOrder)
  | "REQUEST_INVENTORY_INCREASE_BY_ITEM" =>
    some ((fun c o => increaseByItem c o.1 o.2) <$> field "characterId" character <*> field "body" couponOrder)
  | "MOVE_FROM_CASH_INVENTORY" => some (move <$> field "characterId" character <*> field "body" moveOrder)
  | _ => none

def decode : Decoder ShopCommand := tagged kinds (some unsupported)

end ShopCommand

structure PurchaseNotice where
  template : TemplateId
  price : UInt32
  compartment : CompartmentId
  asset : AssetId
  item : ItemId
deriving DecidableEq

structure CapacityNotice where
  tab : Tab
  capacity : UInt32
  amount : UInt32
deriving DecidableEq

structure MovedNotice where
  compartment : CompartmentId
  slot : Int16
deriving DecidableEq

inductive ShopEvent where
  | purchase (character : CharacterId) (notice : PurchaseNotice)
  | capacityIncreased (character : CharacterId) (notice : CapacityNotice)
  | moved (character : CharacterId) (notice : MovedNotice)
  | error (character : CharacterId) (code : ErrorCode)
deriving DecidableEq

namespace ShopEvent

def character : ShopEvent → CharacterId
  | purchase c _ | capacityIncreased c _ | moved c _ | error c _ => c

def toJson : ShopEvent → Json
  | purchase c n => .obj [
      ("body", .obj [("assetId", assetJson n.asset), ("compartmentId", compartmentJson n.compartment),
        ("itemId", itemJson n.item), ("price", .ofUInt32 n.price), ("templateId", templateJson n.template)]),
      ("characterId", characterJson c), ("type", .str "PURCHASE")]
  | capacityIncreased c n => .obj [
      ("body", .obj [("amount", .ofUInt32 n.amount), ("capacity", .ofUInt32 n.capacity),
        ("inventoryType", tabJson n.tab)]),
      ("characterId", characterJson c), ("type", .str "INVENTORY_CAPACITY_INCREASED")]
  | moved c n => .obj [
      ("body", .obj [("compartmentId", compartmentJson n.compartment), ("slot", .int n.slot.toInt)]),
      ("characterId", characterJson c), ("type", .str "CASH_ITEM_MOVED_TO_INVENTORY")]
  | error c code => .obj [
      ("body", .obj [("error", .str code.name)]), ("characterId", characterJson c), ("type", .str "ERROR")]

def purchaseNotice : Decoder PurchaseNotice :=
  (PurchaseNotice.mk <$> field "templateId" template <*> field "price" uint32 <*> field "compartmentId" compartment
    <*> field "assetId" asset <*> field "itemId" item).decode

def capacityNotice : Decoder CapacityNotice :=
  (CapacityNotice.mk <$> field "inventoryType" tab <*> field "capacity" uint32 <*> field "amount" uint32).decode

def movedNotice : Decoder MovedNotice :=
  (MovedNotice.mk <$> field "compartmentId" compartment <*> field "slot" int16).decode

def errorNotice : Decoder ErrorCode := (id <$> field "error" (errorCode isNullOrEmpty)).decode

def kinds : String → Option (Record Json ShopEvent)
  | "PURCHASE" => some (purchase <$> field "characterId" Wire.character <*> field "body" purchaseNotice)
  | "INVENTORY_CAPACITY_INCREASED" =>
    some (capacityIncreased <$> field "characterId" Wire.character <*> field "body" capacityNotice)
  | "CASH_ITEM_MOVED_TO_INVENTORY" =>
    some (moved <$> field "characterId" Wire.character <*> field "body" movedNotice)
  | "ERROR" => some (error <$> field "characterId" Wire.character <*> field "body" errorNotice)
  | _ => none

def decode : Decoder ShopEvent := tagged kinds none

end ShopEvent

end CashShop
