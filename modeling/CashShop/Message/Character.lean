import CashShop.Wire.Record

namespace CashShop

open Wire Record

inductive CharacterCommand where
  | increaseCapacity (character : CharacterId) (tab : Tab) (amount : UInt32)
  | moveItem (character : CharacterId) (tab : Tab) (slot : Int16) (item : ItemId) (transaction : TransactionId)
deriving DecidableEq

namespace CharacterCommand

def toJson : CharacterCommand → Json
  | increaseCapacity c t amount => .obj [
      ("body", .obj [("amount", .ofUInt32 amount)]), ("characterId", characterJson c), ("inventoryType", tabJson t),
      ("type", .str "INCREASE_CAPACITY")]
  | moveItem c t slot i txn => .obj [
      ("body", .obj [("cashItemId", itemJson i), ("slot", .int slot.toInt), ("transactionId", transactionJson txn)]),
      ("characterId", characterJson c), ("inventoryType", tabJson t), ("type", .str "MOVE_CASH_ITEM")]

def amountBody : Decoder UInt32 := (id <$> field "amount" uint32).decode

def moveBody : Decoder (Int16 × ItemId × TransactionId) :=
  ((fun s i t => (s, i, t)) <$> field "slot" int16 <*> field "cashItemId" item
    <*> field "transactionId" transaction).decode

def kinds : String → Option (Record Json CharacterCommand)
  | "INCREASE_CAPACITY" => some (increaseCapacity <$> field "characterId" character <*> field "inventoryType" tab
      <*> field "body" amountBody)
  | "MOVE_CASH_ITEM" => some ((fun c t b => moveItem c t b.1 b.2.1 b.2.2) <$> field "characterId" character
      <*> field "inventoryType" tab <*> field "body" moveBody)
  | _ => none

def decode : Decoder CharacterCommand := tagged kinds none

end CharacterCommand

structure ItemMoved where
  item : ItemId
  slot : Int16
  transaction : Option TransactionId
deriving DecidableEq

structure InventoryFailure where
  code : String
  item : Option ItemId
  transaction : Option TransactionId
deriving DecidableEq

def moveFailedCode : String := "CASH_ITEM_MOVE_FAILED"

inductive CharacterEvent where
  | itemMoved (character : CharacterId) (compartment : CompartmentId) (body : ItemMoved)
  | error (character : CharacterId) (compartment : CompartmentId) (body : InventoryFailure)
  | other
deriving DecidableEq

namespace CharacterEvent

def optionField (key : String) (v : Option Json) : List (String × Json) := (v.map fun j => (key, j)).toList

def toJson : CharacterEvent → Json
  | itemMoved c k b => .obj [
      ("body", .obj ([("cashItemId", itemJson b.item), ("slot", .int b.slot.toInt)] ++
        optionField "transactionId" (b.transaction.map transactionJson))),
      ("characterId", characterJson c), ("compartmentId", compartmentJson k), ("type", .str "CASH_ITEM_MOVED")]
  | error c k b => .obj [
      ("body", .obj (optionField "cashItemId" (b.item.map itemJson) ++ ("errorCode", .str b.code) ::
        optionField "transactionId" (b.transaction.map transactionJson))),
      ("characterId", characterJson c), ("compartmentId", compartmentJson k), ("type", .str "ERROR")]
  | other => .obj [("type", .str "OTHER")]

def movedBody : Decoder ItemMoved :=
  (ItemMoved.mk <$> field "cashItemId" item <*> field "slot" int16 <*> omissible "transactionId" transaction).decode

def failureBody : Decoder InventoryFailure :=
  (InventoryFailure.mk <$> field "errorCode" string <*> omissible "cashItemId" item
    <*> omissible "transactionId" transaction).decode

def kinds : String → Option (Record Json CharacterEvent)
  | "CASH_ITEM_MOVED" => some (itemMoved <$> field "characterId" character <*> field "compartmentId" compartment
      <*> field "body" movedBody)
  | "ERROR" => some (error <$> field "characterId" character <*> field "compartmentId" compartment
      <*> field "body" failureBody)
  | _ => none

def decode : Decoder CharacterEvent := tagged kinds (some other)

end CharacterEvent

end CashShop
