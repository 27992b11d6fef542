import CashShop.Item
import CashShop.Wire.Record

namespace CashShop

open Wire Record

structure Grant where
  character : CharacterId
  template : TemplateId
  quantity : UInt32
  purchasedBy : CharacterId
deriving DecidableEq

inductive ItemCommand where
  | create (grant : Grant)
  | unsupported
deriving DecidableEq

namespace ItemCommand

def toJson : ItemCommand → Json
  | create g => .obj [
      ("body", .obj [("purchasedBy", characterJson g.purchasedBy), ("quantity", .ofUInt32 g.quantity),
        ("templateId", templateJson g.template)]),
      ("characterId", characterJson g.character), ("type", .str "CREATE")]
  | unsupported => .obj [("type", .str "UNSUPPORTED")]

def createBody : Decoder (TemplateId × UInt32 × CharacterId) :=
  ((fun t q p => (t, q, p)) <$> field "templateId" template <*> field "quantity" uint32
    <*> field "purchasedBy" character).decode

def kinds : String → Option (Record Json ItemCommand)
  | "CREATE" => some ((fun c b => create ⟨c, b.1, b.2.1, b.2.2⟩) <$> field "characterId" character
      <*> field "body" createBody)
  | _ => none

def decode : Decoder ItemCommand := tagged kinds (some unsupported)

end ItemCommand

structure ItemNotice where
  cashId : CashId
  template : TemplateId
  quantity : UInt32
  purchasedBy : CharacterId
  flag : UInt16
deriving DecidableEq

inductive ItemEvent where
  | created (item : ItemId) (notice : ItemNotice)
deriving DecidableEq

namespace ItemEvent

def ofItem (i : Item) : ItemEvent := created i.id ⟨i.cashId, i.template, i.quantity, i.purchasedBy, i.flag⟩

def toJson : ItemEvent → Json
  | created i n => .obj [
      ("body", .obj [("cashId", cashIdJson n.cashId), ("flag", .int n.flag.toNat),
        ("purchasedBy", characterJson n.purchasedBy), ("quantity", .ofUInt32 n.quantity),
        ("templateId", templateJson n.template)]),
      ("itemId", itemJson i), ("type", .str "CREATED")]

def noticeBody : Decoder ItemNotice :=
  (ItemNotice.mk <$> field "cashId" cashId <*> field "templateId" template <*> field "quantity" uint32
    <*> field "purchasedBy" character <*> field "flag" uint16).decode

def kinds : String → Option (Record Json ItemEvent)
  | "CREATED" => some (created <$> field "itemId" item <*> field "body" noticeBody)
  | _ => none

def decode : Decoder ItemEvent := tagged kinds none

end ItemEvent

end CashShop
