import CashShop.Query
import CashShop.Service
import CashShop.Work.Stores

namespace CashShop

structure Receipt where
  template : TemplateId
  price : UInt32
  compartment : CompartmentId
  asset : AssetId
  item : ItemId
  wallet : Wallet
deriving DecidableEq

inductive PurchaseOutcome where
  | completed (receipt : Receipt)
  | inventoryFull
  | duplicate
deriving DecidableEq

def PurchaseOutcome.isCompleted : PurchaseOutcome → Bool
  | completed _ => true
  | _ => false

namespace Purchase

def quantity : UInt32 := 1

/-- Keys of different characters are apart. -/
def scopedKey (c : CharacterId) (key : String) : String := s!"purchase:{c}:{key}"

structure Terms where
  currency : Currency
  commodity : Commodity
  character : Character

def Terms.resolve (s : Service) (c : CharacterId) (o : PurchaseOrder) : Except WorkflowError Terms := do
  let currency ← resolveCurrency o.currency
  let commodity ← s.commodity o.serial
  let character ← s.character c false
  pure ⟨currency, commodity, character⟩

def claimKey (c : CharacterId) : Option String → Work Bool
  | some key => Work.step (·.claim (scopedKey c key))
  | none => pure true

/-- The compartment that a character's purchases go to, with what it holds. -/
def target (ch : Character) : Work CompartmentView := do
  let line := ClassLine.ofJob ch.job
  let c ← Work.orElseThrow (.compartmentNotFound (lineCompartmentName line ch.account))
    (← Work.read (·.compartmentOf? ch.account line))
  Work.read (·.compartmentView c)

def deliver (amb : Ambient) (days : Int) (t : Terms) (c : CompartmentId) : Work Receipt := do
  let wallet ← Ledger.debit t.character.account t.currency t.commodity.price
  let item ← Registry.create ⟨t.commodity.template, quantity, t.character.id, days⟩ amb.now amb.cashIds
  let asset ← Placement.create amb.asset c item.id
  let notice : PurchaseNotice := ⟨t.commodity.template, t.commodity.price, c, asset.id, item.id⟩
  Work.put .shopStatus (toString t.character.id) (ShopEvent.purchase t.character.id notice).toJson
  pure ⟨t.commodity.template, t.commodity.price, c, asset.id, item.id, wallet⟩

def work (amb : Ambient) (days : Int) (c : CharacterId) (key : Option String) (t : Terms) : Work PurchaseOutcome := do
  if ← claimKey c key then
    let w ← Ledger.wallet t.character.account
    Ledger.ensureAffordable w t.currency t.commodity.price
    let view ← target t.character
    match view.hasFreeSlot? with
    | some true => .completed <$> deliver amb days t view.compartment.id
    | some false => pure .inventoryFull
    | none => throw (.internal (.occupancyUnknown view.compartment.id))
  else pure .duplicate

end Purchase

def Service.purchase (s : Service) (amb : Ambient) (c : CharacterId) (o : PurchaseOrder) :
    Except WorkflowError PurchaseOutcome × Service :=
  let prepared := (Purchase.Terms.resolve s c o).map
    (Purchase.work amb s.settings.itemExpirationDays c o.idempotencyKey)
  match s.perform prepared (·.isCompleted) with
  | (.ok (.completed r), s') => (.ok (.completed r), s'.count .purchases)
  | (.ok .inventoryFull, s') => (.ok .inventoryFull, (s'.count .purchaseRejections).answerError c .inventoryFull)
  | (.ok .duplicate, s') => (.ok .duplicate, s'.count .duplicateCommands)
  | (.error e, s') => (.error e, s'.reportFailure c e)

end CashShop
