import CashShop.Message.Account
import CashShop.Message.Compartment
import CashShop.Message.Item
import CashShop.Work

namespace CashShop

namespace Ledger

def announce (a : AccountId) (e : WalletEvent) : Work Unit := Work.put .walletStatus (toString a) e.toJson

def wallet (a : AccountId) : Work Wallet := do
  Work.orElseThrow (.walletNotFound a) (← Work.read (·.wallet? a))

def create (w : Wallet) : Work Wallet := do
  Work.tryWrite (·.insertWallet w)
  announce w.account (.created w)
  pure w

def update (w : Wallet) : Work Wallet := do
  if ← Work.tryStep (·.updateWallet w) then
    announce w.account (.updated w)
    pure w
  else throw (.walletNotFound w.account)

def delete (a : AccountId) : Work Bool := do
  let existed ← Work.step (·.deleteWallet a)
  if existed then announce a (.deleted a)
  pure existed

def ensureAffordable (w : Wallet) (c : Currency) (price : UInt32) : Except WorkflowError Unit :=
  if w.canAfford c price then .ok () else .error (.insufficientFunds c (w.balance c) price)

/-- Takes the amount from one lane, and nothing if the lane does not cover it. -/
def debit (a : AccountId) (c : Currency) (amount : UInt32) : Work Wallet := do
  let w ← wallet a
  ensureAffordable w c amount
  update (w.spend c amount)

end Ledger

structure ItemSpec where
  template : TemplateId
  quantity : UInt32
  purchasedBy : CharacterId
  expirationDays : Int
deriving DecidableEq

namespace Registry

def firstUnused? (d : Draft) (candidates : List CashId) : Option Nat := candidates.findIdx? (!d.hasCashId ·)

/-- Draws cash ids until one is unused. The item expires so many days from now. -/
def create (spec : ItemSpec) (now : Instant) (candidates : List CashId) : Work Item := do
  let c ← Work.orElseThrow (.internal .cashIdsExhausted) (← Work.read fun d => candidates.find? (!d.hasCashId ·))
  let expiration ← Work.orElseThrow (.internal .expirationOutOfRange) (now.addDays? spec.expirationDays)
  let item ← Work.tryStep (·.insertItem ⟨c, spec.template, spec.quantity, 0, spec.purchasedBy, expiration⟩)
  Work.put .itemStatus (toString item.id) (ItemEvent.ofItem item).toJson
  pure item

def item (i : ItemId) : Work Item := do
  Work.orElseThrow (.itemNotFound s!"item {i}") (← Work.tryRead (·.item? i))

end Registry

namespace Placement

def create (id : AssetId) (compartment : CompartmentId) (item : ItemId) : Work Asset := do
  let c ← Work.orElseThrow (.compartmentNotFound (toString compartment)) (← Work.read (·.compartment? compartment))
  let assets ← Work.tryRead (·.assetsIn compartment)
  if c.capacity.toNat ≤ assets.length then throw (.inventoryFull compartment)
  let a : Asset := ⟨id, compartment, item⟩
  Work.tryWrite (·.insertAsset a)
  pure a

def delete (id : AssetId) : Work Bool := do
  pure (0 < (← Work.step (·.deleteAssets (·.id = id))))

def deleteItem (i : ItemId) : Work Nat := Work.step (·.deleteAssets (·.item = i))

end Placement

namespace Holdings

def announce (a : AccountId) (e : CompartmentEvent) : Work Unit := Work.put .compartmentStatus (toString a) e.toJson

def announceInventory (a : AccountId) (e : InventoryEvent) : Work Unit :=
  Work.put .inventoryStatus (toString a) e.toJson

def create (c : Compartment) : Work Compartment := do
  Work.tryWrite (·.insertCompartment c)
  announce c.account (.created c.ref c.capacity)
  pure c

def updateCapacity (id : CompartmentId) (capacity : UInt32) : Work Compartment := do
  let c ← Work.orElseThrow (.compartmentNotFound (toString id)) (← Work.step (·.updateCapacity id capacity))
  announce c.account (.updated c.ref capacity)
  pure c

def deleteWithAssets (c : Compartment) : Work Unit := do
  let _ ← Work.step (·.deleteAssets (·.compartment = c.id))
  let _ ← Work.step (·.deleteCompartment c.id)
  announce c.account (.deleted c.ref)

def delete (id : CompartmentId) : Work Bool := do
  match ← Work.read (·.compartment? id) with
  | none => pure false
  | some c =>
    deleteWithAssets c
    pure true

def deleteAll (a : AccountId) : Work Nat := do
  let cs ← Work.read (·.compartmentsOf a)
  cs.forM deleteWithAssets
  pure cs.length

def createInventory (a : AccountId) (capacity : UInt32) (id : ClassLine → CompartmentId) :
    Work (List Compartment) := do
  let cs ← ClassLine.all.mapM fun l => create ⟨id l, a, l, capacity⟩
  announceInventory a (.created a)
  pure cs

def deleteInventory (a : AccountId) : Work Nat := do
  let n ← deleteAll a
  announceInventory a (.deleted a)
  pure n

end Holdings

end CashShop
