import CashShop.Message.Character
import CashShop.Service
import CashShop.Work.Stores

namespace CashShop

structure CapacityIncrease where
  tab : Tab
  capacity : UInt32
  amount : UInt32
  wallet : Wallet
deriving DecidableEq

namespace Widening

def plainPrice : UInt32 := 4000

def plainAmount : UInt32 := 8

def couponAmount : UInt32 := 4

structure Offer where
  tab : Tab
  price : UInt32
  amount : UInt32

def Offer.ofTab (code : UInt8) : Except WorkflowError Offer :=
  (resolveTab code).map fun t => ⟨t, plainPrice, plainAmount⟩

def Offer.ofCoupon (s : Service) (n : SerialNumber) : Except WorkflowError Offer := do
  let c ← s.commodity n
  match Tab.ofSlotCoupon c.template.val with
  | .ok t => pure ⟨t, c.price, couponAmount⟩
  | .error code => throw (.invalidTab (unknownTabMessage code))

def tabName (t : Tab) (c : CharacterId) : String := s!"{t.name} inventory of character {c}"

/-- The capacity after the increase, which may not pass the ceiling. -/
def widened (capacity amount : UInt32) : Except WorkflowError UInt32 :=
  if capacity.toNat + amount.toNat ≤ slotCeiling.toNat then .ok (capacity + amount)
  else .error (.maxSlots capacity amount)

def announce (c : CharacterId) (o : Offer) (capacity : UInt32) : Work Unit := do
  Work.put .characterCommand (toString c) (CharacterCommand.increaseCapacity c o.tab o.amount).toJson
  Work.put .shopStatus (toString c) (ShopEvent.capacityIncreased c ⟨o.tab, capacity, o.amount⟩).toJson

def work (c : CharacterId) (ch : Character) (currency : Currency) (o : Offer) : Work CapacityIncrease := do
  let w ← Ledger.wallet ch.account
  Ledger.ensureAffordable w currency o.price
  let current ← Work.orElseThrow (.lookup (.notFound (tabName o.tab c))) (ch.inventory.bind (·.get? o.tab))
  let capacity ← widened current o.amount
  let wallet ← Ledger.debit ch.account currency o.price
  announce c o capacity
  pure ⟨o.tab, capacity, o.amount, wallet⟩

def prepare (s : Service) (c : CharacterId) (currency : UInt32) (offer : Except WorkflowError Offer) :
    Except WorkflowError (Work CapacityIncrease) := do
  let o ← offer
  let lane ← resolveCurrency currency
  let ch ← s.character c true
  pure (work c ch lane o)

end Widening

namespace Service

def widen (s : Service) (c : CharacterId) (currency : UInt32) (offer : Except WorkflowError Widening.Offer) :
    Except WorkflowError CapacityIncrease × Service :=
  match s.perform (Widening.prepare s c currency offer) fun _ => true with
  | (.ok r, s') => (.ok r, s'.count .capacityIncreases)
  | (.error e, s') => (.error e, s'.reportFailure c e)

def increaseByType (s : Service) (c : CharacterId) (currency : UInt32) (tab : UInt8) :
    Except WorkflowError CapacityIncrease × Service := s.widen c currency (Widening.Offer.ofTab tab)

def increaseByItem (s : Service) (c : CharacterId) (currency : UInt32) (n : SerialNumber) :
    Except WorkflowError CapacityIncrease × Service := s.widen c currency (Widening.Offer.ofCoupon s n)

end Service

end CashShop
