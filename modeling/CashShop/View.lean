import CashShop.Item

namespace CashShop

inductive Decoration (α : Type) where
  | resolved (value : α)
  | absent
  | unavailable (reason : String)
deriving DecidableEq

namespace Decoration

variable {α : Type}

def resolved? : Decoration α → Option α
  | resolved a => some a
  | _ => none

def isPartial : Decoration α → Bool
  | unavailable _ => true
  | _ => false

end Decoration

structure AssetView where
  asset : Asset
  item : Decoration Item
deriving DecidableEq

def AssetView.holds (v : AssetView) (cashId : CashId) : Bool :=
  match v.item with
  | .resolved item => item.cashId = cashId
  | _ => false

structure CompartmentView where
  compartment : Compartment
  assets : Decoration (List AssetView)
deriving DecidableEq

namespace CompartmentView

/-- Unknown when the assets could not be listed. -/
def hasFreeSlot? (v : CompartmentView) : Option Bool :=
  match v.assets with
  | .resolved assets => some (assets.length < v.compartment.capacity.toNat)
  | .absent => some (0 < v.compartment.capacity)
  | .unavailable _ => none

def listed (v : CompartmentView) : List AssetView := v.assets.resolved?.getD []

def findByCashId? (v : CompartmentView) (cashId : CashId) : Option AssetView := v.listed.find? (·.holds cashId)

def partialAssets (v : CompartmentView) : Nat := v.listed.countP (·.item.isPartial)

end CompartmentView

end CashShop
