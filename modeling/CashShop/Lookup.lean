import CashShop.Code
import CashShop.Id

namespace CashShop

structure Commodity where
  serial : SerialNumber
  template : TemplateId
  count : UInt32
  price : UInt32
  period : UInt32
  priority : UInt32
  gender : UInt8
  onSale : Bool
deriving DecidableEq

abbrev TabCapacities := Table Tab UInt32

structure Character where
  id : CharacterId
  account : AccountId
  name : String
  job : UInt16
  inventory : Option TabCapacities
deriving DecidableEq

def slotCeiling : UInt32 := 96

inductive LookupError where
  | notFound (what : String)
  | transport (reason : String)
deriving DecidableEq

abbrev Catalog := SerialNumber → Except LookupError Commodity

abbrev Directory := CharacterId → Bool → Except LookupError Character

def Catalog.ofTable (t : Table SerialNumber Commodity) : Catalog := fun s =>
  match t.get? s with
  | some c => .ok c
  | none => .error (.notFound s!"commodity {s}")

def Directory.ofTable (t : Table CharacterId Character) : Directory := fun id withInventory =>
  match t.get? id with
  | some c => .ok (if withInventory then c else { c with inventory := none })
  | none => .error (.notFound s!"character {id}")

/-- Of two commodities with one number the later counts. -/
def Catalog.ofList (cs : List Commodity) : Catalog := .ofTable (cs.foldl (fun t c => t.insert c.serial c) .empty)

def Directory.ofList (cs : List Character) : Directory := .ofTable (cs.foldl (fun t c => t.insert c.id c) .empty)

end CashShop
