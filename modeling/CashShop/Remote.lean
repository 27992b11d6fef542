import CashShop.Lookup
import CashShop.Remote.Target
import CashShop.Wire.Record

namespace CashShop.Remote

open Wire Record

structure Reply where
  status : Nat
  body : String
deriving DecidableEq

/-- Asks for a path below the base address; none when nobody answers. -/
abbrev Exchange := String → Option Reply

def isStatus (n : Nat) : Bool := 100 ≤ n && n < 1000

def isBodiless (status : Nat) : Bool := status < 200 || status == 204 || status == 304

def Reply.text (r : Reply) : String :=
  if isBodiless r.status then ""
  else match r.body.toList with
    | '\uFEFF' :: cs => String.ofList cs
    | _ => r.body

variable {α : Type}

def fetch (what : String) (decode : Json.Source → Except DecodeError α) : Option Reply → Except LookupError α
  | none => .error (.transport "no connection")
  | some r =>
    if !isStatus r.status then .error (.transport "no status")
    else if r.status = 404 then .error (.notFound what)
    else if 400 ≤ r.status ∧ r.status < 600 then .error (.transport s!"status {r.status}")
    else match (Json.Source.parse? r.text).map decode with
      | some (.ok a) => .ok a
      | some (.error e) => .error (.transport e.message)
      | none => .error (.transport DecodeError.malformed.message)

def leaf (d : Decoder α) : Json.Source → Except DecodeError α := ofSource 0 d

def listed (d : Json.Source → Except DecodeError α) : Json.Source → Except DecodeError (List α)
  | .arr items => items.mapM d
  | _ => .error .malformed

def resource (attributes : Json.Source → Except DecodeError α) : Json.Source → Except DecodeError (String × α) :=
  (Prod.mk <$> fieldD "type" (leaf string) "" <*> field "attributes" attributes).decodeSource

def document {β : Type} (attributes : Json.Source → Except DecodeError α)
    (included : Json.Source → Except DecodeError β) : Json.Source → Except DecodeError (α × List β) :=
  ((fun d i => (d.2, i)) <$> field "data" (resource attributes) <*> fieldD "included" (listed included) []).decodeSource

def commodityAttributes (n : SerialNumber) : Json.Source → Except DecodeError Commodity :=
  ((fun template count price period priority gender onSale =>
      ⟨n, template, count, price, period, priority, gender, onSale⟩)
    <$> field "itemId" (leaf template) <*> fieldD "count" (leaf uint32) 0 <*> field "price" (leaf uint32)
    <*> fieldD "period" (leaf uint32) 0 <*> fieldD "priority" (leaf uint32) 0 <*> fieldD "gender" (leaf uint8) 0
    <*> fieldD "onSale" (leaf bool) false).decodeSource

def characterAttributes (c : CharacterId) : Json.Source → Except DecodeError Character :=
  ((fun account name job => ⟨c, account, name, job, none⟩)
    <$> field "accountId" (leaf account) <*> field "name" (leaf string) <*> field "jobId" (leaf uint16)).decodeSource

def compartmentAttributes : Json.Source → Except DecodeError (UInt8 × UInt32) :=
  (Prod.mk <$> field "type" (leaf uint8) <*> field "capacity" (leaf uint32)).decodeSource

/-- Resources without a kind count as compartments too. -/
def isCompartment (kind : String) : Bool := kind == "" || kind == "compartments"

/-- The capacities of the included compartments; of two for one tab the later counts, and unknown tabs are skipped. -/
def capacities (included : List (String × UInt8 × UInt32)) : TabCapacities :=
  included.foldl (fun t r => match isCompartment r.1, Tab.ofCode? r.2.1 with
    | true, some tab => t.insert tab r.2.2
    | _, _ => t) .empty

def mediaType : String := "application/vnd.api+json"

def commodityPath (n : SerialNumber) : String := s!"data/commodity/items/{n}"

def characterPath (c : CharacterId) (withInventory : Bool) : String :=
  if withInventory then s!"characters/{c}?include=inventory" else s!"characters/{c}"

def requestLine (base path : String) : String := s!"GET {Target.ofAddress (base ++ path)}"

def catalog (ask : Exchange) : Catalog := fun n =>
  (fetch s!"commodity {n}" (document (commodityAttributes n) fun _ => .ok ()) (ask (commodityPath n))).map (·.1)

def directory (ask : Exchange) : Directory := fun c withInventory =>
  (fetch s!"character {c}" (document (characterAttributes c) (resource compartmentAttributes))
    (ask (characterPath c withInventory))).map fun d =>
      if withInventory then { d.1 with inventory := some (capacities d.2) } else d.1

end CashShop.Remote
