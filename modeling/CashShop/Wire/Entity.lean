import CashShop.Config
import CashShop.View
import CashShop.Wallet
import CashShop.Wire.Record

namespace CashShop

open Wire Record

namespace Wallet

def toJson (w : Wallet) : Json := .obj [
  ("account_id", accountJson w.account), ("credit", .ofUInt32 w.credit), ("points", .ofUInt32 w.points),
  ("prepaid", .ofUInt32 w.prepaid)]

def decode : Decoder Wallet :=
  (Wallet.mk <$> field "account_id" Wire.account <*> field "credit" uint32 <*> field "points" uint32
    <*> field "prepaid" uint32).decode

end Wallet

/-- The expiration is written in whole seconds. -/
def Item.toJson (i : Item) : Json := .obj [
  ("cash_id", cashIdJson i.cashId), ("expiration", .int i.expiration.seconds), ("flag", .int i.flag.toNat),
  ("id", itemJson i.id), ("purchased_by", characterJson i.purchasedBy), ("quantity", .ofUInt32 i.quantity),
  ("template_id", templateJson i.template)]

namespace Compartment

def toJson (c : Compartment) : Json := .obj [
  ("account_id", accountJson c.account), ("capacity", .ofUInt32 c.capacity), ("compartment_type", lineJson c.line),
  ("id", compartmentJson c.id)]

def decode : Decoder Compartment :=
  (Compartment.mk <$> field "id" Wire.compartment <*> field "account_id" Wire.account
    <*> field "compartment_type" Wire.line <*> field "capacity" uint32).decode

end Compartment

namespace Asset

def toJson (a : Asset) : Json := .obj [
  ("compartment_id", compartmentJson a.compartment), ("id", assetJson a.id), ("item_id", itemJson a.item)]

def decode : Decoder Asset :=
  (Asset.mk <$> field "id" Wire.asset <*> field "compartment_id" Wire.compartment <*> field "item_id" Wire.item).decode

end Asset

namespace Commodity

def toJson (c : Commodity) : Json := .obj [
  ("count", .ofUInt32 c.count), ("gender", .int c.gender.toNat), ("on_sale", .bool c.onSale),
  ("period", .ofUInt32 c.period), ("price", .ofUInt32 c.price), ("priority", .ofUInt32 c.priority),
  ("serial_number", serialJson c.serial), ("template_id", templateJson c.template)]

def decode : Decoder Commodity :=
  (Commodity.mk <$> field "serial_number" Wire.serial <*> field "template_id" Wire.template <*> field "count" uint32
    <*> field "price" uint32 <*> field "period" uint32 <*> field "priority" uint32 <*> field "gender" uint8
    <*> field "on_sale" bool).decode

end Commodity

namespace TabCapacities

def toJson (t : TabCapacities) : Json := .obj (t.rows.map fun r => (toString r.1.code.toNat, .ofUInt32 r.2))

def tabOfKey (key : String) : Except DecodeError Tab :=
  match Json.parse? key with
  | some (.int n) => if (toString n) = key then tab (.int n) else .error .malformed
  | _ => .error .malformed

def ofFields : List (String × Json) → TabCapacities → Except DecodeError TabCapacities
  | [], acc => .ok acc
  | (k, v) :: rest, acc => do
    let t ← tabOfKey k
    let n ← uint32 v
    ofFields rest (acc.insert t n)

def decode : Decoder TabCapacities
  | .obj fields => ofFields fields .empty
  | _ => .error .malformed

end TabCapacities

namespace Character

def toJson (c : Character) : Json := .obj [
  ("account_id", accountJson c.account), ("id", characterJson c.id),
  ("inventory", Json.ofOption TabCapacities.toJson c.inventory), ("job_id", .int c.job.toNat), ("name", .str c.name)]

def decode : Decoder Character :=
  (Character.mk <$> field "id" character <*> field "account_id" Wire.account <*> field "name" string
    <*> field "job_id" uint16 <*> nullable "inventory" TabCapacities.decode).decode

end Character

def Decoration.toJson {α : Type} (f : α → Json) : Decoration α → Json
  | resolved a => .obj [("state", .str "RESOLVED"), ("value", f a)]
  | absent => .obj [("state", .str "ABSENT")]
  | unavailable reason => .obj [("state", .str "UNAVAILABLE"), ("value", .str reason)]

/-- A state other than these two says that the value is unavailable, and why. -/
def Decoration.decode {α : Type} (d : Decoder α) : Decoder (Decoration α) := fun j => do
  let value := (j.get? "value").getD .null
  match j.get? "state" with
  | some (.str "RESOLVED") => (d value).map .resolved
  | some (.str "ABSENT") => .ok .absent
  | some (.str _) => (string value).map .unavailable
  | _ => .error .malformed

def AssetView.toJson (v : AssetView) : Json :=
  .obj [("asset", v.asset.toJson), ("item", v.item.toJson Item.toJson)]

def CompartmentView.toJson (v : CompartmentView) : Json := .obj [
  ("assets", v.assets.toJson fun views => .arr (views.map AssetView.toJson)),
  ("compartment", v.compartment.toJson)]

def Settings.toJson (s : Settings) : Json := .obj [
  ("consumer_buffer", .int s.consumerBuffer), ("default_compartment_capacity", .ofUInt32 s.compartmentCapacity),
  ("item_expiration_days", .int s.itemExpirationDays), ("request_timeout_seconds", .int s.requestTimeoutSeconds),
  ("reservation_sweep_seconds", .int s.reservationSweepSeconds),
  ("reservation_ttl_seconds", .int s.reservationTtlSeconds)]

namespace Config

def toJson (c : Config) : Json := .obj [
  (catalogKey, Json.ofOption .str c.catalogUrl), (characterKey, Json.ofOption .str c.characterUrl),
  ("idempotency_key_capacity", .int c.keyCapacity), ("log_format", .str c.logFormat), ("log_level", .str c.logLevel),
  ("runtime", c.settings.toJson)]

/-- Missing fields keep their initial values. -/
def decode : Decoder Config :=
  let c := initial
  let s := c.settings
  ((fun level format catalog character timeout ttl sweep days capacity buffer keys =>
      ⟨level, format, catalog, character, ⟨ttl, sweep, days, capacity, timeout, buffer⟩, keys⟩)
    <$> fieldD "log_level" string c.logLevel <*> fieldD "log_format" string c.logFormat
    <*> omissible catalogKey string <*> omissible characterKey string
    <*> fieldD "request_timeout_seconds" nat64 s.requestTimeoutSeconds
    <*> fieldD "reservation_ttl_seconds" nat64 s.reservationTtlSeconds
    <*> fieldD "reservation_sweep_seconds" nat64 s.reservationSweepSeconds
    <*> fieldD "item_expiration_days" (fun j => (int64 j).map (·.toInt)) s.itemExpirationDays
    <*> fieldD "default_compartment_capacity" uint32 s.compartmentCapacity
    <*> fieldD "consumer_buffer" nat64 s.consumerBuffer
    <*> fieldD "idempotency_key_capacity" nat64 c.keyCapacity).decode

end Config

end CashShop
