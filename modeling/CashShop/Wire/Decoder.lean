import CashShop.Error
import CashShop.Json

namespace CashShop.Wire

inductive DecodeError where
  | unknownCurrency (code : UInt32)
  | unknownTab (code : UInt8)
  | unknownLine (code : UInt8)
  | malformed
deriving DecidableEq

def DecodeError.message : DecodeError → String
  | unknownCurrency n => unknownCurrencyMessage n
  | unknownTab n => unknownTabMessage n.toNat
  | unknownLine n => unknownLineMessage n
  | malformed => "<decode error>"

abbrev Decoder (α : Type) := Json → Except DecodeError α

def intWithin (lo hi : Int) : Decoder Int
  | .int n => if lo ≤ n ∧ n ≤ hi then .ok n else .error .malformed
  | _ => .error .malformed

def nat64 : Decoder Nat := fun j => (intWithin 0 (UInt64.size - 1) j).map Int.toNat

def uint32 : Decoder UInt32 := fun j => (intWithin 0 (UInt32.size - 1) j).map fun n => UInt32.ofNat n.toNat

def uint16 : Decoder UInt16 := fun j => (intWithin 0 (UInt16.size - 1) j).map fun n => UInt16.ofNat n.toNat

def uint8 : Decoder UInt8 := fun j => (intWithin 0 (UInt8.size - 1) j).map fun n => UInt8.ofNat n.toNat

def int64 : Decoder Int64 := fun j => (intWithin Int64.minValue.toInt Int64.maxValue.toInt j).map Int64.ofInt

def int16 : Decoder Int16 := fun j => (intWithin Int16.minValue.toInt Int16.maxValue.toInt j).map Int16.ofInt

def bool : Decoder Bool
  | .bool b => .ok b
  | _ => .error .malformed

def string : Decoder String
  | .str s => .ok s
  | _ => .error .malformed

def value : Decoder Json := .ok

def optional {α : Type} (d : Decoder α) : Decoder (Option α)
  | .null => .ok none
  | j => (d j).map some

def uuid : Decoder Uuid
  | .str s => match Uuid.parse? s with
    | some u => .ok u
    | none => .error .malformed
  | _ => .error .malformed

def account : Decoder AccountId := fun j => (uint32 j).map .mk

def character : Decoder CharacterId := fun j => (uint32 j).map .mk

def item : Decoder ItemId := fun j => (uint32 j).map .mk

def cashId : Decoder CashId := fun j => (int64 j).map .mk

def serial : Decoder SerialNumber := fun j => (uint32 j).map .mk

def template : Decoder TemplateId := fun j => (uint32 j).map .mk

def compartment : Decoder CompartmentId := fun j => (uuid j).map .mk

def asset : Decoder AssetId := fun j => (uuid j).map .mk

def transaction : Decoder TransactionId := fun j => (uuid j).map .mk

def currency : Decoder Currency := fun j => do
  let n ← uint32 j
  match Currency.ofCode? n with
  | some c => .ok c
  | none => .error (.unknownCurrency n)

def tab : Decoder Tab := fun j => do
  let n ← uint8 j
  match Tab.ofCode? n with
  | some t => .ok t
  | none => .error (.unknownTab n)

def line : Decoder ClassLine := fun j => do
  let n ← uint8 j
  match ClassLine.ofCode? n with
  | some l => .ok l
  | none => .error (.unknownLine n)

/-- One of the named values, as the bare name or as the only key of an object over `payload`. -/
def named {α : Type} (payload : Json → Bool) (find : String → Option α) : Decoder α
  | .str s => match find s with
    | some a => .ok a
    | none => .error .malformed
  | .obj [(s, p)] => match find s, payload p with
    | some a, true => .ok a
    | _, _ => .error .malformed
  | _ => .error .malformed

def isNull : Json → Bool
  | .null => true
  | _ => false

/-- Inside a tagged message an empty object will do as well. -/
def isNullOrEmpty : Json → Bool
  | .null | .obj [] => true
  | _ => false

def topic : Decoder Topic := named isNull fun s => Topic.all.find? (·.name = s)

def errorCode (payload : Json → Bool) : Decoder ErrorCode := named payload fun s => ErrorCode.all.find? (·.name = s)

def currencyJson (c : Currency) : Json := .int c.code.toNat

def tabJson (t : Tab) : Json := .int t.code.toNat

def lineJson (l : ClassLine) : Json := .int l.code.toNat

def accountJson (a : AccountId) : Json := .int a.val.toNat

def characterJson (c : CharacterId) : Json := .int c.val.toNat

def itemJson (i : ItemId) : Json := .int i.val.toNat

def cashIdJson (c : CashId) : Json := .int c.val.toInt

def serialJson (s : SerialNumber) : Json := .int s.val.toNat

def templateJson (t : TemplateId) : Json := .int t.val.toNat

def compartmentJson (c : CompartmentId) : Json := .str c.val.text

def assetJson (a : AssetId) : Json := .str a.val.text

def transactionJson (t : TransactionId) : Json := .str t.val.text

end CashShop.Wire
