import CashShop.Wallet
import CashShop.Wire.Record

namespace CashShop

open Wire Record

inductive AccountStatus where
  | created
  | deleted
  | other
deriving DecidableEq

structure AccountEvent where
  account : AccountId
  name : Option String
  status : AccountStatus
deriving DecidableEq

namespace AccountStatus

def name : AccountStatus → String
  | created => "CREATED"
  | deleted => "DELETED"
  | other => "OTHER"

def ofName (s : String) : AccountStatus := if s = "CREATED" then created else if s = "DELETED" then deleted else other

end AccountStatus

namespace AccountEvent

def toJson (e : AccountEvent) : Json :=
  .obj [("accountId", accountJson e.account), ("name", Json.ofOption .str e.name), ("status", .str e.status.name)]

def decode : Decoder AccountEvent :=
  (AccountEvent.mk <$> field "accountId" Wire.account <*> nullable "name" string
    <*> field "status" (named isNull fun s => some (.ofName s))).decode

end AccountEvent

inductive WalletEvent where
  | created (wallet : Wallet)
  | updated (wallet : Wallet)
  | deleted (account : AccountId)
deriving DecidableEq

namespace WalletEvent

def walletJson (kind : String) (w : Wallet) : Json := .obj [
  ("accountId", accountJson w.account),
  ("body", .obj [("credit", .ofUInt32 w.credit), ("points", .ofUInt32 w.points), ("prepaid", .ofUInt32 w.prepaid)]),
  ("type", .str kind)]

def toJson : WalletEvent → Json
  | created w => walletJson "CREATED" w
  | updated w => walletJson "UPDATED" w
  | deleted a => .obj [("accountId", accountJson a), ("type", .str "DELETED")]

def balances : Decoder (UInt32 × UInt32 × UInt32) :=
  ((fun c p q => (c, p, q)) <$> field "credit" uint32 <*> field "points" uint32 <*> field "prepaid" uint32).decode

def wallet : Record Json Wallet :=
  (fun a b => ⟨a, b.1, b.2.1, b.2.2⟩) <$> field "accountId" account <*> field "body" balances

def kinds : String → Option (Record Json WalletEvent)
  | "CREATED" => some (created <$> wallet)
  | "UPDATED" => some (updated <$> wallet)
  | "DELETED" => some (deleted <$> field "accountId" account)
  | _ => none

def decode : Decoder WalletEvent := tagged kinds none

end WalletEvent

inductive InventoryEvent where
  | created (account : AccountId)
  | deleted (account : AccountId)
deriving DecidableEq

namespace InventoryEvent

def toJson : InventoryEvent → Json
  | created a => .obj [("accountId", accountJson a), ("type", .str "CREATED")]
  | deleted a => .obj [("accountId", accountJson a), ("type", .str "DELETED")]

def kinds : String → Option (Record Json InventoryEvent)
  | "CREATED" => some (created <$> field "accountId" account)
  | "DELETED" => some (deleted <$> field "accountId" account)
  | _ => none

def decode : Decoder InventoryEvent := tagged kinds none

end InventoryEvent

end CashShop
