namespace CashShop

inductive Topic where
  | accountStatus
  | shopCommand
  | shopStatus
  | compartmentCommand
  | compartmentStatus
  | inventoryStatus
  | itemCommand
  | itemStatus
  | characterCommand
  | characterStatus
  | walletStatus
deriving DecidableEq

namespace Topic

def all : List Topic :=
  [.accountStatus, .shopCommand, .shopStatus, .compartmentCommand, .compartmentStatus, .inventoryStatus,
    .itemCommand, .itemStatus, .characterCommand, .characterStatus, .walletStatus]

def name : Topic → String
  | accountStatus => "EVENT_TOPIC_ACCOUNT_STATUS"
  | shopCommand => "COMMAND_TOPIC_CASH_SHOP"
  | shopStatus => "EVENT_TOPIC_CASH_SHOP_STATUS"
  | compartmentCommand => "COMMAND_TOPIC_CASH_COMPARTMENT"
  | compartmentStatus => "EVENT_TOPIC_CASH_COMPARTMENT_STATUS"
  | inventoryStatus => "EVENT_TOPIC_CASH_INVENTORY_STATUS"
  | itemCommand => "COMMAND_TOPIC_CASH_ITEM"
  | itemStatus => "STATUS_TOPIC_CASH_ITEM"
  | characterCommand => "COMMAND_TOPIC_COMPARTMENT"
  | characterStatus => "EVENT_TOPIC_COMPARTMENT_STATUS"
  | walletStatus => "EVENT_TOPIC_WALLET_STATUS"

/-- The topics that the shop consumes, in the order in which its consumers are started. -/
def inbound : List Topic := [.accountStatus, .shopCommand, .compartmentCommand, .itemCommand, .characterStatus]

instance : ToString Topic := ⟨name⟩

end Topic

end CashShop
