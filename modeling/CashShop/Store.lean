import CashShop.Error
import CashShop.Item
import CashShop.Wallet

namespace CashShop

structure Tables where
  wallets : Table AccountId Wallet
  items : Table ItemId Item
  lastItem : UInt32
  compartments : Table CompartmentId Compartment
  assets : List Asset
deriving DecidableEq

def Tables.empty : Tables := ⟨.empty, .empty, 0, .empty, []⟩

structure KeyWindow where
  capacity : Nat
  keys : List String
deriving DecidableEq

namespace KeyWindow

def ofCapacity (n : Nat) : KeyWindow := ⟨max n 1, []⟩

/-- Remembers a key and forgets the oldest ones beyond the capacity. -/
def record (w : KeyWindow) (key : String) : KeyWindow :=
  if key ∈ w.keys then w
  else
    let keys := w.keys ++ [key]
    { w with keys := keys.drop (keys.length - w.capacity) }

end KeyWindow

structure Store where
  tables : Tables
  window : KeyWindow
  faults : List FaultPoint
deriving DecidableEq

namespace Store

def ofKeyCapacity (n : Nat) : Store := ⟨.empty, .ofCapacity n, []⟩

def failOn (s : Store) (p : FaultPoint) : Store := { s with faults := p :: s.faults }

def clearFaults (s : Store) : Store := { s with faults := [] }

end Store

end CashShop
