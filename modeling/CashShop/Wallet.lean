import CashShop.Code
import CashShop.Id

namespace CashShop

structure Wallet where
  account : AccountId
  credit : UInt32
  points : UInt32
  prepaid : UInt32
deriving DecidableEq, Inhabited

namespace Wallet

def empty (a : AccountId) : Wallet := ⟨a, 0, 0, 0⟩

def balance (w : Wallet) : Currency → UInt32
  | .credit => w.credit
  | .points => w.points
  | .prepaid => w.prepaid

def setBalance (w : Wallet) (c : Currency) (n : UInt32) : Wallet :=
  match c with
  | .credit => { w with credit := n }
  | .points => { w with points := n }
  | .prepaid => { w with prepaid := n }

def canAfford (w : Wallet) (c : Currency) (amount : UInt32) : Bool := amount ≤ w.balance c

/-- Takes the amount from one lane. A lane that cannot cover it is left empty: whether it can is the caller's
question. -/
def spend (w : Wallet) (c : Currency) (amount : UInt32) : Wallet :=
  w.setBalance c (if amount ≤ w.balance c then w.balance c - amount else 0)

@[simp] theorem account_setBalance (w : Wallet) (c : Currency) (n : UInt32) :
    (w.setBalance c n).account = w.account := by cases c <;> rfl

@[simp] theorem account_spend (w : Wallet) (c : Currency) (amount : UInt32) :
    (w.spend c amount).account = w.account := account_setBalance w c _

@[simp] theorem balance_setBalance (w : Wallet) (c d : Currency) (n : UInt32) :
    (w.setBalance c n).balance d = if d = c then n else w.balance d := by cases c <;> cases d <;> rfl

theorem toNat_balance_spend {w : Wallet} {c : Currency} {amount : UInt32} (h : w.canAfford c amount = true)
    (d : Currency) :
    ((w.spend c amount).balance d).toNat = (w.balance d).toNat - if d = c then amount.toNat else 0 := by
  have hle : amount ≤ w.balance c := by simpa [canAfford] using h
  by_cases e : d = c
  · simp [spend, e, hle, UInt32.toNat_sub_of_le _ _ hle]
  · simp [spend, e]

end Wallet

end CashShop
