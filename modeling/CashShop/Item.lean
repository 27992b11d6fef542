import CashShop.Code
import CashShop.Id

namespace CashShop

/-- Milliseconds since the beginning of 1970. -/
abbrev Instant := Int

namespace Instant

def ofSeconds (s : Int) : Instant := s * 1000

def seconds (t : Instant) : Int := t.fdiv 1000

def day : Int := 86400000

/-- Dates reach from the beginning of the year -262143 to the end of the year 262142. -/
def earliest : Instant := -8334601228800000

def latest : Instant := 8210266876799999

def IsDated (t : Instant) : Prop := earliest ≤ t ∧ t ≤ latest

instance (t : Instant) : Decidable t.IsDated := inferInstanceAs (Decidable (_ ∧ _))

def addDays? (t : Instant) (days : Int) : Option Instant :=
  if IsDated (t + days * day) then some (t + days * day) else none

theorem addDays?_eq_some_iff {t e : Instant} {days : Int} :
    t.addDays? days = some e ↔ t + days * day = e ∧ e.IsDated := by
  unfold addDays?
  split
  next h => simpa using fun he : t + days * day = e => he ▸ h
  next h => simpa using fun he : t + days * day = e => he ▸ h

end Instant

structure NewItem where
  cashId : CashId
  template : TemplateId
  quantity : UInt32
  flag : UInt16
  purchasedBy : CharacterId
  expiration : Instant
deriving DecidableEq

structure Item extends NewItem where
  id : ItemId
deriving DecidableEq

structure Compartment where
  id : CompartmentId
  account : AccountId
  line : ClassLine
  capacity : UInt32
deriving DecidableEq

structure Asset where
  id : AssetId
  compartment : CompartmentId
  item : ItemId
deriving DecidableEq

end CashShop
