import CashShop.Table

namespace CashShop

inductive Currency where
  | credit
  | points
  | prepaid
deriving DecidableEq

namespace Currency

def all : List Currency := [.credit, .points, .prepaid]

def code : Currency → UInt32
  | credit => 1
  | points => 2
  | prepaid => 4

def ofCode? (n : UInt32) : Option Currency := all.find? fun c => c.code = n

def name : Currency → String
  | credit => "CREDIT"
  | points => "POINTS"
  | prepaid => "PREPAID"

def title : Currency → String
  | credit => "Credit"
  | points => "Points"
  | prepaid => "Prepaid"

theorem ofCode?_code (c : Currency) : ofCode? c.code = some c := by cases c <;> rfl

theorem code_of_ofCode? {n : UInt32} {c : Currency} (h : ofCode? n = some c) : c.code = n := by
  simpa using List.find?_some h

end Currency

inductive ClassLine where
  | explorer
  | cygnus
  | legend
deriving DecidableEq

namespace ClassLine

def all : List ClassLine := [.explorer, .cygnus, .legend]

def code : ClassLine → UInt8
  | explorer => 1
  | cygnus => 2
  | legend => 3

def ofCode? (n : UInt8) : Option ClassLine := all.find? fun l => l.code = n

def name : ClassLine → String
  | explorer => "EXPLORER"
  | cygnus => "CYGNUS"
  | legend => "LEGEND"

/-- Jobs are grouped by thousands: the first group are explorers, the second knights of cygnus, all above legends. -/
def ofJob (job : UInt16) : ClassLine :=
  if job < 1000 then explorer else if job < 2000 then cygnus else legend

theorem ofCode?_code (l : ClassLine) : ofCode? l.code = some l := by cases l <;> rfl

end ClassLine

inductive Tab where
  | equip
  | use
  | setup
  | etc
  | cash
deriving DecidableEq

namespace Tab

def all : List Tab := [.equip, .use, .setup, .etc, .cash]

def code : Tab → UInt8
  | equip => 1
  | use => 2
  | setup => 3
  | etc => 4
  | cash => 5

def ofCode? (n : UInt8) : Option Tab := all.find? fun t => t.code = n

def name : Tab → String
  | equip => "EQUIP"
  | use => "USE"
  | setup => "SETUP"
  | etc => "ETC"
  | cash => "CASH"

def couponBase : Int := 9110000

/-- The tab whose coupons span the thousand templates around this one, or the number by which the template misses:
its distance below the first coupon, else the code that it would stand for. -/
def ofSlotCoupon (template : UInt32) : Except Int Tab :=
  let offset := (template.toNat : Int) - couponBase
  if offset < 0 then .error offset
  else
    let n := offset / 1000 + 1
    match all.find? fun t => (t.code.toNat : Int) = n with
    | some t => .ok t
    | none => .error n

theorem ofCode?_code (t : Tab) : ofCode? t.code = some t := by cases t <;> rfl

theorem code_of_ofCode? {n : UInt8} {t : Tab} (h : ofCode? n = some t) : t.code = n := by
  simpa using List.find?_some h

end Tab

instance : Key Tab where
  rank t := t.code.toNat
  rank_inj {a b} h := by cases a <;> cases b <;> first | rfl | (revert h; decide)

inductive ErrorCode where
  | unknownError
  | notEnoughCash
  | inventoryFull
  | itemNotFound
  | itemAlreadyReserved
  | assetCreationFailed
deriving DecidableEq

namespace ErrorCode

def all : List ErrorCode :=
  [.unknownError, .notEnoughCash, .inventoryFull, .itemNotFound, .itemAlreadyReserved, .assetCreationFailed]

def name : ErrorCode → String
  | unknownError => "UNKNOWN_ERROR"
  | notEnoughCash => "NOT_ENOUGH_CASH"
  | inventoryFull => "INVENTORY_FULL"
  | itemNotFound => "ITEM_NOT_FOUND"
  | itemAlreadyReserved => "ITEM_ALREADY_RESERVED"
  | assetCreationFailed => "ASSET_CREATION_FAILED"

end ErrorCode

end CashShop
