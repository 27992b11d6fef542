import CashShop.Table
import CashShop.Uuid

namespace CashShop

structure AccountId where
  val : UInt32
deriving DecidableEq, Inhabited

structure CharacterId where
  val : UInt32
deriving DecidableEq, Inhabited

structure ItemId where
  val : UInt32
deriving DecidableEq, Inhabited

structure CashId where
  val : Int64
deriving DecidableEq, Inhabited

structure SerialNumber where
  val : UInt32
deriving DecidableEq, Inhabited

structure TemplateId where
  val : UInt32
deriving DecidableEq, Inhabited

structure CompartmentId where
  val : Uuid
deriving DecidableEq, Inhabited

structure AssetId where
  val : Uuid
deriving DecidableEq, Inhabited

structure TransactionId where
  val : Uuid
deriving DecidableEq, Inhabited

instance : ToString AccountId := ⟨fun a => toString a.val⟩

instance : ToString CharacterId := ⟨fun c => toString c.val⟩

instance : ToString ItemId := ⟨fun i => toString i.val⟩

instance : ToString CashId := ⟨fun c => toString c.val⟩

instance : ToString SerialNumber := ⟨fun s => toString s.val⟩

instance : ToString CompartmentId := ⟨fun c => c.val.text⟩

instance : Key AccountId where
  rank a := a.val.toNat
  rank_inj h := congrArg AccountId.mk (UInt32.toNat.inj h)

instance : Key CharacterId where
  rank c := c.val.toNat
  rank_inj h := congrArg CharacterId.mk (UInt32.toNat.inj h)

instance : Key ItemId where
  rank i := i.val.toNat
  rank_inj h := congrArg ItemId.mk (UInt32.toNat.inj h)

instance : Key SerialNumber where
  rank s := s.val.toNat
  rank_inj h := congrArg SerialNumber.mk (UInt32.toNat.inj h)

instance : Key CompartmentId where
  rank c := c.val.toNat
  rank_inj h := congrArg (fun u => CompartmentId.mk ⟨u⟩) (BitVec.eq_of_toNat_eq h)

end CashShop
