import CashShop.Id
import CashShop.Item

namespace CashShop

structure Reservation where
  claimant : CharacterId
  transaction : Option TransactionId
  expiresAt : Instant
deriving DecidableEq

def Reservation.isLive (r : Reservation) (now : Instant) : Bool := now < r.expiresAt

inductive Correlation where
  | matched (r : Reservation)
  | mismatched (r : Reservation)
  | missing
deriving DecidableEq

structure Reservations where
  ttl : Int
  entries : Table ItemId Reservation
deriving DecidableEq

namespace Reservations

/-- A time to live that does not fit into 63 bits counts as a year. -/
def ofTtl (ms : Nat) : Reservations := ⟨if ms ≤ Int64.maxValue.toInt then ms else 365 * 86400000, .empty⟩

def size (rs : Reservations) : Nat := rs.entries.size

def isEmpty (rs : Reservations) : Bool := rs.entries.isEmpty

def live? (rs : Reservations) (i : ItemId) (now : Instant) : Option Reservation :=
  (rs.entries.get? i).filter (·.isLive now)

def release (rs : Reservations) (i : ItemId) : Reservations := { rs with entries := rs.entries.erase i }

/-- Whether an item is reserved. An expired entry is dropped on the way. -/
def isReserved (rs : Reservations) (i : ItemId) (now : Instant) : Bool × Reservations :=
  match rs.live? i now with
  | some _ => (true, rs)
  | none => (false, rs.release i)

def reserve (rs : Reservations) (i : ItemId) (claimant : CharacterId) (t : Option TransactionId) (now : Instant) :
    Bool × Reservations :=
  match rs.live? i now with
  | some _ => (false, rs)
  | none => (true, { rs with entries := rs.entries.insert i ⟨claimant, t, now + rs.ttl⟩ })

/-- Whether an answer about transaction `t` may settle the reservation: unless both name a transaction, it may. -/
def Reservation.answeredBy (r : Reservation) (t : Option TransactionId) : Bool :=
  match r.transaction, t with
  | some live, some incoming => live = incoming
  | _, _ => true

def releaseMatching (rs : Reservations) (i : ItemId) (t : Option TransactionId) (now : Instant) :
    Correlation × Reservations :=
  match rs.live? i now with
  | none => (.missing, rs.release i)
  | some r => if Reservation.answeredBy r t then (.matched r, rs.release i) else (.mismatched r, rs)

def sweep (rs : Reservations) (now : Instant) : Nat × Reservations :=
  let kept := rs.entries.filter fun _ r => r.isLive now
  (rs.entries.size - kept.size, { rs with entries := kept })

end Reservations

end CashShop
