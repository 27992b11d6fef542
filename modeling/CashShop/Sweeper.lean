import CashShop.Metrics
import CashShop.Reservation

namespace CashShop

structure Sweeper where
  interval : Nat
  clock : Nat
  due : Nat
deriving DecidableEq

namespace Sweeper

def start (interval : Nat) : Sweeper := ⟨interval, 0, interval⟩

/-- How late a tick may come without moving the next one. -/
def tolerance : Nat := 5

def advance (s : Sweeper) (ms : Nat) : Bool × Sweeper :=
  let clock := s.clock + ms
  if clock < s.due then (false, { s with clock })
  else
    let late := s.due + tolerance < clock
    (true, { s with clock, due := (if late then clock else s.due) + s.interval })

end Sweeper

def sweepCounted (rs : Reservations) (m : Metrics) (now : Instant) : Reservations × Metrics :=
  let r := rs.sweep now
  (r.2, m.add .reservationsExpired (.ofNat r.1))

def Sweeper.elapse (s : Sweeper) (ms : Nat) (rs : Reservations) (m : Metrics) (now : Instant) :
    Sweeper × Reservations × Metrics :=
  match s.advance ms with
  | (true, s') => (s', sweepCounted rs m now)
  | (false, s') => (s', rs, m)

end CashShop
