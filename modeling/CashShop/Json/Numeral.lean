import CashShop.Json

namespace CashShop.Json

structure Numeral where
  negative : Bool
  whole : List Char
  fraction : Option (List Char)
  exponent : Option (Bool × List Char)

namespace Numeral

def digitValue (c : Char) : Nat := c.toNat - 48

def maxSignificand : Nat := UInt64.size - 1

/-- The digits as far as they fit into 64 bits, and how many are left. -/
def significand : Nat → List Char → Nat × Nat
  | n, [] => (n, 0)
  | n, c :: cs =>
    let m := n * 10 + digitValue c
    if m ≤ maxSignificand then significand m cs else (n, cs.length + 1)

def tenTo (n : Nat) : Float := Float.ofScientific 1 false n

/-- Scales by a power of ten in one rounding step where the power is a double itself. -/
def scale (n : Nat) (e : Int) : Option Float :=
  let x := (UInt64.ofNat n).toFloat
  if n = 0 then some x
  else if 308 < e then none
  else if 0 ≤ e then
    let y := x * tenTo e.toNat
    if y.isInf then none else some y
  else if -308 ≤ e then some (x / tenTo (-e).toNat)
  else
    let y := x / tenTo 308
    if -616 ≤ e then some (y / tenTo (-e - 308).toNat) else some (y / tenTo 308)

def natOfDigits (cs : List Char) : Nat := cs.foldl (fun n c => n * 10 + digitValue c) 0

def toDouble? (t : Numeral) : Option Double :=
  let (n, dropped) := significand 0 t.whole
  let fraction := t.fraction.getD []
  let (m, unread) := significand n fraction
  let shift : Int := (dropped : Int) - (fraction.length - unread : Nat)
  let e := match t.exponent with
    | none => 0
    | some (true, ds) => -(natOfDigits ds : Int)
    | some (false, ds) => natOfDigits ds
  (scale m (shift + e)).map fun x => Double.ofFloat (if t.negative then -x else x)

/-- The integer that the token stands for, if it is one. -/
def toInt? (t : Numeral) : Option Int :=
  match t.fraction, t.exponent with
  | none, none =>
    let n := natOfDigits t.whole
    if t.negative then (if 0 < n ∧ n ≤ 1 <<< 63 then some (-n) else none)
    else if n ≤ maxSignificand then some n else none
  | _, _ => none

def toJson? (t : Numeral) : Option Json :=
  match t.toInt? with
  | some n => some (.int n)
  | none => t.toDouble?.map .double

end Numeral

end CashShop.Json
