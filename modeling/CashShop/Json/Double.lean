namespace CashShop

structure Double where
  bits : UInt64
deriving DecidableEq, Inhabited

namespace Double

def ofFloat (x : Float) : Double := ⟨x.toBits⟩

def isNegative (d : Double) : Bool := d.bits >>> 63 == 1

def biasedExponent (d : Double) : Nat := (d.bits >>> 52).toNat % 2048

def fraction (d : Double) : Nat := d.bits.toNat % (1 <<< 52)

def mantissa (d : Double) : Nat := if d.biasedExponent = 0 then d.fraction else d.fraction + (1 <<< 52)

def exponent (d : Double) : Int := (max d.biasedExponent 1 : Nat) - (1075 : Int)

/-- The denominator and the numerators of the magnitude and of the two ends of the interval that rounds to it. -/
structure Span where
  den : Nat
  num : Nat
  low : Nat
  high : Nat
  closed : Bool

def span (d : Double) : Span :=
  let up := 1 <<< d.exponent.toNat
  let below := if d.fraction = 0 ∧ 1 < d.biasedExponent then 1 else 2
  { den := 4 <<< (-d.exponent).toNat
    num := 4 * d.mantissa * up
    low := (4 * d.mantissa - below) * up
    high := (4 * d.mantissa + 2) * up
    closed := d.mantissa % 2 = 0 }

def Span.holds (s : Span) (n : Nat) (e : Int) : Bool :=
  let x := n * Nat.pow 10 e.toNat * s.den
  let scale := Nat.pow 10 (-e).toNat
  if s.closed then s.low * scale ≤ x && x ≤ s.high * scale else s.low * scale < x && x < s.high * scale

/-- The distance of `n * 10 ^ e` from the magnitude, in a unit that depends on `e` alone. -/
def Span.distance (s : Span) (n : Nat) (e : Int) : Nat :=
  let x := n * Nat.pow 10 e.toNat * s.den
  let y := s.num * Nat.pow 10 (-e).toNat
  (x - y) + (y - x)

def Span.onGrid? (s : Span) (e : Int) : Option Nat :=
  let n := s.num * Nat.pow 10 (-e).toNat / (s.den * Nat.pow 10 e.toNat)
  match s.holds n e, s.holds (n + 1) e with
  | true, true => if s.distance (n + 1) e < s.distance n e then some (n + 1) else some n
  | true, false => some n
  | false, true => some (n + 1)
  | false, false => none

def Span.digits (s : Span) : Nat → Int → Nat × Int
  | 0, e => (s.num * Nat.pow 10 (-e).toNat / (s.den * Nat.pow 10 e.toNat), e)
  | fuel + 1, e => match s.onGrid? e with
    | some n => (n, e)
    | none => s.digits fuel (e - 1)

def stripZeros : Nat → Nat → Int → Nat × Int
  | 0, n, e => (n, e)
  | fuel + 1, n, e => if n ≠ 0 ∧ n % 10 = 0 then stripZeros fuel (n / 10) (e + 1) else (n, e)

def decimal (d : Double) : Nat × Int :=
  if d.mantissa = 0 then (0, 0)
  else
    let s := d.span
    let top : Int := (Nat.toDigits 10 (s.num / s.den)).length
    let start := if s.den ≤ s.num then top else -(Nat.toDigits 10 (s.den / s.num)).length + 1
    let r := s.digits 20 start
    stripZeros 20 r.1 r.2

/-- Positional text for magnitudes between 1e-5 and 1e16, scientific text beyond. -/
def chars (d : Double) : List Char :=
  let r := d.decimal
  let ds := Nat.toDigits 10 r.1
  let k := r.2
  let point : Int := ds.length + k
  let body : List Char :=
    if r.1 = 0 then ['0', '.', '0']
    else if 0 ≤ k ∧ point ≤ 16 then ds ++ List.replicate k.toNat '0' ++ ['.', '0']
    else if 0 < point ∧ point ≤ 16 then ds.take point.toNat ++ '.' :: ds.drop point.toNat
    else if -5 < point ∧ point ≤ 0 then ['0', '.'] ++ List.replicate (-point).toNat '0' ++ ds
    else
      let e := (toString (point - 1)).toList
      match ds with
      | [c] => c :: 'e' :: e
      | c :: cs => c :: '.' :: cs ++ 'e' :: e
      | [] => []
  if d.isNegative then '-' :: body else body

end Double

end CashShop
