import CashShop.Hex

namespace CashShop.Toml

def isDigit (c : Char) : Bool := c.isDigit

def grouped (isDigit : Char → Bool) : List Char → Bool
  | [] => false
  | [c] => isDigit c
  | c :: '_' :: rest => isDigit c && grouped isDigit rest
  | c :: rest => isDigit c && grouped isDigit rest

def valueOf (base : Nat) (cs : List Char) : Nat :=
  (cs.filter (· != '_')).foldl (fun n c => n * base + (Hex.digitValue c).getD 0) 0

def splitSign : List Char → Bool × List Char
  | '-' :: cs => (true, cs)
  | '+' :: cs => (false, cs)
  | cs => (false, cs)

def isBinary (c : Char) : Bool := c == '0' || c == '1'

def isOctal (c : Char) : Bool := '0' ≤ c && c ≤ '7'

def isHex (c : Char) : Bool := (Hex.digitValue c).isSome

/-- A decimal integer has no leading zero. -/
def isDecimal (cs : List Char) : Bool := cs = ['0'] || (cs.head? != some '0' && grouped isDigit cs)

def based? (isDigit : Char → Bool) (base : Nat) (cs : List Char) : Option Int :=
  if grouped isDigit cs ∧ valueOf base cs ≤ Int64.maxValue.toInt then some (valueOf base cs) else none

def int? : List Char → Option Int
  | '0' :: 'x' :: cs => based? isHex 16 cs
  | '0' :: 'o' :: cs => based? isOctal 8 cs
  | '0' :: 'b' :: cs => based? isBinary 2 cs
  | cs =>
    let (negative, ds) := splitSign cs
    let n : Int := if negative then -(valueOf 10 ds : Int) else valueOf 10 ds
    if isDecimal ds ∧ Int64.minValue.toInt ≤ n ∧ n ≤ Int64.maxValue.toInt then some n else none

def overflows (n : Nat) (e : Int) : Bool :=
  let size := (Nat.toDigits 10 n).length + e
  if n = 0 ∨ size < 300 then false
  else if 320 < size then true
  else (1 <<< 1024 - 1 <<< 970) * Nat.pow 10 (-e).toNat ≤ n * Nat.pow 10 e.toNat

def isExponent (cs : List Char) : Bool := grouped isDigit (splitSign cs).2

/-- A float has a fraction or an exponent, or both, or a name. A positive one that is too large is refused. -/
def isFloat (cs : List Char) : Bool :=
  let (negative, cs) := splitSign cs
  let isMark (c : Char) : Bool := c == '.' || c == 'e' || c == 'E'
  let whole := cs.takeWhile (!isMark ·)
  let (fraction, rest) := match cs.dropWhile (!isMark ·) with
    | '.' :: r => (some (r.takeWhile (!isMark ·)), r.dropWhile (!isMark ·))
    | r => (none, r)
  let exponent := match rest with
    | [] => none
    | c :: r => if c == '.' then some ['.'] else some r
  let inRange (fraction exponent : List Char) : Bool :=
    let (down, ds) := splitSign exponent
    let e : Int := if down then -(valueOf 10 ds : Int) else valueOf 10 ds
    negative || !overflows (valueOf 10 (whole ++ fraction)) (e - (fraction.filter (· != '_')).length)
  if cs = ['i', 'n', 'f'] ∨ cs = ['n', 'a', 'n'] then true
  else if isDecimal whole then
    match fraction, exponent with
    | some f, some e => grouped isDigit f && isExponent e && inRange f e
    | some f, none => grouped isDigit f && inRange f []
    | none, some e => isExponent e && inRange [] e
    | none, none => false
  else false

def twoDigits (lo hi : Nat) : List Char → Option (List Char)
  | a :: b :: rest =>
    if a.isDigit ∧ b.isDigit ∧ lo ≤ valueOf 10 [a, b] ∧ valueOf 10 [a, b] ≤ hi then some rest else none
  | _ => none

def expect (c : Char) : List Char → Option (List Char)
  | d :: rest => if c = d then some rest else none
  | [] => none

def daysIn (year month : Nat) : Nat :=
  if month = 2 then (if year % 4 = 0 ∧ (year % 100 ≠ 0 ∨ year % 400 = 0) then 29 else 28)
  else if month = 4 ∨ month = 6 ∨ month = 9 ∨ month = 11 then 30 else 31

def afterDate (cs : List Char) : Option (List Char) := do
  let year := cs.take 4
  if year.length = 4 ∧ year.all Char.isDigit then
    let month ← expect '-' (cs.drop 4)
    let day ← (twoDigits 1 12 month).bind (expect '-')
    twoDigits 1 (daysIn (valueOf 10 year) (valueOf 10 (month.take 2))) day
  else none

def afterFraction : List Char → Option (List Char)
  | '.' :: rest => match rest with
    | c :: _ => if c.isDigit then some (rest.dropWhile Char.isDigit) else none
    | [] => none
  | cs => some cs

/-- A time of day, and what follows it. A minute may have a leap second. -/
def afterTime (cs : List Char) : Option (List Char) := do
  let minute ← (twoDigits 0 23 cs).bind (expect ':')
  let second ← (twoDigits 0 59 minute).bind (expect ':')
  (twoDigits 0 60 second).bind afterFraction

def isOffset : List Char → Bool
  | [] => true
  | ['Z'] | ['z'] => true
  | c :: rest => (c == '+' || c == '-') &&
    ((twoDigits 0 23 rest).bind (expect ':')).bind (twoDigits 0 59) == some []

def isClock (cs : List Char) : Bool := (afterTime cs).any isOffset

def isDay (cs : List Char) : Bool := afterDate cs == some []

def isDate (cs : List Char) : Bool :=
  afterTime cs == some [] ||
    match afterDate cs with
    | some [] => true
    | some (c :: rest) => (c == 'T' || c == 't') && isClock rest
    | none => false

end CashShop.Toml
