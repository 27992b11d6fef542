namespace CashShop.Hex

def digit (n : Nat) : Char := if n < 10 then Char.ofNat (n + 48) else Char.ofNat (n + 87)

def digitValue (c : Char) : Option Nat :=
  let n := c.toNat
  if 48 ≤ n ∧ n ≤ 57 then some (n - 48)
  else if 97 ≤ n ∧ n ≤ 102 then some (n - 87)
  else if 65 ≤ n ∧ n ≤ 70 then some (n - 55)
  else none

def digits : Nat → Nat → List Char
  | 0, _ => []
  | w + 1, n => digits w (n / 16) ++ [digit (n % 16)]

def valueFrom : Nat → List Char → Option Nat
  | n, [] => some n
  | n, c :: cs => match digitValue c with
    | some d => valueFrom (n * 16 + d) cs
    | none => none

def value (cs : List Char) : Option Nat := valueFrom 0 cs

theorem digitValue_digit {n : Nat} (h : n < 16) : digitValue (digit n) = some n := by
  have cases : ∀ k : Fin 16, digitValue (digit k.val) = some k.val := by decide
  exact cases ⟨n, h⟩

theorem length_digits (w n : Nat) : (digits w n).length = w := by
  induction w generalizing n with
  | zero => rfl
  | succ w ih => simp [digits, ih]

theorem valueFrom_append (n : Nat) (xs ys : List Char) :
    valueFrom n (xs ++ ys) = (valueFrom n xs).bind fun m => valueFrom m ys := by
  induction xs generalizing n with
  | nil => rfl
  | cons x xs ih => simp only [List.cons_append, valueFrom]; cases digitValue x <;> simp [ih]

theorem valueFrom_digits (w n m : Nat) : valueFrom m (digits w n) = some (m * Nat.pow 16 w + n % Nat.pow 16 w) := by
  induction w generalizing n with
  | zero => simp [digits, valueFrom, Nat.mod_one]
  | succ w ih =>
    simp only [digits, valueFrom_append, ih, Option.bind_some, valueFrom,
      digitValue_digit (Nat.mod_lt n (by decide : 0 < 16))]
    have grown : Nat.pow 16 (w + 1) = Nat.pow 16 w * 16 := rfl
    have split : n % Nat.pow 16 (w + 1) = n / 16 % Nat.pow 16 w * 16 + n % 16 := by
      rw [grown, Nat.mul_comm (Nat.pow 16 w) 16, Nat.mod_mul]; omega
    rw [split, grown, ← Nat.mul_assoc]
    congr 1; omega

theorem value_digits (w n : Nat) : value (digits w n) = some (n % Nat.pow 16 w) := by
  simp [value, valueFrom_digits]

end CashShop.Hex
