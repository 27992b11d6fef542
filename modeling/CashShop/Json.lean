import CashShop.Json.Double

namespace CashShop

inductive Json where
  | null
  | bool (b : Bool)
  | int (n : Int)
  | double (d : Double)
  | str (s : String)
  | arr (items : List Json)
  | obj (fields : List (String × Json))
deriving Inhabited

namespace Json

mutual

def beq : Json → Json → Bool
  | null, null => true
  | bool a, bool b => a == b
  | int a, int b => a == b
  | double a, double b => a == b
  | str a, str b => a == b
  | arr xs, arr ys => beqItems xs ys
  | obj xs, obj ys => beqFields xs ys
  | _, _ => false

def beqItems : List Json → List Json → Bool
  | [], [] => true
  | x :: xs, y :: ys => beq x y && beqItems xs ys
  | _, _ => false

def beqFields : List (String × Json) → List (String × Json) → Bool
  | [], [] => true
  | (j, x) :: xs, (k, y) :: ys => j == k && beq x y && beqFields xs ys
  | _, _ => false

end

mutual

theorem eq_of_beq : ∀ {a b : Json}, beq a b = true → a = b
  | null, b, h => by cases b <;> simp_all [beq]
  | bool _, b, h => by cases b <;> simp_all [beq]
  | int _, b, h => by cases b <;> simp_all [beq]
  | double _, b, h => by cases b <;> simp_all [beq]
  | str _, b, h => by cases b <;> simp_all [beq]
  | arr _, b, h => by
    cases b <;> simp [beq] at h
    rw [eq_of_beqItems h]
  | obj _, b, h => by
    cases b <;> simp [beq] at h
    rw [eq_of_beqFields h]

theorem eq_of_beqItems : ∀ {xs ys : List Json}, beqItems xs ys = true → xs = ys
  | [], ys, h => by cases ys <;> simp_all [beqItems]
  | x :: xs, ys, h => by
    cases ys with
    | nil => simp [beqItems] at h
    | cons y ys =>
      simp only [beqItems, Bool.and_eq_true] at h
      rw [eq_of_beq h.1, eq_of_beqItems h.2]

theorem eq_of_beqFields : ∀ {xs ys : List (String × Json)}, beqFields xs ys = true → xs = ys
  | [], ys, h => by cases ys <;> simp_all [beqFields]
  | (j, x) :: xs, ys, h => by
    cases ys with
    | nil => simp [beqFields] at h
    | cons y ys =>
      obtain ⟨k, y⟩ := y
      simp only [beqFields, Bool.and_eq_true, beq_iff_eq] at h
      rw [h.1.1, eq_of_beq h.1.2, eq_of_beqFields h.2]

end

mutual

theorem beq_refl : ∀ a : Json, beq a a = true
  | null => rfl
  | bool _ => by simp [beq]
  | int _ => by simp [beq]
  | double _ => by simp [beq]
  | str _ => by simp [beq]
  | arr xs => by rw [beq]; exact beqItems_refl xs
  | obj xs => by rw [beq]; exact beqFields_refl xs

theorem beqItems_refl : ∀ xs : List Json, beqItems xs xs = true
  | [] => rfl
  | x :: xs => by rw [beqItems, beq_refl x, beqItems_refl xs]; rfl

theorem beqFields_refl : ∀ xs : List (String × Json), beqFields xs xs = true
  | [] => rfl
  | (j, x) :: xs => by rw [beqFields, beq_refl x, beqFields_refl xs]; simp

end

instance : DecidableEq Json := fun a b =>
  if h : beq a b = true then isTrue (eq_of_beq h) else isFalse fun e => h (e ▸ beq_refl a)

def putField (k : String) (v : Json) : List (String × Json) → List (String × Json)
  | [] => [(k, v)]
  | (j, w) :: rest =>
    if k < j then (k, v) :: (j, w) :: rest
    else if k = j then (k, v) :: rest
    else (j, w) :: putField k v rest

/-- An object from fields in any order; of two with one key the later stays. -/
def object (fields : List (String × Json)) : Json := obj (fields.foldl (fun acc f => putField f.1 f.2 acc) [])

def get? (j : Json) (key : String) : Option Json :=
  match j with
  | obj fields => fields.lookup key
  | _ => none

def ofOption {α : Type} (f : α → Json) : Option α → Json
  | some a => f a
  | none => null

def ofUInt32 (n : UInt32) : Json := int n.toNat

end Json

end CashShop
