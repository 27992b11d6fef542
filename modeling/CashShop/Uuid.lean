import CashShop.Hex

namespace CashShop

structure Uuid where
  bits : BitVec 128
deriving DecidableEq, Inhabited

namespace Uuid

def ofNat (n : Nat) : Uuid := ⟨BitVec.ofNat 128 n⟩

def toNat (u : Uuid) : Nat := u.bits.toNat

def groups : List Nat := [8, 4, 4, 4, 12]

def hyphenate : List Nat → List Char → List Char
  | [], cs => cs
  | [_], cs => cs
  | g :: gs, cs => cs.take g ++ '-' :: hyphenate gs (cs.drop g)

def unhyphenate : List Nat → List Char → Option (List Char)
  | [], cs => some cs
  | [_], cs => some cs
  | g :: gs, cs => match cs.drop g with
    | '-' :: rest => (unhyphenate gs rest).map (cs.take g ++ ·)
    | _ => none

def chars (u : Uuid) : List Char := hyphenate groups (Hex.digits 32 u.toNat)

def text (u : Uuid) : String := String.ofList u.chars

instance : ToString Uuid := ⟨text⟩

def ofDigits? (cs : List Char) : Option Uuid :=
  if cs.length = 32 then (Hex.value cs).map ofNat else none

def ofHyphenated? (cs : List Char) : Option Uuid :=
  if cs.length = 36 then (unhyphenate groups cs).bind ofDigits? else none

def ofChars? (cs : List Char) : Option Uuid :=
  if cs.length = 32 then ofDigits? cs
  else if cs.length = 36 then ofHyphenated? cs
  else if cs.length = 38 ∧ cs.head? = some '{' ∧ cs.getLast? = some '}' then ofHyphenated? (cs.drop 1).dropLast
  else if (cs.take 9).map Char.toLower = "urn:uuid:".toList then ofHyphenated? (cs.drop 9)
  else none

def parse? (s : String) : Option Uuid := ofChars? s.toList

theorem unhyphenate_hyphenate (gs : List Nat) (cs : List Char) (h : gs.foldr (· + ·) 0 ≤ cs.length) :
    unhyphenate gs (hyphenate gs cs) = some cs := by
  induction gs generalizing cs with
  | nil => rfl
  | cons g gs ih =>
    cases gs with
    | nil => rfl
    | cons g' gs =>
      have hg : g ≤ cs.length := by simp at h; omega
      have hl : (cs.take g).length = g := by simp [hg]
      have hd : (cs.take g ++ '-' :: hyphenate (g' :: gs) (cs.drop g)).drop g
          = '-' :: hyphenate (g' :: gs) (cs.drop g) := List.drop_left' hl
      have ht : (cs.take g ++ '-' :: hyphenate (g' :: gs) (cs.drop g)).take g = cs.take g := List.take_left' hl
      simp only [hyphenate, unhyphenate, hd, ht]
      rw [ih (cs.drop g) (by simp at h ⊢; omega)]
      simp

theorem length_hyphenate (gs : List Nat) (cs : List Char) :
    (hyphenate gs cs).length = cs.length + (gs.length - 1) := by
  induction gs generalizing cs with
  | nil => simp [hyphenate]
  | cons g gs ih =>
    cases gs with
    | nil => simp [hyphenate]
    | cons g' gs =>
      simp only [hyphenate, List.length_append, List.length_cons, ih, List.length_take, List.length_drop]
      simp; omega

theorem length_chars (u : Uuid) : u.chars.length = 36 := by
  simp [chars, length_hyphenate, Hex.length_digits, groups]

theorem ofChars?_chars (u : Uuid) : ofChars? u.chars = some u := by
  have hu : u.toNat < Nat.pow 16 32 := u.bits.isLt
  have hr : unhyphenate groups u.chars = some (Hex.digits 32 u.toNat) :=
    unhyphenate_hyphenate _ _ (by simp [Hex.length_digits, groups])
  simp only [ofChars?, length_chars, ofHyphenated?, hr, Option.bind_some, ofDigits?, Hex.length_digits,
    Hex.value_digits, Nat.mod_eq_of_lt hu]
  simp [ofNat, toNat]

theorem parse?_text (u : Uuid) : parse? u.text = some u := by
  simp [parse?, text, ofChars?_chars]

end Uuid

end CashShop
