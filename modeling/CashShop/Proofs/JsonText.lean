import CashShop.Json.Printer
import CashShop.Json.Source
import Mathlib.Data.List.Basic

namespace CashShop.Json

open Source

theorem escape_cases (c : Char) :
    (∃ e, escape c = ['\\', e] ∧ 32 ≤ e.toNat ∧ e ≠ 'u' ∧ simpleEscape? e = some c) ∨
    (escape c = '\\' :: 'u' :: Hex.digits 4 c.toNat ∧ c.toNat < 32) ∨
    (escape c = [c] ∧ c ≠ '"' ∧ c ≠ '\\' ∧ 32 ≤ c.toNat) := by
  by_cases hown : c ∈ ['"', '\\', '\x08', '\x0c', '\n', '\r', '\t']
  · left
    simp only [List.mem_cons, List.not_mem_nil, or_false] at hown
    rcases hown with rfl | rfl | rfl | rfl | rfl | rfl | rfl <;> exact ⟨_, rfl, by decide, by decide, rfl⟩
  · right
    simp only [List.mem_cons, List.not_mem_nil, or_false, not_or] at hown
    obtain ⟨hquote, hslash, hb, hf, hn, hr, ht⟩ := hown
    rw [escape, if_neg hquote, if_neg hslash, if_neg hb, if_neg hf, if_neg hn, if_neg hr, if_neg ht]
    by_cases hcontrol : c.toNat < 32
    · exact .inl ⟨if_pos hcontrol, hcontrol⟩
    · exact .inr ⟨if_neg hcontrol, hquote, hslash, Nat.le_of_not_lt hcontrol⟩

theorem hex_digits_of_control {n : Nat} (h : n < 32) : ∃ a b c d, Hex.digits 4 n = [a, b, c, d] ∧
    Hex.value [a, b, c, d] = some n := by
  have hvalue := Hex.value_digits 4 n
  match hds : Hex.digits 4 n, Hex.length_digits 4 n with
  | [a, b, c, d], _ =>
    rw [hds] at hvalue
    exact ⟨a, b, c, d, rfl, hvalue.trans (congrArg some (Nat.mod_eq_of_lt (Nat.lt_trans h (by decide))))⟩

theorem join?_unit {n : Nat} (h : n < 0xD800) (ps : List Piece) :
    Piece.join? (.unit n :: ps) = (Piece.join? ps).map (Char.ofNat n :: ·) := by
  have halone : ¬ (0xD800 ≤ n ∧ n ≤ 0xDFFF) := by omega
  rcases ps with _ | ⟨c | l, ps⟩
  · rw [Piece.join?.eq_def]
    exact if_neg halone
  · rw [Piece.join?.eq_def]
    exact if_neg halone
  · have hhigh : ¬ (0xD800 ≤ n ∧ n ≤ 0xDBFF) := by omega
    have hlow : ¬ (0xDC00 ≤ n ∧ n ≤ 0xDFFF) := by omega
    rw [Piece.join?, if_neg hhigh, if_neg hlow]

/-- A character that was escaped is read as one piece, which stands for it. -/
theorem readPieces_escape (c : Char) (rest : List Char) : ∃ p : Piece,
    readPieces (escape c ++ rest) = (readPieces rest).map (fun r => (p :: r.1, r.2)) ∧
    ∀ ps, Piece.join? (p :: ps) = (Piece.join? ps).map (c :: ·) := by
  rcases escape_cases c with ⟨e, hescape, -, hu, he⟩ | ⟨hescape, hcontrol⟩ | ⟨hescape, hquote, hslash, hcontrol⟩
  · refine ⟨.char c, ?_, fun _ => rfl⟩
    rw [hescape, List.cons_append, List.cons_append, List.nil_append, readPieces, he]
    simp [hu]
  · obtain ⟨a, b, d, e, hdigits, hvalue⟩ := hex_digits_of_control hcontrol
    refine ⟨.unit c.toNat, ?_, fun ps => ?_⟩
    · rw [hescape, hdigits]
      simp only [List.cons_append, List.nil_append, readPieces, hvalue]
    · rw [join?_unit (Nat.lt_trans hcontrol (by decide)), Char.ofNat_toNat]
  · refine ⟨.char c, ?_, fun _ => rfl⟩
    rw [hescape, List.cons_append, List.nil_append, readPieces]
    · rw [if_neg (Nat.not_lt.2 hcontrol)]
    all_goals simp_all

theorem readPieces_escapes (cs rest : List Char) :
    ∃ ps, readPieces (cs.flatMap escape ++ '"' :: rest) = some (ps, rest) ∧ Piece.join? ps = some cs := by
  induction cs with
  | nil => exact ⟨[], rfl, rfl⟩
  | cons c cs ih =>
    obtain ⟨ps, hread, hjoin⟩ := ih
    obtain ⟨p, hc, hp⟩ := readPieces_escape c (cs.flatMap escape ++ '"' :: rest)
    refine ⟨p :: ps, ?_, ?_⟩
    · rw [List.flatMap_cons, List.append_assoc, hc, hread]
      rfl
    · rw [hp, hjoin]
      rfl

theorem readText_quoted (s : String) (rest : List Char) :
    readText (s.toList.flatMap escape ++ '"' :: rest) = some (some s, rest) := by
  obtain ⟨ps, hread, hjoin⟩ := readPieces_escapes s.toList rest
  rw [readText, hread, Option.map_some, hjoin, Option.map_some, String.ofList_toList]

def Ends (rest : List Char) : Prop := ∀ c, rest.head? = some c → isDigit c = false ∧ c ≠ '.' ∧ c ≠ 'e' ∧ c ≠ 'E'

theorem ends_nil : Ends [] := nofun

theorem ends_cons {c : Char} (h : c ∈ [',', ']', '}']) (rest : List Char) : Ends (c :: rest) := by
  intro d hd
  obtain rfl := Option.some.inj hd
  simp only [List.mem_cons, List.not_mem_nil, or_false] at h
  rcases h with rfl | rfl | rfl <;> decide

def digits (n : Nat) : List Char := Nat.toDigits 10 n

theorem digits_ne_nil (n : Nat) : digits n ≠ [] := Nat.toDigits_ne_nil

theorem isDigit_of_mem_digits {n : Nat} {c : Char} (h : c ∈ digits n) : isDigit c = true := by
  have hdigit := Char.isDigit_iff_toNat.1 (Nat.isDigit_of_mem_toDigits (by decide) (by decide) h)
  simpa [isDigit] using hdigit

theorem natOfDigits_digits (n : Nat) : Numeral.natOfDigits (digits n) = n := by
  have hvalue : Nat.ofDigitChars 10 (digits n) 0 = n := Nat.ofDigitChars_toDigits (by decide) (by decide)
  rw [Nat.ofDigitChars_eq_foldl] at hvalue
  simpa [Numeral.natOfDigits, Numeral.digitValue, Nat.mul_comm] using hvalue

/-- Only zero is written with a zero in front. -/
theorem eq_zero_of_head_digits (n : Nat) (h : (digits n).head? = some '0') : n = 0 := by
  induction n using Nat.strongRecOn with
  | ind n ih =>
    rw [digits, Nat.toDigits_eq_if (by decide)] at h
    split at h
    case isTrue => exact Nat.digitChar_eq_zero.1 (Option.some.inj h)
    case isFalse hlarge =>
      rw [List.head?_append_of_ne_nil _ Nat.toDigits_ne_nil] at h
      have hzero := ih (n / 10) (by omega) h
      omega

theorem toList_toString_int (n : Int) :
    (toString n).toList = if n < 0 then '-' :: digits n.natAbs else digits n.natAbs := by
  rw [Int.toString_eq_repr, Int.repr_eq_if]
  by_cases hn : n < 0
  · have hneg : ¬ 0 ≤ n := by omega
    have habs : (-n).toNat = n.natAbs := by omega
    simp [hn, hneg, habs, Nat.repr_eq_ofList_toDigits, digits]
  · have hnonneg : 0 ≤ n := by omega
    have habs : n.toNat = n.natAbs := by omega
    rw [if_neg hn, if_pos hnonneg, habs, Nat.repr_eq_ofList_toDigits, String.toList_ofList]
    rfl

def numeral (n : Int) : Numeral := ⟨decide (n < 0), digits n.natAbs, none, none⟩

variable {rest : List Char}

theorem takeWhile_digits (n : Nat) (h : Ends rest) :
    (digits n ++ rest).takeWhile isDigit = digits n ∧ (digits n ++ rest).dropWhile isDigit = rest := by
  have hdigits : ∀ c ∈ digits n, isDigit c = true := fun c => isDigit_of_mem_digits
  rw [List.takeWhile_append_of_pos hdigits, List.dropWhile_append_of_pos hdigits]
  cases rest with
  | nil => simp
  | cons c rest =>
    obtain ⟨hc, -⟩ := h c rfl
    simp [hc]

theorem readFraction_of_ends (h : Ends rest) : readFraction rest = some (none, rest) := by
  cases rest with
  | nil => rfl
  | cons c rest =>
    obtain ⟨-, hpoint, -⟩ := h c rfl
    unfold readFraction
    split
    case h_1 heq => exact absurd (List.cons.inj heq).1 hpoint
    case h_2 => rfl

theorem readExponent_of_ends (h : Ends rest) : readExponent rest = some (none, rest) := by
  cases rest with
  | nil => rfl
  | cons c rest =>
    obtain ⟨-, -, he, hE⟩ := h c rfl
    simp only [readExponent, he, hE, or_self, if_false]

theorem readNumeral_int (n : Int) (h : Ends rest) :
    readNumeral ((toString n).toList ++ rest) = some (numeral n, rest) := by
  obtain ⟨htake, hdrop⟩ := takeWhile_digits n.natAbs h
  have hwhole : ¬ ((digits n.natAbs).isEmpty ∨
      ((digits n.natAbs).head? = some '0' ∧ 1 < (digits n.natAbs).length)) := by
    rintro (hempty | ⟨hzero, hlong⟩)
    · exact digits_ne_nil _ (List.isEmpty_iff.1 hempty)
    · rw [eq_zero_of_head_digits _ hzero] at hlong
      exact absurd hlong (by decide)
  rw [toList_toString_int]
  by_cases hn : n < 0
  · rw [if_pos hn, List.cons_append]
    simp only [readNumeral, htake, hdrop, hwhole, if_false, readFraction_of_ends h, Option.bind_some,
      readExponent_of_ends h, Option.map_some, numeral, hn, decide_true]
  · have hminus : ∀ r, digits n.natAbs ++ rest ≠ '-' :: r := by
      intro r hr
      have hhead : (digits n.natAbs).head? = some '-' := by
        rw [← List.head?_append_of_ne_nil _ (digits_ne_nil _), hr]
        rfl
      exact absurd (isDigit_of_mem_digits (List.mem_of_mem_head? hhead)) (by decide)
    rw [if_neg hn, readNumeral]
    · simp only [htake, hdrop, hwhole, if_false, readFraction_of_ends h, Option.bind_some, readExponent_of_ends h,
        Option.map_some, numeral, hn, decide_false]
    · exact hminus

theorem toJson?_numeral {n : Int} (hlo : -9223372036854775808 ≤ n) (hhi : n < 18446744073709551616) :
    (numeral n).toJson? = some (.int n) := by
  have hint : (numeral n).toInt? = some n := by
    simp only [Numeral.toInt?, numeral, natOfDigits_digits, decide_eq_true_eq]
    have hmax : Numeral.maxSignificand = 18446744073709551615 := rfl
    have hmin : 1 <<< 63 = 9223372036854775808 := rfl
    rw [hmax, hmin]
    split
    case isTrue hn =>
      have hbound : 0 < n.natAbs ∧ n.natAbs ≤ 9223372036854775808 := by omega
      rw [if_pos hbound]
      congr 1
      omega
    case isFalse hn =>
      have hbound : n.natAbs ≤ 18446744073709551615 := by omega
      rw [if_pos hbound]
      congr 1
      omega
  rw [Numeral.toJson?, hint]

mutual

/-- A value without doubles that a text can give: its integers fit into 64 bits, and the keys of its objects ascend. -/
def isPlain : Json → Bool
  | null | bool _ | str _ => true
  | int n => decide (-9223372036854775808 ≤ n) && decide (n < 18446744073709551616)
  | double _ => false
  | arr items => isPlainItems items
  | obj fields => isPlainFields fields

def isPlainItems : List Json → Bool
  | [] => true
  | v :: vs => isPlain v && isPlainItems vs

def isPlainFields : List (String × Json) → Bool
  | [] => true
  | (k, v) :: fs => fs.all (fun f => k < f.1) && isPlain v && isPlainFields fs

end

mutual

def depth : Json → Nat
  | arr items => depthItems items + 1
  | obj fields => depthFields fields + 1
  | _ => 0

def depthItems : List Json → Nat
  | [] => 0
  | v :: vs => max (depth v) (depthItems vs)

def depthFields : List (String × Json) → Nat
  | [] => 0
  | (_, v) :: fs => max (depth v) (depthFields fs)

end

mutual

def source : Json → Source
  | null | double _ => .null
  | bool b => .bool b
  | int n => .num (numeral n)
  | str s => .str (some s)
  | arr items => .arr (sourceItems items)
  | obj fields => .obj (sourceFields fields)

def sourceItems : List Json → List Source
  | [] => []
  | v :: vs => source v :: sourceItems vs

def sourceFields : List (String × Json) → List (Option String × Source)
  | [] => []
  | (k, v) :: fs => (some k, source v) :: sourceFields fs

end

theorem skip_cons {c : Char} (h : isSpace c = false) (cs : List Char) : skip (c :: cs) = c :: cs :=
  List.dropWhile_cons_of_neg (by simp [h])

def Leads (c : Char) : Prop := c = '-' ∨ isDigit c = true

theorem exists_leads (n : Int) : ∃ c cs, (toString n).toList = c :: cs ∧ Leads c := by
  rw [toList_toString_int]
  by_cases hn : n < 0
  · exact ⟨'-', _, if_pos hn, .inl rfl⟩
  · obtain ⟨c, cs, hdigits⟩ := List.exists_cons_of_ne_nil (digits_ne_nil n.natAbs)
    exact ⟨c, cs, (if_neg hn).trans hdigits, .inr (isDigit_of_mem_digits (hdigits ▸ List.mem_cons_self))⟩

theorem Leads.not_mem {c : Char} (h : Leads c) : c ∉ [' ', '\t', '\n', '\r', 'n', 't', 'f', '"', '[', '{', ']'] := by
  intro hmem
  rcases h with rfl | h
  · revert hmem
    decide
  · simp only [List.mem_cons, List.not_mem_nil, or_false] at hmem
    rcases hmem with rfl | rfl | rfl | rfl | rfl | rfl | rfl | rfl | rfl | rfl | rfl <;> exact absurd h (by decide)

theorem Leads.not_space {c : Char} (h : Leads c) : isSpace c = false := by
  have hmem := h.not_mem
  simp only [List.mem_cons, not_or] at hmem
  simp [isSpace, hmem]

theorem readValue_of_leads {c : Char} (h : Leads c) (fuel : Nat) (cs : List Char) :
    readValue (fuel + 1) (c :: cs) = (readNumeral (c :: cs)).map fun r => (.num r.1, r.2) := by
  rw [readValue, skip_cons h.not_space]
  split
  case h_7 => rfl
  all_goals
    rename_i heq
    obtain ⟨rfl, -⟩ := List.cons.inj heq
    exact absurd (by decide) h.not_mem

section Steps

variable {fuel : Nat} {c : Char} {cs rest : List Char} {v : Source}

theorem readValue_quote : readValue (fuel + 1) ('"' :: cs) = (readText cs).map fun r => (.str r.1, r.2) := rfl

theorem readValue_bracket (hspace : isSpace c = false) (hclose : c ≠ ']') :
    readValue (fuel + 1) ('[' :: c :: cs) = (readItems fuel (c :: cs)).map fun r => (.arr r.1, r.2) := by
  rw [readValue, skip_cons (by decide)]
  simp only [skip_cons hspace]
  split
  case h_1 heq => exact absurd (List.cons.inj heq).1 hclose
  case h_2 => rfl

theorem readValue_brace :
    readValue (fuel + 1) ('{' :: '"' :: cs) = (readFields fuel ('"' :: cs)).map fun r => (.obj r.1, r.2) := rfl

theorem readItems_more (h : readValue fuel cs = some (v, ',' :: rest)) :
    readItems (fuel + 1) cs = (readItems fuel rest).map fun r => (v :: r.1, r.2) := by
  rw [readItems, h]
  rfl

theorem readItems_last (h : readValue fuel cs = some (v, ']' :: rest)) :
    readItems (fuel + 1) cs = some ([v], rest) := by
  rw [readItems, h]
  rfl

variable (k : String)

theorem key_append (cs : List Char) :
    quoteChars k ++ ':' :: cs = '"' :: (k.toList.flatMap escape ++ '"' :: ':' :: cs) := by
  simp [quoteChars]

theorem readFields_more (h : readValue fuel cs = some (v, ',' :: rest)) :
    readFields (fuel + 1) (quoteChars k ++ ':' :: cs) =
      (readFields fuel rest).map fun r => ((some k, v) :: r.1, r.2) := by
  simp +decide only [key_append, readFields, skip_cons, readText_quoted, h]

theorem readFields_last (h : readValue fuel cs = some (v, '}' :: rest)) :
    readFields (fuel + 1) (quoteChars k ++ ':' :: cs) = some ([(some k, v)], rest) := by
  simp +decide only [key_append, readFields, skip_cons, readText_quoted, h]

end Steps

theorem exists_head {v : Json} (h : v.isPlain = true) :
    ∃ c cs, v.chars = c :: cs ∧ isSpace c = false ∧ c ≠ ']' := by
  match v with
  | null => exact ⟨'n', _, rfl, by decide⟩
  | bool true => exact ⟨'t', _, rfl, by decide⟩
  | bool false => exact ⟨'f', _, rfl, by decide⟩
  | int n =>
    obtain ⟨c, cs, hchars, hc⟩ := exists_leads n
    refine ⟨c, cs, hchars, hc.not_space, ?_⟩
    rintro rfl
    exact absurd (by decide) hc.not_mem
  | double _ => cases h
  | str s => exact ⟨'"', _, rfl, by decide⟩
  | arr _ => exact ⟨'[', _, rfl, by decide⟩
  | obj _ => exact ⟨'{', _, rfl, by decide⟩

theorem itemChars_cons_cons (v w : Json) (vs : List Json) :
    itemChars (v :: w :: vs) = v.chars ++ ',' :: itemChars (w :: vs) := rfl

theorem fieldChars_cons_cons (k : String) (v : Json) (f : String × Json) (fs : List (String × Json)) :
    fieldChars ((k, v) :: f :: fs) = quoteChars k ++ ':' :: v.chars ++ ',' :: fieldChars (f :: fs) := rfl

theorem exists_itemChars {v : Json} {vs : List Json} (h : isPlainItems (v :: vs) = true) :
    ∃ c cs, itemChars (v :: vs) = c :: cs ∧ isSpace c = false ∧ c ≠ ']' := by
  rw [isPlainItems, Bool.and_eq_true] at h
  obtain ⟨c, cs, hhead, hc⟩ := exists_head h.1
  cases vs with
  | nil => exact ⟨c, cs, hhead, hc⟩
  | cons w vs => exact ⟨c, _, by rw [itemChars_cons_cons, hhead]; rfl, hc⟩

theorem exists_fieldChars (k : String) (v : Json) (fs : List (String × Json)) :
    ∃ cs, fieldChars ((k, v) :: fs) = '"' :: cs := by
  cases fs with
  | nil => exact ⟨_, rfl⟩
  | cons f fs => exact ⟨_, rfl⟩

theorem readValue_fields {k : String} {v : Json} {fs : List (String × Json)} {fuel : Nat} {rest : List Char}
    {ss : List (Option String × Source)}
    (h : readFields fuel (fieldChars ((k, v) :: fs) ++ '}' :: rest) = some (ss, rest)) :
    readValue (fuel + 1) (chars (.obj ((k, v) :: fs)) ++ rest) = some (.obj ss, rest) := by
  obtain ⟨cs, hhead⟩ := exists_fieldChars k v fs
  rw [chars, List.append_assoc, List.cons_append, List.singleton_append]
  rw [hhead, List.cons_append] at h ⊢
  rw [readValue_brace, h]
  rfl

theorem isPlain_of_mem_fields {fs : List (String × Json)} (h : isPlainFields fs = true) : ∀ f ∈ fs, isPlain f.2 = true := by
  induction fs with
  | nil => exact nofun
  | cons f fs ih =>
    rw [isPlainFields, Bool.and_eq_true, Bool.and_eq_true] at h
    exact List.forall_mem_cons.2 ⟨h.1.2, ih h.2⟩

mutual

/-- The text of a value is read to its end. -/
theorem readValue_chars : ∀ {v : Json} {fuel : Nat} {rest : List Char}, v.isPlain = true →
    2 * v.chars.length ≤ fuel + 1 → Ends rest → readValue fuel (v.chars ++ rest) = some (v.source, rest)
  | v, 0, _, h, hfuel, _ => by
    obtain ⟨c, cs, hchars, -⟩ := exists_head h
    rw [hchars, List.length_cons] at hfuel
    omega
  | null, fuel + 1, _, _, _, _ => rfl
  | bool true, fuel + 1, _, _, _, _ => rfl
  | bool false, fuel + 1, _, _, _, _ => rfl
  | int n, fuel + 1, _, _, _, hrest => by
    obtain ⟨c, cs, hchars, hc⟩ := exists_leads n
    rw [chars, hchars, List.cons_append, readValue_of_leads hc, ← List.cons_append, ← hchars, readNumeral_int n hrest]
    rfl
  | double d, fuel + 1, _, h, _, _ => by cases h
  | str s, fuel + 1, rest, _, _, _ => by
    rw [chars, quoteChars, List.cons_append, List.cons_append, List.append_assoc, readValue_quote, List.singleton_append,
      readText_quoted]
    rfl
  | arr [], fuel + 1, rest, h, hfuel, _ => rfl
  | arr (v :: vs), fuel + 1, rest, h, hfuel, _ => by
    have hitems : isPlainItems (v :: vs) = true := h
    obtain ⟨c, cs, hhead, hspace, hclose⟩ := exists_itemChars hitems
    have hlen : (chars (.arr (v :: vs))).length = (itemChars (v :: vs)).length + 2 := by simp [chars]
    have hread : readItems fuel (itemChars (v :: vs) ++ ']' :: rest) = _ := readItems_chars hitems (by omega)
    rw [chars, List.append_assoc, List.cons_append, List.singleton_append]
    rw [hhead, List.cons_append] at hread ⊢
    rw [readValue_bracket hspace hclose, hread]
    rfl
  | obj [], fuel + 1, rest, h, hfuel, _ => rfl
  | obj ((k, v) :: fs), fuel + 1, rest, h, hfuel, _ => by
    have hfields : ∀ f ∈ (k, v) :: fs, isPlain f.2 = true := isPlain_of_mem_fields h
    have hlen : (chars (.obj ((k, v) :: fs))).length = (fieldChars ((k, v) :: fs)).length + 2 := by simp [chars]
    exact readValue_fields (readFields_chars hfields (by omega))

theorem readItems_chars : ∀ {v : Json} {vs : List Json} {fuel : Nat} {rest : List Char},
    isPlainItems (v :: vs) = true → 2 * (itemChars (v :: vs)).length ≤ fuel →
    readItems fuel (itemChars (v :: vs) ++ ']' :: rest) = some (sourceItems (v :: vs), rest)
  | v, vs, 0, _, h, hfuel => by
    obtain ⟨c, cs, hhead, -⟩ := exists_itemChars h
    rw [hhead, List.length_cons] at hfuel
    omega
  | v, [], fuel + 1, rest, h, hfuel => by
    rw [isPlainItems, Bool.and_eq_true] at h
    rw [itemChars] at hfuel ⊢
    exact readItems_last (readValue_chars h.1 hfuel (ends_cons (by decide) rest))
  | v, w :: vs, fuel + 1, rest, h, hfuel => by
    rw [isPlainItems, Bool.and_eq_true] at h
    rw [itemChars_cons_cons, List.length_append, List.length_cons] at hfuel
    have hv : readValue fuel (v.chars ++ ',' :: (itemChars (w :: vs) ++ ']' :: rest)) = _ :=
      readValue_chars h.1 (by omega) (ends_cons (by decide) _)
    rw [itemChars_cons_cons, List.append_assoc, List.cons_append, readItems_more hv, readItems_chars h.2 (by omega)]
    rfl

theorem readFields_chars : ∀ {k : String} {v : Json} {fs : List (String × Json)} {fuel : Nat} {rest : List Char},
    (∀ f ∈ (k, v) :: fs, isPlain f.2 = true) → 2 * (fieldChars ((k, v) :: fs)).length ≤ fuel →
    readFields fuel (fieldChars ((k, v) :: fs) ++ '}' :: rest) = some (sourceFields ((k, v) :: fs), rest)
  | k, v, fs, 0, _, _, hfuel => by
    obtain ⟨cs, hhead⟩ := exists_fieldChars k v fs
    rw [hhead, List.length_cons] at hfuel
    omega
  | k, v, [], fuel + 1, rest, h, hfuel => by
    rw [fieldChars, List.length_append, List.length_cons] at hfuel
    have hv : readValue fuel (v.chars ++ '}' :: rest) = _ :=
      readValue_chars (h (k, v) List.mem_cons_self) (by omega) (ends_cons (by decide) rest)
    rw [fieldChars, List.append_assoc, List.cons_append, readFields_last k hv]
    rfl
  | k, v, (j, w) :: fs, fuel + 1, rest, h, hfuel => by
    rw [fieldChars_cons_cons, List.length_append, List.length_append, List.length_cons, List.length_cons] at hfuel
    have hv : readValue fuel (v.chars ++ ',' :: (fieldChars ((j, w) :: fs) ++ '}' :: rest)) = _ :=
      readValue_chars (h (k, v) List.mem_cons_self) (by omega) (ends_cons (by decide) _)
    rw [fieldChars_cons_cons, List.append_assoc, List.append_assoc, List.cons_append, List.cons_append,
      readFields_more k hv, readFields_chars (fun f hf => h f (List.mem_cons_of_mem _ hf)) (by omega)]
    rfl

end

theorem ofChars?_of_readValue {cs : List Char} {s : Source} (h : readValue (2 * cs.length + 2) (cs ++ []) = some (s, [])) :
    ofChars? cs = some s := by
  rw [List.append_nil] at h
  rw [ofChars?, h]
  rfl

theorem ofChars?_chars {v : Json} (h : v.isPlain = true) : ofChars? v.chars = some v.source :=
  ofChars?_of_readValue (readValue_chars h (by omega) ends_nil)

theorem ofChars?_fields {fs : List (String × Json)} (h : ∀ f ∈ fs, isPlain f.2 = true) :
    ofChars? (chars (.obj fs)) = some (.obj (sourceFields fs)) := by
  cases fs with
  | nil => rfl
  | cons f fs =>
    obtain ⟨k, v⟩ := f
    have hlen : (chars (.obj ((k, v) :: fs))).length = (fieldChars ((k, v) :: fs)).length + 2 := by simp [chars]
    exact ofChars?_of_readValue (readValue_fields (readFields_chars h (by omega)))

theorem putField_last {k : String} {acc : List (String × Json)} (h : ∀ f ∈ acc, f.1 < k) (v : Json) :
    putField k v acc = acc ++ [(k, v)] := by
  induction acc with
  | nil => rfl
  | cons f acc ih =>
    have hlt := h f List.mem_cons_self
    have hne : k ≠ f.1 := by
      rintro rfl
      exact String.lt_irrefl _ hlt
    rw [putField, if_neg (String.lt_asymm hlt), if_neg hne, ih fun g hg => h g (List.mem_cons_of_mem f hg)]
    rfl

theorem object_of_ascending {fs : List (String × Json)} (h : fs.Pairwise (·.1 < ·.1)) : object fs = .obj fs := by
  have hbuild : ∀ acc, (acc ++ fs).Pairwise (·.1 < ·.1) →
      fs.foldl (fun acc f => putField f.1 f.2 acc) acc = acc ++ fs := by
    induction fs with
    | nil => exact fun acc _ => (List.append_nil acc).symm
    | cons f fs ih =>
      intro acc hacc
      have hlast : ∀ g ∈ acc, g.1 < f.1 := fun g hg => (List.pairwise_append.1 hacc).2.2 g hg f List.mem_cons_self
      rw [List.foldl_cons, putField_last hlast, ih h.tail _ (by simpa using hacc)]
      simp
  exact congrArg Json.obj (hbuild [] h)

theorem ascending_of_isPlain {fs : List (String × Json)} (h : isPlainFields fs = true) : fs.Pairwise (·.1 < ·.1) := by
  induction fs with
  | nil => exact .nil
  | cons f fs ih =>
    rw [isPlainFields, Bool.and_eq_true, Bool.and_eq_true, List.all_eq_true] at h
    exact .cons (fun g hg => of_decide_eq_true (h.1.1 g hg)) (ih h.2)

mutual

/-- A value that does not nest too deep is taken as it is. -/
theorem toJson?_source : ∀ {v : Json} {room : Nat}, v.isPlain = true → v.depth ≤ room → v.source.toJson? room = some v
  | null, _, _, _ => by rw [source, toJson?]
  | bool _, _, _, _ => by rw [source, toJson?]
  | int n, _, h, _ => by
    rw [isPlain, Bool.and_eq_true, decide_eq_true_eq, decide_eq_true_eq] at h
    rw [source, toJson?, toJson?_numeral h.1 h.2]
  | double _, _, h, _ => by cases h
  | str _, _, _, _ => by rw [source, toJson?, Option.map_some]
  | arr vs, 0, _, hroom => by cases hroom
  | arr vs, room + 1, h, hroom => by
    rw [source, toJson?, if_neg (by omega), Nat.add_sub_cancel,
      itemsToJson?_source h (Nat.le_of_succ_le_succ hroom), Option.map_some]
  | obj fs, 0, _, hroom => by cases hroom
  | obj fs, room + 1, h, hroom => by
    rw [source, toJson?, if_neg (by omega), Nat.add_sub_cancel,
      fieldsToJson?_source h (Nat.le_of_succ_le_succ hroom), Option.map_some, object_of_ascending (ascending_of_isPlain h)]

theorem itemsToJson?_source : ∀ {vs : List Json} {room : Nat}, isPlainItems vs = true → depthItems vs ≤ room →
    itemsToJson? room (sourceItems vs) = some vs
  | [], _, _, _ => by rw [sourceItems, itemsToJson?]
  | v :: vs, room, h, hroom => by
    rw [isPlainItems, Bool.and_eq_true] at h
    rw [depthItems, Nat.max_le] at hroom
    rw [sourceItems, itemsToJson?, toJson?_source h.1 hroom.1, itemsToJson?_source h.2 hroom.2]

theorem fieldsToJson?_source : ∀ {fs : List (String × Json)} {room : Nat}, isPlainFields fs = true →
    depthFields fs ≤ room → fieldsToJson? room (sourceFields fs) = some fs
  | [], _, _, _ => by rw [sourceFields, fieldsToJson?]
  | (k, v) :: fs, room, h, hroom => by
    rw [isPlainFields, Bool.and_eq_true, Bool.and_eq_true] at h
    rw [depthFields, Nat.max_le] at hroom
    simp only [sourceFields, fieldsToJson?, toJson?_source h.1.2 hroom.1, fieldsToJson?_source h.2 hroom.2]

end

mutual

/-- A value that nests too deep is not taken at all. -/
theorem toJson?_source_of_deep : ∀ {v : Json} {room : Nat}, room < v.depth → v.source.toJson? room = none
  | null, _, h | bool _, _, h | int _, _, h | double _, _, h | str _, _, h => by cases h
  | arr vs, 0, _ => by rw [source, toJson?, if_pos rfl]
  | arr vs, room + 1, h => by
    rw [source, toJson?, if_neg (by omega), Nat.add_sub_cancel,
      itemsToJson?_source_of_deep (Nat.lt_of_succ_lt_succ h), Option.map_none]
  | obj fs, 0, _ => by rw [source, toJson?, if_pos rfl]
  | obj fs, room + 1, h => by
    rw [source, toJson?, if_neg (by omega), Nat.add_sub_cancel,
      fieldsToJson?_source_of_deep (Nat.lt_of_succ_lt_succ h), Option.map_none]

theorem itemsToJson?_source_of_deep : ∀ {vs : List Json} {room : Nat}, room < depthItems vs →
    itemsToJson? room (sourceItems vs) = none
  | [], _, h => by cases h
  | v :: vs, room, h => by
    have hdeep : room < v.depth ∨ room < depthItems vs := by rw [depthItems] at h; omega
    rw [sourceItems, itemsToJson?]
    rcases hdeep with h | h
    · rw [toJson?_source_of_deep h]
    · rw [itemsToJson?_source_of_deep h]
      cases toJson? room v.source <;> rfl

theorem fieldsToJson?_source_of_deep : ∀ {fs : List (String × Json)} {room : Nat}, room < depthFields fs →
    fieldsToJson? room (sourceFields fs) = none
  | [], _, h => by cases h
  | (k, v) :: fs, room, h => by
    have hdeep : room < v.depth ∨ room < depthFields fs := by rw [depthFields] at h; omega
    rw [sourceFields, fieldsToJson?.eq_def]
    rcases hdeep with h | h
    · simp only [toJson?_source_of_deep h]
    · simp only [fieldsToJson?_source_of_deep h]
      cases toJson? room v.source <;> rfl

end

def Printable (cs : List Char) : Prop := ∀ c ∈ cs, 32 ≤ c.toNat

instance (cs : List Char) : Decidable (Printable cs) := List.decidableBAll _ cs

theorem printable_append {cs ds : List Char} (hc : Printable cs) (hd : Printable ds) : Printable (cs ++ ds) :=
  List.forall_mem_append.2 ⟨hc, hd⟩

theorem printable_cons {c : Char} {cs : List Char} (hc : 32 ≤ c.toNat) (hcs : Printable cs) : Printable (c :: cs) :=
  List.forall_mem_cons.2 ⟨hc, hcs⟩

theorem printable_hex (w n : Nat) : Printable (Hex.digits w n) := by
  induction w generalizing n with
  | zero => exact nofun
  | succ w ih =>
    refine printable_append (ih _) (printable_cons ?_ nofun)
    have hall : ∀ d : Fin 16, 32 ≤ (Hex.digit d.val).toNat := by decide
    exact hall ⟨n % 16, Nat.mod_lt _ (by decide)⟩

theorem printable_escape (c : Char) : Printable (escape c) := by
  rcases escape_cases c with ⟨e, hescape, he, -⟩ | ⟨hescape, -⟩ | ⟨hescape, -, -, hc⟩
  · rw [hescape]
    exact printable_cons (by decide) (printable_cons he nofun)
  · rw [hescape]
    exact printable_cons (by decide) (printable_cons (by decide) (printable_hex 4 _))
  · rw [hescape]
    exact printable_cons hc nofun

theorem printable_quoteChars (s : String) : Printable (quoteChars s) := by
  refine printable_append (printable_cons (by decide) ?_) (printable_cons (by decide) nofun)
  intro d hd
  obtain ⟨c, -, hc⟩ := List.mem_flatMap.1 hd
  exact printable_escape c d hc

theorem printable_int (n : Int) : Printable (toString n).toList := by
  have hdigits : Printable (digits n.natAbs) := by
    intro c hc
    have hdigit := isDigit_of_mem_digits hc
    simp only [isDigit, Bool.and_eq_true, decide_eq_true_eq] at hdigit
    omega
  rw [toList_toString_int]
  split
  · exact printable_cons (by decide) hdigits
  · exact hdigits

theorem printable_braces {fs : List (String × Json)} (h : Printable (fieldChars fs)) : Printable (chars (.obj fs)) :=
  printable_append (printable_cons (by decide) h) (printable_cons (by decide) nofun)

mutual

theorem printable_chars : ∀ {v : Json}, v.isPlain = true → Printable v.chars
  | null, _ => by decide
  | bool true, _ => by decide
  | bool false, _ => by decide
  | int n, _ => printable_int n
  | double _, h => by cases h
  | str s, _ => printable_quoteChars s
  | arr vs, h =>
    printable_append (printable_cons (by decide) (printable_itemChars h)) (printable_cons (by decide) nofun)
  | obj fs, h => printable_braces (printable_fieldChars (isPlain_of_mem_fields h))

theorem printable_itemChars : ∀ {vs : List Json}, isPlainItems vs = true → Printable (itemChars vs)
  | [], _ => nofun
  | [v], h => by
    rw [isPlainItems, Bool.and_eq_true] at h
    exact printable_chars h.1
  | v :: w :: vs, h => by
    rw [isPlainItems, Bool.and_eq_true] at h
    exact printable_append (printable_chars h.1) (printable_cons (by decide) (printable_itemChars h.2))

theorem printable_fieldChars : ∀ {fs : List (String × Json)}, (∀ f ∈ fs, isPlain f.2 = true) → Printable (fieldChars fs)
  | [], _ => nofun
  | [(k, v)], h =>
    printable_append (printable_quoteChars k) (printable_cons (by decide) (printable_chars (h (k, v) List.mem_cons_self)))
  | (k, v) :: f :: fs, h =>
    printable_append
      (printable_append (printable_quoteChars k)
        (printable_cons (by decide) (printable_chars (h (k, v) List.mem_cons_self))))
      (printable_cons (by decide) (printable_fieldChars fun g hg => h g (List.mem_cons_of_mem _ hg)))

end

theorem printable_object {fs : List (String × Json)} (h : ∀ f ∈ fs, isPlain f.2 = true) : Printable (chars (.obj fs)) :=
  printable_braces (printable_fieldChars h)

end CashShop.Json
