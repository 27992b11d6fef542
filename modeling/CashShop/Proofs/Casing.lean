import CashShop.Proofs.Trimming
import CashShop.Text

namespace CashShop.Text

variable {cs : List Char} {c d : Char}

def marks : List Nat → Nat
  | [] => 0
  | n :: ns => marks ns ||| 1 <<< n

theorem testBit_marks {ns : List Nat} {n : Nat} (h : n ∈ ns) : (marks ns).testBit n = true := by
  induction ns with
  | nil => cases h
  | cons m ns ih =>
    rw [marks, Nat.testBit_or]
    rcases List.mem_cons.1 h with rfl | h
    · simp [Nat.testBit_shiftLeft]
    · rw [ih h, Bool.true_or]

abbrev Run := Nat × Nat × Nat × Nat

def Run.covers (r : Run) (n : Nat) : Bool := r.1 ≤ n && n ≤ r.2.1 && (n - r.1) % r.2.2.1 == 0

def Run.offsets (r : Run) : List Nat := (List.range ((r.2.1 - r.1) / r.2.2.1 + 1)).map (r.2.2.1 * ·)

def capitals : List Nat := lowerRuns.flatMap fun r => (Run.offsets r).map (r.1 + ·)

def lowerForms : List Nat := lowerRuns.flatMap fun r => (Run.offsets r).map (r.2.2.2 + ·)

theorem marks_disjoint : marks capitals &&& marks lowerForms = 0 := by
  decide +kernel

theorem not_capital {n : Nat} (h : n ∈ lowerForms) : n ∉ capitals := by
  intro hn
  have hboth : (marks capitals &&& marks lowerForms).testBit n = true := by
    rw [Nat.testBit_and, testBit_marks hn, testBit_marks h]
    rfl
  rw [marks_disjoint, Nat.zero_testBit] at hboth
  cases hboth

def Run.isTame (r : Run) : Bool :=
  let first := r.2.2.2
  let last := r.2.2.2 + (r.2.1 - r.1)
  (last < 0xD800 || (0xDFFF < first && last < 0x110000)) && (last < 0x130 || 0x130 < first) &&
    ((0x20 < first && last < 0x85) || (0xA0 < first && last < 0x1680) || (0x1680 < first && last < 0x2000) ||
      (0x205F < first && last < 0x3000) || 0x3000 < first)

theorem isTame_lowerRuns : ∀ r ∈ lowerRuns, Run.isTame r = true := by decide +kernel

variable {r : Run} {n : Nat}

theorem mem_offsets (h : r.covers n = true) : n - r.1 ∈ r.offsets := by
  simp only [Run.covers, Bool.and_eq_true, decide_eq_true_eq, beq_iff_eq] at h
  obtain ⟨⟨-, hlast⟩, hstep⟩ := h
  refine List.mem_map.2 ⟨(n - r.1) / r.2.2.1, List.mem_range.2 ?_, Nat.mul_div_cancel' (Nat.dvd_of_mod_eq_zero hstep)⟩
  exact Nat.lt_succ_of_le (Nat.div_le_div_right (Nat.sub_le_sub_right hlast r.1))

theorem mem_capitals (hr : r ∈ lowerRuns) (h : r.covers n = true) : n ∈ capitals := by
  refine List.mem_flatMap.2 ⟨r, hr, List.mem_map.2 ⟨n - r.1, mem_offsets h, ?_⟩⟩
  simp only [Run.covers, Bool.and_eq_true, decide_eq_true_eq] at h
  omega

theorem mem_lowerForms (hr : r ∈ lowerRuns) (h : r.covers n = true) : r.2.2.2 + (n - r.1) ∈ lowerForms :=
  List.mem_flatMap.2 ⟨r, hr, List.mem_map.2 ⟨n - r.1, mem_offsets h, rfl⟩⟩

theorem lowerChar_eq (c : Char) : lowerChar c =
    match lowerRuns.find? (Run.covers · c.toNat) with
    | some r => Char.ofNat (r.2.2.2 + (c.toNat - r.1))
    | none => c := rfl

theorem lowerChar_of_not_capital (h : c.toNat ∉ capitals) : lowerChar c = c := by
  have hnone : lowerRuns.find? (Run.covers · c.toNat) = none :=
    List.find?_eq_none.2 fun _ hr hcovers => h (mem_capitals hr hcovers)
  rw [lowerChar_eq, hnone]

theorem toNat_ofNat (h : n.isValidChar) : (Char.ofNat n).toNat = n := by
  rw [Char.ofNat, dif_pos h]
  rfl

/-- Lowering leaves the character as it is, wherever it stands. -/
structure Settled (c : Char) : Prop where
  notSigma : c ≠ capitalSigma
  notDotted : c ≠ 'İ'
  lower : lowerChar c = c

theorem Run.form_of_isTame (h : Run.isTame r = true) (hcovers : r.covers n = true) :
    (r.2.2.2 + (n - r.1)).isValidChar ∧ r.2.2.2 + (n - r.1) ≠ 'İ'.toNat ∧
      isBlank (Char.ofNat (r.2.2.2 + (n - r.1))) = false := by
  simp only [Run.covers, Bool.and_eq_true, decide_eq_true_eq] at hcovers
  have hle : n - r.1 ≤ r.2.1 - r.1 := Nat.sub_le_sub_right hcovers.1.2 r.1
  simp only [Run.isTame, Bool.and_eq_true, Bool.or_eq_true, decide_eq_true_eq] at h
  obtain ⟨⟨hchar, hdotted⟩, hblank⟩ := h
  generalize n - r.1 = k at hle
  generalize r.2.1 - r.1 = span at *
  generalize r.2.2.2 = first at *
  have hvalid : (first + k).isValidChar := by
    unfold Nat.isValidChar
    omega
  refine ⟨hvalid, ?_, ?_⟩
  · rw [show 'İ'.toNat = 0x130 from rfl]
    omega
  · simp only [isBlank, toNat_ofNat hvalid, Bool.or_eq_false_iff, Bool.and_eq_false_iff, decide_eq_false_iff_not,
      beq_eq_false_iff_ne]
    omega

theorem settled_of_mem_lowerForms (h : n ∈ lowerForms) (hvalid : n.isValidChar) (hdotted : n ≠ 'İ'.toNat) :
    Settled (Char.ofNat n) where
  notSigma hsigma := by
    have hn : n = capitalSigma.toNat := by rw [← hsigma, toNat_ofNat hvalid]
    exact not_capital h (hn ▸ by decide +kernel)
  notDotted heq := hdotted (by rw [← heq, toNat_ofNat hvalid])
  lower := lowerChar_of_not_capital (by rw [toNat_ofNat hvalid]; exact not_capital h)

theorem settled_lowerChar (hsigma : c ≠ capitalSigma) (hdotted : c ≠ 'İ') :
    Settled (lowerChar c) ∧ (isBlank c = false → isBlank (lowerChar c) = false) := by
  cases hr : lowerRuns.find? (Run.covers · c.toNat) with
  | none =>
    have hsame : lowerChar c = c := by rw [lowerChar_eq, hr]
    rw [hsame]
    exact ⟨⟨hsigma, hdotted, hsame⟩, id⟩
  | some r =>
    have hmem := List.mem_of_find?_eq_some hr
    have hcovers : r.covers c.toNat = true := by simpa using List.find?_some hr
    obtain ⟨hvalid, hform, hblank⟩ := Run.form_of_isTame (isTame_lowerRuns r hmem) hcovers
    rw [lowerChar_eq, hr]
    exact ⟨settled_of_mem_lowerForms (mem_lowerForms hmem hcovers) hvalid hform, fun _ => hblank⟩

def lowerAt (before : List Char) (c : Char) (rest : List Char) : List Char :=
  if c = capitalSigma then [if meetsCased before && !meetsCased rest then 'ς' else 'σ']
  else if c = 'İ' then ['i', '\u0307']
  else [lowerChar c]

theorem lowerFrom_cons (before : List Char) (c : Char) (rest : List Char) :
    lowerFrom before (c :: rest) = lowerAt before c rest ++ lowerFrom (c :: before) rest := rfl

theorem lowerAt_ne_nil (before : List Char) (c : Char) (rest : List Char) : lowerAt before c rest ≠ [] := by
  unfold lowerAt
  split
  · simp
  · split <;> simp

theorem settled_special : ∀ d ∈ ['ς', 'σ', 'i', '\u0307'], Settled d ∧ isBlank d = false := by
  have hall : ['ς', 'σ', 'i', '\u0307'].all fun d =>
      d ≠ capitalSigma && d ≠ 'İ' && lowerChar d = d && !isBlank d := by decide +kernel
  intro d hd
  have hd := List.all_eq_true.1 hall d hd
  simp only [Bool.and_eq_true, decide_eq_true_eq, Bool.not_eq_true'] at hd
  exact ⟨⟨hd.1.1.1, hd.1.1.2, hd.1.2⟩, hd.2⟩

variable {before rest : List Char}

/-- What comes of a character is settled, and no white space unless the character is. -/
theorem settled_lowerAt (hd : d ∈ lowerAt before c rest) : Settled d ∧ (isBlank c = false → isBlank d = false) := by
  have hspecial (h : d ∈ ['ς', 'σ', 'i', '\u0307']) : Settled d ∧ (isBlank c = false → isBlank d = false) :=
    ⟨(settled_special d h).1, fun _ => (settled_special d h).2⟩
  unfold lowerAt at hd
  split at hd
  case isTrue =>
    apply hspecial
    split at hd <;> simp_all
  case isFalse hsigma =>
    split at hd
    case isTrue =>
      apply hspecial
      simp_all
    case isFalse hdotted =>
      rw [List.mem_singleton] at hd
      rw [hd]
      exact settled_lowerChar hsigma hdotted

theorem settled_lowerFrom (cs : List Char) : ∀ before, ∀ d ∈ lowerFrom before cs, Settled d := by
  induction cs with
  | nil => exact fun _ _ h => absurd h (List.not_mem_nil)
  | cons c cs ih =>
    intro before d hd
    rw [lowerFrom_cons, List.mem_append] at hd
    rcases hd with hd | hd
    · exact (settled_lowerAt hd).1
    · exact ih _ d hd

theorem lowerAt_of_settled (h : Settled c) : lowerAt before c rest = [c] := by
  rw [lowerAt, if_neg h.notSigma, if_neg h.notDotted, h.lower]

theorem lowerFrom_of_settled (cs : List Char) (h : ∀ c ∈ cs, Settled c) : ∀ before, lowerFrom before cs = cs := by
  induction cs with
  | nil => exact fun _ => rfl
  | cons c cs ih =>
    intro before
    rw [lowerFrom_cons, lowerAt_of_settled (h c List.mem_cons_self), ih fun d hd => h d (List.mem_cons_of_mem c hd)]
    rfl

theorem lowerFrom_lowerFrom (before before' cs : List Char) : lowerFrom before' (lowerFrom before cs) = lowerFrom before cs :=
  lowerFrom_of_settled _ (settled_lowerFrom cs before) before'

theorem head_lowerFrom (h : Trimmed cs) : ∀ d, (lowerFrom before cs).head? = some d → isBlank d = false := by
  cases cs with
  | nil => exact fun d hd => nomatch hd
  | cons c cs =>
    intro d hd
    rw [lowerFrom_cons, List.head?_append_of_ne_nil _ (lowerAt_ne_nil before c cs)] at hd
    exact (settled_lowerAt (List.mem_of_mem_head? hd)).2 (h.head c rfl)

theorem last_lowerFrom (cs : List Char) (h : ∀ c, cs.getLast? = some c → isBlank c = false) :
    ∀ before d, (lowerFrom before cs).getLast? = some d → isBlank d = false := by
  induction cs with
  | nil => exact fun _ d hd => nomatch hd
  | cons c cs ih =>
    intro before d hd
    rw [lowerFrom_cons] at hd
    cases cs with
    | nil =>
      rw [lowerFrom, List.append_nil] at hd
      exact (settled_lowerAt (List.mem_of_getLast? hd)).2 (h c rfl)
    | cons e cs =>
      have hne : lowerFrom (c :: before) (e :: cs) ≠ [] := by
        rw [lowerFrom_cons]
        exact List.append_ne_nil_of_left_ne_nil (lowerAt_ne_nil _ e cs) _
      rw [List.getLast?_append_of_ne_nil _ hne] at hd
      exact ih (fun d hd => h d (by rwa [List.getLast?_cons_cons])) _ d hd

theorem Trimmed.lowerFrom (h : Trimmed cs) (before : List Char) : Trimmed (lowerFrom before cs) :=
  ⟨head_lowerFrom h, last_lowerFrom cs h.last before⟩

end CashShop.Text
