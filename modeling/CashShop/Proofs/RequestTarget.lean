import CashShop.Proofs.ReplayText
import CashShop.Remote

namespace CashShop.Remote.Target

open Text

variable {cs base : List Char} {place segments rest : List (List Char)}

theorem resolve_append (h : rest ≠ []) : resolve place (segments ++ rest) = resolve (segments.foldl enter place) rest := by
  induction segments generalizing place with
  | nil => rfl
  | cons s segments ih =>
    obtain ⟨next, later, hlater⟩ := List.exists_cons_of_ne_nil (List.append_ne_nil_of_right_ne_nil segments h)
    rw [List.cons_append, List.foldl_cons, ← ih, hlater, resolve]
    simp

theorem resolve_of_dots (hne : segments ≠ []) (h : ∀ s ∈ segments, dots s = none) :
    resolve place segments = (place.reverse ++ segments).flatMap ('/' :: ·) := by
  induction segments generalizing place with
  | nil => exact absurd rfl hne
  | cons s segments ih =>
    obtain ⟨hs, hlater⟩ := List.forall_mem_cons.1 h
    cases segments with
    | nil => simp [resolve, isDot, isDoubleDot, hs]
    | cons t segments =>
      have henter : enter place s = s :: place := by simp [enter, isDot, isDoubleDot, hs]
      rw [resolve, henter, ih (List.cons_ne_nil t segments) hlater, List.reverse_cons, List.append_assoc]
      · rfl
      · simp

theorem flatMap_parts (cs : List Char) : (parts '/' cs).flatMap ('/' :: ·) = '/' :: cs := by
  induction cs with
  | nil => rfl
  | cons c cs ih =>
    by_cases hc : c = '/'
    · rw [parts, if_pos hc, List.flatMap_cons, ih, hc]
      rfl
    · obtain ⟨p, ps, hp⟩ := Replay.exists_parts '/' cs
      rw [Replay.parts_cons_of_ne hc hp, List.flatMap_cons]
      rw [hp, List.flatMap_cons] at ih
      simpa using ih

theorem escape_of_isPlain {delimiters : List Char} (h : ∀ c ∈ cs, isPlain delimiters c = true) : escape delimiters cs = cs := by
  have hsame : cs.flatMap (fun c => if isPlain delimiters c then [c] else escapeChar c) = cs.flatMap fun c => [c] :=
    List.flatMap_congr fun c hc => by rw [if_pos (h c hc)]
  rw [escape, hsame, List.flatMap_singleton']

/-- A path that needs no change wherever it is entered. -/
structure IsSettled (cs : List Char) : Prop where
  plain : ∀ c ∈ cs, isPlain pathDelimiters c = true ∧ c ≠ '\\'
  dots : ∀ s ∈ parts '/' cs, dots s = none

theorem IsSettled.escape_parts (h : IsSettled cs) :
    (parts '/' (cs.map fun c => if c = '\\' then '/' else c)).map (escape pathDelimiters) = parts '/' cs := by
  have hmap : (cs.map fun c => if c = '\\' then '/' else c) = cs :=
    (List.map_congr_left fun c hc => if_neg (h.plain c hc).2).trans (List.map_id' cs)
  have hparts : ∀ s ∈ parts '/' cs, escape pathDelimiters s = s := by
    refine fun s hs => escape_of_isPlain fun c hc => ?_
    have hmem : c ∈ (parts '/' cs).flatMap ('/' :: ·) := List.mem_flatMap.2 ⟨s, hs, List.mem_cons_of_mem _ hc⟩
    rw [flatMap_parts] at hmem
    rcases List.mem_cons.1 hmem with rfl | hmem
    · decide
    · exact (h.plain c hmem).1
  rw [hmap]
  exact (List.map_congr_left hparts).trans (List.map_id' _)

theorem path_append (hbase : base = [] ∨ ∃ init, base = init ++ ['/']) (h : IsSettled cs) :
    path (base ++ cs) = path base ++ cs := by
  have hne := parts_ne_nil '/' cs
  rcases hbase with rfl | ⟨init, rfl⟩
  · rw [List.nil_append, path, h.escape_parts, resolve_of_dots hne h.dots, List.reverse_nil, List.nil_append, flatMap_parts]
    rfl
  · have hslash : (['/'] : List Char).map (fun c => if c = '\\' then '/' else c) = ['/'] := rfl
    have hlast : (parts '/' ([] : List Char)).map (escape pathDelimiters) = [[]] := rfl
    rw [path, path, List.append_assoc, List.map_append, List.map_append, List.map_append, hslash, List.singleton_append,
      parts_append, parts_append, List.map_append, List.map_append, h.escape_parts, hlast, resolve_append hne,
      resolve_append (List.cons_ne_nil _ _), resolve_of_dots hne h.dots, List.flatMap_append, flatMap_parts]
    simp [resolve, isDot, isDoubleDot, Target.dots]

theorem not_isBreak_of_isPlain {delimiters : List Char} {c : Char} (h : isPlain delimiters c = true) : isBreak c = false := by
  simp only [isPlain, Bool.and_eq_true, decide_eq_true_eq] at h
  have hspace := h.1.1
  simp only [isBreak, Bool.or_eq_false_iff, decide_eq_false_iff_not]
  refine ⟨⟨?_, ?_⟩, ?_⟩ <;> rintro rfl <;> exact absurd hspace (by decide)

theorem not_endsPath_of_isPlain {c : Char} (h : isPlain pathDelimiters c = true) : (!endsPath c) = true := by
  by_contra hends
  simp only [endsPath, Bool.not_eq_true', Bool.not_eq_false, Bool.or_eq_true, decide_eq_true_eq] at hends
  rcases hends with rfl | rfl <;> exact absurd h (by decide)

structure IsQuery (qs : List Char) : Prop where
  head : qs = [] ∨ ∃ rest, qs = '?' :: rest
  plain : ∀ c ∈ qs, isPlain queryDelimiters c = true

theorem takeWhile_not_fragment (h : '#' ∉ cs) : cs.takeWhile (· != '#') = cs :=
  List.takeWhile_eq_self_iff.2 fun _ hc => bne_iff_ne.2 fun heq => h (heq ▸ hc)

theorem IsQuery.query_eq {qs : List Char} (h : IsQuery qs) : query qs = qs := by
  rcases h.head with rfl | ⟨rest, rfl⟩
  · rfl
  · have hplain := (List.forall_mem_cons.1 h.plain).2
    have hfragment : '#' ∉ rest := fun hmem => absurd (hplain _ hmem) (by decide)
    rw [query, takeWhile_not_fragment hfragment, escape_of_isPlain hplain]

theorem dropWhile_path {qs : List Char} (h : IsQuery qs) : qs.takeWhile (!endsPath ·) = [] ∧ qs.dropWhile (!endsPath ·) = qs := by
  rcases h.head with rfl | ⟨rest, rfl⟩ <;> simp [endsPath]

/-- What is put behind a base stands behind its target. -/
theorem ofAddress_append {base more : String} {cs qs : List Char} (hmore : more.toList = cs ++ qs)
    (hbase : ∀ c, base.toList.getLast? = some c → c = '/') (hfragment : '#' ∉ base.toList)
    (hcs : IsSettled cs) (hplain : ∀ c ∈ cs, isPlain queryDelimiters c = true) (hqs : IsQuery qs) :
    ofAddress (base ++ more) = ofAddress base ++ more := by
  have hkept : (cs ++ qs).filter (!isBreak ·) = cs ++ qs := by
    refine List.filter_eq_self.2 fun c hc => ?_
    rw [not_isBreak_of_isPlain ((List.mem_append.1 hc).elim (hplain c) (hqs.plain c))]
    rfl
  set front := base.toList.filter (!isBreak ·) with hfront
  have hslash : front = [] ∨ ∃ init, front = init ++ ['/'] := by
    rcases List.eq_nil_or_concat base.toList with hnil | ⟨init, last, hinit⟩
    · exact .inl (by rw [hfront, hnil]; rfl)
    · obtain rfl := hbase last (by rw [hinit, List.concat_eq_append, List.getLast?_concat])
      exact .inr ⟨_, by rw [hfront, hinit, List.concat_eq_append, List.filter_append]; rfl⟩
  have hnone : '#' ∉ front := fun hmem => hfragment (List.mem_filter.1 hmem).1
  have hpath : ∀ c ∈ cs, (!endsPath c) = true := fun c hc => not_endsPath_of_isPlain (hcs.plain c hc).1
  obtain ⟨htake, hdrop⟩ := dropWhile_path hqs
  apply String.toList_inj.1
  rw [String.toList_append, hmore, ofAddress, ofAddress, String.toList_append, hmore, String.toList_ofList,
    String.toList_ofList, List.filter_append, hkept, ← hfront]
  by_cases hquery : ∀ c ∈ front, (!endsPath c) = true
  · rw [List.takeWhile_append_of_pos hquery, List.dropWhile_append_of_pos hquery, List.takeWhile_append_of_pos hpath,
      List.dropWhile_append_of_pos hpath, htake, hdrop, List.append_nil, path_append hslash hcs, hqs.query_eq,
      List.takeWhile_eq_self_iff.2 hquery, List.dropWhile_eq_nil_iff.2 hquery, query]
    · simp
    · simp
  ·
    obtain ⟨mark, after, hafter⟩ : ∃ mark after, front.dropWhile (!endsPath ·) = mark :: after :=
      List.exists_cons_of_ne_nil fun hnil => hquery (List.dropWhile_eq_nil_iff.1 hnil)
    have hsplit : front = front.takeWhile (!endsPath ·) ++ mark :: after := by
      rw [← hafter, List.takeWhile_append_dropWhile]
    have hmark : mark = '?' := by
      have hends : endsPath mark = true := by simpa [hafter] using List.head?_dropWhile_not (!endsPath ·) front
      have hne : mark ≠ '#' := fun heq => hnone (hsplit ▸ by simp [heq])
      simpa [endsPath, hne] using hends
    have hshort : (front.takeWhile (!endsPath ·)).length ≠ front.length := by
      have hlength := congrArg List.length hsplit
      rw [List.length_append, List.length_cons] at hlength
      omega
    have hall : ∀ c ∈ cs ++ qs, isPlain queryDelimiters c = true := fun c hc =>
      (List.mem_append.1 hc).elim (hplain c) (hqs.plain c)
    have hafter' : '#' ∉ after ∧ '#' ∉ after ++ (cs ++ qs) := by
      have hno : '#' ∉ after := fun hmem => hnone (hsplit ▸ by simp [hmem])
      exact ⟨hno, fun hmem => (List.mem_append.1 hmem).elim hno fun hmem => absurd (hall _ hmem) (by decide)⟩
    rw [List.takeWhile_append, if_neg hshort, List.dropWhile_append, hafter, List.isEmpty_cons, hmark, List.cons_append]
    simp only [Bool.false_eq_true, if_false, query, takeWhile_not_fragment hafter'.1, takeWhile_not_fragment hafter'.2]
    rw [escape, List.flatMap_append, ← escape, ← escape, escape_of_isPlain hall, List.append_assoc, List.cons_append]

theorem isPlain_of_isDigit {c : Char} (h : c.isDigit = true) {delimiters : List Char}
    (hno : delimiters.all (!·.isDigit) = true) : isPlain delimiters c = true := by
  have hrange := Char.isDigit_iff_toNat.1 h
  have hnew : c ∉ delimiters := fun hmem => by
    have hc := List.all_eq_true.1 hno c hmem
    rw [h] at hc
    cases hc
  have hlow : '\x20' < c := Char.lt_def.2 (UInt32.lt_iff_toNat_lt.2 (Nat.lt_of_lt_of_le (by decide) hrange.1))
  have hhigh : c < '\x7F' := Char.lt_def.2 (UInt32.lt_iff_toNat_lt.2 (Nat.lt_of_le_of_lt hrange.2 (by decide)))
  simp [isPlain, hlow, hhigh, hnew]

theorem isSettled_numbered {name : List Char} (hplain : name.all (fun c => isPlain pathDelimiters c && c != '\\') = true)
    (hname : '/' ∉ name) (hdots : dots name = none) (n : Nat) : IsSettled (name ++ '/' :: Nat.toDigits 10 n) where
  plain := by
    intro c hc
    rcases List.mem_append.1 hc with hc | hc
    · simpa using List.all_eq_true.1 hplain c hc
    · rcases List.mem_cons.1 hc with rfl | hc
      · decide
      · have hdigit := Nat.isDigit_of_mem_toDigits (by decide) (by decide) hc
        exact ⟨isPlain_of_isDigit hdigit (by decide), by rintro rfl; exact absurd hdigit (by decide)⟩
  dots := by
    have hdigit {c : Char} (hc : c ∈ Nat.toDigits 10 n) : c.isDigit = true :=
      Nat.isDigit_of_mem_toDigits (by decide) (by decide) hc
    have hslash : '/' ∉ Nat.toDigits 10 n := fun hmem => absurd (hdigit hmem) (by decide)
    rw [parts_append, Replay.parts_of_not_mem hname, Replay.parts_of_not_mem hslash]
    intro s hs
    rcases List.mem_append.1 hs with hs | hs
    · rwa [List.mem_singleton.1 hs]
    · rw [List.mem_singleton.1 hs]
      obtain ⟨first, more, hdigits⟩ := List.exists_cons_of_ne_nil (Nat.toDigits_ne_nil (b := 10) (n := n))
      have hfirst : first.isDigit = true := hdigit (hdigits ▸ List.mem_cons_self)
      rw [hdigits]
      unfold Target.dots
      split <;> simp_all

end CashShop.Remote.Target

namespace CashShop.Remote

open Target

variable {base : String}

structure IsFolder (base : String) : Prop where
  slash : ∀ c, base.toList.getLast? = some c → c = '/'
  fragment : '#' ∉ base.toList

theorem characterPath_eq (c : CharacterId) (withInventory : Bool) : characterPath c withInventory =
    "characters/" ++ toString c ++ if withInventory then "?include=inventory" else "" := by
  cases withInventory with
  | false => exact (String.append_empty (s := "characters/" ++ toString c)).symm
  | true => rfl

theorem toList_characterPath (c : CharacterId) (withInventory : Bool) : (characterPath c withInventory).toList =
    ("characters".toList ++ '/' :: Nat.toDigits 10 c.val.toNat) ++
      if withInventory then "?include=inventory".toList else [] := by
  have hid : toString c = String.ofList (Nat.toDigits 10 c.val.toNat) := Nat.toString_eq_ofList_toDigits
  rw [characterPath_eq, hid]
  cases withInventory <;> simp

/-- The path of a character stands below the base, and its inventory is asked for in the query. -/
theorem requestLine_characterPath (h : IsFolder base) (c : CharacterId) (withInventory : Bool) :
    requestLine base (characterPath c withInventory) =
      "GET " ++ (Target.ofAddress base ++ ("characters/" ++ toString c ++ if withInventory then "?include=inventory" else "")) := by
  have hsettled : IsSettled ("characters".toList ++ '/' :: Nat.toDigits 10 c.val.toNat) :=
    isSettled_numbered (by decide) (by decide) (by decide) _
  have hquery : IsQuery (if withInventory then "?include=inventory".toList else []) := by
    cases withInventory with
    | false => exact ⟨.inl rfl, nofun⟩
    | true => exact ⟨.inr ⟨_, rfl⟩, List.all_eq_true.1 (by decide)⟩
  have hname : ∀ ch ∈ "characters".toList, isPlain queryDelimiters ch = true := List.all_eq_true.1 (by decide)
  have hplain : ∀ ch ∈ "characters".toList ++ '/' :: Nat.toDigits 10 c.val.toNat, isPlain queryDelimiters ch = true := by
    intro ch hch
    rcases List.mem_append.1 hch with hch | hch
    · exact hname ch hch
    · rcases List.mem_cons.1 hch with rfl | hch
      · decide
      · exact isPlain_of_isDigit (Nat.isDigit_of_mem_toDigits (by decide) (by decide) hch) (by decide)
  rw [← characterPath_eq, ← ofAddress_append (toList_characterPath c withInventory) h.slash h.fragment hsettled hplain hquery]
  rfl

end CashShop.Remote
