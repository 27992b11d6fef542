import CashShop.Proofs.JsonText
import CashShop.Proofs.Trimming
import CashShop.Replay

namespace CashShop.Replay

open Text Wire

def splitLines : List Char → List (List Char)
  | [] => []
  | '\n' :: cs => [] :: splitLines cs
  | '\r' :: '\n' :: cs => [] :: splitLines cs
  | c :: cs => match splitLines cs with
    | l :: ls => (c :: l) :: ls
    | [] => [[c]]

def dropReturn (l : List Char) : List Char := if l.getLast? = some '\r' then l.dropLast else l

theorem dropReturn_cons {c : Char} {l : List Char} (h : l ≠ [] ∨ c ≠ '\r') : dropReturn (c :: l) = c :: dropReturn l := by
  cases l with
  | nil =>
    have hc : c ≠ '\r' := h.resolve_left (absurd rfl)
    simp [dropReturn, hc]
  | cons d l =>
    unfold dropReturn
    rw [List.getLast?_cons_cons, List.dropLast_cons_cons]
    split <;> rfl

theorem parts_cons_of_ne {sep c : Char} (h : c ≠ sep) {cs p : List Char} {ps : List (List Char)}
    (hp : parts sep cs = p :: ps) : parts sep (c :: cs) = (c :: p) :: ps := by
  rw [parts, if_neg h, hp]

theorem exists_parts (sep : Char) (cs : List Char) : ∃ p ps, parts sep cs = p :: ps :=
  List.exists_cons_of_ne_nil (parts_ne_nil sep cs)

theorem eq_cons_of_parts {sep : Char} {cs : List Char} {ps : List (List Char)} (h : parts sep cs = [] :: ps) (hps : ps ≠ []) :
    ∃ rest, cs = sep :: rest := by
  cases cs with
  | nil => exact absurd (List.cons.inj h).2.symm hps
  | cons c cs =>
    by_cases hc : c = sep
    · exact ⟨cs, by rw [hc]⟩
    · obtain ⟨p, ps, hp⟩ := exists_parts sep cs
      rw [parts_cons_of_ne hc hp] at h
      cases h

def ofParts : List (List Char) → List (List Char)
  | [] => []
  | [last] => if last = [] then [] else [last]
  | p :: q :: ps => dropReturn p :: ofParts (q :: ps)

theorem ofParts_cons {c : Char} {p : List Char} {ps : List (List Char)} (h : ps ≠ [] → p ≠ [] ∨ c ≠ '\r') :
    ofParts ((c :: p) :: ps) =
      match ofParts (p :: ps) with
      | l :: ls => (c :: l) :: ls
      | [] => [[c]] := by
  cases ps with
  | nil => cases p <;> rfl
  | cons q ps => rw [ofParts, ofParts, dropReturn_cons (h (List.cons_ne_nil q ps))]

theorem splitLines_cons {c : Char} {cs : List Char} (hfeed : c ≠ '\n')
    (hreturn : ∀ rest, c = '\r' → cs ≠ '\n' :: rest) (h : splitLines cs = ofParts (parts '\n' cs)) :
    splitLines (c :: cs) = ofParts (parts '\n' (c :: cs)) := by
  obtain ⟨p, ps, hp⟩ := exists_parts '\n' cs
  have hkept : ps ≠ [] → p ≠ [] ∨ c ≠ '\r' := by
    rintro hps
    by_contra hgone
    obtain ⟨rfl, rfl⟩ : p = [] ∧ c = '\r' := by simpa using hgone
    obtain ⟨rest, hcs⟩ := eq_cons_of_parts hp hps
    exact hreturn rest rfl hcs
  rw [parts_cons_of_ne hfeed hp, ofParts_cons hkept, ← hp, ← h]
  rw [splitLines]
  · exact hfeed
  · exact hreturn

theorem splitLines_eq (cs : List Char) : splitLines cs = ofParts (parts '\n' cs) := by
  induction cs using splitLines.induct with
  | case1 => rfl
  | case2 cs ih =>
    obtain ⟨p, ps, hp⟩ := exists_parts '\n' cs
    rw [splitLines, ih, parts, if_pos rfl, hp]
    rfl
  | case3 cs ih =>
    obtain ⟨p, ps, hp⟩ := exists_parts '\n' cs
    have hfeed : parts '\n' ('\n' :: cs) = [] :: p :: ps := by rw [parts, if_pos rfl, hp]
    rw [splitLines, ih, parts_cons_of_ne (by decide) hfeed, hp]
    rfl
  | case4 c cs hfeed hreturn l ls hls ih =>
    exact splitLines_cons hfeed hreturn ih
  | case5 c cs hfeed hreturn hls ih => exact splitLines_cons hfeed hreturn ih

theorem length_ofParts_feed (ps : List (List Char)) : (ofParts (ps ++ [[]])).length = ps.length := by
  induction ps with
  | nil => rfl
  | cons p ps ih =>
    obtain ⟨q, qs, hq⟩ := List.exists_cons_of_ne_nil (List.append_ne_nil_of_right_ne_nil ps (List.cons_ne_nil [] []))
    rw [hq] at ih
    rw [List.cons_append, hq, ofParts, List.length_cons, ih, List.length_cons]

theorem length_splitLines_feed (cs : List Char) : (splitLines (cs ++ ['\n'])).length = (parts '\n' cs).length := by
  rw [splitLines_eq, parts_append]
  exact length_ofParts_feed _

def decodeLine (line : List Char) : Except DecodeError (Topic × Message) :=
  match Json.Source.ofChars? (trimChars line) with
  | some s => decode s
  | none => .error .malformed

/-- The line is neither blank nor a comment. -/
def isKept (line : List Char) : Bool := !isSkipped (trimChars line)

variable {line : List Char} {ls : List (List Char)} {n : Nat} {rs : List (Topic × Message)}

theorem readLine_of_skipped (h : isKept line = false) : readLine line = .ok none := by
  rw [isKept, Bool.not_eq_false'] at h
  rw [readLine, if_pos h]

theorem readLine_of_kept (h : isKept line = true) : readLine line = (decodeLine line).map some := by
  have hskipped : ¬ isSkipped (trimChars line) = true := by simpa [isKept] using h
  rw [readLine, if_neg hskipped, decodeLine]
  cases Json.Source.ofChars? (trimChars line) <;> rfl

theorem readLine_dropReturn (line : List Char) : readLine (dropReturn line) = readLine line := by
  have htrim : trimChars (dropReturn line) = trimChars line := by
    unfold dropReturn
    split
    case isTrue h =>
      have hline : line = line.dropLast ++ ['\r'] := (List.dropLast_append_getLast? _ h).symm
      rw [hline, List.dropLast_concat, trimChars_append_of_blank (List.forall_mem_singleton.2 rfl)]
    case isFalse => rfl
  rw [readLine, htrim, readLine]

theorem readLines_append (n : Nat) (as bs : List (List Char)) : readLines n (as ++ bs) =
    (readLines n as).bind fun rs => (readLines (n + as.length) bs).map (rs ++ ·) := by
  induction as generalizing n with
  | nil =>
    change readLines n bs = (readLines n bs).map id
    rw [Except.map_id]
    rfl
  | cons a as ih =>
    rw [List.cons_append, readLines, readLines]
    cases readLine a with
    | error e => rfl
    | ok r =>
      have hlength : n + (a :: as).length = n + 1 + as.length := by rw [List.length_cons]; omega
      simp only [ih, hlength]
      cases readLines (n + 1) as with
      | error e => rfl
      | ok rs =>
        cases readLines (n + 1 + as.length) bs with
        | error e => rfl
        | ok rs' => simp [Except.bind, Except.map]

theorem readLines_ofParts (n : Nat) (ps : List (List Char)) : readLines n (ofParts ps) = readLines n ps := by
  induction ps using ofParts.induct generalizing n with
  | case1 => rfl
  | case2 =>
    rfl
  | case3 last hlast => rw [ofParts, if_neg hlast]
  | case4 p q ps ih => rw [ofParts, readLines, readLines, readLine_dropReturn, ih]

theorem parse_eq (content : String) : parse content = readLines 1 (splitLines content.toList) := by
  rw [splitLines_eq, readLines_ofParts]
  rfl

theorem readLines_skipped (h : isKept line = false) : readLines n (line :: ls) = readLines (n + 1) ls := by
  rw [readLines, readLine_of_skipped h]
  exact congrFun Except.map_id _

theorem readLines_record {r : Topic × Message} (hkept : isKept line = true) (h : decodeLine line = .ok r) :
    readLines n (line :: ls) = (readLines (n + 1) ls).map (r :: ·) := by
  rw [readLines, readLine_of_kept hkept, h]
  rfl

theorem readLines_failure {e : DecodeError} (hkept : isKept line = true) (h : decodeLine line = .error e) :
    readLines n (line :: ls) = .error ⟨n, e⟩ := by
  rw [readLines, readLine_of_kept hkept, h]
  rfl

/-- The lines are accepted just if each of them that is kept stands for a record. -/
theorem readLines_eq_ok_iff : readLines n ls = .ok rs ↔ (ls.filter isKept).map decodeLine = rs.map .ok := by
  induction ls generalizing n rs with
  | nil =>
    rw [readLines, List.filter_nil, List.map_nil, Except.ok.injEq]
    cases rs <;> simp
  | cons l ls ih =>
    cases hkept : isKept l with
    | false => rw [readLines_skipped hkept, List.filter_cons_of_neg (by simp [hkept]), ih]
    | true =>
      rw [List.filter_cons_of_pos hkept, List.map_cons]
      cases hdecode : decodeLine l with
      | error e =>
        rw [readLines_failure hkept hdecode]
        cases rs <;> simp
      | ok r =>
        rw [readLines_record hkept hdecode]
        cases rs with
        | nil => cases hls : readLines (n + 1) ls <;> simp [Except.map]
        | cons s rs =>
          rw [List.map_cons, List.cons.injEq, Except.ok.injEq, ← ih (n := n + 1)]
          cases hls : readLines (n + 1) ls <;> simp [Except.map]

def Passes (line : List Char) : Prop := isKept line = true → ∃ r, decodeLine line = .ok r

theorem readLines_of_passes {e : ReplayError} (h : Passes line) :
    readLines n (line :: ls) = .error e ↔ readLines (n + 1) ls = .error e := by
  cases hkept : isKept line with
  | false => rw [readLines_skipped hkept]
  | true =>
    obtain ⟨r, hr⟩ := h hkept
    rw [readLines_record hkept hr]
    cases readLines (n + 1) ls <;> simp [Except.map]

/-- The line that is named is the first one that does not pass. -/
theorem readLines_eq_error_iff {e : ReplayError} : readLines n ls = .error e ↔
    ∃ before line after, ls = before ++ line :: after ∧ (∀ l ∈ before, Passes l) ∧
      isKept line = true ∧ decodeLine line = .error e.error ∧ e.line = n + before.length := by
  induction ls generalizing n with
  | nil => simp [readLines]
  | cons l ls ih =>
    by_cases hpass : Passes l
    · rw [readLines_of_passes hpass, ih]
      constructor
      · rintro ⟨before, line, after, rfl, hbefore, hkept, herror, hline⟩
        exact ⟨l :: before, line, after, rfl, List.forall_mem_cons.2 ⟨hpass, hbefore⟩, hkept, herror, by
          rw [hline, List.length_cons]; omega⟩
      · rintro ⟨before, line, after, hls, hbefore, hkept, herror, hline⟩
        cases before with
        | nil =>
          obtain ⟨rfl, rfl⟩ := List.cons.inj hls
          obtain ⟨r, hr⟩ := hpass hkept
          rw [herror] at hr
          cases hr
        | cons b before =>
          obtain ⟨rfl, rfl⟩ := List.cons.inj hls
          exact ⟨before, line, after, rfl, (List.forall_mem_cons.1 hbefore).2, hkept, herror, by
            rw [hline, List.length_cons]; omega⟩
    · obtain ⟨hkept, hnone⟩ := Classical.not_imp.1 hpass
      cases hdecode : decodeLine l with
      | ok r => exact absurd ⟨r, hdecode⟩ hnone
      | error e' =>
        rw [readLines_failure hkept hdecode]
        constructor
        · intro he
          cases he
          exact ⟨[], l, ls, rfl, nofun, hkept, hdecode, rfl⟩
        · rintro ⟨before, line, after, hls, hbefore, -, herror, hline⟩
          cases before with
          | nil =>
            obtain ⟨rfl, rfl⟩ := List.cons.inj hls
            obtain rfl : e' = e.error := Except.error.inj (hdecode.symm.trans herror)
            obtain rfl : n = e.line := hline.symm
            rfl
          | cons b before =>
            obtain ⟨rfl, rfl⟩ := List.cons.inj hls
            exact absurd (List.forall_mem_cons.1 hbefore).1 hpass

def raise {α : Type} (k : Nat) : Except ReplayError α → Except ReplayError α
  | .ok a => .ok a
  | .error e => .error { e with line := e.line + k }

theorem readLines_add (n k : Nat) (ls : List (List Char)) : readLines (n + k) ls = raise k (readLines n ls) := by
  induction ls generalizing n with
  | nil => rfl
  | cons l ls ih =>
    rw [readLines, readLines, Nat.add_right_comm, ih]
    cases readLine l with
    | error e => rfl
    | ok r => cases readLines (n + 1) ls <;> rfl

theorem parse_append (a b : String) : parse (a ++ "\n" ++ b) =
    (parse a).bind fun rs => (raise (splitLines (a.toList ++ ['\n'])).length (parse b)).map (rs ++ ·) := by
  have hfeed : "\n".toList = ['\n'] := rfl
  simp only [parse, lines]
  rw [String.toList_append, String.toList_append, hfeed, List.append_assoc, List.singleton_append, parts_append,
    readLines_append, readLines_add, length_splitLines_feed]

def fieldsOf (r : Topic × Message) : List (String × Json) :=
  [("topic", .str r.1.name), ("key", .str r.2.key), ("value", r.2.value)]

theorem topic_name (t : Topic) : Wire.topic (.str t.name) = .ok t := by
  cases t <;> rfl

section Occurrences

variable {ν : Type} {name : String} {v : ν} {entries : List (String × ν)}

theorem occurrences_of_absent (h : name ∉ entries.map (·.1)) (k : Nat) : Record.occurrences name entries k = [] := by
  induction entries generalizing k with
  | nil => rfl
  | cons e entries ih =>
    rw [List.map_cons, List.mem_cons, not_or] at h
    rw [Record.occurrences, if_neg (Ne.symm h.1), ih h.2]

theorem exists_occurrences (h : (name, v) ∈ entries) (hnodup : (entries.map (·.1)).Nodup) (k : Nat) :
    ∃ i, Record.occurrences name entries k = [(i, v)] := by
  induction entries generalizing k with
  | nil => cases h
  | cons e entries ih =>
    rw [List.map_cons, List.nodup_cons] at hnodup
    rw [Record.occurrences]
    rcases List.mem_cons.1 h with rfl | h
    · exact ⟨k, by rw [if_pos rfl, occurrences_of_absent hnodup.1]⟩
    · have hne : e.1 ≠ name := fun heq => hnodup.1 (heq ▸ List.mem_map_of_mem h)
      rw [if_neg hne]
      exact ih h hnodup.2 (k + 1)

theorem read_field {α : Type} (h : (name, v) ∈ entries) (hnodup : (entries.map (·.1)).Nodup)
    (d : ν → Except DecodeError α) (i : Nat) :
    ∃ j, (Record.field name d).read (.keyed entries) i = Record.ranked j (d v) := by
  obtain ⟨j, hj⟩ := exists_occurrences h hnodup 0
  exact ⟨j, by simp only [Record.field, Record.fieldOr, hj]⟩

end Occurrences

theorem textKeys_sourceFields (fields : List (String × Json)) :
    Record.textKeys (Json.sourceFields fields) = some (fields.map fun f => (f.1, f.2.source)) := by
  induction fields with
  | nil => rfl
  | cons f fields ih => rw [Json.sourceFields, Record.textKeys, ih, Option.map_some, List.map_cons]

theorem decode_fields {r : Topic × Message} {fields : List (String × Json)} (h : fields.Perm (fieldsOf r)) :
    decode (.obj (Json.sourceFields fields)) =
      (Record.ofSource valueDepth value r.2.value.source).map fun v => (r.1, ⟨r.2.key, v⟩) := by
  have hnodup : ((fields.map fun f => (f.1, f.2.source)).map (·.1)).Nodup := by
    rw [List.map_map]
    have hnames : ["topic", "key", "value"].Nodup := by decide
    exact (h.map _).nodup_iff.2 hnames
  have hmem (f : String × Json) (hf : f ∈ fieldsOf r) : (f.1, f.2.source) ∈ fields.map fun f => (f.1, f.2.source) :=
    List.mem_map_of_mem (h.mem_iff.2 hf)
  rw [decode, Record.decodeSource, textKeys_sourceFields]
  generalize fields.map (fun f => (f.1, f.2.source)) = entries at hnodup hmem
  obtain ⟨i, htopic⟩ := read_field (hmem ("topic", .str r.1.name) (by simp [fieldsOf])) hnodup topicOf 0
  obtain ⟨j, hkey⟩ := read_field (hmem ("key", .str r.2.key) (by simp [fieldsOf])) hnodup (Record.ofSource 0 string) 1
  obtain ⟨k, hvalue⟩ :=
    read_field (hmem ("value", r.2.value) (by simp [fieldsOf])) hnodup (Record.ofSource valueDepth value) 2
  have htopic' : topicOf (Json.source (.str r.1.name)) = .ok r.1 := topic_name r.1
  have hkey' : Record.ofSource 0 string (Json.source (.str r.2.key)) = .ok r.2.key := rfl
  rw [htopic'] at htopic
  rw [hkey'] at hkey
  change Record.run _ (.keyed entries) = _
  have hread : ((fun t k v => (t, ⟨k, v⟩)) <$> Record.field "topic" topicOf <*>
      Record.field "key" (Record.ofSource 0 string) <*>
      Record.field "value" (Record.ofSource valueDepth value) : Record Json.Source (Topic × Message)).read
        (.keyed entries) 0 =
      Record.both (Record.both (Record.both (.ok fun t k v => (t, ⟨k, v⟩))
        ((Record.field "topic" topicOf).read (.keyed entries) 0))
        ((Record.field "key" (Record.ofSource 0 string)).read (.keyed entries) 1))
        ((Record.field "value" (Record.ofSource valueDepth value)).read (.keyed entries) 2) := rfl
  rw [Record.run, hread, htopic, hkey, hvalue]
  cases Record.ofSource valueDepth value r.2.value.source <;> rfl

def IsMargin (cs : List Char) : Prop := ∀ c ∈ cs, isBlank c = true ∧ c ≠ '\n'

theorem isMargin_nil : IsMargin [] := fun _ h => absurd h List.not_mem_nil

theorem isMargin_return : IsMargin ['\r'] := List.forall_mem_singleton.2 (by decide)

/-- The lines hold the records in this order, each as an object on a line of its own, with blank lines and comments in
between. -/
inductive Written : List (List Char) → List (Topic × Message) → Prop
  | nil : Written [] []
  | other {line : List Char} {ls : List (List Char)} {rs : List (Topic × Message)} :
      isKept line = false → '\n' ∉ line → Written ls rs → Written (line :: ls) rs
  | record {r : Topic × Message} {fields : List (String × Json)} {pre post : List Char} {ls : List (List Char)}
      {rs : List (Topic × Message)} : fields.Perm (fieldsOf r) → IsMargin pre → IsMargin post → Written ls rs →
      Written ((pre ++ Json.chars (.obj fields) ++ post) :: ls) (r :: rs)

def unlines (ls : List (List Char)) : String := String.ofList (['\n'].intercalate ls)

theorem parts_of_not_mem {sep : Char} {cs : List Char} (h : sep ∉ cs) : parts sep cs = [cs] := by
  induction cs with
  | nil => rfl
  | cons c cs ih =>
    rw [List.mem_cons, not_or] at h
    exact parts_cons_of_ne (Ne.symm h.1) (ih h.2)

theorem parts_intercalate {sep : Char} (h : ∀ l ∈ line :: ls, sep ∉ l) :
    parts sep ([sep].intercalate (line :: ls)) = line :: ls := by
  induction ls generalizing line with
  | nil =>
    rw [List.intercalate_singleton]
    exact parts_of_not_mem (h line List.mem_cons_self)
  | cons l ls ih =>
    rw [List.forall_mem_cons] at h
    rw [List.intercalate_cons_cons, List.append_assoc, List.singleton_append, parts_append, parts_of_not_mem h.1, ih h.2]
    rfl

theorem trimmed_object (fields : List (String × Json)) : Trimmed (Json.chars (.obj fields)) := by
  constructor
  · intro c hc
    cases hc
    decide
  · intro c hc
    rw [Json.chars, List.getLast?_concat] at hc
    cases hc
    decide

section Record

variable {r : Topic × Message} {fields : List (String × Json)} {pre post : List Char}

theorem trimChars_record (hpre : IsMargin pre) (hpost : IsMargin post) :
    trimChars (pre ++ Json.chars (.obj fields) ++ post) = Json.chars (.obj fields) :=
  trimChars_padded (fun c hc => (hpre c hc).1) (fun c hc => (hpost c hc).1) (trimmed_object fields)

theorem isKept_record (hpre : IsMargin pre) (hpost : IsMargin post) :
    isKept (pre ++ Json.chars (.obj fields) ++ post) = true := by
  rw [isKept, trimChars_record hpre hpost]
  rfl

theorem isPlain_of_fieldsOf (h : fields.Perm (fieldsOf r)) (hplain : r.2.value.isPlain = true) :
    ∀ f ∈ fields, f.2.isPlain = true := by
  intro f hf
  have hmem := h.mem_iff.1 hf
  simp only [fieldsOf, List.mem_cons, List.not_mem_nil, or_false] at hmem
  rcases hmem with rfl | rfl | rfl
  · rfl
  · rfl
  · exact hplain

theorem decodeLine_record (h : fields.Perm (fieldsOf r)) (hpre : IsMargin pre) (hpost : IsMargin post)
    (hplain : r.2.value.isPlain = true) : decodeLine (pre ++ Json.chars (.obj fields) ++ post) =
      if r.2.value.depth ≤ valueDepth then .ok r else .error .malformed := by
  rw [decodeLine, trimChars_record hpre hpost, Json.ofChars?_fields (isPlain_of_fieldsOf h hplain)]
  simp only
  rw [decode_fields h, Record.ofSource]
  by_cases hdepth : r.2.value.depth ≤ valueDepth
  · rw [Json.toJson?_source hplain hdepth, if_pos hdepth]
    rfl
  · rw [Json.toJson?_source_of_deep (Nat.lt_of_not_le hdepth), if_neg hdepth]
    rfl

theorem feed_not_mem_record (h : fields.Perm (fieldsOf r)) (hpre : IsMargin pre) (hpost : IsMargin post)
    (hplain : r.2.value.isPlain = true) : '\n' ∉ pre ++ Json.chars (.obj fields) ++ post := by
  intro hmem
  rcases List.mem_append.1 hmem with hmem | hmem
  · rcases List.mem_append.1 hmem with hmem | hmem
    · exact (hpre _ hmem).2 rfl
    · exact absurd (Json.printable_object (isPlain_of_fieldsOf h hplain) _ hmem) (by decide)
  · exact (hpost _ hmem).2 rfl

end Record

theorem Written.feed_not_mem (h : Written ls rs) (hplain : ∀ r ∈ rs, r.2.value.isPlain = true) : ∀ l ∈ ls, '\n' ∉ l := by
  induction h with
  | nil => exact nofun
  | other _ hfeed _ ih => exact List.forall_mem_cons.2 ⟨hfeed, ih hplain⟩
  | record hperm hpre hpost _ ih =>
    rw [List.forall_mem_cons] at hplain
    exact List.forall_mem_cons.2 ⟨feed_not_mem_record hperm hpre hpost hplain.1, ih hplain.2⟩

theorem Written.decode_eq (h : Written ls rs) (hplain : ∀ r ∈ rs, r.2.value.isPlain = true) :
    (ls.filter isKept).map decodeLine =
      rs.map fun r => if r.2.value.depth ≤ valueDepth then .ok r else .error .malformed := by
  induction h with
  | nil => rfl
  | other hskipped _ _ ih => rw [List.filter_cons_of_neg (by simp [hskipped]), ih hplain]
  | record hperm hpre hpost _ ih =>
    rw [List.forall_mem_cons] at hplain
    rw [List.filter_cons_of_pos (isKept_record hpre hpost), List.map_cons, List.map_cons,
      decodeLine_record hperm hpre hpost hplain.1, ih hplain.2]

theorem parse_unlines (h : ∀ l ∈ ls, '\n' ∉ l) : parse (unlines ls) = readLines 1 ls := by
  cases ls with
  | nil => rfl
  | cons l ls => rw [parse, lines, unlines, String.toList_ofList, parts_intercalate h]

theorem parse_written (h : Written ls rs) (hplain : ∀ r ∈ rs, r.2.value.isPlain = true) :
    parse (unlines ls) = .ok rs ↔ ∀ r ∈ rs, r.2.value.depth ≤ valueDepth := by
  rw [parse_unlines (h.feed_not_mem hplain), readLines_eq_ok_iff, h.decode_eq hplain, List.map_inj_left]
  refine forall₂_congr fun r _ => ?_
  by_cases hdepth : r.2.value.depth ≤ valueDepth <;> simp [hdepth]

/-- A file is read line by line, and files behind one another one after the other. What is written is read back just if no
value nests more than 126 deep. -/
theorem parse_linewise :
    (∀ content rs, parse content = .ok rs ↔ ((splitLines content.toList).filter isKept).map decodeLine = rs.map .ok) ∧
    (∀ content e, parse content = .error e ↔
      ∃ before line after, splitLines content.toList = before ++ line :: after ∧ (∀ l ∈ before, Passes l) ∧
        isKept line = true ∧ decodeLine line = .error e.error ∧ e.line = 1 + before.length) ∧
    (∀ a b, parse (a ++ "\n" ++ b) =
      (parse a).bind fun rs => (raise (splitLines (a.toList ++ ['\n'])).length (parse b)).map (rs ++ ·)) ∧
    ∀ ls rs, Written ls rs → (∀ r ∈ rs, r.2.value.isPlain = true) →
      (parse (unlines ls) = .ok rs ↔ ∀ r ∈ rs, r.2.value.depth ≤ 126) := by
  refine ⟨fun content rs => ?_, fun content e => ?_, parse_append, fun ls rs hwritten hplain => parse_written hwritten hplain⟩
  · rw [parse_eq, readLines_eq_ok_iff]
  · rw [parse_eq, readLines_eq_error_iff]

theorem parse_linewise_commented :
    let r : Topic × Message := (.accountStatus, ⟨"1", .obj [("accountId", .int 1), ("status", .str "CREATED")]⟩)
    let ls := ["# bootstrap an account".toList, [], Json.chars (.obj (fieldsOf r)) ++ ['\r']]
    Written ls [r] ∧ (∀ s ∈ [r], s.2.value.isPlain = true) ∧ parse (unlines ls) = .ok [r] := by
  intro r ls
  have hrecord : Written [[] ++ Json.chars (.obj (fieldsOf r)) ++ ['\r']] [r] := .record (.refl _) isMargin_nil isMargin_return .nil
  have hwritten : Written ls [r] := .other (by decide) (by decide) (.other (by decide) (by decide) hrecord)
  have hplain : ∀ s ∈ [r], s.2.value.isPlain = true := by decide
  exact ⟨hwritten, hplain, (parse_linewise.2.2.2 ls [r] hwritten hplain).2 (by decide)⟩

def nested : Nat → Json
  | 0 => .arr []
  | n + 1 => .arr [nested n]

theorem depth_nested (n : Nat) : (nested n).depth = n + 1 := by
  induction n with
  | zero => rfl
  | succ n ih => rw [nested, Json.depth, Json.depthItems, Json.depthItems, ih, Nat.max_zero]

theorem isPlain_nested (n : Nat) : (nested n).isPlain = true := by
  induction n with
  | zero => rfl
  | succ n ih => rw [nested, Json.isPlain, Json.isPlainItems, ih]; rfl

theorem parse_written_deep : ¬ ∀ ls rs, Written ls rs → (∀ r ∈ rs, r.2.value.isPlain = true) →
    parse (unlines ls) = .ok rs := by
  intro h
  let r : Topic × Message := (.walletStatus, ⟨"1", nested 126⟩)
  have hwritten : Written [[] ++ Json.chars (.obj (fieldsOf r)) ++ []] [r] := .record (.refl _) isMargin_nil isMargin_nil .nil
  have hplain : ∀ s ∈ [r], s.2.value.isPlain = true := List.forall_mem_singleton.2 (isPlain_nested 126)
  have hdepth := (parse_written hwritten hplain).1 (h _ _ hwritten hplain) r List.mem_cons_self
  rw [show r.2.value.depth = 127 from depth_nested 126] at hdepth
  exact absurd hdepth (by decide)

end CashShop.Replay
