namespace CashShop

/-- Keys are ordered by a number that no two of them share. -/
class Key (κ : Type) where
  rank : κ → Nat
  rank_inj : ∀ {a b : κ}, rank a = rank b → a = b

def Ascending {κ α : Type} [Key κ] (rows : List (κ × α)) : Prop :=
  rows.Pairwise fun a b => Key.rank a.1 < Key.rank b.1

structure Table (κ α : Type) [Key κ] where
  rows : List (κ × α)
  ascending : Ascending rows

namespace Table

variable {κ α : Type} [Key κ]

def putRow (k : κ) (v : α) : List (κ × α) → List (κ × α)
  | [] => [(k, v)]
  | r :: rs =>
    if Key.rank k < Key.rank r.1 then (k, v) :: r :: rs
    else if Key.rank k = Key.rank r.1 then (k, v) :: rs
    else r :: putRow k v rs

theorem mem_putRow {k : κ} {v : α} {rows : List (κ × α)} {x : κ × α} (h : x ∈ putRow k v rows) :
    x = (k, v) ∨ x ∈ rows := by
  induction rows with
  | nil => simpa [putRow] using h
  | cons r rs ih =>
    simp only [putRow] at h
    split at h
    · simpa using h
    · split at h
      · rcases List.mem_cons.1 h with h | h <;> simp [h]
      · rcases List.mem_cons.1 h with h | h
        · simp [h]
        · rcases ih h with h | h <;> simp [h]

theorem ascending_putRow (k : κ) (v : α) {rows : List (κ × α)} (h : Ascending rows) :
    Ascending (putRow k v rows) := by
  induction rows with
  | nil => simp [putRow, Ascending]
  | cons r rs ih =>
    obtain ⟨hr, hs⟩ := List.pairwise_cons.1 h
    simp only [putRow]
    split
    · rename_i hlt
      refine List.pairwise_cons.2 ⟨fun x hx => ?_, h⟩
      rcases List.mem_cons.1 hx with rfl | hx
      · exact hlt
      · exact Nat.lt_trans hlt (hr x hx)
    · split
      · rename_i heq
        exact List.pairwise_cons.2 ⟨fun x hx => by simpa [heq] using hr x hx, hs⟩
      · refine List.pairwise_cons.2 ⟨fun x hx => ?_, ih hs⟩
        rcases mem_putRow hx with rfl | hx
        · show Key.rank r.1 < Key.rank k
          omega
        · exact hr x hx

def empty : Table κ α := ⟨[], List.Pairwise.nil⟩

instance : Inhabited (Table κ α) := ⟨empty⟩

def findRow [DecidableEq κ] (k : κ) : List (κ × α) → Option α
  | [] => none
  | r :: rs => if k = r.1 then some r.2 else findRow k rs

def get? [DecidableEq κ] (t : Table κ α) (k : κ) : Option α := findRow k t.rows

def contains [DecidableEq κ] (t : Table κ α) (k : κ) : Bool := (t.get? k).isSome

def insert (t : Table κ α) (k : κ) (v : α) : Table κ α := ⟨putRow k v t.rows, ascending_putRow k v t.ascending⟩

def filter (t : Table κ α) (p : κ → α → Bool) : Table κ α :=
  ⟨t.rows.filter fun r => p r.1 r.2, t.ascending.sublist List.filter_sublist⟩

def erase [DecidableEq κ] (t : Table κ α) (k : κ) : Table κ α := t.filter fun j _ => j != k

def values (t : Table κ α) : List α := t.rows.map (·.2)

def size (t : Table κ α) : Nat := t.rows.length

def isEmpty (t : Table κ α) : Bool := t.rows.isEmpty

instance [DecidableEq κ] [DecidableEq α] : DecidableEq (Table κ α) := fun a b =>
  if h : a.rows = b.rows then isTrue (by cases a; cases b; cases h; rfl)
  else isFalse fun e => h (congrArg rows e)

variable [DecidableEq κ]

@[simp] theorem get?_empty (k : κ) : (empty : Table κ α).get? k = none := rfl

theorem findRow_putRow (k j : κ) (v : α) (rows : List (κ × α)) :
    findRow j (putRow k v rows) = if j = k then some v else findRow j rows := by
  induction rows with
  | nil => simp [putRow, findRow]
  | cons r rs ih =>
    simp only [putRow]
    split
    · simp [findRow]
    · split
      · rename_i heq
        have hk : k = r.1 := Key.rank_inj heq
        by_cases e : j = k <;> simp [findRow, e, ← hk]
      · rename_i hne
        have hk : r.1 ≠ k := fun e => hne (by rw [e])
        by_cases e : j = r.1 <;> simp [findRow, e, ih, hk]

@[simp] theorem get?_insert (t : Table κ α) (k j : κ) (v : α) :
    (t.insert k v).get? j = if j = k then some v else t.get? j := findRow_putRow k j v t.rows

omit [Key κ] in
theorem findRow_filter_ne (k j : κ) (rows : List (κ × α)) :
    findRow j (rows.filter fun r => r.1 != k) = if j = k then none else findRow j rows := by
  induction rows with
  | nil => simp [findRow]
  | cons r rs ih =>
    by_cases hr : r.1 = k
    · have hb : (r.1 != k) = false := by simpa using hr
      rw [List.filter_cons, hb, if_neg Bool.false_ne_true, ih]
      by_cases e : j = k <;> simp [findRow, e, hr]
    · have hb : (r.1 != k) = true := by simpa using hr
      simp only [List.filter_cons, hb, if_true, ih, findRow]
      by_cases e : j = r.1 <;> simp [e, hr]

@[simp] theorem get?_erase (t : Table κ α) (k j : κ) :
    (t.erase k).get? j = if j = k then none else t.get? j := findRow_filter_ne k j t.rows

theorem findRow_eq_some_iff {rows : List (κ × α)} (h : Ascending rows) {k : κ} {v : α} :
    findRow k rows = some v ↔ (k, v) ∈ rows := by
  induction rows with
  | nil => simp [findRow]
  | cons r rs ih =>
    obtain ⟨hr, hs⟩ := List.pairwise_cons.1 h
    obtain ⟨rk, rv⟩ := r
    by_cases e : k = rk
    · subst e
      have hn : (k, v) ∉ rs := fun hm => absurd (hr _ hm) (Nat.lt_irrefl _)
      simp [findRow, hn, eq_comm]
    · simp [findRow, e, ih hs]

theorem get?_eq_some_iff (t : Table κ α) {k : κ} {v : α} : t.get? k = some v ↔ (k, v) ∈ t.rows :=
  findRow_eq_some_iff t.ascending

theorem get?_filter (t : Table κ α) (p : κ → α → Bool) (k : κ) : (t.filter p).get? k = (t.get? k).filter (p k) := by
  apply Option.ext
  intro v
  rw [get?_eq_some_iff, Option.filter_eq_some_iff, get?_eq_some_iff]
  exact List.mem_filter

omit [DecidableEq κ] in
theorem nodup_of_ascending {rows : List (κ × α)} (h : Ascending rows) : rows.Nodup :=
  h.imp fun hlt e => by simp [e] at hlt

theorem ext_get? {s t : Table κ α} (h : ∀ k, s.get? k = t.get? k) : s = t := by
  have hm : ∀ x, x ∈ s.rows ↔ x ∈ t.rows := fun ⟨k, v⟩ => by
    rw [← get?_eq_some_iff, ← get?_eq_some_iff, h]
  obtain ⟨xs, hx⟩ := s
  obtain ⟨ys, hy⟩ := t
  have hxy : xs = ys :=
    ((List.perm_ext_iff_of_nodup (nodup_of_ascending hx) (nodup_of_ascending hy)).2 hm).eq_of_pairwise
      (fun a b _ _ h1 h2 => absurd (Nat.lt_trans h1 h2) (Nat.lt_irrefl _)) hx hy
  subst hxy
  rfl

omit [DecidableEq κ] in
theorem values_filter (t : Table κ α) (p : α → Bool) : (t.filter fun _ v => p v).values = t.values.filter p := by
  rw [values, filter, values, List.filter_map]
  rfl

theorem mem_values_iff {t : Table κ α} {v : α} : v ∈ t.values ↔ ∃ k, t.get? k = some v := by
  simp [values, get?_eq_some_iff]

section Filed

variable {t : Table κ α} {f : α → κ} (h : ∀ k v, t.get? k = some v → f v = k)

include h

theorem get?_eq_some_iff_mem_values {k : κ} {v : α} : t.get? k = some v ↔ v ∈ t.values ∧ f v = k := by
  rw [mem_values_iff]
  constructor
  · exact fun hk => ⟨⟨k, hk⟩, h k v hk⟩
  · rintro ⟨⟨j, hj⟩, rfl⟩
    rwa [h j v hj]

theorem pairwise_values : t.values.Pairwise fun v w => Key.rank (f v) < Key.rank (f w) := by
  have hkey {r : κ × α} (hr : r ∈ t.rows) : f r.2 = r.1 := h r.1 r.2 (t.get?_eq_some_iff.2 hr)
  refine List.pairwise_map.2 (t.ascending.imp_of_mem fun {r r'} hr hr' hlt => ?_)
  rwa [hkey hr, hkey hr']

end Filed

omit [DecidableEq κ] in
theorem mem_values_insert {t : Table κ α} {k : κ} {v x : α} (h : x ∈ (t.insert k v).values) : x = v ∨ x ∈ t.values := by
  obtain ⟨r, hr, rfl⟩ := List.mem_map.1 h
  obtain rfl | hr := mem_putRow hr
  · exact .inl rfl
  · exact .inr (List.mem_map.2 ⟨r, hr, rfl⟩)

theorem perm_putRow (k : κ) (v : α) {rows : List (κ × α)} (h : findRow k rows = none) :
    (putRow k v rows).Perm ((k, v) :: rows) := by
  induction rows with
  | nil => exact .refl _
  | cons r rs ih =>
    simp only [findRow] at h
    split at h
    · cases h
    · rename_i hk
      simp only [putRow]
      split
      · exact .refl _
      · rw [if_neg fun he => hk (Key.rank_inj he)]
        exact ((ih h).cons r).trans (.swap (k, v) r rs)

theorem perm_values_insert {t : Table κ α} {k : κ} (v : α) (h : t.get? k = none) :
    (t.insert k v).values.Perm (v :: t.values) := (perm_putRow k v h).map Prod.snd

theorem contains_insert_of_contains {t : Table κ α} {k : κ} (v : α) (h : t.contains k = true) (j : κ) :
    (t.insert k v).contains j = t.contains j := by
  unfold contains at h ⊢
  rw [get?_insert]
  split
  · rename_i he
    rw [he, h]
    rfl
  · rfl

omit [DecidableEq κ] in
theorem countP_filter_le (t : Table κ α) (q : κ → α → Bool) (p : α → Bool) :
    (t.filter q).values.countP p ≤ t.values.countP p := (List.filter_sublist.map _).countP_le

omit [DecidableEq κ] in
theorem countP_insert_le (t : Table κ α) (k : κ) (v : α) (p : α → Bool) :
    (t.insert k v).values.countP p ≤ t.values.countP p + (p v).toNat := by
  have hput (rows : List (κ × α)) :
      ((putRow k v rows).map (·.2)).countP p ≤ (rows.map (·.2)).countP p + (p v).toNat := by
    have hv : (if p v = true then 1 else 0) = (p v).toNat := by cases p v <;> rfl
    induction rows with
    | nil => simp only [putRow, List.map_cons, List.map_nil, List.countP_cons, hv, Nat.le_refl]
    | cons r rs ih =>
      simp only [putRow]
      split
      · simp only [List.map_cons, List.countP_cons, hv, Nat.le_refl]
      · split
        · simp only [List.map_cons, List.countP_cons]
          omega
        · simp only [List.map_cons, List.countP_cons]
          omega
  exact hput t.rows

theorem countP_erase_lt (t : Table κ α) {k : κ} {v : α} {p : α → Bool} (h : t.get? k = some v) (hv : p v = true) :
    (t.erase k).values.countP p < t.values.countP p := by
  have hsplit := List.countP_eq_countP_filter_add t.rows (fun r => p r.2) (fun r => r.1 != k)
  have hpos : 0 < (t.rows.filter fun r => !(r.1 != k)).countP fun r => p r.2 :=
    List.countP_pos_iff.2 ⟨(k, v), List.mem_filter.2 ⟨(get?_eq_some_iff t).1 h, by simp⟩, hv⟩
  simp only [values, List.countP_map, erase, filter, Function.comp_def]
  omega

end Table

end CashShop
