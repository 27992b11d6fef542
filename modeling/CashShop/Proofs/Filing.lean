import CashShop.Proofs.Truthfulness

namespace CashShop

open Work

namespace Table

variable {κ α : Type} [Key κ] [DecidableEq κ] {t : Table κ α}

theorem forall_get?_iff {p : κ → α → Prop} : (∀ k v, t.get? k = some v → p k v) ↔ ∀ r ∈ t.rows, p r.1 r.2 := by
  simp only [get?_eq_some_iff]
  exact ⟨fun h r hr => h r.1 r.2 hr, fun h k v hkv => h (k, v) hkv⟩

theorem forall₂_get?_iff {p : κ → κ → α → α → Prop} :
    (∀ k j v w, t.get? k = some v → t.get? j = some w → p k j v w) ↔
      ∀ r ∈ t.rows, ∀ r' ∈ t.rows, p r.1 r'.1 r.2 r'.2 := by
  simp only [get?_eq_some_iff]
  exact ⟨fun h r hr r' hr' => h _ _ _ _ hr hr', fun h k j v w hv hw => h (k, v) hv (j, w) hw⟩

end Table

namespace Tables

variable {t : Tables} {a : AccountId} {l : ClassLine} {k : Compartment}

/-- Rows stand under their own ids, and an account has at most one compartment for each class line. -/
structure Filed (t : Tables) : Prop where
  wallets : t.OwnWallets
  items : ∀ i x, t.items.get? i = some x → x.id = i
  compartments : ∀ c k, t.compartments.get? c = some k → k.id = c
  lines : ∀ c c' k k', t.compartments.get? c = some k → t.compartments.get? c' = some k' →
    k.account = k'.account → k.line = k'.line → c = c'

theorem filed_iff : t.Filed ↔ (∀ r ∈ t.wallets.rows, r.2.account = r.1) ∧ (∀ r ∈ t.items.rows, r.2.id = r.1) ∧
    (∀ r ∈ t.compartments.rows, r.2.id = r.1) ∧ ∀ r ∈ t.compartments.rows, ∀ r' ∈ t.compartments.rows,
      r.2.account = r'.2.account → r.2.line = r'.2.line → r.1 = r'.1 := by
  have hwallets := Table.forall_get?_iff (t := t.wallets) (p := fun a w => w.account = a)
  have hitems := Table.forall_get?_iff (t := t.items) (p := fun i x => x.id = i)
  have hcompartments := Table.forall_get?_iff (t := t.compartments) (p := fun c k => k.id = c)
  have hlines := Table.forall₂_get?_iff (t := t.compartments)
    (p := fun c c' k k' => k.account = k'.account → k.line = k'.line → c = c')
  rw [← hwallets, ← hitems, ← hcompartments, ← hlines]
  exact ⟨fun h => ⟨h.wallets, h.items, h.compartments, h.lines⟩, fun ⟨hw, hi, hc, hl⟩ => ⟨hw, hi, hc, hl⟩⟩

instance (t : Tables) : Decidable t.Filed := decidable_of_iff' _ filed_iff

theorem Filed.contains_account (h : t.Filed) {w : Wallet} (hw : t.wallets.get? a = some w) :
    t.wallets.contains w.account = true := by
  rw [h.wallets a w hw, Table.contains, hw]
  rfl

def DistinctCashIds (t : Tables) : Prop :=
  ∀ i j x y, t.items.get? i = some x → t.items.get? j = some y → x.cashId = y.cashId → i = j

instance (t : Tables) : Decidable t.DistinctCashIds := decidable_of_iff' _ Table.forall₂_get?_iff

def Allots (t : Tables) (a : AccountId) (l : ClassLine) (k : Compartment) : Prop :=
  t.compartments.get? k.id = some k ∧ k.account = a ∧ k.line = l

theorem Filed.compartmentOf?_eq_some_iff (h : t.Filed) {d : Draft} (hd : d.tables = t) :
    d.compartmentOf? a l = some k ↔ t.Allots a l k := by
  subst hd
  constructor
  · exact Draft.of_compartmentOf? h.compartments
  · rintro ⟨hk, ha, hl⟩
    cases hf : d.compartmentOf? a l with
    | none =>
      have hno := List.find?_eq_none.1 hf k (Table.mem_values_iff.2 ⟨k.id, hk⟩)
      simp [ha, hl] at hno
    | some k' =>
      obtain ⟨hk', ha', hl'⟩ := Draft.of_compartmentOf? h.compartments hf
      have hid := h.lines k.id k'.id k k' hk hk' (ha.trans ha'.symm) (hl.trans hl'.symm)
      rw [← hk', ← hid, hk]

theorem Filed.compartmentOf?_eq_none_iff (h : t.Filed) {d : Draft} (hd : d.tables = t) :
    d.compartmentOf? a l = none ↔ ∀ k, ¬ t.Allots a l k := by
  rw [Option.eq_none_iff_forall_ne_some]
  exact forall_congr' fun k => not_congr (h.compartmentOf?_eq_some_iff hd)

end Tables

end CashShop
