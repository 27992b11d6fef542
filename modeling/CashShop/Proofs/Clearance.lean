import CashShop.Proofs.Tenancy

namespace CashShop

open Work

namespace Table

variable {κ α : Type} [Key κ] [DecidableEq κ] {t : Table κ α} {k : κ}

theorem erase_insert (v : α) (h : t.get? k = none) : (t.insert k v).erase k = t := by
  refine ext_get? fun j => ?_
  rw [get?_erase, get?_insert]
  split
  · rename_i hj
    rw [hj, h]
  · rfl

theorem erase_eq_self (h : t.get? k = none) : t.erase k = t := by
  refine ext_get? fun j => ?_
  rw [get?_erase]
  split
  · rename_i hj
    rw [hj, h]
  · rfl

end Table

namespace Tables

/-- The tables without the wallet of an account, its compartments, and the assets that lie in these. -/
def without (t : Tables) (a : AccountId) : Tables :=
  { t with
    wallets := t.wallets.erase a
    compartments := t.compartments.filter fun _ k => k.account ≠ a
    assets := t.assets.filter fun x => (t.compartments.get? x.compartment).all (·.account ≠ a) }

/-- The account has an empty wallet and one empty compartment for each class line, all of this capacity. -/
structure Opened (t : Tables) (a : AccountId) (capacity : UInt32) (id : ClassLine → CompartmentId) : Prop where
  wallet : t.wallets.get? a = some ⟨a, 0, 0, 0⟩
  compartments : (t.compartments.values.filter (·.account = a)).Perm
    [⟨id .explorer, a, .explorer, capacity⟩, ⟨id .cygnus, a, .cygnus, capacity⟩, ⟨id .legend, a, .legend, capacity⟩]
  stored : ∀ l, t.compartments.get? (id l) = some ⟨id l, a, l, capacity⟩
  vacant : ∀ l, occupancy t.assets (id l) = 0

variable {t : Tables} {a : AccountId}

theorem get?_compartments_without {c : CompartmentId} {k : Compartment} :
    (t.without a).compartments.get? c = some k ↔ t.compartments.get? c = some k ∧ k.account ≠ a := by
  rw [without, Table.get?_filter, Option.filter_eq_some_iff, decide_eq_true_eq]

theorem without_eq_self (hw : t.wallets.get? a = none) (hk : ∀ c k, t.compartments.get? c = some k → k.account ≠ a) :
    t.without a = t := by
  have hcompartments : (t.compartments.filter fun _ k => k.account ≠ a) = t.compartments :=
    Table.ext_get? fun c => Option.ext fun k =>
      get?_compartments_without.trans ⟨And.left, fun h => ⟨h, hk c k h⟩⟩
  have hassets : (t.assets.filter fun x => (t.compartments.get? x.compartment).all (·.account ≠ a)) = t.assets :=
    List.filter_eq_self.2 fun x _ => (Option.all_eq_true _ _).2 fun k h => decide_eq_true (hk x.compartment k h)
  rw [without, Table.erase_eq_self hw, hcompartments, hassets]

theorem without_without (t : Tables) (a : AccountId) : (t.without a).without a = t.without a :=
  without_eq_self (by simp [without]) fun _ _ hk => (get?_compartments_without.1 hk).2

theorem Shaped.unowned (h : t.Shaped) (hw : t.wallets.get? a = none) :
    ∀ c k, t.compartments.get? c = some k → k.account ≠ a := by
  obtain ⟨hsome, -⟩ | ⟨-, hk⟩ := h.accounts a
  · rw [hw] at hsome
    cases hsome
  · exact hk

theorem Shaped.without (h : t.Shaped) (a : AccountId) : (t.without a).Shaped where
  wallets b w hw := by
    rw [Tables.without, Table.get?_erase] at hw
    split at hw
    · cases hw
    · exact h.wallets b w hw
  compartments c k hk := h.compartments c k (get?_compartments_without.1 hk).1
  accounts b := by
    have hlines : (t.without a).linesOf b = if b = a then [] else t.linesOf b := linesOf_of_filter rfl b
    have hget : (t.without a).wallets.get? b = if b = a then none else t.wallets.get? b := Table.get?_erase ..
    by_cases hb : b = a
    · exact .inr ⟨by rw [hget, if_pos hb], linesOf_eq_nil_iff.1 (by rw [hlines, if_pos hb])⟩
    · rw [hlines, hget, if_neg hb, if_neg hb]
      exact (h.accounts b).imp_right (And.imp_right fun hk c k hc => hk c k (get?_compartments_without.1 hc).1)
  assets x hx := by
    obtain ⟨hmem, hkept⟩ := List.mem_filter.1 hx
    obtain ⟨k, hk⟩ := Option.isSome_iff_exists.1 (h.assets x hmem)
    rw [hk] at hkept
    exact Option.isSome_iff_exists.2 ⟨k, get?_compartments_without.2 ⟨hk, of_decide_eq_true hkept⟩⟩

end Tables

namespace Draft

variable {d d' : Draft} {s : Store} {a : AccountId} {ls : List ClassLine} {k : ClassLine → Compartment}

theorem committed_eq (hb : d.base = s) (hc : d.claimed = []) : d.committed = { s with tables := d.tables } := by
  rw [committed, hb, hc]
  rfl

theorem get?_foldlM_open_iff (h : ls.foldlM (fun d l => d.openCompartment (k l)) d = .ok d')
    (hd : ∀ c x, d.tables.compartments.get? c = some x → x.id = c) (hids : (ls.map fun l => (k l).id).Nodup)
    (hfree : ∀ l ∈ ls, d.tables.compartments.get? (k l).id = none) {c : CompartmentId} {x : Compartment} :
    d'.tables.compartments.get? c = some x ↔
      (∃ l ∈ ls, k l = x ∧ x.id = c) ∨ d.tables.compartments.get? c = some x := by
  rw [Table.get?_eq_some_iff_mem_values (filed_foldlM_open h hd), Table.get?_eq_some_iff_mem_values hd,
    (perm_values_foldlM_open h hids hfree).mem_iff, List.mem_append, List.mem_map, or_and_right]
  refine or_congr_left ⟨?_, ?_⟩
  · rintro ⟨⟨l, hl, rfl⟩, hid⟩
    exact ⟨l, hl, rfl, hid⟩
  · rintro ⟨l, hl, rfl, hid⟩
    exact ⟨⟨l, hl, rfl⟩, hid⟩

theorem tables_clear (hd : ∀ c x, s.tables.compartments.get? c = some x → x.id = c) (a : AccountId) :
    (((begin s).dropWallet a).closeInventory a).tables = s.tables.without a := by
  obtain ⟨-, -, hdrop⟩ := frame_dropWallet (begin s) a
  have hfiled : ∀ c x, ((begin s).dropWallet a).tables.compartments.get? c = some x → x.id = c := by
    rw [hdrop]
    exact hd
  have hassets (x : Asset) :
      decide (x.compartment ∉ (((begin s).dropWallet a).compartmentsOf a).map (·.id)) =
        (s.tables.compartments.get? x.compartment).all (·.account ≠ a) := by
    rw [Bool.eq_iff_iff, decide_eq_true_eq, mem_compartmentsOf_iff hfiled, hdrop, Option.all_eq_true]
    simp only [not_exists, not_and, decide_eq_true_eq]
    rfl
  have hcompartments := compartments_closeInventory hfiled a
  rw [(frame_closeInventory _ a).2.2] at hcompartments ⊢
  simp only [hassets, hdrop] at hcompartments ⊢
  rw [hcompartments]
  rfl

section Opening

variable {capacity : UInt32} {id : ClassLine → CompartmentId}
  (opened : ((begin s).enterWallet (.empty a)).openInventory a capacity id = .ok d) (hshape : s.tables.Shaped)
  (hids : (ClassLine.all.map id).Nodup) (hunused : ∀ l ∈ ClassLine.all, s.tables.compartments.get? (id l) = none)

include opened hshape hids hunused

theorem get?_openInventory_iff {c : CompartmentId} {x : Compartment} : d.tables.compartments.get? c = some x ↔
    (∃ l, ⟨id l, a, l, capacity⟩ = x ∧ x.id = c) ∨ s.tables.compartments.get? c = some x := by
  rw [openInventory] at opened
  refine (get?_foldlM_open_iff opened hshape.compartments hids hunused).trans (or_congr_left ?_)
  exact exists_congr fun l => and_iff_right (by cases l <;> decide)

theorem opened_openInventory (hw : s.tables.wallets.get? a = none) : d.tables.Opened a capacity id := by
  obtain ⟨-, -, htables⟩ := frame_openInventory opened
  constructor
  · rw [htables]
    exact (Table.get?_insert ..).trans (if_pos rfl)
  · rw [openInventory] at opened
    have hold : s.tables.compartments.values.filter (·.account = a) = [] :=
      List.map_eq_nil_iff.1 (Tables.linesOf_eq_nil_iff.2 (hshape.unowned hw))
    refine ((perm_values_foldlM_open opened hids hunused).filter _).trans (.of_eq ?_)
    rw [List.filter_append]
    change _ ++ s.tables.compartments.values.filter (·.account = a) = _
    rw [hold]
    simp [ClassLine.all]
  · exact fun l => (get?_openInventory_iff opened hshape hids hunused).2 (.inl ⟨l, rfl, rfl⟩)
  · intro l
    rw [htables]
    exact occupancy_eq_zero_of_housed hshape.assets (hunused l (by cases l <;> decide))

/-- Without the account that has been opened, the tables are what they were. -/
theorem without_openInventory (hw : s.tables.wallets.get? a = none) : d.tables.without a = s.tables := by
  obtain ⟨-, -, htables⟩ := frame_openInventory opened
  have hnone := hshape.unowned hw
  have hwallets : d.tables.wallets.erase a = s.tables.wallets := by
    rw [htables]
    exact Table.erase_insert _ hw
  have hcompartments : (d.tables.compartments.filter fun _ k => k.account ≠ a) = s.tables.compartments := by
    refine Table.ext_get? fun c => Option.ext fun k => Tables.get?_compartments_without.trans ?_
    rw [get?_openInventory_iff opened hshape hids hunused, or_and_right]
    constructor
    · rintro (⟨⟨l, rfl, -⟩, ha⟩ | ⟨hk, -⟩)
      · exact absurd rfl ha
      · exact hk
    · exact fun hk => .inr ⟨hk, hnone c k hk⟩
  have hassets : (d.tables.assets.filter fun x =>
      (d.tables.compartments.get? x.compartment).all (·.account ≠ a)) = s.tables.assets := by
    have hsame : d.tables.assets = s.tables.assets := by
      rw [htables]
      rfl
    rw [hsame]
    refine List.filter_eq_self.2 fun x hx => ?_
    obtain ⟨k, hk⟩ := Option.isSome_iff_exists.1 (hshape.assets x hx)
    rw [(get?_openInventory_iff opened hshape hids hunused).2 (.inr hk)]
    exact decide_eq_true (hnone x.compartment k hk)
  rw [Tables.without, hwallets, hcompartments, hassets, htables]
  rfl

end Opening

end Draft

namespace Service

variable {s : Service} {amb : Ambient} {a : AccountId}

theorem shaped_after {n : Nat} {h : List Event} (hids : (s.renewed n).FreshCompartmentIds h) :
    ((s.renewed n).after h).store.tables.Shaped :=
  (furnished_after hids Tables.furnished_empty).shaped (ownWallets_after (fun a w hw => by cases hw) h)
    (fit_after hids Fit.empty)

theorem call_accountDeleted (hd : ∀ c k, s.store.tables.compartments.get? c = some k → k.id = c)
    (hf : .commit ∉ s.store.faults) (amb : Ambient) (a : AccountId) :
    (s.call amb (.accountDeleted a)).1 = .ok .deleted ∧
    (s.call amb (.accountDeleted a)).2.store = { s.store with tables := s.store.tables.without a } ∧
    (s.call amb (.accountDeleted a)).2.settings = s.settings := by
  obtain ⟨d, commits, hcall⟩ := call_accountDeleted_of_faultless amb a hf
  have hbase := commits.base
  cases commits
  obtain ⟨-, hclaimed, -⟩ := Draft.frame_closeInventory ((Draft.begin s.store).dropWallet a) a
  rw [(Draft.frame_dropWallet _ a).2.1] at hclaimed
  rw [hcall]
  refine ⟨rfl, (Draft.committed_eq hbase hclaimed).trans ?_, rfl⟩
  rw [Draft.tables_put, Draft.tables_clear hd]

theorem call_accountCreated_of_known (hw : (s.store.tables.wallets.get? a).isSome = true) :
    s.call amb (.accountCreated a) = (.ok (.setup .alreadyExists), s) := by
  have hy : Yields (AccountSetup.work a s.settings.compartmentCapacity amb.compartment) (Draft.begin s.store)
      .alreadyExists (Draft.begin s.store) := AccountSetup.yields_work.2 (.inl ⟨hw, rfl, rfl⟩)
  rw [call, accountCreated, run_of_not_kept hy rfl]
  rfl

theorem call_accountCreated_of_fresh (hshape : s.store.tables.Shaped) (hf : .commit ∉ s.store.faults)
    (hw : s.store.tables.wallets.get? a = none) (hids : s.OpensFresh (.call amb (.accountCreated a))) :
    (s.call amb (.accountCreated a)).1 = .ok (.setup .created) ∧ ∃ t : Tables,
      (s.call amb (.accountCreated a)).2.store = { s.store with tables := t } ∧
        t.Opened a s.settings.compartmentCapacity amb.compartment ∧ t.without a = s.store.tables ∧
          ∀ c k, t.compartments.get? c = some k → k.id = c := by
  obtain ⟨hnodup, hunused⟩ := hids (amb, a) rfl hw
  have hlines := Tables.linesOf_eq_nil_iff.2 (hshape.unowned hw)
  have hok : (s.call amb (.accountCreated a)).1 = .ok (.setup .created) := by
    rw [call_accountCreated_of_unfurnished amb hw hlines, if_neg hf]
  obtain ⟨_, commits, hstore, -⟩ := committed_of_done hok rfl (by simp) (by simp)
  cases commits with
  | @accountCreated _ d _ opened =>
    obtain ⟨hbase, hclaimed, -⟩ := Draft.frame_openInventory opened
    exact ⟨hok, d.tables, hstore.trans (Draft.committed_eq hbase hclaimed),
      Draft.opened_openInventory opened hshape hnodup hunused hw,
      Draft.without_openInventory opened hshape hnodup hunused hw,
      Draft.filed_foldlM_open opened hshape.compartments⟩

/-- While nothing fails and the ids of new compartments are fresh, to close an account that has just been opened
restores the store. To close an account, whether there is one or not, takes out its wallet, its compartments and the
assets that lie in these and leaves all else in its order, and to close it once more changes nothing. To open an account
that there is changes and publishes nothing; to open it after it has been closed leaves an empty wallet and three empty
compartments, whatever it held. -/
theorem closing_undoes_opening (hshape : s.store.tables.Shaped) (hf : s.store.faults = []) (a : AccountId) :
    (∀ amb amb', s.store.tables.wallets.get? a = none → s.OpensFresh (.call amb (.accountCreated a)) →
      (s.call amb (.accountCreated a)).1 = .ok (.setup .created) ∧
      ((s.call amb (.accountCreated a)).2.call amb' (.accountDeleted a)).1 = .ok .deleted ∧
      ((s.call amb (.accountCreated a)).2.call amb' (.accountDeleted a)).2.store = s.store) ∧
    (∀ amb amb', (s.call amb (.accountDeleted a)).1 = .ok .deleted ∧
      (s.call amb (.accountDeleted a)).2.store = { s.store with tables := s.store.tables.without a } ∧
      ((s.call amb (.accountDeleted a)).2.call amb' (.accountDeleted a)).1 = .ok .deleted ∧
      ((s.call amb (.accountDeleted a)).2.call amb' (.accountDeleted a)).2.store =
        (s.call amb (.accountDeleted a)).2.store) ∧
    (∀ amb, (s.store.tables.wallets.get? a).isSome = true →
      s.call amb (.accountCreated a) = (.ok (.setup .alreadyExists), s)) ∧
    ∀ amb amb', (s.call amb (.accountDeleted a)).2.OpensFresh (.call amb' (.accountCreated a)) →
      ((s.call amb (.accountDeleted a)).2.call amb' (.accountCreated a)).1 = .ok (.setup .created) ∧
      ((s.call amb (.accountDeleted a)).2.call amb' (.accountCreated a)).2.store.tables.Opened a
        s.settings.compartmentCapacity amb'.compartment ∧
      ((s.call amb (.accountDeleted a)).2.call amb' (.accountCreated a)).2.store.tables.without a =
        s.store.tables.without a := by
  have hno (p : FaultPoint) : p ∉ s.store.faults := by simp [hf]
  refine ⟨?_, ?_, fun amb hw => call_accountCreated_of_known hw, ?_⟩
  · intro amb amb' hw hids
    obtain ⟨hok, t, hstore, -, hwithout, hfiled⟩ := call_accountCreated_of_fresh hshape (hno _) hw hids
    generalize (s.call amb (.accountCreated a)).2 = s' at hstore ⊢
    obtain ⟨hdeleted, hstore', -⟩ := call_accountDeleted (s := s') (by rwa [hstore]) (by rw [hstore]; exact hno _)
      amb' a
    refine ⟨hok, hdeleted, ?_⟩
    rw [hstore', hstore, hwithout]
  · intro amb amb'
    obtain ⟨hok, hstore, -⟩ := call_accountDeleted hshape.compartments (hno _) amb a
    generalize (s.call amb (.accountDeleted a)).2 = s' at hstore ⊢
    have hfiled : ∀ c k, s'.store.tables.compartments.get? c = some k → k.id = c := by
      rw [hstore]
      exact (hshape.without a).compartments
    obtain ⟨hok', hstore', -⟩ := call_accountDeleted hfiled (by rw [hstore]; exact hno _) amb' a
    refine ⟨hok, hstore, hok', ?_⟩
    rw [hstore', hstore, Tables.without_without]
  · intro amb amb'
    obtain ⟨-, hstore, hsettings⟩ := call_accountDeleted hshape.compartments (hno _) amb a
    generalize (s.call amb (.accountDeleted a)).2 = s' at hstore hsettings ⊢
    intro hids
    have hshape' : s'.store.tables.Shaped := by
      rw [hstore]
      exact hshape.without a
    have hw : s'.store.tables.wallets.get? a = none := by
      rw [hstore]
      exact (Table.get?_erase ..).trans (if_pos rfl)
    obtain ⟨hok, t, hstore', hopened, hwithout, -⟩ :=
      call_accountCreated_of_fresh hshape' (by rw [hstore]; exact hno _) hw hids
    rw [hstore']
    refine ⟨hok, hsettings ▸ hopened, ?_⟩
    rw [hwithout, hstore]

def elsewhere : Ambient := { Ambient.opening with compartment := fun l => ⟨.ofNat (10 + l.code.toNat)⟩ }

theorem closing_undoes_opening_sold : sold.store.tables.Shaped ∧ sold.store.faults = [] ∧
    sold.store.tables.wallets.get? ⟨2⟩ = none ∧ sold.OpensFresh (.call elsewhere (.accountCreated ⟨2⟩)) ∧
    ((sold.call elsewhere (.accountCreated ⟨2⟩)).2.call .opening (.accountDeleted ⟨2⟩)).2.store = sold.store ∧
    sold.store.tables.assets ≠ [] ∧ (sold.store.tables.without ⟨1⟩).assets = [] ∧
    (sold.call .opening (.accountDeleted ⟨1⟩)).2.OpensFresh (.call .opening (.accountCreated ⟨1⟩)) ∧
    ((sold.call .opening (.accountDeleted ⟨1⟩)).2.call .opening (.accountCreated ⟨1⟩)).2.store.tables.Opened ⟨1⟩ 55
      Ambient.opening.compartment := by
  have hshape : sold.store.tables.Shaped := shaped_after (s := kiosk) (n := 1)
    (h := [.call .opening (.accountCreated ⟨1⟩), .fund ⟨⟨1⟩, 1000, 0, 0⟩,
      .call .opening (.purchase ⟨7⟩ ⟨1, ⟨20⟩, none⟩)]) (by decide)
  have hfresh : sold.OpensFresh (.call elsewhere (.accountCreated ⟨2⟩)) := by decide
  have hfresh' : (sold.call .opening (.accountDeleted ⟨1⟩)).2.OpensFresh (.call .opening (.accountCreated ⟨1⟩)) := by
    decide
  obtain ⟨hrestored, -⟩ := closing_undoes_opening hshape rfl ⟨2⟩
  obtain ⟨-, -, -, hopened⟩ := closing_undoes_opening hshape rfl ⟨1⟩
  exact ⟨hshape, rfl, by decide, hfresh, (hrestored elsewhere .opening (by decide) hfresh).2.2, by decide, by decide,
    hfresh', (hopened .opening .opening hfresh').2.1⟩

end Service

end CashShop
