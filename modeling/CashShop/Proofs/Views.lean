import CashShop.Proofs.Filing
import CashShop.Proofs.Occupancy
import CashShop.Query

namespace CashShop

open Work

/-- The asset is joined with its item. -/
structure AssetView.Joins (s : Store) (x : AssetView) : Prop where
  resolved : ∀ i, x.item = .resolved i ↔ .readItem ∉ s.faults ∧ s.tables.items.get? x.asset.item = some i
  absent : x.item = .absent ↔ .readItem ∉ s.faults ∧ s.tables.items.get? x.asset.item = none
  unavailable : (∃ reason, x.item = .unavailable reason) ↔ .readItem ∈ s.faults

theorem AssetView.holds_iff {x : AssetView} {cash : CashId} :
    x.holds cash = true ↔ ∃ i, x.item = .resolved i ∧ i.cashId = cash := by
  unfold holds
  cases x.item <;> simp

namespace CompartmentView

/-- The view shows the compartment with its assets in the order of their insertion, each joined with its item, unless
they cannot be listed. -/
structure Shows (s : Store) (k : Compartment) (v : CompartmentView) : Prop where
  compartment : v.compartment = k
  listed : .listAssets ∉ s.faults → ∃ xs, v.assets = .resolved xs ∧
    xs.map (·.asset) = s.tables.assets.filter (·.compartment = k.id) ∧ ∀ x ∈ xs, x.Joins s
  unlisted : .listAssets ∈ s.faults → v.assets = .unavailable (Fault.injected .listAssets).message
  room : v.hasFreeSlot? = if .listAssets ∈ s.faults then none
    else some (decide (occupancy s.tables.assets k.id < k.capacity.toNat))

variable {v : CompartmentView} {cash : CashId} {x : AssetView}

/-- The search finds the first asset whose item is known to have the cash id. -/
theorem findByCashId?_eq_some_iff : v.findByCashId? cash = some x ↔ ∃ before after,
    v.assets = .resolved (before ++ x :: after) ∧ (∃ i, x.item = .resolved i ∧ i.cashId = cash) ∧
      ∀ y ∈ before, ∀ i, y.item = .resolved i → i.cashId ≠ cash := by
  have hnot (y : AssetView) : (!y.holds cash) = true ↔ ∀ i, y.item = .resolved i → i.cashId ≠ cash := by
    rw [Bool.not_eq_true', ← Bool.not_eq_true, AssetView.holds_iff]
    simp
  rw [findByCashId?, listed]
  cases v.assets with
  | resolved xs =>
    simp only [Decoration.resolved?, Option.getD_some, List.find?_eq_some_iff_append, AssetView.holds_iff, hnot,
      Decoration.resolved.injEq]
    constructor
    · rintro ⟨hx, before, after, rfl, hbefore⟩
      exact ⟨before, after, rfl, hx, hbefore⟩
    · rintro ⟨before, after, rfl, hx, hbefore⟩
      exact ⟨hx, before, after, rfl, hbefore⟩
  | absent | unavailable => simp [Decoration.resolved?]

theorem partialAssets_eq_countP {p : AssetView → Bool} (h : ∀ x, p x = true ↔ ∃ reason, x.item = .unavailable reason) :
    v.partialAssets = v.listed.countP p := by
  refine List.countP_congr fun x _ => ?_
  rw [h]
  cases x.item <;> simp [Decoration.isPartial]

end CompartmentView

namespace Draft

variable {s : Store} {a : AccountId} {k : Compartment}

theorem joins_assetView (s : Store) (x : Asset) : ((begin s).assetView x).Joins s := by
  by_cases hf : FaultPoint.readItem ∈ s.faults
  · constructor <;> simp [assetView, item?, check, begin, hf, bind, Except.bind, Decoration.ofLookup]
  · constructor <;> cases hi : s.tables.items.get? x.item <;>
      simp [assetView, item?, check, begin, hf, hi, bind, Except.bind, pure, Except.pure, Decoration.ofLookup]

theorem shows_compartmentView (s : Store) (k : Compartment) : ((begin s).compartmentView k).Shows s k where
  compartment := rfl
  listed hf := by
    have hviews : (begin s).assetViews k.id =
        .ok ((s.tables.assets.filter (·.compartment = k.id)).map (begin s).assetView) := by
      rw [assetViews, assetsIn_eq_ok.2 ⟨hf, rfl⟩]
      rfl
    refine ⟨_, by rw [compartmentView, hviews], ?_, ?_⟩
    · rw [List.map_map]
      exact List.map_id _
    · intro x hx
      obtain ⟨y, -, rfl⟩ := List.mem_map.1 hx
      exact joins_assetView s y
  unlisted hf := by
    rw [compartmentView, assetViews, assetsIn_of_fault hf]
    rfl
  room := by
    split
    · rename_i hf
      rw [Option.eq_none_iff_forall_ne_some]
      exact fun b hb => (hasFreeSlot?_compartmentView.1 hb).1 hf
    · rename_i hf
      exact hasFreeSlot?_compartmentView.2 ⟨hf, rfl⟩

theorem map_compartment_views (d : Draft) (ks : List Compartment) :
    (ks.map d.compartmentView).map (·.compartment) = ks := by
  rw [List.map_map]
  exact List.map_id _

end Draft

theorem Tables.Filed.mem_compartmentsOf_iff {t : Tables} (h : t.Filed) {d : Draft} (hd : d.tables = t) {a : AccountId}
    {k : Compartment} : k ∈ d.compartmentsOf a ↔ t.compartments.get? k.id = some k ∧ k.account = a := by
  rw [Draft.compartmentsOf, hd, List.mem_filter, decide_eq_true_eq,
    Table.get?_eq_some_iff_mem_values h.compartments, and_iff_left rfl]

theorem Purchase.exec_target (ch : Character) (d : Draft) : exec (target ch) d =
    ((d.compartmentOf? ch.account (.ofJob ch.job)).elim
      (.error (.compartmentNotFound (lineCompartmentName (.ofJob ch.job) ch.account))) (.ok ∘ d.compartmentView), d) := by
  have hread : exec (Work.read (·.compartmentOf? ch.account (.ofJob ch.job))) d =
      (.ok (d.compartmentOf? ch.account (.ofJob ch.job)), d) := rfl
  rw [target, exec_bind, hread]
  cases d.compartmentOf? ch.account (.ofJob ch.job) <;> rfl

namespace Query

variable {s : Store} {a : AccountId} {l : ClassLine} {k : Compartment} {v : CompartmentView}

theorem mem_compartments_iff (h : s.tables.Filed) : v ∈ compartments s a ↔
    (Draft.begin s).compartmentView v.compartment = v ∧
      s.tables.compartments.get? v.compartment.id = some v.compartment ∧ v.compartment.account = a := by
  rw [compartments, List.mem_map, ← h.mem_compartmentsOf_iff (d := Draft.begin s) rfl]
  constructor
  · rintro ⟨k, hk, rfl⟩
    exact ⟨rfl, hk⟩
  · rintro ⟨hv, hk⟩
    exact ⟨v.compartment, hk, hv⟩

theorem view_of_line_iff (h : s.tables.Filed) :
    ((Draft.begin s).compartmentOf? a l).map (Draft.begin s).compartmentView = some v ↔
      v ∈ compartments s a ∧ v.compartment.line = l := by
  rw [Option.map_eq_some_iff, mem_compartments_iff h]
  simp only [h.compartmentOf?_eq_some_iff (d := Draft.begin s) rfl, Tables.Allots]
  constructor
  · rintro ⟨k, ⟨hk, ha, hl⟩, rfl⟩
    exact ⟨⟨rfl, hk, ha⟩, hl⟩
  · rintro ⟨⟨hv, hk, ha⟩, hl⟩
    exact ⟨v.compartment, ⟨hk, ha, hl⟩, hv⟩

theorem compartment?_eq_some_iff (h : s.tables.Filed) {c : CompartmentId} :
    compartment? s c = some v ↔ v.compartment.id = c ∧ v ∈ compartments s v.compartment.account := by
  rw [compartment?, Option.map_eq_some_iff, mem_compartments_iff h]
  constructor
  · rintro ⟨k, hk, rfl⟩
    have hid : k.id = c := h.compartments c k hk
    subst hid
    exact ⟨rfl, rfl, hk, rfl⟩
  · rintro ⟨rfl, hv, hk, -⟩
    exact ⟨v.compartment, hk, hv⟩

/-- Where every row stands under its own id, an account has at most one compartment for each class line, and whatever
fails: the listing of an account shows its compartments and no others, each once and in ascending order of the ids, with
what lies in them. To look for a compartment by its id, or by its account and class line, finds the view that is listed,
and changes nothing. In a view, the search for a cash id finds the first asset whose item is known to have it, and those
are counted as partial whose items are unavailable. -/
theorem views_are_complete (h : s.tables.Filed) :
    (∀ a k, k ∈ (compartments s a).map (·.compartment) ↔
      s.tables.compartments.get? k.id = some k ∧ k.account = a) ∧
    (∀ a, ((compartments s a).map (·.compartment)).Pairwise fun k k' => k.id.val.toNat < k'.id.val.toNat) ∧
    (∀ a, ∀ v ∈ compartments s a, v.Shows s v.compartment) ∧
    (∀ c v, compartment? s c = some v ↔ v.compartment.id = c ∧ v ∈ compartments s v.compartment.account) ∧
    (∀ a l v, ((Draft.begin s).compartmentOf? a l).map (Draft.begin s).compartmentView = some v ↔
      v ∈ compartments s a ∧ v.compartment.line = l) ∧
    (∀ ch, (exec (Purchase.target ch) (Draft.begin s)).2 = Draft.begin s ∧ ∀ v,
      (exec (Purchase.target ch) (Draft.begin s)).1 = .ok v ↔
        v ∈ compartments s ch.account ∧ v.compartment.line = .ofJob ch.job) ∧
    (∀ (v : CompartmentView) cash x, v.findByCashId? cash = some x ↔ ∃ before after,
      v.assets = .resolved (before ++ x :: after) ∧ (∃ i, x.item = .resolved i ∧ i.cashId = cash) ∧
        ∀ y ∈ before, ∀ i, y.item = .resolved i → i.cashId ≠ cash) ∧
    ∀ (v : CompartmentView) (p : AssetView → Bool),
      (∀ x, p x = true ↔ ∃ reason, x.item = .unavailable reason) → v.partialAssets = v.listed.countP p := by
  refine ⟨?_, ?_, ?_, fun c v => compartment?_eq_some_iff h, fun a l v => view_of_line_iff h, ?_,
    fun v cash x => CompartmentView.findByCashId?_eq_some_iff, fun v p => CompartmentView.partialAssets_eq_countP⟩
  · intro a k
    rw [compartments, Draft.map_compartment_views]
    exact h.mem_compartmentsOf_iff rfl
  · intro a
    rw [compartments, Draft.map_compartment_views]
    exact (Table.pairwise_values h.compartments).filter _
  · intro a v hv
    obtain ⟨k, -, rfl⟩ := List.mem_map.1 hv
    exact Draft.shows_compartmentView s k
  · intro ch
    rw [Purchase.exec_target]
    refine ⟨rfl, fun v => ?_⟩
    rw [← view_of_line_iff h]
    cases (Draft.begin s).compartmentOf? ch.account (.ofJob ch.job) <;> simp

theorem views_are_complete_sold : Service.sold.store.tables.Filed ∧
    (compartments { Service.sold.store with faults := [.readItem] } ⟨1⟩).map (·.partialAssets) = [1, 0, 0] ∧
    ∀ v ∈ compartments { Service.sold.store with faults := [.readItem] } ⟨1⟩,
      v.Shows { Service.sold.store with faults := [.readItem] } v.compartment := by
  have filed : Service.sold.store.tables.Filed := by decide
  obtain ⟨-, -, hshows, -⟩ := views_are_complete (s := { Service.sold.store with faults := [.readItem] }) filed
  exact ⟨filed, by decide, hshows ⟨1⟩⟩

end Query

end CashShop
