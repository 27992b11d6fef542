import CashShop.Proofs.Work
import CashShop.Work.Stores

namespace CashShop

open Work

variable {d d' : Draft}

namespace Draft

def enterWallet (d : Draft) (w : Wallet) : Draft :=
  { d with tables := { d.tables with wallets := d.tables.wallets.insert w.account w } }.put .walletStatus
    ⟨toString w.account, (WalletEvent.created w).toJson⟩

def setWallet (d : Draft) (w : Wallet) : Draft :=
  { d with tables := { d.tables with wallets := d.tables.wallets.insert w.account w } }.put .walletStatus
    ⟨toString w.account, (WalletEvent.updated w).toJson⟩

def dropWallet (d : Draft) (a : AccountId) : Draft :=
  let cleared := { d with tables := { d.tables with wallets := d.tables.wallets.erase a } }
  if d.tables.wallets.contains a then cleared.put .walletStatus ⟨toString a, (WalletEvent.deleted a).toJson⟩
  else cleared

def nextItem (d : Draft) (n : NewItem) : Item := { n with id := ⟨d.tables.lastItem + 1⟩ }

def enterItem (d : Draft) (n : NewItem) : Draft :=
  { d with tables := { d.tables with
      items := d.tables.items.insert (d.nextItem n).id (d.nextItem n)
      lastItem := d.tables.lastItem + 1 } }.put .itemStatus
    ⟨toString (d.nextItem n).id, (ItemEvent.ofItem (d.nextItem n)).toJson⟩

def placeAsset (d : Draft) (a : Asset) : Draft :=
  { d with tables := { d.tables with assets := d.tables.assets ++ [a] } }

def keepAssets (d : Draft) (p : Asset → Bool) : Draft :=
  { d with tables := { d.tables with assets := d.tables.assets.filter p } }

theorem frame_dropWallet (d : Draft) (a : AccountId) : (d.dropWallet a).base = d.base ∧
    (d.dropWallet a).claimed = d.claimed ∧
      (d.dropWallet a).tables = { d.tables with wallets := d.tables.wallets.erase a } := by
  unfold dropWallet
  split <;> exact ⟨rfl, rfl, rfl⟩

theorem of_compartmentOf? {a : AccountId} {l : ClassLine} {k : Compartment}
    (filed : ∀ c k, d.tables.compartments.get? c = some k → k.id = c) (h : d.compartmentOf? a l = some k) :
    d.tables.compartments.get? k.id = some k ∧ k.account = a ∧ k.line = l := by
  obtain ⟨c, hc⟩ := Table.mem_values_iff.1 (List.mem_of_find?_eq_some h)
  obtain ⟨ha, hl⟩ : k.account = a ∧ k.line = l := by simpa using List.find?_some h
  exact ⟨filed c k hc ▸ hc, ha, hl⟩

end Draft

namespace Ledger

theorem yields_wallet {a : AccountId} {w : Wallet} :
    Yields (wallet a) d w d' ↔ d.tables.wallets.get? a = some w ∧ d = d' := by
  simp [wallet, Draft.wallet?]

theorem yields_create {w w' : Wallet} : Yields (create w) d w' d' ↔
    d.tables.wallets.get? w.account = none ∧ w = w' ∧ d.enterWallet w = d' := by
  simp [create, announce, Draft.insertWallet_eq_ok, Draft.enterWallet, and_assoc, and_comm (b := w = w')]

theorem yields_update {w w' : Wallet} : Yields (update w) d w' d' ↔
    .updateWallet ∉ d.base.faults ∧ d.tables.wallets.contains w.account = true ∧ w = w' ∧ d.setWallet w = d' := by
  simp only [update, announce, yields_tryStep_bind, Draft.updateWallet_eq_ok, yields_ite, yields_put_bind, yields_pure,
    not_yields_throw, and_false, or_false]
  constructor
  · rintro ⟨found, d1, ⟨hf, hc, rfl⟩, rfl, rfl, rfl⟩
    exact ⟨hf, hc, rfl, rfl⟩
  · rintro ⟨hf, hc, rfl, rfl⟩
    exact ⟨true, _, ⟨hf, hc, rfl⟩, rfl, rfl, rfl⟩

theorem yields_delete {a : AccountId} {existed : Bool} : Yields (delete a) d existed d' ↔
    d.tables.wallets.contains a = existed ∧ d.dropWallet a = d' := by
  cases hc : d.tables.wallets.contains a <;> cases existed <;>
    simp [delete, announce, Draft.deleteWallet, Draft.dropWallet, hc]

@[simp] theorem ensureAffordable_eq_ok {w : Wallet} {c : Currency} {price : UInt32} {u : Unit} :
    ensureAffordable w c price = .ok u ↔ w.canAfford c price = true := by
  unfold ensureAffordable
  split <;> simp [*]

theorem yields_debit {a : AccountId} {c : Currency} {amount : UInt32} {w' : Wallet} :
    Yields (debit a c amount) d w' d' ↔ ∃ w, d.tables.wallets.get? a = some w ∧ w.canAfford c amount = true ∧
      .updateWallet ∉ d.base.faults ∧ d.tables.wallets.contains w.account = true ∧ w.spend c amount = w' ∧
      d.setWallet (w.spend c amount) = d' := by
  simp [debit, yields_bind, yields_wallet, yields_update, and_assoc]

end Ledger

def ItemSpec.newItem (spec : ItemSpec) (c : CashId) (expiration : Instant) : NewItem :=
  ⟨c, spec.template, spec.quantity, 0, spec.purchasedBy, expiration⟩

theorem Registry.yields_create {spec : ItemSpec} {now : Instant} {candidates : List CashId} {i : Item} :
    Yields (create spec now candidates) d i d' ↔ ∃ c, candidates.find? (!d.hasCashId ·) = some c ∧
      ∃ e, now.addDays? spec.expirationDays = some e ∧ .insertItem ∉ d.base.faults ∧
      d.tables.lastItem.toNat + 1 < UInt32.size ∧ d.nextItem (spec.newItem c e) = i ∧
      d.enterItem (spec.newItem c e) = d' := by
  simp only [create, yields_read_bind, yields_orElseThrow_bind, yields_tryStep_bind, yields_put_bind, yields_pure,
    Draft.insertItem_eq_ok]
  constructor
  · rintro ⟨c, hc, e, he, i', d1, ⟨hf, hn, rfl, rfl⟩, rfl, rfl⟩
    exact ⟨c, hc, e, he, hf, hn, rfl, rfl⟩
  · rintro ⟨c, hc, e, he, hf, hn, rfl, rfl⟩
    exact ⟨c, hc, e, he, _, _, ⟨hf, hn, rfl, rfl⟩, rfl, rfl⟩

namespace Placement

theorem yields_create {id : AssetId} {compartment : CompartmentId} {item : ItemId} {a : Asset} :
    Yields (create id compartment item) d a d' ↔ ∃ k, d.tables.compartments.get? compartment = some k ∧
      .listAssets ∉ d.base.faults ∧
      (d.tables.assets.filter (·.compartment = compartment)).length < k.capacity.toNat ∧
      .insertAsset ∉ d.base.faults ∧ ⟨id, compartment, item⟩ = a ∧ d.placeAsset ⟨id, compartment, item⟩ = d' := by
  simp only [create, yields_read_bind, yields_orElseThrow_bind, yields_tryRead_bind, yields_ite, not_yields_throw_bind,
    and_false, false_or, yields_tryWrite_bind, yields_pure, Draft.insertAsset_eq_ok, Draft.assetsIn_eq_ok,
    Draft.compartment?, Nat.not_le]
  constructor
  · rintro ⟨k, hk, assets, ⟨hl, rfl⟩, hroom, d1, ⟨hi, -, rfl⟩, rfl, rfl⟩
    exact ⟨k, hk, hl, hroom, hi, rfl, rfl⟩
  · rintro ⟨k, hk, hl, hroom, hi, rfl, rfl⟩
    exact ⟨k, hk, _, ⟨hl, rfl⟩, hroom, _, ⟨hi, by simp [hk], rfl⟩, rfl, rfl⟩

theorem yields_delete {id : AssetId} {existed : Bool} : Yields (delete id) d existed d' ↔
    decide (0 < d.tables.assets.countP (·.id = id)) = existed ∧ d.keepAssets (fun a => a.id ≠ id) = d' := by
  simp only [delete, yields_step_bind, Draft.deleteAssets, yields_pure, Draft.keepAssets, decide_not]

theorem yields_deleteItem {i : ItemId} {n : Nat} : Yields (deleteItem i) d n d' ↔
    d.tables.assets.countP (·.item = i) = n ∧ d.keepAssets (fun a => a.item ≠ i) = d' := by
  simp [deleteItem, Draft.deleteAssets, Draft.keepAssets]

end Placement

namespace Draft

def openCompartment (d : Draft) (c : Compartment) : Except Fault Draft :=
  (d.insertCompartment c).map fun d' =>
    d'.put .compartmentStatus ⟨toString c.account, (CompartmentEvent.created c.ref c.capacity).toJson⟩

def openInventory (d : Draft) (a : AccountId) (capacity : UInt32) (id : ClassLine → CompartmentId) :
    Except Fault Draft := ClassLine.all.foldlM (fun d l => d.openCompartment ⟨id l, a, l, capacity⟩) d

def closeCompartment (d : Draft) (c : Compartment) : Draft :=
  { d with tables := { d.tables with
      assets := d.tables.assets.filter fun a => a.compartment ≠ c.id
      compartments := d.tables.compartments.erase c.id } }.put .compartmentStatus
    ⟨toString c.account, (CompartmentEvent.deleted c.ref).toJson⟩

def closeInventory (d : Draft) (a : AccountId) : Draft := (d.compartmentsOf a).foldl closeCompartment d

theorem openCompartment_eq_ok {c : Compartment} : d.openCompartment c = .ok d' ↔
    d.compartmentOf? c.account c.line = none ∧
      { d with tables := { d.tables with compartments := d.tables.compartments.insert c.id c } }.put .compartmentStatus
        ⟨toString c.account, (CompartmentEvent.created c.ref c.capacity).toJson⟩ = d' := by
  unfold openCompartment insertCompartment
  cases d.compartmentOf? c.account c.line <;> simp [Except.map]

theorem frame_openCompartment {c : Compartment} (h : d.openCompartment c = .ok d') :
    d'.base = d.base ∧ d'.claimed = d.claimed ∧
      d'.tables = { d.tables with compartments := d'.tables.compartments } := by
  obtain ⟨-, rfl⟩ := openCompartment_eq_ok.1 h
  exact ⟨rfl, rfl, rfl⟩

/-- What holds of a draft and of every draft after one more compartment, holds after all of them. -/
theorem foldlM_open_induction {P : Draft → Prop} {ls : List ClassLine} {k : ClassLine → Compartment}
    (h : ls.foldlM (fun d l => d.openCompartment (k l)) d = .ok d') (hd : P d)
    (hstep : ∀ l d d', d.openCompartment (k l) = .ok d' → P d → P d') : P d' := by
  induction ls generalizing d with
  | nil =>
    cases h
    exact hd
  | cons l ls ih =>
    simp only [List.foldlM_cons, bind, Except.bind] at h
    split at h
    · cases h
    · rename_i d1 h1
      exact ih h (hstep l d d1 h1 hd)

theorem frame_foldlM_open {ls : List ClassLine} {k : ClassLine → Compartment}
    (h : ls.foldlM (fun d l => d.openCompartment (k l)) d = .ok d') :
    d'.base = d.base ∧ d'.claimed = d.claimed ∧
      d'.tables = { d.tables with compartments := d'.tables.compartments } := by
  refine foldlM_open_induction (P := fun d1 => d1.base = d.base ∧ d1.claimed = d.claimed ∧
    d1.tables = { d.tables with compartments := d1.tables.compartments }) h ⟨rfl, rfl, rfl⟩ ?_
  rintro l d1 d2 h2 ⟨hb, hc, ht⟩
  obtain ⟨hb', hc', ht'⟩ := frame_openCompartment h2
  exact ⟨hb'.trans hb, hc'.trans hc, by rw [ht', ht]⟩

theorem frame_openInventory {a : AccountId} {capacity : UInt32} {id : ClassLine → CompartmentId}
    (h : d.openInventory a capacity id = .ok d') :
    d'.base = d.base ∧ d'.claimed = d.claimed ∧
      d'.tables = { d.tables with compartments := d'.tables.compartments } := frame_foldlM_open h

theorem get?_foldl_erase (cs : List Compartment) (t : Table CompartmentId Compartment) (id : CompartmentId) :
    (cs.foldl (fun t c => t.erase c.id) t).get? id = if id ∈ cs.map (·.id) then none else t.get? id := by
  induction cs generalizing t with
  | nil => simp
  | cons c cs ih =>
    simp only [List.foldl_cons, ih, Table.get?_erase, List.map_cons, List.mem_cons]
    by_cases hc : id = c.id <;> simp [hc]

theorem frame_foldl_close (cs : List Compartment) (d : Draft) :
    (cs.foldl closeCompartment d).base = d.base ∧ (cs.foldl closeCompartment d).claimed = d.claimed ∧
      (cs.foldl closeCompartment d).tables = { d.tables with
        assets := d.tables.assets.filter fun a => a.compartment ∉ cs.map (·.id)
        compartments := cs.foldl (fun t c => t.erase c.id) d.tables.compartments } := by
  induction cs generalizing d with
  | nil => exact ⟨rfl, rfl, by simp [List.filter_eq_self.2]⟩
  | cons c cs ih =>
    obtain ⟨hb, hc, ht⟩ := ih (d.closeCompartment c)
    refine ⟨hb, hc, ?_⟩
    rw [List.foldl_cons, ht]
    simp [closeCompartment, List.filter_filter, Bool.and_comm]

theorem frame_closeInventory (d : Draft) (a : AccountId) :
    (d.closeInventory a).base = d.base ∧ (d.closeInventory a).claimed = d.claimed ∧
      (d.closeInventory a).tables = { d.tables with
        assets := d.tables.assets.filter fun x => x.compartment ∉ (d.compartmentsOf a).map (·.id)
        compartments := (d.compartmentsOf a).foldl (fun t c => t.erase c.id) d.tables.compartments } :=
  frame_foldl_close (d.compartmentsOf a) d

end Draft

namespace Holdings

theorem yields_create {c c' : Compartment} :
    Yields (create c) d c' d' ↔ c = c' ∧ d.openCompartment c = .ok d' := by
  simp only [create, announce, yields_tryWrite_bind, yields_put_bind, yields_pure, Draft.openCompartment]
  cases d.insertCompartment c <;> simp [Except.map]

theorem yields_mapM_create {ls : List ClassLine} {k : ClassLine → Compartment} {cs : List Compartment} :
    Yields (ls.mapM fun l => create (k l)) d cs d' ↔
      ls.map k = cs ∧ ls.foldlM (fun d l => d.openCompartment (k l)) d = .ok d' := by
  induction ls generalizing d d' cs with
  | nil =>
    rw [List.mapM_nil, yields_pure]
    simp [pure, Except.pure]
  | cons l ls ih =>
    simp only [List.mapM_cons, yields_bind, yields_create, ih, yields_pure, List.foldlM_cons, List.map_cons]
    cases ho : d.openCompartment (k l) with
    | error e => simp [bind, Except.bind]
    | ok d1 =>
      simp only [bind, Except.bind, Except.ok.injEq]
      constructor
      · rintro ⟨c, d2, ⟨rfl, rfl⟩, cs', d3, ⟨rfl, hf⟩, rfl, rfl⟩
        exact ⟨rfl, hf⟩
      · rintro ⟨rfl, hf⟩
        exact ⟨k l, d1, ⟨rfl, rfl⟩, _, _, ⟨rfl, hf⟩, rfl, rfl⟩

theorem yields_createInventory {a : AccountId} {capacity : UInt32} {id : ClassLine → CompartmentId}
    {cs : List Compartment} : Yields (createInventory a capacity id) d cs d' ↔
      ClassLine.all.map (fun l => ⟨id l, a, l, capacity⟩) = cs ∧ ∃ d1, d.openInventory a capacity id = .ok d1 ∧
        d1.put .inventoryStatus ⟨toString a, (InventoryEvent.created a).toJson⟩ = d' := by
  simp only [createInventory, announceInventory, yields_bind (x := List.mapM _ _), yields_mapM_create,
    yields_put_bind, yields_pure, Draft.openInventory]
  constructor
  · rintro ⟨cs', d1, ⟨rfl, hd⟩, rfl, rfl⟩
    exact ⟨rfl, d1, hd, rfl⟩
  · rintro ⟨rfl, d1, hd, rfl⟩
    exact ⟨_, d1, ⟨rfl, hd⟩, rfl, rfl⟩

theorem yields_deleteWithAssets {c : Compartment} {u : Unit} :
    Yields (deleteWithAssets c) d u d' ↔ d.closeCompartment c = d' := by
  simp [deleteWithAssets, announce, Draft.deleteAssets, Draft.deleteCompartment, Draft.closeCompartment]

theorem yields_forM_deleteWithAssets {cs : List Compartment} {u : Unit} :
    Yields (forM cs deleteWithAssets) d u d' ↔ cs.foldl Draft.closeCompartment d = d' := by
  induction cs generalizing d d' with
  | nil => simp
  | cons c cs ih =>
    simp only [List.forM_cons, yields_bind, yields_deleteWithAssets, ih, List.foldl_cons]
    exact ⟨fun ⟨_, d1, hd, h⟩ => hd ▸ h, fun h => ⟨(), _, rfl, h⟩⟩

theorem yields_deleteInventory {a : AccountId} {n : Nat} : Yields (deleteInventory a) d n d' ↔
    (d.compartmentsOf a).length = n ∧
      (d.closeInventory a).put .inventoryStatus ⟨toString a, (InventoryEvent.deleted a).toJson⟩ = d' := by
  simp only [deleteInventory, deleteAll, announceInventory, yields_bind (x := Work.read _ >>= _), yields_read_bind,
    List.forM_eq_forM, yields_bind (x := forM _ _), yields_put_bind, yields_pure, yields_forM_deleteWithAssets,
    Draft.closeInventory]
  constructor
  · rintro ⟨n', d1, ⟨-, d2, rfl, rfl, rfl⟩, rfl, rfl⟩
    exact ⟨rfl, rfl⟩
  · rintro ⟨rfl, rfl⟩
    exact ⟨_, _, ⟨(), _, rfl, rfl, rfl⟩, rfl, rfl⟩

end Holdings

end CashShop
