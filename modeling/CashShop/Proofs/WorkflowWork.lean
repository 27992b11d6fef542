import CashShop.Proofs.StoreWork
import CashShop.Workflow.Account
import CashShop.Workflow.Capacity
import CashShop.Workflow.Handoff
import CashShop.Workflow.Purchase
import CashShop.Workflow.Transfer

namespace CashShop

open Work

variable {d d' : Draft} {amb : Ambient}

theorem AccountSetup.yields_work {a : AccountId} {capacity : UInt32} {id : ClassLine → CompartmentId}
    {r : AccountSetup} : Yields (work a capacity id) d r d' ↔
      (d.tables.wallets.get? a).isSome = true ∧ alreadyExists = r ∧ d = d' ∨
      d.tables.wallets.get? a = none ∧ created = r ∧
        ∃ d1, (d.enterWallet (.empty a)).openInventory a capacity id = .ok d1 ∧
          d1.put .inventoryStatus ⟨toString a, (InventoryEvent.created a).toJson⟩ = d' := by
  simp only [work, yields_read_bind, yields_ite, yields_pure, yields_bind (x := Ledger.create _), Ledger.yields_create,
    yields_bind (x := Holdings.createInventory _ _ _), Holdings.yields_createInventory, Draft.wallet?]
  cases hw : d.tables.wallets.get? a with
  | some w => simp
  | none =>
    simp only [Option.isSome_none, Bool.false_eq_true, false_and, not_false_eq_true, true_and, false_or]
    constructor
    · rintro ⟨w, d1, ⟨-, rfl, rfl⟩, cs, d2, ⟨rfl, d3, ho, rfl⟩, rfl, rfl⟩
      exact ⟨rfl, d3, ho, rfl⟩
    · rintro ⟨rfl, d3, ho, rfl⟩
      exact ⟨_, _, ⟨hw, rfl, rfl⟩, _, _, ⟨rfl, d3, ho, rfl⟩, rfl, rfl⟩

theorem AccountId.yields_deleteHoldings {a : AccountId} {u : Unit} : Yields a.deleteHoldings d u d' ↔
    ((d.dropWallet a).closeInventory a).put .inventoryStatus ⟨toString a, (InventoryEvent.deleted a).toJson⟩ = d' := by
  simp only [deleteHoldings, yields_bind, Ledger.yields_delete, Holdings.yields_deleteInventory, yields_pure]
  constructor
  · rintro ⟨b, d1, ⟨rfl, rfl⟩, n, d2, ⟨rfl, rfl⟩, -, rfl⟩
    rfl
  · rintro rfl
    exact ⟨_, _, ⟨rfl, rfl⟩, _, _, ⟨rfl, rfl⟩, trivial, rfl⟩

namespace Draft

theorem hasFreeSlot?_compartmentView {c : Compartment} {b : Bool} :
    (d.compartmentView c).hasFreeSlot? = some b ↔ .listAssets ∉ d.base.faults ∧
      decide ((d.tables.assets.filter (·.compartment = c.id)).length < c.capacity.toNat) = b := by
  simp only [compartmentView, CompartmentView.hasFreeSlot?, assetViews]
  by_cases hf : FaultPoint.listAssets ∈ d.base.faults
  · simp [assetsIn, check, hf, bind, Except.bind, Except.map]
  · rw [assetsIn_eq_ok.2 ⟨hf, rfl⟩]
    simp [Except.map, hf]

def claimAlso (d : Draft) (key : Option String) : Draft := { d with claimed := d.claimed ++ key.toList }

end Draft

namespace Purchase

theorem yields_claimKey {c : CharacterId} {key : Option String} : Yields (claimKey c key) d true d' ↔
    (∀ k ∈ key, scopedKey c k ∉ d.base.window.keys ∧ scopedKey c k ∉ d.claimed) ∧
      d.claimAlso (key.map (scopedKey c)) = d' := by
  cases key with
  | none => simp [claimKey, Draft.claimAlso]
  | some k =>
    simp only [claimKey, yields_step, Draft.claim, Draft.claimAlso, Option.mem_def, Option.some.injEq, forall_eq',
      ← not_or]
    split <;> simp [*]

theorem yields_claimKey_false {c : CharacterId} {key : Option String} : Yields (claimKey c key) d false d' ↔
    (∃ k ∈ key, scopedKey c k ∈ d.base.window.keys ∨ scopedKey c k ∈ d.claimed) ∧ d = d' := by
  cases key with
  | none => simp [claimKey]
  | some k =>
    simp only [claimKey, yields_step, Draft.claim, Option.mem_def, Option.some.injEq, exists_eq_left']
    split <;> simp [*]

theorem yields_target {ch : Character} {v : CompartmentView} : Yields (target ch) d v d' ↔
    ∃ k, d.compartmentOf? ch.account (ClassLine.ofJob ch.job) = some k ∧ d.compartmentView k = v ∧ d = d' := by
  simp [target]

def Terms.newItem (t : Terms) (cash : CashId) (expiration : Instant) : NewItem :=
  ⟨cash, t.commodity.template, quantity, 0, t.character.id, expiration⟩

def Terms.receipt (t : Terms) (k : CompartmentId) (a : AssetId) (i : ItemId) (w : Wallet) : Receipt :=
  ⟨t.commodity.template, t.commodity.price, k, a, i, w⟩

def Terms.notice (t : Terms) (k : CompartmentId) (a : AssetId) (i : ItemId) : Message :=
  ⟨toString t.character.id,
    (ShopEvent.purchase t.character.id ⟨t.commodity.template, t.commodity.price, k, a, i⟩).toJson⟩

theorem yields_deliver {days : Int} {t : Terms} {c : CompartmentId} {r : Receipt} :
    Yields (deliver amb days t c) d r d' ↔ ∃ w cash expiration k,
      d.tables.wallets.get? t.character.account = some w ∧ w.canAfford t.currency t.commodity.price = true ∧
      .updateWallet ∉ d.base.faults ∧ d.tables.wallets.contains w.account = true ∧
      amb.cashIds.find? (!d.hasCashId ·) = some cash ∧ amb.now.addDays? days = some expiration ∧
      .insertItem ∉ d.base.faults ∧ d.tables.lastItem.toNat + 1 < UInt32.size ∧
      d.tables.compartments.get? c = some k ∧ .listAssets ∉ d.base.faults ∧
      (d.tables.assets.filter (·.compartment = c)).length < k.capacity.toNat ∧ .insertAsset ∉ d.base.faults ∧
      t.receipt c amb.asset ⟨d.tables.lastItem + 1⟩ (w.spend t.currency t.commodity.price) = r ∧
      (((d.setWallet (w.spend t.currency t.commodity.price)).enterItem (t.newItem cash expiration)).placeAsset
        ⟨amb.asset, c, ⟨d.tables.lastItem + 1⟩⟩).put .shopStatus
          (t.notice c amb.asset ⟨d.tables.lastItem + 1⟩) = d' := by
  simp only [deliver, yields_bind (x := Ledger.debit _ _ _), Ledger.yields_debit,
    yields_bind (x := Registry.create _ _ _), Registry.yields_create, yields_bind (x := Placement.create _ _ _),
    Placement.yields_create, yields_put_bind, yields_pure]
  constructor
  · rintro ⟨-, d1, ⟨w, hw, ha, hf, hc, rfl, rfl⟩, -, d2, ⟨cash, hcash, e, he, hi, hn, rfl, rfl⟩, -, d3,
      ⟨k, hk, hl, hroom, hp, rfl, rfl⟩, rfl, rfl⟩
    exact ⟨w, cash, e, k, hw, ha, hf, hc, hcash, he, hi, hn, hk, hl, hroom, hp, rfl, rfl⟩
  · rintro ⟨w, cash, e, k, hw, ha, hf, hc, hcash, he, hi, hn, hk, hl, hroom, hp, rfl, rfl⟩
    exact ⟨_, _, ⟨w, hw, ha, hf, hc, rfl, rfl⟩, _, _, ⟨cash, hcash, e, he, hi, hn, rfl, rfl⟩, _, _,
      ⟨k, hk, hl, hroom, hp, rfl, rfl⟩, rfl, rfl⟩

/-- An order is carried out if its key is free, the wallet covers the price, the compartment of the class line has room,
there are numbers left for the item, and the day on which it expires has a date. -/
structure Deliverable (amb : Ambient) (days : Int) (d : Draft) (c : CharacterId) (key : Option String) (t : Terms)
    (w : Wallet) (k : Compartment) (cash : CashId) (expiration : Instant) : Prop where
  unclaimed : ∀ n ∈ key, scopedKey c n ∉ d.base.window.keys ∧ scopedKey c n ∉ d.claimed
  wallet : d.tables.wallets.get? t.character.account = some w
  affordable : w.canAfford t.currency t.commodity.price = true
  known : d.tables.wallets.contains w.account = true
  target : d.compartmentOf? t.character.account (ClassLine.ofJob t.character.job) = some k
  room : (d.tables.assets.filter (·.compartment = k.id)).length < k.capacity.toNat
  stored : ∃ k', d.tables.compartments.get? k.id = some k' ∧
    (d.tables.assets.filter (·.compartment = k.id)).length < k'.capacity.toNat
  unused : amb.cashIds.find? (!d.hasCashId ·) = some cash
  dated : amb.now.addDays? days = some expiration
  numbered : d.tables.lastItem.toNat + 1 < UInt32.size
  faultless : .listAssets ∉ d.base.faults ∧ .updateWallet ∉ d.base.faults ∧ .insertItem ∉ d.base.faults ∧
    .insertAsset ∉ d.base.faults

def delivered (amb : Ambient) (d : Draft) (c : CharacterId) (key : Option String) (t : Terms) (w : Wallet)
    (k : Compartment) (cash : CashId) (expiration : Instant) : Draft :=
  ((((d.claimAlso (key.map (scopedKey c))).setWallet (w.spend t.currency t.commodity.price)).enterItem
    (t.newItem cash expiration)).placeAsset ⟨amb.asset, k.id, ⟨d.tables.lastItem + 1⟩⟩).put .shopStatus
      (t.notice k.id amb.asset ⟨d.tables.lastItem + 1⟩)

theorem yields_work {days : Int} {c : CharacterId} {key : Option String} {t : Terms} {r : Receipt} :
    Yields (work amb days c key t) d (.completed r) d' ↔ ∃ w k cash expiration,
      Deliverable amb days d c key t w k cash expiration ∧
      t.receipt k.id amb.asset ⟨d.tables.lastItem + 1⟩ (w.spend t.currency t.commodity.price) = r ∧
      delivered amb d c key t w k cash expiration = d' := by
  simp only [work, yields_bind (x := claimKey _ _), yields_ite, yields_bind (x := Ledger.wallet _),
    Ledger.yields_wallet, yields_lift_bind, Ledger.ensureAffordable_eq_ok, yields_bind (x := target _), yields_target]
  constructor
  · rintro ⟨b, d1, hk, ⟨rfl, w, d2, ⟨hw, rfl⟩, u, ha, v, d3, ⟨k, ht, rfl, rfl⟩, hv⟩ | ⟨hb, hd⟩⟩
    · obtain ⟨hfree, rfl⟩ := yields_claimKey.1 hk
      cases hs : (Draft.compartmentView (d.claimAlso (key.map (scopedKey c))) k).hasFreeSlot? with
      | none => simp [hs] at hv
      | some room =>
        obtain ⟨hl, hroom⟩ := Draft.hasFreeSlot?_compartmentView.1 hs
        cases room with
        | false => simp [hs] at hv
        | true =>
          simp only [hs, yields_map, yields_deliver, PurchaseOutcome.completed.injEq] at hv
          obtain ⟨r', ⟨w', cash, e, k', hw', -, hu, hc, hcash, he, hi, hn, hk', -, hroom', hp, rfl, rfl⟩, rfl⟩ := hv
          obtain rfl : w = w' := Option.some.inj (hw.symm.trans hw')
          exact ⟨w, k, cash, e,
            ⟨hfree, hw, ha, hc, ht, of_decide_eq_true hroom, ⟨k', hk', hroom'⟩, hcash, he, hn, hl, hu, hi, hp⟩, rfl, rfl⟩
    · simp at hd
  · rintro ⟨w, k, cash, e, h, rfl, rfl⟩
    obtain ⟨hl, hu, hi, hp⟩ := h.faultless
    obtain ⟨k', hk', hroom'⟩ := h.stored
    have hs : (Draft.compartmentView (d.claimAlso (key.map (scopedKey c))) k).hasFreeSlot? = some true :=
      Draft.hasFreeSlot?_compartmentView.2 ⟨hl, decide_eq_true h.room⟩
    refine ⟨true, _, yields_claimKey.2 ⟨h.unclaimed, rfl⟩, .inl ⟨rfl, w, _, ⟨h.wallet, rfl⟩, (), h.affordable, _, _,
      ⟨k, h.target, rfl, rfl⟩, ?_⟩⟩
    simp only [hs, yields_map, yields_deliver]
    exact ⟨_, ⟨w, cash, e, k', h.wallet, h.affordable, hu, h.known, h.unused, h.dated, hi, h.numbered, hk', hl, hroom',
      hp, rfl, rfl⟩, rfl⟩

/-- An order is a duplicate if its key is taken, and then nothing is done about it. -/
theorem yields_work_duplicate {days : Int} {c : CharacterId} {key : Option String} {t : Terms} :
    Yields (work amb days c key t) d .duplicate d' ↔
      (∃ k ∈ key, scopedKey c k ∈ d.base.window.keys ∨ scopedKey c k ∈ d.claimed) ∧ d = d' := by
  rw [work, yields_bind, ← yields_claimKey_false]
  constructor
  · rintro ⟨b, d1, hk, hd⟩
    cases b with
    | false =>
      obtain ⟨-, rfl⟩ : True ∧ d1 = d' := by simpa using hd
      exact hk
    | true =>
      simp only [yields_ite, yields_bind (x := Ledger.wallet _), yields_lift_bind, yields_bind (x := target _)] at hd
      obtain ⟨-, w, d2, -, u, -, v, d3, -, hv⟩ | ⟨hb, -⟩ := hd
      · split at hv <;> simp at hv
      · simp at hb
  · intro hk
    exact ⟨false, d', hk, by simp⟩

end Purchase

namespace Widening

def requested (d : Draft) (c : CharacterId) (o : Offer) (capacity : UInt32) : Draft :=
  (d.put .characterCommand ⟨toString c, (CharacterCommand.increaseCapacity c o.tab o.amount).toJson⟩).put .shopStatus
    ⟨toString c, (ShopEvent.capacityIncreased c ⟨o.tab, capacity, o.amount⟩).toJson⟩

theorem widened_eq_ok {current amount capacity : UInt32} : widened current amount = .ok capacity ↔
    current.toNat + amount.toNat ≤ slotCeiling.toNat ∧ current + amount = capacity := by
  unfold widened
  split <;> simp [*]

/-- A widening is carried out if the wallet covers the price and the tab stays below the ceiling. -/
structure Feasible (d : Draft) (ch : Character) (lane : Currency) (o : Offer) (w : Wallet) (current : UInt32) :
    Prop where
  wallet : d.tables.wallets.get? ch.account = some w
  affordable : w.canAfford lane o.price = true
  slots : ch.inventory.bind (·.get? o.tab) = some current
  ceiling : current.toNat + o.amount.toNat ≤ slotCeiling.toNat
  faultless : .updateWallet ∉ d.base.faults
  known : d.tables.wallets.contains w.account = true

def increase (lane : Currency) (o : Offer) (w : Wallet) (current : UInt32) : CapacityIncrease :=
  ⟨o.tab, current + o.amount, o.amount, w.spend lane o.price⟩

theorem yields_work {c : CharacterId} {ch : Character} {lane : Currency} {o : Offer} {r : CapacityIncrease} :
    Yields (work c ch lane o) d r d' ↔ ∃ w current, Feasible d ch lane o w current ∧ increase lane o w current = r ∧
      requested (d.setWallet (w.spend lane o.price)) c o (current + o.amount) = d' := by
  simp only [work, announce, yields_bind (x := Ledger.wallet _), Ledger.yields_wallet, yields_lift_bind,
    Ledger.ensureAffordable_eq_ok, yields_orElseThrow_bind, widened_eq_ok, yields_bind (x := Ledger.debit _ _ _),
    Ledger.yields_debit, yields_bind (x := Work.put _ _ _ >>= _), yields_put_bind, yields_put, yields_pure]
  constructor
  · rintro ⟨w, d1, ⟨hw, rfl⟩, -, ha, current, hcur, -, ⟨hmax, rfl⟩, -, d2, ⟨w', hw', -, hu, hc, rfl, rfl⟩, -, d3, rfl,
      rfl, rfl⟩
    obtain rfl : w = w' := Option.some.inj (hw.symm.trans hw')
    exact ⟨w, current, ⟨hw, ha, hcur, hmax, hu, hc⟩, rfl, rfl⟩
  · rintro ⟨w, current, h, rfl, rfl⟩
    exact ⟨w, d, ⟨h.wallet, rfl⟩, (), h.affordable, current, h.slots, _, ⟨h.ceiling, rfl⟩, _, _,
      ⟨w, h.wallet, h.affordable, h.faultless, h.known, rfl, rfl⟩, (), _, rfl, rfl, rfl⟩

end Widening

namespace Handoff

def acceptedMessage (h : Handoff) : Message :=
  ⟨toString h.account, (CompartmentEvent.accepted h.ref h.transaction).toJson⟩

def releasedMessage (h : Handoff) : Message :=
  ⟨toString h.account, (CompartmentEvent.released h.ref h.transaction).toJson⟩

theorem yields_place {h : Handoff} {a : Asset} : Yields (place amb h) d a d' ↔
    (d.tables.compartments.get? h.compartment).isSome = true ∧
      (d.assetOf? h.item = some a ∧ a.compartment = h.compartment ∧ d = d' ∨
        d.assetOf? h.item = none ∧ Yields (Placement.create amb.asset h.compartment h.item) d a d') := by
  simp only [place, yields_read_bind, yields_ite, not_yields_throw_bind, and_false, false_or, Draft.compartment?]
  cases hk : d.tables.compartments.get? h.compartment with
  | none => simp
  | some k =>
    cases ha : d.assetOf? h.item with
    | none =>
      simp only [Option.isNone_some, Option.isSome_some]
      rw [yields_tryCatch (by intro e d d' b; split <;> simp)]
      simp
    | some a' =>
      simp only [Option.isNone_some, Bool.false_eq_true, not_false_eq_true, true_and, yields_ite, yields_pure,
        not_yields_throw, and_false, or_false, Option.isSome_some, Option.some.injEq, reduceCtorEq, false_and]
      constructor
      · rintro ⟨hin, rfl, rfl⟩
        exact ⟨rfl, hin, rfl⟩
      · rintro ⟨rfl, hin, rfl⟩
        exact ⟨hin, rfl, rfl⟩

theorem yields_acceptWork {h : Handoff} {a : Asset} : Yields (acceptWork amb h) d a d' ↔
    (d.tables.compartments.get? h.compartment).isSome = true ∧
      (d.assetOf? h.item = some a ∧ a.compartment = h.compartment ∧ d.put .compartmentStatus h.acceptedMessage = d' ∨
        d.assetOf? h.item = none ∧ ∃ k, d.tables.compartments.get? h.compartment = some k ∧
          .listAssets ∉ d.base.faults ∧
          (d.tables.assets.filter (·.compartment = h.compartment)).length < k.capacity.toNat ∧
          .insertAsset ∉ d.base.faults ∧ ⟨amb.asset, h.compartment, h.item⟩ = a ∧
          (d.placeAsset ⟨amb.asset, h.compartment, h.item⟩).put .compartmentStatus h.acceptedMessage = d') := by
  simp only [acceptWork, yields_bind (x := place _ _), yields_place, Placement.yields_create, yields_put_bind,
    yields_pure]
  constructor
  · rintro ⟨a', d1, ⟨hk, ⟨ha, hin, rfl⟩ | ⟨ha, k, hk', hl, hroom, hi, rfl, rfl⟩⟩, rfl, rfl⟩
    · exact ⟨hk, .inl ⟨ha, hin, rfl⟩⟩
    · exact ⟨hk, .inr ⟨ha, k, hk', hl, hroom, hi, rfl, rfl⟩⟩
  · rintro ⟨hk, ⟨ha, hin, rfl⟩ | ⟨ha, k, hk', hl, hroom, hi, rfl, rfl⟩⟩
    · exact ⟨a, d, ⟨hk, .inl ⟨ha, hin, rfl⟩⟩, rfl, rfl⟩
    · exact ⟨_, _, ⟨hk, .inr ⟨ha, k, hk', hl, hroom, hi, rfl, rfl⟩⟩, rfl, rfl⟩

theorem yields_releaseWork {h : Handoff} {a : Asset} : Yields (releaseWork h) d a d' ↔
    (d.tables.compartments.get? h.compartment).isSome = true ∧ .listAssets ∉ d.base.faults ∧
      (d.tables.assets.filter (·.compartment = h.compartment)).find? (·.item = h.item) = some a ∧
      (d.keepAssets fun b => b.id ≠ a.id).put .compartmentStatus h.releasedMessage = d' := by
  simp only [releaseWork, withdraw, yields_bind (x := Work.read _ >>= _), yields_read_bind, yields_ite,
    not_yields_throw_bind, and_false, false_or, yields_tryRead_bind, Draft.assetsIn_eq_ok, yields_orElseThrow_bind,
    yields_bind (x := Placement.delete _), Placement.yields_delete, yields_put_bind, yields_pure, Draft.compartment?]
  cases hk : d.tables.compartments.get? h.compartment with
  | none => simp
  | some k =>
    simp only [Option.isNone_some, Bool.false_eq_true, not_false_eq_true, true_and, Option.isSome_some]
    constructor
    · rintro ⟨a', d1, ⟨assets, ⟨hl, rfl⟩, b, hb, e, d2, ⟨rfl, rfl⟩, rfl, rfl⟩, rfl, rfl⟩
      exact ⟨hl, hb, rfl⟩
    · rintro ⟨hl, ha, rfl⟩
      exact ⟨a, _, ⟨_, ⟨hl, rfl⟩, a, ha, _, _, ⟨rfl, rfl⟩, rfl, rfl⟩, rfl, rfl⟩

end Handoff

namespace Transfer

def completedMessage (m : MoveCompletion) : Message :=
  ⟨toString m.character, (ShopEvent.moved m.character ⟨m.compartment, m.moved.slot⟩).toJson⟩

theorem yields_complete {m : MoveCompletion} {r : CallbackOutcome} : Yields (complete m) d r d' ↔
    (∀ a ∈ d.tables.assets, a.item ≠ m.moved.item) ∧ .dropped = r ∧ d = d' ∨
      (∃ a ∈ d.tables.assets, a.item = m.moved.item) ∧ .applied = r ∧
        (d.keepAssets fun a => a.item ≠ m.moved.item).put .shopStatus (completedMessage m) = d' := by
  have hzero : d.tables.assets.countP (·.item = m.moved.item) = 0 ↔ ∀ a ∈ d.tables.assets, a.item ≠ m.moved.item := by
    simp [List.countP_eq_zero]
  have hkeep (h : ∀ a ∈ d.tables.assets, a.item ≠ m.moved.item) : d.keepAssets (fun a => a.item ≠ m.moved.item) = d := by
    rw [Draft.keepAssets, List.filter_eq_self.2 fun a ha => decide_eq_true (h a ha)]
  have hsome : (∃ a ∈ d.tables.assets, a.item = m.moved.item) ↔ ¬ d.tables.assets.countP (·.item = m.moved.item) = 0 := by
    simp [hzero]
  simp only [complete, yields_bind (x := Placement.deleteItem _), Placement.yields_deleteItem, yields_ite, yields_pure,
    yields_put_bind, ← hzero, hsome]
  constructor
  · rintro ⟨n, d1, ⟨rfl, rfl⟩, ⟨hn, rfl, rfl⟩ | ⟨hn, rfl, rfl⟩⟩
    · exact .inl ⟨hn, rfl, (hkeep (hzero.1 hn)).symm⟩
    · exact .inr ⟨hn, rfl, rfl⟩
  · rintro (⟨hn, rfl, rfl⟩ | ⟨hn, rfl, rfl⟩)
    · exact ⟨_, _, ⟨rfl, rfl⟩, .inl ⟨hn, rfl, hkeep (hzero.1 hn)⟩⟩
    · exact ⟨_, _, ⟨rfl, rfl⟩, .inr ⟨hn, rfl, rfl⟩⟩

end Transfer

end CashShop
