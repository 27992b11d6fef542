import CashShop.Proofs.Charge
import CashShop.Proofs.ExactlyOnce
import CashShop.Proofs.Filing
import CashShop.Proofs.SinglePlacement

namespace CashShop

open Work

/-- The cash id is taken by an item. -/
def Tables.Carries (t : Tables) (c : CashId) : Prop := ∃ i x, t.items.get? i = some x ∧ x.cashId = c

theorem Draft.hasCashId_iff {d : Draft} {c : CashId} : d.hasCashId c = true ↔ d.tables.Carries c := by
  simp only [hasCashId, Tables.Carries, List.any_eq_true, Table.mem_values_iff, decide_eq_true_eq]
  constructor
  · rintro ⟨x, ⟨i, hi⟩, hc⟩
    exact ⟨i, x, hi, hc⟩
  · rintro ⟨i, x, hi, hc⟩
    exact ⟨x, ⟨i, hi⟩, hc⟩

def Tables.Draws (t : Tables) (candidates : List CashId) (cash : CashId) : Prop :=
  ¬ t.Carries cash ∧ ∃ tried rest, candidates = tried ++ cash :: rest ∧ ∀ c ∈ tried, t.Carries c

theorem Draft.find?_unused {d : Draft} {candidates : List CashId} {cash : CashId} :
    candidates.find? (!d.hasCashId ·) = some cash ↔ d.tables.Draws candidates cash := by
  simp [List.find?_eq_some_iff_append, Tables.Draws, ← hasCashId_iff]

namespace Purchase

structure Terms.Found (t : Terms) (s : Service) (b : CharacterId) (o : PurchaseOrder) : Prop where
  currency : t.currency.code = o.currency
  commodity : s.catalog o.serial = .ok t.commodity
  character : s.directory b false = .ok t.character

def Remembered (s : Service) (b : CharacterId) (o : PurchaseOrder) : Prop :=
  ∃ key ∈ o.idempotencyKey, scopedKey b key ∈ s.store.window.keys

def Terms.charged (t : Terms) (w : Wallet) : Wallet :=
  w.setBalance t.currency (w.balance t.currency - t.commodity.price)

def Terms.item (t : Terms) (s : Service) (cash : CashId) (expiration : Instant) : Item where
  cashId := cash
  template := t.commodity.template
  quantity := 1
  flag := 0
  purchasedBy := t.character.id
  expiration := expiration
  id := ⟨s.store.tables.lastItem + 1⟩

def Terms.events (t : Terms) (s : Service) (amb : Ambient) (w : Wallet) (k : Compartment) (cash : CashId)
    (expiration : Instant) : List (Topic × Message) :=
  let item := t.item s cash expiration
  let notice : PurchaseNotice := ⟨t.commodity.template, t.commodity.price, k.id, amb.asset, item.id⟩
  [(.walletStatus, ⟨toString t.character.account, (WalletEvent.updated (t.charged w)).toJson⟩),
    (.itemStatus, ⟨toString item.id, (ItemEvent.ofItem item).toJson⟩),
    (.shopStatus, ⟨toString t.character.id, (ShopEvent.purchase t.character.id notice).toJson⟩)]

def Terms.sell (t : Terms) (s : Service) (amb : Ambient) (b : CharacterId) (o : PurchaseOrder) (w : Wallet)
    (k : Compartment) (cash : CashId) (expiration : Instant) : Service :=
  let item := t.item s cash expiration
  { s with
    store := { s.store with
      tables := { s.store.tables with
        wallets := s.store.tables.wallets.insert t.character.account (t.charged w)
        items := s.store.tables.items.insert item.id item
        lastItem := s.store.tables.lastItem + 1
        assets := s.store.tables.assets ++ [⟨amb.asset, k.id, item.id⟩] }
      window := (o.idempotencyKey.map (scopedKey b)).elim s.store.window s.store.window.record }
    transport := ((⟨t.events s amb w k cash expiration⟩ : Outbox).flush Transport.publish s.transport).2
    metrics := s.metrics.add .purchases 1 }

def occupancy (s : Service) (k : Compartment) : Nat := (s.store.tables.assets.filter (·.compartment = k.id)).length

/-- What an order comes to: the first condition on which it ends, with the answer and the service that is left. -/
inductive Decides (s : Service) (amb : Ambient) (b : CharacterId) (o : PurchaseOrder) :
    Except WorkflowError Answer × Service → Prop where
  | noCurrency (currency : ∀ lane : Currency, lane.code ≠ o.currency) :
      Decides s amb b o (.error (.unknownCurrency o.currency), s.reportFailure b (.unknownCurrency o.currency))
  | noCommodity {lane : Currency} {e : LookupError} (currency : lane.code = o.currency)
      (commodity : s.catalog o.serial = .error e) :
      Decides s amb b o (.error (.lookup e), s.reportFailure b (.lookup e))
  | noCharacter {lane : Currency} {x : Commodity} {e : LookupError} (currency : lane.code = o.currency)
      (commodity : s.catalog o.serial = .ok x) (character : s.directory b false = .error e) :
      Decides s amb b o (.error (.lookup e), s.reportFailure b (.lookup e))
  | duplicate {t : Terms} (found : t.Found s b o) (remembered : Remembered s b o) :
      Decides s amb b o (.ok (.purchase .duplicate), s.count .duplicateCommands)
  | noWallet {t : Terms} (found : t.Found s b o) (new : ¬ Remembered s b o)
      (wallet : s.store.tables.wallets.get? t.character.account = none) :
      Decides s amb b o (.error (.walletNotFound t.character.account),
        s.reportFailure b (.walletNotFound t.character.account))
  | noFunds {t : Terms} {w : Wallet} (found : t.Found s b o) (new : ¬ Remembered s b o)
      (wallet : s.store.tables.wallets.get? t.character.account = some w)
      (short : w.balance t.currency < t.commodity.price) :
      Decides s amb b o (.error (.insufficientFunds t.currency (w.balance t.currency) t.commodity.price),
        s.reportFailure b (.insufficientFunds t.currency (w.balance t.currency) t.commodity.price))
  | noCompartment {t : Terms} {w : Wallet} (found : t.Found s b o) (new : ¬ Remembered s b o)
      (wallet : s.store.tables.wallets.get? t.character.account = some w)
      (covered : t.commodity.price ≤ w.balance t.currency)
      (compartment : ∀ k, ¬ s.store.tables.Allots t.character.account (.ofJob t.character.job) k) :
      Decides s amb b o
        (.error (.compartmentNotFound (lineCompartmentName (.ofJob t.character.job) t.character.account)),
          s.reportFailure b
            (.compartmentNotFound (lineCompartmentName (.ofJob t.character.job) t.character.account)))
  | full {t : Terms} {w : Wallet} {k : Compartment} (found : t.Found s b o) (new : ¬ Remembered s b o)
      (wallet : s.store.tables.wallets.get? t.character.account = some w)
      (covered : t.commodity.price ≤ w.balance t.currency)
      (compartment : s.store.tables.Allots t.character.account (.ofJob t.character.job) k)
      (crowded : k.capacity.toNat ≤ occupancy s k) :
      Decides s amb b o (.ok (.purchase .inventoryFull), (s.count .purchaseRejections).answerError b .inventoryFull)
  | undated {t : Terms} {w : Wallet} {k : Compartment} (found : t.Found s b o) (new : ¬ Remembered s b o)
      (wallet : s.store.tables.wallets.get? t.character.account = some w)
      (covered : t.commodity.price ≤ w.balance t.currency)
      (compartment : s.store.tables.Allots t.character.account (.ofJob t.character.job) k)
      (room : occupancy s k < k.capacity.toNat) (expiration : amb.now.addDays? s.settings.itemExpirationDays = none) :
      Decides s amb b o
        (.error (.internal .expirationOutOfRange), s.reportFailure b (.internal .expirationOutOfRange))
  | sold {t : Terms} {w : Wallet} {k : Compartment} {cash : CashId} {e : Instant} (found : t.Found s b o)
      (new : ¬ Remembered s b o) (wallet : s.store.tables.wallets.get? t.character.account = some w)
      (covered : t.commodity.price ≤ w.balance t.currency)
      (compartment : s.store.tables.Allots t.character.account (.ofJob t.character.job) k)
      (room : occupancy s k < k.capacity.toNat) (drawn : s.store.tables.Draws amb.cashIds cash)
      (expiration : amb.now.addDays? s.settings.itemExpirationDays = some e) :
      Decides s amb b o
        (.ok (.purchase (.completed (t.receipt k.id amb.asset ⟨s.store.tables.lastItem + 1⟩ (t.charged w)))),
          t.sell s amb b o w k cash e)

variable {s : Service} {amb : Ambient} {b : CharacterId} {o : PurchaseOrder} {t : Terms} {w : Wallet} {k : Compartment}
  {cash : CashId} {expiration : Instant} {e : WorkflowError} {d : Draft} {key : Option String} {days : Int}

theorem Terms.found_iff : t.Found s b o ↔ Terms.resolve s b o = .ok t := by
  rw [Terms.resolve_eq_ok, resolveCurrency_eq_ok, Service.commodity_eq_ok, Service.character_eq_ok]
  exact ⟨fun h => ⟨h.currency, h.commodity, h.character⟩, fun ⟨hl, hx, hch⟩ => ⟨hl, hx, hch⟩⟩

theorem not_remembered_iff : ¬ Remembered s b o ↔ ∀ key ∈ o.idempotencyKey,
    scopedKey b key ∉ (Draft.begin s.store).base.window.keys ∧ scopedKey b key ∉ (Draft.begin s.store).claimed := by
  simp [Remembered, Draft.begin]

/-- Once its key is free, an order is refused for its wallet, for its funds, or for its compartment. -/
theorem refuses_work (hkey : ∀ n ∈ key, scopedKey b n ∉ d.base.window.keys ∧ scopedKey b n ∉ d.claimed)
    (h : d.tables.wallets.get? t.character.account = none ∧ .walletNotFound t.character.account = e ∨
      ∃ w, d.tables.wallets.get? t.character.account = some w ∧
        (w.balance t.currency < t.commodity.price ∧
            .insufficientFunds t.currency (w.balance t.currency) t.commodity.price = e ∨
          w.canAfford t.currency t.commodity.price = true ∧
            d.compartmentOf? t.character.account (.ofJob t.character.job) = none ∧
            .compartmentNotFound (lineCompartmentName (.ofJob t.character.job) t.character.account) = e)) :
    Refuses (work amb days b key t) d e := by
  simp only [work, refuses_bind (x := claimKey _ _), not_refuses_claimKey, false_or, refuses_ite,
    refuses_bind (x := Ledger.wallet _), Ledger.refuses_wallet, Ledger.yields_wallet, refuses_lift_bind,
    Ledger.ensureAffordable_eq_error, Ledger.ensureAffordable_eq_ok, refuses_bind (x := target _), refuses_target]
  refine ⟨true, _, yields_claimKey.2 ⟨hkey, rfl⟩, .inl ⟨rfl, ?_⟩⟩
  obtain h | ⟨w, hw, h | ⟨ha, hk, he⟩⟩ := h
  · exact .inl h
  · exact .inr ⟨w, _, ⟨hw, rfl⟩, .inl h⟩
  · exact .inr ⟨w, _, ⟨hw, rfl⟩, .inr ⟨(), ha, .inl ⟨hk, he⟩⟩⟩

theorem yields_work_full (hkey : ∀ n ∈ key, scopedKey b n ∉ d.base.window.keys ∧ scopedKey b n ∉ d.claimed)
    (hw : d.tables.wallets.get? t.character.account = some w) (ha : w.canAfford t.currency t.commodity.price = true)
    (hk : d.compartmentOf? t.character.account (.ofJob t.character.job) = some k) (hf : .listAssets ∉ d.base.faults)
    (hfull : k.capacity.toNat ≤ (d.tables.assets.filter (·.compartment = k.id)).length) :
    Yields (work amb days b key t) d .inventoryFull (d.claimAlso (key.map (scopedKey b))) := by
  have hs : (Draft.compartmentView (d.claimAlso (key.map (scopedKey b))) k).hasFreeSlot? = some false :=
    Draft.hasFreeSlot?_compartmentView.2 ⟨hf, decide_eq_false (Nat.not_lt.2 hfull)⟩
  simp only [work, yields_bind (x := claimKey _ _), yields_ite, yields_bind (x := Ledger.wallet _),
    Ledger.yields_wallet, yields_lift_bind, Ledger.ensureAffordable_eq_ok, yields_bind (x := target _), yields_target]
  refine ⟨true, _, yields_claimKey.2 ⟨hkey, rfl⟩, .inl ⟨rfl, w, _, ⟨hw, rfl⟩, (), ha, _, _, ⟨k, hk, rfl, rfl⟩, ?_⟩⟩
  rw [hs]
  exact yields_pure.2 ⟨rfl, rfl⟩

section Undated

variable (hw : d.tables.wallets.get? t.character.account = some w)
  (ha : w.canAfford t.currency t.commodity.price = true) (hc : d.tables.wallets.contains w.account = true)
  (hf : d.base.faults = []) (hcash : amb.cashIds.find? (!d.hasCashId ·) = some cash)
  (hdate : amb.now.addDays? days = none)

include hw ha hc hf hcash hdate

theorem refuses_deliver_of_undated (id : CompartmentId) :
    Refuses (deliver amb days t id) d (.internal .expirationOutOfRange) := by
  have hpaid : Yields (Ledger.debit t.character.account t.currency t.commodity.price) d _ _ :=
    Ledger.yields_debit.2 ⟨w, hw, ha, by simp [hf], hc, rfl, rfl⟩
  exact refuses_bind.2 (.inr ⟨_, _, hpaid, refuses_bind.2 (.inl (Registry.refuses_create_of_undated hcash hdate))⟩)

theorem refuses_work_of_undated
    (hkey : ∀ n ∈ key, scopedKey b n ∉ d.base.window.keys ∧ scopedKey b n ∉ d.claimed)
    (hk : d.compartmentOf? t.character.account (.ofJob t.character.job) = some k)
    (hroom : (d.tables.assets.filter (·.compartment = k.id)).length < k.capacity.toNat) :
    Refuses (work amb days b key t) d (.internal .expirationOutOfRange) := by
  have hs : (Draft.compartmentView (d.claimAlso (key.map (scopedKey b))) k).hasFreeSlot? = some true :=
    Draft.hasFreeSlot?_compartmentView.2 ⟨by simp [Draft.claimAlso, hf], decide_eq_true hroom⟩
  simp only [work, refuses_bind (x := claimKey _ _), not_refuses_claimKey, false_or, refuses_ite,
    refuses_bind (x := Ledger.wallet _), Ledger.yields_wallet, refuses_lift_bind, Ledger.ensureAffordable_eq_ok,
    refuses_bind (x := Purchase.target _), yields_target]
  refine ⟨true, _, yields_claimKey.2 ⟨hkey, rfl⟩, .inl ⟨rfl, .inr ⟨w, _, ⟨hw, rfl⟩, .inr ⟨(), ha, .inr
    ⟨_, _, ⟨k, hk, rfl, rfl⟩, ?_⟩⟩⟩⟩⟩
  rw [hs]
  exact refuses_map.2 (refuses_deliver_of_undated (d := d.claimAlso _) hw ha hc hf hcash hdate k.id)

end Undated

theorem call_of_unresolved (h : Terms.resolve s b o = .error e) :
    s.call amb (.purchase b o) = (.error e, s.reportFailure b e) := by
  rw [Service.call, Service.purchase, h]
  rfl

theorem call_of_refused (ht : t.Found s b o)
    (h : Refuses (work amb s.settings.itemExpirationDays b o.idempotencyKey t) (Draft.begin s.store) e) :
    s.call amb (.purchase b o) = (.error e, s.reportFailure b e) := by
  rw [Service.call, Service.purchase, Terms.found_iff.1 ht]
  simp only [Except.map, Service.perform, Service.run_of_refused h]
  rfl

theorem call_of_full {d : Draft} (ht : t.Found s b o)
    (h : Yields (work amb s.settings.itemExpirationDays b o.idempotencyKey t) (Draft.begin s.store) .inventoryFull d) :
    s.call amb (.purchase b o) =
      (.ok (.purchase .inventoryFull), (s.count .purchaseRejections).answerError b .inventoryFull) := by
  rw [Service.call, Service.purchase, Terms.found_iff.1 ht]
  simp only [Except.map, Service.perform, Service.run_of_not_kept (k := (·.isCompleted)) h rfl]
  rfl

def Terms.draft (t : Terms) (s : Service) (amb : Ambient) (b : CharacterId) (o : PurchaseOrder) (w : Wallet)
    (k : Compartment) (cash : CashId) (expiration : Instant) : Draft :=
  delivered amb (Draft.begin s.store) b o.idempotencyKey t w k cash expiration

theorem call_of_deliverable (ht : t.Found s b o) (hf : .commit ∉ s.store.faults)
    (h : Deliverable amb s.settings.itemExpirationDays (Draft.begin s.store) b o.idempotencyKey t w k cash expiration) :
    s.call amb (.purchase b o) =
      (.ok (.purchase (.completed (t.receipt k.id amb.asset ⟨s.store.tables.lastItem + 1⟩
        (w.spend t.currency t.commodity.price)))),
        ({ s with store := (t.draft s amb b o w k cash expiration).committed }.publish
          (t.draft s amb b o w k cash expiration).outbox).count .purchases) := by
  have hy : Yields (work amb s.settings.itemExpirationDays b o.idempotencyKey t) (Draft.begin s.store)
      (.completed _) (t.draft s amb b o w k cash expiration) := yields_work.2 ⟨w, k, cash, expiration, h, rfl, rfl⟩
  rw [Service.call, Service.purchase, Terms.found_iff.1 ht]
  simp only [Except.map, Service.perform, Service.run_of_kept (k := (·.isCompleted)) hy rfl hf]
  rfl

section Sell

variable (hw : w.account = t.character.account) (h : t.commodity.price ≤ w.balance t.currency)

include h in
theorem charged_eq : w.spend t.currency t.commodity.price = t.charged w := by
  simp [Wallet.spend, Terms.charged, h]

include hw in
theorem account_charged : (t.charged w).account = t.character.account := by
  rw [Terms.charged, Wallet.account_setBalance, hw]

include hw h

theorem tables_draft :
    (t.draft s amb b o w k cash expiration).tables = (t.sell s amb b o w k cash expiration).store.tables := by
  rw [Terms.draft, delivered, charged_eq h]
  simp only [Draft.tables_put, Draft.placeAsset, Draft.enterItem, Draft.setWallet, account_charged hw]
  rfl

theorem committed_draft :
    (t.draft s amb b o w k cash expiration).committed = (t.sell s amb b o w k cash expiration).store := by
  have hwindow : (t.draft s amb b o w k cash expiration).claimed.foldl KeyWindow.record s.store.window =
      (t.sell s amb b o w k cash expiration).store.window := by
    change ([] ++ (o.idempotencyKey.map (scopedKey b)).toList).foldl _ _ = _
    rw [Terms.sell]
    cases o.idempotencyKey <;> rfl
  change Store.mk _ (List.foldl KeyWindow.record s.store.window _) s.store.faults = _
  rw [tables_draft hw h, hwindow]
  rfl

theorem outbox_draft : (t.draft s amb b o w k cash expiration).outbox = ⟨t.events s amb w k cash expiration⟩ := by
  rw [Terms.draft, delivered, charged_eq h]
  simp only [Draft.setWallet, account_charged hw]
  rfl

/-- Committing the draft and publishing what stands in its outbox is the sale. -/
theorem sell_eq : ({ s with store := (t.draft s amb b o w k cash expiration).committed }.publish
    (t.draft s amb b o w k cash expiration).outbox).count .purchases = t.sell s amb b o w k cash expiration := by
  rw [committed_draft hw h, outbox_draft hw h]
  rfl

end Sell

/-- The state is in order, nothing fails in the store, and there is what a new item needs: a number, a cash id that is
not taken, and an id for its placement. -/
structure Ready (s : Service) (amb : Ambient) : Prop where
  filed : s.store.tables.Filed
  items : ∀ i x, s.store.tables.items.get? i = some x → i.val ≤ s.store.tables.lastItem
  numbered : s.store.tables.lastItem.toNat + 1 < UInt32.size
  faultless : s.store.faults = []
  asset : ∀ x ∈ s.store.tables.assets, x.id ≠ amb.asset
  cashId : ∃ c ∈ amb.cashIds, ¬ s.store.tables.Carries c

theorem Ready.exists_draws (h : Ready s amb) : ∃ cash, s.store.tables.Draws amb.cashIds cash := by
  obtain ⟨c, hc, hfree⟩ := h.cashId
  cases hf : amb.cashIds.find? (!(Draft.begin s.store).hasCashId ·) with
  | none =>
    have htaken := List.find?_eq_none.1 hf c hc
    rw [Bool.not_eq_true, Bool.not_eq_false'] at htaken
    exact absurd (Draft.hasCashId_iff.1 htaken) hfree
  | some cash => exact ⟨cash, Draft.find?_unused.1 hf⟩

theorem exists_decides (h : Ready s amb) (b : CharacterId) (o : PurchaseOrder) : ∃ out, Decides s amb b o out := by
  by_cases hlane : ∃ lane : Currency, lane.code = o.currency
  swap
  · exact ⟨_, .noCurrency (not_exists.1 hlane)⟩
  obtain ⟨lane, hl⟩ := hlane
  cases hx : s.catalog o.serial with
  | error e => exact ⟨_, .noCommodity hl hx⟩
  | ok x =>
    cases hch : s.directory b false with
    | error e => exact ⟨_, .noCharacter hl hx hch⟩
    | ok ch =>
      have found : Terms.Found ⟨lane, x, ch⟩ s b o := ⟨hl, hx, hch⟩
      by_cases hkey : Remembered s b o
      · exact ⟨_, .duplicate found hkey⟩
      cases hw : s.store.tables.wallets.get? ch.account with
      | none => exact ⟨_, .noWallet found hkey hw⟩
      | some w =>
        by_cases hshort : w.balance lane < x.price
        · exact ⟨_, .noFunds found hkey hw hshort⟩
        have hcovered : x.price ≤ w.balance lane := UInt32.not_lt.1 hshort
        by_cases hk : ∃ k, s.store.tables.Allots ch.account (.ofJob ch.job) k
        swap
        · exact ⟨_, .noCompartment found hkey hw hcovered (not_exists.1 hk)⟩
        obtain ⟨k, hk⟩ := hk
        by_cases hroom : occupancy s k < k.capacity.toNat
        · obtain ⟨cash, hcash⟩ := h.exists_draws
          cases hdate : amb.now.addDays? s.settings.itemExpirationDays with
          | none => exact ⟨_, .undated found hkey hw hcovered hk hroom hdate⟩
          | some e => exact ⟨_, .sold found hkey hw hcovered hk hroom hcash hdate⟩
        · exact ⟨_, .full found hkey hw hcovered hk (Nat.not_lt.1 hroom)⟩

theorem call_of_decides (h : Ready s amb) {out : Except WorkflowError Answer × Service} (hd : Decides s amb b o out) :
    s.call amb (.purchase b o) = out := by
  have hf (p : FaultPoint) : p ∉ s.store.faults := by simp [h.faultless]
  cases hd with
  | noCurrency currency =>
    apply call_of_unresolved
    cases hl : Currency.ofCode? o.currency with
    | none =>
      rw [Terms.resolve, resolveCurrency, hl]
      rfl
    | some lane => exact absurd (Currency.code_of_ofCode? hl) (currency lane)
  | noCommodity currency commodity =>
    apply call_of_unresolved
    rw [Terms.resolve, resolveCurrency_eq_ok.2 currency, Service.commodity, commodity]
    rfl
  | noCharacter currency commodity character =>
    apply call_of_unresolved
    rw [Terms.resolve, resolveCurrency_eq_ok.2 currency, Service.commodity_eq_ok.2 commodity, Service.character,
      character]
    rfl
  | @duplicate t found remembered =>
    exact Service.purchase_of_remembered amb (Service.exists_terms_iff.1 ⟨t, Terms.found_iff.1 found⟩) remembered
  | @noWallet t found new wallet =>
    exact call_of_refused found (refuses_work (not_remembered_iff.1 new) (.inl ⟨wallet, rfl⟩))
  | @noFunds t w found new wallet short =>
    exact call_of_refused found (refuses_work (not_remembered_iff.1 new) (.inr ⟨w, wallet, .inl ⟨short, rfl⟩⟩))
  | @noCompartment t w found new wallet covered compartment =>
    have ha : w.canAfford t.currency t.commodity.price = true := decide_eq_true covered
    have hk := (h.filed.compartmentOf?_eq_none_iff (d := Draft.begin s.store) rfl).2 compartment
    exact call_of_refused found (refuses_work (not_remembered_iff.1 new) (.inr ⟨w, wallet, .inr ⟨ha, hk, rfl⟩⟩))
  | @full t w k found new wallet covered compartment crowded =>
    have ha : w.canAfford t.currency t.commodity.price = true := decide_eq_true covered
    have hk := (h.filed.compartmentOf?_eq_some_iff (d := Draft.begin s.store) rfl).2 compartment
    exact call_of_full found (yields_work_full (not_remembered_iff.1 new) wallet ha hk (hf _) crowded)
  | @undated t w k found new wallet covered compartment room expiration =>
    have hk := (h.filed.compartmentOf?_eq_some_iff (d := Draft.begin s.store) rfl).2 compartment
    obtain ⟨cash, drawn⟩ := h.exists_draws
    exact call_of_refused found (refuses_work_of_undated wallet (decide_eq_true covered) (h.filed.contains_account wallet)
      h.faultless (Draft.find?_unused.2 drawn) expiration (not_remembered_iff.1 new) hk room)
  | @sold t w k cash e found new wallet covered compartment room drawn expiration =>
    have hw : w.account = t.character.account := h.filed.wallets _ _ wallet
    have hd : Deliverable amb s.settings.itemExpirationDays (Draft.begin s.store) b o.idempotencyKey t w k cash e := {
      unclaimed := not_remembered_iff.1 new
      wallet
      affordable := decide_eq_true covered
      known := h.filed.contains_account wallet
      target := (h.filed.compartmentOf?_eq_some_iff rfl).2 compartment
      room
      stored := ⟨k, compartment.1, room⟩
      unused := Draft.find?_unused.2 drawn
      dated := expiration
      numbered := h.numbered
      faultless := ⟨hf _, hf _, hf _, hf _⟩ }
    rw [call_of_deliverable found (hf _) hd, sell_eq hw covered, charged_eq covered]

/-- What a sale changes, look-up by look-up. -/
structure Sold (s s' : Service) (amb : Ambient) (t : Terms) (w : Wallet) (k : Compartment) (cash : CashId)
    (expiration : Instant) : Prop where
  wallets : Debited s.store.tables.wallets s'.store.tables.wallets t.character.account t.currency t.commodity.price w
    (t.charged w)
  number : s'.store.tables.lastItem.toNat = s.store.tables.lastItem.toNat + 1
  new : s.store.tables.items.get? ⟨s'.store.tables.lastItem⟩ = none
  items : ∀ i, s'.store.tables.items.get? i =
    if i = ⟨s'.store.tables.lastItem⟩ then some (t.item s cash expiration) else s.store.tables.items.get? i
  dated : amb.now.addDays? s.settings.itemExpirationDays = some expiration
  compartments : s'.store.tables.compartments = s.store.tables.compartments
  assets : ∀ a, s'.store.tables.assets.find? (·.id = a) =
    if a = amb.asset then some ⟨amb.asset, k.id, ⟨s'.store.tables.lastItem⟩⟩
    else s.store.tables.assets.find? (·.id = a)
  events : s.transport.Works →
    s'.transport.carried = s.transport.carried ++ (t.events s amb w k cash expiration).map fun e => ⟨e.1, [e.2], true⟩

theorem sold_sell (h : Ready s amb) (hw : s.store.tables.wallets.get? t.character.account = some w)
    (hcovered : t.commodity.price ≤ w.balance t.currency)
    (hdate : amb.now.addDays? s.settings.itemExpirationDays = some expiration) :
    Sold s (t.sell s amb b o w k cash expiration) amb t w k cash expiration where
  wallets := by
    have ha : w.account = t.character.account := h.filed.wallets _ _ hw
    have hd := debited_spend (ha ▸ hw) (decide_eq_true hcovered)
    rw [charged_eq hcovered, Terms.charged, Wallet.account_setBalance, ha] at hd
    exact hd
  number := toNat_nextNumber h.numbered
  new := Tables.get?_next h.items h.numbered
  items i := Table.get?_insert _ _ _ _
  dated := hdate
  compartments := rfl
  assets a := by
    change (s.store.tables.assets ++ [_]).find? _ = _
    rw [List.find?_append]
    by_cases ha : a = amb.asset
    · subst ha
      have hnone : s.store.tables.assets.find? (·.id = amb.asset) = none :=
        List.find?_eq_none.2 fun x hx => by simpa using h.asset x hx
      simp [hnone, Terms.sell, Terms.item]
    · have hne : ¬ amb.asset = a := fun he => ha he.symm
      simp [ha, hne]
  events hbus := Transport.carried_flush hbus _

end Purchase

namespace Service

open Purchase

variable {s : Service} {amb : Ambient}

/-- In a state that is in order and in which nothing fails, whatever the catalog and the directory say: an order ends on
the first condition that decides it, with the answer and in the service that go with this condition, and in no other
way. Only a sale changes the store. It takes the price from one lane, enters one item under the next number, places it
in the compartment and remembers the key of the order; on a transport that refuses nothing its three events are
published. -/
theorem purchase_iff_decides (h : Ready s amb) (b : CharacterId) (o : PurchaseOrder) :
    (∀ out, s.call amb (.purchase b o) = out ↔ Decides s amb b o out) ∧
    ((∀ r, (s.call amb (.purchase b o)).1 ≠ .ok (.purchase (.completed r))) →
      (s.call amb (.purchase b o)).2.store = s.store) ∧
    ∀ r, (s.call amb (.purchase b o)).1 = .ok (.purchase (.completed r)) → ∃ t w k cash expiration,
      (s.call amb (.purchase b o)).2 = t.sell s amb b o w k cash expiration ∧
        Sold s (s.call amb (.purchase b o)).2 amb t w k cash expiration := by
  have hiff (out : Except WorkflowError Answer × Service) :
      s.call amb (.purchase b o) = out ↔ Decides s amb b o out := by
    constructor
    · -- Nothing has to be shown about the call here: some condition decides, and what it decides is the call.
      rintro rfl
      obtain ⟨out, hd⟩ := exists_decides h b o
      rwa [call_of_decides h hd]
    · exact call_of_decides h
  have hd := (hiff _).1 rfl
  generalize s.call amb (.purchase b o) = out at hiff hd ⊢
  refine ⟨hiff, fun hne => ?_, fun r hr => ?_⟩
  · cases hd with
    | sold => exact absurd rfl (hne _)
    | _ => rfl
  · cases hd with
    | sold found new wallet covered _ _ _ expiration =>
      exact ⟨_, _, _, _, _, rfl, sold_sell h wallet covered expiration⟩
    | _ => cases hr

theorem purchase_iff_decides_stocked : Ready stocked .opening ∧
    ∃ (t : Terms) (w : Wallet) (k : Compartment) (cash : CashId) (expiration : Instant),
      (stocked.call .opening (.purchase ⟨7⟩ ⟨1, ⟨20⟩, some "a"⟩)).2 =
        t.sell stocked .opening ⟨7⟩ ⟨1, ⟨20⟩, some "a"⟩ w k cash expiration := by
  have h : Ready stocked .opening := {
    filed := by decide
    items := fun i x hx => by cases hx
    numbered := by decide
    faultless := rfl
    asset := fun x hx => by cases hx
    cashId := ⟨⟨1⟩, by decide, fun ⟨i, x, hx, _⟩ => by cases hx⟩ }
  obtain ⟨t, w, k, cash, expiration, hs, -⟩ := (purchase_iff_decides h ⟨7⟩ ⟨1, ⟨20⟩, some "a"⟩).2.2 _ rfl
  exact ⟨h, t, w, k, cash, expiration, hs⟩

end Service

end CashShop
