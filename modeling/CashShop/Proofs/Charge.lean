import CashShop.Proofs.Conservation
import CashShop.Proofs.Reply

namespace CashShop

open Work

structure Debited (t t' : Table AccountId Wallet) (a : AccountId) (lane : Currency) (amount : UInt32) (w w' : Wallet) :
    Prop where
  before : t.get? a = some w
  after : t'.get? a = some w'
  account : w'.account = a
  charged : (w'.balance lane).toNat + amount.toNat = (w.balance lane).toNat
  lanes : ∀ l, l ≠ lane → w'.balance l = w.balance l
  others : ∀ b, b ≠ a → t'.get? b = t.get? b

theorem debited_spend {t : Table AccountId Wallet} {w : Wallet} {lane : Currency} {amount : UInt32}
    (hw : t.get? w.account = some w) (hc : w.canAfford lane amount = true) :
    Debited t (t.insert (w.spend lane amount).account (w.spend lane amount)) w.account lane amount w
      (w.spend lane amount) where
  before := hw
  after := by simp
  account := Wallet.account_spend w lane amount
  charged := by
    have hspent := Charge.balance_spend_add_on (x := ⟨w.account, lane, amount⟩) hc lane
    simpa [Charge.on] using hspent
  lanes l hl := by simp [Wallet.spend, hl]
  others b hb := by simp [hb]

/-- A slot coupon names the tab in whose range of a thousand templates it lies. -/
theorem Tab.ofSlotCoupon_eq_ok {template : UInt32} {t : Tab} : ofSlotCoupon template = .ok t ↔
    9110000 + 1000 * (t.code.toNat - 1) ≤ template.toNat ∧ template.toNat < 9110000 + 1000 * t.code.toNat := by
  have hfind (n : Int) : all.find? (fun t => (t.code.toNat : Int) = n) = some t ↔ (t.code.toNat : Int) = n := by
    constructor
    · intro h
      simpa using List.find?_some h
    · rintro rfl
      cases t <;> rfl
  have hcode : 1 ≤ t.code.toNat := by cases t <;> decide
  unfold ofSlotCoupon couponBase
  dsimp only
  split
  · simp only [reduceCtorEq, false_iff]
    omega
  · cases hn : all.find? fun t => (t.code.toNat : Int) = ((template.toNat : Int) - 9110000) / 1000 + 1 with
    | none =>
      have hne : ¬ (t.code.toNat : Int) = ((template.toNat : Int) - 9110000) / 1000 + 1 := by
        rw [← hfind, hn]
        exact nofun
      simp only [reduceCtorEq, false_iff]
      omega
    | some t' =>
      have hiff := hfind (((template.toNat : Int) - 9110000) / 1000 + 1)
      rw [hn] at hiff
      simp only [Except.ok.injEq]
      rw [← Option.some.injEq, hiff]
      omega

/-- What a call asks to be widened, by how many slots and at which price. A tab that is named by its code is widened by
8 slots for 4000, one that is named by a coupon of the catalog by 4 slots for the price of the coupon. -/
inductive Call.Orders (s : Service) : Call → CharacterId → UInt32 → Widening.Offer → Prop where
  | byType {b : CharacterId} {currency : UInt32} {tab : Tab} :
      Orders s (.increaseByType b currency tab.code) b currency ⟨tab, 4000, 8⟩
  | byItem {b : CharacterId} {currency : UInt32} {n : SerialNumber} {x : Commodity} {tab : Tab}
      (coupon : s.catalog n = .ok x)
      (range : 9110000 + 1000 * (tab.code.toNat - 1) ≤ x.template.val.toNat ∧
        x.template.val.toNat < 9110000 + 1000 * tab.code.toNat) :
      Orders s (.increaseByItem b currency n) b currency ⟨tab, x.price, 4⟩

theorem Call.widening?_eq_some_ok_iff {s : Service} {c : Call} {b : CharacterId} {code : UInt32} {o : Widening.Offer} :
    c.widening? s = some (b, code, .ok o) ↔ c.Orders s b code o := by
  constructor
  · intro h
    cases c with
    | increaseByType b' code' n =>
      obtain ⟨rfl, rfl, ho⟩ : b' = b ∧ code' = code ∧ Widening.Offer.ofTab n = .ok o := by simpa [widening?] using h
      cases ht : resolveTab n with
      | error e => simp [Widening.Offer.ofTab, ht, Except.map] at ho
      | ok tab =>
        obtain rfl := resolveTab_eq_ok.1 ht
        rw [Widening.Offer.ofTab, ht] at ho
        cases ho
        exact .byType
    | increaseByItem b' code' n =>
      obtain ⟨rfl, rfl, ho⟩ : b' = b ∧ code' = code ∧ Widening.Offer.ofCoupon s n = .ok o := by
        simpa [widening?] using h
      rw [Widening.Offer.ofCoupon, bind_eq_ok] at ho
      obtain ⟨x, hx, ho⟩ := ho
      cases ht : Tab.ofSlotCoupon x.template.val with
      | error e =>
        rw [ht] at ho
        cases ho
      | ok tab =>
        rw [ht] at ho
        cases ho
        exact .byItem (Service.commodity_eq_ok.1 hx) (Tab.ofSlotCoupon_eq_ok.1 ht)
    | _ => cases h
  · intro h
    cases h with
    | byType => simp [widening?, Widening.Offer.ofTab, resolveTab_eq_ok.2 rfl, Except.map, Widening.plainPrice,
        Widening.plainAmount]
    | byItem coupon range =>
      simp [widening?, Widening.Offer.ofCoupon, Service.commodity_eq_ok.2 coupon, Tab.ofSlotCoupon_eq_ok.2 range, bind,
        Except.bind, pure, Except.pure, Widening.couponAmount]

namespace Widening

variable {s : Service} {amb : Ambient} {c : Call} {b : CharacterId} {code : UInt32} {o : Offer} {lane : Currency}
  {a : AccountId} {current : UInt32} {w w' : Wallet} {offer : Except WorkflowError Offer}

/-- What a widening rests on: what the call asks for, the capacity that the directory knows of the tab, the wallet of
the character's account, whose lane covers the price, and the ceiling. -/
structure Granted (s : Service) (c : Call) (b : CharacterId) (o : Offer) (lane : Currency) (a : AccountId)
    (current : UInt32) (w : Wallet) : Prop where
  ordered : c.Orders s b lane.code o
  character : ∃ ch, s.directory b true = .ok ch ∧ ch.account = a ∧ ch.inventory.bind (·.get? o.tab) = some current
  wallet : s.store.tables.wallets.get? a = some w
  covered : o.price ≤ w.balance lane
  ceiling : current.toNat + o.amount.toNat ≤ 96

def publications (b : CharacterId) (o : Offer) (capacity : UInt32) (w : Wallet) : List Publication := [
  ⟨.walletStatus, [⟨toString w.account, (WalletEvent.updated w).toJson⟩], true⟩,
  ⟨.characterCommand, [⟨toString b, (CharacterCommand.increaseCapacity b o.tab o.amount).toJson⟩], true⟩,
  ⟨.shopStatus, [⟨toString b, (ShopEvent.capacityIncreased b ⟨o.tab, capacity, o.amount⟩).toJson⟩], true⟩]

theorem publications_requested (s : Store) (w : Wallet) (b : CharacterId) (o : Offer) (capacity : UInt32) :
    (requested ((Draft.begin s).setWallet w) b o capacity).outbox.publications = publications b o capacity w := rfl

theorem granted_of_feasible {ch : Character} (asked : c.widening? s = some (b, code, .ok o))
    (hl : resolveCurrency code = .ok lane) (hch : s.character b true = .ok ch)
    (h : Feasible (Draft.begin s.store) ch lane o w current) : Granted s c b o lane ch.account current w where
  ordered := Call.widening?_eq_some_ok_iff.1 (resolveCurrency_eq_ok.1 hl ▸ asked)
  character := ⟨ch, Service.character_eq_ok.1 hch, rfl, h.slots⟩
  wallet := h.wallet
  covered := by simpa [Wallet.canAfford] using h.affordable
  ceiling := h.ceiling

theorem Granted.feasible (h : Granted s c b o lane a current w) (own : s.store.tables.OwnWallets)
    (hf : .updateWallet ∉ s.store.faults) :
    ∃ ch, s.character b true = .ok ch ∧ Feasible (Draft.begin s.store) ch lane o w current := by
  obtain ⟨ch, hch, rfl, hslots⟩ := h.character
  refine ⟨ch, Service.character_eq_ok.2 hch, h.wallet, ?_, hslots, h.ceiling, hf, ?_⟩
  · simpa [Wallet.canAfford] using h.covered
  · change (s.store.tables.wallets.get? w.account).isSome = true
    rw [own _ _ h.wallet, h.wallet]
    rfl

end Widening

namespace Service

variable {s : Service} {amb : Ambient} {c : Call} {b : CharacterId} {code : UInt32}

open Widening

theorem call_of_widening {offer : Except WorkflowError Offer} (asked : c.widening? s = some (b, code, offer)) :
    s.call amb c = answered .widened (s.widen b code offer) := by
  cases c with
  | increaseByType | increaseByItem =>
    cases asked
    rfl
  | _ => cases asked

theorem call_of_feasible {o : Offer} {lane : Currency} {ch : Character} {w : Wallet} {current : UInt32}
    (asked : c.widening? s = some (b, code, .ok o)) (hl : resolveCurrency code = .ok lane)
    (hch : s.character b true = .ok ch) (h : Feasible (Draft.begin s.store) ch lane o w current)
    (hf : .commit ∉ s.store.faults) : (s.call amb c).1 = .ok (.widened (increase lane o w current)) := by
  have hp : prepare s b code (.ok o) = .ok (Widening.work b ch lane o) :=
    prepare_eq_ok.2 ⟨o, lane, ch, rfl, hl, hch, rfl⟩
  rw [call_of_widening asked, widen, hp, perform, run_of_kept (yields_work.2 ⟨w, current, h, rfl, rfl⟩) rfl hf]
  rfl

theorem of_widened {r : CapacityIncrease} (h : (s.call amb c).1 = .ok (.widened r)) :
    ∃ b code o lane ch w current, c.widening? s = some (b, code, .ok o) ∧ resolveCurrency code = .ok lane ∧
      s.character b true = .ok ch ∧ Feasible (Draft.begin s.store) ch lane o w current ∧
      r = increase lane o w current ∧
      (s.call amb c).2.store =
        (requested ((Draft.begin s.store).setWallet (w.spend lane o.price)) b o (current + o.amount)).committed ∧
      (s.call amb c).2.transport = ((requested ((Draft.begin s.store).setWallet (w.spend lane o.price)) b o
        (current + o.amount)).outbox.flush Transport.publish s.transport).2 := by
  obtain ⟨d, commits, store, transport⟩ := committed_of_done h rfl (by simp) (by simp)
  cases commits with
  | widening asked currency character feasible =>
    exact ⟨_, _, _, _, _, _, _, asked, currency, character, feasible, rfl, store, transport⟩

theorem charged_of_ok (hbus : s.transport.Works) (own : s.store.tables.OwnWallets)
    {offer : Except WorkflowError Offer} (asked : c.widening? s = some (b, code, offer)) {ans : Answer}
    (h : (s.call amb c).1 = .ok ans) : ∃ o lane a current w capacity w', lane.code = code ∧
      Granted s c b o lane a current w ∧ ans = .widened ⟨o.tab, capacity, o.amount, w'⟩ ∧
      capacity.toNat = current.toNat + o.amount.toNat ∧ capacity.toNat ≤ 96 ∧
      Debited s.store.tables.wallets (s.call amb c).2.store.tables.wallets a lane o.price w w' ∧
      (s.call amb c).2.store =
        { s.store with tables := { s.store.tables with wallets := (s.call amb c).2.store.tables.wallets } } ∧
      (s.call amb c).2.transport.carried = s.transport.carried ++ publications b o capacity w' := by
  have hwidened : ∃ r, ans = .widened r := by
    rw [call_of_widening asked] at h
    obtain ⟨r, -, hr⟩ := answered_eq_ok.1 h
    exact ⟨r, hr.symm⟩
  obtain ⟨r, rfl⟩ := hwidened
  obtain ⟨b', code', o, lane, ch, w, current, asked', hl, hch, feasible, rfl, store, transport⟩ := of_widened h
  obtain ⟨rfl, rfl, rfl⟩ : b = b' ∧ code = code' ∧ offer = .ok o := by simpa [asked] using asked'
  have hceiling : current.toNat + o.amount.toNat ≤ 96 := feasible.ceiling
  have hcapacity : (current + o.amount).toNat = current.toNat + o.amount.toNat := by
    rw [UInt32.toNat_add, Nat.mod_eq_of_lt (by omega)]
  have hw : s.store.tables.wallets.get? ch.account = some w := feasible.wallet
  have ha : w.account = ch.account := own _ _ hw
  refine ⟨o, lane, w.account, current, w, current + o.amount, w.spend lane o.price, resolveCurrency_eq_ok.1 hl,
    ha ▸ granted_of_feasible asked hl hch feasible, rfl, hcapacity, hcapacity ▸ hceiling, ?_, ?_, ?_⟩
  · rw [store]
    exact debited_spend (ha ▸ hw) feasible.affordable
  · rw [store]
    rfl
  · rw [transport, Transport.carried_flush hbus, publications_requested]

/-- On a transport that refuses nothing, whatever fails in the store and whatever the directory and the catalog say: a
call to widen a tab that succeeds has found everything that the widening rests on. It answers with the capacity of the
directory increased by the amount, without wrapping around and up to the ceiling, it has taken the price from the one
lane and has changed nothing else in the store, and it has published the three events of the widening. One that fails
has left the store as it was and has told the character of an error and nothing else. While nothing fails in the store,
the call succeeds exactly if it finds what the widening rests on. -/
theorem widening_charges_exactly (hbus : s.transport.Works) (own : s.store.tables.OwnWallets) (amb : Ambient)
    (hc : (∃ n, c = .increaseByType b code n) ∨ ∃ n, c = .increaseByItem b code n) :
    let s' := (s.call amb c).2
    (∀ ans, (s.call amb c).1 = .ok ans → ∃ o lane a current w capacity w', lane.code = code ∧
      Granted s c b o lane a current w ∧ ans = .widened ⟨o.tab, capacity, o.amount, w'⟩ ∧
      capacity.toNat = current.toNat + o.amount.toNat ∧ capacity.toNat ≤ 96 ∧
      Debited s.store.tables.wallets s'.store.tables.wallets a lane o.price w w' ∧
      s'.store = { s.store with tables := { s.store.tables with wallets := s'.store.tables.wallets } } ∧
      s'.transport.carried = s.transport.carried ++ publications b o capacity w') ∧
    (∀ e, (s.call amb c).1 = .error e → s'.store = s.store ∧ s'.transport.carried =
      s.transport.carried ++ [⟨.shopStatus, [⟨toString b, (ShopEvent.error b e.code).toJson⟩], true⟩]) ∧
    (s.store.faults = [] → ((∃ ans, (s.call amb c).1 = .ok ans) ↔
      ∃ o lane a current w, lane.code = code ∧ Granted s c b o lane a current w)) := by
  intro s'
  obtain ⟨offer, asked⟩ : ∃ offer, c.widening? s = some (b, code, offer) := by
    obtain ⟨n, rfl⟩ | ⟨n, rfl⟩ := hc <;> exact ⟨_, rfl⟩
  refine ⟨fun ans hans => charged_of_ok hbus own asked hans, fun e he => ⟨store_call_of_error he, ?_⟩, fun hf => ?_⟩
  · have hcode : c.code? (s.call amb c).1 = some e.code := by
      obtain ⟨n, rfl⟩ | ⟨n, rfl⟩ := hc <;> rw [he] <;> rfl
    obtain ⟨t, m, hevent, htold⟩ := told_of_code hcode
    obtain ⟨rfl, rfl⟩ : .shopStatus = t ∧ ⟨toString b, (ShopEvent.error b e.code).toJson⟩ = m := by
      obtain ⟨n, rfl⟩ | ⟨n, rfl⟩ := hc <;> simpa [Call.errorEvent?] using hevent
    rw [htold, carried_announce, hbus.refuses, if_neg Bool.false_ne_true]
  · constructor
    · rintro ⟨ans, hans⟩
      obtain ⟨o, lane, a, current, w, -, -, hlane, granted, -⟩ := charged_of_ok hbus own asked hans
      exact ⟨o, lane, a, current, w, hlane, granted⟩
    · rintro ⟨o, lane, a, current, w, rfl, granted⟩
      obtain ⟨ch, hch, feasible⟩ := granted.feasible own (by simp [hf])
      exact ⟨_, call_of_feasible (Call.widening?_eq_some_ok_iff.2 granted.ordered) (resolveCurrency_eq_ok.2 rfl) hch
        feasible (by simp [hf])⟩

theorem widening_charges_exactly_eight :
    let s := stocked.after [.fund ⟨⟨1⟩, 4000, 0, 0⟩]
    s.transport.Works ∧ s.store.tables.OwnWallets ∧ s.store.faults = [] ∧
      ∃ ans, (s.call .opening (.increaseByType ⟨7⟩ 1 1)).1 = .ok ans := by
  intro s
  have hbus : s.transport.Works := by decide
  have own : s.store.tables.OwnWallets := ownWallets_after (ownWallets_after (fun a w h => by cases h) _) _
  have ordered : Call.Orders s (.increaseByType ⟨7⟩ 1 Tab.equip.code) ⟨7⟩ 1 ⟨.equip, 4000, 8⟩ := .byType
  have granted : Granted s (.increaseByType ⟨7⟩ 1 1) ⟨7⟩ ⟨.equip, 4000, 8⟩ .credit ⟨1⟩ 24 ⟨⟨1⟩, 4000, 0, 0⟩ :=
    ⟨ordered, ⟨_, rfl, rfl, rfl⟩, by decide, by decide, by decide⟩
  have hcall := widening_charges_exactly hbus own .opening (c := .increaseByType ⟨7⟩ 1 1) (.inl ⟨1, rfl⟩)
  exact ⟨hbus, own, rfl, (hcall.2.2 rfl).2 ⟨_, _, _, _, _, rfl, granted⟩⟩

end Service

end CashShop
