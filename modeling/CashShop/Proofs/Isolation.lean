import CashShop.Proofs.Numbering
import CashShop.Proofs.Tenancy
import Mathlib.Data.List.Nodup

namespace CashShop

open Work

namespace Tables

/-- Wallets and compartments stand under their own ids, an account has at most one compartment for each class line,
every asset lies in a compartment that exists, and no item has a number beyond the latest. -/
structure Orderly (t : Tables) : Prop where
  wallets : t.OwnWallets
  compartments : ∀ c k, t.compartments.get? c = some k → k.id = c
  lines : ∀ c c' k k', t.compartments.get? c = some k → t.compartments.get? c' = some k' → k.account = k'.account →
    k.line = k'.line → c = c'
  assets : ∀ x ∈ t.assets, (t.compartments.get? x.compartment).isSome = true
  items : ∀ i x, t.items.get? i = some x → i.val ≤ t.lastItem

/-- The wallets and the compartments of all accounts but one are the same, the assets in these compartments are, and
so is every item. -/
structure Spares (a : AccountId) (t t' : Tables) : Prop where
  wallets : ∀ b, b ≠ a → t'.wallets.get? b = t.wallets.get? b
  compartments : ∀ c k, k.account ≠ a → (t'.compartments.get? c = some k ↔ t.compartments.get? c = some k)
  assets : ∀ c k, k.account ≠ a → t.compartments.get? c = some k →
    t'.assets.filter (·.compartment = c) = t.assets.filter (·.compartment = c)
  items : ∀ i x, t.items.get? i = some x → t'.items.get? i = some x

structure SparesLanes (a : AccountId) (lane : Currency) (t t' : Tables) : Prop where
  wallet : ∃ w n, t.wallets.get? a = some w ∧ t'.wallets.get? a = some (w.setBalance lane n)
  compartments : t'.compartments = t.compartments

variable {t t' : Tables} {a : AccountId}

theorem Spares.refl (a : AccountId) (t : Tables) : t.Spares a t where
  wallets _ _ := rfl
  compartments _ _ _ := .rfl
  assets _ _ _ _ := rfl
  items _ _ hx := hx

theorem Furnished.unique (h : t.Furnished) {c c' : CompartmentId} {k k' : Compartment}
    (hk : t.compartments.get? c = some k) (hk' : t.compartments.get? c' = some k') (ha : k.account = k'.account)
    (hl : k.line = k'.line) : c = c' := by
  have hnodup : (t.linesOf k'.account).Nodup := by
    refine (h.lines k'.account).nodup_iff.2 ?_
    split
    · decide
    · exact List.nodup_nil
  have hmem {x : Compartment} {i : CompartmentId} (hx : t.compartments.get? i = some x)
      (hxa : x.account = k'.account) : x ∈ t.compartments.values.filter (·.account = k'.account) :=
    List.mem_filter.2 ⟨Table.mem_values_iff.2 ⟨i, hx⟩, decide_eq_true hxa⟩
  have hsame : k = k' := List.inj_on_of_nodup_map hnodup (hmem hk ha) (hmem hk' rfl) hl
  rw [← h.filed c k hk, ← h.filed c' k' hk', hsame]

theorem Furnished.orderly (h : t.Furnished) (own : t.OwnWallets) (hfit : Fit t.compartments t.assets)
    (hn : t.Numbered) : t.Orderly where
  wallets := own
  compartments := h.filed
  lines _ _ _ _ hk hk' ha hl := h.unique hk hk' ha hl
  assets := hfit.housed
  items := hn.le_last

end Tables

inductive Call.Concerns (s : Service) (a : AccountId) : Call → Prop where
  | accountCreated : Concerns s a (.accountCreated a)
  | accountDeleted : Concerns s a (.accountDeleted a)
  | purchase {b : CharacterId} {o : PurchaseOrder} (owner : ∀ ch, s.directory b false = .ok ch → ch.account = a) :
      Concerns s a (.purchase b o)
  | increaseByType {b : CharacterId} {code : UInt32} {tab : UInt8}
      (owner : ∀ ch, s.directory b true = .ok ch → ch.account = a) : Concerns s a (.increaseByType b code tab)
  | increaseByItem {b : CharacterId} {code : UInt32} {n : SerialNumber}
      (owner : ∀ ch, s.directory b true = .ok ch → ch.account = a) : Concerns s a (.increaseByItem b code n)

def Call.currency? : Call → Option UInt32
  | .purchase _ o => some o.currency
  | .increaseByType _ code _ | .increaseByItem _ code _ => some code
  | _ => none

theorem Call.Concerns.of_widening {s : Service} {a : AccountId} {c : Call} {b : CharacterId} {code : UInt32}
    {offer : Except WorkflowError Widening.Offer} (hc : c.Concerns s a)
    (asked : c.widening? s = some (b, code, offer)) :
    c.currency? = some code ∧ ∀ ch, s.directory b true = .ok ch → ch.account = a := by
  cases hc with
  | increaseByType owner | increaseByItem owner =>
    simp only [widening?, Option.some.injEq, Prod.mk.injEq] at asked
    obtain ⟨rfl, rfl, -⟩ := asked
    exact ⟨rfl, owner⟩
  | _ => cases asked

/-- A purchase puts one asset, with the next item, into the compartment of the character's class line; an increase puts
none anywhere. -/
inductive Deposits (s : Service) (amb : Ambient) (a : AccountId) (t t' : Tables) : Call → Prop where
  | purchase {b : CharacterId} {o : PurchaseOrder} {ch : Character} {k : Compartment}
      (character : s.directory b false = .ok ch) (compartment : t.compartments.get? k.id = some k)
      (account : k.account = a) (line : k.line = .ofJob ch.job)
      (assets : t'.assets = t.assets ++ [⟨amb.asset, k.id, ⟨t.lastItem + 1⟩⟩]) : Deposits s amb a t t' (.purchase b o)
  | increase {c : Call} (asked : (c.widening? s).isSome = true) (assets : t'.assets = t.assets) :
      Deposits s amb a t t' c

namespace Draft

variable {d d' : Draft} {a : AccountId} {ls : List ClassLine} {k : ClassLine → Compartment}

theorem account_of_foldlM_open (h : ls.foldlM (fun d l => d.openCompartment (k l)) d = .ok d')
    (hk : ∀ l, (k l).account = a) {c : CompartmentId} {x : Compartment} (hx : d'.tables.compartments.get? c = some x) :
    d.tables.compartments.get? c = some x ∨ x.account = a := by
  revert c x
  refine foldlM_open_induction (P := fun d1 => ∀ {c x}, d1.tables.compartments.get? c = some x →
    d.tables.compartments.get? c = some x ∨ x.account = a) h .inl ?_
  intro l d1 d2 ho ih c x hx
  obtain ⟨-, rfl⟩ := openCompartment_eq_ok.1 ho
  by_cases hc : c = (k l).id
  · obtain rfl : k l = x := by simpa [hc] using hx
    exact .inr (hk l)
  · exact ih (by simpa [hc] using hx)

end Draft

namespace Tables.Spares

variable {t t' : Tables} {a : AccountId}

theorem setWallet (w : Wallet) (hw : w.account = a) :
    t.Spares a { t with wallets := t.wallets.insert w.account w } where
  wallets b hb := by rw [Table.get?_insert, hw, if_neg hb]
  compartments _ _ _ := .rfl
  assets _ _ _ _ := rfl
  items _ _ hx := hx

end Tables.Spares

namespace Commits

variable {s : Service} {amb : Ambient} {c : Call} {ans : Answer} {d : Draft} {a : AccountId}

theorem spares_accountCreated (hfree : ∀ l, s.store.tables.compartments.get? (amb.compartment l) = none)
    (opened : ((Draft.begin s.store).enterWallet (.empty a)).openInventory a s.settings.compartmentCapacity
      amb.compartment = .ok d) : s.store.tables.Spares a d.tables := by
  have htables := (Draft.frame_openInventory opened).2.2
  have hwallets : d.tables.wallets = s.store.tables.wallets.insert a (.empty a) := by
    rw [htables]
    rfl
  have hassets : d.tables.assets = s.store.tables.assets := by
    rw [htables]
    rfl
  have hitems : d.tables.items = s.store.tables.items := by
    rw [htables]
    rfl
  constructor
  · intro b hb
    rw [hwallets, Table.get?_insert, if_neg hb]
  · intro c k hk
    refine ⟨fun hafter => ?_, (Draft.get?_foldlM_open opened hfree c).1 k⟩
    exact (Draft.account_of_foldlM_open opened (fun _ => rfl) hafter).resolve_right hk
  · intro c k _ _
    rw [hassets]
  · intro i x hx
    rwa [hitems]

theorem spares_accountDeleted (h : s.store.tables.Orderly) :
    s.store.tables.Spares a (((Draft.begin s.store).dropWallet a).closeInventory a).tables := by
  have hdropped := (Draft.frame_dropWallet (Draft.begin s.store) a).2.2
  have hclosed := (Draft.frame_closeInventory ((Draft.begin s.store).dropWallet a) a).2.2
  have hfiled : ∀ c x, ((Draft.begin s.store).dropWallet a).tables.compartments.get? c = some x → x.id = c := by
    rw [hdropped]
    exact h.compartments
  constructor
  · intro b hb
    rw [hclosed, hdropped]
    simp [hb, Draft.begin]
  · intro c k hk
    rw [Draft.compartments_closeInventory hfiled, hdropped, Table.get?_filter, Option.filter_eq_some_iff]
    exact ⟨And.left, fun hc => ⟨hc, by simpa using hk⟩⟩
  · intro c k hk hc
    have hopen : c ∉ (((Draft.begin s.store).dropWallet a).compartmentsOf a).map (·.id) := by
      rw [List.mem_map]
      rintro ⟨x, hx, rfl⟩
      obtain ⟨hx, hxa⟩ := List.mem_filter.1 hx
      obtain ⟨c', hx⟩ := Table.mem_values_iff.1 hx
      have hid := hfiled c' x hx
      rw [hdropped] at hx
      rw [hid] at hc
      obtain rfl : k = x := Option.some.inj (hc.symm.trans hx)
      exact hk (of_decide_eq_true hxa)
    rw [hclosed, hdropped, List.filter_filter]
    refine List.filter_congr fun x _ => ?_
    by_cases hxc : x.compartment = c
    · simp [hxc, hopen]
    · simp [hxc]
  · intro i x hx
    rw [hclosed, hdropped]
    exact hx

theorem spares_purchase {b : CharacterId} {o : PurchaseOrder} {p : Purchase.Terms} {w : Wallet} {k : Compartment}
    {cash : CashId} {expiration : Instant} (h : s.store.tables.Orderly) (ha : p.character.account = a)
    (deliverable : Purchase.Deliverable amb s.settings.itemExpirationDays (Draft.begin s.store) b o.idempotencyKey p w k
      cash expiration) :
    s.store.tables.Spares a
      (Purchase.delivered amb (Draft.begin s.store) b o.idempotencyKey p w k cash expiration).tables := by
  obtain ⟨hk, hka, -⟩ := Draft.of_compartmentOf? h.compartments deliverable.target
  have hw : (w.spend p.currency p.commodity.price).account = a := by
    rw [Wallet.account_spend, h.wallets _ w deliverable.wallet, ha]
  constructor
  · exact (Tables.Spares.setWallet _ hw).wallets
  · exact fun _ _ _ => .rfl
  · intro c x hx hc
    have hne : k.id ≠ c := by
      rintro rfl
      obtain rfl : x = k := Option.some.inj (hc.symm.trans hk)
      exact hx (hka.trans ha)
    change (s.store.tables.assets ++ [_]).filter _ = _
    simp [hne]
  · intro i x hx
    have hne : i ≠ ⟨s.store.tables.lastItem + 1⟩ := by
      rintro rfl
      rw [Tables.get?_next h.items deliverable.numbered] at hx
      cases hx
    change (s.store.tables.items.insert ⟨s.store.tables.lastItem + 1⟩ _).get? i = _
    rw [Table.get?_insert, if_neg hne, hx]

theorem spares_widening {ch : Character} {lane : Currency} {o : Widening.Offer} {w : Wallet} {current : UInt32}
    {b : CharacterId} (h : s.store.tables.Orderly) (ha : ch.account = a)
    (feasible : Widening.Feasible (Draft.begin s.store) ch lane o w current) :
    s.store.tables.Spares a (Widening.requested ((Draft.begin s.store).setWallet (w.spend lane o.price)) b o
      (current + o.amount)).tables := by
  refine Tables.Spares.setWallet _ ?_
  rw [Wallet.account_spend, h.wallets _ w feasible.wallet, ha]

/-- Whatever is committed for an account spares the others, and enters no item but the next one of a purchase. -/
theorem spares (h : Commits s amb c ans d) (hc : c.Concerns s a) (ho : s.store.tables.Orderly)
    (hfree : ∀ l, s.store.tables.compartments.get? (amb.compartment l) = none) :
    s.store.tables.Spares a d.tables ∧ ∀ i, d.tables.items.get? i ≠ s.store.tables.items.get? i →
      (∃ b o, c = .purchase b o) ∧ i = ⟨s.store.tables.lastItem + 1⟩ := by
  cases h with
  | accountCreated fresh opened =>
    cases hc
    have hitems := congrArg Tables.items (Draft.frame_openInventory opened).2.2
    rw [Draft.tables_put]
    exact ⟨spares_accountCreated hfree opened, fun i hi => absurd (congrArg (Table.get? · i) hitems) hi⟩
  | accountDeleted =>
    cases hc
    have hclosed := congrArg Tables.items (Draft.frame_closeInventory ((Draft.begin s.store).dropWallet a) a).2.2
    have hdropped := congrArg Tables.items (Draft.frame_dropWallet (Draft.begin s.store) a).2.2
    exact ⟨spares_accountDeleted ho,
      fun i hi => absurd (congrArg (Table.get? · i) (hclosed.trans hdropped)) hi⟩
  | @purchase b o p w k cash expiration terms deliverable =>
    cases hc with
    | purchase owner =>
      refine ⟨spares_purchase ho (owner _ (Service.character_eq_ok.1 (Purchase.Terms.resolve_eq_ok.1 terms).2.2))
        deliverable, fun i hi => ⟨⟨b, o, rfl⟩, ?_⟩⟩
      by_contra hne
      refine hi ?_
      change (s.store.tables.items.insert ⟨s.store.tables.lastItem + 1⟩ _).get? i = _
      rw [Table.get?_insert, if_neg hne]
  | @widening _ b code o lane ch w current asked currency character feasible =>
    obtain ⟨-, howner⟩ := hc.of_widening asked
    exact ⟨spares_widening ho (howner ch (Service.character_eq_ok.1 character)) feasible,
      fun i hi => absurd rfl hi⟩
  | _ => cases hc

/-- What is sold to an account is paid from the lane that was asked for, and put where it belongs. -/
theorem sells (h : Commits s amb c ans d) (hc : c.Concerns s a) (ho : s.store.tables.Orderly)
    (hsale : ans.isSale = true) : ∃ code lane, c.currency? = some code ∧ resolveCurrency code = .ok lane ∧
      s.store.tables.SparesLanes a lane d.tables ∧ Deposits s amb a s.store.tables d.tables c := by
  have hspent {w : Wallet} {lane : Currency} {n : UInt32} (hw : s.store.tables.wallets.get? a = some w) :
      ∃ v m, s.store.tables.wallets.get? a = some v ∧
        (s.store.tables.wallets.insert (w.spend lane n).account (w.spend lane n)).get? a = some (v.setBalance lane m) :=
    ⟨w, _, hw, by rw [Wallet.account_spend, ho.wallets a w hw, Table.get?_insert, if_pos rfl, Wallet.spend]⟩
  cases h with
  | @purchase b o p w k cash expiration terms deliverable =>
    obtain ⟨hlane, -, hcharacter⟩ := Purchase.Terms.resolve_eq_ok.1 terms
    have hdirectory := Service.character_eq_ok.1 hcharacter
    obtain ⟨hk, hka, hkl⟩ := Draft.of_compartmentOf? ho.compartments deliverable.target
    cases hc with
    | purchase owner =>
      have ha := owner _ hdirectory
      exact ⟨o.currency, p.currency, rfl, hlane, ⟨hspent (ha ▸ deliverable.wallet), rfl⟩,
        .purchase hdirectory hk (hka.trans ha) hkl rfl⟩
  | @widening _ b code o lane ch w current asked currency character feasible =>
    obtain ⟨hcode, howner⟩ := hc.of_widening asked
    have ha := howner ch (Service.character_eq_ok.1 character)
    exact ⟨code, lane, hcode, currency, ⟨hspent (ha ▸ feasible.wallet), rfl⟩,
      .increase (by rw [asked, Option.isSome_some]) rfl⟩
  | _ => cases hsale

theorem isSale (h : Commits s amb c ans d) (hc : c.currency?.isSome = true) : ans.isSale = true := by
  cases h with
  | purchase | widening => rfl
  | _ => cases hc

end Commits

def Ambient.shifted (n : Nat) : Ambient :=
  { opening with compartment := fun l => ⟨.ofNat (n + l.code.toNat)⟩, asset := ⟨.ofNat n⟩ }

namespace Service

variable {s : Service} {amb : Ambient} {c : Call} {a : AccountId}

theorem orderly_after {n : Nat} {h : List Event} (hids : (s.renewed n).FreshCompartmentIds h) :
    ((s.renewed n).after h).store.tables.Orderly :=
  (furnished_after hids Tables.furnished_empty).orderly (ownWallets_after (fun a w hw => by cases hw) h)
    (fit_after hids Fit.empty) (numbered_after Tables.numbered_empty h)

/-- A call for one account, on tables in order and whatever fails, and whether or not it succeeds. Nothing that belongs
to another account is touched, and no item is; what a purchase sells is the only item that may be new. A successful
purchase or increase takes from the lane that it names, and a purchase places one asset, in the compartment of the
character's class line. One that fails, or that repeats an order, changes nothing at all. -/
theorem accounts_are_isolated (ho : s.store.tables.Orderly)
    (hfree : ∀ l, s.store.tables.compartments.get? (amb.compartment l) = none) (hc : c.Concerns s a) :
    s.store.tables.Spares a (s.call amb c).2.store.tables ∧
    (∀ i, (s.call amb c).2.store.tables.items.get? i ≠ s.store.tables.items.get? i →
      (∃ b o, c = .purchase b o) ∧ i = ⟨s.store.tables.lastItem + 1⟩) ∧
    (∀ ans, (s.call amb c).1 = .ok ans → ans.isSale = true →
      ∃ code lane, c.currency? = some code ∧ resolveCurrency code = .ok lane ∧
        s.store.tables.SparesLanes a lane (s.call amb c).2.store.tables ∧
        Deposits s amb a s.store.tables (s.call amb c).2.store.tables c) ∧
    (c.currency?.isSome = true → (∀ ans, (s.call amb c).1 = .ok ans → ans.isSale = false) →
      (s.call amb c).2.store = s.store) := by
  cases hr : (s.call amb c).1 with
  | error e =>
    have hstore := store_call_of_error hr
    refine ⟨?_, fun i hi => ?_, fun ans h => (nomatch h), fun _ _ => hstore⟩
    · rw [hstore]
      exact .refl a _
    · exact absurd (by rw [hstore]) hi
  | ok ans =>
    obtain ⟨d, commits, hstore⟩ | ⟨hsale, hstore⟩ := call_cases hr
    · obtain ⟨hspares, hitems⟩ := commits.spares hc ho hfree
      refine ⟨by rwa [hstore], by rwa [hstore], ?_, fun hcurrency hnone => ?_⟩
      · rintro _ ⟨⟩ hsale
        rw [hstore]
        exact commits.sells hc ho hsale
      · cases (hnone ans rfl).symm.trans (commits.isSale hcurrency)
    · refine ⟨by rw [hstore]; exact .refl a _, fun i hi => absurd (by rw [hstore]) hi, ?_, fun _ _ => hstore⟩
      rintro _ ⟨⟩ hsale'
      cases hsale.symm.trans hsale'

def neighbours : List Event := [
  .call .opening (.accountCreated ⟨1⟩),
  .fund ⟨⟨1⟩, 1000, 0, 0⟩,
  .call (.shifted 10) (.accountCreated ⟨2⟩),
  .call .opening (.grant gift),
  .call (.shifted 10) (.accept ⟨⟨2⟩, .explorer, ⟨.ofNat 9⟩, ⟨.ofNat 11⟩, ⟨1⟩⟩)]

theorem accounts_are_isolated_neighbours :
    let s := (kiosk.renewed 1).after neighbours
    let order : Call := .purchase ⟨7⟩ ⟨1, ⟨20⟩, none⟩
    s.store.tables.Orderly ∧ (∀ l, s.store.tables.compartments.get? ((Ambient.shifted 20).compartment l) = none) ∧
      order.Concerns s ⟨1⟩ ∧ s.succeeds (.shifted 20) order = true ∧
      s.store.tables.Spares ⟨1⟩ (s.call (.shifted 20) order).2.store.tables := by
  intro s order
  have ho : s.store.tables.Orderly := orderly_after (s := kiosk) (n := 1) (h := neighbours) (by decide)
  have hfree : ∀ l, s.store.tables.compartments.get? ((Ambient.shifted 20).compartment l) = none := by
    intro l
    cases l <;> decide
  have hc : order.Concerns s ⟨1⟩ := by
    refine .purchase fun ch hch => ?_
    cases hch
    rfl
  exact ⟨ho, hfree, hc, by decide, (accounts_are_isolated ho hfree hc).1⟩

end Service

end CashShop
