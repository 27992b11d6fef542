import CashShop.Proofs.TransferCall

namespace CashShop

namespace Work

variable {α β : Type} {d : Draft} {e e' : WorkflowError}

def Refuses (w : Work α) (d : Draft) (e : WorkflowError) : Prop := (exec w d).1 = .error e

theorem Yields.not_refuses {w : Work α} {a : α} {d' : Draft} (h : Yields w d a d') : ¬ Refuses w d e := by
  intro hr
  rw [Refuses, show exec w d = (.ok a, d') from h] at hr
  cases hr

theorem refuses_bind {x : Work α} {f : α → Work β} : Refuses (x >>= f) d e ↔
    Refuses x d e ∨ ∃ a d', Yields x d a d' ∧ Refuses (f a) d' e := by
  simp only [Refuses, Yields, exec_bind]
  rcases exec x d with ⟨r, d1⟩
  cases r with
  | error e' => simp
  | ok a => simp [and_assoc]

@[simp] theorem not_refuses_pure {a : α} : ¬ Refuses (pure a) d e := by
  change ¬ (.ok a : Except WorkflowError α) = .error e
  simp

@[simp] theorem refuses_throw : Refuses (throw e' : Work α) d e ↔ e' = e := by
  change (.error e' : Except WorkflowError α) = .error e ↔ _
  simp

@[simp] theorem refuses_throw_bind {f : α → Work β} : Refuses (throw e' >>= f) d e ↔ e' = e := by
  simp

@[simp] theorem refuses_map {x : Work α} {f : α → β} : Refuses (f <$> x) d e ↔ Refuses x d e := by
  rw [map_eq_pure_bind, refuses_bind]
  simp

@[simp] theorem refuses_ite {p : Prop} [Decidable p] {x y : Work α} :
    Refuses (if p then x else y) d e ↔ p ∧ Refuses x d e ∨ ¬ p ∧ Refuses y d e := by
  split <;> simp [*]

@[simp] theorem not_refuses_read {f : Draft → α} : ¬ Refuses (read f) d e := by
  change ¬ (.ok (f d) : Except WorkflowError α) = .error e
  simp

@[simp] theorem not_refuses_step {f : Draft → α × Draft} : ¬ Refuses (step f) d e := by
  change ¬ (.ok (f d).1 : Except WorkflowError α) = .error e
  simp

@[simp] theorem not_refuses_put {t : Topic} {key : String} {value : Json} : ¬ Refuses (put t key value) d e :=
  not_refuses_step

@[simp] theorem refuses_tryRead {f : Draft → Except Fault α} :
    Refuses (tryRead f) d e ↔ ∃ x, f d = .error x ∧ .internal x = e := by
  simp only [Refuses, exec, tryRead]
  cases f d <;> simp

@[simp] theorem refuses_tryStep {f : Draft → Except Fault (α × Draft)} :
    Refuses (tryStep f) d e ↔ ∃ x, f d = .error x ∧ .internal x = e := by
  simp only [Refuses, exec, tryStep]
  cases f d <;> simp

@[simp] theorem refuses_tryWrite {f : Draft → Except Fault Draft} :
    Refuses (tryWrite f) d e ↔ ∃ x, f d = .error x ∧ .internal x = e := by
  rw [tryWrite, refuses_tryStep]
  cases f d <;> simp [Except.map]

@[simp] theorem refuses_orElseThrow {o : Option α} : Refuses (orElseThrow e' o) d e ↔ o = none ∧ e' = e := by
  cases o <;> simp [orElseThrow]

@[simp] theorem refuses_lift {x : Except WorkflowError α} : Refuses (liftM x) d e ↔ x = .error e := Iff.rfl

@[simp] theorem refuses_read_bind {f : Draft → α} {g : α → Work β} :
    Refuses (read f >>= g) d e ↔ Refuses (g (f d)) d e := by
  simp [refuses_bind, and_assoc]

@[simp] theorem refuses_step_bind {f : Draft → α × Draft} {g : α → Work β} :
    Refuses (step f >>= g) d e ↔ Refuses (g (f d).1) (f d).2 e := by
  simp [refuses_bind, Prod.ext_iff, and_assoc]

@[simp] theorem refuses_put_bind {t : Topic} {key : String} {value : Json} {g : Unit → Work β} :
    Refuses (put t key value >>= g) d e ↔ Refuses (g ()) (d.put t ⟨key, value⟩) e := refuses_step_bind

@[simp] theorem refuses_orElseThrow_bind {o : Option α} {g : α → Work β} : Refuses (orElseThrow e' o >>= g) d e ↔
    o = none ∧ e' = e ∨ ∃ a, o = some a ∧ Refuses (g a) d e := by
  simp [refuses_bind, and_assoc]

@[simp] theorem refuses_lift_bind {x : Except WorkflowError α} {g : α → Work β} : Refuses (liftM x >>= g) d e ↔
    x = .error e ∨ ∃ a, x = .ok a ∧ Refuses (g a) d e := by
  simp [refuses_bind, and_assoc]

@[simp] theorem refuses_tryRead_bind {f : Draft → Except Fault α} {g : α → Work β} : Refuses (tryRead f >>= g) d e ↔
    (∃ x, f d = .error x ∧ .internal x = e) ∨ ∃ a, f d = .ok a ∧ Refuses (g a) d e := by
  simp [refuses_bind, and_assoc]

theorem refuses_tryCatch {x : Work α} {handler : WorkflowError → Work α} {f : WorkflowError → WorkflowError}
    (h : ∀ e, handler e = throw (f e)) : Refuses (tryCatch x handler) d e ↔ ∃ e', Refuses x d e' ∧ f e' = e := by
  simp only [Refuses, exec_tryCatch]
  rcases exec x d with ⟨r, d1⟩
  cases r with
  | ok a => simp
  | error e' =>
    have hh : (exec (handler e') d1).1 = .error (f e') := by
      rw [h]
      rfl
    simp [hh]

end Work

open Work

theorem Draft.assetsIn_of_fault {d : Draft} (hf : .listAssets ∈ d.base.faults) (c : CompartmentId) :
    d.assetsIn c = .error (.injected .listAssets) := by
  simp [assetsIn, check, hf, bind, Except.bind]

variable {d : Draft} {e : WorkflowError} {amb : Ambient}

section Uncoded

variable {α β : Type} {x : Except WorkflowError α} {f : α → Except WorkflowError β}

theorem bind_eq_ok {b : β} : x >>= f = .ok b ↔ ∃ a, x = .ok a ∧ f a = .ok b := by
  cases x <;> simp [bind, Except.bind]

theorem bind_eq_error : x >>= f = .error e ↔ x = .error e ∨ ∃ a, x = .ok a ∧ f a = .error e := by
  cases x <;> simp [bind, Except.bind]

/-- If this fails, then for a reason that has no code of its own. -/
def Uncoded (x : Except WorkflowError α) : Prop := ∀ e, x = .error e → e.code = .unknownError

theorem uncoded_ok (a : α) : Uncoded (.ok a) := by
  rintro e ⟨⟩

theorem uncoded_error (h : e.code = .unknownError) : Uncoded (.error e : Except WorkflowError α) := by
  rintro e' ⟨⟩
  exact h

theorem Uncoded.bind (hx : Uncoded x) (hf : ∀ a, Uncoded (f a)) : Uncoded (x >>= f) := by
  intro e h
  obtain h | ⟨a, -, h⟩ := bind_eq_error.1 h
  · exact hx e h
  · exact hf a e h

theorem Uncoded.map {g : α → β} (hx : Uncoded x) : Uncoded (x.map g) := by
  cases x with
  | error e => exact uncoded_error (hx e rfl)
  | ok a => exact uncoded_ok _

theorem uncoded_resolveCurrency (code : UInt32) : Uncoded (resolveCurrency code) := by
  unfold resolveCurrency
  split
  · exact uncoded_ok _
  · exact uncoded_error rfl

theorem uncoded_resolveTab (code : UInt8) : Uncoded (resolveTab code) := by
  unfold resolveTab
  split
  · exact uncoded_ok _
  · exact uncoded_error rfl

theorem Service.uncoded_commodity (s : Service) (n : SerialNumber) : Uncoded (s.commodity n) := by
  unfold commodity
  cases s.catalog n with
  | error e => exact uncoded_error rfl
  | ok a => exact uncoded_ok _

theorem Service.uncoded_character (s : Service) (b : CharacterId) (withInventory : Bool) :
    Uncoded (s.character b withInventory) := by
  unfold character
  cases s.directory b withInventory with
  | error e => exact uncoded_error rfl
  | ok a => exact uncoded_ok _

theorem Purchase.Terms.uncoded_resolve (s : Service) (b : CharacterId) (o : PurchaseOrder) : Uncoded (resolve s b o) :=
  (uncoded_resolveCurrency _).bind fun _ => (s.uncoded_commodity _).bind fun _ =>
    (s.uncoded_character _ _).bind fun _ => uncoded_ok _

theorem Widening.Offer.uncoded_ofTab (code : UInt8) : Uncoded (ofTab code) := (uncoded_resolveTab code).map

theorem Widening.Offer.uncoded_ofCoupon (s : Service) (n : SerialNumber) : Uncoded (ofCoupon s n) := by
  refine (s.uncoded_commodity n).bind fun c => ?_
  split
  · exact uncoded_ok _
  · exact uncoded_error rfl

theorem Widening.uncoded_prepare (s : Service) (b : CharacterId) (code : UInt32) {offer : Except WorkflowError Offer}
    (h : Uncoded offer) : Uncoded (prepare s b code offer) :=
  h.bind fun _ => (uncoded_resolveCurrency code).bind fun _ => (s.uncoded_character b true).bind fun _ => uncoded_ok _

theorem Purchase.Terms.resolve_eq_ok {s : Service} {b : CharacterId} {o : PurchaseOrder} {t : Terms} :
    resolve s b o = .ok t ↔ resolveCurrency o.currency = .ok t.currency ∧ s.commodity o.serial = .ok t.commodity ∧
      s.character b false = .ok t.character := by
  simp only [resolve, bind_eq_ok, pure, Except.pure, Except.ok.injEq]
  constructor
  · rintro ⟨lane, hl, x, hx, ch, hch, rfl⟩
    exact ⟨hl, hx, hch⟩
  · rintro ⟨hl, hx, hch⟩
    exact ⟨_, hl, _, hx, _, hch, rfl⟩

theorem Widening.prepare_eq_ok {s : Service} {b : CharacterId} {code : UInt32} {offer : Except WorkflowError Offer}
    {w : Work CapacityIncrease} : prepare s b code offer = .ok w ↔
      ∃ o lane ch, offer = .ok o ∧ resolveCurrency code = .ok lane ∧ s.character b true = .ok ch ∧
        work b ch lane o = w := by
  simp only [prepare, bind_eq_ok, pure, Except.pure, Except.ok.injEq]
  constructor
  · rintro ⟨o, ho, lane, hl, ch, hch, rfl⟩
    exact ⟨o, lane, ch, ho, hl, hch, rfl⟩
  · rintro ⟨o, lane, ch, ho, hl, hch, rfl⟩
    exact ⟨o, ho, lane, hl, ch, hch, rfl⟩

end Uncoded

theorem resolveCurrency_eq_ok {code : UInt32} {lane : Currency} : resolveCurrency code = .ok lane ↔ lane.code = code := by
  unfold resolveCurrency
  constructor
  · intro h
    cases hl : Currency.ofCode? code with
    | none =>
      rw [hl] at h
      cases h
    | some c =>
      rw [hl] at h
      cases h
      exact Currency.code_of_ofCode? hl
  · rintro rfl
    rw [Currency.ofCode?_code]

theorem resolveTab_eq_ok {code : UInt8} {tab : Tab} : resolveTab code = .ok tab ↔ tab.code = code := by
  unfold resolveTab
  constructor
  · intro h
    cases ht : Tab.ofCode? code with
    | none =>
      rw [ht] at h
      cases h
    | some t =>
      rw [ht] at h
      cases h
      exact Tab.code_of_ofCode? ht
  · rintro rfl
    rw [Tab.ofCode?_code]

theorem Service.commodity_eq_ok {s : Service} {n : SerialNumber} {x : Commodity} :
    s.commodity n = .ok x ↔ s.catalog n = .ok x := by
  rw [commodity]
  cases s.catalog n with
  | error e => exact iff_of_false nofun nofun
  | ok y =>
    constructor <;>
    · intro h
      cases h
      rfl

theorem Service.character_eq_ok {s : Service} {b : CharacterId} {withInventory : Bool} {ch : Character} :
    s.character b withInventory = .ok ch ↔ s.directory b withInventory = .ok ch := by
  rw [character]
  cases s.directory b withInventory with
  | error e => exact iff_of_false nofun nofun
  | ok ch' =>
    constructor <;>
    · intro h
      cases h
      rfl

namespace Ledger

theorem refuses_wallet {a : AccountId} :
    Refuses (wallet a) d e ↔ d.tables.wallets.get? a = none ∧ .walletNotFound a = e := by
  simp [wallet, Draft.wallet?]

theorem code_of_refuses_update {w : Wallet} (h : Refuses (update w) d e) : e.code = .unknownError := by
  simp only [update, announce, refuses_bind (x := tryStep _), refuses_tryStep, refuses_ite, refuses_put_bind,
    not_refuses_pure, refuses_throw, and_false, false_or] at h
  obtain ⟨x, -, rfl⟩ | ⟨found, d1, -, -, rfl⟩ := h <;> rfl

@[simp] theorem ensureAffordable_eq_error {w : Wallet} {c : Currency} {price : UInt32} :
    ensureAffordable w c price = .error e ↔
      w.balance c < price ∧ .insufficientFunds c (w.balance c) price = e := by
  unfold ensureAffordable
  by_cases h : w.canAfford c price = true
  · have hle : ¬ w.balance c < price := by simpa [Wallet.canAfford] using h
    simp [h, hle]
  · have hlt : w.balance c < price := by simpa [Wallet.canAfford] using h
    simp [h, hlt]

theorem cases_of_refuses_debit {a : AccountId} {c : Currency} {amount : UInt32} (h : Refuses (debit a c amount) d e) :
    (∃ w, d.tables.wallets.get? a = some w ∧ w.balance c < amount ∧ .insufficientFunds c (w.balance c) amount = e) ∨
      e.code = .unknownError := by
  simp only [debit, refuses_bind (x := wallet _), refuses_wallet, yields_wallet, refuses_lift_bind,
    ensureAffordable_eq_error] at h
  obtain ⟨-, rfl⟩ | ⟨w, d1, ⟨hw, rfl⟩, ⟨hlt, he⟩ | ⟨-, -, hu⟩⟩ := h
  · exact .inr rfl
  · exact .inl ⟨w, hw, hlt, he⟩
  · exact .inr (code_of_refuses_update hu)

end Ledger

theorem Registry.internal_of_refuses_create {spec : ItemSpec} {now : Instant} {candidates : List CashId}
    (h : Refuses (create spec now candidates) d e) : ∃ f, e = .internal f := by
  simp only [create, refuses_read_bind, refuses_orElseThrow_bind, refuses_bind (x := tryStep _), refuses_tryStep,
    refuses_put_bind, not_refuses_pure, and_false, exists_false, or_false] at h
  obtain ⟨-, rfl⟩ | ⟨c, -, ⟨-, rfl⟩ | ⟨expiration, -, x, -, rfl⟩⟩ := h
  · exact ⟨_, rfl⟩
  · exact ⟨_, rfl⟩
  · exact ⟨x, rfl⟩

theorem Registry.refuses_create_of_undated {spec : ItemSpec} {now : Instant} {candidates : List CashId} {c : CashId}
    (hc : candidates.find? (!d.hasCashId ·) = some c) (hdate : now.addDays? spec.expirationDays = none) :
    Refuses (create spec now candidates) d (.internal .expirationOutOfRange) := by
  rw [create, refuses_read_bind, refuses_orElseThrow_bind]
  exact .inr ⟨c, hc, refuses_orElseThrow_bind.2 (.inl ⟨hdate, rfl⟩)⟩

namespace Placement

theorem cases_of_refuses_create {id : AssetId} {c : CompartmentId} {i : ItemId} (h : Refuses (create id c i) d e) :
    (∃ k, d.tables.compartments.get? c = some k ∧
      k.capacity.toNat ≤ (d.tables.assets.filter (·.compartment = c)).length ∧ .inventoryFull c = e) ∨
      e.code = .unknownError := by
  simp only [create, refuses_read_bind, refuses_orElseThrow_bind, refuses_tryRead_bind, Draft.assetsIn_eq_ok,
    refuses_ite, refuses_throw_bind, refuses_bind (x := tryWrite _), refuses_tryWrite, not_refuses_pure, and_false,
    exists_false, or_false, Draft.compartment?] at h
  obtain ⟨-, rfl⟩ | ⟨k, hk, ⟨x, -, rfl⟩ | ⟨assets, ⟨-, rfl⟩, ⟨hfull, he⟩ | ⟨-, x, -, rfl⟩⟩⟩ := h
  · exact .inr rfl
  · exact .inr rfl
  · exact .inl ⟨k, hk, hfull, he⟩
  · exact .inr rfl

theorem refuses_create_of_unread {id : AssetId} {c : CompartmentId} {i : ItemId} {k : Compartment}
    (hk : d.tables.compartments.get? c = some k) (hf : .listAssets ∈ d.base.faults) :
    Refuses (create id c i) d (.internal (.injected .listAssets)) := by
  simp [create, Draft.compartment?, hk, Draft.assetsIn_of_fault hf]

end Placement

section Accounts

variable {a : AccountId} {capacity : UInt32} {id : ClassLine → CompartmentId}

theorem Holdings.internal_of_refuses_mapM_create {ls : List ClassLine} {k : ClassLine → Compartment}
    (h : Refuses (ls.mapM fun l => create (k l)) d e) : ∃ f, e = .internal f := by
  induction ls generalizing d with
  | nil =>
    rw [List.mapM_nil] at h
    exact absurd h not_refuses_pure
  | cons l ls ih =>
    rw [List.mapM_cons, refuses_bind] at h
    obtain h | ⟨c, d1, -, h⟩ := h
    · simp only [create, announce, refuses_bind (x := tryWrite _), refuses_tryWrite, refuses_put_bind,
        not_refuses_pure, and_false, exists_false, or_false] at h
      obtain ⟨x, -, rfl⟩ := h
      exact ⟨x, rfl⟩
    · rw [refuses_bind] at h
      obtain h | ⟨cs, d2, -, h⟩ := h
      · exact ih h
      · exact absurd h not_refuses_pure

theorem AccountSetup.internal_of_refuses_work (h : Refuses (work a capacity id) d e) : ∃ f, e = .internal f := by
  simp only [work, Ledger.create, Ledger.announce, Holdings.createInventory, Holdings.announceInventory,
    refuses_read_bind, refuses_ite, refuses_bind (x := tryWrite _ >>= _), refuses_bind (x := tryWrite _),
    refuses_tryWrite, refuses_put_bind, refuses_bind (x := List.mapM _ _ >>= _), refuses_bind (x := List.mapM _ _),
    not_refuses_pure, and_false, exists_false, or_false, false_or] at h
  obtain ⟨-, ⟨x, -, rfl⟩ | ⟨w, d1, -, h⟩⟩ := h
  · exact ⟨x, rfl⟩
  · exact Holdings.internal_of_refuses_mapM_create h

theorem AccountId.not_refuses_deleteHoldings : ¬ Refuses a.deleteHoldings d e := by
  have h : Yields a.deleteHoldings d () _ := AccountId.yields_deleteHoldings.2 rfl
  exact h.not_refuses

end Accounts

namespace Purchase

theorem not_refuses_claimKey {c : CharacterId} {key : Option String} : ¬ Refuses (claimKey c key) d e := by
  cases key with
  | none => exact not_refuses_pure
  | some k => exact not_refuses_step

theorem refuses_target {ch : Character} : Refuses (target ch) d e ↔
    d.compartmentOf? ch.account (ClassLine.ofJob ch.job) = none ∧
      .compartmentNotFound (lineCompartmentName (ClassLine.ofJob ch.job) ch.account) = e := by
  simp [target]

def Unaffordable (d : Draft) (t : Terms) : Prop :=
  ∃ w, d.tables.wallets.get? t.character.account = some w ∧ w.balance t.currency < t.commodity.price

/-- The compartment of the class line, or the record that stands under its id, has no room. -/
def Crammed (d : Draft) (ch : Character) : Prop :=
  ∃ k k', d.compartmentOf? ch.account (ClassLine.ofJob ch.job) = some k ∧
    (k' = k ∨ d.tables.compartments.get? k.id = some k') ∧
      k'.capacity.toNat ≤ (d.tables.assets.filter (·.compartment = k.id)).length

theorem Crammed.full {ch : Character} (h : Crammed d ch)
    (filed : ∀ c k, d.tables.compartments.get? c = some k → k.id = c) :
    ∃ k, d.compartmentOf? ch.account (ClassLine.ofJob ch.job) = some k ∧
      k.capacity.toNat ≤ (d.tables.assets.filter (·.compartment = k.id)).length := by
  obtain ⟨k, k', hk, rfl | hk', hfull⟩ := h
  · exact ⟨k', hk, hfull⟩
  · obtain ⟨hc, -⟩ := Draft.of_compartmentOf? filed hk
    obtain rfl : k = k' := Option.some.inj (hc.symm.trans hk')
    exact ⟨k, hk, hfull⟩

theorem cases_of_refuses_deliver {days : Int} {t : Terms} {c : CompartmentId}
    (h : Refuses (deliver amb days t c) d e) :
    e.code = .notEnoughCash ∧ Unaffordable d t ∨
    (e.code = .inventoryFull ∧ ∃ k, d.tables.compartments.get? c = some k ∧
      k.capacity.toNat ≤ (d.tables.assets.filter (·.compartment = c)).length) ∨ e.code = .unknownError := by
  simp only [deliver, refuses_bind (x := Ledger.debit _ _ _), Ledger.yields_debit,
    refuses_bind (x := Registry.create _ _ _), Registry.yields_create, refuses_bind (x := Placement.create _ _ _),
    refuses_put_bind, not_refuses_pure, and_false, exists_false, or_false] at h
  obtain h | ⟨w', d1, ⟨w, -, -, -, -, -, rfl⟩, h | ⟨i, d2, ⟨cash, -, expiration, -, -, -, -, rfl⟩, h⟩⟩ := h
  · obtain ⟨w, hw, hlt, rfl⟩ | h := Ledger.cases_of_refuses_debit h
    · exact .inl ⟨rfl, w, hw, hlt⟩
    · exact .inr (.inr h)
  · obtain ⟨f, rfl⟩ := Registry.internal_of_refuses_create h
    exact .inr (.inr rfl)
  · obtain ⟨k, hk, hfull, rfl⟩ | h := Placement.cases_of_refuses_create h
    · exact .inr (.inl ⟨rfl, k, hk, hfull⟩)
    · exact .inr (.inr h)

/-- An order is refused for want of money or room, or for a reason without a code. -/
theorem cases_of_refuses_work {days : Int} {c : CharacterId} {key : Option String} {t : Terms}
    (h : Refuses (work amb days c key t) d e) :
    e.code = .notEnoughCash ∧ Unaffordable d t ∨ e.code = .inventoryFull ∧ Crammed d t.character ∨
      e.code = .unknownError := by
  simp only [work, refuses_bind (x := claimKey _ _), not_refuses_claimKey, false_or, refuses_ite,
    refuses_bind (x := Ledger.wallet _), Ledger.refuses_wallet, Ledger.yields_wallet, refuses_lift_bind,
    Ledger.ensureAffordable_eq_error, refuses_bind (x := target _), refuses_target, yields_target, not_refuses_pure,
    and_false, or_false] at h
  obtain ⟨b, d1, hk, rfl, h⟩ := h
  obtain ⟨-, rfl⟩ := yields_claimKey.1 hk
  obtain ⟨-, rfl⟩ | ⟨w, d2, ⟨hw, rfl⟩, ⟨hlt, rfl⟩ | ⟨-, -, ⟨-, rfl⟩ | ⟨v, d3, ⟨k, ht, rfl, rfl⟩, h⟩⟩⟩ := h
  · exact .inr (.inr rfl)
  · exact .inl ⟨rfl, w, hw, hlt⟩
  · exact .inr (.inr rfl)
  · split at h
    · rw [refuses_map] at h
      obtain h | ⟨hc, k', hk', hfull⟩ | h := cases_of_refuses_deliver h
      · exact .inl h
      · exact .inr (.inl ⟨hc, k, k', ht, .inr hk', hfull⟩)
      · exact .inr (.inr h)
    · exact absurd h not_refuses_pure
    · obtain rfl := refuses_throw.1 h
      exact .inr (.inr rfl)

theorem crammed_of_yields_full {days : Int} {c : CharacterId} {key : Option String} {t : Terms} {d' : Draft}
    (h : Yields (work amb days c key t) d .inventoryFull d') : Crammed d t.character := by
  simp only [work, yields_bind (x := claimKey _ _), yields_ite, yields_bind (x := Ledger.wallet _),
    Ledger.yields_wallet, yields_lift_bind, yields_bind (x := target _), yields_target] at h
  obtain ⟨b, d1, hk, ⟨rfl, w, d2, ⟨-, rfl⟩, -, -, v, d3, ⟨k, ht, rfl, rfl⟩, h⟩ | ⟨-, h⟩⟩ := h
  · obtain ⟨-, rfl⟩ := yields_claimKey.1 hk
    cases hs : (Draft.compartmentView (d.claimAlso (key.map (scopedKey c))) k).hasFreeSlot? with
    | none => simp [hs] at h
    | some room =>
      obtain ⟨-, hroom⟩ := Draft.hasFreeSlot?_compartmentView.1 hs
      cases room with
      | true => simp [hs] at h
      | false => exact ⟨k, k, ht, .inl rfl, Nat.not_lt.1 (of_decide_eq_false hroom)⟩
  · simp at h

structure Unread (d : Draft) (c : CharacterId) (key : Option String) (t : Terms) (k : Compartment) : Prop where
  unclaimed : ∀ n ∈ key, scopedKey c n ∉ d.base.window.keys ∧ scopedKey c n ∉ d.claimed
  affordable : ∃ w, d.tables.wallets.get? t.character.account = some w ∧
    w.canAfford t.currency t.commodity.price = true
  target : d.compartmentOf? t.character.account (ClassLine.ofJob t.character.job) = some k
  faulty : .listAssets ∈ d.base.faults

theorem refuses_work_of_unread {days : Int} {c : CharacterId} {key : Option String} {t : Terms} {k : Compartment}
    (h : Unread d c key t k) : Refuses (work amb days c key t) d (.internal (.occupancyUnknown k.id)) := by
  obtain ⟨w, hw, hafford⟩ := h.affordable
  have hunread : (Draft.compartmentView (d.claimAlso (key.map (scopedKey c))) k).hasFreeSlot? = none := by
    cases hs : (Draft.compartmentView (d.claimAlso (key.map (scopedKey c))) k).hasFreeSlot? with
    | none => rfl
    | some room => exact absurd h.faulty (Draft.hasFreeSlot?_compartmentView.1 hs).1
  simp only [work, refuses_bind (x := claimKey _ _), not_refuses_claimKey, false_or, refuses_ite,
    refuses_bind (x := Ledger.wallet _), Ledger.yields_wallet, refuses_lift_bind, Ledger.ensureAffordable_eq_ok,
    refuses_bind (x := Purchase.target _), yields_target]
  refine ⟨true, _, yields_claimKey.2 ⟨h.unclaimed, rfl⟩, .inl ⟨rfl, .inr ⟨w, _, ⟨hw, rfl⟩, .inr ⟨(), hafford, .inr
    ⟨_, _, ⟨k, h.target, rfl, rfl⟩, ?_⟩⟩⟩⟩⟩
  rw [hunread]
  exact refuses_throw.2 rfl

end Purchase

theorem Widening.cases_of_refuses_work {c : CharacterId} {ch : Character} {lane : Currency} {o : Offer}
    (h : Refuses (work c ch lane o) d e) :
    (e.code = .notEnoughCash ∧ ∃ w, d.tables.wallets.get? ch.account = some w ∧ w.balance lane < o.price) ∨
      e.code = .unknownError := by
  simp only [work, announce, refuses_bind (x := Ledger.wallet _), Ledger.refuses_wallet, Ledger.yields_wallet,
    refuses_lift_bind, Ledger.ensureAffordable_eq_error, refuses_orElseThrow_bind,
    refuses_bind (x := Ledger.debit _ _ _), refuses_bind (x := Work.put _ _ _ >>= _), refuses_put_bind,
    not_refuses_put, not_refuses_pure, and_false, exists_false, or_false] at h
  obtain ⟨-, rfl⟩ | ⟨w, d1, ⟨hw, rfl⟩, ⟨hlt, rfl⟩ | ⟨-, -, ⟨-, rfl⟩ | ⟨current, -, hmax | ⟨-, -, h⟩⟩⟩⟩ := h
  · exact .inr rfl
  · exact .inl ⟨rfl, w, hw, hlt⟩
  · exact .inr rfl
  · unfold widened at hmax
    split at hmax <;> cases hmax
    exact .inr rfl
  · obtain ⟨w, hw, hlt, rfl⟩ | h := Ledger.cases_of_refuses_debit h
    · exact .inl ⟨rfl, w, hw, hlt⟩
    · exact .inr h

namespace Handoff

def unplaceable : WorkflowError → WorkflowError
  | .inventoryFull c => .assetCreationFailed (WorkflowError.inventoryFull c).message
  | e => e

theorem refuses_place {h : Handoff} : Refuses (place amb h) d e ↔
    d.tables.compartments.get? h.compartment = none ∧ .compartmentNotFound (toString h.compartment) = e ∨
    (d.tables.compartments.get? h.compartment).isSome = true ∧
      ((∃ a, d.assetOf? h.item = some a ∧ a.compartment ≠ h.compartment ∧
          .assetCreationFailed s!"item {h.item} is already placed in compartment {a.compartment}" = e) ∨
        d.assetOf? h.item = none ∧
          ∃ e', Refuses (Placement.create amb.asset h.compartment h.item) d e' ∧ unplaceable e' = e) := by
  have hcatch (e : WorkflowError) : (match e with
      | .inventoryFull _ => throw (.assetCreationFailed e.message)
      | _ => throw e : Work Asset) = throw (unplaceable e) := by
    cases e <;> rfl
  simp only [place, refuses_read_bind, refuses_ite, refuses_throw_bind, Draft.compartment?, Option.isNone_iff_eq_none]
  cases hk : d.tables.compartments.get? h.compartment with
  | none => simp
  | some k =>
    cases ha : d.assetOf? h.item with
    | none =>
      simp only [reduceCtorEq, Option.isSome_some, not_false_eq_true, true_and, false_and, false_or,
        exists_false]
      exact refuses_tryCatch hcatch
    | some a => simp

theorem cases_of_refuses_acceptWork {h : Handoff} (hr : Refuses (acceptWork amb h) d e) :
    e.code = .unknownError ∨ e.code = .assetCreationFailed := by
  simp only [acceptWork, refuses_bind (x := place _ _), refuses_put_bind, not_refuses_pure, and_false, exists_false,
    or_false, refuses_place] at hr
  obtain ⟨-, rfl⟩ | ⟨-, ⟨a, -, -, rfl⟩ | ⟨-, e', hr, rfl⟩⟩ := hr
  · exact .inl rfl
  · exact .inr rfl
  · obtain ⟨k, -, -, rfl⟩ | hcode := Placement.cases_of_refuses_create hr
    · exact .inr rfl
    · cases e' with
      | inventoryFull => cases hcode
      | _ => exact .inl hcode

theorem refuses_acceptWork_of_unread {h : Handoff}
    (hk : (d.tables.compartments.get? h.compartment).isSome = true) (hnone : d.assetOf? h.item = none)
    (hf : .listAssets ∈ d.base.faults) : Refuses (acceptWork amb h) d (.internal (.injected .listAssets)) := by
  obtain ⟨k, hk'⟩ := Option.isSome_iff_exists.1 hk
  rw [acceptWork, refuses_bind]
  exact .inl (refuses_place.2 (.inr ⟨hk, .inr ⟨hnone, _, Placement.refuses_create_of_unread hk' hf, rfl⟩⟩))

theorem refuses_releaseWork {h : Handoff} : Refuses (releaseWork h) d e ↔
    d.tables.compartments.get? h.compartment = none ∧ .compartmentNotFound (toString h.compartment) = e ∨
    (d.tables.compartments.get? h.compartment).isSome = true ∧
      (.listAssets ∈ d.base.faults ∧ .internal (.injected .listAssets) = e ∨
        .listAssets ∉ d.base.faults ∧ (∀ x ∈ d.tables.assets, x.compartment = h.compartment → x.item ≠ h.item) ∧
          .itemNotFound s!"item {h.item} in compartment {h.compartment}" = e) := by
  simp only [releaseWork, withdraw, refuses_bind (x := Work.read _ >>= _), refuses_read_bind, refuses_ite,
    refuses_throw_bind, refuses_tryRead_bind, refuses_orElseThrow_bind, Placement.delete, refuses_put_bind,
    not_refuses_pure, and_false, exists_false, or_false, Draft.compartment?]
  cases hk : d.tables.compartments.get? h.compartment with
  | none => simp
  | some k =>
    by_cases hf : FaultPoint.listAssets ∈ d.base.faults
    · simp [Draft.assetsIn_of_fault hf, hf]
    · simp [Draft.assetsIn_eq_ok.2 ⟨hf, rfl⟩, hf]

end Handoff

/-- Why work that rests on what has been found out before may fail on a store. -/
inductive Store.Fails {α : Type} (s : Store) : Except WorkflowError (Work α) → WorkflowError → Prop where
  | unprepared {e : WorkflowError} : Fails s (.error e) e
  | refused {work : Work α} {e : WorkflowError} (refused : Refuses work (Draft.begin s) e) : Fails s (.ok work) e
  | uncommitted {work : Work α} : Fails s (.ok work) (.internal (.injected .commit))

theorem Store.Fails.of_ok {α : Type} {s : Store} {work : Work α} (h : s.Fails (.ok work) e) :
    (∃ f, e = .internal f) ∨ Refuses work (Draft.begin s) e := by
  cases h with
  | refused refused => exact .inr refused
  | uncommitted => exact .inl ⟨_, rfl⟩

namespace Service

variable {α : Type} {s : Service} {work : Work α} {prepared : Except WorkflowError (Work α)} {k : α → Bool}

theorem run_of_refused (h : Refuses work (Draft.begin s.store) e) : s.run work k = (.error e, s) := by
  rw [Refuses, exec] at h
  rw [run, Store.transact]
  rcases hw : work (Draft.begin s.store) with ⟨r, d⟩
  rw [hw] at h
  cases h
  rfl

theorem perform_of_error (h : (s.perform prepared k).1 = .error e) :
    s.perform prepared k = (.error e, s) ∧ s.store.Fails prepared e := by
  cases prepared with
  | error e' =>
    cases h
    exact ⟨rfl, .unprepared⟩
  | ok work =>
    rw [perform] at h ⊢
    rcases hw : exec work (Draft.begin s.store) with ⟨r, d⟩
    cases r with
    | error e' =>
      have hr : Refuses work (Draft.begin s.store) e' := by rw [Refuses, hw]
      rw [run_of_refused hr] at h ⊢
      cases h
      exact ⟨rfl, .refused hr⟩
    | ok a =>
      cases hk : k a with
      | false =>
        rw [run_of_not_kept hw hk] at h
        cases h
      | true =>
        by_cases hf : FaultPoint.commit ∈ d.base.faults
        · rw [run_of_commit_fault hw hk hf] at h ⊢
          cases h
          exact ⟨rfl, .uncommitted⟩
        · rw [run_of_kept hw hk hf] at h
          cases h

theorem perform_of_not_kept {a : α} (h : (s.perform prepared k).1 = .ok a) (hk : k a = false) :
    s.perform prepared k = (.ok a, s) ∧ ∃ work d, prepared = .ok work ∧ Yields work (Draft.begin s.store) a d := by
  cases prepared with
  | error e' => cases h
  | ok work =>
    rw [perform] at h ⊢
    obtain ⟨a', d, -, hk', -, hr⟩ | ⟨r, hr, hy⟩ := s.run_cases work k
    · rw [hr] at h
      cases h
      rw [hk] at hk'
      cases hk'
    · rw [hr] at h ⊢
      cases h
      obtain ⟨-, d, hd⟩ := hy a rfl
      exact ⟨rfl, work, d, rfl, hd⟩

end Service

end CashShop
