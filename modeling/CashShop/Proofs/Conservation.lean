import CashShop.Proofs.Commit
import CashShop.Proofs.History

namespace CashShop

structure Charge where
  account : AccountId
  lane : Currency
  amount : UInt32
deriving DecidableEq

def Charge.on (x : Charge) (a : AccountId) (lane : Currency) : Nat :=
  if x.account = a ∧ x.lane = lane then x.amount.toNat else 0

theorem Charge.balance_spend_add_on {x : Charge} {w : Wallet} (h : w.canAfford x.lane x.amount = true)
    (lane : Currency) :
    ((w.spend x.lane x.amount).balance lane).toNat + x.on x.account lane = (w.balance lane).toNat := by
  rw [Wallet.toNat_balance_spend h, on]
  by_cases hl : lane = x.lane
  · subst hl
    have hle : x.amount ≤ w.balance x.lane := by simpa [Wallet.canAfford] using h
    simp [Nat.sub_add_cancel (UInt32.le_iff_toNat_le.1 hle)]
  · simp [hl, Ne.symm hl]

def Call.bill? (s : Service) : Call → Option Charge
  | .purchase c o => (Purchase.Terms.resolve s c o).toOption.map fun t =>
    ⟨t.character.account, t.currency, t.commodity.price⟩
  | call => do
    let (c, code, offer) ← call.widening? s
    let o ← offer.toOption
    let lane ← (resolveCurrency code).toOption
    let ch ← (s.character c true).toOption
    pure ⟨ch.account, lane, o.price⟩

def Answer.wallet? : Answer → Option Wallet
  | purchase (.completed r) => some r.wallet
  | widened r => some r.wallet
  | _ => none

theorem Answer.wallet?_of_not_isSale {a : Answer} (h : a.isSale = false) : a.wallet? = none := by
  cases a with
  | purchase outcome =>
    cases outcome with
    | completed => cases h
    | inventoryFull | duplicate => rfl
  | widened => cases h
  | _ => rfl

def Tables.OwnWallets (t : Tables) : Prop := ∀ a w, t.wallets.get? a = some w → w.account = a

variable {s : Service} {amb : Ambient} {c : Call} {a : Answer} {d : Draft}

inductive Turnover (s : Service) (c : Call) (a : Answer) : Table AccountId Wallet → Prop where
  | none (free : a.wallet? = none) : Turnover s c a s.store.tables.wallets
  | opened {acc : AccountId} (free : a.wallet? = none) (fresh : s.store.tables.wallets.get? acc = .none) :
      Turnover s c a (s.store.tables.wallets.insert acc (.empty acc))
  | closed {acc : AccountId} (free : a.wallet? = none) (call : c = .accountDeleted acc) :
      Turnover s c a (s.store.tables.wallets.erase acc)
  | charged {x : Charge} {w : Wallet} (bill : c.bill? s = some x)
      (held : s.store.tables.wallets.get? x.account = some w) (affordable : w.canAfford x.lane x.amount = true)
      (wallet : a.wallet? = some (w.spend x.lane x.amount))
      (price : ∀ r, a = .purchase (.completed r) → r.price = x.amount) :
      Turnover s c a (s.store.tables.wallets.insert (w.spend x.lane x.amount).account (w.spend x.lane x.amount))

theorem bill?_of_widening {b : CharacterId} {code : UInt32} {o : Widening.Offer} {lane : Currency} {ch : Character}
    (asked : c.widening? s = some (b, code, .ok o)) (currency : resolveCurrency code = .ok lane)
    (character : s.character b true = .ok ch) : c.bill? s = some ⟨ch.account, lane, o.price⟩ := by
  cases c with
  | purchase => cases asked
  | _ => simp [Call.bill?, asked, currency, character, Except.toOption]

theorem Commits.turnover (h : Commits s amb c a d) : Turnover s c a d.tables.wallets := by
  cases h with
  | accountCreated fresh opened =>
    obtain ⟨-, -, ht⟩ := Draft.frame_openInventory opened
    rw [Draft.tables_put, ht]
    exact .opened rfl fresh
  | accountDeleted acc =>
    rw [Draft.tables_put, (Draft.frame_closeInventory _ acc).2.2, (Draft.frame_dropWallet _ acc).2.2]
    exact .closed rfl rfl
  | @purchase c o t w k cash expiration terms deliverable =>
    have hbill : Call.bill? s (.purchase c o) = some ⟨t.character.account, t.currency, t.commodity.price⟩ := by
      simp [Call.bill?, terms, Except.toOption]
    refine .charged hbill deliverable.wallet deliverable.affordable rfl ?_
    rintro r ⟨⟩
    rfl
  | widening asked currency character feasible =>
    refine .charged (bill?_of_widening asked currency character) feasible.wallet feasible.affordable rfl ?_
    rintro r ⟨⟩
  | grant | acceptHeld | accept | release | moved => exact .none rfl

namespace Service

theorem turnover_call (h : (s.call amb c).1 = .ok a) : Turnover s c a (s.call amb c).2.store.tables.wallets := by
  obtain ⟨d, commits, hstore⟩ | ⟨hfree, hstore⟩ := call_cases h
  · rw [hstore]
    exact commits.turnover
  · rw [hstore]
    exact .none (Answer.wallet?_of_not_isSale hfree)

def charge? (s : Service) (amb : Ambient) (c : Call) : Option Charge :=
  match (s.call amb c).1 with
  | .ok a => a.wallet?.bind fun _ => c.bill? s
  | .error _ => none

def charged (s : Service) (amb : Ambient) (c : Call) (acc : AccountId) (lane : Currency) : Nat :=
  match s.charge? amb c with
  | some x => x.on acc lane
  | none => 0

/-- What a history takes from one lane of one account. -/
def totalCharged (s : Service) (acc : AccountId) (lane : Currency) : List Event → Nat
  | [] => 0
  | e :: h => (match e.call? with
    | some (amb, c) => s.charged amb c acc lane
    | none => 0) + (s.step e).totalCharged acc lane h

variable {acc : AccountId} {w : Wallet}

theorem charged_of_free (h : (s.call amb c).1 = .ok a) (hfree : a.wallet? = none) (acc : AccountId) (lane : Currency) :
    s.charged amb c acc lane = 0 := by
  rw [charged, charge?, h]
  simp [hfree]

theorem balance_call (amb : Ambient) (own : s.store.tables.OwnWallets) (hw : s.store.tables.wallets.get? acc = some w)
    (hc : c ≠ .accountDeleted acc) : ∃ w', (s.call amb c).2.store.tables.wallets.get? acc = some w' ∧
      ∀ lane, (w'.balance lane).toNat + s.charged amb c acc lane = (w.balance lane).toNat := by
  cases hr : (s.call amb c).1 with
  | error e =>
    rw [store_call_of_error hr]
    exact ⟨w, hw, fun lane => by simp [charged, charge?, hr]⟩
  | ok a =>
    have ht := turnover_call hr
    generalize (s.call amb c).2.store.tables.wallets = wallets at ht ⊢
    cases ht with
    | none free => exact ⟨w, hw, fun lane => by rw [charged_of_free hr free, Nat.add_zero]⟩
    | @opened acc' free fresh =>
      have hne : acc ≠ acc' := by
        rintro rfl
        simp [hw] at fresh
      exact ⟨w, by simpa [hne] using hw, fun lane => by rw [charged_of_free hr free, Nat.add_zero]⟩
    | @closed acc' free call =>
      have hne : acc ≠ acc' := by
        rintro rfl
        exact hc call
      exact ⟨w, by simpa [hne] using hw, fun lane => by rw [charged_of_free hr free, Nat.add_zero]⟩
    | @charged x w1 bill held affordable wallet =>
      have hx : w1.account = x.account := own _ _ held
      have hcharged (lane : Currency) : s.charged amb c acc lane = x.on acc lane := by
        rw [charged, charge?, hr]
        simp [wallet, bill]
      by_cases he : acc = x.account
      · obtain rfl : w = w1 := by
          rw [he, held] at hw
          exact (Option.some.inj hw).symm
        refine ⟨w.spend x.lane x.amount, by simp [he, hx], fun lane => ?_⟩
        rw [hcharged, he, Charge.balance_spend_add_on affordable]
      · refine ⟨w, by simpa [hx, he] using hw, fun lane => ?_⟩
        simp [hcharged, Charge.on, Ne.symm he]

theorem ownWallets_insert {t : Table AccountId Wallet} (own : ∀ a w, t.get? a = some w → w.account = a) (w : Wallet) :
    ∀ a w', (t.insert w.account w).get? a = some w' → w'.account = a := by
  intro a w' h
  by_cases he : a = w.account
  · obtain rfl : w = w' := by simpa [he] using h
    exact he.symm
  · exact own a w' (by simpa [he] using h)

theorem ownWallets_call (own : s.store.tables.OwnWallets) (amb : Ambient) (c : Call) :
    (s.call amb c).2.store.tables.OwnWallets := by
  cases hr : (s.call amb c).1 with
  | error e => rwa [store_call_of_error hr]
  | ok a =>
    have ht := turnover_call hr
    unfold Tables.OwnWallets
    generalize (s.call amb c).2.store.tables.wallets = wallets at ht ⊢
    cases ht with
    | none => exact own
    | opened => exact ownWallets_insert own (.empty _)
    | @closed acc =>
      intro a w h
      by_cases he : a = acc
      · simp [he] at h
      · exact own a w (by simpa [he] using h)
    | charged => exact ownWallets_insert own _

theorem ownWallets_step (own : s.store.tables.OwnWallets) (e : Event) : (s.step e).store.tables.OwnWallets := by
  cases hc : e.call? with
  | some r =>
    obtain ⟨amb, c⟩ := r
    rw [step_of_call? hc]
    exact ownWallets_call own amb c
  | none =>
    obtain ⟨-, hs | ⟨w, -, hs⟩⟩ := s.books_step_of_no_call hc
    · rwa [hs]
    · rw [hs]
      exact ownWallets_insert own w

theorem ownWallets_after (own : s.store.tables.OwnWallets) (h : List Event) : (s.after h).store.tables.OwnWallets := by
  induction h generalizing s with
  | nil => exact own
  | cons e h ih => exact ih (ownWallets_step own e)

theorem balance_step {e : Event} (own : s.store.tables.OwnWallets) (hw : s.store.tables.wallets.get? acc = some w)
    (hd : ¬ e.Deletes acc) (hf : ¬ e.Funds acc) : ∃ w', (s.step e).store.tables.wallets.get? acc = some w' ∧
      ∀ lane, (w'.balance lane).toNat + s.totalCharged acc lane [e] = (w.balance lane).toNat := by
  cases hc : e.call? with
  | some r =>
    obtain ⟨amb, c⟩ := r
    have hne : c ≠ .accountDeleted acc := by
      rintro rfl
      exact hd ⟨amb, hc⟩
    rw [step_of_call? hc]
    obtain ⟨w', hw', hb⟩ := balance_call amb own hw hne
    exact ⟨w', hw', fun lane => by simpa [totalCharged, hc] using hb lane⟩
  | none =>
    have hfree (lane : Currency) : s.totalCharged acc lane [e] = 0 := by simp [totalCharged, hc]
    refine ⟨w, ?_, fun lane => by rw [hfree, Nat.add_zero]⟩
    obtain ⟨-, hs | ⟨w1, rfl, hs⟩⟩ := s.books_step_of_no_call hc
    · rwa [hs]
    · have hne : acc ≠ w1.account := by
        intro he
        exact hf ⟨w1, rfl, he.symm⟩
      rw [hs]
      simpa [hne] using hw

theorem totalCharged_cons (s : Service) (acc : AccountId) (lane : Currency) (e : Event) (h : List Event) :
    s.totalCharged acc lane (e :: h) = s.totalCharged acc lane [e] + (s.step e).totalCharged acc lane h := by
  simp only [totalCharged]
  omega

/-- A whole history: what a lane has lost has been charged. -/
theorem balance_after {h : List Event} (own : s.store.tables.OwnWallets)
    (hw : s.store.tables.wallets.get? acc = some w) (hd : ∀ e ∈ h, ¬ e.Deletes acc) (hf : ∀ e ∈ h, ¬ e.Funds acc) :
    ∃ w', (s.after h).store.tables.wallets.get? acc = some w' ∧
      ∀ lane, (w'.balance lane).toNat + s.totalCharged acc lane h = (w.balance lane).toNat := by
  -- The wallets stay under their own accounts, which is what carries the induction.
  induction h generalizing s w with
  | nil => exact ⟨w, hw, fun lane => rfl⟩
  | cons e h ih =>
    obtain ⟨w1, hw1, hb1⟩ := balance_step own hw (hd e (by simp)) (hf e (by simp))
    obtain ⟨w2, hw2, hb2⟩ := ih (ownWallets_step own e) hw1 (fun x hx => hd x (by simp [hx]))
      fun x hx => hf x (by simp [hx])
    refine ⟨w2, hw2, fun lane => ?_⟩
    rw [totalCharged_cons, ← hb1 lane, ← hb2 lane]
    omega

theorem balance_le_call {w' : Wallet} (own : s.store.tables.OwnWallets)
    (hw : s.store.tables.wallets.get? acc = some w) (hw' : (s.call amb c).2.store.tables.wallets.get? acc = some w')
    (lane : Currency) : w'.balance lane ≤ w.balance lane := by
  by_cases hc : c = .accountDeleted acc
  · subst hc
    have hsame : w = w' := by
      cases hr : (s.call amb (.accountDeleted acc)).1 with
      | error e =>
        rw [store_call_of_error hr, hw] at hw'
        exact Option.some.inj hw'
      | ok a =>
        have ht := turnover_call hr
        generalize (s.call amb (.accountDeleted acc)).2.store.tables.wallets = wallets at ht hw'
        cases ht with
        | none => exact Option.some.inj (hw.symm.trans hw')
        | @opened acc' _ fresh =>
          have hne : acc ≠ acc' := by
            rintro rfl
            simp [hw] at fresh
          simpa [hne, hw] using hw'
        | closed _ call =>
          cases call
          simp at hw'
        | charged bill => cases bill
    rw [hsame]
    exact UInt32.le_refl _
  · obtain ⟨w1, hw1, hb⟩ := balance_call amb own hw hc
    obtain rfl : w1 = w' := Option.some.inj (hw1.symm.trans hw')
    have h := hb lane
    exact UInt32.le_iff_toNat_le.2 (by omega)

/-- Somebody who is charged gets to see the wallet that is left, from which exactly the price is missing. -/
theorem wallet_of_charged {w' : Wallet} (own : s.store.tables.OwnWallets) (hr : (s.call amb c).1 = .ok a)
    (hw' : a.wallet? = some w') : ∃ x w, s.charge? amb c = some x ∧
      s.store.tables.wallets.get? x.account = some w ∧ x.amount ≤ w.balance x.lane ∧
      w' = w.spend x.lane x.amount ∧ (s.call amb c).2.store.tables.wallets.get? x.account = some w' ∧
      ∀ r, a = .purchase (.completed r) → r.price = x.amount := by
  have ht := turnover_call hr
  generalize (s.call amb c).2.store.tables.wallets = wallets at ht ⊢
  cases ht with
  | none free => simp [free] at hw'
  | opened free => simp [free] at hw'
  | closed free => simp [free] at hw'
  | @charged x w bill held affordable wallet price =>
    obtain rfl : w.spend x.lane x.amount = w' := Option.some.inj (wallet.symm.trans hw')
    have hcharge : s.charge? amb c = some x := by
      rw [charge?, hr]
      simp [wallet, bill]
    exact ⟨x, w, hcharge, held, by simpa [Wallet.canAfford] using affordable, rfl, by simp [own _ _ held], price⟩

/-- Whatever happens, in whatever order: a wallet that is neither deleted nor funded has lost what its account has been
charged, lane by lane and to the unit. Whichever call is made next raises no balance, and if it charges it takes no
more than there is and answers with the wallet that it leaves. -/
theorem conservation_of_money (own : s.store.tables.OwnWallets) (h : List Event) :
    (∀ acc w, s.store.tables.wallets.get? acc = some w → (∀ e ∈ h, ¬ e.Deletes acc) → (∀ e ∈ h, ¬ e.Funds acc) →
      ∃ w', (s.after h).store.tables.wallets.get? acc = some w' ∧
        ∀ lane, (w'.balance lane).toNat + s.totalCharged acc lane h = (w.balance lane).toNat) ∧
    ∀ amb c,
      (∀ acc w w' lane, (s.after h).store.tables.wallets.get? acc = some w →
        ((s.after h).call amb c).2.store.tables.wallets.get? acc = some w' → w'.balance lane ≤ w.balance lane) ∧
      ∀ a w', ((s.after h).call amb c).1 = .ok a → a.wallet? = some w' → ∃ x w, (s.after h).charge? amb c = some x ∧
        (s.after h).store.tables.wallets.get? x.account = some w ∧ x.amount ≤ w.balance x.lane ∧
        w' = w.spend x.lane x.amount ∧
        ((s.after h).call amb c).2.store.tables.wallets.get? x.account = some w' ∧
        ∀ r, a = .purchase (.completed r) → r.price = x.amount := by
  have hown := ownWallets_after own h
  refine ⟨fun acc w hw hd hf => balance_after own hw hd hf, fun amb c => ⟨?_, ?_⟩⟩
  · intro acc w w' lane hw hw'
    exact balance_le_call hown hw hw' lane
  · intro a w' hr hw'
    exact wallet_of_charged hown hr hw'

theorem conservation_of_repeated_order :
    stocked.store.tables.OwnWallets ∧ ∃ w',
      (stocked.after [.call .opening (.purchase ⟨7⟩ ⟨1, ⟨20⟩, some "a"⟩),
        .call .opening (.purchase ⟨7⟩ ⟨1, ⟨20⟩, some "a"⟩)]).store.tables.wallets.get? ⟨1⟩ = some w' ∧
      (w'.balance .credit).toNat + 400 = 1000 := by
  have own : stocked.store.tables.OwnWallets := ownWallets_after (fun a w h => by cases h) _
  obtain ⟨w', hw', hb⟩ := (conservation_of_money own [.call .opening (.purchase ⟨7⟩ ⟨1, ⟨20⟩, some "a"⟩),
    .call .opening (.purchase ⟨7⟩ ⟨1, ⟨20⟩, some "a"⟩)]).1 ⟨1⟩ ⟨⟨1⟩, 1000, 0, 0⟩ (by decide)
      (by simp [Event.Deletes, Event.call?]) (by simp [Event.Funds])
  exact ⟨own, w', hw', hb .credit⟩

end Service

end CashShop
