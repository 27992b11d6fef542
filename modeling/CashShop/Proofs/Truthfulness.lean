import CashShop.Proofs.Conservation
import CashShop.Proofs.Reply

namespace CashShop

open Work

namespace Draft

variable {d : Draft} {k : Compartment} {cash : CashId}

def Obscures (d : Draft) (k : Compartment) : Prop :=
  .listAssets ∈ d.base.faults ∨ .readItem ∈ d.base.faults ∧ ∃ x ∈ d.tables.assets, x.compartment = k.id

theorem listed_compartmentView (d : Draft) (k : Compartment) : (d.compartmentView k).listed =
    if .listAssets ∈ d.base.faults then [] else
      (d.tables.assets.filter (·.compartment = k.id)).map d.assetView := by
  by_cases hf : FaultPoint.listAssets ∈ d.base.faults
  · simp [compartmentView, CompartmentView.listed, assetViews, assetsIn_of_fault hf, Except.map, Decoration.resolved?,
      hf]
  · simp [compartmentView, CompartmentView.listed, assetViews, assetsIn_eq_ok.2 ⟨hf, rfl⟩, Except.map,
      Decoration.resolved?, hf]

theorem holds_assetView {x : Asset} : (d.assetView x).holds cash = true ↔
    .readItem ∉ d.base.faults ∧ ∃ y, d.tables.items.get? x.item = some y ∧ y.cashId = cash := by
  by_cases hf : FaultPoint.readItem ∈ d.base.faults
  · simp [assetView, item?, check, hf, bind, Except.bind, Decoration.ofLookup, AssetView.holds]
  · cases hi : d.tables.items.get? x.item with
    | none =>
      simp [assetView, item?, check, hf, hi, bind, Except.bind, pure, Except.pure, Decoration.ofLookup, AssetView.holds]
    | some y =>
      simp [assetView, item?, check, hf, hi, bind, Except.bind, pure, Except.pure, Decoration.ofLookup, AssetView.holds]

/-- The search finds nothing if nothing can be read, or if nothing there has the cash id. -/
theorem findByCashId?_eq_none : (d.compartmentView k).findByCashId? cash = none ↔ d.Obscures k ∨
    ∀ x ∈ d.tables.assets, x.compartment = k.id → ∀ y, d.tables.items.get? x.item = some y → y.cashId ≠ cash := by
  rw [CompartmentView.findByCashId?, listed_compartmentView, Obscures]
  by_cases hl : FaultPoint.listAssets ∈ d.base.faults
  · simp [hl]
  · by_cases hr : FaultPoint.readItem ∈ d.base.faults
    · have hnone : ((d.tables.assets.filter (·.compartment = k.id)).map d.assetView).find? (·.holds cash) = none := by
        simp [List.find?_eq_none, holds_assetView, hr]
      rw [if_neg hl, hnone, eq_self, true_iff]
      by_cases hx : ∃ x ∈ d.tables.assets, x.compartment = k.id
      · exact .inl (.inr ⟨hr, hx⟩)
      · exact .inr fun x hmem hk => absurd ⟨x, hmem, hk⟩ hx
    · simp [hl, hr, List.find?_eq_none, holds_assetView]

end Draft

variable {s : Service} {amb : Ambient} {c : Call} {e : WorkflowError} {code : ErrorCode}

namespace Transfer

variable {b : CharacterId} {o : MoveOrder} {k : Compartment}

def Searches (s : Service) (b : CharacterId) (o : MoveOrder) (k : Compartment) : Prop :=
  ∃ tab ch, resolveTab o.tab = .ok tab ∧ s.character b false = .ok ch ∧
    (Draft.begin s.store).compartmentOf? ch.account (ClassLine.ofJob ch.job) = some k

theorem locate_of_not_found (hk : Searches s b o k)
    (hnone : ((Draft.begin s.store).compartmentView k).findByCashId? o.cashId = none) :
    locate s b o = .error (.itemNotFound s!"cash item {o.cashId}") := by
  obtain ⟨tab, ch, htab, hch, hk⟩ := hk
  rw [locate, htab, hch]
  simp only [bind, Except.bind, hk, hnone]
  rfl

theorem cases_of_locate_error (h : locate s b o = .error e) : e.code = .unknownError ∨
    ∃ k, Searches s b o k ∧ ((Draft.begin s.store).compartmentView k).findByCashId? o.cashId = none ∧
      e = .itemNotFound s!"cash item {o.cashId}" := by
  rw [locate, bind_eq_error] at h
  obtain h | ⟨tab, htab, h⟩ := h
  · exact .inl (uncoded_resolveTab _ e h)
  rw [bind_eq_error] at h
  obtain h | ⟨ch, hch, h⟩ := h
  · exact .inl (s.uncoded_character b false e h)
  dsimp only at h
  cases hk : (Draft.begin s.store).compartmentOf? ch.account (ClassLine.ofJob ch.job) with
  | none =>
    rw [hk] at h
    cases h
    exact .inl rfl
  | some k =>
    simp only [hk] at h
    cases hv : ((Draft.begin s.store).compartmentView k).findByCashId? o.cashId with
    | some v =>
      rw [hv] at h
      cases h
    | none =>
      rw [hv] at h
      cases h
      exact .inr ⟨k, ⟨tab, ch, htab, hch, hk⟩, hv, rfl⟩

end Transfer

def ErrorCode.refusals : List ErrorCode := [.notEnoughCash, .inventoryFull, .itemAlreadyReserved, .itemNotFound]

/-- What a code says about a call, in terms of what has been committed and of what is reserved. -/
inductive Supports (s : Service) (amb : Ambient) : Call → ErrorCode → Prop where
  | notEnoughCash {c : Call} {x : Charge} {w : Wallet} (bill : c.bill? s = some x)
      (held : s.store.tables.wallets.get? x.account = some w) (short : w.balance x.lane < x.amount) :
      Supports s amb c .notEnoughCash
  | inventoryFull {b : CharacterId} {o : PurchaseOrder} {t : Purchase.Terms}
      (terms : Purchase.Terms.resolve s b o = .ok t) (crammed : Purchase.Crammed (Draft.begin s.store) t.character) :
      Supports s amb (.purchase b o) .inventoryFull
  | releaseReserved {h : Handoff} {r : Reservation} (live : s.reservations.live? h.item amb.now = some r) :
      Supports s amb (.release h) .itemAlreadyReserved
  | moveReserved {b : CharacterId} {o : MoveOrder} {tab : Tab} {i : ItemId} {r : Reservation}
      (located : Transfer.locate s b o = .ok (tab, i)) (live : s.reservations.live? i amb.now = some r) :
      Supports s amb (.move b o) .itemAlreadyReserved
  | releaseMissing {h : Handoff} (known : (s.store.tables.compartments.get? h.compartment).isSome = true)
      (missing : ∀ x ∈ s.store.tables.assets, x.compartment = h.compartment → x.item ≠ h.item) :
      Supports s amb (.release h) .itemNotFound
  | moveMissing {b : CharacterId} {o : MoveOrder} {k : Compartment} (searched : Transfer.Searches s b o k)
      (missing : ∀ x ∈ s.store.tables.assets, x.compartment = k.id →
        ∀ y, s.store.tables.items.get? x.item = some y → y.cashId ≠ o.cashId) :
      Supports s amb (.move b o) .itemNotFound

/-- The call comes to a look into the store that it depends on, and the look fails. A purchase does not depend on the
items in the compartment, only on how many there are. -/
inductive Unread (s : Service) (amb : Ambient) : Call → Prop where
  | purchase {b : CharacterId} {o : PurchaseOrder} {t : Purchase.Terms} {k : Compartment}
      (terms : Purchase.Terms.resolve s b o = .ok t)
      (unread : Purchase.Unread (Draft.begin s.store) b o.idempotencyKey t k) : Unread s amb (.purchase b o)
  | accept {h : Handoff} (known : (s.store.tables.compartments.get? h.compartment).isSome = true)
      (unplaced : (Draft.begin s.store).assetOf? h.item = none) (faulty : .listAssets ∈ s.store.faults) :
      Unread s amb (.accept h)
  | release {h : Handoff} (free : s.reservations.live? h.item amb.now = none)
      (known : (s.store.tables.compartments.get? h.compartment).isSome = true)
      (faulty : .listAssets ∈ s.store.faults) : Unread s amb (.release h)
  | move {b : CharacterId} {o : MoveOrder} {k : Compartment} (searched : Transfer.Searches s b o k)
      (obscured : (Draft.begin s.store).Obscures k) : Unread s amb (.move b o)
  | moveFailed {b : CharacterId} {i : ItemId} {t : Option TransactionId}
      (free : s.reservations.live? i amb.now = none) (faulty : .readItem ∈ s.store.faults) :
      Unread s amb (.moveFailed b i t)

/-- The code by which a failure of the service is told, where it is told at all. -/
def Call.faultCode? : Call → Option ErrorCode
  | .accept _ => some .assetCreationFailed
  | .accountCreated _ | .accountDeleted _ | .grant _ | .moveFailed _ _ _ => none
  | .purchase _ _ | .increaseByType _ _ _ | .increaseByItem _ _ _ | .release _ | .move _ _ | .moved _ =>
    some .unknownError

theorem Call.code?_internal (c : Call) (f : Fault) : c.code? (.error (.internal f)) = c.faultCode? := by
  cases c <;> rfl

theorem Store.Fails.cases {α : Type} {s : Store} {prepared : Except WorkflowError (Work α)} (h : s.Fails prepared e)
    (hu : Uncoded prepared) :
    e.code = .unknownError ∨ ∃ work, prepared = .ok work ∧ Refuses work (Draft.begin s) e := by
  cases h with
  | unprepared => exact .inl (hu e rfl)
  | refused refused => exact .inr ⟨_, rfl, refused⟩
  | uncommitted => exact .inl rfl

namespace Call

theorem eq_of_code?_error (h : c.code? (.error e) = some code) :
    (∃ g, c = .accept g ∧ Handoff.acceptCode e = code) ∨ e.code = code := by
  cases c with
  | accept g =>
    cases h
    exact .inl ⟨g, rfl, rfl⟩
  | accountCreated | accountDeleted | grant | moveFailed => cases h
  | _ =>
    cases h
    exact .inr rfl

end Call

namespace Service

def AnswersWith (s : Service) (amb : Ambient) (c : Call) (code : ErrorCode) : Prop :=
  c.code? (s.call amb c).1 = some code ∨ ∃ e, (s.call amb c).1 = .error e ∧ e.code = code

/-- A code that names a condition is given only if the condition holds, and a look into the store that fails is told as
a failure of the service. -/
structure TellsTruth (s : Service) (amb : Ambient) (c : Call) : Prop where
  supported : ∀ code ∈ ErrorCode.refusals, s.AnswersWith amb c code → Supports s amb c code
  failing : Unread s amb c → ∃ f, (s.call amb c).1 = .error (.internal f) ∧
    c.code? (s.call amb c).1 = c.faultCode? ∧
    ∀ t m, m.call? t = some c → ∃ diagnosis, (s.dispatch amb t m).1 = .error (.internal diagnosis)

def Misleads (s : Service) (amb : Ambient) (c : Call) : Prop := (∃ b o, c = .move b o) ∧ Unread s amb c

theorem supports_purchase {b : CharacterId} {o : PurchaseOrder} (he : (s.call amb (.purchase b o)).1 = .error e) :
    e.code = .unknownError ∨ Supports s amb (.purchase b o) e.code := by
  obtain hcode | ⟨work, hw, hr⟩ := (call_of_error rfl he).2.cases (Purchase.Terms.uncoded_resolve s b o).map
  · exact .inl hcode
  · cases ht : Purchase.Terms.resolve s b o with
    | error e' =>
      rw [ht] at hw
      cases hw
    | ok t =>
      rw [ht] at hw
      cases hw
      obtain ⟨hcode, w, held, short⟩ | ⟨hcode, crammed⟩ | hcode :=
        Purchase.cases_of_refuses_work (refuses_map.1 hr)
      · rw [hcode]
        have hbill : Call.bill? s (.purchase b o) = some ⟨t.character.account, t.currency, t.commodity.price⟩ := by
          simp [Call.bill?, ht, Except.toOption]
        exact .inr (.notEnoughCash hbill held short)
      · rw [hcode]
        exact .inr (.inventoryFull ht crammed)
      · exact .inl hcode

theorem supports_widening {b : CharacterId} {currency : UInt32} {offer : Except WorkflowError Widening.Offer}
    (hasked : c.widening? s = some (b, currency, offer)) (hoffer : Uncoded offer)
    (hfails : s.store.Fails ((Widening.prepare s b currency offer).map (Answer.widened <$> ·)) e) :
    e.code = .unknownError ∨ Supports s amb c e.code := by
  obtain hcode | ⟨work, hw, hr⟩ := hfails.cases (Widening.uncoded_prepare s b currency hoffer).map
  · exact .inl hcode
  · cases hp : Widening.prepare s b currency offer with
    | error e' =>
      rw [hp] at hw
      cases hw
    | ok work' =>
      rw [hp] at hw
      cases hw
      obtain ⟨o, lane, ch, rfl, hlane, hch, rfl⟩ := Widening.prepare_eq_ok.1 hp
      obtain ⟨hcode, w, held, short⟩ | hcode := Widening.cases_of_refuses_work (refuses_map.1 hr)
      · rw [hcode]
        exact .inr (.notEnoughCash (bill?_of_widening hasked hlane hch) held short)
      · exact .inl hcode

theorem supports_release {h : Handoff} (he : (s.call amb (.release h)).1 = .error e) :
    e.code = .unknownError ∨ Supports s amb (.release h) e.code := by
  cases hl : s.reservations.live? h.item amb.now with
  | some r =>
    rw [call_release_of_live hl] at he
    cases he
    exact .inr (.releaseReserved hl)
  | none =>
    obtain ⟨-, hfails⟩ := call_of_error rfl he
    rw [Reservations.isReserved_of_free hl] at hfails
    obtain hcode | ⟨work, hw, hr⟩ := hfails.cases (uncoded_ok _)
    · exact .inl hcode
    · cases hw
      obtain ⟨-, rfl⟩ | ⟨known, ⟨-, rfl⟩ | ⟨-, missing, rfl⟩⟩ := Handoff.refuses_releaseWork.1 (refuses_map.1 hr)
      · exact .inl rfl
      · exact .inl rfl
      · exact .inr (.releaseMissing known missing)

theorem supports_move {b : CharacterId} {o : MoveOrder} (he : (s.call amb (.move b o)).1 = .error e)
    (hread : ¬ Unread s amb (.move b o)) : e.code = .unknownError ∨ Supports s amb (.move b o) e.code := by
  cases hl : Transfer.locate s b o with
  | error e' =>
    rw [call_move_of_not_located hl] at he
    cases he
    obtain hcode | ⟨k, searched, hnone, rfl⟩ := Transfer.cases_of_locate_error hl
    · exact .inl hcode
    · obtain obscured | missing := Draft.findByCashId?_eq_none.1 hnone
      · exact absurd (.move searched obscured) hread
      · exact .inr (.moveMissing searched missing)
  | ok found =>
    obtain ⟨tab, i⟩ := found
    cases hr : s.reservations.live? i amb.now with
    | some r =>
      rw [call_move_of_live hl hr] at he
      cases he
      exact .inr (.moveReserved hl hr)
    | none =>
      cases ht : s.transport.refuses .characterCommand with
      | false =>
        rw [call_move_of_sent hl hr ht] at he
        cases he
      | true =>
        rw [call_move_of_refused hl hr ht] at he
        cases he
        exact .inl rfl

theorem supports_of_error (he : (s.call amb c).1 = .error e) (hm : ¬ s.Misleads amb c) :
    e.code = .unknownError ∨ e.code = .assetCreationFailed ∨ Supports s amb c e.code := by
  cases c with
  | accountCreated | accountDeleted | grant | moveFailed =>
    obtain ⟨f, rfl⟩ := internal_of_untold he rfl
    exact .inl rfl
  | purchase b o => exact (supports_purchase he).imp_right .inr
  | increaseByType b currency tab =>
    exact (supports_widening rfl (Widening.Offer.uncoded_ofTab tab) (call_of_error rfl he).2).imp_right .inr
  | increaseByItem b currency n =>
    exact (supports_widening rfl (Widening.Offer.uncoded_ofCoupon s n) (call_of_error rfl he).2).imp_right .inr
  | accept h =>
    obtain hcode | ⟨work, hw, hr⟩ := (call_of_error rfl he).2.cases (uncoded_ok _)
    · exact .inl hcode
    · cases hw
      exact (Handoff.cases_of_refuses_acceptWork (refuses_map.1 hr)).imp_right .inl
  | release h => exact (supports_release he).imp_right .inr
  | move b o =>
    exact (supports_move he fun hread => hm ⟨⟨b, o, rfl⟩, hread⟩).imp_right .inr
  | moved m =>
    obtain ⟨-, -, -, rfl⟩ := moved_failed_iff.1 he
    exact .inl rfl

theorem supports_of_answersWith (hm : ¬ s.Misleads amb c) (hcode : code ∈ ErrorCode.refusals)
    (h : s.AnswersWith amb c code) : Supports s amb c code := by
  have hsupports {e : WorkflowError} (he : (s.call amb c).1 = .error e) (hec : e.code = code) :
      Supports s amb c code := by
    obtain h | h | h := supports_of_error he hm
    · rw [← hec, h] at hcode
      simp [ErrorCode.refusals] at hcode
    · rw [← hec, h] at hcode
      simp [ErrorCode.refusals] at hcode
    · exact hec ▸ h
  obtain htold | ⟨e, he, hec⟩ := h
  · cases hr : (s.call amb c).1 with
    | error e =>
      rw [hr] at htold
      obtain ⟨h, rfl, rfl⟩ | hec := Call.eq_of_code?_error htold
      · cases e <;> simp [Handoff.acceptCode, ErrorCode.refusals] at hcode
      · exact hsupports hr hec
    | ok a =>
      rw [hr] at htold
      obtain ⟨b, o, rfl, rfl, rfl⟩ | ⟨b, i, t, rfl, -, rfl⟩ := Call.eq_of_code?_ok htold
      · obtain ⟨-, work, d, hw, hy⟩ := call_of_not_done rfl hr rfl
        cases ht : Purchase.Terms.resolve s b o with
        | error e =>
          rw [ht] at hw
          cases hw
        | ok t =>
          rw [ht] at hw
          cases hw
          obtain ⟨outcome, hy, ⟨⟩⟩ := yields_map.1 hy
          exact .inventoryFull ht (Purchase.crammed_of_yields_full hy)
      · simp [ErrorCode.refusals] at hcode
  · exact hsupports he hec

theorem full_of_answersWith {b : CharacterId} {o : PurchaseOrder}
    (filed : ∀ c k, s.store.tables.compartments.get? c = some k → k.id = c)
    (h : s.AnswersWith amb (.purchase b o) .inventoryFull) : ∃ t k, Purchase.Terms.resolve s b o = .ok t ∧
      (Draft.begin s.store).compartmentOf? t.character.account (ClassLine.ofJob t.character.job) = some k ∧
        k.capacity.toNat ≤ (s.store.tables.assets.filter (·.compartment = k.id)).length := by
  have hm : ¬ s.Misleads amb (.purchase b o) := by
    rintro ⟨⟨_, _, h⟩, -⟩
    cases h
  cases supports_of_answersWith hm (by decide) h with
  | inventoryFull terms crammed =>
    obtain ⟨k, hk, hfull⟩ := crammed.full filed
    exact ⟨_, k, terms, hk, hfull⟩

/-- A look that fails is told as a failure of the service, except for the search of a transfer. -/
theorem internal_of_unread (hm : ¬ s.Misleads amb c) (h : Unread s amb c) :
    ∃ f, (s.call amb c).1 = .error (.internal f) := by
  cases h with
  | @purchase b o t k terms unread =>
    refine ⟨_, call_of_refused rfl (by rw [terms]; rfl) (refuses_map.2 (Purchase.refuses_work_of_unread unread))⟩
  | accept known unplaced faulty =>
    exact ⟨_, call_of_refused rfl rfl (refuses_map.2 (Handoff.refuses_acceptWork_of_unread known unplaced faulty))⟩
  | release free known faulty =>
    refine ⟨_, call_of_refused rfl (by rw [Reservations.isReserved_of_free free]; rfl)
      (refuses_map.2 (Handoff.refuses_releaseWork.2 (.inr ⟨known, .inl ⟨faulty, rfl⟩⟩)))⟩
  | @move b o k searched obscured => exact absurd ⟨⟨b, o, rfl⟩, .move searched obscured⟩ hm
  | moveFailed free faulty => exact ⟨_, by rw [call_moveFailed_of_unreadable free faulty]⟩

theorem notFound_of_misleads (h : s.Misleads amb c) :
    ∃ b o, c = .move b o ∧ (s.call amb c).1 = .error (.itemNotFound s!"cash item {o.cashId}") := by
  obtain ⟨⟨b, o, rfl⟩, hread⟩ := h
  cases hread with
  | move searched obscured =>
    have hnone : ((Draft.begin s.store).compartmentView _).findByCashId? o.cashId = none :=
      Draft.findByCashId?_eq_none.2 (.inl obscured)
    exact ⟨b, o, rfl, by rw [call_move_of_not_located (Transfer.locate_of_not_found searched hnone)]⟩

/-- Whatever the state and whatever fails in it, a refusal tells the truth and a look into the store that fails is told
as such, with the one exception of an order to move an item that is searched for where the service cannot look. It is
answered as if the item were not there. Where compartments stand under their own ids, the one that is called full is the
one that the purchase goes to. In any case an answer with a code is told by one event, which is the only thing that the
transport carries. -/
theorem tellsTruth_iff (s : Service) (amb : Ambient) (c : Call) :
    (s.TellsTruth amb c ↔ ¬ s.Misleads amb c) ∧
    (s.Misleads amb c → ∃ b o, c = .move b o ∧ (s.call amb c).1 = .error (.itemNotFound s!"cash item {o.cashId}")) ∧
    ((∀ id k, s.store.tables.compartments.get? id = some k → k.id = id) → ∀ b o, c = .purchase b o →
      s.AnswersWith amb c .inventoryFull → ∃ t k, Purchase.Terms.resolve s b o = .ok t ∧
        (Draft.begin s.store).compartmentOf? t.character.account (ClassLine.ofJob t.character.job) = some k ∧
          k.capacity.toNat ≤ (s.store.tables.assets.filter (·.compartment = k.id)).length) ∧
    ∀ code, c.code? (s.call amb c).1 = some code → ∃ t m, c.errorEvent? code = some (t, m) ∧
      (s.call amb c).2.transport.carried = (s.announce t m.key m.value).transport.carried := by
  refine ⟨⟨?_, ?_⟩, notFound_of_misleads, ?_, fun code => told_of_code⟩
  · intro htruth hm
    obtain ⟨f, hf, -⟩ := htruth.failing hm.2
    obtain ⟨b, o, -, hnone⟩ := notFound_of_misleads hm
    rw [hf] at hnone
    cases hnone
  · intro hm
    refine ⟨fun code => supports_of_answersWith hm, ?_⟩
    intro hread
    obtain ⟨f, hf⟩ := internal_of_unread hm hread
    refine ⟨f, hf, by rw [hf, Call.code?_internal], ?_⟩
    intro t m hcall
    rw [dispatch_fst hcall, hf]
    exact ⟨_, rfl⟩
  · rintro filed b o rfl hfull
    exact full_of_answersWith filed hfull

theorem not_tellsTruth_unreadable :
    ¬ (sold.step (.faults [.readItem])).TellsTruth .opening (.move ⟨7⟩ ⟨⟨1⟩, 1, 3⟩) := by
  intro h
  have hfull := h.supported .itemNotFound (by decide) (.inr ⟨.itemNotFound s!"cash item {(⟨1⟩ : CashId)}", rfl, rfl⟩)
  cases hfull with
  | moveMissing searched missing =>
    obtain ⟨tab, ch, -, hch, hk⟩ := searched
    cases hch
    cases hk
    exact missing ⟨⟨.ofNat 1⟩, ⟨.ofNat 1⟩, ⟨1⟩⟩ (by decide) (by decide) _ rfl rfl

end Service

end CashShop
