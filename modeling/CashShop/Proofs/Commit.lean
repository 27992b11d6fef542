import CashShop.Proofs.Call
import CashShop.Proofs.WorkflowWork

namespace CashShop

open Work

variable {s : Service} {amb : Ambient} {c : Call} {a : Answer} {d : Draft}

/-- What a call asks to be widened: for whom, in which currency, and what. -/
def Call.widening? (s : Service) : Call → Option (CharacterId × UInt32 × Except WorkflowError Widening.Offer)
  | increaseByType c currency tab => some (c, currency, Widening.Offer.ofTab tab)
  | increaseByItem c currency n => some (c, currency, Widening.Offer.ofCoupon s n)
  | _ => none

/-- `Commits s amb c a d` says that the call can be carried out with this answer, and that it commits this draft. -/
inductive Commits (s : Service) (amb : Ambient) : Call → Answer → Draft → Prop where
  | accountCreated {a : AccountId} {d : Draft} (fresh : s.store.tables.wallets.get? a = none)
      (opened : ((Draft.begin s.store).enterWallet (.empty a)).openInventory a s.settings.compartmentCapacity
        amb.compartment = .ok d) :
      Commits s amb (.accountCreated a) (.setup .created)
        (d.put .inventoryStatus ⟨toString a, (InventoryEvent.created a).toJson⟩)
  | accountDeleted (a : AccountId) :
      Commits s amb (.accountDeleted a) .deleted ((((Draft.begin s.store).dropWallet a).closeInventory a).put
        .inventoryStatus ⟨toString a, (InventoryEvent.deleted a).toJson⟩)
  | purchase {c : CharacterId} {o : PurchaseOrder} {t : Purchase.Terms} {w : Wallet} {k : Compartment} {cash : CashId}
      {expiration : Instant} (terms : Purchase.Terms.resolve s c o = .ok t)
      (deliverable : Purchase.Deliverable amb s.settings.itemExpirationDays (Draft.begin s.store) c o.idempotencyKey t w
        k cash expiration) :
      Commits s amb (.purchase c o)
        (.purchase (.completed (t.receipt k.id amb.asset ⟨s.store.tables.lastItem + 1⟩
          (w.spend t.currency t.commodity.price))))
        (Purchase.delivered amb (Draft.begin s.store) c o.idempotencyKey t w k cash expiration)
  | widening {call : Call} {c : CharacterId} {code : UInt32} {o : Widening.Offer} {lane : Currency} {ch : Character}
      {w : Wallet} {current : UInt32} (asked : call.widening? s = some (c, code, .ok o))
      (currency : resolveCurrency code = .ok lane) (character : s.character c true = .ok ch)
      (feasible : Widening.Feasible (Draft.begin s.store) ch lane o w current) :
      Commits s amb call (.widened (Widening.increase lane o w current))
        (Widening.requested ((Draft.begin s.store).setWallet (w.spend lane o.price)) c o (current + o.amount))
  | grant {g : Grant} {cash : CashId} {expiration : Instant}
      (unused : amb.cashIds.find? (!(Draft.begin s.store).hasCashId ·) = some cash)
      (dated : amb.now.addDays? s.settings.itemExpirationDays = some expiration)
      (faultless : .insertItem ∉ s.store.faults) (numbered : s.store.tables.lastItem.toNat + 1 < UInt32.size) :
      Commits s amb (.grant g)
        (.granted ((Draft.begin s.store).nextItem ((g.spec s.settings.itemExpirationDays).newItem cash expiration)))
        ((Draft.begin s.store).enterItem ((g.spec s.settings.itemExpirationDays).newItem cash expiration))
  | acceptHeld {h : Handoff} {a : Asset} (known : (s.store.tables.compartments.get? h.compartment).isSome = true)
      (held : (Draft.begin s.store).assetOf? h.item = some a) (inside : a.compartment = h.compartment) :
      Commits s amb (.accept h) (.accepted a) ((Draft.begin s.store).put .compartmentStatus h.acceptedMessage)
  | accept {h : Handoff} {k : Compartment} (known : s.store.tables.compartments.get? h.compartment = some k)
      (unplaced : (Draft.begin s.store).assetOf? h.item = none)
      (room : (s.store.tables.assets.filter (·.compartment = h.compartment)).length < k.capacity.toNat)
      (faultless : .listAssets ∉ s.store.faults ∧ .insertAsset ∉ s.store.faults) :
      Commits s amb (.accept h) (.accepted ⟨amb.asset, h.compartment, h.item⟩)
        (((Draft.begin s.store).placeAsset ⟨amb.asset, h.compartment, h.item⟩).put .compartmentStatus h.acceptedMessage)
  | release {h : Handoff} {a : Asset} (known : (s.store.tables.compartments.get? h.compartment).isSome = true)
      (unreserved : (s.reservations.isReserved h.item amb.now).1 = false) (faultless : .listAssets ∉ s.store.faults)
      (held : (s.store.tables.assets.filter (·.compartment = h.compartment)).find? (·.item = h.item) = some a) :
      Commits s amb (.release h) (.released a)
        (((Draft.begin s.store).keepAssets fun b => b.id ≠ a.id).put .compartmentStatus h.releasedMessage)
  | moved {m : MoveCompletion} (placed : ∃ a ∈ s.store.tables.assets, a.item = m.moved.item) :
      Commits s amb (.moved m) (.callback .applied)
        (((Draft.begin s.store).keepAssets fun a => a.item ≠ m.moved.item).put .shopStatus (Transfer.completedMessage m))

namespace Commits

theorem isDone (h : Commits s amb c a d) : a.isDone = true := by cases h <;> rfl

theorem base (h : Commits s amb c a d) : d.base = s.store := by
  cases h with
  | accountCreated _ opened => exact (Draft.frame_openInventory opened).1
  | accountDeleted a =>
    change (((Draft.begin s.store).dropWallet a).closeInventory a).base = _
    rw [(Draft.frame_closeInventory _ a).1, (Draft.frame_dropWallet _ a).1]
    rfl
  | purchase | widening | grant | acceptHeld | accept | release | moved => rfl

end Commits

def Transport.carried (t : Transport) : List Publication := t.calls.filter (·.accepted)

inductive IsErrorEvent : Topic → Message → Prop where
  | shop (c : CharacterId) (code : ErrorCode) :
      IsErrorEvent .shopStatus ⟨toString c, (ShopEvent.error c code).toJson⟩
  | compartment (h : Handoff) (code : ErrorCode) :
      IsErrorEvent .compartmentStatus ⟨toString h.account, (CompartmentEvent.error h.ref code h.transaction).toJson⟩

def Transport.Apologizes (t t' : Transport) : Prop :=
  t'.carried = t.carried ∨ ∃ topic m, IsErrorEvent topic m ∧ t'.carried = t.carried ++ [⟨topic, [m], true⟩]

/-- The ways in which a call may end, with its answer and the service that it leaves. -/
inductive Ending (s : Service) (amb : Ambient) (c : Call) : Except WorkflowError Answer → Service → Prop where
  | committed {a : Answer} {d : Draft} {s' : Service} (commits : Commits s amb c a d)
      (faultless : .commit ∉ s.store.faults) (store : s'.store = d.committed)
      (transport : s'.transport = (d.outbox.flush Transport.publish s.transport).2) : Ending s amb c (.ok a) s'
  | failed {e : WorkflowError} {s' : Service} (store : s'.store = s.store)
      (told : s.transport.Apologizes s'.transport) : Ending s amb c (.error e) s'
  | idle {a : Answer} {s' : Service} (undone : a.isDone = false) (store : s'.store = s.store)
      (told : s.transport.Apologizes s'.transport) : Ending s amb c (.ok a) s'
  | elsewhere {a : Answer} {s' : Service} (transfer : (∃ t, a = .started t) ∨ a = .callback .applied)
      (store : s'.store = s.store) : Ending s amb c (.ok a) s'

namespace Transport

theorem Apologizes.refl (t : Transport) : t.Apologizes t := .inl rfl

theorem Apologizes.of_carried {t t' t'' : Transport} (h : t'.carried = t.carried) (h' : t'.Apologizes t'') :
    t.Apologizes t'' := by
  unfold Apologizes at h' ⊢
  rwa [h] at h'

theorem flush_put (t : Transport) (topic : Topic) (m : Message) :
    ((Outbox.empty.put topic m).flush Transport.publish t).2 =
      { t with calls := t.calls ++ [⟨topic, [m], !t.refuses topic⟩] } := by
  have hb : (Outbox.empty.put topic m).batches = [(topic, [m])] := by
    simp [Outbox.batches, Outbox.topics, Outbox.batch, Outbox.put, Outbox.empty, Outbox.firsts]
  rw [Outbox.flush, hb, Publisher.publishAll, publish]
  cases t.refuses topic <;> rfl

theorem apologizes_publish {t : Transport} {topic : Topic} {m : Message} (h : IsErrorEvent topic m) :
    t.Apologizes (((Outbox.empty.put topic m).flush Transport.publish t).2) := by
  rw [flush_put]
  cases hr : t.refuses topic with
  | true => exact .inl (by simp [carried])
  | false => exact .inr ⟨topic, m, h, by simp [carried]⟩

end Transport

namespace Service

theorem apologizes_answerError (s : Service) (c : CharacterId) (code : ErrorCode) :
    s.transport.Apologizes (s.answerError c code).transport := Transport.apologizes_publish (.shop c code)

theorem apologizes_reportFailure (s : Service) (c : CharacterId) (e : WorkflowError) :
    s.transport.Apologizes (s.reportFailure c e).transport := Transport.apologizes_publish (.shop c e.code)

theorem apologizes_answerHandoffError (s : Service) (h : Handoff) (code : ErrorCode) :
    s.transport.Apologizes (s.answerHandoffError h code).transport :=
  Transport.apologizes_publish (.compartment h code)

theorem run_of_not_kept {α : Type} {work : Work α} {k : α → Bool} {a : α} {d : Draft}
    (h : Yields work (Draft.begin s.store) a d) (hk : k a = false) : s.run work k = (.ok a, s) := by
  have hw : work (Draft.begin s.store) = (.ok a, d) := h
  rw [run, Store.transact, hw]
  simp only [hk]
  rfl

theorem run_cases {α : Type} (s : Service) (work : Work α) (kept : α → Bool) :
    (∃ a d, Yields work (Draft.begin s.store) a d ∧ kept a = true ∧ .commit ∉ d.base.faults ∧
      s.run work kept = (.ok a, { s with store := d.committed }.publish d.outbox)) ∨
    ∃ r, s.run work kept = (r, s) ∧
      ∀ a, r = .ok a → kept a = false ∧ ∃ d, Yields work (Draft.begin s.store) a d := by
  rcases hw : work (Draft.begin s.store) with ⟨r, d⟩
  cases r with
  | error e =>
    refine .inr ⟨.error e, ?_, by simp⟩
    rw [run, Store.transact, hw]
  | ok a =>
    cases hk : kept a with
    | false =>
      refine .inr ⟨.ok a, run_of_not_kept hw hk, ?_⟩
      rintro b ⟨⟩
      exact ⟨hk, d, hw⟩
    | true =>
      rw [run, Store.transact, hw]
      cases hc : d.commit with
      | error f => exact .inr ⟨.error (.internal f), by simp [hk, hc], by simp⟩
      | ok s' =>
        obtain ⟨hf, rfl⟩ := Draft.commit_eq_ok.1 hc
        exact .inl ⟨a, d, hw, hk, hf, by simp [hk, hc]⟩

theorem run_kept_cases {α : Type} (s : Service) (work : Work α) :
    (∃ a d, Yields work (Draft.begin s.store) a d ∧ .commit ∉ d.base.faults ∧
      s.run work (fun _ => true) = (.ok a, { s with store := d.committed }.publish d.outbox)) ∨
    ∃ e, s.run work (fun _ => true) = (.error e, s) := by
  obtain ⟨a, d, hw, -, hf, hr⟩ | ⟨r, hr, hk⟩ := s.run_cases work fun _ => true
  · exact .inl ⟨a, d, hw, hf, hr⟩
  · cases r with
    | error e => exact .inr ⟨e, hr⟩
    | ok a => cases (hk a rfl).1

theorem ending_accountCreated (s : Service) (amb : Ambient) (a : AccountId) :
    Ending s amb (.accountCreated a) (s.call amb (.accountCreated a)).1 (s.call amb (.accountCreated a)).2 := by
  rw [call, accountCreated]
  rcases s.run_cases (AccountSetup.work a s.settings.compartmentCapacity amb.compartment) (· = .created) with
    ⟨r, d, hw, hk, hf, hr⟩ | ⟨r, hr, hk⟩
  · obtain rfl : r = .created := of_decide_eq_true hk
    obtain ⟨-, h, -⟩ | ⟨hnone, -, d1, ho, rfl⟩ := AccountSetup.yields_work.1 hw
    · cases h
    · have hc : Commits s amb (.accountCreated a) (.setup .created) _ := .accountCreated hnone ho
      rw [hr]
      exact .committed hc (hc.base ▸ hf) rfl rfl
  · rw [hr]
    cases r with
    | error e => exact .failed rfl (.refl _)
    | ok r =>
      cases r with
      | created => exact absurd (hk _ rfl).1 (by decide)
      | alreadyExists => exact .idle rfl rfl (.refl _)

theorem ending_accountDeleted (s : Service) (amb : Ambient) (a : AccountId) :
    Ending s amb (.accountDeleted a) (s.call amb (.accountDeleted a)).1 (s.call amb (.accountDeleted a)).2 := by
  rw [call, accountDeleted]
  obtain ⟨r, d, hw, hf, hr⟩ | ⟨e, hr⟩ := s.run_kept_cases a.deleteHoldings
  · obtain rfl := AccountId.yields_deleteHoldings.1 hw
    have hc : Commits s amb (.accountDeleted a) .deleted _ := .accountDeleted a
    rw [hr]
    exact .committed hc (hc.base ▸ hf) rfl rfl
  · rw [hr]
    exact .failed rfl (.refl _)

theorem ending_purchase (s : Service) (amb : Ambient) (c : CharacterId) (o : PurchaseOrder) :
    Ending s amb (.purchase c o) (s.call amb (.purchase c o)).1 (s.call amb (.purchase c o)).2 := by
  rw [call, purchase]
  cases ht : Purchase.Terms.resolve s c o with
  | error e => exact .failed rfl (apologizes_reportFailure s c e)
  | ok t =>
    rcases s.run_cases (Purchase.work amb s.settings.itemExpirationDays c o.idempotencyKey t) (·.isCompleted) with
      ⟨r, d, hw, hk, hf, hr⟩ | ⟨r, hr, hk⟩
    · cases r with
      | inventoryFull | duplicate => cases hk
      | completed r =>
        obtain ⟨w, k, cash, e, hd, rfl, rfl⟩ := Purchase.yields_work.1 hw
        have hc : Commits s amb (.purchase c o) _ _ := .purchase ht hd
        simp only [Except.map, perform, hr]
        exact .committed hc (hc.base ▸ hf) rfl rfl
    · simp only [Except.map, perform, hr]
      cases r with
      | error e => exact .failed rfl (apologizes_reportFailure s c e)
      | ok r =>
        cases r with
        | completed r => exact absurd (hk _ rfl).1 (by simp [PurchaseOutcome.isCompleted])
        | inventoryFull => exact .idle rfl rfl (apologizes_answerError (s.count .purchaseRejections) c .inventoryFull)
        | duplicate => exact .idle rfl rfl (.refl _)

theorem ending_widen {call : Call} {c : CharacterId} {code : UInt32} {offer : Except WorkflowError Widening.Offer}
    (asked : call.widening? s = some (c, code, offer)) :
    Ending s amb call (answered .widened (s.widen c code offer)).1 (answered .widened (s.widen c code offer)).2 := by
  have hfail (e : WorkflowError) : Ending s amb call (.error e) (s.reportFailure c e) :=
    .failed rfl (apologizes_reportFailure s c e)
  rw [widen, Widening.prepare]
  cases ho : offer with
  | error e => exact hfail e
  | ok o =>
    cases hl : resolveCurrency code with
    | error e => exact hfail e
    | ok lane =>
      cases hch : s.character c true with
      | error e => exact hfail e
      | ok ch =>
        simp only [bind, Except.bind, pure, Except.pure, perform]
        obtain ⟨r, d, hw, hf, hr⟩ | ⟨e, hr⟩ := s.run_kept_cases (Widening.work c ch lane o)
        · obtain ⟨w, current, h, rfl, rfl⟩ := Widening.yields_work.1 hw
          have hc : Commits s amb call _ _ := .widening (ho ▸ asked) hl hch h
          rw [hr]
          exact .committed hc (hc.base ▸ hf) rfl rfl
        · rw [hr]
          exact hfail e

theorem ending_grant (s : Service) (amb : Ambient) (g : Grant) :
    Ending s amb (.grant g) (s.call amb (.grant g)).1 (s.call amb (.grant g)).2 := by
  rw [call, grant]
  obtain ⟨r, d, hw, hf, hr⟩ | ⟨e, hr⟩ :=
    s.run_kept_cases (Registry.create (g.spec s.settings.itemExpirationDays) amb.now amb.cashIds)
  · obtain ⟨cash, hcash, expiration, hexpiration, hi, hn, rfl, rfl⟩ := Registry.yields_create.1 hw
    have hc : Commits s amb (.grant g) _ _ := .grant hcash hexpiration hi hn
    rw [hr]
    exact .committed hc (hc.base ▸ hf) rfl rfl
  · rw [hr]
    exact .failed rfl (.refl _)

theorem ending_accept (s : Service) (amb : Ambient) (h : Handoff) :
    Ending s amb (.accept h) (s.call amb (.accept h)).1 (s.call amb (.accept h)).2 := by
  rw [call, accept]
  obtain ⟨r, d, hw, hf, hr⟩ | ⟨e, hr⟩ := s.run_kept_cases (h.acceptWork amb)
  · rw [hr]
    obtain ⟨hknown, ⟨hheld, hin, rfl⟩ | ⟨hnone, k, hk, hl, hroom, hi, rfl, rfl⟩⟩ := Handoff.yields_acceptWork.1 hw
    · have hc : Commits s amb (.accept h) _ _ := .acceptHeld hknown hheld hin
      exact .committed hc (hc.base ▸ hf) rfl rfl
    · have hc : Commits s amb (.accept h) _ _ := .accept hk hnone hroom ⟨hl, hi⟩
      exact .committed hc (hc.base ▸ hf) rfl rfl
  · rw [hr]
    exact .failed rfl (apologizes_answerHandoffError _ _ _)

theorem ending_release (s : Service) (amb : Ambient) (h : Handoff) :
    Ending s amb (.release h) (s.call amb (.release h)).1 (s.call amb (.release h)).2 := by
  rw [call, release]
  rcases hres : s.reservations.isReserved h.item amb.now with ⟨reserved, reservations⟩
  cases reserved with
  | true => exact .failed rfl (apologizes_answerHandoffError { s with reservations } h _)
  | false =>
    obtain ⟨r, d, hw, hf, hr⟩ | ⟨e, hr⟩ := run_kept_cases { s with reservations } h.releaseWork
    · obtain ⟨hknown, hl, hheld, rfl⟩ := Handoff.yields_releaseWork.1 hw
      have hc : Commits s amb (.release h) _ _ := .release hknown (by rw [hres]) hl hheld
      simp only [perform, Bool.false_eq_true, if_false, hr]
      exact .committed hc hf rfl rfl
    · simp only [perform, Bool.false_eq_true, if_false, hr]
      exact .failed rfl (apologizes_answerHandoffError { s with reservations } h _)

theorem ending_move (s : Service) (amb : Ambient) (c : CharacterId) (o : MoveOrder) :
    Ending s amb (.move c o) (s.call amb (.move c o)).1 (s.call amb (.move c o)).2 := by
  rw [call, move, Transfer.start]
  cases hl : Transfer.locate s c o with
  | error e => exact .failed rfl (apologizes_reportFailure s c e)
  | ok found =>
    obtain ⟨tab, i⟩ := found
    dsimp only
    rcases hres : s.reservations.reserve i c (some amb.transaction) amb.now with ⟨free, reservations⟩
    cases free with
    | false =>
      exact .failed rfl (apologizes_reportFailure { s with reservations } c (.itemAlreadyReserved i))
    | true =>
      dsimp only
      cases href : s.transport.refuses .characterCommand with
      | false =>
        simp only [Transport.publish, href]
        exact .elsewhere (.inl ⟨_, rfl⟩) rfl
      | true =>
        simp only [Transport.publish, href]
        refine .failed rfl (.of_carried ?_ (apologizes_reportFailure _ c _))
        simp [Transport.carried]

theorem ending_moved (s : Service) (amb : Ambient) (m : MoveCompletion) :
    Ending s amb (.moved m) (s.call amb (.moved m)).1 (s.call amb (.moved m)).2 := by
  rw [call, moved]
  rcases hrel : s.reservations.releaseMatching m.moved.item m.moved.transaction amb.now with ⟨correlation, reservations⟩
  cases correlation with
  | mismatched r => exact .idle rfl rfl (.refl _)
  | matched | missing =>
    dsimp only
    rcases run_cases { s with reservations } (Transfer.complete m) (· = .applied) with
      ⟨r, d, hw, hk, hf, hr⟩ | ⟨r, hr, hk⟩
    · obtain rfl : r = .applied := of_decide_eq_true hk
      obtain ⟨-, h, -⟩ | ⟨hplaced, -, rfl⟩ := Transfer.yields_complete.1 hw
      · cases h
      · have hc : Commits s amb (.moved m) _ _ := .moved hplaced
        rw [hr]
        exact .committed hc hf rfl rfl
    · rw [hr]
      cases r with
      | error e => exact .failed rfl (apologizes_reportFailure { s with reservations } m.character e)
      | ok r =>
        cases r with
        | applied => exact absurd (hk _ rfl).1 (by decide)
        | dropped => exact .idle rfl rfl (.refl _)

theorem ending_moveFailed (s : Service) (amb : Ambient) (c : CharacterId) (i : ItemId) (t : Option TransactionId) :
    Ending s amb (.moveFailed c i t) (s.call amb (.moveFailed c i t)).1 (s.call amb (.moveFailed c i t)).2 := by
  rw [call, moveFailed]
  rcases hrel : s.reservations.releaseMatching i t amb.now with ⟨correlation, reservations⟩
  have hdrop : Ending s amb (.moveFailed c i t) (.ok (.callback .dropped))
      (count { s with reservations } .callbacksDropped) := .idle rfl rfl (.refl _)
  cases correlation with
  | mismatched r => exact hdrop
  | matched r => exact .elsewhere (.inr rfl) rfl
  | missing =>
    dsimp only
    cases (Draft.begin s.store).item? i with
    | error f => exact .failed rfl (.refl _)
    | ok found =>
      cases found with
      | none => exact hdrop
      | some item => exact .elsewhere (.inr rfl) rfl

theorem call_ending (s : Service) (amb : Ambient) (c : Call) : Ending s amb c (s.call amb c).1 (s.call amb c).2 := by
  cases c with
  | accountCreated a => exact ending_accountCreated s amb a
  | accountDeleted a => exact ending_accountDeleted s amb a
  | purchase c o => exact ending_purchase s amb c o
  | increaseByType c currency tab => exact ending_widen rfl
  | increaseByItem c currency n => exact ending_widen rfl
  | grant g => exact ending_grant s amb g
  | accept h => exact ending_accept s amb h
  | release h => exact ending_release s amb h
  | move c o => exact ending_move s amb c o
  | moved m => exact ending_moved s amb m
  | moveFailed c i t => exact ending_moveFailed s amb c i t

theorem store_call_of_error {e : WorkflowError} (h : (s.call amb c).1 = .error e) :
    (s.call amb c).2.store = s.store := by
  have hend := call_ending s amb c
  rw [h] at hend
  generalize (s.call amb c).2 = s' at hend ⊢
  cases hend with
  | failed store => exact store

/-- Whatever a call answers, it has committed a draft, or the store is the same. -/
theorem store_call (s : Service) (amb : Ambient) (c : Call) :
    (∃ a d, Commits s amb c a d ∧ (s.call amb c).2.store = d.committed) ∨ (s.call amb c).2.store = s.store := by
  have hend := call_ending s amb c
  generalize (s.call amb c).1 = r, (s.call amb c).2 = s' at hend ⊢
  cases hend with
  | committed commits _ store => exact .inl ⟨_, _, commits, store⟩
  | failed store | idle _ store | elsewhere _ store => exact .inr store

theorem committed_of_done (h : (s.call amb c).1 = .ok a) (hdone : a.isDone = true) (hs : ∀ t, a ≠ .started t)
    (ha : a ≠ .callback .applied) : ∃ d, Commits s amb c a d ∧ (s.call amb c).2.store = d.committed ∧
      (s.call amb c).2.transport = (d.outbox.flush Transport.publish s.transport).2 := by
  have hend := call_ending s amb c
  rw [h] at hend
  generalize (s.call amb c).2 = s' at hend ⊢
  cases hend with
  | committed commits _ store transport => exact ⟨_, commits, store, transport⟩
  | idle undone => simp [undone] at hdone
  | elsewhere transfer =>
    obtain ⟨t, rfl⟩ | rfl := transfer
    · exact absurd rfl (hs t)
    · exact absurd rfl ha

theorem call_cases (h : (s.call amb c).1 = .ok a) :
    (∃ d, Commits s amb c a d ∧ (s.call amb c).2.store = d.committed) ∨
      a.isSale = false ∧ (s.call amb c).2.store = s.store := by
  have hend := call_ending s amb c
  rw [h] at hend
  generalize (s.call amb c).2 = s' at hend ⊢
  cases hend with
  | committed commits _ store => exact .inl ⟨_, commits, store⟩
  | idle undone store => exact .inr ⟨Answer.isSale_of_not_isDone undone, store⟩
  | elsewhere transfer store =>
    obtain ⟨t, rfl⟩ | rfl := transfer
    · exact .inr ⟨rfl, store⟩
    · exact .inr ⟨rfl, store⟩

end Service

end CashShop
