import CashShop.Proofs.Refusal

namespace CashShop

open Work

/-- The work that a call has prepared, on a service that may have dropped a reservation meanwhile. -/
structure Plan where
  base : Service
  work : Except WorkflowError (Work Answer)

namespace Call

def plan? (s : Service) (amb : Ambient) : Call → Option Plan
  | .accountCreated a =>
    some ⟨s, .ok (.setup <$> AccountSetup.work a s.settings.compartmentCapacity amb.compartment)⟩
  | .accountDeleted a => some ⟨s, .ok ((fun _ => .deleted) <$> a.deleteHoldings)⟩
  | .purchase b o => some ⟨s, (Purchase.Terms.resolve s b o).map fun t =>
    .purchase <$> Purchase.work amb s.settings.itemExpirationDays b o.idempotencyKey t⟩
  | .increaseByType b currency tab =>
    some ⟨s, (Widening.prepare s b currency (Widening.Offer.ofTab tab)).map (.widened <$> ·)⟩
  | .increaseByItem b currency n =>
    some ⟨s, (Widening.prepare s b currency (Widening.Offer.ofCoupon s n)).map (.widened <$> ·)⟩
  | .grant g =>
    some ⟨s, .ok (.granted <$> Registry.create (g.spec s.settings.itemExpirationDays) amb.now amb.cashIds)⟩
  | .accept h => some ⟨s, .ok (.accepted <$> h.acceptWork amb)⟩
  | .release h => some ⟨{ s with reservations := (s.reservations.isReserved h.item amb.now).2 },
    if (s.reservations.isReserved h.item amb.now).1 then .error (.itemAlreadyReserved h.item)
    else .ok (.released <$> h.releaseWork)⟩
  | .moved m => match s.reservations.releaseMatching m.moved.item m.moved.transaction amb.now with
    | (.mismatched _, _) => none
    | (_, reservations) => some ⟨{ s with reservations }, .ok (.callback <$> Transfer.complete m)⟩
  | .move _ _ | .moveFailed _ _ _ => none

def conclude : Call → Except WorkflowError Answer → Service → Service
  | .accountCreated _, .error _, s | .accountDeleted _, .error _, s | .grant _, .error _, s => s.count .workflowErrors
  | .grant _, .ok _, s => s.count .itemsGranted
  | .purchase _ _, .ok (.purchase (.completed _)), s => s.count .purchases
  | .purchase b _, .ok (.purchase .inventoryFull), s =>
    (s.count .purchaseRejections).answerError b .inventoryFull
  | .purchase _ _, .ok (.purchase .duplicate), s => s.count .duplicateCommands
  | .increaseByType _ _ _, .ok _, s | .increaseByItem _ _ _, .ok _, s => s.count .capacityIncreases
  | .moved _, .ok (.callback .applied), s => s.count .transfersCompleted
  | .moved _, .ok (.callback .dropped), s => s.count .callbacksDropped
  | .purchase b _, .error e, s | .increaseByType b _ _, .error e, s | .increaseByItem b _ _, .error e, s
  | .moved ⟨b, _, _⟩, .error e, s => s.reportFailure b e
  | .accept h, .error e, s => s.answerHandoffError h (Handoff.acceptCode e)
  | .release h, .error e, s => s.answerHandoffError h e.code
  | _, _, s => s

theorem store_conclude (c : Call) (r : Except WorkflowError Answer) (s : Service) :
    (c.conclude r s).store = s.store := by
  unfold conclude
  split <;> rfl

end Call

namespace Service

variable {α : Type} {s : Service} {amb : Ambient} {c : Call} {p : Plan}

theorem run_map {work : Work α} {f : α → Answer} {k : α → Bool} (hk : ∀ a, (f a).isDone = k a) :
    s.run (f <$> work) (·.isDone) = answered f (s.run work k) := by
  have hexec : (f <$> work) (Draft.begin s.store) = match work (Draft.begin s.store) with
      | (.ok a, d) => (.ok (f a), d)
      | (.error e, d) => (.error e, d) := by
    change exec (f <$> work) (Draft.begin s.store) = _
    rw [map_eq_pure_bind, exec_bind]
    rfl
  rw [run, run, Store.transact, Store.transact, hexec]
  rcases work (Draft.begin s.store) with ⟨r, d⟩
  cases r with
  | error e => rfl
  | ok a =>
    cases hka : k a with
    | false => simp [hk, hka, answered, Except.map]
    | true => cases hc : d.commit <;> simp [hk, hka, hc, answered, Except.map]

theorem perform_map {prepared : Except WorkflowError (Work α)} {f : α → Answer} {k : α → Bool}
    (hk : ∀ a, (f a).isDone = k a) :
    s.perform (prepared.map (f <$> ·)) (·.isDone) = answered f (s.perform prepared k) := by
  cases prepared with
  | error e => rfl
  | ok work => exact run_map hk

def carryOut (c : Call) (p : Plan) : Except WorkflowError Answer × Service :=
  ((p.base.perform p.work (·.isDone)).1,
    c.conclude (p.base.perform p.work (·.isDone)).1 (p.base.perform p.work (·.isDone)).2)

theorem widen_eq {b : CharacterId} {code : UInt32} {offer : Except WorkflowError Widening.Offer}
    (hok : ∀ r s', c.conclude (.ok (.widened r)) s' = s'.count .capacityIncreases)
    (herror : ∀ e s', c.conclude (.error e) s' = s'.reportFailure b e) :
    answered .widened (s.widen b code offer) =
      carryOut c ⟨s, (Widening.prepare s b code offer).map (.widened <$> ·)⟩ := by
  rw [carryOut, perform_map (k := fun _ => true) fun _ => rfl, widen]
  rcases s.perform (Widening.prepare s b code offer) _ with ⟨r, s'⟩
  cases r with
  | error e => exact congrArg _ (herror e s').symm
  | ok r => exact congrArg _ (hok r s').symm

theorem call_of_plan (h : c.plan? s amb = some p) : s.call amb c = carryOut c p := by
  cases c with
  | accountCreated a =>
    cases h
    rw [carryOut, perform, run_map (k := (· = .created)) (by intro r; cases r <;> rfl), call, accountCreated]
    rcases s.run _ _ with ⟨r, s'⟩
    cases r <;> rfl
  | accountDeleted a =>
    cases h
    rw [carryOut, perform, run_map (k := fun _ => true) fun _ => rfl, call, accountDeleted]
    rcases s.run _ _ with ⟨r, s'⟩
    cases r <;> rfl
  | purchase b o =>
    cases h
    have hmap : ((Purchase.Terms.resolve s b o).map fun t =>
        Answer.purchase <$> Purchase.work amb s.settings.itemExpirationDays b o.idempotencyKey t) =
        ((Purchase.Terms.resolve s b o).map
          (Purchase.work amb s.settings.itemExpirationDays b o.idempotencyKey)).map (.purchase <$> ·) := by
      cases Purchase.Terms.resolve s b o <;> rfl
    rw [carryOut, hmap, perform_map (k := (·.isCompleted)) (by intro r; cases r <;> rfl), call, purchase]
    dsimp only
    rcases s.perform _ _ with ⟨r, s'⟩
    cases r with
    | error e => rfl
    | ok r => cases r <;> rfl
  | increaseByType b currency tab =>
    cases h
    exact widen_eq (fun _ _ => rfl) fun _ _ => rfl
  | increaseByItem b currency n =>
    cases h
    exact widen_eq (fun _ _ => rfl) fun _ _ => rfl
  | grant g =>
    cases h
    rw [carryOut, perform, run_map (k := fun _ => true) fun _ => rfl, call, grant]
    rcases s.run _ _ with ⟨r, s'⟩
    cases r <;> rfl
  | accept g =>
    cases h
    rw [carryOut, perform, run_map (k := fun _ => true) fun _ => rfl, call, accept]
    rcases s.run _ _ with ⟨r, s'⟩
    cases r <;> rfl
  | release g =>
    cases h
    have hmap : (if (s.reservations.isReserved g.item amb.now).1 then .error (.itemAlreadyReserved g.item)
        else .ok (.released <$> g.releaseWork) : Except WorkflowError (Work Answer)) =
        (if (s.reservations.isReserved g.item amb.now).1 then .error (.itemAlreadyReserved g.item)
          else .ok g.releaseWork : Except WorkflowError (Work Asset)).map (.released <$> ·) := by
      split <;> rfl
    rw [carryOut, hmap, perform_map (k := fun _ => true) fun _ => rfl, call, release]
    dsimp only
    rcases perform _ _ _ with ⟨r, s'⟩
    cases r <;> rfl
  | moved m =>
    rw [call, moved]
    simp only [Call.plan?] at h
    generalize s.reservations.releaseMatching m.moved.item m.moved.transaction amb.now = found at h ⊢
    obtain ⟨correlation, reservations⟩ := found
    cases correlation with
    | mismatched r => cases h
    | matched | missing =>
      cases h
      rw [carryOut, perform, run_map (k := (· = .applied)) (by intro r; cases r <;> rfl)]
      dsimp only
      rcases run _ _ _ with ⟨r, s'⟩
      cases r with
      | error e => rfl
      | ok r => cases r <;> rfl
  | move | moveFailed => cases h

theorem frame_plan (h : c.plan? s amb = some p) :
    p.base.store = s.store ∧ p.base.transport = s.transport := by
  cases c with
  | moved m =>
    simp only [Call.plan?] at h
    generalize s.reservations.releaseMatching m.moved.item m.moved.transaction amb.now = found at h
    obtain ⟨correlation, reservations⟩ := found
    cases correlation with
    | mismatched r => cases h
    | matched | missing =>
      cases h
      exact ⟨rfl, rfl⟩
  | move | moveFailed => cases h
  | _ =>
    cases h
    exact ⟨rfl, rfl⟩

theorem store_call_of_no_plan (h : c.plan? s amb = none) : (s.call amb c).2.store = s.store := by
  obtain ⟨a, d, commits, store⟩ | store := s.store_call amb c
  · cases commits with
    | @moved m placed =>
      rw [call, moved]
      simp only [Call.plan?] at h
      generalize s.reservations.releaseMatching m.moved.item m.moved.transaction amb.now = found at h ⊢
      obtain ⟨correlation, reservations⟩ := found
      cases correlation with
      | mismatched r => rfl
      | matched | missing => cases h
    | widening asked =>
      cases c with
      | increaseByType | increaseByItem => cases h
      | _ => cases asked
    | _ => cases h
  · exact store

/-- A call that fails has done nothing, and is concluded. -/
theorem call_of_error {e : WorkflowError} (hp : c.plan? s amb = some p) (he : (s.call amb c).1 = .error e) :
    (s.call amb c).2 = c.conclude (.error e) p.base ∧ s.store.Fails p.work e := by
  rw [call_of_plan hp] at he ⊢
  obtain ⟨hr, hfails⟩ := perform_of_error he
  rw [carryOut, hr]
  exact ⟨rfl, (frame_plan hp).1 ▸ hfails⟩

theorem call_of_refused {work : Work Answer} {e : WorkflowError} (hp : c.plan? s amb = some p) (hw : p.work = .ok work)
    (h : Refuses work (Draft.begin s.store) e) : (s.call amb c).1 = .error e := by
  have hrun := run_of_refused (s := p.base) (k := (·.isDone)) ((frame_plan hp).1 ▸ h)
  rw [call_of_plan hp, carryOut, hw, perform, hrun]

theorem call_of_not_done {a : Answer} (hp : c.plan? s amb = some p) (ha : (s.call amb c).1 = .ok a)
    (hd : a.isDone = false) : (s.call amb c).2 = c.conclude (.ok a) p.base ∧
      ∃ work d, p.work = .ok work ∧ Yields work (Draft.begin s.store) a d := by
  rw [call_of_plan hp] at ha ⊢
  obtain ⟨hr, work, d, hw, hy⟩ := perform_of_not_kept ha hd
  rw [carryOut, hr]
  exact ⟨rfl, work, d, hw, (frame_plan hp).1 ▸ hy⟩

end Service

end CashShop
