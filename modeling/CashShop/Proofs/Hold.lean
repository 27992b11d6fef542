import CashShop.Proofs.History
import CashShop.Proofs.TransferCall

namespace CashShop

def Event.reading? : Event → Option Instant
  | .sweep now => some now
  | e => e.call?.map fun r => r.1.now

theorem Event.reading?_of_call? {e : Event} {amb : Ambient} {c : Call} (h : e.call? = some (amb, c)) :
    e.reading? = some amb.now := by
  cases e with
  | sweep => cases h
  | _ => simp [reading?, h]

def Correlation.matched? : Correlation → Option Reservation
  | matched r => some r
  | mismatched _ | missing => none

namespace Service

variable {s : Service} {e : Event} {amb : Ambient} {c : Call} {i : ItemId} {r : Reservation}

/-- The reservation that an event settles: the event is an answer of the other service, and matches it. -/
def settled? (s : Service) (e : Event) : Option (ItemId × Reservation) :=
  e.call?.bind fun (amb, c) => c.callback?.bind fun (i, t) =>
    (s.reservations.releaseMatching i t amb.now).1.matched?.map fun r => (i, r)

theorem settled?_eq_some_iff : s.settled? e = some (i, r) ↔ ∃ amb c t, e.call? = some (amb, c) ∧
    c.callback? = some (i, t) ∧ s.reservations.live? i amb.now = some r ∧
      Reservations.Reservation.answeredBy r t = true := by
  have hm (j : ItemId) (t : Option TransactionId) (now : Instant) :
      (s.reservations.releaseMatching j t now).1.matched? = some r ↔
        s.reservations.live? j now = some r ∧ Reservations.Reservation.answeredBy r t = true := by
    cases hl : s.reservations.live? j now with
    | none => simp [Reservations.releaseMatching_of_free hl, Correlation.matched?]
    | some r' =>
      cases ha : Reservations.Reservation.answeredBy r' t with
      | true =>
        simp only [Reservations.releaseMatching_of_answered hl ha, Correlation.matched?, Option.some.injEq]
        constructor
        · rintro rfl
          exact ⟨rfl, ha⟩
        · exact fun h => h.1
      | false =>
        simp only [Reservations.releaseMatching_of_opposed hl ha, Correlation.matched?, reduceCtorEq, Option.some.injEq,
          false_iff, not_and]
        rintro rfl
        simp [ha]
  simp only [settled?, Option.bind_eq_some_iff, Option.map_eq_some_iff, Prod.mk.injEq]
  constructor
  · rintro ⟨⟨amb, c⟩, hc, ⟨j, t⟩, hb, r', hr, rfl, rfl⟩
    exact ⟨amb, c, t, hc, hb, (hm _ _ _).1 hr⟩
  · rintro ⟨amb, c, t, hc, hb, hr⟩
    exact ⟨(amb, c), hc, (i, t), hb, r, (hm _ _ _).2 hr, rfl, rfl⟩

theorem reservations_run {α : Type} (s : Service) (work : Work α) (k : α → Bool) :
    (s.run work k).2.reservations = s.reservations := by
  rw [run]
  split <;> rfl

theorem reservations_perform {α : Type} (s : Service) (prepared : Except WorkflowError (Work α)) (k : α → Bool) :
    (s.perform prepared k).2.reservations = s.reservations := by
  cases prepared with
  | ok work => exact reservations_run s work k
  | error e => rfl

inductive Claims (s : Service) (amb : Ambient) : Call → Reservations → Prop where
  | untouched (c : Call) : Claims s amb c s.reservations
  | asked (h : Handoff) : Claims s amb (.release h) (s.reservations.isReserved h.item amb.now).2
  | taken {b : CharacterId} {o : MoveOrder} {i : ItemId} (free : s.reservations.live? i amb.now = none)
      (started : (s.call amb (.move b o)).1 = .ok (.started ⟨i, amb.transaction⟩)) :
      Claims s amb (.move b o) (s.reservations.enter i b (some amb.transaction) amb.now)
  | returned {b : CharacterId} {o : MoveOrder} {i : ItemId} (free : s.reservations.live? i amb.now = none) :
      Claims s amb (.move b o) ((s.reservations.enter i b (some amb.transaction) amb.now).release i)
  | answered {c : Call} {i : ItemId} {t : Option TransactionId} (callback : c.callback? = some (i, t)) :
      Claims s amb c (s.reservations.releaseMatching i t amb.now).2

theorem claims_of_eq {rs : Reservations} (h : rs = s.reservations) : Claims s amb c rs := h ▸ .untouched c

theorem claims_move (s : Service) (amb : Ambient) (b : CharacterId) (o : MoveOrder) :
    Claims s amb (.move b o) (s.call amb (.move b o)).2.reservations := by
  cases hl : Transfer.locate s b o with
  | error e =>
    rw [call_move_of_not_located hl]
    exact .untouched _
  | ok found =>
    obtain ⟨tab, i⟩ := found
    cases hr : s.reservations.live? i amb.now with
    | some r =>
      rw [call_move_of_live hl hr]
      exact .untouched _
    | none =>
      cases ht : s.transport.refuses .characterCommand with
      | true =>
        rw [call_move_of_refused hl hr ht]
        exact .returned hr
      | false =>
        have hs := call_move_of_sent hl hr ht
        have hc : Claims s amb (.move b o) (s.reservations.enter i b (some amb.transaction) amb.now) :=
          .taken hr (by rw [hs])
        rw [hs]
        exact hc

theorem reservations_moved (s : Service) (amb : Ambient) (m : MoveCompletion) :
    (s.call amb (.moved m)).2.reservations =
      (s.reservations.releaseMatching m.moved.item m.moved.transaction amb.now).2 := by
  by_cases ho : s.reservations.Opposes m.moved.item m.moved.transaction amb.now
  · rw [call_moved_of_opposes ho]
    obtain ⟨r, hl, ha⟩ := ho
    rw [Reservations.releaseMatching_of_opposed hl ha]
    rfl
  · have hrel : (s.reservations.releaseMatching m.moved.item m.moved.transaction amb.now).2 =
        s.reservations.release m.moved.item := by
      obtain ⟨r, -, hr⟩ | ⟨-, hr⟩ := Reservations.releaseMatching_of_not_opposes ho <;> rw [hr]
    rw [hrel]
    by_cases hp : s.store.tables.Places m.moved.item
    · by_cases hf : .commit ∈ s.store.faults
      · rw [call_moved_of_commit_fault ho hp hf]
        rfl
      · rw [call_moved_of_placed ho hp hf]
        rfl
    · rw [call_moved_of_unplaced ho hp]
      rfl

theorem reservations_moveFailed (s : Service) (amb : Ambient) (b : CharacterId) (i : ItemId)
    (t : Option TransactionId) :
    (s.call amb (.moveFailed b i t)).2.reservations = (s.reservations.releaseMatching i t amb.now).2 := by
  cases hl : s.reservations.live? i amb.now with
  | some r =>
    cases ha : Reservations.Reservation.answeredBy r t with
    | true =>
      rw [call_moveFailed_of_answered hl ha, Reservations.releaseMatching_of_answered hl ha]
      rfl
    | false =>
      rw [call_moveFailed_of_opposes ⟨r, hl, ha⟩, Reservations.releaseMatching_of_opposed hl ha]
      rfl
  | none =>
    rw [Reservations.releaseMatching_of_free hl]
    by_cases hf : .readItem ∈ s.store.faults
    · rw [call_moveFailed_of_unreadable hl hf]
    · cases hi : s.store.tables.items.get? i with
      | none =>
        rw [call_moveFailed_of_unknown hl hf hi]
        rfl
      | some x =>
        rw [call_moveFailed_of_known hl hf hi]
        rfl

theorem reservations_callback {t : Option TransactionId} (h : c.callback? = some (i, t)) (amb : Ambient) :
    (s.call amb c).2.reservations = (s.reservations.releaseMatching i t amb.now).2 := by
  cases c with
  | moved m =>
    cases h
    exact reservations_moved s amb m
  | moveFailed b j v =>
    cases h
    exact reservations_moveFailed s amb b i t
  | _ => cases h

theorem reservations_widen (s : Service) (b : CharacterId) (code : UInt32)
    (offer : Except WorkflowError Widening.Offer) : (s.widen b code offer).2.reservations = s.reservations := by
  rw [widen]
  generalize hx : s.perform _ _ = x
  have hr : x.2.reservations = s.reservations := hx ▸ reservations_perform _ _ _
  obtain ⟨x, s'⟩ := x
  cases x <;> exact hr

/-- Only a release, the start of a transfer and the answers to one have to do with reservations. -/
theorem claims_call (s : Service) (amb : Ambient) (c : Call) : Claims s amb c (s.call amb c).2.reservations := by
  cases c with
  | accountCreated | accountDeleted | grant | accept =>
    refine claims_of_eq ?_
    simp only [call, accountCreated, accountDeleted, grant, accept]
    generalize hx : s.run _ _ = x
    have hr : x.2.reservations = s.reservations := hx ▸ reservations_run _ _ _
    obtain ⟨x, s'⟩ := x
    cases x <;> exact hr
  | purchase b o =>
    refine claims_of_eq ?_
    rw [call, purchase]
    generalize hx : s.perform _ _ = x
    have hr : x.2.reservations = s.reservations := hx ▸ reservations_perform _ _ _
    obtain ⟨x, s'⟩ := x
    cases x with
    | error e => exact hr
    | ok outcome => cases outcome <;> exact hr
  | increaseByType b currency tab => exact claims_of_eq (s.reservations_widen b currency (Widening.Offer.ofTab tab))
  | increaseByItem b currency n => exact claims_of_eq (s.reservations_widen b currency (Widening.Offer.ofCoupon s n))
  | release h =>
    have hc : Claims s amb (.release h) (s.reservations.isReserved h.item amb.now).2 := .asked h
    rw [call, release]
    generalize s.reservations.isReserved h.item amb.now = asked at hc ⊢
    obtain ⟨reserved, reservations⟩ := asked
    dsimp only at hc ⊢
    generalize hx : perform _ _ _ = x
    have hr : x.2.reservations = reservations := hx ▸ reservations_perform _ _ _
    obtain ⟨x, s'⟩ := x
    rw [← hr] at hc
    cases x <;> exact hc
  | move b o => exact claims_move s amb b o
  | moved m =>
    rw [reservations_moved]
    exact .answered rfl
  | moveFailed b i t =>
    rw [reservations_moveFailed]
    exact .answered rfl

theorem Claims.ttl {rs : Reservations} (h : Claims s amb c rs) : rs.ttl = s.reservations.ttl := by
  cases h with
  | untouched | taken | returned => rfl
  | asked => exact Reservations.ttl_isReserved _ _ _
  | answered => exact Reservations.ttl_releaseMatching _ _ _ _

theorem Claims.get? {rs : Reservations} (h : Claims s amb c rs) (hi : s.reservations.entries.get? i = some r) :
    rs.entries.get? i = some r ∨ r.expiresAt ≤ amb.now ∨ ∃ t, c.callback? = some (i, t) ∧
      s.reservations.live? i amb.now = some r ∧ Reservations.Reservation.answeredBy r t = true := by
  cases h with
  | untouched => exact .inl hi
  | asked h =>
    obtain hk | hk := Reservations.get?_isReserved h.item amb.now hi
    · exact .inl hk
    · exact .inr (.inl hk)
  | taken free =>
    rw [Reservations.get?_enter]
    split
    · rename_i he
      exact .inr (.inl (Reservations.expired_of_free free hi he))
    · exact .inl hi
  | returned free =>
    rw [Reservations.get?_release, Reservations.get?_enter]
    split
    · rename_i he
      exact .inr (.inl (Reservations.expired_of_free free hi he))
    · exact .inl hi
  | @answered c j t callback =>
    obtain hk | hk | ⟨rfl, hl, ha⟩ := Reservations.get?_releaseMatching j t amb.now hi
    · exact .inl hk
    · exact .inr (.inl hk)
    · exact .inr (.inr ⟨t, callback, hl, ha⟩)

theorem reservations_step_of_no_call (hc : e.call? = none) : (s.step e).reservations = s.reservations ∨
    ∃ now, e = .sweep now ∧ (s.step e).reservations = (s.reservations.sweep now).2 := by
  cases e with
  | call => cases hc
  | message amb t m =>
    have hm : m.call? t = none := by simpa [Event.call?] using hc
    rw [step, dispatch_snd, hm]
    exact .inl rfl
  | fund w =>
    rw [step]
    split <;> exact .inl rfl
  | sweep now => exact .inr ⟨now, rfl, rfl⟩
  | faults | transport | lookups => exact .inl rfl

theorem ttl_step (s : Service) (e : Event) : (s.step e).reservations.ttl = s.reservations.ttl := by
  cases hc : e.call? with
  | some x =>
    obtain ⟨amb, c⟩ := x
    rw [step_of_call? hc]
    exact (claims_call s amb c).ttl
  | none =>
    obtain hs | ⟨now, -, hs⟩ := s.reservations_step_of_no_call hc
    · rw [hs]
    · rw [hs]
      rfl

theorem ttl_after (s : Service) (h : List Event) : (s.after h).reservations.ttl = s.reservations.ttl := by
  induction h generalizing s with
  | nil => rfl
  | cons e h ih => rw [after_cons, ih, ttl_step]

/-- A reservation outlasts every event that comes before its expiry and does not settle it. -/
theorem held_step (hi : s.reservations.entries.get? i = some r) :
    (s.step e).reservations.entries.get? i = some r ∨ (∃ now, e.reading? = some now ∧ r.expiresAt ≤ now) ∨
      s.settled? e = some (i, r) := by
  cases hc : e.call? with
  | some x =>
    obtain ⟨amb, c⟩ := x
    rw [step_of_call? hc]
    obtain hk | hk | ⟨t, hb, hl, ha⟩ := (claims_call s amb c).get? hi
    · exact .inl hk
    · exact .inr (.inl ⟨amb.now, Event.reading?_of_call? hc, hk⟩)
    · exact .inr (.inr (settled?_eq_some_iff.2 ⟨amb, c, t, hc, hb, hl, ha⟩))
  | none =>
    obtain hs | ⟨now, rfl, hs⟩ := s.reservations_step_of_no_call hc
    · exact .inl (by rwa [hs])
    · rw [hs, Reservations.get?_sweep, hi]
      by_cases hlive : now < r.expiresAt
      · exact .inl (by simp [Reservation.isLive, hlive])
      · exact .inr (.inl ⟨now, rfl, Int.not_lt.1 hlive⟩)

theorem held_after {h : List Event} (hi : s.reservations.entries.get? i = some r) :
    (s.after h).reservations.entries.get? i = some r ∨
      ∃ pre e post, h = pre ++ e :: post ∧ ((∃ now, e.reading? = some now ∧ r.expiresAt ≤ now) ∨
        (s.after pre).settled? e = some (i, r)) := by
  induction h generalizing s with
  | nil => exact .inl hi
  | cons e h ih =>
    obtain hk | hk := held_step hi (e := e)
    · obtain hk | ⟨pre, x, post, rfl, hx⟩ := ih hk
      · exact .inl hk
      · exact .inr ⟨e :: pre, x, post, rfl, hx⟩
    · exact .inr ⟨[], e, h, rfl, hk⟩

end Service

end CashShop
