import CashShop.Proofs.Delivery
import CashShop.Proofs.Hold

namespace CashShop

def Chronological (h : List Event) : Prop := (h.filterMap Event.reading?).Pairwise (· ≤ ·)

instance (h : List Event) : Decidable (Chronological h) :=
  inferInstanceAs (Decidable ((h.filterMap Event.reading?).Pairwise (· ≤ ·)))

theorem Chronological.le {h k : List Event} {e e' : Event} {now now' : Instant}
    (hch : Chronological (h ++ e' :: k)) (he : e ∈ h) (hn : e.reading? = some now) (hn' : e'.reading? = some now') :
    now ≤ now' := by
  rw [Chronological, List.filterMap_append, List.pairwise_append] at hch
  exact hch.2.2 now (List.mem_filterMap.2 ⟨e, he, hn⟩) now' (by simp [hn'])

theorem Chronological.append_right {h k : List Event} (hch : Chronological (h ++ k)) : Chronological k := by
  rw [Chronological, List.filterMap_append, List.pairwise_append] at hch
  exact hch.2.1

namespace Service

variable {s : Service} {e e' : Event} {amb : Ambient} {c : Call} {i : ItemId} {t t' : TransactionId} {r : Reservation}
  {h mid pre pre' : List Event} {now : Instant}

/-- A command to move an item goes out when nothing live is reserved, and together with a reservation for its
transaction. -/
theorem reserved_of_orders (h : s.Orders e i t) : ∃ b now, e.reading? = some now ∧
    s.reservations.live? i now = none ∧
      (s.step e).reservations.entries.get? i = some ⟨b, some t, now + s.reservations.ttl⟩ := by
  obtain ⟨amb, b, o, hc, hs⟩ := orders_iff.1 h
  obtain ⟨rfl, ⟨tab, hl⟩, hr, ht⟩ := started_iff.1 hs
  refine ⟨b, amb.now, Event.reading?_of_call? hc, hr, ?_⟩
  rw [step_of_call? hc, call_move_of_sent hl hr ht]
  change (s.reservations.enter i b (some amb.transaction) amb.now).entries.get? i = _
  simp

/-- The event is an answer that carries the transaction of the live reservation or none. It is matched with the
reservation, and releases it. -/
def Releases (s : Service) (e : Event) (i : ItemId) (r : Reservation) : Prop :=
  ∃ amb c u, e.call? = some (amb, c) ∧ c.callback? = some (i, u) ∧ (u = none ∨ u = r.transaction) ∧
    (s.reservations.releaseMatching i u amb.now).1 = .matched r ∧ (s.step e).reservations.entries.get? i = none

theorem releases_of_settled (h : s.settled? e = some (i, r)) (hr : r.transaction = some t) : s.Releases e i r := by
  obtain ⟨amb, c, u, hc, hb, hl, ha⟩ := settled?_eq_some_iff.1 h
  have hm := Reservations.releaseMatching_of_answered hl ha
  refine ⟨amb, c, u, hc, hb, ?_, by rw [hm], ?_⟩
  · rw [hr]
    exact (Reservations.answeredBy_iff hr).1 ha
  · rw [step_of_call? hc, reservations_callback hb, hm]
    simp

/-- Between two orders for one item the reservation of the first one has ended. -/
theorem ended_between {post : List Event} (hch : Chronological (e :: (mid ++ e' :: post))) (h1 : s.Orders e i t)
    (h2 : (s.after (e :: mid)).Orders e' i t') :
    ∃ b now now', e.reading? = some now ∧ e'.reading? = some now' ∧
      (s.step e).reservations.entries.get? i = some ⟨b, some t, now + s.reservations.ttl⟩ ∧
      (now + s.reservations.ttl ≤ now' ∨ ∃ earlier x later, mid = earlier ++ x :: later ∧
        (s.after (e :: earlier)).Releases x i ⟨b, some t, now + s.reservations.ttl⟩) := by
  obtain ⟨b, now, hn, -, hres⟩ := reserved_of_orders h1
  obtain ⟨-, now', hn', hfree, -⟩ := reserved_of_orders h2
  refine ⟨b, now, now', hn, hn', hres, ?_⟩
  obtain hheld | ⟨earlier, x, later, rfl, ⟨n, hx, hexp⟩ | hset⟩ := held_after hres (h := mid)
  · exact .inl (Reservations.live?_eq_none_iff.1 hfree _ hheld)
  · have hle : n ≤ now' := Chronological.le (h := e :: (earlier ++ x :: later)) hch (by simp) hx hn'
    exact .inl (Int.le_trans hexp hle)
  · exact .inr ⟨earlier, x, later, rfl, releases_of_settled hset rfl⟩

/-- The history `h` has started a transfer of the item right after `pre`, and by the time `now` its reservation has
neither expired nor been released on an answer. -/
def InFlight (s : Service) (h : List Event) (now : Instant) (pre : List Event) (i : ItemId) (t : TransactionId) : Prop :=
  ∃ e mid r, h = pre ++ e :: mid ∧ (s.after pre).Orders e i t ∧
    (s.after (pre ++ [e])).reservations.entries.get? i = some r ∧ now < r.expiresAt ∧
    ∀ earlier x later, mid = earlier ++ x :: later → ¬ (s.after (pre ++ e :: earlier)).Releases x i r

theorem InFlight.live (hf : s.InFlight h now pre i t) (hnow : ∀ n ∈ h.filterMap Event.reading?, n ≤ now) :
    ∃ r, r.transaction = some t ∧ (s.after h).reservations.live? i now = some r := by
  obtain ⟨e, mid, r, rfl, ho, hr, hlt, hno⟩ := hf
  obtain ⟨b, n, -, -, hr'⟩ := reserved_of_orders ho
  rw [← after_concat, hr] at hr'
  obtain rfl := Option.some.inj hr'
  refine ⟨_, rfl, Reservations.live?_eq_some_iff.2 ⟨?_, hlt⟩⟩
  have happ : pre ++ e :: mid = pre ++ [e] ++ mid := by simp
  rw [happ, after_append]
  obtain hheld | ⟨earlier, x, later, rfl, ⟨n', hx, hexp⟩ | hset⟩ := held_after hr (h := mid)
  · exact hheld
  · have hle := hnow n' (List.mem_filterMap.2 ⟨x, by simp, hx⟩)
    exact absurd (Int.lt_of_lt_of_le hlt hexp) (Int.not_lt.2 hle)
  · rw [← after_append, List.append_assoc] at hset
    exact absurd (releases_of_settled hset rfl) (hno earlier x later rfl)

theorem InFlight.not_ordered {post : List Event} (hf : s.InFlight h now pre i t) (hch : Chronological h)
    (hnow : ∀ n ∈ h.filterMap Event.reading?, n ≤ now) (hh : h = pre' ++ e' :: post)
    (hlt : pre.length < pre'.length) : ¬ (s.after pre').Orders e' i t' := by
  intro ho'
  obtain ⟨e, mid, r, rfl, ho, hr, hlive, hno⟩ := hf
  obtain ⟨between, rfl, rfl⟩ : ∃ between, pre' = pre ++ e :: between ∧ mid = between ++ e' :: post := by
    obtain ⟨as, rfl, has⟩ | ⟨bs, rfl, -⟩ := List.append_eq_append_iff.1 hh
    · cases as with
      | nil => simp at hlt
      | cons a as =>
        obtain ⟨rfl, rfl⟩ := List.cons.inj has
        exact ⟨as, rfl, rfl⟩
    · rw [List.length_append] at hlt
      omega
  rw [after_append] at ho'
  obtain ⟨b, n, n', -, hn', hres, hend⟩ := ended_between hch.append_right ho ho'
  rw [after_concat, hres] at hr
  obtain rfl := Option.some.inj hr
  obtain hexp | ⟨earlier, x, later, rfl, hrel⟩ := hend
  · have hle := hnow n' (List.mem_filterMap.2 ⟨e', by simp, hn'⟩)
    exact absurd (Int.lt_of_lt_of_le hlive hexp) (Int.not_lt.2 hle)
  · rw [← after_append] at hrel
    exact hno earlier x (later ++ e' :: post) (by simp) hrel

theorem InFlight.unique (hf : s.InFlight h now pre i t) (hf' : s.InFlight h now pre' i t') (hch : Chronological h)
    (hnow : ∀ n ∈ h.filterMap Event.reading?, n ≤ now) : pre = pre' ∧ t = t' := by
  obtain ⟨e, mid, -, hh, ho, -⟩ := id hf
  obtain ⟨e', mid', -, hh', ho', -⟩ := id hf'
  have hlen : pre.length = pre'.length := by
    rcases Nat.lt_trichotomy pre.length pre'.length with hlt | he | hlt
    · exact absurd ho' (hf.not_ordered hch hnow hh' hlt)
    · exact he
    · exact absurd ho (hf'.not_ordered hch hnow hh hlt)
  obtain ⟨rfl, hee⟩ := List.append_inj (hh.symm.trans hh') hlen
  obtain ⟨rfl, -⟩ := List.cons.inj hee
  refine ⟨rfl, ?_⟩
  obtain ⟨amb, b, o, hc, hs⟩ := orders_iff.1 ho
  obtain ⟨amb', b', o', hc', hs'⟩ := orders_iff.1 ho'
  cases hc.symm.trans hc'
  cases hs.symm.trans hs'
  rfl

/-- Whatever happens, in whatever order, as long as the clock does not go back: when an item is ordered away twice, the
first order has gone out under a reservation for its transaction, and by the second one this reservation has expired or
an answer that carries its transaction or none has released it. Of one item there is never more than one transfer in
flight, and its reservation is the live one. -/
theorem mutual_exclusion (s : Service) {h : List Event} (hch : Chronological h) :
    (∀ pre e mid e' post i t t', h = pre ++ e :: (mid ++ e' :: post) → (s.after pre).Orders e i t →
      (s.after (pre ++ e :: mid)).Orders e' i t' →
      ∃ b now now', e.reading? = some now ∧ e'.reading? = some now' ∧
        (s.after (pre ++ [e])).reservations.entries.get? i = some ⟨b, some t, now + s.reservations.ttl⟩ ∧
        (now + s.reservations.ttl ≤ now' ∨ ∃ earlier x later, mid = earlier ++ x :: later ∧
          (s.after (pre ++ e :: earlier)).Releases x i ⟨b, some t, now + s.reservations.ttl⟩)) ∧
    ∀ now, (∀ n ∈ h.filterMap Event.reading?, n ≤ now) → ∀ i pre t, s.InFlight h now pre i t →
      (∃ r, r.transaction = some t ∧ (s.after h).reservations.live? i now = some r) ∧
        ∀ pre' t', s.InFlight h now pre' i t' → pre = pre' ∧ t = t' := by
  constructor
  · rintro pre e mid e' post i t t' rfl h1 h2
    rw [after_append] at h2
    have hend := ended_between hch.append_right h1 h2
    simp only [after_append, after_cons, after_nil, ttl_after] at hend ⊢
    exact hend
  · intro now hnow i pre t hf
    exact ⟨hf.live hnow, fun pre' t' hf' => hf.unique hf' hch hnow⟩

def secondAttempt : List Event := [
  .call .opening (.move ⟨7⟩ ⟨⟨1⟩, 1, 3⟩),
  .call { Ambient.opening with now := 10 } (.moveFailed ⟨7⟩ ⟨1⟩ (some ⟨.ofNat 1⟩)),
  .call { Ambient.opening with now := 20, transaction := ⟨.ofNat 2⟩ } (.move ⟨7⟩ ⟨⟨1⟩, 1, 3⟩)]

theorem mutual_exclusion_secondAttempt : Chronological secondAttempt ∧
    ∃ b, ∃ now now' : Instant, secondAttempt[0].reading? = some now ∧ secondAttempt[2].reading? = some now' ∧
      (now + 300000 ≤ now' ∨ ∃ earlier x later, [secondAttempt[1]] = earlier ++ x :: later ∧
        (sold.after (secondAttempt[0] :: earlier)).Releases x ⟨1⟩ ⟨b, some ⟨.ofNat 1⟩, now + 300000⟩) := by
  have hch : Chronological secondAttempt := by decide
  have h1 : sold.Orders secondAttempt[0] ⟨1⟩ ⟨.ofNat 1⟩ := orders_iff.2 ⟨.opening, ⟨7⟩, ⟨⟨1⟩, 1, 3⟩, rfl, rfl⟩
  have h2 : (sold.after [secondAttempt[0], secondAttempt[1]]).Orders secondAttempt[2] ⟨1⟩ ⟨.ofNat 2⟩ :=
    orders_iff.2 ⟨_, ⟨7⟩, ⟨⟨1⟩, 1, 3⟩, rfl, rfl⟩
  obtain ⟨b, now, now', hn, hn', -, hend⟩ := (mutual_exclusion sold hch).1 [] _ [secondAttempt[1]] _ [] _ _ _ rfl h1 h2
  exact ⟨hch, b, now, now', hn, hn', hend⟩

end Service

end CashShop
