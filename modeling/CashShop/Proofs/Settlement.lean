import CashShop.Proofs.AssetFlow
import CashShop.Proofs.Hold

namespace CashShop

namespace Reservations

variable {rs : Reservations} {i : ItemId} {r : Reservation} {b : CharacterId} {t u : TransactionId}

/-- How many reservations an answer of the transaction may settle. -/
def answerable (rs : Reservations) (t : TransactionId) : Nat :=
  rs.entries.values.countP (Reservation.answeredBy · (some t))

theorem answerable_release_le (rs : Reservations) (i : ItemId) (t : TransactionId) :
    (rs.release i).answerable t ≤ rs.answerable t := Table.countP_filter_le _ _ _

theorem answerable_release_lt (hi : rs.entries.get? i = some r) (ha : Reservation.answeredBy r (some t) = true) :
    (rs.release i).answerable t < rs.answerable t := Table.countP_erase_lt _ hi ha

theorem answerable_sweep_le (rs : Reservations) (now : Instant) (t : TransactionId) :
    (rs.sweep now).2.answerable t ≤ rs.answerable t := Table.countP_filter_le _ _ _

theorem answerable_enter_le (rs : Reservations) (i : ItemId) (b : CharacterId) (u t : TransactionId) (now : Instant) :
    (rs.enter i b (some u) now).answerable t ≤ rs.answerable t + (decide (u = t)).toNat :=
  Table.countP_insert_le _ _ _ _

theorem answerable_isReserved_le (rs : Reservations) (i : ItemId) (now : Instant) (t : TransactionId) :
    (rs.isReserved i now).2.answerable t ≤ rs.answerable t := by
  cases hl : rs.live? i now with
  | some r => simp [isReserved_of_live hl]
  | none =>
    rw [isReserved_of_free hl]
    exact rs.answerable_release_le i t

theorem answerable_release_enter_le (rs : Reservations) (i : ItemId) (b : CharacterId) (u t : TransactionId)
    (now : Instant) : ((rs.enter i b (some u) now).release i).answerable t ≤ rs.answerable t := by
  rw [enter_release]
  exact rs.answerable_release_le i t

end Reservations

namespace Service

variable {s : Service} {e : Event} {amb : Ambient} {c : Call} {a : Answer} {i : ItemId} {t : TransactionId}
  {u : Option TransactionId}

def settles (t : TransactionId) (s : Service) (e : Event) : Nat :=
  match s.settled? e with
  | some (_, r) => (Reservations.Reservation.answeredBy r (some t)).toNat
  | none => 0

def starts (t : TransactionId) : Service → Call → Answer → Bool
  | _, _, .started x => x.transaction = t
  | _, _, _ => false

def applies (t : TransactionId) : Service → Call → Answer → Bool
  | _, c, .callback .applied => c.callback?.any fun x => x.2 = some t
  | _, _, _ => false

/-- A transaction under which one transfer has been started has one answer applied to it at most. -/
def AppliesOnce (s : Service) (t : TransactionId) (h : List Event) : Prop :=
  s.tally (starts t) h ≤ 1 → s.tally (applies t) h ≤ 1

instance (s : Service) (t : TransactionId) (h : List Event) : Decidable (s.AppliesOnce t h) :=
  inferInstanceAs (Decidable (_ → _))

def repeatedRefusal : List Event := [
  .call .opening (.move ⟨7⟩ ⟨⟨1⟩, 1, 3⟩),
  .call .opening (.moveFailed ⟨7⟩ ⟨1⟩ (some ⟨.ofNat 1⟩)),
  .call .opening (.moveFailed ⟨7⟩ ⟨1⟩ (some ⟨.ofNat 1⟩))]

theorem not_appliesOnce_repeatedRefusal : ¬ sold.AppliesOnce ⟨.ofNat 1⟩ repeatedRefusal := by decide

theorem settles_of_no_callback (h : ∀ amb c, e.call? = some (amb, c) → c.callback? = none) : settles t s e = 0 := by
  have hn : s.settled? e = none := by
    cases hs : s.settled? e with
    | none => rfl
    | some x =>
      obtain ⟨amb, c, u, hc, hb, -⟩ := settled?_eq_some_iff.1 hs
      rw [h amb c hc] at hb
      cases hb
  rw [settles, hn]

theorem settles_of_callback (hc : e.call? = some (amb, c)) (hb : c.callback? = some (i, u)) :
    settles t s e = (s.reservations.releaseMatching i u amb.now).1.matched?.elim 0 fun r =>
      (Reservations.Reservation.answeredBy r (some t)).toNat := by
  simp only [settles, settled?, hc, hb, Option.bind_some]
  cases (s.reservations.releaseMatching i u amb.now).1.matched? <;> rfl

theorem answerable_callback (hc : e.call? = some (amb, c)) (hb : c.callback? = some (i, u)) :
    settles t s e + (s.call amb c).2.reservations.answerable t ≤ s.reservations.answerable t := by
  rw [settles_of_callback hc hb, reservations_callback hb]
  have hrelease := s.reservations.answerable_release_le i t
  cases hl : s.reservations.live? i amb.now with
  | none =>
    rw [Reservations.releaseMatching_of_free hl]
    simpa [Correlation.matched?] using hrelease
  | some r =>
    cases ha : Reservations.Reservation.answeredBy r u with
    | false =>
      rw [Reservations.releaseMatching_of_opposed hl ha]
      simp [Correlation.matched?]
    | true =>
      rw [Reservations.releaseMatching_of_answered hl ha]
      cases ht : Reservations.Reservation.answeredBy r (some t) with
      | false => simpa [Correlation.matched?, ht] using hrelease
      | true =>
        have hlt := Reservations.answerable_release_lt (Reservations.live?_eq_some_iff.1 hl).1 ht
        simp only [Correlation.matched?, Option.elim_some, ht, Bool.toNat_true]
        omega

theorem answerable_call (hc : e.call? = some (amb, c)) (hb : c.callback? = none) :
    (s.call amb c).2.reservations.answerable t ≤ ends (starts t) s e + s.reservations.answerable t := by
  have hclaims := claims_call s amb c
  generalize (s.call amb c).2.reservations = rs at hclaims ⊢
  cases hclaims with
  | untouched => exact Nat.le_add_left _ _
  | asked h => exact Nat.le_add_left_of_le (s.reservations.answerable_isReserved_le h.item amb.now t)
  | @taken b o i free started =>
    have hans : s.answer? e = some (.move b o, .started ⟨i, amb.transaction⟩) := answer?_eq_some_iff.2 ⟨amb, hc, started⟩
    have hle := s.reservations.answerable_enter_le i b amb.transaction t amb.now
    simp only [ends, hans, starts]
    omega
  | @returned b o i =>
    exact Nat.le_add_left_of_le (s.reservations.answerable_release_enter_le i b amb.transaction t amb.now)
  | answered callback =>
    rw [hb] at callback
    cases callback

/-- One event: a reservation that is settled has been entered by a transfer of the transaction. -/
theorem settlement_step (t : TransactionId) (s : Service) (e : Event) :
    settles t s e + (s.step e).reservations.answerable t ≤ ends (starts t) s e + s.reservations.answerable t := by
  cases hc : e.call? with
  | some x =>
    obtain ⟨amb, c⟩ := x
    rw [step_of_call? hc]
    cases hb : c.callback? with
    | some k => exact Nat.le_add_left_of_le (answerable_callback hc hb)
    | none =>
      have hno : settles t s e = 0 := by
        refine settles_of_no_callback ?_
        intro amb' c' hc'
        cases hc.symm.trans hc'
        exact hb
      rw [hno, Nat.zero_add]
      exact answerable_call hc hb
  | none =>
    have hno : settles t s e = 0 := by
      refine settles_of_no_callback ?_
      intro amb c hc'
      cases hc.symm.trans hc'
    rw [hno, Nat.zero_add]
    obtain hs | ⟨now, rfl, hs⟩ := s.reservations_step_of_no_call hc
    · rw [hs]
      exact Nat.le_add_left _ _
    · rw [hs]
      exact Nat.le_add_left_of_le (s.reservations.answerable_sweep_le now t)

/-- The answer is applied without settling a reservation: nothing live is reserved, and the item is placed for a
completion, and known for a refusal. -/
def CountsAnyway (s : Service) (amb : Ambient) (c : Call) (i : ItemId) : Prop :=
  s.reservations.live? i amb.now = none ∧ (∀ m, c = .moved m → s.store.tables.Places i) ∧
    ∀ b u, c = .moveFailed b i u → ∃ x, s.store.tables.items.get? i = some x

/-- The call is dropped: nothing is published, and the store stays as it is. -/
def Drops (s : Service) (amb : Ambient) (c : Call) : Prop :=
  (s.call amb c).1 = .ok (.callback .dropped) ∧ (s.call amb c).2.store = s.store ∧
    (s.call amb c).2.transport = s.transport

theorem drops_moved {m : MoveCompletion} (h : (s.call amb (.moved m)).1 = .ok a) (ha : a ≠ .callback .applied) :
    s.Drops amb (.moved m) := by
  by_cases ho : s.reservations.Opposes m.moved.item m.moved.transaction amb.now
  · rw [Drops, call_moved_of_opposes ho]
    exact ⟨rfl, rfl, rfl⟩
  · by_cases hp : s.store.tables.Places m.moved.item
    · by_cases hf : .commit ∈ s.store.faults
      · rw [call_moved_of_commit_fault ho hp hf] at h
        cases h
      · rw [moved_applied_iff.2 ⟨ho, hp, hf⟩] at h
        exact absurd (Except.ok.inj h).symm ha
    · rw [Drops, call_moved_of_unplaced ho hp]
      exact ⟨rfl, rfl, rfl⟩

theorem drops_moveFailed {b : CharacterId} (h : (s.call amb (.moveFailed b i u)).1 = .ok a)
    (ha : a ≠ .callback .applied) : s.Drops amb (.moveFailed b i u) := by
  have hno : (s.call amb (.moveFailed b i u)).1 ≠ .ok (.callback .applied) := by
    intro he
    rw [he] at h
    exact ha (Except.ok.inj h).symm
  rw [Ne, moveFailed_applied_iff, not_or] at hno
  cases hl : s.reservations.live? i amb.now with
  | some r =>
    have hn : Reservations.Reservation.answeredBy r u = false := by
      simpa [hl] using hno.1
    rw [Drops, call_moveFailed_of_opposes ⟨r, hl, hn⟩]
    exact ⟨rfl, rfl, rfl⟩
  | none =>
    by_cases hf : .readItem ∈ s.store.faults
    · rw [call_moveFailed_of_unreadable hl hf] at h
      cases h
    · cases hi : s.store.tables.items.get? i with
      | some x => exact absurd ⟨hl, hf, x, hi⟩ hno.2
      | none =>
        rw [Drops, call_moveFailed_of_unknown hl hf hi]
        exact ⟨rfl, rfl, rfl⟩

theorem drops_callback (hb : c.callback? = some (i, u)) (h : (s.call amb c).1 = .ok a)
    (ha : a ≠ .callback .applied) : s.Drops amb c := by
  cases c with
  | moved m => exact drops_moved h ha
  | moveFailed b j v => exact drops_moveFailed h ha
  | _ => cases hb

theorem callback_cases (hc : e.call? = some (amb, c)) (hb : c.callback? = some (i, u)) (h : (s.call amb c).1 = .ok a) :
    s.Drops amb c ∨ a = .callback .applied ∧ ((∃ r, s.settled? e = some (i, r)) ∨ s.CountsAnyway amb c i) := by
  by_cases ha : a = .callback .applied
  · subst ha
    refine .inr ⟨rfl, ?_⟩
    cases hl : s.reservations.live? i amb.now with
    | some r =>
      cases hm : Reservations.Reservation.answeredBy r u with
      | true => exact .inl ⟨r, settled?_eq_some_iff.2 ⟨amb, c, u, hc, hb, hl, hm⟩⟩
      | false =>
        rw [call_callback_of_opposes hb ⟨r, hl, hm⟩] at h
        cases h
    | none =>
      refine .inr ⟨hl, ?_, ?_⟩
      · rintro m rfl
        cases hb
        exact (moved_applied_iff.1 h).2.1
      · rintro b v rfl
        cases hb
        obtain ⟨r, hr, -⟩ | ⟨-, -, hx⟩ := moveFailed_applied_iff.1 h
        · cases hl.symm.trans hr
        · exact hx
  · exact .inl (drops_callback hb h ha)

theorem not_places_after {h : List Event} (hp : ¬ s.store.tables.Places i) (hnew : ∀ x ∈ s.placements h, x.item ≠ i) :
    ¬ (s.after h).store.tables.Places i := by
  rintro ⟨x, hx, hi⟩
  obtain hx | hx := mem_assets_after hx
  · exact hp ⟨x, hx, hi⟩
  · exact hnew x hx hi

theorem not_places_step_of_completed {m : MoveCompletion}
    (h : s.answer? e = some (.moved m, .callback .applied)) : ¬ (s.step e).store.tables.Places m.moved.item := by
  rintro ⟨x, hx, hi⟩
  obtain ⟨amb, hc, hr⟩ := answer?_eq_some_iff.1 h
  rw [step_of_call? hc, assets_call hr] at hx
  obtain hx | hx := List.mem_append.1 hx
  · simp [Call.clears, hi] at hx
  · cases hx

/-- Whatever happens, in whatever order: no more answers are matched with reservations of a transaction than transfers
have been started under it, beside what was reserved in the beginning. Every other answer that carries it, and is handled
without an error, is dropped: it publishes nothing and leaves the store alone. Only when nothing live is reserved may an
answer count anyway, a completion if its item is placed and a refusal if its item is known. When a completion has been
applied, every further completion for the item is dropped until the item is placed again. -/
theorem settlements_le_transfers (s : Service) (h : List Event) :
    (∀ t, s.total (settles t) h ≤ s.tally (starts t) h + s.reservations.answerable t) ∧
    (∀ e amb c i t a, e.call? = some (amb, c) → c.callback? = some (i, some t) → ((s.after h).call amb c).1 = .ok a →
      (s.after h).Drops amb c ∨ a = .callback .applied ∧
        (settles t (s.after h) e = 1 ∨ (s.after h).CountsAnyway amb c i)) ∧
    ∀ pre e mid m, h = pre ++ e :: mid → (s.after pre).answer? e = some (.moved m, .callback .applied) →
      (∀ x ∈ (s.after (pre ++ [e])).placements mid, x.item ≠ m.moved.item) →
      ∀ amb m' a, m'.moved.item = m.moved.item → ((s.after h).call amb (.moved m')).1 = .ok a →
        (s.after h).Drops amb (.moved m') := by
  refine ⟨?_, ?_, ?_⟩
  · intro t
    have hflow := total_add_le (f := settles t) (g := ends (starts t)) (v := fun s => s.reservations.answerable t)
      (settlement_step t) s h
    unfold tally
    omega
  · intro e amb c i t a hc hb hr
    obtain hd | ⟨ha, ⟨r, hset⟩ | hany⟩ := callback_cases hc hb hr
    · exact .inl hd
    · refine .inr ⟨ha, .inl ?_⟩
      obtain ⟨amb', c', u, hc', hb', -, hm⟩ := settled?_eq_some_iff.1 hset
      cases hc.symm.trans hc'
      cases hb.symm.trans hb'
      rw [settles, hset]
      simp [hm]
    · exact .inr ⟨ha, .inr hany⟩
  · rintro pre e mid m rfl hans hnew amb m' a hi hr
    have hp : ¬ (s.after (pre ++ e :: mid)).store.tables.Places m'.moved.item := by
      rw [hi, after_append, after_cons]
      rw [after_concat] at hnew
      exact not_places_after (not_places_step_of_completed hans) hnew
    refine drops_moved hr ?_
    rintro rfl
    exact hp (moved_applied_iff.1 hr).2.1

def takenItem : List Event := [
  .call .opening (.move ⟨7⟩ ⟨⟨1⟩, 1, 3⟩),
  .call .opening (.moved ⟨⟨7⟩, ⟨.ofNat 30⟩, ⟨⟨1⟩, 3, some ⟨.ofNat 1⟩⟩⟩)]

theorem drops_of_takenItem : sold.answer? takenItem[0] = some (.move ⟨7⟩ ⟨⟨1⟩, 1, 3⟩, .started ⟨⟨1⟩, ⟨.ofNat 1⟩⟩) ∧
    (sold.after takenItem).Drops .opening (.moved ⟨⟨7⟩, ⟨.ofNat 30⟩, ⟨⟨1⟩, 3, some ⟨.ofNat 1⟩⟩⟩) := by
  have hans : (sold.after [takenItem[0]]).answer? takenItem[1] =
      some (.moved ⟨⟨7⟩, ⟨.ofNat 30⟩, ⟨⟨1⟩, 3, some ⟨.ofNat 1⟩⟩⟩, .callback .applied) := rfl
  refine ⟨rfl, ?_⟩
  exact (settlements_le_transfers sold takenItem).2.2 [takenItem[0]] takenItem[1] [] _ rfl hans (by simp [placements])
    .opening _ (.callback .dropped) rfl rfl

end Service

end CashShop
