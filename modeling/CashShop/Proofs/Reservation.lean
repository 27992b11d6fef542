import CashShop.Reservation

namespace CashShop.Reservations

variable {rs : Reservations} {i j : ItemId} {r : Reservation} {b : CharacterId} {t : Option TransactionId}
  {now : Instant}

theorem live?_eq_some_iff : rs.live? i now = some r ↔ rs.entries.get? i = some r ∧ now < r.expiresAt := by
  rw [live?, Option.filter_eq_some_iff]
  simp [Reservation.isLive]

theorem live?_eq_none_iff : rs.live? i now = none ↔ ∀ r, rs.entries.get? i = some r → r.expiresAt ≤ now := by
  rw [live?, Option.filter_eq_none_iff]
  simp [Reservation.isLive]

theorem live?_later {later : Instant} (h : rs.live? i now = none) (hle : now ≤ later) : rs.live? i later = none :=
  live?_eq_none_iff.2 fun r hr => Int.le_trans (live?_eq_none_iff.1 h r hr) hle

@[simp] theorem get?_release (rs : Reservations) (i j : ItemId) :
    (rs.release i).entries.get? j = if j = i then none else rs.entries.get? j := Table.get?_erase _ _ _

@[simp] theorem live?_release (rs : Reservations) (i j : ItemId) (now : Instant) :
    (rs.release i).live? j now = if j = i then none else rs.live? j now := by
  by_cases hj : j = i <;> simp [live?, hj]

@[simp] theorem ttl_release (rs : Reservations) (i : ItemId) : (rs.release i).ttl = rs.ttl := rfl

theorem isReserved_of_live (h : rs.live? i now = some r) : rs.isReserved i now = (true, rs) := by
  rw [isReserved, h]

theorem isReserved_of_free (h : rs.live? i now = none) : rs.isReserved i now = (false, rs.release i) := by
  rw [isReserved, h]

def enter (rs : Reservations) (i : ItemId) (b : CharacterId) (t : Option TransactionId) (now : Instant) :
    Reservations := { rs with entries := rs.entries.insert i ⟨b, t, now + rs.ttl⟩ }

@[simp] theorem get?_enter (rs : Reservations) (i j : ItemId) (b : CharacterId) (t : Option TransactionId)
    (now : Instant) :
    (rs.enter i b t now).entries.get? j = if j = i then some ⟨b, t, now + rs.ttl⟩ else rs.entries.get? j :=
  Table.get?_insert _ _ _ _

theorem reserve_of_live (h : rs.live? i now = some r) : rs.reserve i b t now = (false, rs) := by
  rw [reserve, h]

theorem reserve_of_free (h : rs.live? i now = none) : rs.reserve i b t now = (true, rs.enter i b t now) := by
  rw [reserve, h]
  rfl

theorem releaseMatching_of_free (h : rs.live? i now = none) :
    rs.releaseMatching i t now = (.missing, rs.release i) := by
  rw [releaseMatching, h]

theorem releaseMatching_of_answered (h : rs.live? i now = some r) (ha : Reservation.answeredBy r t = true) :
    rs.releaseMatching i t now = (.matched r, rs.release i) := by
  rw [releaseMatching, h]
  exact if_pos ha

theorem releaseMatching_of_opposed (h : rs.live? i now = some r) (ha : Reservation.answeredBy r t = false) :
    rs.releaseMatching i t now = (.mismatched r, rs) := by
  rw [releaseMatching, h]
  simp [ha]

theorem answeredBy_iff {u : TransactionId} (hr : r.transaction = some u) :
    Reservation.answeredBy r t = true ↔ t = none ∨ t = some u := by
  unfold Reservation.answeredBy
  rw [hr]
  cases t with
  | none => simp
  | some v => simp [eq_comm]

@[simp] theorem ttl_isReserved (rs : Reservations) (i : ItemId) (now : Instant) :
    (rs.isReserved i now).2.ttl = rs.ttl := by
  rw [isReserved]
  split <;> rfl

@[simp] theorem ttl_releaseMatching (rs : Reservations) (i : ItemId) (t : Option TransactionId) (now : Instant) :
    (rs.releaseMatching i t now).2.ttl = rs.ttl := by
  rw [releaseMatching]
  split
  · rfl
  · split <;> rfl

theorem expired_of_free (hl : rs.live? i now = none) (hj : rs.entries.get? j = some r) (he : j = i) :
    r.expiresAt ≤ now := live?_eq_none_iff.1 hl r (he ▸ hj)

theorem get?_isReserved (i : ItemId) (now : Instant) (hj : rs.entries.get? j = some r) :
    (rs.isReserved i now).2.entries.get? j = some r ∨ r.expiresAt ≤ now := by
  cases hl : rs.live? i now with
  | some r' =>
    rw [isReserved_of_live hl]
    exact .inl hj
  | none =>
    rw [isReserved_of_free hl]
    by_cases he : j = i
    · exact .inr (expired_of_free hl hj he)
    · exact .inl (by simpa [he] using hj)

theorem get?_releaseMatching (i : ItemId) (t : Option TransactionId) (now : Instant)
    (hj : rs.entries.get? j = some r) :
    (rs.releaseMatching i t now).2.entries.get? j = some r ∨ r.expiresAt ≤ now ∨
      j = i ∧ rs.live? i now = some r ∧ Reservation.answeredBy r t = true := by
  cases hl : rs.live? i now with
  | none =>
    rw [releaseMatching_of_free hl]
    by_cases he : j = i
    · exact .inr (.inl (expired_of_free hl hj he))
    · exact .inl (by simpa [he] using hj)
  | some r' =>
    cases ha : Reservation.answeredBy r' t with
    | false =>
      rw [releaseMatching_of_opposed hl ha]
      exact .inl hj
    | true =>
      rw [releaseMatching_of_answered hl ha]
      by_cases he : j = i
      · subst he
        obtain rfl : r' = r := Option.some.inj ((live?_eq_some_iff.1 hl).1.symm.trans hj)
        exact .inr (.inr ⟨rfl, rfl, ha⟩)
      · exact .inl (by simpa [he] using hj)

theorem get?_sweep (rs : Reservations) (now : Instant) (i : ItemId) :
    (rs.sweep now).2.entries.get? i = (rs.entries.get? i).filter (·.isLive now) := Table.get?_filter _ _ _

theorem release_enter (rs : Reservations) (i : ItemId) (b : CharacterId) (t : Option TransactionId) (now : Instant) :
    (rs.release i).enter i b t now = rs.enter i b t now := by
  have he : (rs.release i).entries.insert i ⟨b, t, now + rs.ttl⟩ = rs.entries.insert i ⟨b, t, now + rs.ttl⟩ := by
    apply Table.ext_get?
    intro j
    by_cases hj : j = i <;> simp [hj]
  simp only [enter, ttl_release, he]

theorem enter_release (rs : Reservations) (i : ItemId) (b : CharacterId) (t : Option TransactionId) (now : Instant) :
    (rs.enter i b t now).release i = rs.release i := by
  have he : (rs.entries.insert i ⟨b, t, now + rs.ttl⟩).erase i = rs.entries.erase i := by
    apply Table.ext_get?
    intro j
    by_cases hj : j = i <;> simp [hj]
  simp only [release, enter, he]

end CashShop.Reservations
