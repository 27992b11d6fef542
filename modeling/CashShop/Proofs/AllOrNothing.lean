import CashShop.Proofs.Commit
import CashShop.Proofs.History

namespace CashShop

def Message.type? (m : Message) : Option Json := m.value.get? Wire.tagKey

theorem IsErrorEvent.type? {t : Topic} {m : Message} (h : IsErrorEvent t m) : m.type? = some (.str "ERROR") := by
  cases h <;> rfl

namespace Service

variable {s : Service} {amb : Ambient} {c : Call}

theorem apologizes_of_not_succeeds (h : s.succeeds amb c = false) :
    (s.call amb c).2.store = s.store ∧ s.transport.Apologizes (s.call amb c).2.transport := by
  have hend := call_ending s amb c
  unfold succeeds at h
  generalize (s.call amb c).1 = r at h hend
  generalize (s.call amb c).2 = s' at hend
  cases hend with
  | committed commits => simp [commits.isDone] at h
  | failed store told => exact ⟨store, told⟩
  | idle _ store told => exact ⟨store, told⟩
  | elsewhere transfer =>
    obtain ⟨t, rfl⟩ | rfl := transfer
    · exact absurd h (by simp [Answer.isDone])
    · exact absurd h (by simp [Answer.isDone])

/-- A call that fails, or finds that it has nothing to do, changes no table and no remembered key. All that it has
published is one error event, or nothing. -/
theorem no_trace_of_not_succeeds (h : s.succeeds amb c = false) :
    (s.call amb c).2.store = s.store ∧ ∃ told : List Publication,
      (s.call amb c).2.transport.carried = s.transport.carried ++ told ∧ told.length ≤ 1 ∧
        ∀ p ∈ told, ∃ m, p.messages = [m] ∧ IsErrorEvent p.topic m ∧ m.type? = some (.str "ERROR") := by
  obtain ⟨hstore, ht⟩ := apologizes_of_not_succeeds h
  refine ⟨hstore, ?_⟩
  rcases ht with ht | ⟨topic, m, he, ht⟩
  · exact ⟨[], by simp [ht], by simp, by simp⟩
  · refine ⟨[⟨topic, [m], true⟩], ht, by simp, ?_⟩
    intro p hp
    obtain rfl := List.mem_singleton.1 hp
    exact ⟨m, rfl, he, he.type?⟩

theorem no_trace_of_failed_commit :
    (stocked.step (.faults [.commit])).succeeds .opening (.purchase ⟨7⟩ ⟨1, ⟨20⟩, some "a"⟩) = false ∧
      ((stocked.step (.faults [.commit])).call .opening (.purchase ⟨7⟩ ⟨1, ⟨20⟩, some "a"⟩)).2.store =
        (stocked.step (.faults [.commit])).store := by
  have h : (stocked.step (.faults [.commit])).succeeds .opening (.purchase ⟨7⟩ ⟨1, ⟨20⟩, some "a"⟩) = false := by decide
  exact ⟨h, (no_trace_of_not_succeeds h).1⟩

end Service

end CashShop
