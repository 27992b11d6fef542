import CashShop.Proofs.History
import CashShop.Proofs.TransferCall

namespace CashShop.Service

variable {s : Service} {amb : Ambient} {m : MoveCompletion} {e : WorkflowError}

/-- If the completion fails, the store is as it was, and so is the live reservation of the item. -/
def KeepsClaim (s : Service) (amb : Ambient) (m : MoveCompletion) : Prop :=
  ∀ e, (s.call amb (.moved m)).1 = .error e → (s.call amb (.moved m)).2.store = s.store ∧
    (s.call amb (.moved m)).2.reservations.live? m.moved.item amb.now = s.reservations.live? m.moved.item amb.now

/-- The completion is matched with a live reservation, and what it has to delete cannot be committed. -/
def LosesClaim (s : Service) (amb : Ambient) (m : MoveCompletion) : Prop :=
  .commit ∈ s.store.faults ∧ s.store.tables.Places m.moved.item ∧
    ∃ r, s.reservations.live? m.moved.item amb.now = some r ∧
      Reservations.Reservation.answeredBy r m.moved.transaction = true

theorem moved_failed_iff : (s.call amb (.moved m)).1 = .error e ↔
    ¬ s.reservations.Opposes m.moved.item m.moved.transaction amb.now ∧ s.store.tables.Places m.moved.item ∧
      .commit ∈ s.store.faults ∧ e = .internal (.injected .commit) := by
  by_cases ho : s.reservations.Opposes m.moved.item m.moved.transaction amb.now
  · simp [call_moved_of_opposes ho, ho]
  · by_cases hp : s.store.tables.Places m.moved.item
    · by_cases hf : .commit ∈ s.store.faults
      · simp [call_moved_of_commit_fault ho hp hf, ho, hp, hf, eq_comm]
      · simp [call_moved_of_placed ho hp hf, hf]
    · simp [call_moved_of_unplaced ho hp, hp]

theorem call_moved_of_error (h : (s.call amb (.moved m)).1 = .error e) :
    (s.call amb (.moved m)).2 = reportFailure { s with reservations := s.reservations.release m.moved.item } m.character
      (.internal (.injected .commit)) := by
  obtain ⟨ho, hp, hf, -⟩ := moved_failed_iff.1 h
  rw [call_moved_of_commit_fault ho hp hf]

theorem reservations_of_error (h : (s.call amb (.moved m)).1 = .error e) :
    (s.call amb (.moved m)).2.reservations = s.reservations.release m.moved.item := by
  rw [call_moved_of_error h]
  rfl

theorem failed_of_losesClaim (h : s.LosesClaim amb m) :
    (s.call amb (.moved m)).1 = .error (.internal (.injected .commit)) := by
  obtain ⟨hf, hp, r, hl, ha⟩ := h
  refine moved_failed_iff.2 ⟨?_, hp, hf, rfl⟩
  rintro ⟨r', hl', ha'⟩
  obtain rfl : r = r' := Option.some.inj (hl.symm.trans hl')
  rw [ha] at ha'
  cases ha'

/-- After the failure an order that finds the item is sent, and its reservation takes the place of the one that has been
given up. -/
theorem call_move_of_failed (amb' : Ambient) {b : CharacterId} {o : MoveOrder} {tab : Tab}
    (hfailed : (s.call amb (.moved m)).1 = .error e) (hloc : Transfer.locate s b o = .ok (tab, m.moved.item))
    (hsent : (s.call amb (.moved m)).2.transport.refuses .characterCommand = false) :
    ((s.call amb (.moved m)).2.call amb' (.move b o)).1 = .ok (.started ⟨m.moved.item, amb'.transaction⟩) ∧
      ((s.call amb (.moved m)).2.call amb' (.move b o)).2.reservations =
        s.reservations.enter m.moved.item b (some amb'.transaction) amb'.now := by
  have hgone := reservations_of_error hfailed
  have hloc' : Transfer.locate (s.call amb (.moved m)).2 b o = .ok (tab, m.moved.item) := by
    rw [call_moved_of_error hfailed]
    exact hloc
  have hfree : (s.call amb (.moved m)).2.reservations.live? m.moved.item amb'.now = none := by simp [hgone]
  rw [call_move_of_sent hloc' hfree hsent]
  refine ⟨rfl, ?_⟩
  change (s.call amb (.moved m)).2.reservations.enter m.moved.item b (some amb'.transaction) amb'.now = _
  rw [hgone, Reservations.release_enter]

/-- A completion that fails keeps its claim exactly if there was none to keep. It leaves the store and the reservations
of all other items as they were; its own item is reserved no longer. While nobody else has claimed the item, the
completion is applied when it is delivered again. But whoever finds the item may order it away once more, and then the
completion of the first transfer is dropped although the other service has the item. -/
theorem keepsClaim_iff (s : Service) (amb : Ambient) (m : MoveCompletion) :
    (s.KeepsClaim amb m ↔ ¬ s.LosesClaim amb m) ∧
    ∀ e, (s.call amb (.moved m)).1 = .error e →
      (s.call amb (.moved m)).2.store = s.store ∧
      (∀ i, (s.call amb (.moved m)).2.reservations.entries.get? i =
        if i = m.moved.item then none else s.reservations.entries.get? i) ∧
      (∀ amb' faults, .commit ∉ faults →
        (((s.call amb (.moved m)).2.step (.faults faults)).call amb' (.moved m)).1 = .ok (.callback .applied)) ∧
      ∀ amb' b o tab, Transfer.locate s b o = .ok (tab, m.moved.item) →
        (s.call amb (.moved m)).2.transport.refuses .characterCommand = false →
        ((s.call amb (.moved m)).2.call amb' (.move b o)).1 = .ok (.started ⟨m.moved.item, amb'.transaction⟩) ∧
        ∀ amb'' t, m.moved.transaction = some t → t ≠ amb'.transaction → amb''.now < amb'.now + s.reservations.ttl →
          (((s.call amb (.moved m)).2.call amb' (.move b o)).2.call amb'' (.moved m)).1 = .ok (.callback .dropped) := by
  constructor
  · constructor
    · intro hkeeps hloses
      have hfailed := failed_of_losesClaim hloses
      obtain ⟨-, -, r, hl, -⟩ := hloses
      have hlive := (hkeeps _ hfailed).2
      simp [reservations_of_error hfailed, hl] at hlive
    · intro hloses e hfailed
      refine ⟨store_call_of_error hfailed, ?_⟩
      obtain ⟨ho, hp, hf, -⟩ := moved_failed_iff.1 hfailed
      cases hl : s.reservations.live? m.moved.item amb.now with
      | none => simp [reservations_of_error hfailed]
      | some r => exact absurd ⟨hf, hp, r, hl, Reservations.answeredBy_of_not_opposes ho hl⟩ hloses
  · intro e hfailed
    have hstore := store_call_of_error hfailed
    have hgone := reservations_of_error hfailed
    refine ⟨hstore, fun i => by rw [hgone, Reservations.get?_release], ?_, ?_⟩
    · intro amb' faults hcommit
      refine moved_applied_iff.2 ⟨?_, ?_, hcommit⟩
      · rintro ⟨r, hl, -⟩
        change (s.call amb (.moved m)).2.reservations.live? m.moved.item amb'.now = some r at hl
        simp [hgone] at hl
      · change (s.call amb (.moved m)).2.store.tables.Places m.moved.item
        rw [hstore]
        exact (moved_failed_iff.1 hfailed).2.1
    · intro amb' b o tab hloc hsent
      obtain ⟨hstarted, hclaim⟩ := call_move_of_failed amb' hfailed hloc hsent
      refine ⟨hstarted, ?_⟩
      intro amb'' t ht hne hnow
      have hopposes : ((s.call amb (.moved m)).2.call amb' (.move b o)).2.reservations.Opposes m.moved.item
          m.moved.transaction amb''.now := by
        refine ⟨⟨b, some amb'.transaction, amb'.now + s.reservations.ttl⟩, ?_, ?_⟩
        · rw [hclaim]
          exact Reservations.live?_eq_some_iff.2 ⟨by simp, hnow⟩
        · simpa [Reservations.Reservation.answeredBy, ht] using hne.symm
      rw [call_moved_of_opposes hopposes]

def stalled : Service := sold.after [.call .opening (.move ⟨7⟩ ⟨⟨1⟩, 1, 3⟩), .faults [.commit]]

theorem not_keepsClaim_stalled : ¬ stalled.KeepsClaim .opening ⟨⟨7⟩, ⟨.ofNat 30⟩, ⟨⟨1⟩, 3, some ⟨.ofNat 1⟩⟩⟩ := by
  intro h
  have hfailed : (stalled.call .opening (.moved ⟨⟨7⟩, ⟨.ofNat 30⟩, ⟨⟨1⟩, 3, some ⟨.ofNat 1⟩⟩⟩)).1 =
      .error (.internal (.injected .commit)) := by rfl
  exact absurd (h _ hfailed).2 (by decide)

end CashShop.Service
