import CashShop.Proofs.Commit
import CashShop.Proofs.Reservation

namespace CashShop

open Work

def Call.callback? : Call → Option (ItemId × Option TransactionId)
  | .moved m => some (m.moved.item, m.moved.transaction)
  | .moveFailed _ i t => some (i, t)
  | _ => none

/-- A live reservation of another transaction stands against the answer. -/
def Reservations.Opposes (rs : Reservations) (i : ItemId) (t : Option TransactionId) (now : Instant) : Prop :=
  ∃ r, rs.live? i now = some r ∧ Reservation.answeredBy r t = false

theorem Reservations.answeredBy_of_not_opposes {rs : Reservations} {i : ItemId} {t : Option TransactionId}
    {now : Instant} {r : Reservation} (h : ¬ rs.Opposes i t now) (hl : rs.live? i now = some r) :
    Reservation.answeredBy r t = true := by
  cases ha : Reservation.answeredBy r t with
  | true => rfl
  | false => exact absurd ⟨r, hl, ha⟩ h

theorem Reservations.releaseMatching_of_not_opposes {rs : Reservations} {i : ItemId} {t : Option TransactionId}
    {now : Instant} (h : ¬ rs.Opposes i t now) :
    (∃ r, rs.live? i now = some r ∧ rs.releaseMatching i t now = (.matched r, rs.release i)) ∨
      rs.live? i now = none ∧ rs.releaseMatching i t now = (.missing, rs.release i) := by
  cases hl : rs.live? i now with
  | none => exact .inr ⟨rfl, releaseMatching_of_free hl⟩
  | some r => exact .inl ⟨r, rfl, releaseMatching_of_answered hl (answeredBy_of_not_opposes h hl)⟩

def Tables.Places (t : Tables) (i : ItemId) : Prop := ∃ a ∈ t.assets, a.item = i

theorem Tables.not_places_iff {t : Tables} {i : ItemId} : ¬ t.Places i ↔ ∀ a ∈ t.assets, a.item ≠ i := by
  simp [Places]

def Transport.log (t : Transport) (p : Publication) : Transport := { t with calls := t.calls ++ [p] }

namespace Service

variable {s : Service} {amb : Ambient} {h : Handoff} {b : CharacterId} {o : MoveOrder} {m : MoveCompletion} {tab : Tab}
  {i : ItemId} {t : Option TransactionId} {r : Reservation} {e : WorkflowError}

theorem run_of_kept {α : Type} {work : Work α} {k : α → Bool} {a : α} {d : Draft}
    (h : Yields work (Draft.begin s.store) a d) (hk : k a = true) (hf : .commit ∉ d.base.faults) :
    s.run work k = (.ok a, { s with store := d.committed }.publish d.outbox) := by
  have hw : work (Draft.begin s.store) = (.ok a, d) := h
  have hc : d.commit = .ok d.committed := Draft.commit_eq_ok.2 ⟨hf, rfl⟩
  rw [run, Store.transact, hw]
  simp [hk, hc]

theorem run_of_commit_fault {α : Type} {work : Work α} {k : α → Bool} {a : α} {d : Draft}
    (h : Yields work (Draft.begin s.store) a d) (hk : k a = true) (hf : .commit ∈ d.base.faults) :
    s.run work k = (.error (.internal (.injected .commit)), s) := by
  have hw : work (Draft.begin s.store) = (.ok a, d) := h
  have hc : d.commit = .error (.injected .commit) := by simp [Draft.commit, Draft.check, hf, bind, Except.bind]
  rw [run, Store.transact, hw]
  simp [hk, hc]

theorem call_release_of_live (hl : s.reservations.live? h.item amb.now = some r) :
    s.call amb (.release h) =
      (.error (.itemAlreadyReserved h.item), s.answerHandoffError h .itemAlreadyReserved) := by
  rw [call, release, Reservations.isReserved_of_live hl]
  rfl

theorem call_move_of_not_located (hl : Transfer.locate s b o = .error e) :
    s.call amb (.move b o) = (.error e, s.reportFailure b e) := by
  rw [call, move, Transfer.start, hl]
  rfl

theorem call_move_of_live (hl : Transfer.locate s b o = .ok (tab, i))
    (hr : s.reservations.live? i amb.now = some r) :
    s.call amb (.move b o) = (.error (.itemAlreadyReserved i), s.reportFailure b (.itemAlreadyReserved i)) := by
  rw [call, move, Transfer.start, hl]
  simp only [Reservations.reserve_of_live hr]
  rfl

theorem call_move_of_refused (hl : Transfer.locate s b o = .ok (tab, i))
    (hr : s.reservations.live? i amb.now = none) (ht : s.transport.refuses .characterCommand = true) :
    s.call amb (.move b o) = (.error (.internal (.transportDown .characterCommand)),
      { s with
        reservations := (s.reservations.enter i b (some amb.transaction) amb.now).release i
        transport := s.transport.log
          ⟨.characterCommand, [Transfer.command b tab o.slot i amb.transaction], false⟩ }.reportFailure b
            (.internal (.transportDown .characterCommand))) := by
  rw [call, move, Transfer.start, hl]
  simp only [Reservations.reserve_of_free hr, Transport.publish, ht]
  rfl

theorem call_move_of_sent (hl : Transfer.locate s b o = .ok (tab, i)) (hr : s.reservations.live? i amb.now = none)
    (ht : s.transport.refuses .characterCommand = false) :
    s.call amb (.move b o) = (.ok (.started ⟨i, amb.transaction⟩),
      { s with
        reservations := s.reservations.enter i b (some amb.transaction) amb.now
        transport := s.transport.log
          ⟨.characterCommand, [Transfer.command b tab o.slot i amb.transaction], true⟩ }.count .transfersStarted) := by
  rw [call, move, Transfer.start, hl]
  simp only [Reservations.reserve_of_free hr, Transport.publish, ht]
  rfl

theorem call_moved_of_opposes (ho : s.reservations.Opposes m.moved.item m.moved.transaction amb.now) :
    s.call amb (.moved m) = (.ok (.callback .dropped), s.count .callbacksDropped) := by
  obtain ⟨r, hl, ha⟩ := ho
  rw [call, moved, Reservations.releaseMatching_of_opposed hl ha]
  rfl

def completedDraft (s : Service) (m : MoveCompletion) : Draft :=
  ((Draft.begin s.store).keepAssets fun a => a.item ≠ m.moved.item).put .shopStatus (Transfer.completedMessage m)

def concluded (m : MoveCompletion) :
    Except WorkflowError CallbackOutcome × Service → Except WorkflowError CallbackOutcome × Service
  | (.ok .applied, s) => (.ok .applied, s.count .transfersCompleted)
  | (.ok .dropped, s) => (.ok .dropped, s.count .callbacksDropped)
  | (.error e, s) => (.error e, s.reportFailure m.character e)

theorem call_moved_of_not_opposes (ho : ¬ s.reservations.Opposes m.moved.item m.moved.transaction amb.now) :
    s.call amb (.moved m) = answered .callback (concluded m
      (run { s with reservations := s.reservations.release m.moved.item } (Transfer.complete m) (· = .applied))) := by
  obtain ⟨r, -, hr⟩ | ⟨-, hr⟩ := Reservations.releaseMatching_of_not_opposes ho
  · rw [call, moved, hr]
    rfl
  · rw [call, moved, hr]
    rfl

theorem call_moved_of_unplaced (ho : ¬ s.reservations.Opposes m.moved.item m.moved.transaction amb.now)
    (hp : ¬ s.store.tables.Places m.moved.item) :
    s.call amb (.moved m) = (.ok (.callback .dropped),
      { s with reservations := s.reservations.release m.moved.item }.count .callbacksDropped) := by
  have hy : Yields (Transfer.complete m) (Draft.begin s.store) .dropped (Draft.begin s.store) :=
    Transfer.yields_complete.2 (.inl ⟨Tables.not_places_iff.1 hp, rfl, rfl⟩)
  have hrun := run_of_not_kept (s := { s with reservations := s.reservations.release m.moved.item })
    (k := (· = .applied)) hy rfl
  rw [call_moved_of_not_opposes ho, hrun]
  rfl

theorem yields_complete_of_placed (hp : s.store.tables.Places m.moved.item) :
    Yields (Transfer.complete m) (Draft.begin s.store) .applied (s.completedDraft m) :=
  Transfer.yields_complete.2 (.inr ⟨hp, rfl, rfl⟩)

theorem call_moved_of_placed (ho : ¬ s.reservations.Opposes m.moved.item m.moved.transaction amb.now)
    (hp : s.store.tables.Places m.moved.item) (hf : .commit ∉ s.store.faults) :
    s.call amb (.moved m) = (.ok (.callback .applied),
      (publish { s with
        reservations := s.reservations.release m.moved.item
        store := (s.completedDraft m).committed } (s.completedDraft m).outbox).count .transfersCompleted) := by
  have hrun := run_of_kept (s := { s with reservations := s.reservations.release m.moved.item })
    (k := (· = .applied)) (yields_complete_of_placed hp) rfl hf
  rw [call_moved_of_not_opposes ho, hrun]
  rfl

theorem call_moved_of_commit_fault (ho : ¬ s.reservations.Opposes m.moved.item m.moved.transaction amb.now)
    (hp : s.store.tables.Places m.moved.item) (hf : .commit ∈ s.store.faults) :
    s.call amb (.moved m) = (.error (.internal (.injected .commit)),
      { s with reservations := s.reservations.release m.moved.item }.reportFailure m.character
        (.internal (.injected .commit))) := by
  have hrun := run_of_commit_fault (s := { s with reservations := s.reservations.release m.moved.item })
    (k := (· = .applied)) (yields_complete_of_placed hp) rfl hf
  rw [call_moved_of_not_opposes ho, hrun]
  rfl

theorem call_moveFailed_of_opposes (ho : s.reservations.Opposes i t amb.now) :
    s.call amb (.moveFailed b i t) = (.ok (.callback .dropped), s.count .callbacksDropped) := by
  obtain ⟨r, hl, ha⟩ := ho
  rw [call, moveFailed, Reservations.releaseMatching_of_opposed hl ha]
  rfl

theorem call_callback_of_opposes {c : Call} (hb : c.callback? = some (i, t))
    (ho : s.reservations.Opposes i t amb.now) :
    s.call amb c = (.ok (.callback .dropped), s.count .callbacksDropped) := by
  cases c with
  | moved m =>
    cases hb
    exact call_moved_of_opposes ho
  | moveFailed b j v =>
    cases hb
    exact call_moveFailed_of_opposes ho
  | _ => cases hb

def calledOff (s : Service) (b : CharacterId) (i : ItemId) : Service :=
  ({ s with reservations := s.reservations.release i }.count .transfersFailed).answerError b .unknownError

theorem call_moveFailed_of_answered (hl : s.reservations.live? i amb.now = some r)
    (ha : Reservations.Reservation.answeredBy r t = true) :
    s.call amb (.moveFailed b i t) = (.ok (.callback .applied), s.calledOff b i) := by
  rw [call, moveFailed, Reservations.releaseMatching_of_answered hl ha]
  rfl

theorem call_moveFailed_of_unreadable (hl : s.reservations.live? i amb.now = none) (hf : .readItem ∈ s.store.faults) :
    s.call amb (.moveFailed b i t) = (.error (.internal (.injected .readItem)),
      { s with reservations := s.reservations.release i }) := by
  have hi : (Draft.begin s.store).item? i = .error (.injected .readItem) := by
    simp [Draft.item?, Draft.check, Draft.begin, hf, bind, Except.bind]
  rw [call, moveFailed, Reservations.releaseMatching_of_free hl]
  simp only [hi]
  rfl

theorem item?_of_readable (hf : .readItem ∉ s.store.faults) (i : ItemId) :
    (Draft.begin s.store).item? i = .ok (s.store.tables.items.get? i) := by
  simp [Draft.item?, Draft.check, Draft.begin, hf, bind, Except.bind, pure, Except.pure]

theorem call_moveFailed_of_unknown (hl : s.reservations.live? i amb.now = none) (hf : .readItem ∉ s.store.faults)
    (hi : s.store.tables.items.get? i = none) :
    s.call amb (.moveFailed b i t) = (.ok (.callback .dropped),
      { s with reservations := s.reservations.release i }.count .callbacksDropped) := by
  rw [call, moveFailed, Reservations.releaseMatching_of_free hl]
  simp only [item?_of_readable hf, hi]
  rfl

theorem call_moveFailed_of_known {x : Item} (hl : s.reservations.live? i amb.now = none)
    (hf : .readItem ∉ s.store.faults) (hi : s.store.tables.items.get? i = some x) :
    s.call amb (.moveFailed b i t) = (.ok (.callback .applied), s.calledOff b i) := by
  rw [call, moveFailed, Reservations.releaseMatching_of_free hl]
  simp only [item?_of_readable hf, hi]
  rfl

theorem started_iff {u : TransactionId} : (s.call amb (.move b o)).1 = .ok (.started ⟨i, u⟩) ↔
    u = amb.transaction ∧ (∃ tab, Transfer.locate s b o = .ok (tab, i)) ∧ s.reservations.live? i amb.now = none ∧
      s.transport.refuses .characterCommand = false := by
  cases hl : Transfer.locate s b o with
  | error e => simp [call_move_of_not_located hl]
  | ok found =>
    obtain ⟨tab, j⟩ := found
    cases hr : s.reservations.live? j amb.now with
    | some r =>
      simp only [call_move_of_live hl hr, Except.ok.injEq, Prod.mk.injEq, reduceCtorEq, false_iff, not_and]
      rintro - ⟨tab', rfl, rfl⟩
      simp [hr]
    | none =>
      cases ht : s.transport.refuses .characterCommand with
      | true => simp [call_move_of_refused hl hr ht]
      | false =>
        simp only [call_move_of_sent hl hr ht, Except.ok.injEq, Answer.started.injEq, TransferStarted.mk.injEq,
          Prod.mk.injEq]
        constructor
        · rintro ⟨rfl, rfl⟩
          exact ⟨rfl, ⟨tab, rfl, rfl⟩, hr, trivial⟩
        · rintro ⟨rfl, ⟨tab', rfl, rfl⟩, -⟩
          exact ⟨rfl, rfl⟩

theorem moved_applied_iff : (s.call amb (.moved m)).1 = .ok (.callback .applied) ↔
    ¬ s.reservations.Opposes m.moved.item m.moved.transaction amb.now ∧ s.store.tables.Places m.moved.item ∧
      .commit ∉ s.store.faults := by
  by_cases ho : s.reservations.Opposes m.moved.item m.moved.transaction amb.now
  · simp [call_moved_of_opposes ho, ho]
  · by_cases hp : s.store.tables.Places m.moved.item
    · by_cases hf : .commit ∈ s.store.faults
      · simp [call_moved_of_commit_fault ho hp hf, hf]
      · simp [call_moved_of_placed ho hp hf, ho, hp, hf]
    · simp [call_moved_of_unplaced ho hp, hp]

theorem moveFailed_applied_iff : (s.call amb (.moveFailed b i t)).1 = .ok (.callback .applied) ↔
    (∃ r, s.reservations.live? i amb.now = some r ∧ Reservations.Reservation.answeredBy r t = true) ∨
      s.reservations.live? i amb.now = none ∧ .readItem ∉ s.store.faults ∧ ∃ x, s.store.tables.items.get? i = some x := by
  cases hl : s.reservations.live? i amb.now with
  | some r =>
    cases ha : Reservations.Reservation.answeredBy r t with
    | true => simp [call_moveFailed_of_answered hl ha, ha]
    | false => simp [call_moveFailed_of_opposes ⟨r, hl, ha⟩, ha]
  | none =>
    by_cases hf : .readItem ∈ s.store.faults
    · simp [call_moveFailed_of_unreadable hl hf, hf]
    · cases hi : s.store.tables.items.get? i with
      | none => simp [call_moveFailed_of_unknown hl hf hi]
      | some x => simp [call_moveFailed_of_known hl hf hi, hf]

theorem moveFailed_failed_iff : (s.call amb (.moveFailed b i t)).1 = .error e ↔
    s.reservations.live? i amb.now = none ∧ .readItem ∈ s.store.faults ∧ e = .internal (.injected .readItem) := by
  cases hl : s.reservations.live? i amb.now with
  | some r =>
    cases ha : Reservations.Reservation.answeredBy r t with
    | true => simp [call_moveFailed_of_answered hl ha]
    | false => simp [call_moveFailed_of_opposes ⟨r, hl, ha⟩]
  | none =>
    by_cases hf : .readItem ∈ s.store.faults
    · simp [call_moveFailed_of_unreadable hl hf, hf, eq_comm]
    · cases hi : s.store.tables.items.get? i with
      | none => simp [call_moveFailed_of_unknown hl hf hi, hf]
      | some x => simp [call_moveFailed_of_known hl hf hi, hf]

theorem call_moveFailed_of_applied (h : (s.call amb (.moveFailed b i t)).1 = .ok (.callback .applied)) :
    (s.call amb (.moveFailed b i t)).2 = s.calledOff b i := by
  obtain ⟨r, hl, ha⟩ | ⟨hl, hf, x, hi⟩ := moveFailed_applied_iff.1 h
  · rw [call_moveFailed_of_answered hl ha]
  · rw [call_moveFailed_of_known hl hf hi]

theorem answered_eq_ok {α : Type} {f : α → Answer} {x : Except WorkflowError α × Service} {a : Answer} :
    (answered f x).1 = .ok a ↔ ∃ y, x.1 = .ok y ∧ f y = a := by
  obtain ⟨x, s'⟩ := x
  cases x <;> simp [answered, Except.map]

theorem answered_eq_error {α : Type} {f : α → Answer} {x : Except WorkflowError α × Service} :
    (answered f x).1 = .error e ↔ x.1 = .error e := by
  obtain ⟨x, s'⟩ := x
  cases x <;> simp [answered, Except.map]

theorem answered_ne {α : Type} {f : α → Answer} {x : Except WorkflowError α × Service} {a : Answer}
    (h : ∀ y, f y ≠ a) : (answered f x).1 ≠ .ok a := by
  intro he
  obtain ⟨y, -, hy⟩ := answered_eq_ok.1 he
  exact h y hy

theorem exists_of_release_ok {a : Answer} (hr : (s.call amb (.release h)).1 = .ok a) :
    ∃ x, a = .released x ∧ x ∈ s.store.tables.assets ∧ x.compartment = h.compartment ∧ x.item = h.item := by
  obtain ⟨x, -, rfl⟩ := answered_eq_ok.1 hr
  obtain ⟨d, commits, -⟩ := committed_of_done hr rfl (by simp) (by simp)
  cases commits with
  | release _ _ _ held =>
    have hin := List.mem_filter.1 (List.mem_of_find?_eq_some held)
    have hitem := List.find?_some held
    exact ⟨x, rfl, hin.1, by simpa using hin.2, by simpa using hitem⟩

theorem exists_of_accept_ok {a : Answer} (hr : (s.call amb (.accept h)).1 = .ok a) :
    ∃ x, a = .accepted x ∧ x.item = h.item := by
  obtain ⟨x, -, rfl⟩ := answered_eq_ok.1 hr
  obtain ⟨d, commits, -⟩ := committed_of_done hr rfl (by simp) (by simp)
  cases commits with
  | acceptHeld _ held =>
    have hitem := List.find?_some held
    exact ⟨x, rfl, by simpa using hitem⟩
  | accept => exact ⟨_, rfl, rfl⟩

end Service

end CashShop
