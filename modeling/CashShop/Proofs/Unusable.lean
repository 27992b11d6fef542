import CashShop.Proofs.Bookkeeping
import CashShop.Proofs.RoundTrip

namespace CashShop

/-- There is nothing to be done about a message on this topic with this value. -/
inductive Unusable : Topic → Json → Prop where
  | outbound {t : Topic} {j : Json} (topic : t ∉ Topic.inbound) : Unusable t j
  | malformed {t : Topic} {j : Json} {e : Wire.DecodeError} (topic : t ∈ Topic.inbound) (value : t.decode j = .error e) :
      Unusable t j
  | accountStatus {j : Json} {e : AccountEvent} (value : AccountEvent.decode j = .ok e) (status : e.status = .other) :
      Unusable .accountStatus j
  | shopCommand {j : Json} (value : ShopCommand.decode j = .ok .unsupported) : Unusable .shopCommand j
  | compartmentCommand {j : Json} (value : CompartmentCommand.decode j = .ok .unsupported) :
      Unusable .compartmentCommand j
  | itemCommand {j : Json} (value : ItemCommand.decode j = .ok .unsupported) : Unusable .itemCommand j
  | characterStatus {j : Json} (value : CharacterEvent.decode j = .ok .other) : Unusable .characterStatus j
  | failure {j : Json} {b : CharacterId} {k : CompartmentId} {f : InventoryFailure}
      (value : CharacterEvent.decode j = .ok (.error b k f)) (unrelated : f.code ≠ moveFailedCode ∨ f.item = none) :
      Unusable .characterStatus j

namespace Unusable

variable {t : Topic} {m : Message}

theorem call? (h : Unusable t m.value) : m.call? t = none := by
  obtain ⟨key, j⟩ := m
  simp only [Message.call?] at h ⊢
  cases h with
  | outbound topic =>
    cases t with
    | accountStatus | shopCommand | compartmentCommand | itemCommand | characterStatus => exact absurd (by decide) topic
    | _ => rfl
  | @malformed _ _ e topic value =>
    have hunread {α : Type} {d : Wire.Decoder α} {call? : α → Option Call} (hd : d j = .error e) :
        (d j).toOption.bind call? = none := by
      rw [hd]
      rfl
    cases t with
    | accountStatus | shopCommand | compartmentCommand | itemCommand | characterStatus => exact hunread value
    | _ => rfl
  | accountStatus value status => simp [value, Except.toOption, AccountEvent.call?, status]
  | shopCommand value | compartmentCommand value | itemCommand value | characterStatus value =>
    rw [value]
    rfl
  | failure value unrelated =>
    obtain hcode | hitem := unrelated
    · simp [value, Except.toOption, CharacterEvent.call?, hcode]
    · simp [value, Except.toOption, CharacterEvent.call?, hitem]

end Unusable

namespace Service

variable {α : Type} {s : Service} {amb : Ambient} {c : Call} {t : Topic} {m : Message} {reason : String}

section Malformed

theorem badRequest_of_malformed {r : Except RequestError Verdict} :
    r.mapError ConsumerError.ofRequest = .error (.malformed reason) ↔ r = .error (.badRequest reason) := by
  cases r with
  | ok v => simp [Except.mapError]
  | error e =>
    cases e with
    | badRequest reason' => simp [Except.mapError, ConsumerError.ofRequest]
    | internal f => simp [Except.mapError, ConsumerError.ofRequest]
    | workflow e =>
      cases hb : e.isBusiness <;> simp [Except.mapError, ConsumerError.ofRequest, hb]

theorem settle_ne_badRequest (r : Except WorkflowError α × Service) (verdict : α → Verdict) :
    (settle r verdict).1 ≠ .error (.badRequest reason) := by
  obtain ⟨r, s'⟩ := r
  cases r <;> simp [settle, Except.map, Except.mapError]

theorem badRequest_decoded_iff {d : Wire.Decoder α} {handle : α → Except RequestError Verdict × Service}
    (hh : ∀ x reason, (handle x).1 ≠ .error (.badRequest reason)) :
    (∃ reason, (decoded d t m s handle).1 = .error (.badRequest reason)) ↔ ∃ e, d m.value = .error e := by
  unfold decoded
  cases d m.value with
  | ok x => simp [hh x]
  | error e => simp

theorem badRequest_handle_iff : (∃ reason, (s.handle amb t m).1 = .error (.badRequest reason)) ↔
    t ∈ Topic.inbound ∧ ∃ e, t.decode m.value = .error e := by
  cases t with
  | accountStatus =>
    refine (badRequest_decoded_iff fun e reason => ?_).trans (and_iff_right (by decide)).symm
    obtain ⟨a, name, status⟩ := e
    cases status with
    | created | deleted => exact settle_ne_badRequest _ _
    | other => exact fun h => by cases h
  | shopCommand =>
    refine (badRequest_decoded_iff fun x reason => ?_).trans (and_iff_right (by decide)).symm
    cases x with
    | unsupported => exact fun h => by cases h
    | _ => exact settle_ne_badRequest _ _
  | compartmentCommand =>
    refine (badRequest_decoded_iff fun x reason => ?_).trans (and_iff_right (by decide)).symm
    cases x with
    | unsupported => exact fun h => by cases h
    | _ => exact settle_ne_badRequest _ _
  | itemCommand =>
    refine (badRequest_decoded_iff fun x reason => ?_).trans (and_iff_right (by decide)).symm
    cases x with
    | unsupported => exact fun h => by cases h
    | create => exact settle_ne_badRequest _ _
  | characterStatus =>
    refine (badRequest_decoded_iff fun x reason => ?_).trans (and_iff_right (by decide)).symm
    cases x with
    | other => exact fun h => by cases h
    | itemMoved => exact settle_ne_badRequest _ _
    | error b k failure =>
      obtain ⟨code, item, txn⟩ := failure
      cases item with
      | none => exact fun h => by cases h
      | some i =>
        rw [handleCharacter]
        dsimp only
        split
        · exact settle_ne_badRequest _ _
        · exact fun h => by cases h
  | shopStatus | compartmentStatus | inventoryStatus | itemStatus | characterCommand | walletStatus =>
    exact iff_of_false (fun h => by cases h.choose_spec) fun h => absurd h.1 (by decide)

end Malformed

theorem frame_call_of_dropped (h : (s.call amb c).1 = .ok (.callback .dropped)) :
    (s.call amb c).2.store = s.store ∧ (s.call amb c).2.transport = s.transport := by
  cases c with
  | moved k =>
    cases hp : Call.plan? s amb (.moved k) with
    | none =>
      rw [call_moved_of_opposes (opposes_of_no_plan hp)]
      exact ⟨rfl, rfl⟩
    | some p =>
      rw [(call_of_not_done hp h rfl).1]
      exact frame_plan hp
  | moveFailed b i u =>
    obtain happlied | ⟨rs, hdropped | hfailed⟩ := s.call_moveFailed_cases amb b i u
    · rw [happlied] at h
      cases h
    · rw [hdropped]
      exact ⟨rfl, rfl⟩
    · rw [hfailed] at h
      cases h
  | _ => exact absurd h (answered_ne (by simp))

theorem frame_dispatch_of_ignored (h : (s.dispatch amb t m).1 = .ok .ignored) :
    (s.dispatch amb t m).2.store = s.store ∧ (s.dispatch amb t m).2.transport = s.transport := by
  rw [dispatch_snd]
  cases hm : m.call? t with
  | none => exact ⟨rfl, rfl⟩
  | some c =>
    rw [dispatch_fst hm] at h
    refine frame_call_of_dropped ?_
    cases hr : (s.call amb c).1 with
    | error e =>
      rw [hr] at h
      cases h
    | ok a =>
      rw [hr] at h
      have hverdict : a.verdict = .ignored := Except.ok.inj h
      cases a with
      | callback outcome =>
        cases outcome with
        | dropped => rfl
        | applied => cases hverdict
      | _ => cases hverdict

/-- A message is malformed exactly if it comes on a topic that the shop consumes and cannot be read as a message of this
topic. Neither such a message nor any other of which the shop can make no use changes anything in the service. What is
ignored for another reason, because a callback was dropped, changes neither the store nor what has been published. -/
theorem unusable_messages_change_nothing (s : Service) (amb : Ambient) (t : Topic) (m : Message) :
    ((∃ reason, (s.dispatch amb t m).1 = .error (.malformed reason)) ↔
      t ∈ Topic.inbound ∧ ∃ e, t.decode m.value = .error e) ∧
    ((∃ reason, (s.dispatch amb t m).1 = .error (.malformed reason)) ∨ Unusable t m.value →
      (s.dispatch amb t m).2 = s) ∧
    ((s.dispatch amb t m).1 = .ok .ignored →
      (s.dispatch amb t m).2.store = s.store ∧ (s.dispatch amb t m).2.transport = s.transport) := by
  have hmalformed : (∃ reason, (s.dispatch amb t m).1 = .error (.malformed reason)) ↔
      t ∈ Topic.inbound ∧ ∃ e, t.decode m.value = .error e :=
    (exists_congr fun _ => badRequest_of_malformed).trans badRequest_handle_iff
  refine ⟨hmalformed, fun h => ?_, frame_dispatch_of_ignored⟩
  have hunusable : Unusable t m.value := by
    obtain h | h := h
    · obtain ⟨topic, e, value⟩ := hmalformed.1 h
      exact .malformed topic value
    · exact h
  rw [dispatch_snd, hunusable.call?]
  rfl

theorem unusable_messages_change_nothing_unrelated :
    let moving := sold.after [.call .opening (.move ⟨7⟩ ⟨⟨1⟩, 1, 3⟩)]
    let unrelated : CharacterEvent := .error ⟨7⟩ ⟨.ofNat 9⟩ ⟨"INVENTORY_FULL", some ⟨1⟩, none⟩
    let report : Message := ⟨"7", unrelated.toJson⟩
    Unusable .characterStatus report.value ∧ moving.reservations.isEmpty = false ∧
      (moving.dispatch .opening .characterStatus report).2 = moving := by
  intro moving unrelated report
  have hunusable : Unusable .characterStatus report.value :=
    .failure (CharacterEvent.decode_toJson unrelated) (.inl (by decide))
  exact ⟨hunusable, by decide, (unusable_messages_change_nothing moving .opening _ report).2.1 (.inr hunusable)⟩

end Service

end CashShop
