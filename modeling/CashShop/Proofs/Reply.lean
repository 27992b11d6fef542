import CashShop.Proofs.Announcement
import CashShop.Proofs.FailedCompletion
import CashShop.Proofs.Plan

namespace CashShop

open Work

namespace Call

def code? : Call → Except WorkflowError Answer → Option ErrorCode
  | .purchase _ _, .ok (.purchase .inventoryFull) => some .inventoryFull
  | .moveFailed _ _ _, .ok (.callback .applied) => some .unknownError
  | .accept _, .error e => some (Handoff.acceptCode e)
  | .purchase _ _, .error e | .increaseByType _ _ _, .error e | .increaseByItem _ _ _, .error e
  | .release _, .error e | .move _ _, .error e | .moved _, .error e => some e.code
  | _, _ => none

def errorEvent? (code : ErrorCode) : Call → Option (Topic × Message)
  | .purchase b _ | .increaseByType b _ _ | .increaseByItem b _ _ | .move b _ | .moved ⟨b, _, _⟩ | .moveFailed b _ _ =>
    some (.shopStatus, ⟨toString b, (ShopEvent.error b code).toJson⟩)
  | .accept h | .release h =>
    some (.compartmentStatus, ⟨toString h.account, (CompartmentEvent.error h.ref code h.transaction).toJson⟩)
  | .accountCreated _ | .accountDeleted _ | .grant _ => none

variable {c : Call} {code : ErrorCode} {r : Except WorkflowError Answer}

theorem isErrorEvent {t : Topic} {m : Message} (h : c.errorEvent? code = some (t, m)) : IsErrorEvent t m := by
  cases c with
  | accept g | release g =>
    cases h
    exact .compartment g code
  | accountCreated | accountDeleted | grant => cases h
  | _ =>
    cases h
    exact .shop _ code

/-- Only a full compartment and a transfer that is called off are told as errors without being failures. -/
theorem eq_of_code?_ok {a : Answer} (h : c.code? (.ok a) = some code) :
    (∃ b o, c = .purchase b o ∧ a = .purchase .inventoryFull ∧ code = .inventoryFull) ∨
      ∃ b i t, c = .moveFailed b i t ∧ a = .callback .applied ∧ code = .unknownError := by
  cases c with
  | purchase b o =>
    cases a with
    | purchase outcome =>
      cases outcome with
      | inventoryFull =>
        cases h
        exact .inl ⟨b, o, rfl, rfl, rfl⟩
      | completed | duplicate => cases h
    | _ => cases h
  | moveFailed b i t =>
    cases a with
    | callback outcome =>
      cases outcome with
      | applied =>
        cases h
        exact .inr ⟨b, i, t, rfl, rfl, rfl⟩
      | dropped => cases h
    | _ => cases h
  | _ => cases h

theorem conclude_tells {s : Service} {amb : Ambient} {p : Plan} (hp : c.plan? s amb = some p)
    (hc : c.code? r = some code) (s' : Service) : ∃ t m, c.errorEvent? code = some (t, m) ∧
      (c.conclude r s').transport = (s'.announce t m.key m.value).transport := by
  cases r with
  | error e =>
    cases c with
    | accountCreated | accountDeleted | grant => cases hc
    | move | moveFailed => cases hp
    | _ =>
      cases hc
      exact ⟨_, _, rfl, rfl⟩
  | ok a =>
    obtain ⟨b, o, rfl, rfl, rfl⟩ | ⟨b, i, t, rfl, -⟩ := eq_of_code?_ok hc
    · exact ⟨_, _, rfl, rfl⟩
    · cases hp

end Call

def Answer.verdict : Answer → Verdict
  | callback outcome => .ofCallback outcome
  | _ => .applied

namespace Service

variable {s : Service} {amb : Ambient} {c : Call} {a : Answer} {e : WorkflowError} {code : ErrorCode}

theorem carried_announce (s : Service) (t : Topic) (key : String) (value : Json) :
    (s.announce t key value).transport.carried =
      s.transport.carried ++ if s.transport.refuses t then [] else [⟨t, [⟨key, value⟩], true⟩] := by
  change Transport.carried (((Outbox.empty.put t ⟨key, value⟩).flush Transport.publish s.transport).2) = _
  rw [Transport.flush_put]
  cases hr : s.transport.refuses t <;> simp [Transport.carried]

theorem carried_call_move_of_error {b : CharacterId} {o : MoveOrder} (he : (s.call amb (.move b o)).1 = .error e) :
    (s.call amb (.move b o)).2.transport.carried =
      (s.announce .shopStatus (toString b) (ShopEvent.error b e.code).toJson).transport.carried := by
  cases hl : Transfer.locate s b o with
  | error e' =>
    rw [call_move_of_not_located hl] at he ⊢
    cases he
    rfl
  | ok found =>
    obtain ⟨tab, i⟩ := found
    cases hr : s.reservations.live? i amb.now with
    | some r =>
      rw [call_move_of_live hl hr] at he ⊢
      cases he
      rfl
    | none =>
      cases ht : s.transport.refuses .characterCommand with
      | false =>
        rw [call_move_of_sent hl hr ht] at he
        cases he
      | true =>
        rw [call_move_of_refused hl hr ht] at he ⊢
        cases he
        rw [carried_announce, reportFailure, answerError, carried_announce]
        simp [Transport.carried, Transport.log, count, Transport.refuses]

/-- Whatever the transport is like, an outcome with an error code is told by the error event of the call, and nothing
else is carried. -/
theorem told_of_code (hc : c.code? (s.call amb c).1 = some code) : ∃ t m, c.errorEvent? code = some (t, m) ∧
    (s.call amb c).2.transport.carried = (s.announce t m.key m.value).transport.carried := by
  cases hp : c.plan? s amb with
  | some p =>
    have hconcluded : (s.call amb c).2 = c.conclude (s.call amb c).1 p.base := by
      cases hr : (s.call amb c).1 with
      | error e => exact (call_of_error hp hr).1
      | ok a =>
        rw [hr] at hc
        obtain ⟨b, o, rfl, rfl, -⟩ | ⟨b, i, t, rfl, -⟩ := Call.eq_of_code?_ok hc
        · exact (call_of_not_done hp hr rfl).1
        · cases hp
    obtain ⟨t, m, hevent, htransport⟩ := Call.conclude_tells hp hc p.base
    refine ⟨t, m, hevent, ?_⟩
    rw [hconcluded, htransport, carried_announce, carried_announce, (frame_plan hp).2]
  | none =>
    cases c with
    | move b o =>
      cases hr : (s.call amb (.move b o)).1 with
      | error e =>
        rw [hr] at hc
        cases hc
        exact ⟨_, _, rfl, carried_call_move_of_error hr⟩
      | ok a =>
        rw [hr] at hc
        cases hc
    | moved m =>
      cases hr : (s.call amb (.moved m)).1 with
      | error e =>
        rw [hr] at hc
        cases hc
        obtain ⟨-, -, -, rfl⟩ := moved_failed_iff.1 hr
        rw [call_moved_of_error hr]
        exact ⟨_, _, rfl, rfl⟩
      | ok a =>
        rw [hr] at hc
        cases hc
    | moveFailed b i t =>
      cases hr : (s.call amb (.moveFailed b i t)).1 with
      | error e =>
        rw [hr] at hc
        cases hc
      | ok a =>
        rw [hr] at hc
        obtain ⟨_, _, h, -⟩ | ⟨_, _, _, -, rfl, rfl⟩ := Call.eq_of_code?_ok hc
        · cases h
        · rw [call_moveFailed_of_applied hr]
          exact ⟨_, _, rfl, rfl⟩
    | _ => cases hp

theorem internal_of_untold (he : (s.call amb c).1 = .error e) (hc : c.code? (.error e) = none) :
    ∃ f, e = .internal f := by
  cases c with
  | accountCreated a =>
    obtain hf | hr := (call_of_error rfl he).2.of_ok
    · exact hf
    · exact AccountSetup.internal_of_refuses_work (refuses_map.1 hr)
  | accountDeleted a =>
    obtain hf | hr := (call_of_error rfl he).2.of_ok
    · exact hf
    · exact absurd (refuses_map.1 hr) AccountId.not_refuses_deleteHoldings
  | grant g =>
    obtain hf | hr := (call_of_error rfl he).2.of_ok
    · exact hf
    · exact Registry.internal_of_refuses_create (refuses_map.1 hr)
  | moveFailed b i t =>
    obtain ⟨-, -, rfl⟩ := moveFailed_failed_iff.1 he
    exact ⟨_, rfl⟩
  | _ => cases hc

/-- What becomes of a message: the verdict is that on its call; if it makes none, it is ignored or cannot be decoded. -/
inductive Handled (s : Service) (amb : Ambient) : Option Call → Except RequestError Verdict → Prop where
  | called (c : Call) : Handled s amb (some c) (((s.call amb c).1.map Answer.verdict).mapError .workflow)
  | ignored : Handled s amb none (.ok .ignored)
  | malformed (reason : String) : Handled s amb none (.error (.badRequest reason))

section Handled

variable {α : Type} {t : Topic} {m : Message}

theorem handled_decoded {d : Wire.Decoder α} {handle : α → Except RequestError Verdict × Service}
    {call? : α → Option Call} (h : ∀ x, s.Handled amb (call? x) (handle x).1) :
    s.Handled amb ((d m.value).toOption.bind call?) (decoded d t m s handle).1 := by
  unfold decoded
  cases d m.value with
  | ok x => exact h x
  | error e => exact .malformed _

theorem handled_settle {r : Except WorkflowError α × Service} {f : α → Answer} {verdict : α → Verdict}
    (hc : s.call amb c = answered f r) (h : ∀ x, (f x).verdict = verdict x) :
    s.Handled amb (some c) (settle r verdict).1 := by
  have hr : (settle r verdict).1 = ((s.call amb c).1.map Answer.verdict).mapError .workflow := by
    rw [hc]
    obtain ⟨r, s'⟩ := r
    cases r with
    | error e => rfl
    | ok x => exact congrArg Except.ok (h x).symm
  rw [hr]
  exact .called c

theorem handled_handle (s : Service) (amb : Ambient) (t : Topic) (m : Message) :
    s.Handled amb (m.call? t) (s.handle amb t m).1 := by
  cases t with
  | accountStatus =>
    refine handled_decoded fun e => ?_
    obtain ⟨a, name, status⟩ := e
    cases status with
    | created | deleted => exact handled_settle rfl fun _ => rfl
    | other => exact .ignored
  | shopCommand =>
    refine handled_decoded fun x => ?_
    cases x with
    | unsupported => exact .ignored
    | _ => exact handled_settle rfl fun _ => rfl
  | compartmentCommand =>
    refine handled_decoded fun x => ?_
    cases x with
    | unsupported => exact .ignored
    | _ => exact handled_settle rfl fun _ => rfl
  | itemCommand =>
    refine handled_decoded fun x => ?_
    cases x with
    | unsupported => exact .ignored
    | create => exact handled_settle rfl fun _ => rfl
  | characterStatus =>
    refine handled_decoded fun x => ?_
    cases x with
    | other => exact .ignored
    | itemMoved => exact handled_settle rfl fun _ => rfl
    | error b k failure =>
      obtain ⟨code, item, txn⟩ := failure
      cases item with
      | none => exact .ignored
      | some i =>
        by_cases hcode : code = moveFailedCode
        · subst hcode
          simp only [handleCharacter, CharacterEvent.call?, if_true, Option.bind_some]
          exact handled_settle rfl fun _ => rfl
        · simp only [handleCharacter, CharacterEvent.call?, if_neg hcode, Option.bind_some]
          exact .ignored
  | shopStatus | compartmentStatus | inventoryStatus | itemStatus | characterCommand | walletStatus => exact .ignored

theorem dispatch_fst (hm : m.call? t = some c) : (s.dispatch amb t m).1 =
    ((s.call amb c).1.map Answer.verdict).mapError fun e => .ofRequest (.workflow e) := by
  have hhandled := s.handled_handle amb t m
  rw [hm] at hhandled
  rw [dispatch]
  generalize (s.handle amb t m).1 = r at hhandled ⊢
  cases hhandled with
  | called => cases (s.call amb c).1 <;> rfl

theorem dispatch_of_no_call (hm : m.call? t = none) :
    (s.dispatch amb t m).1 = .ok .ignored ∨ ∃ reason, (s.dispatch amb t m).1 = .error (.malformed reason) := by
  have hhandled := s.handled_handle amb t m
  rw [hm] at hhandled
  rw [dispatch]
  generalize (s.handle amb t m).1 = r at hhandled ⊢
  cases hhandled with
  | ignored => exact .inl rfl
  | malformed reason => exact .inr ⟨reason, rfl⟩

end Handled

theorem exists_call_of_rejected {t : Topic} {m : Message} (h : (s.dispatch amb t m).1 = .error (.rejected e)) :
    ∃ c code, m.call? t = some c ∧ (s.call amb c).1 = .error e ∧ c.code? (s.call amb c).1 = some code := by
  cases hm : m.call? t with
  | none =>
    obtain hnone | ⟨reason, hnone⟩ : (s.dispatch amb t m).1 = .ok .ignored ∨ _ := dispatch_of_no_call hm
    · rw [hnone] at h
      cases h
    · rw [hnone] at h
      cases h
  | some c =>
    rw [dispatch_fst hm] at h
    cases hr : (s.call amb c).1 with
    | ok a =>
      rw [hr] at h
      cases h
    | error e' =>
      rw [hr] at h
      have hreject : ConsumerError.ofRequest (.workflow e') = .rejected e := Except.error.inj h
      have hbusiness : e'.isBusiness = true ∧ e' = e := by
        cases hb : e'.isBusiness with
        | true => simpa [ConsumerError.ofRequest, hb] using hreject
        | false => simp [ConsumerError.ofRequest, hb] at hreject
      obtain ⟨hb, rfl⟩ := hbusiness
      cases hc : c.code? (.error e') with
      | some code => exact ⟨c, code, rfl, hr, by rw [hr, hc]⟩
      | none =>
        obtain ⟨f, rfl⟩ := internal_of_untold hr hc
        cases hb

end Service

end CashShop
