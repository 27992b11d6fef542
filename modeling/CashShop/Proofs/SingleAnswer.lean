import CashShop.Proofs.Directory
import CashShop.Proofs.HandoffScope
import CashShop.Proofs.Reply

namespace CashShop

open Work

def Message.kind? (m : Message) : Option String :=
  match m.value with
  | .obj fields => match fields.lookup Wire.tagKey with
    | some (.str kind) => some kind
    | _ => none
  | _ => none

/-- What answers the command of a character: whatever is told of the shop, and the command to take an item. -/
def isAnswer (x : Topic × Message) : Bool :=
  x.1 = .shopStatus || (x.1 = .characterCommand && x.2.kind? = some "MOVE_CASH_ITEM")

def Call.customer? : Call → Option CharacterId
  | .purchase b _ | .increaseByType b _ _ | .increaseByItem b _ _ | .move b _ => some b
  | _ => none

def Receipt.notice (r : Receipt) : PurchaseNotice := ⟨r.template, r.price, r.compartment, r.asset, r.item⟩

def CapacityIncrease.notice (r : CapacityIncrease) : CapacityNotice := ⟨r.tab, r.capacity, r.amount⟩

inductive Replies : Call → Except WorkflowError Answer → List (Topic × Message) → Prop where
  | purchased {b : CharacterId} {o : PurchaseOrder} {r : Receipt} :
      Replies (.purchase b o) (.ok (.purchase (.completed r)))
        [(.shopStatus, ⟨toString b, (ShopEvent.purchase b r.notice).toJson⟩)]
  | full {b : CharacterId} {o : PurchaseOrder} : Replies (.purchase b o) (.ok (.purchase .inventoryFull))
      [(.shopStatus, ⟨toString b, (ShopEvent.error b .inventoryFull).toJson⟩)]
  | duplicate {b : CharacterId} {o : PurchaseOrder} : Replies (.purchase b o) (.ok (.purchase .duplicate)) []
  | widened {c : Call} {b : CharacterId} {r : CapacityIncrease} (customer : c.customer? = some b) :
      Replies c (.ok (.widened r)) [(.shopStatus, ⟨toString b, (ShopEvent.capacityIncreased b r.notice).toJson⟩)]
  | started {b : CharacterId} {o : MoveOrder} {tab : Tab} {t : TransferStarted}
      (resolved : resolveTab o.tab = .ok tab) : Replies (.move b o) (.ok (.started t))
        [(.characterCommand, Transfer.command b tab o.slot t.item t.transaction)]
  | refused {c : Call} {b : CharacterId} {e : WorkflowError} (customer : c.customer? = some b) :
      Replies c (.error e) [(.shopStatus, ⟨toString b, (ShopEvent.error b e.code).toJson⟩)]
  | accepted {h : Handoff} {x : Asset} : Replies (.accept h) (.ok (.accepted x))
      [(.compartmentStatus, ⟨toString h.account, (CompartmentEvent.accepted h.ref h.transaction).toJson⟩)]
  | released {h : Handoff} {x : Asset} : Replies (.release h) (.ok (.released x))
      [(.compartmentStatus, ⟨toString h.account, (CompartmentEvent.released h.ref h.transaction).toJson⟩)]
  | declined {c : Call} {h : Handoff} {e : WorkflowError} {code : ErrorCode} (handoff : c.handoff? = some h)
      (coded : c.code? (.error e) = some code) : Replies c (.error e)
        [(.compartmentStatus, ⟨toString h.account, (CompartmentEvent.error h.ref code h.transaction).toJson⟩)]

theorem Replies.length_eq_one {c : Call} {r : Except WorkflowError Answer} {answers : List (Topic × Message)}
    (h : Replies c r answers) (hr : r ≠ .ok (.purchase .duplicate)) : answers.length = 1 := by
  cases h with
  | duplicate => exact absurd rfl hr
  | _ => rfl

namespace Call

variable {c : Call} {b : CharacterId} {h : Handoff}

theorem code?_of_customer (hc : c.customer? = some b) (e : WorkflowError) : c.code? (.error e) = some e.code := by
  cases c with
  | purchase | increaseByType | increaseByItem | move => rfl
  | _ => cases hc

theorem errorEvent?_of_customer (hc : c.customer? = some b) (code : ErrorCode) :
    c.errorEvent? code = some (.shopStatus, ⟨toString b, (ShopEvent.error b code).toJson⟩) := by
  cases c with
  | purchase | increaseByType | increaseByItem | move =>
    cases hc
    rfl
  | _ => cases hc

theorem exists_code_of_handoff (hc : c.handoff? = some h) (e : WorkflowError) :
    ∃ code, c.code? (.error e) = some code := by
  cases c with
  | accept | release => exact ⟨_, rfl⟩
  | _ => cases hc

theorem errorEvent?_of_handoff (hc : c.handoff? = some h) (code : ErrorCode) : c.errorEvent? code =
    some (.compartmentStatus, ⟨toString h.account, (CompartmentEvent.error h.ref code h.transaction).toJson⟩) := by
  cases c with
  | accept | release =>
    cases hc
    rfl
  | _ => cases hc

end Call

theorem Transfer.resolveTab_of_locate {s : Service} {b : CharacterId} {o : MoveOrder} {tab : Tab} {i : ItemId}
    (h : locate s b o = .ok (tab, i)) : resolveTab o.tab = .ok tab := by
  rw [locate, bind_eq_ok] at h
  obtain ⟨tab', htab, h⟩ := h
  rw [bind_eq_ok] at h
  obtain ⟨ch, -, h⟩ := h
  dsimp only at h
  split at h
  · cases h
  · split at h
    · cases h
      exact htab
    · cases h

namespace Service

variable {s : Service} {amb : Ambient} {c : Call} {b : CharacterId} {h : Handoff} {a : Answer} {code : ErrorCode}

def Carries (s : Service) (amb : Ambient) (c : Call) (ps : List Publication) : Prop :=
  (s.call amb c).2.transport.carried = s.transport.carried ++ ps

theorem carries_of_code (hbus : s.transport.Works) (hc : c.code? (s.call amb c).1 = some code) :
    ∃ t m, c.errorEvent? code = some (t, m) ∧ s.Carries amb c [⟨t, [m], true⟩] := by
  obtain ⟨t, m, hevent, htold⟩ := told_of_code hc
  refine ⟨t, m, hevent, ?_⟩
  rw [Carries, htold, carried_announce, hbus.refuses]
  rfl

theorem carries_of_commits (hbus : s.transport.Works) (hr : (s.call amb c).1 = .ok a) (hdone : a.isDone = true)
    (hs : ∀ t, a ≠ .started t) (ha : a ≠ .callback .applied) :
    ∃ d, Commits s amb c a d ∧ s.Carries amb c d.outbox.publications := by
  obtain ⟨d, commits, -, htransport⟩ := committed_of_done hr hdone hs ha
  refine ⟨d, commits, ?_⟩
  rw [Carries, htransport, Transport.carried_flush hbus]

theorem carries_of_duplicate {o : PurchaseOrder} (hr : (s.call amb (.purchase b o)).1 = .ok (.purchase .duplicate)) :
    s.Carries amb (.purchase b o) [] := by
  obtain ⟨hs, -⟩ := call_of_not_done rfl hr rfl
  rw [Carries, hs, List.append_nil]
  rfl

/-- The call of a character has an answer, and an order that is passed over makes no noise at all. -/
def Answers (s : Service) (amb : Ambient) (c : Call) : Prop :=
  ∃ ps, s.Carries amb c ps ∧ Replies c (s.call amb c).1 ((heard ps).filter isAnswer) ∧
    ((s.call amb c).1 = .ok (.purchase .duplicate) → ps = [])

theorem answers_of_error (hbus : s.transport.Works) (hc : c.customer? = some b) {e : WorkflowError}
    (he : (s.call amb c).1 = .error e) : s.Answers amb c := by
  have hcode : c.code? (s.call amb c).1 = some e.code := by rw [he, Call.code?_of_customer hc]
  obtain ⟨t, m, hevent, hps⟩ := carries_of_code hbus hcode
  rw [Call.errorEvent?_of_customer hc] at hevent
  cases hevent
  refine ⟨_, hps, ?_, by simp [he]⟩
  rw [he]
  exact .refused hc

theorem answers_purchase (hbus : s.transport.Works) (hdir : s.directory.Faithful) {o : PurchaseOrder}
    {outcome : PurchaseOutcome} (hr : (s.call amb (.purchase b o)).1 = .ok (.purchase outcome)) :
    s.Answers amb (.purchase b o) := by
  cases outcome with
  | completed r =>
    obtain ⟨d, commits, hps⟩ := carries_of_commits hbus hr rfl (by simp) (by simp)
    refine ⟨_, hps, ?_, by simp [hr]⟩
    rw [hr]
    cases commits with
    | @purchase _ _ p w k cash expiration terms deliverable =>
      have hid : p.character.id = b := hdir.id_of_resolve terms
      subst hid
      exact .purchased
  | inventoryFull =>
    have hcode : Call.code? (.purchase b o) (s.call amb (.purchase b o)).1 = some .inventoryFull := by
      rw [hr]
      rfl
    obtain ⟨t, m, ⟨⟩, hps⟩ := carries_of_code hbus hcode
    refine ⟨_, hps, ?_, by simp [hr]⟩
    rw [hr]
    exact .full
  | duplicate =>
    refine ⟨_, carries_of_duplicate hr, ?_, fun _ => rfl⟩
    rw [hr]
    exact .duplicate

theorem answers_widening (hbus : s.transport.Works) (hc : c.customer? = some b) {r : CapacityIncrease}
    (hr : (s.call amb c).1 = .ok (.widened r)) : s.Answers amb c := by
  obtain ⟨d, commits, hps⟩ := carries_of_commits hbus hr rfl (by simp) (by simp)
  refine ⟨_, hps, ?_, by simp [hr]⟩
  rw [hr]
  cases commits with
  | @widening _ b' _ o lane ch w current asked =>
    have hb : b' = b := by
      cases c with
      | increaseByType | increaseByItem =>
        exact (congrArg Prod.fst (Option.some.inj asked)).symm.trans (Option.some.inj hc)
      | _ => cases asked
    subst hb
    exact .widened hc

theorem answers_move {o : MoveOrder} {t : TransferStarted}
    (hr : (s.call amb (.move b o)).1 = .ok (.started t)) : s.Answers amb (.move b o) := by
  obtain ⟨i, u⟩ := t
  obtain ⟨rfl, ⟨tab, hl⟩, hlive, ht⟩ := started_iff.1 hr
  have hps : s.Carries amb (.move b o)
      [⟨.characterCommand, [Transfer.command b tab o.slot i amb.transaction], true⟩] := by
    rw [Carries, call_move_of_sent hl hlive ht]
    exact Transport.carried_log _ _ _
  refine ⟨_, hps, ?_, by simp [hr]⟩
  rw [hr]
  exact .started (Transfer.resolveTab_of_locate hl)

theorem answers_of_customer (amb : Ambient) (hbus : s.transport.Works) (hdir : s.directory.Faithful)
    (hc : c.customer? = some b) :
    s.Answers amb c := by
  cases hr : (s.call amb c).1 with
  | error e => exact answers_of_error hbus hc hr
  | ok a =>
    cases c with
    | purchase _ o =>
      cases hc
      obtain ⟨outcome, -, rfl⟩ := answered_eq_ok.1 hr
      exact answers_purchase hbus hdir hr
    | increaseByType | increaseByItem =>
      obtain ⟨r, -, rfl⟩ := answered_eq_ok.1 hr
      exact answers_widening hbus hc hr
    | move _ o =>
      cases hc
      obtain ⟨t, -, rfl⟩ := answered_eq_ok.1 hr
      exact answers_move hr
    | _ => cases hc

theorem answers_handoff (amb : Ambient) (hbus : s.transport.Works) (hc : c.handoff? = some h) :
    ∃ ps, s.Carries amb c ps ∧ Replies c (s.call amb c).1 (heard ps) := by
  cases hr : (s.call amb c).1 with
  | error e =>
    obtain ⟨code, hcode⟩ := Call.exists_code_of_handoff hc e
    obtain ⟨t, m, hevent, hps⟩ := carries_of_code hbus (by rw [hr, hcode])
    rw [Call.errorEvent?_of_handoff hc] at hevent
    cases hevent
    exact ⟨_, hps, .declined hc hcode⟩
  | ok a =>
    obtain ⟨k, x, event, -, hevent, -, -, -, -, htransport⟩ := exists_of_handoff_ok hc hr
    have hps : s.Carries amb c [⟨.compartmentStatus, [⟨toString h.account, event.toJson⟩], true⟩] := by
      rw [Carries, htransport, tell, carried_announce, hbus.refuses]
      rfl
    refine ⟨_, hps, ?_⟩
    cases c with
    | accept =>
      cases hc
      obtain ⟨y, -, rfl⟩ := answered_eq_ok.1 hr
      cases hevent
      exact .accepted
    | release =>
      cases hc
      obtain ⟨y, -, rfl⟩ := answered_eq_ok.1 hr
      cases hevent
      exact .released
    | _ => cases hc

theorem exists_carried (hbus : s.transport.Works) (amb : Ambient) (t : Topic) (m : Message) :
    ∃ ps, (s.dispatch amb t m).2.transport.carried = s.transport.carried ++ ps := by
  rw [dispatch_snd]
  cases m.call? t with
  | none => exact ⟨[], (List.append_nil _).symm⟩
  | some c =>
    obtain ⟨ps, -, hps⟩ := call_announces hbus amb c
    exact ⟨ps, hps⟩

/-- One answer for each command. On a bus that refuses nothing a command of a character is answered by one message, an
order that has been carried out before by none at all; a handoff is answered by the only message that is published for
it. Whatever is rejected has been told as one error, and as nothing else. -/
theorem one_answer_per_command (hbus : s.transport.Works) (hdir : s.directory.Faithful) (amb : Ambient) (t : Topic)
    (m : Message) : ∃ ps, (s.dispatch amb t m).2.transport.carried = s.transport.carried ++ ps ∧
      (∀ x, t = .shopCommand → ShopCommand.decode m.value = .ok x → x ≠ .unsupported → ∃ c, x.call? = some c ∧
        Replies c (s.call amb c).1 ((heard ps).filter isAnswer) ∧
        (((heard ps).filter isAnswer).length = 1 ∨ (s.call amb c).1 = .ok (.purchase .duplicate) ∧ ps = [])) ∧
      (∀ x, t = .compartmentCommand → CompartmentCommand.decode m.value = .ok x → x ≠ .unsupported →
        ∃ c, x.call? = some c ∧ Replies c (s.call amb c).1 (heard ps)) ∧
      ∀ e, (s.dispatch amb t m).1 = .error (.rejected e) →
        ∃ topic message, IsErrorEvent topic message ∧ ps = [⟨topic, [message], true⟩] := by
  obtain ⟨ps, hps⟩ := exists_carried hbus amb t m
  have hcarried {c : Call} {ps' : List Publication} (hm : m.call? t = some c) (h : s.Carries amb c ps') : ps' = ps := by
    rw [dispatch_snd, hm] at hps
    exact List.append_cancel_left (h.symm.trans hps)
  refine ⟨ps, hps, ?_, ?_, ?_⟩
  · rintro x rfl hx hsupported
    obtain ⟨c, b, hc, hb⟩ : ∃ c b, x.call? = some c ∧ c.customer? = some b := by
      cases x with
      | unsupported => exact absurd rfl hsupported
      | _ => exact ⟨_, _, rfl, rfl⟩
    have hm : m.call? .shopCommand = some c := by simp [Message.call?, hx, Except.toOption, hc]
    obtain ⟨ps', h, hreplies, hsilent⟩ := answers_of_customer amb hbus hdir hb
    obtain rfl := hcarried hm h
    refine ⟨c, hc, hreplies, ?_⟩
    by_cases hdup : (s.call amb c).1 = .ok (.purchase .duplicate)
    · exact .inr ⟨hdup, hsilent hdup⟩
    · exact .inl (hreplies.length_eq_one hdup)
  · rintro x rfl hx hsupported
    obtain ⟨c, h, hc, hh⟩ : ∃ c h, x.call? = some c ∧ c.handoff? = some h := by
      cases x with
      | unsupported => exact absurd rfl hsupported
      | _ => exact ⟨_, _, rfl, rfl⟩
    have hm : m.call? .compartmentCommand = some c := by simp [Message.call?, hx, Except.toOption, hc]
    obtain ⟨ps', h, hreplies⟩ := answers_handoff amb hbus hh
    obtain rfl := hcarried hm h
    exact ⟨c, hc, hreplies⟩
  · intro e he
    obtain ⟨c, code, hm, -, hcode⟩ := exists_call_of_rejected he
    obtain ⟨topic, message, hevent, h⟩ := carries_of_code hbus hcode
    exact ⟨topic, message, Call.isErrorEvent hevent, (hcarried hm h).symm⟩

theorem one_answer_per_command_sale : stocked.transport.Works ∧ stocked.directory.Faithful ∧
    ∃ ps, (stocked.dispatch .opening .shopCommand
        ⟨"7", (ShopCommand.purchase ⟨7⟩ ⟨1, ⟨20⟩, none⟩).toJson⟩).2.transport.carried =
      stocked.transport.carried ++ ps ∧ ((heard ps).filter isAnswer).length = 1 := by
  have hbus : stocked.transport.Works := by decide
  have hdir : stocked.directory.Faithful := by
    rintro b withInventory ch ⟨⟩
    rfl
  obtain ⟨ps, hps, hshop, -⟩ := one_answer_per_command hbus hdir .opening .shopCommand
    ⟨"7", (ShopCommand.purchase ⟨7⟩ ⟨1, ⟨20⟩, none⟩).toJson⟩
  obtain ⟨c, hc, -, hlength⟩ := hshop (.purchase ⟨7⟩ ⟨1, ⟨20⟩, none⟩) rfl rfl (by simp)
  cases hc
  refine ⟨hbus, hdir, ps, hps, ?_⟩
  obtain hlength | ⟨hdup, -⟩ := hlength
  · exact hlength
  · cases hdup

end Service

end CashShop
