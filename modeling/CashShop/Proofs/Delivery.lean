import CashShop.Proofs.History
import CashShop.Proofs.TransferCall

namespace CashShop

open Work

namespace Transport

variable {t t' : Transport} {topic : Topic}

theorem delivered_eq_of_carried (h : t'.carried = t.carried) (topic : Topic) :
    t'.delivered topic = t.delivered topic := by
  have hd (u : Transport) : u.delivered topic = (u.carried.filter fun p => p.topic = topic).flatMap (·.messages) := by
    simp only [delivered, carried, List.filter_filter]
  rw [hd, hd, h]

theorem delivered_log (t : Transport) (p : Publication) (topic : Topic) : (t.log p).delivered topic =
    t.delivered topic ++ if p.topic = topic ∧ p.accepted = true then p.messages else [] := by
  simp only [delivered, log, List.filter_append, List.flatMap_append, List.filter_cons, List.filter_nil]
  congr 1
  by_cases h : p.topic = topic ∧ p.accepted = true <;> simp [h]

theorem delivered_publishAll (bs : List (Topic × List Message)) (t : Transport) (topic : Topic) :
    ∃ ms, (Publisher.publishAll publish bs t).2.delivered topic = t.delivered topic ++ ms ∧
      ∀ m ∈ ms, ∃ b ∈ bs, b.1 = topic ∧ m ∈ b.2 := by
  induction bs generalizing t with
  | nil => exact ⟨[], by simp [Publisher.publishAll], by simp⟩
  | cons b bs ih =>
    have hlog := t.delivered_log ⟨b.1, b.2, !t.refuses b.1⟩ topic
    cases hr : t.refuses b.1 with
    | true =>
      refine ⟨[], ?_, by simp⟩
      rw [Publisher.publishAll, publish]
      simpa [hr, log] using hlog
    | false =>
      obtain ⟨ms, hms, hin⟩ := ih (t.log ⟨b.1, b.2, !t.refuses b.1⟩)
      refine ⟨(if b.1 = topic then b.2 else []) ++ ms, ?_, ?_⟩
      · rw [hlog] at hms
        rw [Publisher.publishAll, publish]
        simpa [hr, log] using hms
      · intro m hm
        rcases List.mem_append.1 hm with hm | hm
        · by_cases hb : b.1 = topic
          · exact ⟨b, by simp, hb, by simpa [hb] using hm⟩
          · simp [hb] at hm
        · obtain ⟨b', hb', h⟩ := hin m hm
          exact ⟨b', List.mem_cons_of_mem _ hb', h⟩

theorem delivered_flush (o : Outbox) (t : Transport) (topic : Topic) :
    ∃ ms, (o.flush publish t).2.delivered topic = t.delivered topic ++ ms ∧ ∀ m ∈ ms, m ∈ o.batch topic := by
  obtain ⟨ms, hms, hin⟩ := t.delivered_publishAll o.batches topic
  refine ⟨ms, hms, ?_⟩
  intro m hm
  obtain ⟨b, hb, rfl, hmb⟩ := hin m hm
  obtain ⟨u, -, rfl⟩ := List.mem_map.1 hb
  exact hmb

theorem Apologizes.delivered (h : t.Apologizes t') (hshop : .shopStatus ≠ topic)
    (hcompartment : .compartmentStatus ≠ topic) : t'.delivered topic = t.delivered topic := by
  obtain h | ⟨u, m, he, h⟩ := h
  · exact delivered_eq_of_carried h _
  · have hlog : t'.carried = (t.log ⟨u, [m], true⟩).carried :=
      h.trans (by simp [carried, log])
    rw [delivered_eq_of_carried hlog, delivered_log]
    cases he with
    | shop => simp [hshop]
    | compartment => simp [hcompartment]

end Transport

def Message.Widens (m : Message) : Prop :=
  ∃ b tab amount, m = ⟨toString b, (CharacterCommand.increaseCapacity b tab amount).toJson⟩

namespace Transfer

variable {b b' : CharacterId} {tab tab' : Tab} {slot slot' : Int16} {i i' : ItemId} {t t' : TransactionId}

theorem not_widens_command : ¬ (command b tab slot i t).Widens := by
  rintro ⟨b', tab', amount, h⟩
  simp [command, CharacterCommand.toJson] at h

theorem command_inj (h : command b tab slot i t = command b' tab' slot' i' t') : i = i' ∧ t = t' := by
  simp only [command, CharacterCommand.toJson, Message.mk.injEq, Json.obj.injEq, List.cons.injEq, Prod.mk.injEq,
    Wire.itemJson, Wire.transactionJson, Json.int.injEq, Json.str.injEq, Int.ofNat_inj, true_and, and_true] at h
  obtain ⟨-, ⟨hi, -, ht⟩, -⟩ := h
  have hu : t.val = t'.val := by
    have hp := congrArg Uuid.parse? ht
    rw [Uuid.parse?_text, Uuid.parse?_text] at hp
    exact Option.some.inj hp
  exact ⟨congrArg ItemId.mk (UInt32.toNat.inj hi), congrArg TransactionId.mk hu⟩

end Transfer

namespace Draft

variable {d d' : Draft} {topic : Topic}

@[simp] theorem batch_put (d : Draft) (u : Topic) (m : Message) (topic : Topic) :
    (d.put u m).outbox.batch topic = d.outbox.batch topic ++ if u = topic then [m] else [] := by
  by_cases h : u = topic <;> simp [put, Outbox.put, Outbox.batch, List.filter_append, h]

theorem batch_dropWallet (ht : .walletStatus ≠ topic) (d : Draft) (a : AccountId) :
    (d.dropWallet a).outbox.batch topic = d.outbox.batch topic := by
  unfold dropWallet
  split
  · simp [ht]
  · rfl

theorem batch_openCompartment (ht : .compartmentStatus ≠ topic) {c : Compartment} (h : d.openCompartment c = .ok d') :
    d'.outbox.batch topic = d.outbox.batch topic := by
  obtain ⟨-, rfl⟩ := openCompartment_eq_ok.1 h
  simp [ht]

theorem batch_foldlM_open (ht : .compartmentStatus ≠ topic) {ls : List ClassLine} {k : ClassLine → Compartment}
    (h : ls.foldlM (fun d l => d.openCompartment (k l)) d = .ok d') :
    d'.outbox.batch topic = d.outbox.batch topic := by
  apply foldlM_open_induction (P := fun d1 => d1.outbox.batch topic = d.outbox.batch topic) h rfl
  intro l d1 d2 h2 hd
  rw [batch_openCompartment ht h2, hd]

theorem batch_foldl_close (ht : .compartmentStatus ≠ topic) (cs : List Compartment) (d : Draft) :
    (cs.foldl closeCompartment d).outbox.batch topic = d.outbox.batch topic := by
  induction cs generalizing d with
  | nil => rfl
  | cons c cs ih =>
    rw [List.foldl_cons, ih]
    simp [closeCompartment, ht]

end Draft

variable {s : Service} {e : Event} {amb : Ambient} {c : Call} {a : Answer} {d : Draft} {i : ItemId} {t : TransactionId}

theorem Commits.widens (h : Commits s amb c a d) {m : Message} (hm : m ∈ d.outbox.batch .characterCommand) :
    m.Widens := by
  have hbegin : (Draft.begin s.store).outbox.batch .characterCommand = [] := rfl
  cases h with
  | accountCreated _ opened =>
    rw [Draft.batch_put, Draft.batch_foldlM_open (by decide) opened] at hm
    simp [Draft.enterWallet, hbegin] at hm
  | accountDeleted acc =>
    rw [Draft.batch_put, Draft.closeInventory, Draft.batch_foldl_close (by decide),
      Draft.batch_dropWallet (by decide)] at hm
    simp [hbegin] at hm
  | @purchase b o p w k cash =>
    simp [Purchase.delivered, Draft.placeAsset, Draft.enterItem, Draft.setWallet, Draft.claimAlso, hbegin] at hm
  | @widening _ b _ o lane ch w current =>
    have hm : m = ⟨toString b, (CharacterCommand.increaseCapacity b o.tab o.amount).toJson⟩ := by
      simpa [Widening.requested, Draft.setWallet, hbegin] using hm
    exact ⟨b, o.tab, o.amount, hm⟩
  | grant => simp [Draft.enterItem, hbegin] at hm
  | acceptHeld => simp [hbegin] at hm
  | accept => simp [Draft.placeAsset, hbegin] at hm
  | release => simp [Draft.keepAssets, hbegin] at hm
  | moved => simp [Draft.keepAssets, hbegin] at hm

namespace Service

inductive Commands (s : Service) (amb : Ambient) : Call → List Message → Prop where
  | widening {c : Call} {ms : List Message} (widens : ∀ m ∈ ms, m.Widens) : Commands s amb c ms
  | transfer {b : CharacterId} {o : MoveOrder} {tab : Tab} {i : ItemId}
      (started : (s.call amb (.move b o)).1 = .ok (.started ⟨i, amb.transaction⟩)) :
      Commands s amb (.move b o) [Transfer.command b tab o.slot i amb.transaction]

def Delivers (s : Service) (amb : Ambient) (c : Call) (s' : Service) : Prop :=
  ∃ ms, Commands s amb c ms ∧
    s'.transport.delivered .characterCommand = s.transport.delivered .characterCommand ++ ms

theorem Delivers.of_apologizes {s' : Service} (h : s.transport.Apologizes s'.transport) : s.Delivers amb c s' :=
  ⟨[], .widening (by simp), by rw [h.delivered (by decide) (by decide), List.append_nil]⟩

theorem Delivers.of_commits {s' : Service} (h : Commits s amb c a d)
    (ht : s'.transport = (d.outbox.flush Transport.publish s.transport).2) : s.Delivers amb c s' := by
  obtain ⟨ms, hms, hin⟩ := Transport.delivered_flush d.outbox s.transport .characterCommand
  refine ⟨ms, .widening fun m hm => h.widens (hin m hm), ?_⟩
  rw [ht, hms]

theorem delivered_of_started {b : CharacterId} {o : MoveOrder}
    (h : (s.call amb (.move b o)).1 = .ok (.started ⟨i, t⟩)) :
    ∃ tab, (s.call amb (.move b o)).2.transport.delivered .characterCommand =
      s.transport.delivered .characterCommand ++ [Transfer.command b tab o.slot i t] := by
  obtain ⟨rfl, ⟨tab, hl⟩, hr, ht⟩ := started_iff.1 h
  refine ⟨tab, ?_⟩
  rw [call_move_of_sent hl hr ht]
  change Transport.delivered (s.transport.log _) _ = _
  simp [Transport.delivered_log]

/-- What a call leaves in the store, and what it hands to the transport: a committed draft, no more than an apology, or
the command to move an item. -/
inductive Tells (s : Service) (amb : Ambient) : Call → Service → Prop where
  | committed {c : Call} {a : Answer} {d : Draft} {s' : Service} (commits : Commits s amb c a d)
      (store : s'.store = d.committed) (transport : s'.transport = (d.outbox.flush Transport.publish s.transport).2) :
      Tells s amb c s'
  | apology {c : Call} {s' : Service} (store : s'.store = s.store) (told : s.transport.Apologizes s'.transport) :
      Tells s amb c s'
  | order {b : CharacterId} {o : MoveOrder} {tab : Tab} {i : ItemId} {s' : Service}
      (started : (s.call amb (.move b o)).1 = .ok (.started ⟨i, amb.transaction⟩)) (store : s'.store = s.store)
      (transport : s'.transport = s.transport.log
        ⟨.characterCommand, [Transfer.command b tab o.slot i amb.transaction], true⟩) : Tells s amb (.move b o) s'

theorem tells_of_ending {r : Except WorkflowError Answer} {s' : Service} (h : Ending s amb c r s')
    (hs : ∀ t, r ≠ .ok (.started t)) (ha : r ≠ .ok (.callback .applied)) : s.Tells amb c s' := by
  cases h with
  | committed commits _ store transport => exact .committed commits store transport
  | failed store told | idle _ store told => exact .apology store told
  | elsewhere transfer =>
    obtain ⟨t, rfl⟩ | rfl := transfer
    · exact absurd rfl (hs t)
    · exact absurd rfl ha

theorem tells_move (s : Service) (amb : Ambient) (b : CharacterId) (o : MoveOrder) :
    s.Tells amb (.move b o) (s.call amb (.move b o)).2 := by
  by_cases hs : ∃ x, (s.call amb (.move b o)).1 = .ok (.started x)
  · obtain ⟨⟨i, t⟩, hs⟩ := hs
    obtain ⟨rfl, ⟨tab, hl⟩, hr, ht⟩ := started_iff.1 hs
    have hc := call_move_of_sent hl hr ht
    have htransport : (s.call amb (.move b o)).2.transport = s.transport.log
        ⟨.characterCommand, [Transfer.command b tab o.slot i amb.transaction], true⟩ := by
      rw [hc]
      rfl
    exact .order hs (by rw [hc]; rfl) htransport
  · exact tells_of_ending (call_ending s amb (.move b o)) (by simpa using hs) (answered_ne (by simp))

theorem tells_moved (s : Service) (amb : Ambient) (m : MoveCompletion) :
    s.Tells amb (.moved m) (s.call amb (.moved m)).2 := by
  by_cases ha : (s.call amb (.moved m)).1 = .ok (.callback .applied)
  · obtain ⟨ho, hp, hf⟩ := moved_applied_iff.1 ha
    rw [call_moved_of_placed ho hp hf]
    exact .committed (.moved hp) rfl rfl
  · exact tells_of_ending (call_ending s amb (.moved m)) (fun _ => answered_ne (by simp)) ha

theorem tells_moveFailed (s : Service) (amb : Ambient) (b : CharacterId) (i : ItemId) (t : Option TransactionId) :
    s.Tells amb (.moveFailed b i t) (s.call amb (.moveFailed b i t)).2 := by
  by_cases ha : (s.call amb (.moveFailed b i t)).1 = .ok (.callback .applied)
  · rw [call_moveFailed_of_applied ha]
    exact .apology rfl (apologizes_answerError _ b .unknownError)
  · exact tells_of_ending (call_ending s amb (.moveFailed b i t)) (fun _ => answered_ne (by simp)) ha

theorem call_tells (s : Service) (amb : Ambient) (c : Call) : s.Tells amb c (s.call amb c).2 := by
  cases c with
  | move b o => exact tells_move s amb b o
  | moved m => exact tells_moved s amb m
  | moveFailed b i t => exact tells_moveFailed s amb b i t
  | _ => exact tells_of_ending (call_ending s amb _) (fun _ => answered_ne (by simp)) (answered_ne (by simp))

theorem delivers_call (s : Service) (amb : Ambient) (c : Call) : s.Delivers amb c (s.call amb c).2 := by
  have htells := call_tells s amb c
  generalize (s.call amb c).2 = s' at htells ⊢
  cases htells with
  | committed commits _ transport => exact .of_commits commits transport
  | apology _ told => exact .of_apologizes told
  | @order b o tab i _ started _ transport =>
    refine ⟨[Transfer.command b tab o.slot i amb.transaction], .transfer started, ?_⟩
    rw [transport]
    exact (s.transport.delivered_log _ _).trans (by simp)

theorem carried_step_of_no_call (hc : e.call? = none) : (s.step e).transport.carried = s.transport.carried := by
  cases e with
  | call => cases hc
  | message amb u m =>
    have hm : m.call? u = none := by simpa [Event.call?] using hc
    rw [step, dispatch_snd, hm]
    rfl
  | fund w =>
    rw [step]
    split <;> rfl
  | sweep | faults | transport | lookups => rfl

theorem delivered_step_of_no_call (hc : e.call? = none) (topic : Topic) :
    (s.step e).transport.delivered topic = s.transport.delivered topic :=
  Transport.delivered_eq_of_carried (carried_step_of_no_call hc) topic

def commands (s : Service) (e : Event) : List Message :=
  ((s.step e).transport.delivered .characterCommand).drop (s.transport.delivered .characterCommand).length

theorem commands_eq {ms : List Message}
    (h : (s.step e).transport.delivered .characterCommand = s.transport.delivered .characterCommand ++ ms) :
    s.commands e = ms := by
  rw [commands, h, List.drop_left]

def Orders (s : Service) (e : Event) (i : ItemId) (t : TransactionId) : Prop :=
  ∃ b tab slot, Transfer.command b tab slot i t ∈ s.commands e

/-- Commands to move an item are delivered for the transfers that are started, and for no other reason. -/
theorem orders_iff : s.Orders e i t ↔ ∃ amb b o, e.call? = some (amb, .move b o) ∧
    (s.call amb (.move b o)).1 = .ok (.started ⟨i, t⟩) := by
  constructor
  · rintro ⟨b, tab, slot, hm⟩
    cases hc : e.call? with
    | none =>
      have hms := s.delivered_step_of_no_call hc .characterCommand
      rw [commands_eq (hms.trans (List.append_nil _).symm)] at hm
      cases hm
    | some x =>
      obtain ⟨amb, c⟩ := x
      obtain ⟨ms, hcommands, hms⟩ := s.delivers_call amb c
      rw [← step_of_call? hc] at hms
      rw [commands_eq hms] at hm
      cases hcommands with
      | widening widens => exact absurd (widens _ hm) Transfer.not_widens_command
      | @transfer b' o tab' i' started =>
        obtain ⟨rfl, rfl⟩ := Transfer.command_inj (List.mem_singleton.1 hm)
        exact ⟨amb, b', o, rfl, started⟩
  · rintro ⟨amb, b, o, hc, hs⟩
    obtain ⟨tab, hd⟩ := delivered_of_started hs
    rw [← step_of_call? hc] at hd
    exact ⟨b, tab, o.slot, by simp [commands_eq hd]⟩

end Service

end CashShop
