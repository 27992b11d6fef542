import CashShop.Proofs.Bookkeeping

namespace CashShop

namespace Event

def isRequest : Event → Bool
  | transport _ _ => false
  | _ => true

def StartsTransfer (e : Event) : Prop := ∃ amb b o, e.call? = some (amb, .move b o)

end Event

namespace Transport

variable {t t' t'' : Transport}

/-- `t` has become `t'` without carrying anything that it refuses, and it refuses the same as before. -/
structure Heeds (t t' : Transport) : Prop where
  refuses (topic : Topic) : t'.refuses topic = t.refuses topic
  delivered (topic : Topic) (h : t.refuses topic = true) : t'.delivered topic = t.delivered topic

namespace Heeds

theorem refl (t : Transport) : t.Heeds t := ⟨fun _ => rfl, fun _ _ => rfl⟩

theorem trans (h : t.Heeds t') (h' : t'.Heeds t'') : t.Heeds t'' where
  refuses topic := (h'.refuses topic).trans (h.refuses topic)
  delivered topic ht := (h'.delivered topic ((h.refuses topic).trans ht)).trans (h.delivered topic ht)

theorem log {p : Publication} (hp : t.refuses p.topic = true → p.accepted = false) : t.Heeds (t.log p) where
  refuses _ := rfl
  delivered topic ht := by
    rw [delivered_log, if_neg, List.append_nil]
    rintro ⟨rfl, ha⟩
    exact Bool.false_ne_true ((hp ht).symm.trans ha)

theorem publish (t : Transport) (topic : Topic) (ms : List Message) :
    t.Heeds (Transport.publish topic ms t).2 := by
  have hlog : (Transport.publish topic ms t).2 = t.log ⟨topic, ms, !t.refuses topic⟩ := by
    rw [Transport.publish]
    split <;> rfl
  rw [hlog]
  exact log (by simp)

theorem publishAll (bs : List (Topic × List Message)) (t : Transport) :
    t.Heeds (Publisher.publishAll Transport.publish bs t).2 := by
  induction bs generalizing t with
  | nil => exact refl t
  | cons b bs ih =>
    have hb := publish t b.1 b.2
    rw [Publisher.publishAll]
    generalize Transport.publish b.1 b.2 t = r at hb ⊢
    obtain ⟨r, t'⟩ := r
    cases r with
    | error e => exact hb
    | ok _ => exact hb.trans (ih t')

end Heeds

end Transport

namespace Service

def via (s : Service) (t : Transport) : Service := { s with transport := t }

def requests (h : List Event) : List Event := h.filter (·.isRequest)

def answers : Service → List Event → List (Except WorkflowError Answer)
  | _, [] => []
  | s, e :: h => (e.call?.map fun p => (s.call p.1 p.2).1).toList ++ answers (s.step e) h

section Via

variable {α : Type} {amb : Ambient} {c : Call} {e : Event} {h : List Event}

@[simp] theorem via_store (s : Service) (t : Transport) : (s.via t).store = s.store := rfl

@[simp] theorem via_reservations (s : Service) (t : Transport) : (s.via t).reservations = s.reservations := rfl

@[simp] theorem via_self (s : Service) : s.via s.transport = s := rfl

theorem run_via (s : Service) (t : Transport) (work : Work α) (kept : α → Bool) :
    ∃ t', (s.via t).run work kept = ((s.run work kept).1, (s.run work kept).2.via t') := by
  rw [run, run, via_store]
  rcases s.store.transact work kept with ⟨r, store⟩
  cases r with
  | error e => exact ⟨t, rfl⟩
  | ok r => exact ⟨_, rfl⟩

theorem perform_via (s : Service) (t : Transport) (prepared : Except WorkflowError (Work α)) (kept : α → Bool) :
    ∃ t', (s.via t).perform prepared kept = ((s.perform prepared kept).1, (s.perform prepared kept).2.via t') := by
  cases prepared with
  | error e => exact ⟨t, rfl⟩
  | ok work => exact run_via s t work kept

/-- What a call prepares does not depend on the transport. -/
theorem plan_via (s : Service) (t : Transport) (amb : Ambient) (c : Call) :
    c.plan? (s.via t) amb = (c.plan? s amb).map fun p => ⟨p.base.via t, p.work⟩ := by
  cases c with
  | moved m =>
    simp only [Call.plan?, via_reservations]
    rcases s.reservations.releaseMatching m.moved.item m.moved.transaction amb.now with ⟨correlation, reservations⟩
    cases correlation <;> rfl
  | _ => rfl

theorem conclude_via (c : Call) (r : Except WorkflowError Answer) (s : Service) (t : Transport) :
    ∃ t', c.conclude r (s.via t) = (c.conclude r s).via t' := by
  cases r with
  | error e => cases c <;> exact ⟨_, rfl⟩
  | ok a =>
    cases c with
    | purchase =>
      cases a with
      | purchase outcome => cases outcome <;> exact ⟨_, rfl⟩
      | _ => exact ⟨_, rfl⟩
    | moved =>
      cases a with
      | callback outcome => cases outcome <;> exact ⟨_, rfl⟩
      | _ => exact ⟨_, rfl⟩
    | _ => exact ⟨_, rfl⟩

theorem carryOut_via (c : Call) (p : Plan) (t : Transport) :
    ∃ t', carryOut c ⟨p.base.via t, p.work⟩ = ((carryOut c p).1, (carryOut c p).2.via t') := by
  obtain ⟨t1, hp⟩ := perform_via p.base t p.work (·.isDone)
  obtain ⟨t2, hc⟩ := conclude_via c (p.base.perform p.work (·.isDone)).1 (p.base.perform p.work (·.isDone)).2 t1
  refine ⟨t2, ?_⟩
  rw [carryOut, hp, hc]
  rfl

theorem moveFailed_via (s : Service) (t : Transport) (amb : Ambient) (b : CharacterId) (i : ItemId)
    (u : Option TransactionId) : ∃ t', (s.via t).call amb (.moveFailed b i u) =
      ((s.call amb (.moveFailed b i u)).1, (s.call amb (.moveFailed b i u)).2.via t') := by
  rw [call, call, moveFailed, moveFailed, via_reservations]
  rcases s.reservations.releaseMatching i u amb.now with ⟨correlation, reservations⟩
  cases correlation with
  | matched | mismatched => exact ⟨_, rfl⟩
  | missing =>
    dsimp only [via_store]
    rcases (Draft.begin s.store).item? i with f | found
    · exact ⟨_, rfl⟩
    · cases found <;> exact ⟨_, rfl⟩

theorem call_via (hc : ∀ b o, c ≠ .move b o) (s : Service) (t : Transport) (amb : Ambient) :
    ∃ t', (s.via t).call amb c = ((s.call amb c).1, (s.call amb c).2.via t') := by
  cases hp : c.plan? s amb with
  | some p =>
    have hvia : c.plan? (s.via t) amb = some ⟨p.base.via t, p.work⟩ := by rw [plan_via, hp, Option.map_some]
    rw [call_of_plan hp, call_of_plan hvia]
    exact carryOut_via c p t
  | none =>
    cases c with
    | move b o => exact absurd rfl (hc b o)
    | moveFailed b i u => exact moveFailed_via s t amb b i u
    | moved m =>
      have hopposes := opposes_of_no_plan hp
      rw [call_moved_of_opposes hopposes, call_moved_of_opposes (s := s.via t) hopposes]
      exact ⟨_, rfl⟩
    | _ => cases hp

/-- One step: only what happens to the transport itself is different over another one. -/
theorem step_via (he : ¬ e.StartsTransfer) (s : Service) (t : Transport) :
    ∃ t', (s.via t).step e = (if e.isRequest then s.step e else s).via t' ∧
      (e.call?.map fun p => ((s.via t).call p.1 p.2).1) = e.call?.map fun p => (s.call p.1 p.2).1 := by
  cases hcall : e.call? with
  | some p =>
    obtain ⟨amb, c⟩ := p
    obtain ⟨t', hvia⟩ := call_via (c := c) (fun b o hc => he ⟨amb, b, o, hc ▸ hcall⟩) s t amb
    have hrequest : e.isRequest = true := by cases e <;> first | rfl | cases hcall
    refine ⟨t', ?_, by rw [Option.map_some, Option.map_some, hvia]⟩
    rw [step_of_call? hcall, step_of_call? hcall, hvia, hrequest, if_pos rfl]
  | none =>
    refine ⟨((s.via t).step e).transport, ?_, rfl⟩
    cases e with
    | call => cases hcall
    | message amb topic m =>
      have hnone : m.call? topic = none := by simpa [Event.call?] using hcall
      simp only [step, dispatch_snd, hnone]
      rfl
    | fund w =>
      simp only [step, via_store]
      cases s.store.fund w <;> rfl
    | sweep | faults | transport | lookups => rfl

theorem after_via (hm : ∀ e ∈ h, ¬ e.StartsTransfer) (s : Service) (t : Transport) :
    (∃ t', (s.via t).after h = (s.after (requests h)).via t') ∧ (s.via t).answers h = s.answers (requests h) := by
  induction h generalizing s t with
  | nil => exact ⟨⟨t, rfl⟩, rfl⟩
  | cons e h ih =>
    obtain ⟨t1, hstep, hanswer⟩ := step_via (hm e List.mem_cons_self) s t
    have hrest : ∀ e' ∈ h, ¬ e'.StartsTransfer := fun e' he' => hm e' (List.mem_cons_of_mem _ he')
    rw [after_cons, answers, hstep, hanswer]
    cases hr : e.isRequest with
    | true =>
      rw [requests, List.filter_cons_of_pos hr, after_cons, answers, ← requests]
      obtain ⟨hafter, hanswers⟩ := ih hrest (s.step e) t1
      exact ⟨hafter, congrArg _ hanswers⟩
    | false =>
      have hnone : e.call? = none := by cases e <;> first | rfl | cases hr
      rw [requests, List.filter_cons_of_neg (by simp [hr]), ← requests, hnone]
      exact ih hrest s t1

end Via

section Heeds

variable {α : Type} (s : Service) (amb : Ambient)

theorem heeds_publish (o : Outbox) : s.transport.Heeds (s.publish o).transport := .publishAll _ _

theorem heeds_reportFailure (b : CharacterId) (e : WorkflowError) :
    s.transport.Heeds (s.reportFailure b e).transport := heeds_publish (s.count .workflowErrors) _

theorem heeds_perform (prepared : Except WorkflowError (Work α)) (kept : α → Bool) :
    s.transport.Heeds (s.perform prepared kept).2.transport := by
  cases prepared with
  | error e => exact .refl _
  | ok work =>
    obtain ⟨a, d, -, -, -, hr⟩ | ⟨r, hr, -⟩ := s.run_cases work kept
    · rw [perform, hr]
      exact heeds_publish { s with store := d.committed } d.outbox
    · rw [perform, hr]
      exact .refl _

theorem heeds_carryOut {c : Call} {p : Plan} (hp : c.plan? s amb = some p) :
    s.transport.Heeds (carryOut c p).2.transport := by
  rw [← (frame_plan hp).2, carryOut]
  refine (heeds_perform p.base p.work (·.isDone)).trans ?_
  generalize p.base.perform p.work (·.isDone) = r
  cases hc : c.code? r.1 with
  | some code =>
    obtain ⟨t, m, -, htold⟩ := Call.conclude_tells hp hc r.2
    rw [htold]
    exact heeds_publish r.2 _
  | none =>
    rw [Call.transport_conclude hc]
    exact .refl _

theorem heeds_move (b : CharacterId) (o : MoveOrder) :
    s.transport.Heeds (s.call amb (.move b o)).2.transport := by
  cases hl : Transfer.locate s b o with
  | error e =>
    rw [call_move_of_not_located hl]
    exact heeds_reportFailure s b e
  | ok found =>
    obtain ⟨tab, i⟩ := found
    cases hr : s.reservations.live? i amb.now with
    | some r =>
      rw [call_move_of_live hl hr]
      exact heeds_reportFailure s b _
    | none =>
      cases ht : s.transport.refuses .characterCommand with
      | true =>
        rw [call_move_of_refused hl hr ht]
        refine Transport.Heeds.trans ?_ (heeds_reportFailure _ b _)
        exact Transport.Heeds.log fun _ => rfl
      | false =>
        rw [call_move_of_sent hl hr ht]
        exact Transport.Heeds.log (by simp [ht])

theorem heeds_moveFailed (b : CharacterId) (i : ItemId) (u : Option TransactionId) :
    s.transport.Heeds (s.call amb (.moveFailed b i u)).2.transport := by
  obtain h | ⟨rs, h | h⟩ := s.call_moveFailed_cases amb b i u
  · rw [h]
    exact heeds_publish _ _
  · rw [h]
    exact .refl _
  · rw [h]
    exact .refl _

/-- No call gets anything past a transport that refuses it. -/
theorem heeds_call (c : Call) : s.transport.Heeds (s.call amb c).2.transport := by
  cases hp : c.plan? s amb with
  | some p =>
    rw [call_of_plan hp]
    exact heeds_carryOut s amb hp
  | none =>
    cases c with
    | move b o => exact heeds_move s amb b o
    | moveFailed b i u => exact heeds_moveFailed s amb b i u
    | moved m =>
      rw [call_moved_of_opposes (opposes_of_no_plan hp)]
      exact .refl _
    | _ => cases hp

end Heeds

/-- Two histories of the same requests, in which the transport fails as it likes. Unless they start a transfer, their
calls are answered alike, and in the end all is alike but the transport: the tables, the keys that are remembered, the
reservations and the metrics. And nothing is delivered that is refused when a call is made. -/
theorem same_answers_and_books_over_any_transport {h h' : List Event} (hm : ∀ e ∈ h, ¬ e.StartsTransfer)
    (hr : requests h = requests h') (s : Service) :
    s.answers h = s.answers h' ∧ s.after h' = (s.after h).via (s.after h').transport ∧
      ∀ (u : Service) (amb : Ambient) (c : Call) (topic : Topic), u.transport.refuses topic = true →
        (u.call amb c).2.transport.delivered topic = u.transport.delivered topic := by
  have hm' : ∀ e ∈ h', ¬ e.StartsTransfer := by
    rintro e he ⟨amb, b, o, hc⟩
    have hrequest : e.isRequest = true := by cases e <;> first | rfl | cases hc
    have hmem : e ∈ requests h := hr ▸ List.mem_filter.2 ⟨he, hrequest⟩
    exact hm e (List.mem_filter.1 hmem).1 ⟨amb, b, o, hc⟩
  obtain ⟨⟨t, hafter⟩, hanswers⟩ := after_via hm s s.transport
  obtain ⟨⟨t', hafter'⟩, hanswers'⟩ := after_via hm' s s.transport
  rw [via_self] at hafter hanswers hafter' hanswers'
  refine ⟨by rw [hanswers, hanswers', hr], ?_, fun u amb c topic ht => (heeds_call u amb c).delivered topic ht⟩
  rw [hafter', hafter, hr]
  rfl

theorem same_answers_and_books_over_dead_transport :
    let sales : List Event := [.call .opening (.accountCreated ⟨1⟩), .fund ⟨⟨1⟩, 1000, 0, 0⟩,
      .call .opening (.purchase ⟨7⟩ ⟨1, ⟨20⟩, none⟩)]
    let unheard : List Event := .transport true [] :: sales
    (∀ e ∈ sales, ¬ e.StartsTransfer) ∧ requests sales = requests unheard ∧
      kiosk.answers sales = kiosk.answers unheard ∧
      kiosk.after unheard = (kiosk.after sales).via (kiosk.after unheard).transport := by
  intro sales unheard
  have hm : ∀ e ∈ sales, ¬ e.StartsTransfer := by simp [sales, Event.StartsTransfer, Event.call?]
  have hr : requests sales = requests unheard := rfl
  obtain ⟨hanswers, hafter, -⟩ := same_answers_and_books_over_any_transport hm hr kiosk
  exact ⟨hm, hr, hanswers, hafter⟩

end Service
end CashShop
