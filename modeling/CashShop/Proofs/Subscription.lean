import CashShop.Proofs.Feed

namespace CashShop

inductive BusEvent where
  | subscribe (t : Topic)
  | unsubscribe (receiver : Nat)
  | publish (t : Topic) (ms : List Message)
  | recv (receiver : Nat)
  | clear
  | failing (on : Bool)
deriving DecidableEq

def BusEvent.refusal? : BusEvent → Option Bool
  | failing on => some on
  | _ => none

variable {ring i : Nat} {t u : Topic} {past left ms : List Message}

namespace Reception

/-- The receptions account for the messages: one by one they stand for a message that is given, for as many as are
reported lost, or for none. -/
inductive Account : List Reception → List Message → Prop where
  | nil : Account [] []
  | message (m : Message) {rs : List Reception} {ms : List Message} (rest : Account rs ms) :
      Account (.message m :: rs) (m :: ms)
  | lagged (skipped : List Message) {rs : List Reception} {ms : List Message} (rest : Account rs ms) :
      Account (.lagged skipped.length :: rs) (skipped ++ ms)
  | empty {rs : List Reception} {ms : List Message} (rest : Account rs ms) : Account (.empty :: rs) ms

theorem Account.append {rs rs' : List Reception} {ms ms' : List Message} (h : Account rs ms) (h' : Account rs' ms') :
    Account (rs ++ rs') (ms ++ ms') := by
  induction h with
  | nil => exact h'
  | message m _ ih => exact .message m ih
  | lagged skipped _ ih =>
    rw [List.append_assoc]
    exact .lagged skipped ih
  | empty _ ih => exact .empty ih

theorem account_messages (ms : List Message) : Account (ms.map .message) ms := by
  induction ms with
  | nil => exact .nil
  | cons m ms ih => exact .message m ih

def report (lost : Nat) : List Reception := if lost = 0 then [] else [.lagged lost]

theorem account_report (skipped : List Message) : Account (report skipped.length) skipped := by
  unfold report
  split
  next hnone =>
    rw [List.length_eq_zero_iff.1 hnone]
    exact .nil
  next =>
    have hskipped := Account.lagged skipped .nil
    rwa [List.append_nil] at hskipped

/-- What a receiver is given for whom these messages wait, and those that wait then. -/
def ofWaiting (ring : Nat) (left : List Message) : Reception × List Message :=
  if ring < left.length then (.lagged (left.length - ring), left.drop (left.length - ring))
  else match left with
    | [] => (.empty, [])
    | m :: rest => (.message m, rest)

def outstanding (ring : Nat) (left : List Message) : List Reception :=
  report (left.length - ring) ++ (left.drop (left.length - ring)).map .message

theorem account_outstanding (ring : Nat) (left : List Message) : Account (outstanding ring left) left := by
  have hskipped := account_report (left.take (left.length - ring))
  rw [List.length_take, Nat.min_eq_left (Nat.sub_le _ _)] at hskipped
  have hall := hskipped.append (account_messages (left.drop (left.length - ring)))
  rwa [List.take_append_drop] at hall

theorem outstanding_of_fits (h : left.length ≤ ring) : outstanding ring left = left.map .message := by
  rw [outstanding, Nat.sub_eq_zero_of_le h]
  rfl

theorem exists_of_ofWaiting (ring : Nat) (left : List Message) : ∃ given,
    given ++ (ofWaiting ring left).2 = left ∧ Account [(ofWaiting ring left).1] given := by
  unfold ofWaiting
  split
  next hlags =>
    have hreport := account_report (left.take (left.length - ring))
    have hlost : left.length - ring ≠ 0 := by omega
    rw [List.length_take, Nat.min_eq_left (Nat.sub_le _ _), report, if_neg hlost] at hreport
    exact ⟨left.take (left.length - ring), List.take_append_drop _ _, hreport⟩
  next =>
    cases left with
    | nil => exact ⟨[], rfl, .empty .nil⟩
    | cons m rest => exact ⟨[m], rfl, .message m .nil⟩

def polled (ring : Nat) : Nat → List Message → List Reception
  | 0, _ => []
  | k + 1, left => (ofWaiting ring left).1 :: polled ring k (ofWaiting ring left).2

theorem polled_of_fits (k : Nat) (h : left.length ≤ ring) :
    polled ring k left = (left.map message).take k ++ List.replicate (k - left.length) empty := by
  induction k generalizing left with
  | zero => simp [polled]
  | succ k ih =>
    rw [polled, ofWaiting.eq_def, if_neg (Nat.not_lt.2 h)]
    cases left with
    | nil => simp [ih h, List.replicate_succ]
    | cons m rest => simp [ih (Nat.le_of_succ_le h)]

/-- A receiver that goes on asking is given all that is outstanding, and from then on nothing. -/
theorem polled_eq (ring k : Nat) (left : List Message) : polled ring k left =
    (outstanding ring left).take k ++ List.replicate (k - (outstanding ring left).length) empty := by
  by_cases hlags : ring < left.length
  · cases k with
    | zero => simp [polled]
    | succ k =>
      have hlost : left.length - ring ≠ 0 := by omega
      have hfits : (left.drop (left.length - ring)).length ≤ ring := by
        rw [List.length_drop]
        omega
      rw [polled, ofWaiting.eq_def, if_pos hlags, polled_of_fits k hfits, outstanding, report, if_neg hlost]
      simp
  · rw [polled_of_fits k (Nat.not_lt.1 hlags), outstanding_of_fits (Nat.not_lt.1 hlags), List.length_map]

end Reception

open Reception

namespace Bus

variable {b : Bus}

def step (b : Bus) : BusEvent → Bus
  | .subscribe t => (b.subscribe t).2
  | .unsubscribe i => b.unsubscribe i
  | .publish t ms => (b.publish t ms).2
  | .recv i => (b.recv i).2
  | .clear => b.clear
  | .failing on => b.setFailing on

def after (b : Bus) (h : List BusEvent) : Bus := h.foldl step b

def acceptedNow (b : Bus) (t : Topic) : BusEvent → List Message
  | .publish u ms => match (b.publish u ms).1 with
    | .ok () => if u = t then ms else []
    | .error _ => []
  | _ => []

def accepted (t : Topic) : Bus → List BusEvent → List Message
  | _, [] => []
  | b, e :: h => b.acceptedNow t e ++ accepted t (b.step e) h

def givenNow (b : Bus) (i : Nat) : BusEvent → List Reception
  | .recv j => if j = i then [(b.recv i).1] else []
  | _ => []

def given (i : Nat) : Bus → List BusEvent → List Reception
  | _, [] => []
  | b, e :: h => b.givenNow i e ++ given i (b.step e) h

structure Keeps (b : Bus) (ring : Nat) (t : Topic) (ms : List Message) : Prop where
  size : b.ring = ring
  running : b.closed = false
  channel : (b.channel t).Keeps ring ms

theorem Keeps.step (h : b.Keeps ring t ms) (e : BusEvent) : (b.step e).Keeps ring t (ms ++ b.acceptedNow t e) := by
  have hsame : b.Keeps ring t (ms ++ []) := by rwa [List.append_nil]
  cases e with
  | subscribe u | unsubscribe j | clear | failing on => exact ⟨hsame.size, hsame.running, hsame.channel⟩
  | recv j =>
    rw [Bus.step, recv]
    split
    · exact ⟨hsame.size, hsame.running, hsame.channel⟩
    · exact hsame
  | publish u new =>
    rw [Bus.step, acceptedNow, publish]
    split
    next => exact hsame
    next =>
      refine ⟨h.size, h.running, ?_⟩
      by_cases hu : u = t
      · subst hu
        simpa [h.size] using h.channel.sendAll new
      · simpa [hu, Ne.symm hu] using h.channel

theorem Keeps.after (h : b.Keeps ring t ms) (es : List BusEvent) :
    (b.after es).Keeps ring t (ms ++ b.accepted t es) := by
  induction es generalizing b ms with
  | nil => rwa [accepted, List.append_nil]
  | cons e es ih =>
    rw [accepted, ← List.append_assoc]
    exact ih (h.step e)

theorem keeps_ofCapacity (capacity : Nat) (journaled : Bool) (t : Topic) :
    (ofCapacity capacity journaled).Keeps (max capacity 1).nextPowerOfTwo t [] :=
  ⟨rfl, rfl, rfl, List.drop_nil.symm⟩

theorem receivers_step {r : Option Receiver} (h : b.receivers[i]? = some r) {e : BusEvent}
    (hrecv : e ≠ .recv i) (hunsubscribe : e ≠ .unsubscribe i) : (b.step e).receivers[i]? = some r := by
  cases e with
  | subscribe u =>
    obtain ⟨hlt, -⟩ := List.getElem?_eq_some_iff.1 h
    exact (List.getElem?_append_left hlt).trans h
  | unsubscribe j =>
    have hj : j ≠ i := by
      rintro rfl
      exact hunsubscribe rfl
    exact (List.getElem?_set_ne hj).trans h
  | publish u ms =>
    rw [Bus.step, publish]
    split <;> exact h
  | recv j =>
    have hj : j ≠ i := by
      rintro rfl
      exact hrecv rfl
    rw [Bus.step, recv]
    split
    · exact (List.getElem?_set_ne hj).trans h
    · exact h
  | clear | failing on => exact h

structure Attends (b : Bus) (ring i : Nat) (t : Topic) (past left : List Message) : Prop where
  keeps : b.Keeps ring t (past ++ left)
  receiver : b.receivers[i]? = some (some ⟨t, past.length⟩)

theorem attends_subscribe (h : b.Keeps ring t ms) : (b.subscribe t).2.Attends ring (b.subscribe t).1 t ms [] := by
  have hkeeps := h.step (.subscribe t)
  refine ⟨hkeeps, ?_⟩
  rw [← h.channel.sent]
  exact List.getElem?_concat_length

namespace Attends

theorem poll_eq {c : Channel} (h : c.Keeps ring (past ++ left)) : Receiver.poll ⟨t, past.length⟩ c false =
    ((ofWaiting ring left).1, ⟨t, past.length + (left.length - (ofWaiting ring left).2.length)⟩) := by
  rw [Receiver.poll, h.oldest, ofWaiting.eq_def, List.length_append]
  by_cases hlags : ring < left.length
  · have hbehind : past.length < past.length + left.length - ring := by omega
    have hlost : past.length + left.length - ring - past.length = left.length - ring := by omega
    have hnext : past.length + left.length - ring = past.length + (left.length - (left.length - (left.length - ring))) := by
      omega
    simp only [if_pos hlags, if_pos hbehind, List.length_drop, hlost, ← hnext]
  · have hbehind : ¬ past.length < past.length + left.length - ring := by omega
    have hindex : past.length + left.length - ring + (past.length - (past.length + left.length - ring)) = past.length := by
      omega
    simp only [if_neg hlags, if_neg hbehind, h.kept, List.getElem?_drop, List.length_append, hindex]
    cases left <;> simp

theorem recv_eq (h : b.Attends ring i t past left) : b.recv i = ((ofWaiting ring left).1, { b with
    receivers := b.receivers.set i
      (some ⟨t, past.length + (left.length - (ofWaiting ring left).2.length)⟩) }) := by
  rw [Bus.recv, h.receiver]
  dsimp only
  rw [h.keeps.running, poll_eq h.keeps.channel]

theorem recv (h : b.Attends ring i t past left) : ∃ taken, taken ++ (ofWaiting ring left).2 = left ∧
    Account [(b.recv i).1] taken ∧ (b.recv i).2.Attends ring i t (past ++ taken) (ofWaiting ring left).2 := by
  obtain ⟨taken, hleft, haccount⟩ := exists_of_ofWaiting ring left
  have hkeeps := h.keeps.step (.recv i)
  have hlength : left.length - (ofWaiting ring left).2.length = taken.length := by
    rw [← congrArg List.length hleft, List.length_append, Nat.add_sub_cancel]
  obtain ⟨hlt, -⟩ := List.getElem?_eq_some_iff.1 h.receiver
  have hnone : b.acceptedNow t (.recv i) = [] := rfl
  rw [hnone, List.append_nil] at hkeeps
  refine ⟨taken, hleft, ?_, ?_, ?_⟩
  · rwa [h.recv_eq]
  · rwa [List.append_assoc, hleft]
  · rw [h.recv_eq, List.length_append, ← hlength]
    exact List.getElem?_set_self hlt

theorem step (h : b.Attends ring i t past left) {e : BusEvent} (he : e ≠ .unsubscribe i) : ∃ taken rest,
    left ++ b.acceptedNow t e = taken ++ rest ∧ Account (b.givenNow i e) taken ∧
      (b.step e).Attends ring i t (past ++ taken) rest := by
  by_cases hrecv : e = .recv i
  · subst hrecv
    obtain ⟨taken, hleft, haccount, hattends⟩ := h.recv
    refine ⟨taken, _, ?_, ?_, hattends⟩
    · rw [hleft]
      exact List.append_nil left
    · rwa [givenNow, if_pos rfl]
  · have hnothing : b.givenNow i e = [] := by
      cases e with
      | recv j =>
        have hj : j ≠ i := by
          rintro rfl
          exact hrecv rfl
        exact if_neg hj
      | _ => rfl
    have hkeeps := h.keeps.step e
    rw [List.append_assoc] at hkeeps
    refine ⟨[], left ++ b.acceptedNow t e, rfl, ?_, ?_⟩
    · rw [hnothing]
      exact .nil
    · rw [List.append_nil]
      exact ⟨hkeeps, receivers_step h.receiver hrecv he⟩

/-- As long as it is not unsubscribed, the receiver is given an account of what is accepted, and the rest is left. -/
theorem after (h : b.Attends ring i t past left) {es : List BusEvent} (hes : .unsubscribe i ∉ es) : ∃ taken rest,
    left ++ b.accepted t es = taken ++ rest ∧ Account (b.given i es) taken ∧
      (b.after es).Attends ring i t (past ++ taken) rest := by
  induction es generalizing b past left with
  | nil =>
    refine ⟨[], left, List.append_nil left, .nil, ?_⟩
    rwa [List.append_nil]
  | cons e es ih =>
    obtain ⟨hne, hes⟩ := not_or.1 (mt List.mem_cons.2 hes)
    obtain ⟨taken, rest, hleft, haccount, hattends⟩ := h.step (Ne.symm hne)
    obtain ⟨taken', rest', hrest, haccount', hafter⟩ := ih hattends hes
    rw [List.append_assoc] at hafter
    refine ⟨taken ++ taken', rest', ?_, haccount.append haccount', hafter⟩
    calc left ++ b.accepted t (e :: es)
        = (left ++ b.acceptedNow t e) ++ (b.step e).accepted t es := (List.append_assoc _ _ _).symm
      _ = taken ++ (rest ++ (b.step e).accepted t es) := by rw [hleft, List.append_assoc]
      _ = taken ++ taken' ++ rest' := by rw [hrest, List.append_assoc]

theorem given_polls (h : b.Attends ring i t past left) (k : Nat) :
    b.given i (List.replicate k (.recv i)) = polled ring k left := by
  induction k generalizing b past left with
  | zero => rfl
  | succ k ih =>
    obtain ⟨taken, -, -, hattends⟩ := h.recv
    have hgot : (b.recv i).1 = (ofWaiting ring left).1 := by rw [h.recv_eq]
    rw [List.replicate_succ, given, givenNow, if_pos rfl, hgot, Bus.step, ih hattends]
    rfl

end Attends

theorem given_of_gone (h : b.receivers[i]? = some none) (es : List BusEvent) : ∀ r ∈ b.given i es, r = .unsubscribed := by
  induction es generalizing b with
  | nil => exact fun r hr => absurd hr List.not_mem_nil
  | cons e es ih =>
    have hrecv : b.recv i = (.unsubscribed, b) := by rw [recv, h]
    have hgone : (b.step e).receivers[i]? = some none := by
      by_cases hown : e = .recv i
      · rw [hown, step, hrecv]
        exact h
      · by_cases hagain : e = .unsubscribe i
        · obtain ⟨hlt, -⟩ := List.getElem?_eq_some_iff.1 h
          rw [hagain]
          exact List.getElem?_set_self hlt
        · exact receivers_step h hown hagain
    intro r hr
    rcases List.mem_append.1 hr with hr | hr
    · cases e with
      | recv j =>
        rw [givenNow] at hr
        split at hr
        next hj =>
          rw [List.mem_singleton.1 hr, hrecv]
        next => exact absurd hr List.not_mem_nil
      | _ => exact absurd hr List.not_mem_nil
    · exact ih hgone r hr

theorem publish_eq (b : Bus) (t : Topic) (ms : List Message) : (b.failing = true ∧ b.publish t ms = (.error (.transportDown t), b)) ∨
    (b.failing = false ∧ (b.publish t ms).1 = .ok ()) := by
  unfold publish
  cases b.failing <;> simp

theorem failing_step (b : Bus) (e : BusEvent) : (b.step e).failing = e.refusal?.getD b.failing := by
  cases e with
  | publish t ms =>
    rw [step, publish]
    split <;> rfl
  | recv j =>
    rw [step, recv]
    split <;> rfl
  | subscribe | unsubscribe | clear | failing => rfl

theorem failing_after (b : Bus) (es : List BusEvent) :
    (b.after es).failing = (es.filterMap BusEvent.refusal?).getLast?.getD b.failing := by
  induction es generalizing b with
  | nil => rfl
  | cons e es ih =>
    change ((b.step e).after es).failing = _
    rw [ih, failing_step, List.filterMap_cons]
    cases e.refusal? with
    | none => rfl
    | some on => cases h : (es.filterMap BusEvent.refusal?).getLast? <;> simp [List.getLast?_cons, h]

theorem isSome_journal_step (b : Bus) (e : BusEvent) : (b.step e).journal.isSome = b.journal.isSome := by
  cases e with
  | publish u ms =>
    rw [step, publish]
    split
    · rfl
    · exact Option.isSome_map
  | recv j =>
    rw [step, recv]
    split <;> rfl
  | clear => exact Option.isSome_map
  | subscribe | unsubscribe | failing => rfl

theorem isSome_journal_after (b : Bus) (es : List BusEvent) : (b.after es).journal.isSome = b.journal.isSome := by
  induction es generalizing b with
  | nil => rfl
  | cons e es ih => exact (ih (b.step e)).trans (b.isSome_journal_step e)

theorem published_step (hj : b.journal.isSome = true) {e : BusEvent} (he : e ≠ .clear) (t : Topic) :
    (b.step e).published t = b.published t ++ b.acceptedNow t e := by
  have hsame : b.published t = b.published t ++ [] := (List.append_nil _).symm
  cases e with
  | publish u ms =>
    obtain ⟨js, hjs⟩ := Option.isSome_iff_exists.1 hj
    rw [step, acceptedNow, publish]
    split
    next => exact hsame
    next => by_cases hu : u = t <;> simp [published, hjs, hu, List.filter_map, Function.comp_def]
  | recv j =>
    rw [step, recv]
    split <;> exact hsame
  | clear => exact absurd rfl he
  | subscribe | unsubscribe | failing => exact hsame

theorem published_after (hj : b.journal.isSome = true) {es : List BusEvent} (hes : .clear ∉ es) (t : Topic) :
    (b.after es).published t = b.published t ++ b.accepted t es := by
  induction es generalizing b with
  | nil => exact (List.append_nil _).symm
  | cons e es ih =>
    obtain ⟨hne, hes⟩ := not_or.1 (mt List.mem_cons.2 hes)
    have hstep : (b.step e).journal.isSome = true := by rwa [isSome_journal_step]
    rw [accepted, ← List.append_assoc, ← published_step hj (Ne.symm hne)]
    exact ih hstep hes

theorem published_of_no_journal (hj : b.journal.isSome = false) (t : Topic) : b.published t = [] := by
  rw [published, Option.isSome_eq_false_iff.1 hj |> Option.isNone_iff_eq_none.1]
  rfl

theorem published_clear (b : Bus) (t : Topic) : b.clear.published t = [] := by
  rw [published, clear]
  cases b.journal <;> rfl

def opened (capacity : Nat) (journaled : Bool) (h : List BusEvent) : Bus := (ofCapacity capacity journaled).after h

/-- In the course of a history the receiver has been served like this: what it has been given, a report of what it has
lost without having been told, and what is pending for it account for the messages that the bus has accepted to its topic,
in their order. If it asks on it is given the report, the pending messages, and then nothing. -/
structure Serves (b : Bus) (ring i : Nat) (t : Topic) (h : List BusEvent) (lost : Nat) (pending : List Message) :
    Prop where
  account : Account (b.given i h ++ (report lost ++ pending.map message)) (b.accepted t h)
  bounded : pending.length ≤ ring
  full : lost ≠ 0 → pending.length = ring
  asking : ∀ k, (b.after h).given i (List.replicate k (.recv i)) =
    (report lost ++ pending.map message).take k ++
      List.replicate (k - (report lost ++ pending.map message).length) empty

theorem Attends.serves (hb : b.Attends ring i t past []) {h : List BusEvent} (hh : .unsubscribe i ∉ h) :
    ∃ lost pending, b.Serves ring i t h lost pending := by
  obtain ⟨taken, left, hleft, haccount, hattends⟩ := hb.after hh
  refine ⟨left.length - ring, left.drop (left.length - ring), ?_, ?_, ?_, ?_⟩
  · rw [List.nil_append] at hleft
    rw [hleft]
    exact haccount.append (account_outstanding ring left)
  · rw [List.length_drop]
    omega
  · intro hlost
    rw [List.length_drop]
    omega
  · intro k
    rw [hattends.given_polls]
    exact polled_eq ring k left

theorem given_after_unsubscribe (hi : i < b.receivers.length) (h : List BusEvent) :
    ∀ r ∈ (b.unsubscribe i).given i h, r = .unsubscribed :=
  given_of_gone (List.getElem?_set_self hi) h

theorem length_receivers_step (b : Bus) (e : BusEvent) : b.receivers.length ≤ (b.step e).receivers.length := by
  cases e with
  | subscribe u =>
    rw [step, subscribe, List.length_append]
    exact Nat.le_add_right _ _
  | unsubscribe j => exact Nat.le_of_eq List.length_set.symm
  | publish u ms =>
    rw [step, publish]
    split <;> exact Nat.le_refl _
  | recv j =>
    rw [step, recv]
    split
    · exact Nat.le_of_eq List.length_set.symm
    · exact Nat.le_refl _
  | clear | failing => exact Nat.le_refl _

theorem length_receivers_after (b : Bus) (h : List BusEvent) : b.receivers.length ≤ (b.after h).receivers.length := by
  induction h generalizing b with
  | nil => exact Nat.le_refl _
  | cons e h ih => exact Nat.le_trans (b.length_receivers_step e) (ih (b.step e))

theorem keeps_opened (capacity : Nat) (journaled : Bool) (h : List BusEvent) (t : Topic) :
    (opened capacity journaled h).Keeps (max capacity 1).nextPowerOfTwo t
      ((ofCapacity capacity journaled).accepted t h) :=
  (keeps_ofCapacity capacity journaled t).after h

theorem isSome_journal_opened (capacity : Nat) (journaled : Bool) (h : List BusEvent) :
    (opened capacity journaled h).journal.isSome = journaled := by
  rw [opened, isSome_journal_after]
  cases journaled <;> rfl

theorem published_of_empty {journaled : Bool} (hj : b.journal.isSome = journaled) (hb : ∀ t, b.published t = [])
    {h : List BusEvent} (hh : .clear ∉ h) (t : Topic) :
    (b.after h).published t = if journaled then b.accepted t h else [] := by
  cases journaled with
  | true =>
    rw [published_after hj hh, hb]
    rfl
  | false =>
    rw [published_of_no_journal (by rwa [isSome_journal_after])]
    rfl

/-- Whatever happens before and after it subscribes, and for as long as it stays: what a receiver has been given, a
report of what it has lost without having been told, and what it can still get account for the messages that the bus has
accepted to its topic since it subscribed, in their order. No more can be pending than the ring holds, and as many are if
anything has been lost unreported; a receiver that asks on is given the report, the pending messages and then nothing.
One that is unsubscribed is given nothing again. A journal tells what has been accepted since it was cleared, topic by
topic. A batch is refused exactly while the bus has been told last to refuse, and then everything stays as it is. -/
theorem delivery_accounts_for_all (capacity : Nat) (journaled : Bool) (before : List BusEvent) :
    (∀ t i b during, (opened capacity journaled before).subscribe t = (i, b) →
      (.unsubscribe i ∉ during →
        ∃ lost pending, b.Serves (max capacity 1).nextPowerOfTwo i t during lost pending) ∧
      ∀ later, ∀ r ∈ ((b.after during).unsubscribe i).given i later, r = .unsubscribed) ∧
    (∀ t since, .clear ∉ since → ((opened capacity journaled before).clear.after since).published t =
      if journaled then (opened capacity journaled before).clear.accepted t since else []) ∧
    (.clear ∉ before → ∀ t, (opened capacity journaled before).published t =
      if journaled then (ofCapacity capacity journaled).accepted t before else []) ∧
    ∀ t ms, if (before.filterMap BusEvent.refusal?).getLast? = some true then
        (opened capacity journaled before).publish t ms = (.error (.transportDown t), opened capacity journaled before)
      else ((opened capacity journaled before).publish t ms).1 = .ok () := by
  refine ⟨?_, ?_, ?_, ?_⟩
  · rintro t i b during ⟨⟩
    refine ⟨?_, ?_⟩
    · intro hduring
      exact (attends_subscribe (keeps_opened capacity journaled before t)).serves hduring
    · intro later
      apply given_after_unsubscribe
      have hlength := length_receivers_after ((opened capacity journaled before).subscribe t).2 during
      refine Nat.lt_of_lt_of_le ?_ hlength
      rw [subscribe, List.length_append]
      exact Nat.lt_succ_self _
  · intro t since hsince
    apply published_of_empty _ (published_clear _) hsince
    exact (isSome_journal_step _ .clear).trans (isSome_journal_opened capacity journaled before)
  · intro hbefore t
    apply published_of_empty (isSome_journal_opened capacity journaled []) _ hbefore
    intro u
    cases journaled <;> rfl
  · intro t ms
    have hfailing : (opened capacity journaled before).failing = _ := failing_after _ before
    have hlast : (before.filterMap BusEvent.refusal?).getLast? = some true ↔
        (opened capacity journaled before).failing = true := by
      rw [hfailing]
      cases (before.filterMap BusEvent.refusal?).getLast? <;> simp [ofCapacity]
    rcases (opened capacity journaled before).publish_eq t ms with ⟨hon, hrefused⟩ | ⟨hoff, haccepted⟩
    · rw [if_pos (hlast.2 hon)]
      exact hrefused
    · rw [if_neg fun hon => by simp [hlast.1 hon] at hoff]
      exact haccepted

def overtaking : List BusEvent :=
  let post (key : String) : Message := ⟨key, .null⟩
  [.publish .walletStatus [post "1", post "2", post "3", post "4", post "5", post "6"], .recv 0, .recv 0,
    .failing true, .publish .walletStatus [post "lost"], .failing false, .publish .shopStatus [post "aside"],
    .publish .walletStatus [post "7", post "8"]]

theorem delivery_accounts_for_all_overtaking : .unsubscribe 0 ∉ overtaking ∧
    (((opened 3 true []).subscribe .walletStatus).2.accepted .walletStatus overtaking).map (·.key) =
      ["1", "2", "3", "4", "5", "6", "7", "8"] ∧
    ((opened 3 true []).subscribe .walletStatus).2.given 0 overtaking = [.lagged 2, .message ⟨"3", .null⟩] ∧
    ∃ lost pending, ((opened 3 true []).subscribe .walletStatus).2.Serves (max 3 1).nextPowerOfTwo 0 .walletStatus
      overtaking lost pending := by
  have hstays : .unsubscribe 0 ∉ overtaking := by decide
  refine ⟨hstays, by decide +kernel, by decide +kernel, ?_⟩
  exact ((delivery_accounts_for_all 3 true []).1 .walletStatus 0 _ overtaking rfl).1 hstays

end Bus

end CashShop
