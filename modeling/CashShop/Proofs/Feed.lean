import CashShop.Session
import Mathlib.Logic.Function.Iterate

namespace CashShop

variable {ring i : Nat} {t : Topic} {ms : List Message}

/-- The channel has been sent these messages, and keeps as many of the last ones as the ring holds. -/
structure Channel.Keeps (c : Channel) (ring : Nat) (ms : List Message) : Prop where
  sent : c.sent = ms.length
  kept : c.kept = ms.drop (ms.length - ring)

namespace Channel.Keeps

variable {c : Channel}

theorem oldest (h : c.Keeps ring ms) : c.oldest = ms.length - ring := by
  rw [Channel.oldest, h.sent, h.kept, List.length_drop]
  omega

theorem send (h : c.Keeps ring ms) (m : Message) : (c.send ring m).Keeps ring (ms ++ [m]) := by
  constructor
  · rw [List.length_append, List.length_singleton, ← h.sent, Channel.send]
  · have hkept : c.kept ++ [m] = (ms ++ [m]).drop (ms.length - ring) := by
      rw [h.kept, List.drop_append_of_le_length (by omega)]
    have hfirst : ms.length - ring + ((ms ++ [m]).length - (ms.length - ring) - ring) = (ms ++ [m]).length - ring := by
      rw [List.length_append, List.length_singleton]
      omega
    rw [Channel.send, hkept, List.drop_drop, List.length_drop, hfirst]

theorem sendAll (h : c.Keeps ring ms) (more : List Message) :
    (more.foldl (Channel.send ring) c).Keeps ring (ms ++ more) := by
  induction more generalizing c ms with
  | nil =>
    rw [List.append_nil]
    exact h
  | cons m more ih =>
    have hmore := ih (h.send m)
    rwa [List.append_assoc] at hmore

end Channel.Keeps

namespace Reception

def message? : Reception → Option Message
  | message m => some m
  | _ => none

def lost : Reception → Nat
  | lagged lost => lost
  | _ => 0

end Reception

structure Feed where
  sent : List Message
  next : Nat
  handed : List Message
  lost : Nat

def messagesTo (t : Topic) (records : List (Topic × Message)) : List Message :=
  (records.filter (·.1 = t)).map (·.2)

def Turn.record? : Turn → Option (Topic × Message)
  | publish t m => some (t, m)
  | poll _ => none

namespace Feed

variable {f : Feed} {x : Turn} {turns : List Turn}

def fresh : Feed := ⟨[], 0, [], 0⟩

def oldest (ring : Nat) (f : Feed) : Nat := f.sent.length - ring

def send (f : Feed) (ms : List Message) : Feed := { f with sent := f.sent ++ ms }

def reception (ring : Nat) (f : Feed) : Reception :=
  if f.next < f.oldest ring then .lagged (f.oldest ring - f.next)
  else match f.sent[f.next]? with
    | some m => .message m
    | none => .empty

def receive (ring : Nat) (f : Feed) : Feed :=
  if f.next < f.oldest ring then { f with next := f.oldest ring, lost := f.lost + (f.oldest ring - f.next) }
  else match f.sent[f.next]? with
    | some m => { f with next := f.next + 1, handed := f.handed ++ [m] }
    | none => f

def turn (ring i : Nat) (t : Topic) (f : Feed) : Turn → Feed
  | .publish u m => if u = t then f.send [m] else f
  | .poll j => if j = i then f.receive ring else f

def run (ring i : Nat) (t : Topic) (turns : List Turn) (f : Feed) : Feed := turns.foldl (turn ring i t) f

theorem sent_receive (ring : Nat) (f : Feed) : (f.receive ring).sent = f.sent := by
  unfold receive
  split
  · rfl
  · split <;> rfl

theorem handed_receive (ring : Nat) (f : Feed) :
    (f.receive ring).handed = f.handed ++ (f.reception ring).message?.toList := by
  unfold receive reception
  split
  · exact (List.append_nil _).symm
  · split
    · rfl
    · exact (List.append_nil _).symm

theorem lost_receive (ring : Nat) (f : Feed) : (f.receive ring).lost = f.lost + (f.reception ring).lost := by
  unfold receive reception
  split
  · rfl
  · split <;> rfl

theorem sent_turn (f : Feed) (x : Turn) :
    (f.turn ring i t x).sent = f.sent ++ messagesTo t x.record?.toList := by
  cases x with
  | publish u m =>
    by_cases hu : u = t
    · simp [turn, send, messagesTo, Turn.record?, hu]
    · simp [turn, messagesTo, Turn.record?, hu]
  | poll j =>
    have hsent : (f.turn ring i t (.poll j)).sent = f.sent := by
      rw [turn]
      split
      · exact f.sent_receive ring
      · rfl
    rw [hsent]
    exact (List.append_nil _).symm

theorem sent_run (turns : List Turn) (f : Feed) :
    (f.run ring i t turns).sent = f.sent ++ messagesTo t (turns.filterMap Turn.record?) := by
  induction turns generalizing f with
  | nil => exact (List.append_nil _).symm
  | cons x turns ih =>
    have hcons : (x :: turns).filterMap Turn.record? = x.record?.toList ++ turns.filterMap Turn.record? := by
      cases x <;> rfl
    change ((f.turn ring i t x).run ring i t turns).sent = _
    rw [ih, sent_turn, hcons, List.append_assoc, messagesTo, messagesTo, messagesTo, List.filter_append,
      List.map_append]

theorem run_append (before after : List Turn) (f : Feed) :
    f.run ring i t (before ++ after) = (f.run ring i t before).run ring i t after := List.foldl_append

/-- The consumer does not run ahead. What it has handed on are messages before the one that it waits for, in the order
in which they were sent, and it has been told of all the others. -/
structure Sound (f : Feed) : Prop where
  inside : f.next ≤ f.sent.length
  inOrder : f.handed.Sublist (f.sent.take f.next)
  accounted : f.handed.length + f.lost = f.next

theorem Sound.fresh : fresh.Sound := ⟨Nat.zero_le _, List.nil_sublist _, rfl⟩

theorem Sound.send (h : f.Sound) (ms : List Message) : (f.send ms).Sound := by
  constructor
  · have hinside := h.inside
    simp only [Feed.send, List.length_append]
    omega
  · have htake : (f.sent ++ ms).take f.next = f.sent.take f.next := List.take_append_of_le_length h.inside
    rw [Feed.send, htake]
    exact h.inOrder
  · exact h.accounted

theorem Sound.receive (h : f.Sound) (ring : Nat) : (f.receive ring).Sound := by
  have haccounted := h.accounted
  have hinside := h.inside
  unfold Feed.receive
  split
  next hlags =>
    have holdest : f.oldest ring ≤ f.sent.length := Nat.sub_le _ _
    constructor
    · exact holdest
    · exact h.inOrder.trans (List.take_sublist_take_left (Nat.le_of_lt hlags))
    · dsimp only
      omega
  next =>
    split
    next m hm =>
      obtain ⟨hlt, -⟩ := List.getElem?_eq_some_iff.1 hm
      constructor
      · exact hlt
      · have htake : f.sent.take (f.next + 1) = f.sent.take f.next ++ [m] := by
          rw [List.take_add_one, hm]
          rfl
        rw [htake]
        exact h.inOrder.append (List.Sublist.refl [m])
      · change (f.handed ++ [m]).length + f.lost = f.next + 1
        rw [List.length_append, List.length_singleton]
        omega
    next => exact h

theorem Sound.turn (h : f.Sound) (x : Turn) : (f.turn ring i t x).Sound := by
  cases x with
  | publish u m =>
    rw [Feed.turn]
    split
    · exact h.send [m]
    · exact h
  | poll j =>
    rw [Feed.turn]
    split
    · exact h.receive ring
    · exact h

theorem Sound.run (h : f.Sound) (turns : List Turn) : (f.run ring i t turns).Sound := by
  induction turns generalizing f with
  | nil => exact h
  | cons x turns ih => exact ih (h.turn x)

theorem reception_eq_empty_iff (hinside : f.next ≤ f.sent.length) :
    f.reception ring = .empty ↔ f.next = f.sent.length := by
  have holdest : f.oldest ring ≤ f.sent.length := Nat.sub_le _ _
  rw [reception]
  constructor
  · intro hempty
    split at hempty
    next => cases hempty
    next =>
      split at hempty
      next => cases hempty
      next hm => exact Nat.le_antisymm hinside (List.getElem?_eq_none_iff.1 hm)
  · intro hnext
    rw [hnext, if_neg (Nat.not_lt.2 holdest), List.getElem?_eq_none (Nat.le_refl _)]

theorem lost_turn (hroom : f.sent.length ≤ ring) (x : Turn) : (f.turn ring i t x).lost = f.lost := by
  cases x with
  | publish u m =>
    rw [turn]
    split <;> rfl
  | poll j =>
    have holdest : ¬ f.next < f.oldest ring := by
      rw [oldest]
      omega
    rw [turn, receive, if_neg holdest]
    split
    · split <;> rfl
    · rfl

/-- While the ring holds all that is sent, the consumer loses nothing, whenever it takes its turns. -/
theorem lost_run (hroom : (f.run ring i t turns).sent.length ≤ ring) : (f.run ring i t turns).lost = f.lost := by
  induction turns generalizing f with
  | nil => rfl
  | cons x turns ih =>
    have hlength : f.sent.length ≤ ring := by
      rw [sent_run, List.length_append] at hroom
      omega
    exact (ih hroom).trans (lost_turn hlength x)

theorem run_publish (records : List (Topic × Message)) (f : Feed) :
    f.run ring i t (records.map fun r => .publish r.1 r.2) = f.send (messagesTo t records) := by
  induction records generalizing f with
  | nil => simp [run, send, messagesTo]
  | cons r records ih =>
    change (f.turn ring i t (.publish r.1 r.2)).run ring i t _ = _
    rw [ih]
    by_cases hr : r.1 = t
    · simp [turn, send, messagesTo, hr]
    · simp [turn, send, messagesTo, hr]

theorem run_polls (hpolls : ∀ x ∈ turns, x.record? = none) (f : Feed) :
    f.run ring i t turns = (receive ring)^[turns.count (.poll i)] f := by
  induction turns generalizing f with
  | nil => rfl
  | cons x turns ih =>
    have hrest : ∀ x ∈ turns, x.record? = none := by
      intro x hx
      exact hpolls x (List.mem_cons_of_mem _ hx)
    change (f.turn ring i t x).run ring i t turns = _
    cases x with
    | publish u m => cases hpolls _ List.mem_cons_self
    | poll j =>
      by_cases hj : j = i
      · rw [ih hrest, turn, if_pos hj, hj, List.count_cons_self, Function.iterate_succ_apply]
      · have hne : Turn.poll j ≠ .poll i := by simpa using hj
        rw [ih hrest, turn, if_neg hj, List.count_cons_of_ne hne]

theorem iterate_receive_of_kept (k : Nat) (hkept : f.oldest ring ≤ f.next) : (receive ring)^[k] f =
    { f with
      next := max f.next (min (f.next + k) f.sent.length)
      handed := f.handed ++ (f.sent.drop f.next).take k } := by
  induction k generalizing f with
  | zero =>
    have hnext : max f.next (min f.next f.sent.length) = f.next := by omega
    change f = { f with next := max f.next (min f.next f.sent.length), handed := f.handed ++ [] }
    rw [hnext, List.append_nil]
  | succ k ih =>
    rw [Function.iterate_succ_apply, receive, if_neg (Nat.not_lt.2 hkept)]
    cases hm : f.sent[f.next]? with
    | none =>
      have hend := List.getElem?_eq_none_iff.1 hm
      have hdrop : f.sent.drop f.next = [] := List.drop_eq_nil_iff.2 hend
      have hnext (k : Nat) : max f.next (min (f.next + k) f.sent.length) = f.next := by omega
      dsimp only
      rw [ih hkept, hdrop, hnext, hnext, List.take_nil, List.take_nil]
    | some m =>
      obtain ⟨hlt, hget⟩ := List.getElem?_eq_some_iff.1 hm
      have hdrop : f.sent.drop f.next = m :: f.sent.drop (f.next + 1) := by
        rw [← hget]
        exact List.drop_eq_getElem_cons hlt
      have hnext : max (f.next + 1) (min (f.next + 1 + k) f.sent.length) =
          max f.next (min (f.next + (k + 1)) f.sent.length) := by omega
      have hstep : oldest ring { f with next := f.next + 1, handed := f.handed ++ [m] } ≤ f.next + 1 :=
        Nat.le_succ_of_le hkept
      dsimp only
      rw [ih hstep, hdrop, List.take_succ_cons, hnext, List.append_assoc]
      rfl

/-- With a turn for each message, and one more for a report, a consumer catches up from wherever it is. -/
theorem next_iterate_receive (hinside : f.next ≤ f.sent.length) {k : Nat} (hk : f.sent.length < k) :
    ((receive ring)^[k] f).next = f.sent.length := by
  have hcatchesUp (g : Feed) (hkept : g.oldest ring ≤ g.next) (hsent : g.sent = f.sent) (hg : g.next ≤ f.sent.length)
      {j : Nat} (hj : f.sent.length ≤ j) : ((receive ring)^[j] g).next = f.sent.length := by
    rw [iterate_receive_of_kept j hkept, hsent]
    dsimp only
    omega
  by_cases hlags : f.next < f.oldest ring
  · obtain ⟨k, rfl⟩ : ∃ j, k = j + 1 := ⟨k - 1, by omega⟩
    rw [Function.iterate_succ_apply, receive, if_pos hlags]
    apply hcatchesUp
    · exact Nat.le_refl _
    · rfl
    · exact Nat.sub_le _ _
    · exact Nat.le_of_lt_succ hk
  · exact hcatchesUp f (Nat.not_lt.1 hlags) rfl hinside (Nat.le_of_lt hk)

theorem iterate_receive_of_oldest {k : Nat} (hnext : f.next = f.oldest ring) (hk : f.sent.length ≤ k) :
    (receive ring)^[k] f =
      { f with next := f.sent.length, handed := f.handed ++ f.sent.drop (f.oldest ring) } := by
  have holdest : f.oldest ring ≤ f.sent.length := Nat.sub_le _ _
  have hend : max (f.oldest ring) (min (f.oldest ring + k) f.sent.length) = f.sent.length := by omega
  have htake : (f.sent.drop (f.oldest ring)).take k = f.sent.drop (f.oldest ring) := by
    apply List.take_of_length_le
    rw [List.length_drop]
    omega
  rw [iterate_receive_of_kept k (Nat.le_of_eq hnext.symm), hnext, hend, htake]

theorem iterate_receive_late (ms : List Message) {k : Nat} (hk : ms.length < k) :
    (receive ring)^[k] (fresh.send ms) = ⟨ms, ms.length, ms.drop (ms.length - ring), ms.length - ring⟩ := by
  by_cases hlags : 0 < ms.length - ring
  · obtain ⟨k, rfl⟩ : ∃ j, k = j + 1 := ⟨k - 1, by omega⟩
    have hstart : (fresh.send ms).next < (fresh.send ms).oldest ring := hlags
    have hfirst : (fresh.send ms).receive ring = ⟨ms, ms.length - ring, [], ms.length - ring⟩ := by
      rw [receive, if_pos hstart]
      simp [fresh, send, oldest]
    rw [Function.iterate_succ_apply, hfirst, iterate_receive_of_oldest rfl (Nat.le_of_lt_succ hk)]
    rfl
  · have hzero : ms.length - ring = 0 := by omega
    have hstart : (fresh.send ms).next = (fresh.send ms).oldest ring := hzero.symm
    have hlength : (fresh.send ms).sent.length ≤ k := Nat.le_of_lt hk
    rw [iterate_receive_of_oldest hstart hlength, ← hstart, hzero]
    rfl

end Feed

end CashShop
