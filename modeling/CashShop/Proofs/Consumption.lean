import CashShop.Proofs.Delivery
import CashShop.Proofs.Feed

namespace CashShop

open Work

variable {ring i j : Nat} {t u : Topic} {f : Feed}

theorem Commits.inbound {s : Service} {amb : Ambient} {c : Call} {a : Answer} {d : Draft} (h : Commits s amb c a d)
    (hu : u ∈ Topic.inbound) : d.outbox.batch u = [] := by
  have hbegin : (Draft.begin s.store).outbox.batch u = [] := rfl
  have hne {t : Topic} (ht : t ∉ Topic.inbound) : t ≠ u := (ne_of_mem_of_not_mem hu ht).symm
  have hput (d : Draft) {t : Topic} (ht : t ∉ Topic.inbound) (m : Message) :
      (d.put t m).outbox.batch u = d.outbox.batch u := by
    rw [Draft.batch_put, if_neg (hne ht), List.append_nil]
  cases h with
  | accountCreated _ opened =>
    rw [hput _ (by decide), Draft.batch_foldlM_open (hne (by decide)) opened, Draft.enterWallet, hput _ (by decide)]
    exact hbegin
  | accountDeleted acc =>
    rw [hput _ (by decide), Draft.closeInventory, Draft.batch_foldl_close (hne (by decide)),
      Draft.batch_dropWallet (hne (by decide))]
    exact hbegin
  | purchase =>
    rw [Purchase.delivered, hput _ (by decide), Draft.placeAsset, Draft.enterItem, hput _ (by decide), Draft.setWallet,
      hput _ (by decide), Draft.claimAlso]
    exact hbegin
  | widening =>
    rw [Widening.requested, hput _ (by decide), hput _ (by decide), Draft.setWallet, hput _ (by decide)]
    exact hbegin
  | grant =>
    rw [Draft.enterItem, hput _ (by decide)]
    exact hbegin
  | acceptHeld | accept | release | moved =>
    rw [hput _ (by decide)]
    exact hbegin

theorem Service.delivered_dispatch (hu : u ∈ Topic.inbound) (s : Service) (amb : Ambient) (t : Topic) (m : Message) :
    (s.dispatch amb t m).2.transport.delivered u = s.transport.delivered u := by
  have hne {t : Topic} (ht : t ∉ Topic.inbound) : t ≠ u := (ne_of_mem_of_not_mem hu ht).symm
  rw [dispatch_snd]
  cases m.call? t with
  | none => rfl
  | some c =>
    have htells := s.call_tells amb c
    rw [callIf]
    generalize (s.call amb c).2 = s' at htells ⊢
    cases htells with
    | committed commits _ transport =>
      obtain ⟨ms, hms, hbatch⟩ := Transport.delivered_flush _ s.transport u
      rw [commits.inbound hu] at hbatch
      obtain rfl : ms = [] := List.eq_nil_iff_forall_not_mem.2 fun m hm => List.not_mem_nil (hbatch m hm)
      rw [transport, hms, List.append_nil]
    | apology _ told => exact told.delivered (hne (by decide)) (hne (by decide))
    | order _ _ transport =>
      have horder : Topic.characterCommand ≠ u := hne (by decide)
      rw [transport, Transport.delivered_log]
      simp [horder]

theorem Bus.publish_of_working {b : Bus} (h : b.failing = false) (u : Topic) (ms : List Message) :
    (b.publish u ms).2 = { b with
      journal := b.journal.map (· ++ ms.map fun m => (u, m))
      channel := fun v => if v = u then ms.foldl (Channel.send b.ring) (b.channel u) else b.channel v } := by
  rw [publish, h]
  rfl

/-- The receiver follows this feed, on a bus that works. -/
structure Bus.Feeds (b : Bus) (ring i : Nat) (t : Topic) (f : Feed) : Prop where
  size : b.ring = ring
  working : b.failing = false
  running : b.closed = false
  receiver : b.receivers[i]? = some (some ⟨t, f.next⟩)
  channel : (b.channel t).Keeps ring f.sent

namespace Bus.Feeds

variable {b : Bus}

theorem handing (h : b.Feeds ring i t f) (handed : List Message) : b.Feeds ring i t { f with handed } :=
  ⟨h.size, h.working, h.running, h.receiver, h.channel⟩

theorem publish (h : b.Feeds ring i t f) (ms : List Message) : (b.publish t ms).2.Feeds ring i t (f.send ms) := by
  rw [publish_of_working h.working]
  refine ⟨h.size, h.working, h.running, h.receiver, ?_⟩
  dsimp only
  rw [h.size, if_pos rfl]
  exact h.channel.sendAll ms

theorem publish_aside (h : b.Feeds ring i t f) {ms : List Message} (haside : u = t → ms = []) :
    (b.publish u ms).2.Feeds ring i t f := by
  by_cases hu : u = t
  · obtain rfl := haside hu
    have hnothing := h.publish []
    subst hu
    rwa [Feed.send, List.append_nil] at hnothing
  · rw [publish_of_working h.working]
    refine ⟨h.size, h.working, h.running, h.receiver, ?_⟩
    dsimp only
    rw [if_neg (Ne.symm hu)]
    exact h.channel

theorem publish_asides {ps : List Publication} (h : b.Feeds ring i t f)
    (hasides : ∀ p ∈ ps, p.topic = t → p.messages = []) :
    (ps.foldl (fun b p => (b.publish p.topic p.messages).2) b).Feeds ring i t f := by
  induction ps generalizing b with
  | nil => exact h
  | cons p ps ih =>
    apply ih
    · exact h.publish_aside (hasides p List.mem_cons_self)
    · intro q hq
      exact hasides q (List.mem_cons_of_mem _ hq)

theorem recv_eq (h : b.Feeds ring i t f) : b.recv i =
    (f.reception ring, { b with receivers := b.receivers.set i (some ⟨t, (f.receive ring).next⟩) }) := by
  have holdest : (b.channel t).oldest = f.oldest ring := h.channel.oldest
  rw [Bus.recv, h.receiver]
  dsimp only
  rw [Receiver.poll, holdest, h.running, Feed.reception, Feed.receive]
  by_cases hlags : f.next < f.oldest ring
  · simp only [if_pos hlags]
  · have hkept : (b.channel t).kept[f.next - f.oldest ring]? = f.sent[f.next]? := by
      have hindex : f.sent.length - ring + (f.next - f.oldest ring) = f.next := by
        rw [Feed.oldest] at hlags ⊢
        omega
      rw [h.channel.kept, List.getElem?_drop, hindex]
    simp only [if_neg hlags, hkept]
    cases f.sent[f.next]? <;> rfl

theorem recv (h : b.Feeds ring i t f) : (b.recv i).2.Feeds ring i t (f.receive ring) := by
  obtain ⟨hlt, -⟩ := List.getElem?_eq_some_iff.1 h.receiver
  rw [h.recv_eq]
  refine ⟨h.size, h.working, h.running, List.getElem?_set_self hlt, ?_⟩
  rw [Feed.sent_receive]
  exact h.channel

theorem recv_other (h : b.Feeds ring i t f) (hj : j ≠ i) : (b.recv j).2.Feeds ring i t f := by
  unfold Bus.recv
  split
  · refine ⟨h.size, h.working, h.running, ?_, h.channel⟩
    rw [List.getElem?_set_ne hj]
    exact h.receiver
  · exact h

end Bus.Feeds

namespace Session

variable {n : Session} {ambient : Nat → Ambient}

theorem turn_poll (n : Session) (j : Nat) : n.turn ambient (.poll j) =
    match Topic.inbound[j]?, (n.bus.recv j).1.message? with
    | some u, some m => hand ambient u m { n with bus := (n.bus.recv j).2 }
    | _, _ => { n with bus := (n.bus.recv j).2 } := by
  rw [turn]
  rcases n.bus.recv j with ⟨got, b⟩
  cases Topic.inbound[j]? with
  | none => rfl
  | some u => cases got <;> rfl

def handedOn (n : Session) (t : Topic) : List Message := (n.handled.filter (·.topic = t)).map (·.message)

def reported (n : Session) (i : Nat) : Turn → Nat
  | .publish _ _ => 0
  | .poll j => if j = i then (n.bus.recv i).1.lost else 0

def lost (ambient : Nat → Ambient) (i : Nat) : List Turn → Session → Nat
  | [], _ => 0
  | x :: turns, n => n.reported i x + lost ambient i turns (n.turn ambient x)

/-- The consumer follows this feed, and the service has nothing left to publish. -/
structure Feeds (n : Session) (ring i : Nat) (t : Topic) (f : Feed) : Prop where
  bus : n.bus.Feeds ring i t f
  quiet : n.service.transport.calls = []
  handed : n.handedOn t = f.handed

namespace Feeds

theorem hand (h : n.Feeds ring i t f) (ht : t ∈ Topic.inbound) (ambient : Nat → Ambient) (u : Topic) (m : Message) :
    (n.hand ambient u m).Feeds ring i t (if u = t then { f with handed := f.handed ++ [m] } else f) := by
  have hdelivered : (n.service.dispatch (ambient n.handled.length) u m).2.transport.delivered t = [] := by
    rw [Service.delivered_dispatch ht, Transport.delivered, h.quiet]
    rfl
  have hbus : (n.hand ambient u m).bus.Feeds ring i t f := by
    apply h.bus.publish_asides
    intro p hp hpt
    obtain ⟨hp, haccepted⟩ := List.mem_filter.1 hp
    rw [Transport.delivered, List.flatMap_eq_nil_iff] at hdelivered
    exact hdelivered p (List.mem_filter.2 ⟨hp, by simp [hpt, haccepted]⟩)
  by_cases hu : u = t
  · rw [if_pos hu]
    refine ⟨hbus.handing _, rfl, ?_⟩
    simp [Session.hand, relay, handedOn, hu, ← h.handed]
  · rw [if_neg hu]
    refine ⟨hbus, rfl, ?_⟩
    simp [Session.hand, relay, handedOn, hu, ← h.handed]

theorem publish (h : n.Feeds ring i t f) (u : Topic) (m : Message) :
    (n.turn ambient (.publish u m)).Feeds ring i t (f.turn ring i t (.publish u m)) := by
  by_cases hu : u = t
  · subst hu
    rw [Feed.turn, if_pos rfl]
    exact ⟨h.bus.publish [m], h.quiet, h.handed⟩
  · rw [Feed.turn, if_neg hu]
    exact ⟨h.bus.publish_aside fun hut => absurd hut hu, h.quiet, h.handed⟩

theorem poll (h : n.Feeds ring i t f) (hi : Topic.inbound[i]? = some t) :
    (n.turn ambient (.poll i)).Feeds ring i t (f.receive ring) := by
  have hgot : (n.bus.recv i).1 = f.reception ring := by rw [h.bus.recv_eq]
  have hhanded := f.handed_receive ring
  have hrecv : ({ n with bus := (n.bus.recv i).2 } : Session).Feeds ring i t
      { f.receive ring with handed := f.handed } :=
    ⟨h.bus.recv.handing _, h.quiet, h.handed⟩
  rw [turn_poll, hi, hgot]
  cases hm : (f.reception ring).message? with
  | none =>
    rw [hm, Option.toList_none, List.append_nil] at hhanded
    rwa [← hhanded] at hrecv
  | some m =>
    have hhand := hrecv.hand (List.mem_of_getElem? hi) ambient t m
    rw [hm, Option.toList_some] at hhanded
    rw [if_pos rfl] at hhand
    dsimp only at hhand
    rwa [← hhanded] at hhand

theorem poll_other (h : n.Feeds ring i t f) (hi : Topic.inbound[i]? = some t) (hj : j ≠ i) :
    (n.turn ambient (.poll j)).Feeds ring i t f := by
  have hrecv : ({ n with bus := (n.bus.recv j).2 } : Session).Feeds ring i t f :=
    ⟨h.bus.recv_other hj, h.quiet, h.handed⟩
  rw [turn_poll]
  split
  next u m hu _ =>
    have hut : u ≠ t := by
      rintro rfl
      obtain ⟨hlt, -⟩ := List.getElem?_eq_some_iff.1 hi
      exact hj ((List.getElem?_inj hlt (by decide)).1 (hi.trans hu.symm)).symm
    have hhand := hrecv.hand (List.mem_of_getElem? hi) ambient u m
    rwa [if_neg hut] at hhand
  next => exact hrecv

theorem turn (h : n.Feeds ring i t f) (hi : Topic.inbound[i]? = some t) (ambient : Nat → Ambient) (x : Turn) :
    (n.turn ambient x).Feeds ring i t (f.turn ring i t x) := by
  cases x with
  | publish u m => exact h.publish u m
  | poll j =>
    by_cases hj : j = i
    · subst hj
      rw [Feed.turn, if_pos rfl]
      exact h.poll hi
    · rw [Feed.turn, if_neg hj]
      exact h.poll_other hi hj

theorem reported (h : n.Feeds ring i t f) (x : Turn) : (f.turn ring i t x).lost = f.lost + n.reported i x := by
  cases x with
  | publish u m =>
    rw [Feed.turn]
    split <;> rfl
  | poll j =>
    rw [Feed.turn, Session.reported]
    split
    · rw [h.bus.recv_eq]
      exact f.lost_receive ring
    · rfl

/-- Whoever else takes turns, a consumer goes the way of its feed. -/
theorem run (h : n.Feeds ring i t f) (hi : Topic.inbound[i]? = some t) (ambient : Nat → Ambient) (turns : List Turn) :
    (n.run ambient turns).Feeds ring i t (f.run ring i t turns) ∧
      (f.run ring i t turns).lost = f.lost + n.lost ambient i turns := by
  induction turns generalizing n f with
  | nil => exact ⟨h, rfl⟩
  | cons x turns ih =>
    obtain ⟨hfeeds, hlost⟩ := ih (h.turn hi ambient x)
    refine ⟨hfeeds, ?_⟩
    rw [h.reported x, Nat.add_assoc] at hlost
    exact hlost

end Feeds

theorem feeds_start (hi : Topic.inbound[i]? = some t) (capacity : Nat) {s : Service} (hs : s.transport.calls = []) :
    (start capacity s).Feeds (max capacity 1).nextPowerOfTwo i t .fresh := by
  have hreceivers : (start capacity s).bus.receivers = Topic.inbound.map fun t => some ⟨t, 0⟩ := rfl
  have hreceiver : (start capacity s).bus.receivers[i]? = some (some ⟨t, 0⟩) := by
    rw [hreceivers, List.getElem?_map, hi]
    rfl
  exact ⟨⟨rfl, rfl, rfl, hreceiver, ⟨rfl, List.drop_nil.symm⟩⟩, hs, rfl⟩

end Session

end CashShop
