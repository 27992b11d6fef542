import CashShop.Proofs.Delivery

namespace CashShop

namespace Outbox

section Firsts

variable {α β : Type} [DecidableEq α] {l : List α} {a : α}

@[simp] theorem mem_firsts : a ∈ firsts l ↔ a ∈ l := by
  induction l with
  | nil => simp [firsts]
  | cons b l ih => by_cases hab : a = b <;> simp [firsts, ih, hab]

theorem nodup_firsts (l : List α) : (firsts l).Nodup := by
  induction l with
  | nil => exact List.nodup_nil
  | cons b l ih => exact List.nodup_cons.2 ⟨by simp, ih.filter _⟩

theorem flatMap_ite_eq_nil (f : α → List β) (h : a ∉ l) : l.flatMap (fun x => if x = a then f x else []) = [] := by
  rw [List.flatMap_eq_nil_iff]
  rintro x hx
  rw [if_neg]
  rintro rfl
  exact h hx

theorem flatMap_ite_of_nodup (f : α → List β) (hl : l.Nodup) (ha : a ∈ l) :
    l.flatMap (fun x => if x = a then f x else []) = f a := by
  obtain ⟨xs, ys, rfl⟩ := List.append_of_mem ha
  obtain ⟨-, hys, hne⟩ := List.nodup_append.1 hl
  have hxs : a ∉ xs := fun hx => hne a hx a List.mem_cons_self rfl
  rw [List.flatMap_append, List.flatMap_cons, flatMap_ite_eq_nil f hxs,
    flatMap_ite_eq_nil f (List.nodup_cons.1 hys).1]
  simp

end Firsts

def publications (o : Outbox) : List Publication := o.batches.map fun b => ⟨b.1, b.2, true⟩

end Outbox

def heard (ps : List Publication) : List (Topic × Message) := ps.flatMap fun p => p.messages.map (p.topic, ·)

/-- Batches keep the order of the messages of each topic. -/
theorem Outbox.batch_heard (o : Outbox) (topic : Topic) : Outbox.batch ⟨heard o.publications⟩ topic = o.batch topic := by
  have hflat : Outbox.batch ⟨heard o.publications⟩ topic =
      o.topics.flatMap fun t => if t = topic then o.batch t else [] := by
    simp only [Outbox.batch, heard, publications, batches, List.flatMap_map, List.filter_flatMap, List.map_flatMap,
      List.filter_map, List.map_map]
    congr 1
    funext t
    by_cases ht : t = topic <;> simp [ht, Function.comp_def]
  rw [hflat]
  by_cases ht : topic ∈ o.topics
  · exact flatMap_ite_of_nodup o.batch (nodup_firsts _) ht
  · rw [flatMap_ite_eq_nil o.batch ht]
    have hnone : ∀ e ∈ o.entries, e.1 ≠ topic := by
      rintro e he rfl
      exact ht (mem_firsts.2 (List.mem_map_of_mem he))
    simpa [batch, List.filter_eq_nil_iff] using fun t m he => hnone (t, m) he

namespace Transport

variable {t t' : Transport}

def Works (t : Transport) : Prop := t.failing = false ∧ t.refused = []

instance (t : Transport) : Decidable t.Works := inferInstanceAs (Decidable (_ ∧ _))

theorem Works.refuses (h : t.Works) (topic : Topic) : t.refuses topic = false := by
  simp [Transport.refuses, h.1, h.2]

theorem carried_log (t : Transport) (topic : Topic) (ms : List Message) :
    (t.log ⟨topic, ms, true⟩).carried = t.carried ++ [⟨topic, ms, true⟩] := by
  simp [carried, log]

theorem carried_publishAll (h : t.Works) (bs : List (Topic × List Message)) :
    (Publisher.publishAll publish bs t).2.carried = t.carried ++ bs.map fun b => ⟨b.1, b.2, true⟩ := by
  induction bs generalizing t with
  | nil => simp [Publisher.publishAll]
  | cons b bs ih =>
    have hstep : publish b.1 b.2 t = (.ok (), t.log ⟨b.1, b.2, true⟩) := by
      simp [publish, h.refuses, log]
    rw [Publisher.publishAll, hstep]
    dsimp only
    rw [ih (t := t.log ⟨b.1, b.2, true⟩) h, carried_log, List.append_assoc]
    rfl

theorem carried_flush (h : t.Works) (o : Outbox) :
    (o.flush publish t).2.carried = t.carried ++ o.publications := carried_publishAll h o.batches

end Transport

inductive IsAside : Topic → Message → Prop where
  | error {topic : Topic} {m : Message} (error : IsErrorEvent topic m) : IsAside topic m
  | order (b : CharacterId) (tab : Tab) (slot : Int16) (i : ItemId) (t : TransactionId) :
      IsAside .characterCommand (Transfer.command b tab slot i t)

variable {s : Service}

/-- A call leaves this store, and lets the transport carry these publications. -/
inductive Announces (s : Service) (amb : Ambient) (c : Call) (after : Store) : List Publication → Prop where
  | committed {a : Answer} {d : Draft} (commits : Commits s amb c a d) (store : after = d.committed) :
      Announces s amb c after d.outbox.publications
  | aside {ps : List Publication} (store : after = s.store) (asides : ∀ m ∈ heard ps, IsAside m.1 m.2) :
      Announces s amb c after ps

namespace Service

theorem call_announces (h : s.transport.Works) (amb : Ambient) (c : Call) : ∃ ps,
    Announces s amb c (s.call amb c).2.store ps ∧ (s.call amb c).2.transport.carried = s.transport.carried ++ ps := by
  have htells := call_tells s amb c
  generalize (s.call amb c).2 = s' at htells ⊢
  cases htells with
  | committed commits store transport =>
    refine ⟨_, .committed commits store, ?_⟩
    rw [transport, Transport.carried_flush h]
  | apology store told =>
    obtain told | ⟨topic, m, he, told⟩ := told
    · exact ⟨[], .aside store (by simp [heard]), by rw [told, List.append_nil]⟩
    · refine ⟨_, .aside store ?_, told⟩
      simpa [heard] using IsAside.error he
  | order _ store transport =>
    refine ⟨_, .aside store ?_, by rw [transport, Transport.carried_log]⟩
    simpa [heard] using IsAside.order _ _ _ _ _

def NeverRefused (s : Service) (h : List Event) : Prop := s.Throughout (fun s _ => s.transport.Works) h

instance (s : Service) (h : List Event) : Decidable (s.NeverRefused h) :=
  inferInstanceAs (Decidable (s.Throughout _ h))

end Service

end CashShop
