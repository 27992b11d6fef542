import CashShop.Proofs.SingleAnswer
import CashShop.Proofs.SinglePlacement

namespace CashShop

open Work

/-- The counter that counts the end of a call, and the kinds of message that tell of it. -/
structure Posting where
  counter? : Option Counter
  notices : List (Topic × String)

def Call.posting : Call → Except WorkflowError Answer → Posting
  | .purchase _ _, .ok (.purchase (.completed _)) =>
    ⟨some .purchases, [(.itemStatus, "CREATED"), (.shopStatus, "PURCHASE")]⟩
  | .purchase _ _, .ok (.purchase .inventoryFull) => ⟨some .purchaseRejections, [(.shopStatus, "ERROR")]⟩
  | .purchase _ _, .ok (.purchase .duplicate) => ⟨some .duplicateCommands, []⟩
  | .increaseByType _ _ _, .ok _ | .increaseByItem _ _ _, .ok _ => ⟨some .capacityIncreases,
      [(.characterCommand, "INCREASE_CAPACITY"), (.shopStatus, "INVENTORY_CAPACITY_INCREASED")]⟩
  | .grant _, .ok _ => ⟨some .itemsGranted, [(.itemStatus, "CREATED")]⟩
  | .move _ _, .ok _ => ⟨some .transfersStarted, [(.characterCommand, "MOVE_CASH_ITEM")]⟩
  | .moved _, .ok (.callback .applied) =>
    ⟨some .transfersCompleted, [(.shopStatus, "CASH_ITEM_MOVED_TO_INVENTORY")]⟩
  | .moveFailed _ _ _, .ok (.callback .applied) => ⟨some .transfersFailed, [(.shopStatus, "ERROR")]⟩
  | .moved _, .ok (.callback .dropped) | .moveFailed _ _ _, .ok (.callback .dropped) => ⟨some .callbacksDropped, []⟩
  | .purchase _ _, .error _ | .increaseByType _ _ _, .error _ | .increaseByItem _ _ _, .error _ | .move _ _, .error _
  | .moved _, .error _ => ⟨some .workflowErrors, [(.shopStatus, "ERROR")]⟩
  | .accept _, .error _ | .release _, .error _ => ⟨some .workflowErrors, [(.compartmentStatus, "ERROR")]⟩
  | .accountCreated _, .error _ | .accountDeleted _, .error _ | .grant _, .error _ => ⟨some .workflowErrors, []⟩
  | _, _ => ⟨none, []⟩

theorem Call.posting_of_widening {s : Service} {c : Call}
    {x : CharacterId × UInt32 × Except WorkflowError Widening.Offer} (h : c.widening? s = some x) (a : Answer) :
    c.posting (.ok a) = ⟨some .capacityIncreases,
      [(.characterCommand, "INCREASE_CAPACITY"), (.shopStatus, "INVENTORY_CAPACITY_INCREASED")]⟩ := by
  cases c with
  | increaseByType | increaseByItem => rfl
  | _ => cases h

/-- Messages whose number is tied to a counter. Of what is told of compartments these are just the errors. -/
def Watched (topic : Topic) (kind : String) : Prop :=
  topic = .shopStatus ∨ topic = .itemStatus ∨ topic = .characterCommand ∨ topic = .compartmentStatus ∧ kind = "ERROR"

def Transport.told (t : Transport) (topic : Topic) (kind : String) : Nat :=
  (t.delivered topic).countP (·.kind? = some kind)

def Draft.tells (d : Draft) (topic : Topic) (kind : String) : Nat :=
  (d.outbox.batch topic).countP (·.kind? = some kind)

variable {topic : Topic} {kind : String}

theorem Message.countP_kind {m : Message} {u : Topic} {k : String} (hk : m.kind? = some k) :
    (if u = topic then [m] else []).countP (·.kind? = some kind) = [(u, k)].count (topic, kind) := by
  by_cases hu : u = topic
  · by_cases hkind : k = kind
    · simp [hu, hk, hkind]
    · simp [hu, hk, hkind]
  · simp [hu]

def Metrics.post (m : Metrics) (p : Posting) : Metrics := p.counter?.elim m (m.add · 1)

namespace Draft

variable {d d' : Draft} {u : Topic} {m : Message} {k : String}

theorem tells_put (hk : m.kind? = some k) :
    (d.put u m).tells topic kind = d.tells topic kind + [(u, k)].count (topic, kind) := by
  rw [tells, batch_put, List.countP_append, Message.countP_kind hk, tells]

theorem tells_put_unwatched (hw : Watched topic kind) (hk : m.kind? = some k) (hu : ¬ Watched u k) :
    (d.put u m).tells topic kind = d.tells topic kind := by
  have hne : (u, k) ≠ (topic, kind) := by
    rintro ⟨⟩
    exact hu hw
  rw [tells_put hk, List.count_singleton, if_neg (by simpa using hne)]
  rfl

theorem tells_enterWallet (hw : Watched topic kind) (w : Wallet) :
    (d.enterWallet w).tells topic kind = d.tells topic kind :=
  tells_put_unwatched (k := "CREATED") hw rfl (by simp [Watched])

theorem tells_setWallet (hw : Watched topic kind) (w : Wallet) :
    (d.setWallet w).tells topic kind = d.tells topic kind :=
  tells_put_unwatched (k := "UPDATED") hw rfl (by simp [Watched])

theorem tells_dropWallet (hw : Watched topic kind) (a : AccountId) :
    (d.dropWallet a).tells topic kind = d.tells topic kind := by
  unfold dropWallet
  split
  · exact tells_put_unwatched (k := "DELETED") hw rfl (by simp [Watched])
  · rfl

theorem tells_enterItem (d : Draft) (n : NewItem) :
    (d.enterItem n).tells topic kind = d.tells topic kind + [(.itemStatus, "CREATED")].count (topic, kind) :=
  tells_put rfl

theorem tells_claimAlso (d : Draft) (key : Option String) :
    (d.claimAlso key).tells topic kind = d.tells topic kind := rfl

theorem tells_placeAsset (d : Draft) (a : Asset) : (d.placeAsset a).tells topic kind = d.tells topic kind := rfl

theorem tells_keepAssets (d : Draft) (p : Asset → Bool) :
    (d.keepAssets p).tells topic kind = d.tells topic kind := rfl

theorem tells_openInventory (hw : Watched topic kind) {a : AccountId} {capacity : UInt32}
    {id : ClassLine → CompartmentId} (h : d.openInventory a capacity id = .ok d') :
    d'.tells topic kind = d.tells topic kind := by
  refine foldlM_open_induction (P := fun d1 => d1.tells topic kind = d.tells topic kind) h rfl ?_
  intro l d1 d2 h2 hd
  obtain ⟨-, rfl⟩ := openCompartment_eq_ok.1 h2
  rw [← hd]
  exact tells_put_unwatched (k := "CREATED") hw rfl (by simp [Watched])

theorem tells_foldl_close (hw : Watched topic kind) (cs : List Compartment) (d : Draft) :
    (cs.foldl closeCompartment d).tells topic kind = d.tells topic kind := by
  induction cs generalizing d with
  | nil => rfl
  | cons c cs ih =>
    rw [List.foldl_cons, ih]
    exact tells_put_unwatched (k := "DELETED") hw rfl (by simp [Watched])

end Draft

namespace Commits

variable {s : Service} {amb : Ambient} {c : Call} {a : Answer} {d : Draft}

/-- A committed draft tells of itself what is posted of its call. -/
theorem tells (h : Commits s amb c a d) (hw : Watched topic kind) :
    d.tells topic kind = (c.posting (.ok a)).notices.count (topic, kind) := by
  have hbegin : (Draft.begin s.store).tells topic kind = 0 := rfl
  cases h with
  | @accountCreated acc _ fresh opened =>
    rw [Draft.tells_put_unwatched (k := "CREATED") hw rfl (by simp [Watched]), Draft.tells_openInventory hw opened,
      Draft.tells_enterWallet hw, hbegin]
    rfl
  | accountDeleted acc =>
    rw [Draft.tells_put_unwatched (k := "DELETED") hw rfl (by simp [Watched]), Draft.closeInventory,
      Draft.tells_foldl_close hw, Draft.tells_dropWallet hw, hbegin]
    rfl
  | purchase =>
    rw [Purchase.delivered, Draft.tells_put (k := "PURCHASE") rfl, Draft.tells_placeAsset, Draft.tells_enterItem,
      Draft.tells_setWallet hw, Draft.tells_claimAlso, hbegin, Nat.zero_add]
    exact List.count_append.symm
  | @widening _ _ _ _ _ _ _ _ asked =>
    rw [Call.posting_of_widening asked, Widening.requested, Draft.tells_put (k := "INVENTORY_CAPACITY_INCREASED") rfl,
      Draft.tells_put (k := "INCREASE_CAPACITY") rfl, Draft.tells_setWallet hw, hbegin, Nat.zero_add]
    exact List.count_append.symm
  | grant =>
    rw [Draft.tells_enterItem, hbegin, Nat.zero_add]
    rfl
  | acceptHeld =>
    rw [Draft.tells_put_unwatched (k := "ACCEPTED") hw rfl (by simp [Watched]), hbegin]
    rfl
  | accept =>
    rw [Draft.tells_put_unwatched (k := "ACCEPTED") hw rfl (by simp [Watched]), Draft.tells_placeAsset, hbegin]
    rfl
  | release =>
    rw [Draft.tells_put_unwatched (k := "RELEASED") hw rfl (by simp [Watched]), Draft.tells_keepAssets, hbegin]
    rfl
  | moved =>
    rw [Draft.tells_put (k := "CASH_ITEM_MOVED_TO_INVENTORY") rfl, Draft.tells_keepAssets, hbegin, Nat.zero_add]
    rfl

theorem lastItem (h : Commits s amb c a d) : d.tables.lastItem.toNat =
    s.store.tables.lastItem.toNat + (c.posting (.ok a)).notices.count (.itemStatus, "CREATED") := by
  cases h with
  | accountCreated _ opened =>
    obtain ⟨-, -, htables⟩ := Draft.frame_openInventory opened
    change _ = s.store.tables.lastItem.toNat + 0
    rw [Draft.put, htables]
    rfl
  | accountDeleted acc =>
    obtain ⟨-, -, htables⟩ := Draft.frame_closeInventory ((Draft.begin s.store).dropWallet acc) acc
    obtain ⟨-, -, htables'⟩ := Draft.frame_dropWallet (Draft.begin s.store) acc
    change _ = s.store.tables.lastItem.toNat + 0
    rw [Draft.put, htables, htables']
    rfl
  | purchase terms deliverable => exact toNat_nextNumber deliverable.numbered
  | widening asked =>
    rw [Call.posting_of_widening asked]
    rfl
  | grant unused dated faultless numbered => exact toNat_nextNumber numbered
  | acceptHeld | accept | release | moved => rfl

end Commits

namespace Transport

variable {t t' : Transport} {ps : List Publication}

theorem delivered_eq_batch (t : Transport) (topic : Topic) :
    t.delivered topic = Outbox.batch ⟨heard t.carried⟩ topic := by
  have hmessages (ms : List Message) (u : Topic) :
      ((ms.map (u, ·)).filter (·.1 = topic)).map Prod.snd = if u = topic then ms else [] := by
    by_cases hu : u = topic
    · simp [hu, List.filter_map, Function.comp_def]
    · simp [hu]
  unfold delivered Outbox.batch heard carried
  induction t.calls with
  | nil => rfl
  | cons p ps ih =>
    cases ha : p.accepted with
    | false => simpa [ha] using ih
    | true =>
      by_cases ht : p.topic = topic
      · simpa [ha, ht, hmessages] using ih
      · simpa [ha, ht, hmessages] using ih

theorem delivered_of_carried (h : t'.carried = t.carried ++ ps) (topic : Topic) :
    t'.delivered topic = t.delivered topic ++ Outbox.batch ⟨heard ps⟩ topic := by
  rw [delivered_eq_batch, delivered_eq_batch, h]
  simp only [heard, Outbox.batch, List.flatMap_append, List.filter_append, List.map_append]

theorem told_of_carried (h : t'.carried = t.carried ++ ps) (topic : Topic) (kind : String) :
    t'.told topic kind = t.told topic kind + (Outbox.batch ⟨heard ps⟩ topic).countP (·.kind? = some kind) := by
  rw [told, delivered_of_carried h, List.countP_append, told]

theorem told_of_carried_one {u : Topic} {m : Message} {k : String} (h : t'.carried = t.carried ++ [⟨u, [m], true⟩])
    (hk : m.kind? = some k) (topic : Topic) (kind : String) :
    t'.told topic kind = t.told topic kind + [(u, k)].count (topic, kind) := by
  have hbatch : Outbox.batch ⟨heard [⟨u, [m], true⟩]⟩ topic = if u = topic then [m] else [] := by
    by_cases hu : u = topic
    · simp [heard, Outbox.batch, hu]
    · simp [heard, Outbox.batch, hu]
  rw [told_of_carried h, hbatch, Message.countP_kind hk]

end Transport

namespace Call

variable {s s' : Service} {amb : Ambient} {c : Call} {p : Plan} {r : Except WorkflowError Answer} {code : ErrorCode}

/-- Whatever has an error code is posted as the error event that goes with it. -/
theorem posting_of_code {u : Topic} {m : Message} (hc : c.code? r = some code) (he : c.errorEvent? code = some (u, m)) :
    (c.posting r).notices = [(u, "ERROR")] ∧ m.kind? = some "ERROR" := by
  cases r with
  | error e =>
    cases c with
    | accountCreated | accountDeleted | grant => cases he
    | moveFailed => cases hc
    | _ =>
      cases he
      exact ⟨rfl, rfl⟩
  | ok a =>
    obtain ⟨b, o, rfl, rfl, rfl⟩ | ⟨b, i, t, rfl, rfl, rfl⟩ := eq_of_code?_ok hc
    · cases he
      exact ⟨rfl, rfl⟩
    · cases he
      exact ⟨rfl, rfl⟩

theorem transport_conclude (hc : c.code? r = none) (s : Service) : (c.conclude r s).transport = s.transport := by
  unfold conclude
  split <;> first | rfl | cases hc

end Call

namespace Service

variable {s : Service} {amb : Ambient} {c : Call} {a : Answer} {e : WorkflowError}

theorem metrics_perform {α : Type} (s : Service) (prepared : Except WorkflowError (Work α)) (kept : α → Bool) :
    (s.perform prepared kept).2.metrics = s.metrics := by
  cases prepared with
  | error e => rfl
  | ok work =>
    rw [perform, run]
    split <;> rfl

theorem metrics_plan {p : Plan} (hp : c.plan? s amb = some p) : p.base.metrics = s.metrics := by
  cases c with
  | moved m =>
    simp only [Call.plan?] at hp
    split at hp
    · cases hp
    · cases hp
      rfl
  | move | moveFailed => cases hp
  | _ =>
    cases hp
    rfl

theorem metrics_conclude {p : Plan} (hp : c.plan? s amb = some p) (r : Except WorkflowError Answer) (s' : Service) :
    (c.conclude r s').metrics = s'.metrics.post (c.posting r) := by
  cases c with
  | move | moveFailed => cases hp
  | purchase b o =>
    cases r with
    | error e => rfl
    | ok a =>
      cases a with
      | purchase outcome => cases outcome <;> rfl
      | _ => rfl
  | moved m =>
    cases r with
    | error e => rfl
    | ok a =>
      cases a with
      | callback outcome => cases outcome <;> rfl
      | _ => rfl
  | increaseByType | increaseByItem | grant | accountCreated | accountDeleted | accept | release => cases r <;> rfl

theorem metrics_move (s : Service) (amb : Ambient) (b : CharacterId) (o : MoveOrder) :
    (s.call amb (.move b o)).2.metrics = s.metrics.post (Call.posting (.move b o) (s.call amb (.move b o)).1) := by
  cases hl : Transfer.locate s b o with
  | error e =>
    rw [call_move_of_not_located hl]
    rfl
  | ok found =>
    obtain ⟨tab, i⟩ := found
    cases hr : s.reservations.live? i amb.now with
    | some r =>
      rw [call_move_of_live hl hr]
      rfl
    | none =>
      cases ht : s.transport.refuses .characterCommand with
      | true =>
        rw [call_move_of_refused hl hr ht]
        rfl
      | false =>
        rw [call_move_of_sent hl hr ht]
        rfl

theorem call_moveFailed_cases (s : Service) (amb : Ambient) (b : CharacterId) (i : ItemId) (t : Option TransactionId) :
    s.call amb (.moveFailed b i t) = (.ok (.callback .applied), s.calledOff b i) ∨
    ∃ reservations,
      s.call amb (.moveFailed b i t) = (.ok (.callback .dropped), { s with reservations }.count .callbacksDropped) ∨
      s.call amb (.moveFailed b i t) = (.error (.internal (.injected .readItem)), { s with reservations }) := by
  cases hl : s.reservations.live? i amb.now with
  | some r =>
    cases ha : Reservations.Reservation.answeredBy r t with
    | true => exact .inl (call_moveFailed_of_answered hl ha)
    | false => exact .inr ⟨_, .inl (call_moveFailed_of_opposes ⟨r, hl, ha⟩)⟩
  | none =>
    by_cases hf : .readItem ∈ s.store.faults
    · exact .inr ⟨_, .inr (call_moveFailed_of_unreadable hl hf)⟩
    · cases hi : s.store.tables.items.get? i with
      | none => exact .inr ⟨_, .inl (call_moveFailed_of_unknown hl hf hi)⟩
      | some x => exact .inl (call_moveFailed_of_known hl hf hi)

theorem metrics_moveFailed (s : Service) (amb : Ambient) (b : CharacterId) (i : ItemId) (t : Option TransactionId) :
    (s.call amb (.moveFailed b i t)).2.metrics =
      s.metrics.post (Call.posting (.moveFailed b i t) (s.call amb (.moveFailed b i t)).1) := by
  obtain h | ⟨rs, h | h⟩ := s.call_moveFailed_cases amb b i t <;> rw [h] <;> rfl

theorem opposes_of_no_plan {m : MoveCompletion} (hp : Call.plan? s amb (.moved m) = none) :
    s.reservations.Opposes m.moved.item m.moved.transaction amb.now := by
  by_contra ho
  obtain ⟨r, -, hr⟩ | ⟨-, hr⟩ := Reservations.releaseMatching_of_not_opposes ho
  · simp [Call.plan?, hr] at hp
  · simp [Call.plan?, hr] at hp

/-- Whatever becomes of a call, the counter that is posted is raised by one, and no other. -/
theorem metrics_call (s : Service) (amb : Ambient) (c : Call) :
    (s.call amb c).2.metrics = s.metrics.post (c.posting (s.call amb c).1) := by
  cases hp : c.plan? s amb with
  | some p => rw [call_of_plan hp, carryOut, metrics_conclude hp, metrics_perform, metrics_plan hp]
  | none =>
    cases c with
    | move b o => exact s.metrics_move amb b o
    | moveFailed b i t => exact s.metrics_moveFailed amb b i t
    | moved m =>
      rw [call_moved_of_opposes (opposes_of_no_plan hp)]
      rfl
    | _ => cases hp

theorem carries_nothing (hc : c.code? (s.call amb c).1 = none)
    (hr : ∀ a, (s.call amb c).1 = .ok a → a.isDone = false) : s.Carries amb c [] := by
  rw [Carries, List.append_nil]
  cases hp : c.plan? s amb with
  | some p =>
    have hconcluded : (s.call amb c).2 = c.conclude (s.call amb c).1 p.base := by
      cases he : (s.call amb c).1 with
      | error e => exact (call_of_error hp he).1
      | ok a => exact (call_of_not_done hp he (hr a he)).1
    rw [hconcluded, Call.transport_conclude hc, (frame_plan hp).2]
  | none =>
    cases c with
    | move b o =>
      cases he : (s.call amb (.move b o)).1 with
      | error e =>
        rw [he] at hc
        cases hc
      | ok a =>
        obtain ⟨t, -, rfl⟩ := answered_eq_ok.1 he
        cases hr _ he
    | moved m =>
      rw [call_moved_of_opposes (opposes_of_no_plan hp)]
      rfl
    | moveFailed b i t =>
      obtain h | ⟨rs, h | h⟩ := s.call_moveFailed_cases amb b i t
      · rw [h] at hc
        cases hc
      · rw [h]
        rfl
      · rw [h]
    | _ => cases hp

theorem notices_of_nothing (hc : c.code? (s.call amb c).1 = none)
    (hr : ∀ a, (s.call amb c).1 = .ok a → a.isDone = false) : (c.posting (s.call amb c).1).notices = [] := by
  cases h : (s.call amb c).1 with
  | error e =>
    rw [h] at hc
    cases c with
    | accountCreated | accountDeleted | grant | moveFailed => rfl
    | _ => cases hc
  | ok a =>
    rw [h] at hc
    have hdone := hr a h
    cases c with
    | purchase b o =>
      obtain ⟨outcome, -, rfl⟩ := answered_eq_ok.1 h
      cases outcome with
      | completed => cases hdone
      | inventoryFull => cases hc
      | duplicate => rfl
    | moved | moveFailed =>
      obtain ⟨outcome, -, rfl⟩ := answered_eq_ok.1 h
      cases outcome with
      | applied => cases hdone
      | dropped => rfl
    | accountCreated | accept | release => rfl
    | _ =>
      obtain ⟨x, -, rfl⟩ := answered_eq_ok.1 h
      cases hdone

theorem told_of_commits {d : Draft} (commits : Commits s amb c a d)
    (hcarries : s.Carries amb c d.outbox.publications) (hw : Watched topic kind) :
    (s.call amb c).2.transport.told topic kind =
      s.transport.told topic kind + (c.posting (.ok a)).notices.count (topic, kind) := by
  rw [Transport.told_of_carried hcarries, Outbox.batch_heard, ← commits.tells hw]
  rfl

theorem told_of_done (hbus : s.transport.Works) (hr : (s.call amb c).1 = .ok a) (hdone : a.isDone = true)
    (hc : c.code? (.ok a) = none) (hw : Watched topic kind) : (s.call amb c).2.transport.told topic kind =
      s.transport.told topic kind + (c.posting (.ok a)).notices.count (topic, kind) := by
  cases c with
  | move b o =>
    obtain ⟨⟨i, t⟩, -, rfl⟩ := answered_eq_ok.1 hr
    obtain ⟨rfl, ⟨tab, hl⟩, hlive, ht⟩ := started_iff.1 hr
    rw [call_move_of_sent hl hlive ht]
    exact Transport.told_of_carried_one (Transport.carried_log _ _ _) rfl topic kind
  | moved m =>
    obtain ⟨outcome, -, rfl⟩ := answered_eq_ok.1 hr
    cases outcome with
    | dropped => cases hdone
    | applied =>
      obtain ⟨ho, hp, hf⟩ := moved_applied_iff.1 hr
      refine told_of_commits (.moved hp) ?_ hw
      rw [Carries, call_moved_of_placed ho hp hf]
      exact Transport.carried_flush hbus _
  | moveFailed b i t =>
    obtain ⟨outcome, -, rfl⟩ := answered_eq_ok.1 hr
    cases outcome with
    | dropped => cases hdone
    | applied => cases hc
  | _ =>
    have hs : ∀ t, a ≠ .started t := by
      rintro t rfl
      exact answered_ne (by simp) hr
    have ha : a ≠ .callback .applied := by
      rintro rfl
      exact answered_ne (by simp) hr
    obtain ⟨d, commits, hcarries⟩ := carries_of_commits hbus hr hdone hs ha
    exact told_of_commits commits hcarries hw

/-- On a bus that refuses nothing the messages that are posted are delivered, and no others that are watched. -/
theorem told_call (hbus : s.transport.Works) (amb : Ambient) (c : Call) (hw : Watched topic kind) :
    (s.call amb c).2.transport.told topic kind =
      s.transport.told topic kind + (c.posting (s.call amb c).1).notices.count (topic, kind) := by
  cases hc : c.code? (s.call amb c).1 with
  | some code =>
    obtain ⟨u, m, hevent, hcarries⟩ := carries_of_code hbus hc
    obtain ⟨hnotices, hkind⟩ := Call.posting_of_code hc hevent
    rw [hnotices]
    exact Transport.told_of_carried_one hcarries hkind topic kind
  | none =>
    by_cases hdone : ∃ a, (s.call amb c).1 = .ok a ∧ a.isDone = true
    · obtain ⟨a, hr, hdone⟩ := hdone
      rw [hr] at hc ⊢
      exact told_of_done hbus hr hdone hc hw
    · have hundone : ∀ a, (s.call amb c).1 = .ok a → a.isDone = false := by
        intro a hr
        by_contra hd
        exact hdone ⟨a, hr, by simpa using hd⟩
      rw [notices_of_nothing hc hundone]
      exact Transport.told_of_carried (carries_nothing hc hundone) topic kind

theorem numbers_nothing (h : (s.call amb c).1 = .ok a) (hundone : a.isDone = false ∨ (∃ t, a = .started t) ∨
    a = .callback .applied) : (c.posting (.ok a)).notices.count (.itemStatus, "CREATED") = 0 := by
  cases c with
  | purchase b o =>
    obtain ⟨outcome, -, rfl⟩ := answered_eq_ok.1 h
    cases outcome with
    | completed => simp [Answer.isDone] at hundone
    | inventoryFull | duplicate => rfl
  | grant g =>
    obtain ⟨x, -, rfl⟩ := answered_eq_ok.1 h
    simp [Answer.isDone] at hundone
  | moved | moveFailed =>
    obtain ⟨outcome, -, rfl⟩ := answered_eq_ok.1 h
    cases outcome <;> rfl
  | _ => rfl

theorem lastItem_call (s : Service) (amb : Ambient) (c : Call) : (s.call amb c).2.store.tables.lastItem.toNat =
    s.store.tables.lastItem.toNat + (c.posting (s.call amb c).1).notices.count (.itemStatus, "CREATED") := by
  cases h : (s.call amb c).1 with
  | error e =>
    have hnone : (c.posting (.error e)).notices.count (.itemStatus, "CREATED") = 0 := by cases c <;> rfl
    rw [store_call_of_error h, hnone]
    rfl
  | ok a =>
    have hend := call_ending s amb c
    rw [h] at hend
    generalize hs : (s.call amb c).2 = s' at hend ⊢
    cases hend with
    | committed commits _ store =>
      rw [store]
      exact commits.lastItem
    | idle undone store =>
      rw [store, numbers_nothing h (.inl undone)]
      rfl
    | elsewhere transfer store =>
      rw [store, numbers_nothing h (.inr transfer)]
      rfl

end Service

end CashShop
