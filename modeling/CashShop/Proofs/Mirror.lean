import CashShop.Proofs.Announcement
import CashShop.Proofs.Encoding

namespace CashShop

open Work

namespace Table

variable {κ α β : Type} [Key κ]

def map (f : α → β) (t : Table κ α) : Table κ β :=
  ⟨t.rows.map fun r => (r.1, f r.2), by simpa only [Ascending, List.pairwise_map] using t.ascending⟩

variable [DecidableEq κ]

@[simp] theorem get?_map (f : α → β) (t : Table κ α) (k : κ) : (t.map f).get? k = (t.get? k).map f := by
  have hrows (rows : List (κ × α)) : findRow k (rows.map fun r => (r.1, f r.2)) = (findRow k rows).map f := by
    induction rows with
    | nil => rfl
    | cons r rows ih =>
      simp only [List.map_cons, findRow, ih]
      split <;> rfl
  exact hrows t.rows

theorem map_insert (f : α → β) (t : Table κ α) (k : κ) (v : α) : (t.insert k v).map f = (t.map f).insert k (f v) := by
  apply ext_get?
  intro j
  by_cases hj : j = k <;> simp [hj]

theorem erase_of_not_contains {t : Table κ α} {k : κ} (h : t.contains k = false) : t.erase k = t := by
  have hnone : t.get? k = none := by simpa [contains] using h
  apply ext_get?
  intro j
  by_cases hj : j = k <;> simp [hj, hnone]

end Table

def Item.notice (i : Item) : ItemNotice := ⟨i.cashId, i.template, i.quantity, i.purchasedBy, i.flag⟩

structure Mirror where
  wallets : Table AccountId Wallet
  compartments : Table CompartmentId Compartment
  items : Table ItemId ItemNotice
deriving DecidableEq

def Tables.mirror (t : Tables) : Mirror := ⟨t.wallets, t.compartments, t.items.map Item.notice⟩

def WalletEvent.apply (ws : Table AccountId Wallet) : WalletEvent → Table AccountId Wallet
  | created w | updated w => ws.insert w.account w
  | deleted a => ws.erase a

def CompartmentEvent.apply (ks : Table CompartmentId Compartment) : CompartmentEvent → Table CompartmentId Compartment
  | created r n | updated r n => ks.insert r.compartment ⟨r.compartment, r.account, r.line, n⟩
  | deleted r => ks.erase r.compartment
  | accepted _ _ | released _ _ | error _ _ _ => ks

def ItemEvent.apply (is : Table ItemId ItemNotice) : ItemEvent → Table ItemId ItemNotice
  | created i n => is.insert i n

/-- What a message does to what it is about. A message that cannot be read does nothing. -/
def Message.applied {α β : Type} (m : Message) (decode : Wire.Decoder α) (apply : β → α → β) (b : β) : β :=
  match decode m.value with
  | .ok a => apply b a
  | .error _ => b

namespace Mirror

def hearWallet (ws : Table AccountId Wallet) (m : Message) : Table AccountId Wallet :=
  m.applied WalletEvent.decode WalletEvent.apply ws

def hearCompartment (ks : Table CompartmentId Compartment) (m : Message) : Table CompartmentId Compartment :=
  m.applied CompartmentEvent.decode CompartmentEvent.apply ks

def hearItem (is : Table ItemId ItemNotice) (m : Message) : Table ItemId ItemNotice :=
  m.applied ItemEvent.decode ItemEvent.apply is

def hear (x : Mirror) (topic : Topic) (m : Message) : Mirror :=
  match topic with
  | .walletStatus => { x with wallets := hearWallet x.wallets m }
  | .compartmentStatus => { x with compartments := hearCompartment x.compartments m }
  | .itemStatus => { x with items := hearItem x.items m }
  | _ => x

def follow (x : Mirror) (news : List (Topic × Message)) : Mirror := news.foldl (fun x m => x.hear m.1 m.2) x

variable {news : List (Topic × Message)}

theorem hear_wallet (x : Mirror) (key : String) (e : WalletEvent) :
    x.hear .walletStatus ⟨key, e.toJson⟩ = { x with wallets := e.apply x.wallets } := by
  simp [hear, hearWallet, Message.applied, WalletEvent.decode_toJson]

theorem hear_compartment (x : Mirror) (key : String) (e : CompartmentEvent) :
    x.hear .compartmentStatus ⟨key, e.toJson⟩ = { x with compartments := e.apply x.compartments } := by
  simp [hear, hearCompartment, Message.applied, CompartmentEvent.decode_toJson]

theorem hear_item (x : Mirror) (key : String) (e : ItemEvent) :
    x.hear .itemStatus ⟨key, e.toJson⟩ = { x with items := e.apply x.items } := by
  simp [hear, hearItem, Message.applied, ItemEvent.decode_toJson]

theorem follow_append (x : Mirror) (news news' : List (Topic × Message)) :
    x.follow (news ++ news') = (x.follow news).follow news' := List.foldl_append

theorem follow_concat (x : Mirror) (news : List (Topic × Message)) (topic : Topic) (m : Message) :
    x.follow (news ++ [(topic, m)]) = (x.follow news).hear topic m := follow_append x news _

theorem follow_eq (x : Mirror) (news : List (Topic × Message)) : x.follow news =
    ⟨(Outbox.batch ⟨news⟩ .walletStatus).foldl hearWallet x.wallets,
      (Outbox.batch ⟨news⟩ .compartmentStatus).foldl hearCompartment x.compartments,
      (Outbox.batch ⟨news⟩ .itemStatus).foldl hearItem x.items⟩ := by
  induction news generalizing x with
  | nil => rfl
  | cons m news ih =>
    obtain ⟨topic, m⟩ := m
    change (x.hear topic m).follow news = _
    rw [ih]
    cases topic <;> simp [hear, Outbox.batch]

theorem follow_heard (x : Mirror) (o : Outbox) : x.follow (heard o.publications) = x.follow o.entries := by
  rw [follow_eq, follow_eq x o.entries, Outbox.batch_heard, Outbox.batch_heard, Outbox.batch_heard]

theorem hear_of_isAside {topic : Topic} {m : Message} (h : IsAside topic m) (x : Mirror) : x.hear topic m = x := by
  cases h with
  | order => rfl
  | error he =>
    cases he with
    | shop => rfl
    | compartment h code => exact hear_compartment x _ _

theorem follow_of_asides (h : ∀ m ∈ news, IsAside m.1 m.2) (x : Mirror) : x.follow news = x := by
  induction news with
  | nil => rfl
  | cons m news ih =>
    change (x.hear m.1 m.2).follow news = x
    rw [hear_of_isAside (h m List.mem_cons_self), ih fun m' hm' => h m' (List.mem_cons_of_mem _ hm')]

end Mirror

/-- Whoever had this mirror before the draft and hears what the draft announces, has the tables of the draft. -/
def Draft.Announced (x : Mirror) (d : Draft) : Prop := x.follow d.outbox.entries = d.tables.mirror

namespace Draft

variable {x : Mirror} {d d' : Draft}

theorem announced_begin (s : Store) : (begin s).Announced s.tables.mirror := rfl

/-- A step that changes the tables and announces the change. -/
theorem Announced.change (h : d.Announced x) {t : Tables} {topic : Topic} {m : Message}
    (hm : d.tables.mirror.hear topic m = t.mirror) : ({ d with tables := t }.put topic m).Announced x := by
  have hf : x.follow d.outbox.entries = d.tables.mirror := h
  change x.follow (d.outbox.entries ++ [(topic, m)]) = t.mirror
  rw [Mirror.follow_concat, hf, hm]

theorem Announced.tell (h : d.Announced x) {topic : Topic} {m : Message}
    (hm : d.tables.mirror.hear topic m = d.tables.mirror) : (d.put topic m).Announced x := h.change hm

theorem Announced.enterWallet (h : d.Announced x) (w : Wallet) : (d.enterWallet w).Announced x :=
  h.change (Mirror.hear_wallet _ _ _)

theorem Announced.setWallet (h : d.Announced x) (w : Wallet) : (d.setWallet w).Announced x :=
  h.change (Mirror.hear_wallet _ _ _)

theorem Announced.dropWallet (h : d.Announced x) (a : AccountId) : (d.dropWallet a).Announced x := by
  unfold Draft.dropWallet
  split
  · exact h.change (Mirror.hear_wallet _ _ _)
  · rename_i hc
    rw [Table.erase_of_not_contains (Bool.eq_false_iff.2 hc)]
    exact h

theorem Announced.enterItem (h : d.Announced x) (n : NewItem) : (d.enterItem n).Announced x := by
  refine h.change ((Mirror.hear_item _ _ _).trans ?_)
  simp only [Tables.mirror, Table.map_insert]
  rfl

theorem Announced.openCompartment (h : d.Announced x) {k : Compartment} (ho : d.openCompartment k = .ok d') :
    d'.Announced x := by
  obtain ⟨-, rfl⟩ := openCompartment_eq_ok.1 ho
  exact h.change (Mirror.hear_compartment _ _ _)

theorem Announced.openInventory (h : d.Announced x) {a : AccountId} {capacity : UInt32}
    {id : ClassLine → CompartmentId} (ho : d.openInventory a capacity id = .ok d') : d'.Announced x :=
  foldlM_open_induction ho h fun _ _ _ ho h => Announced.openCompartment h ho

theorem Announced.closeCompartment (h : d.Announced x) (k : Compartment) : (d.closeCompartment k).Announced x :=
  h.change (Mirror.hear_compartment _ _ _)

theorem Announced.closeInventory (h : d.Announced x) (a : AccountId) : (d.closeInventory a).Announced x :=
  List.foldlRecOn (d.compartmentsOf a) Draft.closeCompartment h fun _ h k _ => Announced.closeCompartment h k

end Draft

variable {s : Service} {amb : Ambient} {c : Call} {a : Answer} {d : Draft} {e : Event}

theorem Commits.announced (h : Commits s amb c a d) : d.Announced s.store.tables.mirror := by
  have hbegin := Draft.announced_begin s.store
  cases h with
  | @accountCreated acc _ _ opened => exact ((hbegin.enterWallet (.empty acc)).openInventory opened).tell rfl
  | accountDeleted acc => exact ((hbegin.dropWallet acc).closeInventory acc).tell rfl
  | @purchase _ _ t w _ cash expiration =>
    have hpaid := hbegin.setWallet (w.spend t.currency t.commodity.price)
    exact Draft.Announced.tell (hpaid.enterItem (t.newItem cash expiration)) rfl
  | @widening _ _ _ o lane _ w =>
    exact ((hbegin.setWallet (w.spend lane o.price)).tell rfl).tell rfl
  | grant => exact hbegin.enterItem _
  | acceptHeld | accept | release => exact Draft.Announced.tell hbegin (Mirror.hear_compartment _ _ _)
  | moved => exact Draft.Announced.tell hbegin rfl

namespace Service

/-- What the transport has carried from one state to the next brings the mirror of the one to that of the other. -/
def MirroredFrom (s s' : Service) : Prop := ∃ ps, s'.transport.carried = s.transport.carried ++ ps ∧
  s.store.tables.mirror.follow (heard ps) = s'.store.tables.mirror

theorem MirroredFrom.refl (s : Service) : s.MirroredFrom s := ⟨[], (List.append_nil _).symm, rfl⟩

theorem MirroredFrom.trans {s s' s'' : Service} (h : s.MirroredFrom s') (h' : s'.MirroredFrom s'') :
    s.MirroredFrom s'' := by
  obtain ⟨ps, hps, hm⟩ := h
  obtain ⟨ps', hps', hm'⟩ := h'
  refine ⟨ps ++ ps', by rw [hps', hps, List.append_assoc], ?_⟩
  rw [heard, List.flatMap_append, Mirror.follow_append]
  exact hm ▸ hm'

theorem mirroredFrom_call (h : s.transport.Works) (amb : Ambient) (c : Call) :
    s.MirroredFrom (s.call amb c).2 := by
  obtain ⟨ps, hann, hps⟩ := call_announces h amb c
  refine ⟨ps, hps, ?_⟩
  generalize (s.call amb c).2.store = after at hann ⊢
  cases hann with
  | @committed a d commits store =>
    rw [Mirror.follow_heard, store]
    exact commits.announced
  | aside store asides => rw [Mirror.follow_of_asides asides, store]

theorem mirroredFrom_step (h : s.transport.Works) (he : ∀ w, e ≠ .fund w) : s.MirroredFrom (s.step e) := by
  cases hc : e.call? with
  | some r =>
    rw [step_of_call? hc]
    exact mirroredFrom_call h r.1 r.2
  | none =>
    obtain ⟨-, hsame | ⟨w, rfl, -⟩⟩ := s.books_step_of_no_call hc
    · exact ⟨[], by rw [carried_step_of_no_call hc, List.append_nil], by rw [hsame]; rfl⟩
    · exact absurd rfl (he w)

/-- From any state, whatever is called, fails and comes in while the transport refuses nothing: to follow what the
transport carries, message after message, gives exactly the wallets, compartments and items of the store from those
that it had. Wallets must not be funded behind the back of the service, which announces nothing. -/
theorem mirror_follows_store (s : Service) {h : List Event} (hbus : s.NeverRefused h) (hfund : ∀ w, .fund w ∉ h) :
    ∃ ps, (s.after h).transport.carried = s.transport.carried ++ ps ∧
      s.store.tables.mirror.follow (heard ps) = (s.after h).store.tables.mirror := by
  refine hbus.after (P := s.MirroredFrom) ?_ (.refl s)
  intro s' e he hworks hs'
  refine hs'.trans (mirroredFrom_step hworks ?_)
  rintro w rfl
  exact hfund w he

def turnover : List Event := [
  .call .opening (.purchase ⟨7⟩ ⟨1, ⟨20⟩, none⟩),
  .faults [.commit],
  .call .opening (.accountDeleted ⟨1⟩),
  .faults [],
  .call { Ambient.opening with compartment := fun l => ⟨.ofNat (10 + l.code.toNat)⟩ } (.accountCreated ⟨2⟩),
  .call .opening (.accountDeleted ⟨1⟩)]

theorem mirror_follows_turnover : stocked.NeverRefused turnover ∧ (∀ w, .fund w ∉ turnover) ∧
    ∃ ps, (stocked.after turnover).transport.carried = stocked.transport.carried ++ ps ∧
      stocked.store.tables.mirror.follow (heard ps) = (stocked.after turnover).store.tables.mirror := by
  have hbus : stocked.NeverRefused turnover := by decide
  have hfund : ∀ w, .fund w ∉ turnover := by simp [turnover]
  exact ⟨hbus, hfund, mirror_follows_store stocked hbus hfund⟩

end Service

end CashShop
