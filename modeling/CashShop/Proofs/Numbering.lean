import CashShop.Proofs.History
import CashShop.Proofs.Plan
import CashShop.Proofs.SinglePlacement

namespace CashShop

open Work

namespace Tables

variable {t t' t'' : Tables}

/-- The numbers in use are those from one up to the latest, and no two items share their cash id. -/
structure Numbered (t : Tables) : Prop where
  present : ∀ i, (t.items.get? i).isSome = true ↔ 1 ≤ i.val ∧ i.val ≤ t.lastItem
  own : ∀ i x, t.items.get? i = some x → x.id = i
  distinct : ∀ i j x y, t.items.get? i = some x → t.items.get? j = some y → x.cashId = y.cashId → i = j

def SameItems (t t' : Tables) : Prop := t'.items = t.items ∧ t'.lastItem = t.lastItem

def Enters (t t' : Tables) : Prop :=
  t.SameItems t' ∨ ∃ x : Item, x.id = ⟨t.lastItem + 1⟩ ∧ t.lastItem.toNat + 1 < UInt32.size ∧
    (∀ y ∈ t.items.values, y.cashId ≠ x.cashId) ∧ t'.items = t.items.insert x.id x ∧ t'.lastItem = t.lastItem + 1

theorem SameItems.refl (t : Tables) : t.SameItems t := ⟨rfl, rfl⟩

theorem SameItems.trans (h : t.SameItems t') (h' : t'.SameItems t'') : t.SameItems t'' :=
  ⟨h'.1.trans h.1, h'.2.trans h.2⟩

theorem SameItems.trans_enters (h : t.SameItems t') (h' : t'.Enters t'') : t.Enters t'' := by
  obtain ⟨hi, hl⟩ := h
  unfold Enters SameItems at h' ⊢
  rwa [hi, hl] at h'

theorem Enters.trans_sameItems (h : t.Enters t') (h' : t'.SameItems t'') : t.Enters t'' := by
  obtain ⟨hi, hl⟩ := h'
  unfold Enters SameItems at h ⊢
  rwa [hi, hl]

theorem numbered_empty : Tables.empty.Numbered where
  present i := by
    have hne : ¬ (1 ≤ i.val ∧ i.val ≤ 0) := fun ⟨h, h'⟩ => absurd (UInt32.le_trans h h') (by decide)
    simpa [Tables.empty] using hne
  own i x h := by cases h
  distinct i j x y h := by cases h

namespace Numbered

theorem le_last (h : t.Numbered) (i : ItemId) (x : Item) (hx : t.items.get? i = some x) : i.val ≤ t.lastItem :=
  ((h.present i).1 (by simp [hx])).2

theorem get?_of_enters (h : t.Numbered) (he : t.Enters t') {i : ItemId} {x : Item} (hx : t.items.get? i = some x) :
    t'.items.get? i = some x := by
  obtain ⟨hi, -⟩ | ⟨y, hid, hn, -, hi, -⟩ := he
  · rwa [hi]
  · have hne : i ≠ y.id := by
      rintro rfl
      rw [hid, Tables.get?_next h.le_last hn] at hx
      cases hx
    rw [hi, Table.get?_insert, if_neg hne, hx]

theorem of_enters (h : t.Numbered) (he : t.Enters t') : t'.Numbered := by
  obtain ⟨hi, hl⟩ | ⟨x, hid, hn, hfresh, hi, hl⟩ := he
  · exact ⟨by rw [hi, hl]; exact h.present, by rw [hi]; exact h.own, by rw [hi]; exact h.distinct⟩
  · have hlast := toNat_nextNumber hn
    have hget (j : ItemId) : t'.items.get? j = if j = x.id then some x else t.items.get? j := by
      rw [hi, Table.get?_insert]
    constructor
    · intro j
      have hj := h.present j
      rw [hget, hid, hl]
      rw [UInt32.le_iff_toNat_le, UInt32.le_iff_toNat_le] at hj ⊢
      rw [hlast]
      by_cases he : j = ⟨t.lastItem + 1⟩
      · subst he
        simp [hlast]
      · have hne : j.val.toNat ≠ t.lastItem.toNat + 1 := by
          intro hv
          rw [← hlast] at hv
          exact he (congrArg ItemId.mk (UInt32.toNat_inj.1 hv))
        rw [if_neg he, hj]
        omega
    · intro j y hy
      rw [hget] at hy
      split at hy
      · rename_i he
        cases hy
        exact he.symm
      · exact h.own j y hy
    · intro i j y z hy hz hc
      have hold {k : ItemId} {w : Item} (hw : t.items.get? k = some w) : w.cashId ≠ x.cashId :=
        hfresh w (Table.mem_values_iff.2 ⟨k, hw⟩)
      rw [hget] at hy hz
      split at hy <;> split at hz
      · simp [*]
      · cases hy
        exact absurd hc.symm (hold hz)
      · cases hz
        exact absurd hc (hold hy)
      · exact h.distinct i j y z hy hz hc

theorem lastItem_eq (h : t.Numbered) (h' : t'.Numbered) (hi : t'.items = t.items) : t'.lastItem = t.lastItem := by
  have hle {u v : Tables} (hu : u.Numbered) (hv : v.Numbered) (huv : v.items = u.items) : u.lastItem ≤ v.lastItem := by
    by_cases h0 : 1 ≤ u.lastItem
    · have hlast := (hu.present ⟨u.lastItem⟩).2 ⟨h0, UInt32.le_refl _⟩
      rw [← huv] at hlast
      exact ((hv.present _).1 hlast).2
    · rw [UInt32.le_iff_toNat_le] at h0 ⊢
      have h1 : (1 : UInt32).toNat = 1 := rfl
      omega
  exact UInt32.le_antisymm (hle h' h hi.symm) (hle h h' hi)

end Numbered

end Tables

namespace Work

variable {α β : Type} {x : Work α} {f : α → Work β}

def KeepsItems (w : Work α) : Prop := ∀ d : Draft, d.tables.SameItems (exec w d).2.tables

/-- Work that enters one item at most, even if it is refused midway. -/
def EntersItem (w : Work α) : Prop := ∀ d : Draft, d.tables.Enters (exec w d).2.tables

theorem KeepsItems.entersItem (h : KeepsItems x) : EntersItem x := fun d => .inl (h d)

namespace KeepsItems

protected theorem pure (a : α) : KeepsItems (pure a) := fun d => .refl d.tables

protected theorem throw (e : WorkflowError) : KeepsItems (throw e : Work α) := fun d => .refl d.tables

protected theorem read (f : Draft → α) : KeepsItems (read f) := fun d => .refl d.tables

protected theorem lift (r : Except WorkflowError α) : KeepsItems (liftM r : Work α) := fun d => .refl d.tables

protected theorem orElseThrow (e : WorkflowError) (o : Option α) : KeepsItems (orElseThrow e o) := fun d => by
  cases o <;> exact .refl d.tables

protected theorem tryRead (f : Draft → Except Fault α) : KeepsItems (tryRead f) := fun d => by
  rw [exec, tryRead]
  cases f d <;> exact .refl d.tables

protected theorem put (t : Topic) (key : String) (value : Json) : KeepsItems (put t key value) :=
  fun d => .refl d.tables

protected theorem step {f : Draft → α × Draft} (h : ∀ d : Draft, d.tables.SameItems (f d).2.tables) :
    KeepsItems (step f) := h

protected theorem tryStep {f : Draft → Except Fault (α × Draft)}
    (h : ∀ d a d', f d = .ok (a, d') → d.tables.SameItems d'.tables) : KeepsItems (tryStep f) := fun d => by
  rw [exec, tryStep]
  cases hf : f d with
  | error e => exact .refl d.tables
  | ok r => exact h d r.1 r.2 hf

protected theorem tryWrite {f : Draft → Except Fault Draft}
    (h : ∀ d d', f d = .ok d' → d.tables.SameItems d'.tables) : KeepsItems (tryWrite f) := by
  refine .tryStep fun d u d' hd => ?_
  cases hf : f d with
  | error e => simp [hf, Except.map] at hd
  | ok d1 =>
    obtain rfl : d1 = d' := by simpa [hf, Except.map] using hd
    exact h d d1 hf

protected theorem bind (hx : KeepsItems x) (hf : ∀ a, KeepsItems (f a)) : KeepsItems (x >>= f) := fun d => by
  have h := hx d
  rw [exec_bind]
  generalize exec x d = r at h ⊢
  obtain ⟨r, d1⟩ := r
  cases r with
  | error e => exact h
  | ok a => exact h.trans (hf a d1)

protected theorem map (hx : KeepsItems x) (f : α → β) : KeepsItems (f <$> x) := by
  rw [map_eq_pure_bind]
  exact hx.bind fun a => .pure (f a)

protected theorem ite {p : Prop} [Decidable p] {y : Work α} (hx : KeepsItems x) (hy : KeepsItems y) :
    KeepsItems (if p then x else y) := by
  split
  · exact hx
  · exact hy

protected theorem tryCatch {handler : WorkflowError → Work α} (hx : KeepsItems x) (hh : ∀ e, KeepsItems (handler e)) :
    KeepsItems (tryCatch x handler) := fun d => by
  have h := hx d
  rw [exec_tryCatch]
  generalize exec x d = r at h ⊢
  obtain ⟨r, d1⟩ := r
  cases r with
  | error e => exact h.trans (hh e d1)
  | ok a => exact h

protected theorem mapM {xs : List α} (h : ∀ a, KeepsItems (f a)) : KeepsItems (xs.mapM f) := by
  induction xs with
  | nil => exact .pure []
  | cons a xs ih =>
    rw [List.mapM_cons]
    exact (h a).bind fun b => ih.bind fun bs => .pure (b :: bs)

protected theorem forM {xs : List α} {f : α → Work PUnit} (h : ∀ a, KeepsItems (f a)) : KeepsItems (xs.forM f) := by
  induction xs with
  | nil => exact .pure ()
  | cons a xs ih => exact (h a).bind fun _ => ih

end KeepsItems

namespace EntersItem

theorem after_keepsItems (hx : KeepsItems x) (hf : ∀ a, EntersItem (f a)) : EntersItem (x >>= f) := fun d => by
  have h := hx d
  rw [exec_bind]
  generalize exec x d = r at h ⊢
  obtain ⟨r, d1⟩ := r
  cases r with
  | error e => exact .inl h
  | ok a => exact h.trans_enters (hf a d1)

theorem before_keepsItems (hx : EntersItem x) (hf : ∀ a, KeepsItems (f a)) : EntersItem (x >>= f) := fun d => by
  have h := hx d
  rw [exec_bind]
  generalize exec x d = r at h ⊢
  obtain ⟨r, d1⟩ := r
  cases r with
  | error e => exact h
  | ok a => exact h.trans_sameItems (hf a d1)

protected theorem map (hx : EntersItem x) (f : α → β) : EntersItem (f <$> x) := by
  rw [map_eq_pure_bind]
  exact hx.before_keepsItems fun a => .pure (f a)

protected theorem ite {p : Prop} [Decidable p] {y : Work α} (hx : EntersItem x) (hy : EntersItem y) :
    EntersItem (if p then x else y) := by
  split
  · exact hx
  · exact hy

end EntersItem

end Work

namespace Ledger

theorem keepsItems_wallet (a : AccountId) : KeepsItems (wallet a) :=
  (KeepsItems.read _).bind fun _ => .orElseThrow _ _

theorem keepsItems_create (w : Wallet) : KeepsItems (create w) := by
  refine (KeepsItems.tryWrite fun d d' h => ?_).bind fun _ => (KeepsItems.put _ _ _).bind fun _ => .pure _
  obtain ⟨-, rfl⟩ := Draft.insertWallet_eq_ok.1 h
  exact .refl d.tables

theorem keepsItems_update (w : Wallet) : KeepsItems (update w) := by
  refine (KeepsItems.tryStep fun d found d' h => ?_).bind fun found => .ite ?_ (.throw _)
  · obtain ⟨-, -, rfl⟩ := Draft.updateWallet_eq_ok.1 h
    split <;> exact .refl d.tables
  · exact (KeepsItems.put _ _ _).bind fun _ => .pure _

theorem keepsItems_delete (a : AccountId) : KeepsItems (delete a) :=
  (KeepsItems.step fun d => .refl d.tables).bind fun _ => .ite ((KeepsItems.put _ _ _).bind fun _ => .pure _) (.pure _)

theorem keepsItems_debit (a : AccountId) (c : Currency) (amount : UInt32) : KeepsItems (debit a c amount) :=
  (keepsItems_wallet a).bind fun _ => (KeepsItems.lift _).bind fun _ => keepsItems_update _

end Ledger

namespace Holdings

theorem keepsItems_create (c : Compartment) : KeepsItems (create c) := by
  refine (KeepsItems.tryWrite fun d d' h => ?_).bind fun _ => (KeepsItems.put _ _ _).bind fun _ => .pure _
  obtain ⟨-, rfl⟩ := Draft.insertCompartment_eq_ok.1 h
  exact .refl d.tables

theorem keepsItems_createInventory (a : AccountId) (capacity : UInt32) (id : ClassLine → CompartmentId) :
    KeepsItems (createInventory a capacity id) :=
  (KeepsItems.mapM fun _ => keepsItems_create _).bind fun _ => (KeepsItems.put _ _ _).bind fun _ => .pure _

theorem keepsItems_deleteWithAssets (c : Compartment) : KeepsItems (deleteWithAssets c) :=
  (KeepsItems.step fun d => .refl d.tables).bind fun _ => (KeepsItems.step fun d => .refl d.tables).bind fun _ =>
    .put _ _ _

theorem keepsItems_deleteInventory (a : AccountId) : KeepsItems (deleteInventory a) :=
  ((KeepsItems.read _).bind fun _ => (KeepsItems.forM keepsItems_deleteWithAssets).bind fun _ => .pure _).bind fun _ =>
    (KeepsItems.put _ _ _).bind fun _ => .pure _

end Holdings

namespace Placement

theorem keepsItems_create (id : AssetId) (c : CompartmentId) (i : ItemId) : KeepsItems (create id c i) := by
  refine (KeepsItems.read _).bind fun _ => (KeepsItems.orElseThrow _ _).bind fun k => (KeepsItems.tryRead _).bind
    fun assets => .ite (.throw _) ?_
  refine (KeepsItems.tryWrite fun d d' h => ?_).bind fun _ => .pure _
  obtain ⟨-, -, rfl⟩ := Draft.insertAsset_eq_ok.1 h
  exact .refl d.tables

theorem keepsItems_delete (id : AssetId) : KeepsItems (delete id) :=
  (KeepsItems.step fun d => .refl d.tables).bind fun _ => .pure _

end Placement

theorem Registry.entersItem_create (spec : ItemSpec) (now : Instant) (candidates : List CashId) :
    EntersItem (create spec now candidates) := fun d => by
  have hread : exec (Work.read fun d => candidates.find? (!d.hasCashId ·)) d =
    (.ok (candidates.find? (!d.hasCashId ·)), d) := rfl
  rw [create, exec_bind, hread]
  cases hc : candidates.find? (!d.hasCashId ·) with
  | none => exact .inl (.refl d.tables)
  | some c =>
    have hfresh : ∀ y ∈ d.tables.items.values, y.cashId ≠ c := by simpa [Draft.hasCashId] using List.find?_some hc
    simp only [exec_bind, exec_orElseThrow_some]
    cases now.addDays? spec.expirationDays with
    | none => exact .inl (.refl d.tables)
    | some expiration =>
      simp only [exec_orElseThrow_some]
      rw [exec, tryStep]
      cases hi : d.insertItem ⟨c, spec.template, spec.quantity, 0, spec.purchasedBy, expiration⟩ with
      | error f => exact .inl (.refl d.tables)
      | ok r =>
        obtain ⟨-, hn, hid, hd⟩ := Draft.insertItem_eq_ok.1 hi
        refine .inr ⟨r.1, by rw [← hid], hn, fun y hy => by rw [← hid]; exact hfresh y hy, ?_, ?_⟩
        · change r.2.tables.items = _
          rw [← hd, ← hid]
        · change r.2.tables.lastItem = _
          rw [← hd]

theorem AccountSetup.keepsItems_work (a : AccountId) (capacity : UInt32) (id : ClassLine → CompartmentId) :
    KeepsItems (work a capacity id) :=
  (KeepsItems.read _).bind fun _ => .ite (.pure _) ((Ledger.keepsItems_create _).bind fun _ =>
    (Holdings.keepsItems_createInventory a capacity id).bind fun _ => .pure _)

theorem AccountId.keepsItems_deleteHoldings (a : AccountId) : KeepsItems a.deleteHoldings :=
  (Ledger.keepsItems_delete a).bind fun _ => (Holdings.keepsItems_deleteInventory a).bind fun _ => .pure _

namespace Purchase

theorem keepsItems_claimKey (c : CharacterId) (key : Option String) : KeepsItems (claimKey c key) := by
  cases key with
  | none => exact .pure _
  | some k =>
    refine .step fun d => ?_
    unfold Draft.claim
    split <;> exact .refl d.tables

theorem keepsItems_target (ch : Character) : KeepsItems (target ch) :=
  (KeepsItems.read _).bind fun _ => (KeepsItems.orElseThrow _ _).bind fun _ => .read _

theorem entersItem_deliver (amb : Ambient) (days : Int) (t : Terms) (c : CompartmentId) :
    EntersItem (deliver amb days t c) :=
  .after_keepsItems (Ledger.keepsItems_debit _ _ _) fun _ =>
    (Registry.entersItem_create _ _ _).before_keepsItems fun _ => (Placement.keepsItems_create _ _ _).bind fun _ =>
      (KeepsItems.put _ _ _).bind fun _ => .pure _

theorem entersItem_work (amb : Ambient) (days : Int) (c : CharacterId) (key : Option String) (t : Terms) :
    EntersItem (work amb days c key t) := by
  refine .after_keepsItems (keepsItems_claimKey c key) fun free => .ite ?_ (KeepsItems.pure _).entersItem
  refine .after_keepsItems (Ledger.keepsItems_wallet _) fun w => .after_keepsItems (.lift _) fun _ =>
    .after_keepsItems (keepsItems_target _) fun v => ?_
  split
  · exact (entersItem_deliver amb days t _).map _
  · exact (KeepsItems.pure _).entersItem
  · exact (KeepsItems.throw _).entersItem

end Purchase

theorem Widening.keepsItems_work (c : CharacterId) (ch : Character) (lane : Currency) (o : Offer) :
    KeepsItems (work c ch lane o) :=
  (Ledger.keepsItems_wallet _).bind fun _ => (KeepsItems.lift _).bind fun _ => (KeepsItems.orElseThrow _ _).bind
    fun _ => (KeepsItems.lift _).bind fun _ => (Ledger.keepsItems_debit _ _ _).bind fun _ =>
      ((KeepsItems.put _ _ _).bind fun _ => .put _ _ _).bind fun _ => .pure _

theorem Widening.entersItem_prepare {s : Service} {b : CharacterId} {code : UInt32}
    {offer : Except WorkflowError Offer} {work : Work CapacityIncrease} (h : prepare s b code offer = .ok work) :
    EntersItem work := by
  obtain ⟨o, lane, ch, -, -, -, rfl⟩ := prepare_eq_ok.1 h
  exact (keepsItems_work b ch lane o).entersItem

namespace Handoff

theorem keepsItems_acceptWork (amb : Ambient) (h : Handoff) : KeepsItems (h.acceptWork amb) := by
  refine .bind ?_ fun a => (KeepsItems.put _ _ _).bind fun _ => .pure a
  refine (KeepsItems.read _).bind fun missing => .ite (.throw _) ?_
  refine (KeepsItems.read _).bind fun held => ?_
  split
  · exact .ite (.pure _) (.throw _)
  · refine .tryCatch (Placement.keepsItems_create _ _ _) fun e => ?_
    split <;> exact .throw _

theorem keepsItems_releaseWork (h : Handoff) : KeepsItems h.releaseWork := by
  refine .bind ?_ fun a => (KeepsItems.put _ _ _).bind fun _ => .pure a
  exact (KeepsItems.read _).bind fun missing => .ite (.throw _) ((KeepsItems.tryRead _).bind fun assets =>
    (KeepsItems.orElseThrow _ _).bind fun a => (Placement.keepsItems_delete _).bind fun _ => .pure a)

end Handoff

theorem Transfer.keepsItems_complete (m : MoveCompletion) : KeepsItems (complete m) :=
  (KeepsItems.step fun d => .refl d.tables).bind fun _ => .ite (.pure _) ((KeepsItems.put _ _ _).bind fun _ => .pure _)

def Store.drafted {α : Type} (s : Store) : Except WorkflowError (Work α) → Draft
  | .ok work => (exec work (Draft.begin s)).2
  | .error _ => Draft.begin s

namespace Service

variable {s : Service} {amb : Ambient} {c : Call} {e : Event}

/-- The draft in which a call has worked, whether or not it has been committed in the end. -/
def drafted (s : Service) (amb : Ambient) (c : Call) : Draft :=
  match c.plan? s amb with
  | some p => s.store.drafted p.work
  | none => Draft.begin s.store

theorem store_run {α : Type} (s : Service) (work : Work α) (kept : α → Bool) :
    (s.run work kept).2.store = s.store ∨ (s.run work kept).2.store = (s.store.drafted (.ok work)).committed := by
  obtain ⟨a, d, hy, -, -, hr⟩ | ⟨r, hr, -⟩ := s.run_cases work kept
  · refine .inr ?_
    rw [hr, Store.drafted, show exec work (Draft.begin s.store) = (.ok a, d) from hy]
    rfl
  · rw [hr]
    exact .inl rfl

theorem store_perform {α : Type} (s : Service) (prepared : Except WorkflowError (Work α)) (kept : α → Bool) :
    (s.perform prepared kept).2.store = s.store ∨
      (s.perform prepared kept).2.store = (s.store.drafted prepared).committed := by
  cases prepared with
  | error e => exact .inl rfl
  | ok work => exact s.store_run work kept

/-- After a call the store is what it was before, or the draft has been committed. -/
theorem store_call_drafted (s : Service) (amb : Ambient) (c : Call) :
    (s.call amb c).2.store = s.store ∨ (s.call amb c).2.store = (s.drafted amb c).committed := by
  rw [drafted]
  cases hp : c.plan? s amb with
  | none => exact .inl (store_call_of_no_plan hp)
  | some p =>
    rw [call_of_plan hp, carryOut, Call.store_conclude, ← (frame_plan hp).1]
    exact p.base.store_perform p.work (·.isDone)

theorem entersItem_of_map {α : Type} {f : α → Answer} {prepared : Except WorkflowError (Work α)} {work : Work Answer}
    (h : prepared.map (f <$> ·) = .ok work) (hw : ∀ w, prepared = .ok w → EntersItem w) : EntersItem work := by
  cases prepared with
  | error e => cases h
  | ok w =>
    cases h
    exact (hw w rfl).map f

theorem entersItem_plan {p : Plan} {work : Work Answer} (hp : c.plan? s amb = some p) (hw : p.work = .ok work) :
    EntersItem work := by
  cases c with
  | accountCreated a =>
    cases hp
    cases hw
    exact ((AccountSetup.keepsItems_work _ _ _).map _).entersItem
  | accountDeleted a =>
    cases hp
    cases hw
    exact (a.keepsItems_deleteHoldings.map _).entersItem
  | purchase b o =>
    cases hp
    cases ht : Purchase.Terms.resolve s b o with
    | error e => simp [ht, Except.map] at hw
    | ok t =>
      obtain rfl : Answer.purchase <$> Purchase.work amb s.settings.itemExpirationDays b o.idempotencyKey t = work := by
        simpa [ht, Except.map] using hw
      exact (Purchase.entersItem_work _ _ _ _ _).map _
  | increaseByType | increaseByItem =>
    cases hp
    exact entersItem_of_map hw fun w => Widening.entersItem_prepare
  | grant g =>
    cases hp
    cases hw
    exact (Registry.entersItem_create _ _ _).map _
  | accept g =>
    cases hp
    cases hw
    exact ((g.keepsItems_acceptWork amb).map _).entersItem
  | release g =>
    cases hp
    dsimp only at hw
    split at hw
    · cases hw
    · cases hw
      exact (g.keepsItems_releaseWork.map _).entersItem
  | moved m =>
    simp only [Call.plan?] at hp
    split at hp
    · cases hp
    · cases hp
      cases hw
      exact ((Transfer.keepsItems_complete m).map _).entersItem
  | move | moveFailed => cases hp

theorem drafted_enters (s : Service) (amb : Ambient) (c : Call) :
    s.store.tables.Enters (s.drafted amb c).tables := by
  rw [drafted]
  cases hp : c.plan? s amb with
  | none => exact .inl (.refl _)
  | some p =>
    dsimp only
    cases hw : p.work with
    | error e => exact .inl (.refl _)
    | ok work => exact entersItem_plan hp hw (Draft.begin s.store)

theorem call_enters (s : Service) (amb : Ambient) (c : Call) :
    s.store.tables.Enters (s.call amb c).2.store.tables := by
  obtain store | store := s.store_call_drafted amb c
  · rw [store]
    exact .inl (.refl _)
  · rw [store]
    exact s.drafted_enters amb c

theorem step_enters (s : Service) (e : Event) : s.store.tables.Enters (s.step e).store.tables := by
  cases hc : e.call? with
  | some r =>
    obtain ⟨amb, c⟩ := r
    rw [step_of_call? hc]
    exact s.call_enters amb c
  | none =>
    obtain ⟨-, hsame | ⟨w, -, hsame⟩⟩ := s.books_step_of_no_call hc
    · rw [hsame]
      exact .inl (.refl _)
    · rw [hsame]
      exact .inl ⟨rfl, rfl⟩

theorem numbered_after (hn : s.store.tables.Numbered) (h : List Event) : (s.after h).store.tables.Numbered := by
  induction h generalizing s with
  | nil => exact hn
  | cons e h ih => exact ih (hn.of_enters (s.step_enters e))

theorem item_after (hn : s.store.tables.Numbered) {i : ItemId} {x : Item}
    (hx : s.store.tables.items.get? i = some x) (h : List Event) :
    (s.after h).store.tables.items.get? i = some x := by
  induction h generalizing s with
  | nil => exact hx
  | cons e h ih => exact ih (hn.of_enters (s.step_enters e)) (hn.get?_of_enters (s.step_enters e) hx)

theorem number_of_drafted {i : ItemId} {x : Item} (hx : (s.drafted amb c).tables.items.get? i = some x)
    (hi : s.store.tables.items.get? i = none) : i = ⟨s.store.tables.lastItem + 1⟩ := by
  obtain ⟨hsame, -⟩ | ⟨y, hy, -, -, hsame, -⟩ := s.drafted_enters amb c
  · rw [hsame, hi] at hx
    cases hx
  · rw [hsame, Table.get?_insert] at hx
    split at hx
    · rename_i he
      rw [he, hy]
    · rw [hi] at hx
      cases hx

/-- A number that has not been committed is given to the next item. -/
theorem number_given_again {s' : Service} {i j : ItemId} {x y : Item} (hn : s.store.tables.Numbered)
    (hn' : s'.store.tables.Numbered) (hx : (s.drafted amb c).tables.items.get? i = some x)
    (hi : (s.call amb c).2.store.tables.items.get? i = none) (hsame : s'.store.tables.items = s.store.tables.items)
    {amb' : Ambient} {c' : Call} (hy : (s'.drafted amb' c').tables.items.get? j = some y)
    (hj : s'.store.tables.items.get? j = none) : j = i := by
  have hnone : s.store.tables.items.get? i = none := by
    obtain store | store := s.store_call_drafted amb c
    · rwa [store] at hi
    · rw [store] at hi
      exact absurd (hx.symm.trans hi) (by simp)
  rw [number_of_drafted hx hnone, number_of_drafted hy hj, hn.lastItem_eq hn' hsame]

/-- From an empty store, whatever happens: the items are numbered from one up to the latest, each stands under its own
number and no two have the same cash id. An item is never changed or lost again. Every call leaves the store as it was
or commits its draft; if it has entered an item and does not commit, then for as long as no other item is stored, the
next one that a call enters gets the same number. -/
theorem items_are_permanent (s : Service) (n : Nat) (h : List Event) :
    ((s.renewed n).after h).store.tables.Numbered ∧
    (∀ k i x, ((s.renewed n).after h).store.tables.items.get? i = some x →
      ((s.renewed n).after (h ++ k)).store.tables.items.get? i = some x) ∧
    ∀ amb c,
      ((((s.renewed n).after h).call amb c).2.store = ((s.renewed n).after h).store ∨
        (((s.renewed n).after h).call amb c).2.store = (((s.renewed n).after h).drafted amb c).committed) ∧
      ∀ i x, (((s.renewed n).after h).drafted amb c).tables.items.get? i = some x →
        (((s.renewed n).after h).call amb c).2.store.tables.items.get? i = none →
        ∀ k, ((s.renewed n).after (h ++ .call amb c :: k)).store.tables.items =
            ((s.renewed n).after h).store.tables.items →
          ∀ amb' c' j y,
            (((s.renewed n).after (h ++ .call amb c :: k)).drafted amb' c').tables.items.get? j = some y →
            ((s.renewed n).after (h ++ .call amb c :: k)).store.tables.items.get? j = none → j = i := by
  have hn (k : List Event) : ((s.renewed n).after k).store.tables.Numbered :=
    numbered_after Tables.numbered_empty k
  refine ⟨hn h, fun k i x hx => ?_, fun amb c => ⟨store_call_drafted _ amb c, ?_⟩⟩
  · rw [after_append]
    exact item_after (hn h) hx k
  · intro i x hx hi k hsame amb' c' j y hy hj
    exact number_given_again (hn h) (hn _) hx hi hsame hy hj

def gift : Grant := ⟨⟨7⟩, ⟨5000000⟩, 1, ⟨7⟩⟩

theorem items_are_permanent_retried :
    (((kiosk.renewed 1).after [.faults [.commit]]).drafted .opening (.grant gift)).tables.items.contains ⟨1⟩ = true ∧
    (((kiosk.renewed 1).after [.faults [.commit]]).call .opening (.grant gift)).2.store.tables.items.get? ⟨1⟩ = none ∧
    ∀ j y, (((kiosk.renewed 1).after [.faults [.commit], .call .opening (.grant gift), .faults []]).drafted .opening
      (.grant gift)).tables.items.get? j = some y → j = ⟨1⟩ := by
  have hentered : (((kiosk.renewed 1).after [.faults [.commit]]).drafted .opening
      (.grant gift)).tables.items.contains ⟨1⟩ = true := by
    decide
  have hgone : (((kiosk.renewed 1).after [.faults [.commit]]).call .opening
      (.grant gift)).2.store.tables.items.get? ⟨1⟩ = none := by
    decide
  obtain ⟨x, hx⟩ := Option.isSome_iff_exists.1 hentered
  refine ⟨hentered, hgone, fun j y hy => ?_⟩
  obtain ⟨-, hagain⟩ := (items_are_permanent kiosk 1 [.faults [.commit]]).2.2 .opening (.grant gift)
  exact hagain ⟨1⟩ x hx hgone [.faults []] (by decide) .opening (.grant gift) j y hy rfl

end Service

end CashShop
