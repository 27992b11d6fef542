import CashShop.Proofs.Commit
import CashShop.Proofs.History

namespace CashShop

open Work

def occupancy (xs : List Asset) (c : CompartmentId) : Nat := (xs.filter (·.compartment = c)).length

/-- Every asset lies in a compartment that exists, and no compartment holds more than its capacity. -/
structure Fit (ks : Table CompartmentId Compartment) (xs : List Asset) : Prop where
  housed : ∀ x ∈ xs, (ks.get? x.compartment).isSome = true
  within : ∀ c k, ks.get? c = some k → occupancy xs c ≤ k.capacity.toNat

theorem occupancy_filter_le (xs : List Asset) (p : Asset → Bool) (c : CompartmentId) :
    occupancy (xs.filter p) c ≤ occupancy xs c := (List.filter_sublist.filter _).length_le

theorem occupancy_concat (xs : List Asset) (x : Asset) (c : CompartmentId) :
    occupancy (xs ++ [x]) c = occupancy xs c + if x.compartment = c then 1 else 0 := by
  by_cases hx : x.compartment = c <;> simp [occupancy, List.filter_append, hx]

theorem occupancy_eq_zero_of_housed {ks : Table CompartmentId Compartment} {xs : List Asset} {c : CompartmentId}
    (h : ∀ x ∈ xs, (ks.get? x.compartment).isSome = true) (hc : ks.get? c = none) : occupancy xs c = 0 := by
  rw [occupancy, List.length_eq_zero_iff, List.filter_eq_nil_iff]
  intro x hx hxc
  have hhoused := h x hx
  rw [of_decide_eq_true hxc, hc] at hhoused
  cases hhoused

namespace Fit

variable {ks ks' : Table CompartmentId Compartment} {xs : List Asset} {c : CompartmentId} {k : Compartment}

theorem empty : Fit .empty [] := ⟨by simp, by simp⟩

theorem occupancy_eq_zero (h : Fit ks xs) (hc : ks.get? c = none) : occupancy xs c = 0 :=
  occupancy_eq_zero_of_housed h.housed hc

theorem filter (h : Fit ks xs) (p : Asset → Bool) : Fit ks (xs.filter p) :=
  ⟨fun x hx => h.housed x (List.mem_filter.1 hx).1,
    fun c k hk => Nat.le_trans (occupancy_filter_le xs p c) (h.within c k hk)⟩

theorem place (h : Fit ks xs) {x : Asset} (hk : ks.get? x.compartment = some k)
    (hroom : occupancy xs x.compartment < k.capacity.toNat) : Fit ks (xs ++ [x]) := by
  constructor
  · intro y hy
    rcases List.mem_append.1 hy with hy | hy
    · exact h.housed y hy
    · obtain rfl := List.mem_singleton.1 hy
      exact Option.isSome_iff_exists.2 ⟨k, hk⟩
  · intro c k' hk'
    rw [occupancy_concat]
    split
    · rename_i hc
      subst hc
      obtain rfl : k = k' := Option.some.inj (hk.symm.trans hk')
      exact hroom
    · exact h.within c k' hk'

/-- New compartments are empty, because no asset lies in a compartment that does not exist. -/
theorem extend (h : Fit ks xs) (hold : ∀ c k, ks.get? c = some k → ks'.get? c = some k)
    (hnew : ∀ c k, ks'.get? c = some k → ks.get? c = some k ∨ ks.get? c = none) : Fit ks' xs := by
  constructor
  · intro x hx
    obtain ⟨k, hk⟩ := Option.isSome_iff_exists.1 (h.housed x hx)
    exact Option.isSome_iff_exists.2 ⟨k, hold _ k hk⟩
  · intro c k hk
    obtain hc | hc := hnew c k hk
    · exact h.within c k hc
    · rw [h.occupancy_eq_zero hc]
      exact Nat.zero_le _

theorem close (h : Fit ks xs) {gone : List CompartmentId}
    (hks : ∀ c, ks'.get? c = if c ∈ gone then none else ks.get? c) :
    Fit ks' (xs.filter fun x => x.compartment ∉ gone) := by
  constructor
  · intro x hx
    obtain ⟨hx, hgone⟩ := List.mem_filter.1 hx
    rw [hks, if_neg (of_decide_eq_true hgone)]
    exact h.housed x hx
  · intro c k hk
    have hkept : ks.get? c = some k := by
      rw [hks] at hk
      split at hk
      · cases hk
      · exact hk
    exact Nat.le_trans (occupancy_filter_le xs _ c) (h.within c k hkept)

end Fit

namespace Draft

variable {d d' : Draft} {ls : List ClassLine} {k : ClassLine → Compartment} {c : CompartmentId}

theorem get?_foldlM_open (h : ls.foldlM (fun d l => d.openCompartment (k l)) d = .ok d')
    (hfree : ∀ l, d.tables.compartments.get? (k l).id = none) : ∀ c,
    (∀ x, d.tables.compartments.get? c = some x → d'.tables.compartments.get? c = some x) ∧
      ∀ x, d'.tables.compartments.get? c = some x →
        d.tables.compartments.get? c = some x ∨ d.tables.compartments.get? c = none := by
  refine foldlM_open_induction (P := fun d1 => ∀ c,
    (∀ x, d.tables.compartments.get? c = some x → d1.tables.compartments.get? c = some x) ∧
      ∀ x, d1.tables.compartments.get? c = some x →
        d.tables.compartments.get? c = some x ∨ d.tables.compartments.get? c = none)
    h (fun c => ⟨fun x hx => hx, fun x hx => .inl hx⟩) ?_
  intro l d1 d2 ho ih c
  obtain ⟨-, rfl⟩ := openCompartment_eq_ok.1 ho
  by_cases hc : c = (k l).id
  · subst hc
    simp [hfree l]
  · simpa [hc] using ih c

end Draft

variable {s : Service} {amb : Ambient} {c : Call} {a : Answer} {d : Draft} {e : Event}

namespace Placement

variable {d d' : Draft} {id : AssetId} {c : CompartmentId} {i : ItemId} {x : Asset} {k : Compartment}

theorem occupancy_of_create (hy : Yields (create id c i) d x d') :
    ∃ k, d'.tables.compartments.get? c = some k ∧ occupancy d'.tables.assets c ≤ k.capacity.toNat := by
  obtain ⟨k, hk, -, hroom, -, -, rfl⟩ := yields_create.1 hy
  refine ⟨k, hk, ?_⟩
  rw [Draft.placeAsset, occupancy_concat, if_pos rfl]
  exact hroom

theorem exec_create (hk : d.tables.compartments.get? c = some k) (hread : .listAssets ∉ d.base.faults) :
    exec (create id c i) d =
      if k.capacity.toNat ≤ occupancy d.tables.assets c then (.error (.inventoryFull c), d)
      else match d.insertAsset ⟨id, c, i⟩ with
        | .ok d' => (.ok ⟨id, c, i⟩, d')
        | .error f => (.error (.internal f), d) := by
  have hknown : exec (Work.read (·.compartment? c)) d = (.ok (some k), d) := by
    rw [← hk]
    rfl
  have hfound : exec (Work.orElseThrow (.compartmentNotFound (toString c)) (some k)) d = (.ok k, d) := rfl
  have hlisted : exec (Work.tryRead (·.assetsIn c)) d = (.ok (d.tables.assets.filter (·.compartment = c)), d) := by
    rw [exec, Work.tryRead, Draft.assetsIn_eq_ok.2 ⟨hread, rfl⟩]
  simp only [create, exec_bind, hknown, hfound, hlisted]
  unfold occupancy
  split
  · rfl
  · rw [exec_bind, exec, tryWrite, tryStep]
    cases d.insertAsset ⟨id, c, i⟩ <;> rfl

/-- A compartment whose assets can be read counts as full exactly if it holds its capacity or more. -/
theorem create_full_iff (hk : d.tables.compartments.get? c = some k) (hread : .listAssets ∉ d.base.faults) :
    (exec (create id c i) d).1 = .error (.inventoryFull c) ↔ k.capacity.toNat ≤ occupancy d.tables.assets c := by
  rw [exec_create hk hread]
  split
  · simp [*]
  · cases d.insertAsset ⟨id, c, i⟩ <;> simp [*]

end Placement

theorem Commits.fit (h : Commits s amb c a d) (hfit : Fit s.store.tables.compartments s.store.tables.assets)
    (hfree : ∀ acc, c = .accountCreated acc → s.store.tables.wallets.get? acc = none →
      ∀ l, s.store.tables.compartments.get? (amb.compartment l) = none) :
    Fit d.tables.compartments d.tables.assets := by
  cases h with
  | @accountCreated acc d fresh opened =>
    obtain ⟨-, -, ht⟩ := Draft.frame_openInventory opened
    have hget := Draft.get?_foldlM_open opened (hfree acc rfl fresh)
    rw [Draft.tables_put, ht]
    exact hfit.extend (fun c => (hget c).1) (fun c => (hget c).2)
  | accountDeleted acc =>
    rw [Draft.tables_put, (Draft.frame_closeInventory _ acc).2.2, (Draft.frame_dropWallet _ acc).2.2]
    exact hfit.close (Draft.get?_foldl_erase _ _)
  | purchase terms deliverable =>
    obtain ⟨k', hk', hroom⟩ := deliverable.stored
    exact hfit.place hk' hroom
  | widening | grant | acceptHeld => exact hfit
  | accept known _ room => exact hfit.place known room
  | release | moved => exact hfit.filter _

def Event.opening? (e : Event) : Option (Ambient × AccountId) :=
  e.call?.bind fun
    | (amb, .accountCreated a) => some (amb, a)
    | _ => none

namespace Service

def OpensFresh (s : Service) (e : Event) : Prop :=
  ∀ o ∈ e.opening?, s.store.tables.wallets.get? o.2 = none → (ClassLine.all.map o.1.compartment).Nodup ∧
    ∀ l ∈ ClassLine.all, s.store.tables.compartments.get? (o.1.compartment l) = none

instance (s : Service) (e : Event) : Decidable (s.OpensFresh e) :=
  inferInstanceAs (Decidable (∀ o ∈ e.opening?, _))

def FreshCompartmentIds (s : Service) (h : List Event) : Prop := s.Throughout OpensFresh h

instance (s : Service) (h : List Event) : Decidable (s.FreshCompartmentIds h) :=
  inferInstanceAs (Decidable (s.Throughout _ h))

theorem fit_call (hfit : Fit s.store.tables.compartments s.store.tables.assets)
    (hfree : ∀ acc, c = .accountCreated acc → s.store.tables.wallets.get? acc = none →
      ∀ l, s.store.tables.compartments.get? (amb.compartment l) = none) :
    Fit (s.call amb c).2.store.tables.compartments (s.call amb c).2.store.tables.assets := by
  obtain ⟨a, d, commits, store⟩ | store := store_call s amb c
  · rw [store]
    exact commits.fit hfit hfree
  · rwa [store]

theorem fit_step (hids : s.OpensFresh e) (hfit : Fit s.store.tables.compartments s.store.tables.assets) :
    Fit (s.step e).store.tables.compartments (s.step e).store.tables.assets := by
  cases hc : e.call? with
  | some r =>
    obtain ⟨amb, c⟩ := r
    rw [step_of_call? hc]
    refine fit_call hfit ?_
    rintro acc rfl hnone l
    exact (hids (amb, acc) (by simp [Event.opening?, hc]) hnone).2 l (by cases l <;> decide)
  | none =>
    obtain ⟨-, hsame | ⟨w, -, hsame⟩⟩ := s.books_step_of_no_call hc
    · rwa [hsame]
    · rwa [hsame]

theorem fit_after {h : List Event} (hids : s.FreshCompartmentIds h)
    (hfit : Fit s.store.tables.compartments s.store.tables.assets) :
    Fit (s.after h).store.tables.compartments (s.after h).store.tables.assets :=
  hids.after (P := fun s => Fit s.store.tables.compartments s.store.tables.assets)
    (fun _ _ _ hids hfit => fit_step hids hfit) hfit

/-- From an empty store, whatever has happened as long as the ids of new compartments are fresh, no compartment holds
more than its capacity. From any state of a draft, a new asset only ever goes into a compartment that has room for it,
and a compartment whose assets can be read is full for a new asset exactly if it holds its capacity or more. -/
theorem compartments_never_overflow :
    (∀ (s : Service) (n : Nat) (h : List Event), (s.renewed n).FreshCompartmentIds h → ∀ c k,
      ((s.renewed n).after h).store.tables.compartments.get? c = some k →
        occupancy ((s.renewed n).after h).store.tables.assets c ≤ k.capacity.toNat) ∧
    (∀ (d d' : Draft) id c i x, Yields (Placement.create id c i) d x d' →
      ∃ k, d'.tables.compartments.get? c = some k ∧ occupancy d'.tables.assets c ≤ k.capacity.toNat) ∧
    ∀ (d : Draft) id c i k, d.tables.compartments.get? c = some k → .listAssets ∉ d.base.faults →
      ((exec (Placement.create id c i) d).1 = .error (.inventoryFull c) ↔
        k.capacity.toNat ≤ occupancy d.tables.assets c) := by
  refine ⟨?_, fun d d' id c i x hy => Placement.occupancy_of_create hy, fun d id c i k hk hread =>
    Placement.create_full_iff hk hread⟩
  intro s n h hids
  exact (fit_after hids Fit.empty).within

def reopening : List Event := [
  .call .opening (.accountCreated ⟨1⟩),
  .fund ⟨⟨1⟩, 1000, 0, 0⟩,
  .call .opening (.purchase ⟨7⟩ ⟨1, ⟨20⟩, none⟩),
  .call .opening (.accountDeleted ⟨1⟩),
  .call .opening (.accountCreated ⟨1⟩),
  .call .opening (.accept ⟨⟨1⟩, .explorer, ⟨.ofNat 9⟩, ⟨.ofNat 1⟩, ⟨1⟩⟩)]

theorem compartments_never_overflow_reopening : (kiosk.renewed 1).FreshCompartmentIds reopening ∧ ∀ c k,
    ((kiosk.renewed 1).after reopening).store.tables.compartments.get? c = some k →
      occupancy ((kiosk.renewed 1).after reopening).store.tables.assets c ≤ k.capacity.toNat := by
  have hids : (kiosk.renewed 1).FreshCompartmentIds reopening := by decide
  exact ⟨hids, compartments_never_overflow.1 kiosk 1 reopening hids⟩

end Service

end CashShop
