import CashShop.Proofs.Filing
import CashShop.Proofs.SinglePlacement
import CashShop.Proofs.UnitOfWork
import Mathlib.Data.List.Nodup

namespace CashShop

inductive RowId where
  | wallet (a : AccountId)
  | item (i : ItemId)
  | compartment (c : CompartmentId)
  | asset (a : AssetId)
deriving DecidableEq

def Row.id : Row → RowId
  | .wallet w => .wallet w.account
  | .item x => .item x.id
  | .compartment k => .compartment k.id
  | .asset a => .asset a.id

namespace Table

variable {κ α : Type} [Key κ] [DecidableEq κ] {t : Table κ α} {f : α → κ}

theorem filed_insert (h : ∀ k v, t.get? k = some v → f v = k) {k : κ} {x : α} (hx : f x = k) :
    ∀ j v, (t.insert k x).get? j = some v → f v = j := by
  intro j v hv
  rw [get?_insert] at hv
  split at hv
  · rename_i hj
    obtain rfl := Option.some.inj hv
    exact hx.trans hj.symm
  · exact h j v hv

theorem filed_erase (h : ∀ k v, t.get? k = some v → f v = k) (k : κ) :
    ∀ j v, (t.erase k).get? j = some v → f v = j := by
  intro j v hv
  rw [get?_erase] at hv
  split at hv
  · cases hv
  · exact h j v hv

theorem nodup_values (h : ∀ k v, t.get? k = some v → f v = k) : (t.values.map f).Nodup :=
  List.pairwise_map.2 ((pairwise_values h).imp fun hlt heq => by rw [heq] at hlt; exact absurd hlt (Nat.lt_irrefl _))

theorem insert_erase (t : Table κ α) (k : κ) (v : α) : (t.erase k).insert k v = t.insert k v := by
  refine ext_get? fun j => ?_
  rw [get?_insert, get?_insert, get?_erase]
  by_cases hj : j = k <;> simp [hj]

theorem perm_values_erase {k : κ} {v : α} (h : t.get? k = some v) : t.values.Perm (v :: (t.erase k).values) := by
  have hsame : t.insert k v = t := ext_get? fun j => by
    rw [get?_insert]
    split
    · rename_i hj
      rw [hj, h]
    · rfl
  have hperm := perm_values_insert (t := t.erase k) v (by rw [get?_erase, if_pos rfl])
  rwa [insert_erase, hsame] at hperm

theorem perm_values_replace (t : Table κ α) (k : κ) (v : α) : (t.insert k v).values.Perm (v :: (t.erase k).values) := by
  have hperm := perm_values_insert (t := t.erase k) v (by rw [get?_erase, if_pos rfl])
  rwa [insert_erase] at hperm

end Table

namespace Tables

variable {t : Tables}

def listing (t : Tables) : List Row :=
  t.wallets.values.map .wallet ++ (t.items.values.map .item ++
    (t.compartments.values.map .compartment ++ t.assets.map .asset))

/-- No two rows of a table share an id, and no account has two compartments for one class line. -/
structure DistinctRows (t : Tables) : Prop where
  ids : (t.listing.map Row.id).Nodup
  lines : (t.compartments.values.map fun k => (k.account, k.line)).Nodup

structure Kept (t : Tables) : Prop where
  filed : t.Filed
  numbered : ∀ i x, t.items.get? i = some x → i.val ≤ t.lastItem

theorem kept_empty : Tables.empty.Kept := ⟨⟨nofun, nofun, nofun, nofun⟩, nofun⟩

theorem Filed.insertCompartment (h : t.Filed) {k : Compartment}
    (hline : ∀ c k', t.compartments.get? c = some k' → k'.account = k.account → k'.line = k.line → c = k.id) :
    ({ t with compartments := t.compartments.insert k.id k } : Tables).Filed where
  wallets := h.wallets
  items := h.items
  compartments := Table.filed_insert h.compartments rfl
  lines c c' k1 k2 h1 h2 ha hl := by
    simp only [Table.get?_insert] at h1 h2
    split at h1 <;> split at h2
    · simp [*]
    · obtain rfl := Option.some.inj h1
      rename_i hc _
      exact hc.trans (hline c' k2 h2 ha.symm hl.symm).symm
    · obtain rfl := Option.some.inj h2
      rename_i _ hc
      exact (hline c k1 h1 ha hl).trans hc.symm
    · exact h.lines c c' k1 k2 h1 h2 ha hl

theorem Filed.eraseCompartment (h : t.Filed) (c : CompartmentId) :
    ({ t with compartments := t.compartments.erase c } : Tables).Filed where
  wallets := h.wallets
  items := h.items
  compartments := Table.filed_erase h.compartments c
  lines c1 c2 k1 k2 h1 h2 ha hl := by
    simp only [Table.get?_erase] at h1 h2
    split at h1
    · cases h1
    · split at h2
      · cases h2
      · exact h.lines c1 c2 k1 k2 h1 h2 ha hl

theorem Kept.change {r : Draft.Request} {t' : Tables} (h : t.Kept) (hc : Draft.Change t r t') : t'.Kept := by
  obtain ⟨filed, numbered⟩ := h
  cases hc with
  | same => exact ⟨filed, numbered⟩
  | enterWallet w | setWallet w => exact ⟨{ filed with wallets := Table.filed_insert filed.wallets rfl }, numbered⟩
  | dropWallet a => exact ⟨{ filed with wallets := Table.filed_erase filed.wallets a }, numbered⟩
  | enterItem n room =>
    refine ⟨{ filed with items := Table.filed_insert filed.items rfl }, fun i x hx => ?_⟩
    have hlast : t.lastItem ≤ t.lastItem + 1 := by
      rw [UInt32.le_iff_toNat_le, toNat_nextNumber room]
      exact Nat.le_succ _
    simp only [Table.get?_insert] at hx
    split at hx
    · rename_i hi
      rw [hi]
      exact UInt32.le_refl _
    · exact UInt32.le_trans (numbered i x hx) hlast
  | enterCompartment k free =>
    exact ⟨filed.insertCompartment fun c k' hk' ha hl => absurd hl (free c k' hk' ha), numbered⟩
  | resize c k capacity found =>
    obtain rfl := filed.compartments c k found
    exact ⟨filed.insertCompartment (k := { k with capacity })
      fun c k' hk' ha hl => filed.lines c k.id k' k hk' found ha hl, numbered⟩
  | dropCompartment c => exact ⟨filed.eraseCompartment c, numbered⟩
  | enterAsset | keepAssets => exact ⟨{ filed with }, numbered⟩

theorem map_id_listing (t : Tables) : t.listing.map Row.id =
    (t.wallets.values.map (·.account)).map RowId.wallet ++ ((t.items.values.map (·.id)).map RowId.item ++
      ((t.compartments.values.map (·.id)).map RowId.compartment ++ (t.assets.map (·.id)).map RowId.asset)) := by
  simp only [listing, List.map_append, List.map_map]
  rfl

theorem Filed.distinctRows_iff (h : t.Filed) : t.DistinctRows ↔ (t.assets.map (·.id)).Nodup := by
  constructor
  · intro hd
    have hids := hd.ids
    rw [map_id_listing] at hids
    exact List.Nodup.of_map _ (List.nodup_append.1 (List.nodup_append.1 (List.nodup_append.1 hids).2.1).2.1).2.1
  · intro ha
    refine ⟨?_, List.pairwise_map.2 ?_⟩
    · have hw := List.Nodup.map (fun _ _ => RowId.wallet.inj) (Table.nodup_values h.wallets)
      have hi := List.Nodup.map (fun _ _ => RowId.item.inj) (Table.nodup_values h.items)
      have hc := List.Nodup.map (fun _ _ => RowId.compartment.inj) (Table.nodup_values h.compartments)
      have hx := List.Nodup.map (fun _ _ => RowId.asset.inj) ha
      rw [map_id_listing]
      refine List.nodup_append.2 ⟨hw, List.nodup_append.2 ⟨hi, List.nodup_append.2 ⟨hc, hx, ?_⟩, ?_⟩, ?_⟩
      all_goals
        intro a ha b hb hab
        simp only [List.mem_append, List.mem_map] at ha hb
        grind
    · refine (Table.pairwise_values h.compartments).imp_of_mem fun {k k'} hk hk' hlt heq => ?_
      obtain ⟨c, hc⟩ := Table.mem_values_iff.1 hk
      obtain ⟨c', hc'⟩ := Table.mem_values_iff.1 hk'
      obtain ⟨hacc, hline⟩ := Prod.mk.inj heq
      have hcc := h.lines c c' k k' hc hc' hacc hline
      rw [h.compartments c k hc, h.compartments c' k' hc', hcc] at hlt
      exact absurd hlt (Nat.lt_irrefl _)

theorem perm_append_middle {α : Type} (ys zs : List α) {xs xs' : List α} {a : α} (h : xs'.Perm (a :: xs)) :
    (ys ++ (xs' ++ zs)).Perm (a :: (ys ++ (xs ++ zs))) :=
  ((h.append_right zs).append_left ys).trans List.perm_middle

theorem perm_listing_wallets {wallets : Table AccountId Wallet} {w : Wallet} (h : wallets.values.Perm (w :: t.wallets.values)) :
    ({ t with wallets } : Tables).listing.Perm (.wallet w :: t.listing) :=
  (h.map Row.wallet).append_right _

theorem perm_listing_items {items : Table ItemId Item} {x : Item} {n : UInt32} (h : items.values.Perm (x :: t.items.values)) :
    ({ t with items, lastItem := n } : Tables).listing.Perm (.item x :: t.listing) :=
  perm_append_middle _ _ (h.map Row.item)

theorem perm_listing_compartments {compartments others : Table CompartmentId Compartment} {k : Compartment}
    (h : compartments.values.Perm (k :: others.values)) : ({ t with compartments } : Tables).listing.Perm
      (.compartment k :: ({ t with compartments := others } : Tables).listing) := by
  have hall := perm_append_middle (t.wallets.values.map Row.wallet ++ t.items.values.map .item) (t.assets.map .asset)
    (h.map Row.compartment)
  simpa only [listing, List.append_assoc] using hall

theorem perm_listing_assets (t : Tables) (a : Asset) :
    ({ t with assets := t.assets ++ [a] } : Tables).listing.Perm (.asset a :: t.listing) := by
  have hlast : ({ t with assets := t.assets ++ [a] } : Tables).listing = t.listing ++ [.asset a] := by
    simp only [listing, List.map_append, List.map_cons, List.map_nil, List.append_assoc]
  rw [hlast]
  exact List.perm_append_singleton _ _

theorem wallet_mem_ids {a : AccountId} (h : RowId.wallet a ∈ t.listing.map Row.id) :
    ∃ w ∈ t.wallets.values, w.account = a := by
  simpa [map_id_listing] using h

theorem item_mem_ids {i : ItemId} (h : RowId.item i ∈ t.listing.map Row.id) : ∃ x ∈ t.items.values, x.id = i := by
  simpa [map_id_listing] using h

theorem compartment_mem_ids_iff {c : CompartmentId} :
    RowId.compartment c ∈ t.listing.map Row.id ↔ ∃ k ∈ t.compartments.values, k.id = c := by
  simp [map_id_listing]

theorem asset_mem_ids_iff {a : AssetId} : RowId.asset a ∈ t.listing.map Row.id ↔ ∃ x ∈ t.assets, x.id = a := by
  simp [map_id_listing]

def Replaces (t t' : Tables) (row : Row) : Prop :=
  ∃ old rest, old.id = row.id ∧ t.listing.Perm (old :: rest) ∧ t'.listing.Perm (row :: rest)

/-- An insertion that is carried out adds its row. Only a compartment can have the place of another one, and only assets
and compartments can come under ids in use. -/
theorem Kept.insertion {d : Draft} {r : Draft.Request} {t' : Tables} {row : Row} (h : d.tables.Kept)
    (hc : Draft.Change d.tables r t') (hrow : d.rowOf? r = some row) :
    (t'.listing.Perm (row :: d.tables.listing) ∧ (row.id ∉ d.tables.listing.map Row.id ∨ ∃ a, row = .asset a)) ∨
      (∃ k, row = .compartment k) ∧ row.id ∈ d.tables.listing.map Row.id ∧ d.tables.Replaces t' row := by
  cases hc with
  | same r hnone | keepAssets r hnone =>
    rw [hnone] at hrow
    cases hrow
  | setWallet | dropWallet | resize | dropCompartment => cases hrow
  | enterWallet w new =>
    obtain rfl := Option.some.inj hrow
    refine .inl ⟨perm_listing_wallets (Table.perm_values_insert w new), .inl fun hmem => ?_⟩
    obtain ⟨w', hw', hacc⟩ := wallet_mem_ids hmem
    obtain ⟨a, ha⟩ := Table.mem_values_iff.1 hw'
    rw [← hacc, h.filed.wallets a w' ha, ha] at new
    cases new
  | enterItem n room =>
    obtain rfl := Option.some.inj hrow
    have hnew := get?_next h.numbered room
    refine .inl ⟨perm_listing_items (Table.perm_values_insert _ hnew), .inl fun hmem => ?_⟩
    obtain ⟨x, hx, hid⟩ := item_mem_ids hmem
    obtain ⟨i, hi⟩ := Table.mem_values_iff.1 hx
    have hlast : i = ⟨d.tables.lastItem + 1⟩ := (h.filed.items i x hi).symm.trans hid
    rw [← hlast, hi] at hnew
    cases hnew
  | enterCompartment k free =>
    obtain rfl := Option.some.inj hrow
    cases hk : d.tables.compartments.get? k.id with
    | none =>
      refine .inl ⟨perm_listing_compartments (Table.perm_values_insert k hk), .inl fun hmem => ?_⟩
      obtain ⟨k', hk', hid⟩ := compartment_mem_ids_iff.1 hmem
      obtain ⟨c, hc⟩ := Table.mem_values_iff.1 hk'
      rw [← hid, h.filed.compartments c k' hc, hc] at hk
      cases hk
    | some old =>
      have hid := h.filed.compartments k.id old hk
      refine .inr ⟨⟨k, rfl⟩, ?_, .compartment old, _, congrArg RowId.compartment hid,
        perm_listing_compartments (Table.perm_values_erase hk),
        perm_listing_compartments (Table.perm_values_replace _ k.id k)⟩
      exact compartment_mem_ids_iff.2 ⟨old, Table.mem_values_iff.2 ⟨k.id, hk⟩, hid⟩
  | enterAsset a =>
    obtain rfl := Option.some.inj hrow
    exact .inl ⟨perm_listing_assets _ a, .inr ⟨a, rfl⟩⟩

theorem nodup_assets_change {d : Draft} {r : Draft.Request} {t' : Tables} (hnodup : (d.tables.assets.map (·.id)).Nodup)
    (hc : Draft.Change d.tables r t')
    (hfresh : ∀ row, d.rowOf? r = some row → row.id ∉ d.tables.listing.map Row.id) : (t'.assets.map (·.id)).Nodup := by
  cases hc with
  | keepAssets _ _ p => exact hnodup.sublist (List.filter_sublist.map _)
  | enterAsset a =>
    have hnew : a.id ∉ d.tables.assets.map (·.id) := fun hmem =>
      hfresh _ rfl (asset_mem_ids_iff.2 (List.mem_map.1 hmem))
    rw [List.map_append]
    refine List.nodup_append.2 ⟨hnodup, List.nodup_singleton _, fun x hx y hy hxy => hnew ?_⟩
    have hy' : y = a.id := List.mem_singleton.1 hy
    rwa [← hy', ← hxy]
  | _ => exact hnodup

end Tables

namespace Draft

def moments (d : Draft) : List Step → List (Draft × Step)
  | [] => []
  | s :: steps => (d, s) :: (d.next s).moments steps

def inserted? (d : Draft) (s : Step) : Option Row :=
  match (d.under s.faults).attempt s.request with
  | .ok _ => d.rowOf? s.request
  | .error _ => none

def AddsOrRefuses (d : Draft) (s : Step) : Prop :=
  ∀ row, d.rowOf? s.request = some row →
    (∃ f, (d.under s.faults).attempt s.request = .error f) ∧ (d.next s).tables = d.tables ∨
      (d.next s).tables.listing.Perm (row :: d.tables.listing)

variable {d : Draft} {s : Step} {row : Row}

theorem tables_next (d : Draft) (s : Step) :
    (∃ d', (d.under s.faults).attempt s.request = .ok d' ∧ d.inserted? s = d.rowOf? s.request ∧
      Change d.tables s.request (d.next s).tables) ∨
    (∃ f, (d.under s.faults).attempt s.request = .error f) ∧ d.inserted? s = none ∧ (d.next s).tables = d.tables := by
  rcases d.next_cases s with hdone | ⟨⟨f, hrefused⟩, hsame⟩
  · exact .inl ⟨_, hdone, by rw [inserted?, hdone], (attempt_eq_ok hdone).2.2⟩
  · exact .inr ⟨⟨f, hrefused⟩, by rw [inserted?, hrefused], by rw [hsame]; rfl⟩

theorem kept_next (h : d.tables.Kept) (s : Step) : (d.next s).tables.Kept := by
  rcases d.tables_next s with ⟨-, -, -, hchange⟩ | ⟨-, -, hsame⟩
  · exact h.change hchange
  · rwa [hsame]

theorem moments_induction {P : Tables → Prop} {steps : List Step} (hd : P d.tables)
    (hnext : ∀ m ∈ d.moments steps, P m.1.tables → P (m.1.next m.2).tables) :
    (∀ m ∈ d.moments steps, P m.1.tables) ∧ P (d.run steps).tables := by
  induction steps generalizing d with
  | nil => exact ⟨nofun, hd⟩
  | cons s steps ih =>
    rw [moments, List.forall_mem_cons] at hnext
    obtain ⟨hlater, hend⟩ := ih (hnext.1 hd) hnext.2
    exact ⟨by rw [moments, List.forall_mem_cons]; exact ⟨hd, hlater⟩, hend⟩

end Draft

theorem UnitOfWork.tables_of_commit? {u : UnitOfWork} {s s' : Store} (h : u.commit? s = some s') :
    s'.tables = (u.draft s).tables := by
  obtain ⟨faults, rfl⟩ := u.committed_of_commit? h
  rfl

namespace Store

def moments (s : Store) : List UnitOfWork → List (Draft × Draft.Step)
  | [] => []
  | u :: us => (Draft.begin s).moments u.steps ++ (s.settle u).moments us

/-- Every insertion is refused and leaves the tables as they are, or adds its row to all the others; and no two rows ever
share an id or what they are looked up by. -/
def KeepsRows (s : Store) (us : List UnitOfWork) : Prop :=
  ∀ m ∈ s.moments us, m.1.AddsOrRefuses m.2 ∧ (m.1.next m.2).tables.DistinctRows

def InsertsFresh (s : Store) (us : List UnitOfWork) : Prop :=
  ∀ m ∈ s.moments us, ∀ row, m.1.inserted? m.2 = some row → row.id ∉ m.1.tables.listing.map Row.id

/-- Rows stand under their own ids, and an account has one compartment for each class line at most. A step that inserts a
row adds it, but for a compartment under an id in use, which takes the place of the other; the ids of wallets and items
are new. -/
def KeepsMostRows (s : Store) (us : List UnitOfWork) : Prop :=
  ∀ m ∈ s.moments us, (m.1.next m.2).tables.Filed ∧ ∀ row, m.1.inserted? m.2 = some row →
    ((m.1.next m.2).tables.listing.Perm (row :: m.1.tables.listing) ∧
      (row.id ∉ m.1.tables.listing.map Row.id ∨ ∃ a, row = .asset a)) ∨
    (∃ k, row = .compartment k) ∧ row.id ∈ m.1.tables.listing.map Row.id ∧
      m.1.tables.Replaces (m.1.next m.2).tables row

theorem moments_induction {P : Tables → Prop} {s : Store} {us : List UnitOfWork} (hs : P s.tables)
    (hnext : ∀ m ∈ s.moments us, P m.1.tables → P (m.1.next m.2).tables) : ∀ m ∈ s.moments us, P m.1.tables := by
  induction us generalizing s with
  | nil => exact nofun
  | cons u us ih =>
    rw [moments, List.forall_mem_append] at hnext ⊢
    obtain ⟨hfirst, hend⟩ := Draft.moments_induction (d := Draft.begin s) hs hnext.1
    refine ⟨hfirst, ih ?_ hnext.2⟩
    rw [settle]
    cases hc : u.commit? s with
    | none => exact hs
    | some s' =>
      rw [Option.getD_some, UnitOfWork.tables_of_commit? hc]
      exact hend

variable {n : Nat} {us : List UnitOfWork}

theorem kept_moments (n : Nat) (us : List UnitOfWork) : ∀ m ∈ (ofKeyCapacity n).moments us, m.1.tables.Kept :=
  moments_induction Tables.kept_empty fun m _ h => Draft.kept_next h m.2

theorem insertsFresh_of_keepsRows (h : (ofKeyCapacity n).KeepsRows us) : (ofKeyCapacity n).InsertsFresh us := by
  intro m hm row hrow
  obtain ⟨hadds, hdistinct⟩ := h m hm
  rcases m.1.tables_next m.2 with ⟨d', hdone, hinserted, -⟩ | ⟨-, hnone, -⟩
  · rcases hadds row (hinserted ▸ hrow) with ⟨⟨f, hrefused⟩, -⟩ | hperm
    · rw [hrefused] at hdone
      cases hdone
    · have hids := (hperm.map Row.id).nodup_iff.1 hdistinct.ids
      exact (List.nodup_cons.1 hids).1
  · rw [hnone] at hrow
    cases hrow

theorem nodup_assets_of_insertsFresh (h : (ofKeyCapacity n).InsertsFresh us) :
    ∀ m ∈ (ofKeyCapacity n).moments us, (m.1.tables.assets.map (·.id)).Nodup ∧
      ((m.1.next m.2).tables.assets.map (·.id)).Nodup := by
  have hnext : ∀ m ∈ (ofKeyCapacity n).moments us, (m.1.tables.assets.map (·.id)).Nodup →
      ((m.1.next m.2).tables.assets.map (·.id)).Nodup := by
    intro m hm hnodup
    rcases m.1.tables_next m.2 with ⟨-, -, hinserted, hchange⟩ | ⟨-, -, hsame⟩
    · exact Tables.nodup_assets_change hnodup hchange fun row hrow => h m hm row (hinserted.trans hrow)
    · rwa [hsame]
  have hall := moments_induction (P := fun t => (t.assets.map (·.id)).Nodup) (s := ofKeyCapacity n) .nil hnext
  exact fun m hm => ⟨hall m hm, hnext m hm (hall m hm)⟩

theorem keepsRows_of_insertsFresh (h : (ofKeyCapacity n).InsertsFresh us) : (ofKeyCapacity n).KeepsRows us := by
  intro m hm
  have hkept := kept_moments n us m hm
  refine ⟨fun row hrow => ?_, (Draft.kept_next hkept m.2).filed.distinctRows_iff.2
    (nodup_assets_of_insertsFresh h m hm).2⟩
  rcases m.1.tables_next m.2 with ⟨-, -, hinserted, hchange⟩ | ⟨hrefused, -, hsame⟩
  · rcases hkept.insertion hchange hrow with ⟨hperm, -⟩ | ⟨-, hused, -⟩
    · exact .inr hperm
    · exact absurd hused (h m hm row (hinserted.trans hrow))
  · exact .inl ⟨hrefused, hsame⟩

theorem keepsMostRows (n : Nat) (us : List UnitOfWork) : (ofKeyCapacity n).KeepsMostRows us := by
  intro m hm
  have hkept := kept_moments n us m hm
  refine ⟨(Draft.kept_next hkept m.2).filed, fun row hrow => ?_⟩
  rcases m.1.tables_next m.2 with ⟨-, -, hinserted, hchange⟩ | ⟨-, hnone, -⟩
  · exact hkept.insertion hchange (hinserted ▸ hrow)
  · rw [hnone] at hrow
    cases hrow

/-- The tables keep all rows apart just if no compartment and no asset is inserted under an id in use. -/
theorem keepsRows_iff_insertsFresh (n : Nat) (us : List UnitOfWork) :
    ((ofKeyCapacity n).KeepsRows us ↔ (ofKeyCapacity n).InsertsFresh us) ∧ (ofKeyCapacity n).KeepsMostRows us :=
  ⟨⟨insertsFresh_of_keepsRows, keepsRows_of_insertsFresh⟩, keepsMostRows n us⟩

def sharedCompartment : UnitOfWork where
  steps := [⟨[], .insertCompartment ⟨⟨.ofNat 7⟩, ⟨1⟩, .explorer, 55⟩⟩, ⟨[], .insertCompartment ⟨⟨.ofNat 7⟩, ⟨2⟩, .explorer, 55⟩⟩]
  ending := some []

theorem not_keepsRows_sharedCompartment : ¬ (ofKeyCapacity 1).KeepsRows [sharedCompartment] := by
  intro h
  have hsecond := insertsFresh_of_keepsRows h _ (.tail _ (.head _)) _ rfl
  exact hsecond (by decide)

end Store

end CashShop
