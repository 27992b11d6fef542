import CashShop.Proofs.Work

namespace CashShop

inductive Row where
  | wallet (w : Wallet)
  | item (x : Item)
  | compartment (k : Compartment)
  | asset (a : Asset)
deriving DecidableEq

namespace Draft

inductive Request where
  | wallet (a : AccountId)
  | insertWallet (w : Wallet)
  | updateWallet (w : Wallet)
  | deleteWallet (a : AccountId)
  | item (i : ItemId)
  | hasCashId (c : CashId)
  | insertItem (n : NewItem)
  | compartment (c : CompartmentId)
  | compartmentOf (a : AccountId) (l : ClassLine)
  | compartmentsOf (a : AccountId)
  | insertCompartment (k : Compartment)
  | updateCapacity (c : CompartmentId) (capacity : UInt32)
  | deleteCompartment (c : CompartmentId)
  | asset (a : AssetId)
  | assetOf (i : ItemId)
  | assetsIn (c : CompartmentId)
  | insertAsset (a : Asset)
  | deleteAsset (a : AssetId)
  | deleteAssetsOf (i : ItemId)
  | deleteAssetsIn (c : CompartmentId)
  | claim (key : String)

/-- The draft after the operation, or why it was refused. -/
def attempt (d : Draft) : Request → Except Fault Draft
  | .wallet _ | .hasCashId _ | .compartment _ | .compartmentOf _ _ | .compartmentsOf _ | .asset _ | .assetOf _ => .ok d
  | .insertWallet w => d.insertWallet w
  | .updateWallet w => (d.updateWallet w).map (·.2)
  | .deleteWallet a => .ok (d.deleteWallet a).2
  | .item i => (d.item? i).map fun _ => d
  | .insertItem n => (d.insertItem n).map (·.2)
  | .insertCompartment k => d.insertCompartment k
  | .updateCapacity c capacity => .ok (d.updateCapacity c capacity).2
  | .deleteCompartment c => .ok (d.deleteCompartment c).2
  | .assetsIn c => (d.assetsIn c).map fun _ => d
  | .insertAsset a => d.insertAsset a
  | .deleteAsset a => .ok (d.deleteAssets (·.id = a)).2
  | .deleteAssetsOf i => .ok (d.deleteAssets (·.item = i)).2
  | .deleteAssetsIn c => .ok (d.deleteAssets (·.compartment = c)).2
  | .claim key => .ok (d.claim key).2

structure Step where
  faults : List FaultPoint
  request : Request

def under (d : Draft) (faults : List FaultPoint) : Draft := { d with base := { d.base with faults } }

def next (d : Draft) (s : Step) : Draft :=
  match (d.under s.faults).attempt s.request with
  | .ok d' => d'
  | .error _ => d.under s.faults

def run (d : Draft) (steps : List Step) : Draft := steps.foldl next d

def won? (d : Draft) : Request → Option String
  | .claim key => if (d.claim key).1 then some key else none
  | _ => none

def rowOf? (d : Draft) : Request → Option Row
  | .insertWallet w => some (.wallet w)
  | .insertItem n => some (.item { n with id := ⟨d.tables.lastItem + 1⟩ })
  | .insertCompartment k => some (.compartment k)
  | .insertAsset a => some (.asset a)
  | _ => none

def won (d : Draft) : List Step → List String
  | [] => []
  | s :: steps => (d.won? s.request).toList ++ (d.next s).won steps

end Draft

structure UnitOfWork where
  steps : List Draft.Step
  ending : Option (List FaultPoint)

namespace UnitOfWork

def draft (u : UnitOfWork) (s : Store) : Draft := (Draft.begin s).run u.steps

def commit? (u : UnitOfWork) (s : Store) : Option Store :=
  u.ending.bind fun faults => (((u.draft s).under faults).commit).toOption

end UnitOfWork

namespace Store

/-- A unit that fails to commit or is dropped leaves the store as it was. -/
def settle (s : Store) (u : UnitOfWork) : Store := (u.commit? s).getD s

def afterUnits (s : Store) (h : List UnitOfWork) : Store := h.foldl settle s

end Store

namespace Draft

variable {d d' : Draft} {r : Request} {s : Step}

inductive Change (t : Tables) : Request → Tables → Prop
  | same (r : Request) (row : ∀ d : Draft, d.rowOf? r = none) : Change t r t
  | enterWallet (w : Wallet) (new : t.wallets.get? w.account = none) :
      Change t (.insertWallet w) { t with wallets := t.wallets.insert w.account w }
  | setWallet (w : Wallet) : Change t (.updateWallet w) { t with wallets := t.wallets.insert w.account w }
  | dropWallet (a : AccountId) : Change t (.deleteWallet a) { t with wallets := t.wallets.erase a }
  | enterItem (n : NewItem) (room : t.lastItem.toNat + 1 < UInt32.size) :
      Change t (.insertItem n) { t with
        items := t.items.insert ⟨t.lastItem + 1⟩ { n with id := ⟨t.lastItem + 1⟩ }
        lastItem := t.lastItem + 1 }
  | enterCompartment (k : Compartment) (free : ∀ c k', t.compartments.get? c = some k' →
        k'.account = k.account → k'.line ≠ k.line) :
      Change t (.insertCompartment k) { t with compartments := t.compartments.insert k.id k }
  | resize (c : CompartmentId) (k : Compartment) (capacity : UInt32) (found : t.compartments.get? c = some k) :
      Change t (.updateCapacity c capacity) { t with compartments := t.compartments.insert c { k with capacity } }
  | dropCompartment (c : CompartmentId) :
      Change t (.deleteCompartment c) { t with compartments := t.compartments.erase c }
  | enterAsset (a : Asset) : Change t (.insertAsset a) { t with assets := t.assets ++ [a] }
  | keepAssets (r : Request) (row : ∀ d : Draft, d.rowOf? r = none) (p : Asset → Bool) :
      Change t r { t with assets := t.assets.filter p }

/-- No operation touches the store below the draft, and only a claim touches the keys. -/
theorem attempt_eq_ok (h : d.attempt r = .ok d') :
    d'.base = d.base ∧ d'.claimed = d.claimed ++ (d.won? r).toList ∧ Change d.tables r d'.tables := by
  cases r with
  | wallet | hasCashId | compartment | compartmentOf | compartmentsOf | asset | assetOf =>
    obtain rfl : d = d' := Except.ok.inj h
    exact ⟨rfl, (List.append_nil _).symm, .same _ fun _ => rfl⟩
  | insertWallet w =>
    obtain ⟨hnew, rfl⟩ := insertWallet_eq_ok.1 h
    exact ⟨rfl, (List.append_nil _).symm, .enterWallet w hnew⟩
  | updateWallet w =>
    obtain ⟨⟨found, d1⟩, hu, rfl⟩ := map_eq_ok.1 h
    obtain ⟨-, -, rfl⟩ := updateWallet_eq_ok.1 hu
    cases found with
    | false => exact ⟨rfl, (List.append_nil _).symm, .same _ fun _ => rfl⟩
    | true => exact ⟨rfl, (List.append_nil _).symm, .setWallet w⟩
  | item | assetsIn =>
    obtain ⟨-, -, rfl⟩ := map_eq_ok.1 h
    exact ⟨rfl, (List.append_nil _).symm, .same _ fun _ => rfl⟩
  | insertItem n =>
    obtain ⟨⟨i, d1⟩, hi, rfl⟩ := map_eq_ok.1 h
    obtain ⟨-, hroom, -, rfl⟩ := insertItem_eq_ok.1 hi
    exact ⟨rfl, (List.append_nil _).symm, .enterItem n hroom⟩
  | insertCompartment k =>
    obtain ⟨hfree, rfl⟩ := insertCompartment_eq_ok.1 h
    refine ⟨rfl, (List.append_nil _).symm, .enterCompartment k fun c k' hk' ha hl => ?_⟩
    have hno := List.find?_eq_none.1 hfree k' (Table.mem_values_iff.2 ⟨c, hk'⟩)
    simp [ha, hl] at hno
  | updateCapacity c capacity =>
    obtain rfl := Except.ok.inj h
    unfold updateCapacity
    cases hk : d.compartment? c with
    | none => exact ⟨rfl, (List.append_nil _).symm, .same _ fun _ => rfl⟩
    | some k => exact ⟨rfl, (List.append_nil _).symm, .resize c k capacity hk⟩
  | insertAsset a =>
    obtain ⟨-, -, rfl⟩ := insertAsset_eq_ok.1 h
    exact ⟨rfl, (List.append_nil _).symm, .enterAsset a⟩
  | deleteWallet a =>
    obtain rfl := Except.ok.inj h
    exact ⟨rfl, (List.append_nil _).symm, .dropWallet a⟩
  | deleteCompartment c =>
    obtain rfl := Except.ok.inj h
    exact ⟨rfl, (List.append_nil _).symm, .dropCompartment c⟩
  | deleteAsset | deleteAssetsOf | deleteAssetsIn =>
    obtain rfl := Except.ok.inj h
    exact ⟨rfl, (List.append_nil _).symm, .keepAssets _ (fun _ => rfl) _⟩
  | claim key =>
    obtain rfl := Except.ok.inj h
    by_cases hk : key ∈ d.base.window.keys ∨ key ∈ d.claimed
    · simp only [won?, claim, hk, if_true, Option.toList_none, List.append_nil, Bool.false_eq_true, if_false, true_and]
      exact .same _ fun _ => rfl
    · simp only [won?, claim, hk, if_false, if_true, Option.toList_some, true_and]
      exact .same _ fun _ => rfl

theorem fst_claim (d : Draft) (key : String) :
    (d.claim key).1 = !decide (key ∈ d.base.window.keys ∨ key ∈ d.claimed) := by
  by_cases hk : key ∈ d.base.window.keys ∨ key ∈ d.claimed <;> simp [claim, hk]

theorem won?_under (faults : List FaultPoint) : (d.under faults).won? r = d.won? r := by
  cases r with
  | claim key =>
    rw [won?, won?, fst_claim, fst_claim]
    rfl
  | _ => rfl

/-- A step either does what it asks for or nothing. -/
theorem next_cases (d : Draft) (s : Step) :
    (d.under s.faults).attempt s.request = .ok (d.next s) ∨
      (∃ f, (d.under s.faults).attempt s.request = .error f) ∧ d.next s = d.under s.faults := by
  unfold next
  cases (d.under s.faults).attempt s.request with
  | ok d' => exact .inl rfl
  | error f => exact .inr ⟨⟨f, rfl⟩, rfl⟩

theorem won?_of_refused {f : Fault} (h : d.attempt r = .error f) : d.won? r = none := by
  cases r with
  | claim key => cases h
  | _ => rfl

theorem frame_next (d : Draft) (s : Step) : (d.next s).base.window = d.base.window ∧
    (d.next s).claimed = d.claimed ++ (d.won? s.request).toList := by
  rw [← won?_under s.faults]
  rcases d.next_cases s with hdone | ⟨⟨f, hrefused⟩, hsame⟩
  · obtain ⟨hbase, hclaimed, -⟩ := attempt_eq_ok hdone
    exact ⟨(congrArg Store.window hbase :), hclaimed⟩
  · rw [hsame, won?_of_refused hrefused]
    exact ⟨rfl, (List.append_nil _).symm⟩

theorem frame_run (d : Draft) (steps : List Step) : (d.run steps).base.window = d.base.window ∧
    (d.run steps).claimed = d.claimed ++ d.won steps := by
  induction steps generalizing d with
  | nil => exact ⟨rfl, (List.append_nil _).symm⟩
  | cons s steps ih =>
    obtain ⟨hwindow, hclaimed⟩ := d.frame_next s
    obtain ⟨hwindow', hclaimed'⟩ := ih (d.next s)
    refine ⟨hwindow'.trans hwindow, ?_⟩
    rw [run, List.foldl_cons, ← run, hclaimed', hclaimed, won, List.append_assoc]

end Draft

theorem UnitOfWork.committed_of_commit? {u : UnitOfWork} {s s' : Store} (h : u.commit? s = some s') :
    ∃ faults, ((u.draft s).under faults).committed = s' := by
  obtain ⟨faults, -, hcommit⟩ := Option.bind_eq_some_iff.1 h
  cases hc : ((u.draft s).under faults).commit with
  | error f => simp [hc, Except.toOption] at hcommit
  | ok s1 =>
    obtain rfl : s1 = s' := by simpa [hc, Except.toOption] using hcommit
    exact ⟨faults, (Draft.commit_eq_ok.1 hc).2⟩

end CashShop
