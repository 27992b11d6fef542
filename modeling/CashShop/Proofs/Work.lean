import CashShop.Work

namespace CashShop

theorem map_eq_ok {ε α β : Type} {x : Except ε α} {f : α → β} {b : β} : x.map f = .ok b ↔ ∃ a, x = .ok a ∧ f a = b := by
  cases x <;> simp [Except.map]

namespace Work

variable {α β : Type} {d d' d'' : Draft}

def exec (w : Work α) (d : Draft) : Except WorkflowError α × Draft := w d

def Yields (w : Work α) (d : Draft) (a : α) (d' : Draft) : Prop := exec w d = (.ok a, d')

theorem exec_bind (x : Work α) (f : α → Work β) (d : Draft) :
    exec (x >>= f) d = match exec x d with
      | (.ok a, d') => exec (f a) d'
      | (.error e, d') => (.error e, d') := by
  simp only [exec, bind, ExceptT.bind, ExceptT.mk, StateT.bind, ExceptT.bindCont]
  rcases x d with ⟨r, d1⟩
  cases r <;> rfl

theorem exec_orElseThrow_none (e : WorkflowError) (d : Draft) :
    exec (orElseThrow e none : Work α) d = (.error e, d) := rfl

theorem exec_orElseThrow_some (e : WorkflowError) (a : α) (d : Draft) : exec (orElseThrow e (some a)) d = (.ok a, d) :=
  rfl

@[simp] theorem yields_pure {a b : α} : Yields (pure a) d b d' ↔ a = b ∧ d = d' := by
  change ((.ok a, d) : Except WorkflowError α × Draft) = (.ok b, d') ↔ _
  simp

@[simp] theorem not_yields_throw {e : WorkflowError} {b : α} : ¬ Yields (throw e) d b d' := by
  change ¬ ((.error e, d) : Except WorkflowError α × Draft) = (.ok b, d')
  simp

@[simp] theorem not_yields_throw_bind {e : WorkflowError} {f : α → Work β} {b : β} :
    ¬ Yields (throw e >>= f) d b d' := by
  change ¬ ((.error e, d) : Except WorkflowError β × Draft) = (.ok b, d')
  simp

theorem yields_bind {x : Work α} {f : α → Work β} {b : β} :
    Yields (x >>= f) d b d'' ↔ ∃ a d', Yields x d a d' ∧ Yields (f a) d' b d'' := by
  simp only [Yields, exec_bind]
  rcases exec x d with ⟨r, d1⟩
  cases r with
  | error e => simp
  | ok a =>
    constructor
    · exact fun h => ⟨a, d1, rfl, h⟩
    · rintro ⟨a', d', h, hf⟩
      cases h
      exact hf

@[simp] theorem yields_map {x : Work α} {f : α → β} {b : β} :
    Yields (f <$> x) d b d' ↔ ∃ a, Yields x d a d' ∧ f a = b := by
  rw [map_eq_pure_bind, yields_bind]
  simp only [yields_pure]
  constructor
  · rintro ⟨a, d1, h, rfl, rfl⟩
    exact ⟨a, h, rfl⟩
  · rintro ⟨a, h, rfl⟩
    exact ⟨a, d', h, rfl, rfl⟩

@[simp] theorem yields_ite {p : Prop} [Decidable p] {x y : Work α} {a : α} :
    Yields (if p then x else y) d a d' ↔ p ∧ Yields x d a d' ∨ ¬ p ∧ Yields y d a d' := by
  split <;> simp [*]

theorem exec_tryCatch (x : Work α) (handler : WorkflowError → Work α) (d : Draft) :
    exec (tryCatch x handler) d = match exec x d with
      | (.ok a, d') => (.ok a, d')
      | (.error e, d') => exec (handler e) d' := by
  simp only [exec, tryCatch, tryCatchThe, MonadExceptOf.tryCatch, ExceptT.tryCatch, ExceptT.mk, bind, StateT.bind]
  rcases x d with ⟨r, d1⟩
  cases r <;> rfl

theorem yields_tryCatch {x : Work α} {handler : WorkflowError → Work α} {a : α}
    (h : ∀ e d d' b, ¬ Yields (handler e) d b d') :
    Yields (tryCatch x handler) d a d' ↔ Yields x d a d' := by
  simp only [Yields, exec_tryCatch]
  rcases exec x d with ⟨r, d1⟩
  cases r with
  | ok b => rfl
  | error e => exact ⟨fun hy => absurd hy (h e d1 d' a), fun hy => by simp at hy⟩

@[simp] theorem yields_read {f : Draft → α} {a : α} : Yields (read f) d a d' ↔ f d = a ∧ d = d' := by
  change ((.ok (f d), d) : Except WorkflowError α × Draft) = (.ok a, d') ↔ _
  simp

@[simp] theorem yields_step {f : Draft → α × Draft} {a : α} : Yields (step f) d a d' ↔ f d = (a, d') := by
  change ((.ok (f d).1, (f d).2) : Except WorkflowError α × Draft) = (.ok a, d') ↔ _
  simp [Prod.ext_iff]

@[simp] theorem yields_tryRead {f : Draft → Except Fault α} {a : α} :
    Yields (tryRead f) d a d' ↔ f d = .ok a ∧ d = d' := by
  simp only [Yields, exec, tryRead]
  cases f d <;> simp

@[simp] theorem yields_tryStep {f : Draft → Except Fault (α × Draft)} {a : α} :
    Yields (tryStep f) d a d' ↔ f d = .ok (a, d') := by
  simp only [Yields, exec, tryStep]
  cases f d <;> simp [Prod.ext_iff]

@[simp] theorem yields_tryWrite {f : Draft → Except Fault Draft} {u : Unit} :
    Yields (tryWrite f) d u d' ↔ f d = .ok d' := by
  rw [tryWrite, yields_tryStep]
  cases f d <;> simp [Except.map]

@[simp] theorem yields_read_bind {f : Draft → α} {g : α → Work β} {b : β} :
    Yields (read f >>= g) d b d' ↔ Yields (g (f d)) d b d' := by
  simp [yields_bind, and_assoc]

@[simp] theorem yields_step_bind {f : Draft → α × Draft} {g : α → Work β} {b : β} :
    Yields (step f >>= g) d b d' ↔ Yields (g (f d).1) (f d).2 b d' := by
  simp [yields_bind, Prod.ext_iff, and_assoc]

@[simp] theorem yields_put {t : Topic} {key : String} {value : Json} {u : Unit} :
    Yields (put t key value) d u d' ↔ d.put t ⟨key, value⟩ = d' := by
  simp [put]

@[simp] theorem yields_put_bind {t : Topic} {key : String} {value : Json} {g : Unit → Work β} {b : β} :
    Yields (put t key value >>= g) d b d' ↔ Yields (g ()) (d.put t ⟨key, value⟩) b d' := by
  simp only [yields_bind, yields_put]
  exact ⟨fun ⟨_, _, hd, h⟩ => hd ▸ h, fun h => ⟨(), _, rfl, h⟩⟩

@[simp] theorem yields_orElseThrow {e : WorkflowError} {o : Option α} {a : α} :
    Yields (orElseThrow e o) d a d' ↔ o = some a ∧ d = d' := by
  cases o <;> simp [orElseThrow]

@[simp] theorem yields_orElseThrow_bind {e : WorkflowError} {o : Option α} {g : α → Work β} {b : β} :
    Yields (orElseThrow e o >>= g) d b d' ↔ ∃ a, o = some a ∧ Yields (g a) d b d' := by
  simp [yields_bind, and_assoc]

@[simp] theorem yields_lift {x : Except WorkflowError α} {a : α} :
    Yields (liftM x) d a d' ↔ x = .ok a ∧ d = d' := by
  change ((x, d) : Except WorkflowError α × Draft) = (.ok a, d') ↔ _
  simp

@[simp] theorem yields_lift_bind {x : Except WorkflowError α} {g : α → Work β} {b : β} :
    Yields (liftM x >>= g) d b d' ↔ ∃ a, x = .ok a ∧ Yields (g a) d b d' := by
  simp [yields_bind, and_assoc]

@[simp] theorem yields_tryRead_bind {f : Draft → Except Fault α} {g : α → Work β} {b : β} :
    Yields (tryRead f >>= g) d b d' ↔ ∃ a, f d = .ok a ∧ Yields (g a) d b d' := by
  simp [yields_bind, and_assoc]

@[simp] theorem yields_tryWrite_bind {f : Draft → Except Fault Draft} {g : Unit → Work β} {b : β} :
    Yields (tryWrite f >>= g) d b d' ↔ ∃ d1, f d = .ok d1 ∧ Yields (g ()) d1 b d' := by
  simp only [yields_bind, yields_tryWrite]
  exact ⟨fun ⟨_, d1, hd, h⟩ => ⟨d1, hd, h⟩, fun ⟨d1, hd, h⟩ => ⟨(), d1, hd, h⟩⟩

@[simp] theorem yields_tryStep_bind {f : Draft → Except Fault (α × Draft)} {g : α → Work β} {b : β} :
    Yields (tryStep f >>= g) d b d' ↔ ∃ a d1, f d = .ok (a, d1) ∧ Yields (g a) d1 b d' := by
  simp [yields_bind]

end Work

namespace Draft

variable {d d' : Draft}

@[simp] theorem base_put (d : Draft) (t : Topic) (m : Message) : (d.put t m).base = d.base := rfl

@[simp] theorem tables_put (d : Draft) (t : Topic) (m : Message) : (d.put t m).tables = d.tables := rfl

@[simp] theorem claimed_put (d : Draft) (t : Topic) (m : Message) : (d.put t m).claimed = d.claimed := rfl

theorem insertWallet_eq_ok {w : Wallet} : d.insertWallet w = .ok d' ↔
    d.tables.wallets.get? w.account = none ∧
      { d with tables := { d.tables with wallets := d.tables.wallets.insert w.account w } } = d' := by
  unfold insertWallet Table.contains
  cases d.tables.wallets.get? w.account <;> simp

theorem updateWallet_eq_ok {w : Wallet} {found : Bool} : d.updateWallet w = .ok (found, d') ↔
    .updateWallet ∉ d.base.faults ∧ d.tables.wallets.contains w.account = found ∧
      (if found then { d with tables := { d.tables with wallets := d.tables.wallets.insert w.account w } }
        else d) = d' := by
  unfold updateWallet check
  by_cases hf : FaultPoint.updateWallet ∈ d.base.faults
  · simp [hf, bind, Except.bind]
  · cases hc : d.tables.wallets.contains w.account <;> cases found <;>
      simp [hf, bind, Except.bind, pure, Except.pure]

theorem insertItem_eq_ok {n : NewItem} {i : Item} : d.insertItem n = .ok (i, d') ↔
    .insertItem ∉ d.base.faults ∧ d.tables.lastItem.toNat + 1 < UInt32.size ∧
      { n with id := ⟨d.tables.lastItem + 1⟩ } = i ∧
      { d with tables := { d.tables with
        items := d.tables.items.insert ⟨d.tables.lastItem + 1⟩ { n with id := ⟨d.tables.lastItem + 1⟩ }
        lastItem := d.tables.lastItem + 1 } } = d' := by
  unfold insertItem check
  by_cases hf : FaultPoint.insertItem ∈ d.base.faults
  · simp [hf, bind, Except.bind]
  · by_cases hn : d.tables.lastItem.toNat + 1 < UInt32.size
    · simp only [hf, hn, bind, Except.bind, pure, Except.pure, if_true, if_false, Except.ok.injEq, Prod.mk.injEq,
        not_false_eq_true, true_and]
    · simp only [hf, hn, bind, Except.bind, throw, throwThe, MonadExceptOf.throw, if_false, reduceCtorEq, false_and,
        and_false]

theorem insertCompartment_eq_ok {c : Compartment} : d.insertCompartment c = .ok d' ↔
    d.compartmentOf? c.account c.line = none ∧
      { d with tables := { d.tables with compartments := d.tables.compartments.insert c.id c } } = d' := by
  unfold insertCompartment
  cases d.compartmentOf? c.account c.line <;> simp

theorem assetsIn_eq_ok {c : CompartmentId} {assets : List Asset} : d.assetsIn c = .ok assets ↔
    .listAssets ∉ d.base.faults ∧ d.tables.assets.filter (·.compartment = c) = assets := by
  unfold assetsIn check
  by_cases hf : FaultPoint.listAssets ∈ d.base.faults <;> simp [hf, bind, Except.bind, pure, Except.pure]

theorem insertAsset_eq_ok {a : Asset} : d.insertAsset a = .ok d' ↔
    .insertAsset ∉ d.base.faults ∧ (d.compartment? a.compartment).isSome = true ∧
      { d with tables := { d.tables with assets := d.tables.assets ++ [a] } } = d' := by
  unfold insertAsset check
  by_cases hf : FaultPoint.insertAsset ∈ d.base.faults
  · simp [hf, bind, Except.bind]
  · cases d.compartment? a.compartment <;>
      simp [hf, bind, Except.bind, pure, Except.pure, throw, throwThe, MonadExceptOf.throw]

def committed (d : Draft) : Store :=
  { d.base with tables := d.tables, window := d.claimed.foldl KeyWindow.record d.base.window }

theorem commit_eq_ok {s : Store} : d.commit = .ok s ↔ .commit ∉ d.base.faults ∧ d.committed = s := by
  unfold commit check committed
  by_cases hf : FaultPoint.commit ∈ d.base.faults <;> simp [hf, bind, Except.bind, pure, Except.pure]

end Draft

end CashShop
