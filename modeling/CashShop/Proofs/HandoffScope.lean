import CashShop.Proofs.History
import CashShop.Proofs.TransferCall

namespace CashShop

open Work

theorem Store.transact_put {α : Type} (s : Store) (work : Work α) (t : Topic) (key : String) (value : Json) :
    s.transact (work >>= fun a => Work.put t key value >>= fun _ => pure a) (fun _ => true) =
      ((s.transact work fun _ => true).1.map fun r => (r.1, r.2.put t ⟨key, value⟩),
        (s.transact work fun _ => true).2) := by
  have hexec : (work >>= fun a => Work.put t key value >>= fun _ => pure a) (Draft.begin s) =
      match work (Draft.begin s) with
      | (.ok a, d) => (.ok a, d.put t ⟨key, value⟩)
      | (.error e, d) => (.error e, d) := exec_bind work _ (Draft.begin s)
  unfold transact
  rw [hexec]
  rcases work (Draft.begin s) with ⟨r, d⟩
  cases r with
  | error e => rfl
  | ok a =>
    have hcommit : (d.put t ⟨key, value⟩).commit = d.commit := rfl
    simp only [hcommit, if_true]
    cases d.commit <;> rfl

def Tables.Names (t : Tables) (r : CompartmentRef) : Prop :=
  ∃ k, t.compartments.get? r.compartment = some k ∧ k.account = r.account ∧ k.line = r.line

def Handoff.readdressed (h : Handoff) (a : AccountId) (l : ClassLine) : Handoff := { h with account := a, line := l }

def Answer.handoff? (h : Handoff) : Answer → Option (Asset × CompartmentEvent)
  | accepted x => some (x, .accepted h.ref h.transaction)
  | released x => some (x, .released h.ref h.transaction)
  | _ => none

/-- What a handoff has done to the assets: an item that is accepted is placed unless it is placed already, one that is
released is placed no longer. -/
def Answer.Hands (before after : List Asset) : Answer → Prop
  | accepted x => after = if x ∈ before then before else before ++ [x]
  | released x => x ∈ before ∧ after = before.filter fun y => y.id ≠ x.id
  | _ => False

namespace Call

def handoff? : Call → Option Handoff
  | accept h | release h => some h
  | _ => none

def readdressed (a : AccountId) (l : ClassLine) : Call → Call
  | accept h => accept (h.readdressed a l)
  | release h => release (h.readdressed a l)
  | c => c

end Call

namespace Service

variable {s : Service} {amb : Ambient} {h : Handoff} {c : Call} {a : Answer} {e : WorkflowError}

def tell (s : Service) (account : AccountId) (e : CompartmentEvent) : Service :=
  s.announce .compartmentStatus (toString account) e.toJson

def conclude (s : Service) (h : Handoff) (e : CompartmentEvent) (code : WorkflowError → ErrorCode) :
    Except WorkflowError (Asset × Outbox) × Store → Except WorkflowError Asset × Service
  | (.ok (x, o), store) =>
    (.ok x, { s with store }.publish (o.put .compartmentStatus ⟨toString h.account, e.toJson⟩))
  | (.error err, store) => (.error err, { s with store }.answerHandoffError h (code err))

theorem accept_eq (s : Service) (amb : Ambient) (h : Handoff) : s.accept amb h =
    s.conclude h (.accepted h.ref h.transaction) Handoff.acceptCode (s.store.transact (h.place amb) fun _ => true) := by
  rw [accept, run, Handoff.acceptWork, Store.transact_put]
  rcases s.store.transact (h.place amb) fun _ => true with ⟨r, store⟩
  cases r <;> rfl

theorem release_of_reserved (hr : (s.reservations.isReserved h.item amb.now).1 = true) :
    s.release amb h = (.error (.itemAlreadyReserved h.item), answerHandoffError
      { s with reservations := (s.reservations.isReserved h.item amb.now).2 } h .itemAlreadyReserved) := by
  rw [release]
  simp only [hr, if_true]
  rfl

theorem release_of_unreserved (hr : (s.reservations.isReserved h.item amb.now).1 = false) :
    s.release amb h = conclude { s with reservations := (s.reservations.isReserved h.item amb.now).2 } h
      (.released h.ref h.transaction) WorkflowError.code (s.store.transact h.withdraw fun _ => true) := by
  rw [release]
  simp only [hr, Bool.false_eq_true, if_false, perform]
  rw [run, Handoff.releaseWork, Store.transact_put]
  rcases s.store.transact h.withdraw fun _ => true with ⟨r, store⟩
  cases r <;> rfl

section Conclude

variable (s : Service) (h : Handoff) (event : CompartmentEvent) (code : WorkflowError → ErrorCode)
  (r : Except WorkflowError (Asset × Outbox) × Store)

@[simp] theorem fst_conclude : (s.conclude h event code r).1 = r.1.map (·.1) := by
  rcases r with ⟨r, store⟩
  cases r <;> rfl

@[simp] theorem store_conclude : (s.conclude h event code r).2.store = r.2 := by
  rcases r with ⟨r, store⟩
  cases r <;> rfl

theorem transport_conclude_of_error (he : (s.conclude h event code r).1 = .error e) :
    (s.conclude h event code r).2.transport = (s.tell h.account (.error h.ref (code e) h.transaction)).transport := by
  rcases r with ⟨r, store⟩
  cases r with
  | error err =>
    cases he
    rfl
  | ok => cases he

end Conclude

theorem told_of_error (hc : c.handoff? = some h) (he : (s.call amb c).1 = .error e) : ∃ code,
    (s.call amb c).2.transport = (s.tell h.account (.error h.ref code h.transaction)).transport := by
  cases c with
  | accept hd =>
    cases hc
    have he' : (s.accept amb h).1 = .error e := answered_eq_error.1 he
    change ∃ code, (s.accept amb h).2.transport = _
    rw [accept_eq] at he' ⊢
    exact ⟨_, transport_conclude_of_error s h _ _ _ he'⟩
  | release hd =>
    cases hc
    have he' : (s.release amb h).1 = .error e := answered_eq_error.1 he
    change ∃ code, (s.release amb h).2.transport = _
    cases hr : (s.reservations.isReserved h.item amb.now).1 with
    | true =>
      rw [release_of_reserved hr]
      exact ⟨.itemAlreadyReserved, rfl⟩
    | false =>
      rw [release_of_unreserved hr] at he' ⊢
      exact ⟨_, transport_conclude_of_error _ h _ _ _ he'⟩
  | _ => cases hc

/-- The work of a handoff does not look at account and class line. -/
theorem call_readdressed (s : Service) (amb : Ambient) (c : Call) (account : AccountId) (line : ClassLine) :
    (s.call amb (c.readdressed account line)).1 = (s.call amb c).1 ∧
      (s.call amb (c.readdressed account line)).2.store = (s.call amb c).2.store := by
  cases c with
  | accept h =>
    have hplace : (h.readdressed account line).place amb = h.place amb := rfl
    change (s.accept amb (h.readdressed account line)).1.map _ = (s.accept amb h).1.map _ ∧
      (s.accept amb (h.readdressed account line)).2.store = (s.accept amb h).2.store
    simp only [accept_eq, fst_conclude, store_conclude, hplace, and_self]
  | release h =>
    have hwithdraw : (h.readdressed account line).withdraw = h.withdraw := rfl
    change (s.release amb (h.readdressed account line)).1.map _ = (s.release amb h).1.map _ ∧
      (s.release amb (h.readdressed account line)).2.store = (s.release amb h).2.store
    cases hr : (s.reservations.isReserved h.item amb.now).1 with
    | true =>
      rw [release_of_reserved hr, release_of_reserved (h := h.readdressed account line) hr]
      exact ⟨rfl, rfl⟩
    | false =>
      rw [release_of_unreserved hr, release_of_unreserved (h := h.readdressed account line) hr]
      simp only [fst_conclude, store_conclude, hwithdraw, and_self]
  | _ => exact ⟨rfl, rfl⟩

/-- A handoff that is carried out has found its compartment, and does nothing but to move the item and to say so. -/
theorem exists_of_handoff_ok (hc : c.handoff? = some h) (hok : (s.call amb c).1 = .ok a) : ∃ k x event,
    s.store.tables.compartments.get? h.compartment = some k ∧ a.handoff? h = some (x, event) ∧
      x.compartment = h.compartment ∧ x.item = h.item ∧
      (s.call amb c).2.store = { s.store with tables :=
        { s.store.tables with assets := (s.call amb c).2.store.tables.assets } } ∧
      a.Hands s.store.tables.assets (s.call amb c).2.store.tables.assets ∧
      (s.call amb c).2.transport = (s.tell h.account event).transport := by
  cases c with
  | accept hd =>
    cases hc
    obtain ⟨x, -, rfl⟩ := answered_eq_ok.1 hok
    obtain ⟨d, commits, store, transport⟩ := committed_of_done hok rfl (by simp) (by simp)
    rw [store]
    cases commits with
    | acceptHeld known held inside =>
      obtain ⟨k, hk⟩ := Option.isSome_iff_exists.1 known
      have hin : x ∈ s.store.tables.assets := List.mem_of_find?_eq_some held
      have hitem := List.find?_some held
      exact ⟨k, x, _, hk, rfl, inside, by simpa using hitem, rfl, (if_pos hin).symm, transport⟩
    | @accept _ k known unplaced =>
      have hout : (⟨amb.asset, h.compartment, h.item⟩ : Asset) ∉ s.store.tables.assets := by
        intro hin
        simpa using List.find?_eq_none.1 unplaced _ hin
      exact ⟨k, _, _, known, rfl, rfl, rfl, rfl, (if_neg hout).symm, transport⟩
  | release hd =>
    cases hc
    obtain ⟨x, -, rfl⟩ := answered_eq_ok.1 hok
    obtain ⟨d, commits, store, transport⟩ := committed_of_done hok rfl (by simp) (by simp)
    rw [store]
    cases commits with
    | release known _ _ held =>
      obtain ⟨k, hk⟩ := Option.isSome_iff_exists.1 known
      have hin := List.mem_filter.1 (List.mem_of_find?_eq_some held)
      have hitem := List.find?_some held
      exact ⟨k, x, _, hk, rfl, by simpa using hin.2, by simpa using hitem, rfl, ⟨hin.1, rfl⟩, transport⟩
  | _ => cases hc

/-- Handoffs go by the id of the compartment. One that is carried out has found the compartment with this id; it moves
the item of the command into or out of that compartment, changes nothing else in the store, and its answer repeats the
command. One that fails changes nothing in the store and is answered with an error, and so is one that names a
compartment which does not exist. A command for another account or class line has the same outcome. -/
theorem handoff_goes_by_id (s : Service) (amb : Ambient) (hc : c.handoff? = some h) :
    (∀ a, (s.call amb c).1 = .ok a → ∃ k x event, s.store.tables.compartments.get? h.compartment = some k ∧
      a.handoff? h = some (x, event) ∧ x.compartment = h.compartment ∧ x.item = h.item ∧
      (s.call amb c).2.store = { s.store with tables :=
        { s.store.tables with assets := (s.call amb c).2.store.tables.assets } } ∧
      a.Hands s.store.tables.assets (s.call amb c).2.store.tables.assets ∧
      (s.call amb c).2.transport = (s.tell h.account event).transport) ∧
    (∀ e, (s.call amb c).1 = .error e → (s.call amb c).2.store = s.store ∧ ∃ code,
      (s.call amb c).2.transport = (s.tell h.account (.error h.ref code h.transaction)).transport) ∧
    (s.store.tables.compartments.get? h.compartment = none → ∃ e, (s.call amb c).1 = .error e) ∧
    ∀ account line, (s.call amb (c.readdressed account line)).1 = (s.call amb c).1 ∧
      (s.call amb (c.readdressed account line)).2.store = (s.call amb c).2.store := by
  refine ⟨fun a hok => exists_of_handoff_ok hc hok, fun e he => ⟨store_call_of_error he, told_of_error hc he⟩, ?_,
    call_readdressed s amb c⟩
  intro hmissing
  cases hr : (s.call amb c).1 with
  | error e => exact ⟨e, rfl⟩
  | ok a =>
    obtain ⟨k, -, -, hk, -⟩ := exists_of_handoff_ok hc hr
    rw [hmissing] at hk
    cases hk

def strayed : Handoff := ⟨⟨2⟩, .legend, ⟨.ofNat 8⟩, ⟨.ofNat 1⟩, ⟨1⟩⟩

theorem handoff_goes_by_id_strayed : (Call.release strayed).handoff? = some strayed ∧
    (sold.call .opening (.release strayed)).1 =
      (sold.call .opening (.release (strayed.readdressed ⟨1⟩ .explorer))).1 := by
  have hc : (Call.release strayed).handoff? = some strayed := rfl
  exact ⟨hc, ((handoff_goes_by_id sold .opening hc).2.2.2 ⟨1⟩ .explorer).1.symm⟩

def ActsAsNamed (s : Service) (amb : Ambient) (c : Call) (h : Handoff) : Prop :=
  (∀ a, (s.call amb c).1 = .ok a → s.store.tables.Names h.ref) ∧
    (¬ s.store.tables.Names h.ref → (∃ e, (s.call amb c).1 = .error e) ∧ (s.call amb c).2.store = s.store ∧
      ∃ code, (s.call amb c).2.transport = (s.tell h.account (.error h.ref code h.transaction)).transport)

theorem not_actsAsNamed_strayed : ¬ sold.ActsAsNamed .opening (.release strayed) strayed := by
  intro hacts
  have hok : (sold.call .opening (.release strayed)).1 = .ok (.released ⟨⟨.ofNat 1⟩, ⟨.ofNat 1⟩, ⟨1⟩⟩) := by rfl
  obtain ⟨k, hk, haccount, -⟩ := hacts.1 _ hok
  have howner : (sold.store.tables.compartments.get? strayed.ref.compartment).map (·.account) = some ⟨1⟩ := by decide
  rw [hk, Option.map_some, haccount] at howner
  exact absurd howner (by decide)

end Service

end CashShop
