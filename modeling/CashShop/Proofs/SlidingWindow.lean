import CashShop.Proofs.ExactlyOnce
import CashShop.Proofs.UnitOfWork
import Mathlib.Data.Finset.Basic
import Mathlib.Data.Finset.Lattice.Lemmas
import Mathlib.Data.List.Induction

namespace CashShop

/-- The keys of a window as a set, and as a queue with the oldest in front. -/
structure KeyMemory where
  capacity : Nat
  known : Finset String
  queue : List String

namespace KeyMemory

def ofCapacity (n : Nat) : KeyMemory := ⟨max n 1, ∅, []⟩

def evict (capacity : Nat) (known : Finset String) : List String → Finset String × List String
  | [] => (known, [])
  | oldest :: queue =>
    if capacity < queue.length + 1 then evict capacity (known.erase oldest) queue else (known, oldest :: queue)

def record (m : KeyMemory) (key : String) : KeyMemory :=
  if key ∈ m.known then m
  else
    let kept := evict m.capacity (insert key m.known) (m.queue ++ [key])
    { m with known := kept.1, queue := kept.2 }

structure Holds (m : KeyMemory) (w : KeyWindow) : Prop where
  capacity : m.capacity = w.capacity
  queue : m.queue = w.keys
  known : m.known = m.queue.toFinset
  nodup : m.queue.Nodup
  fits : m.queue.length ≤ m.capacity

theorem length_latest_le {α : Type} (n : Nat) (l : List α) : (latest n l).length ≤ n := by
  rw [latest, List.length_drop]
  omega

theorem evict_eq (capacity : Nat) {queue : List String} (h : queue.Nodup) :
    evict capacity queue.toFinset queue = ((latest capacity queue).toFinset, latest capacity queue) := by
  induction queue with
  | nil => simp [evict, latest]
  | cons oldest queue ih =>
    obtain ⟨hnew, hrest⟩ := List.nodup_cons.1 h
    rw [evict]
    by_cases hfull : capacity < queue.length + 1
    · have herase : (oldest :: queue).toFinset.erase oldest = queue.toFinset := by
        rw [List.toFinset_cons, Finset.erase_insert (by simpa using hnew)]
      have hlatest : latest capacity (oldest :: queue) = latest capacity queue := by
        have hdrop : (oldest :: queue).length - capacity = queue.length - capacity + 1 := by
          rw [List.length_cons]
          omega
        rw [latest, hdrop, List.drop_succ_cons, latest]
      rw [if_pos hfull, herase, ih hrest, hlatest]
    · have hlatest : latest capacity (oldest :: queue) = oldest :: queue := by
        rw [latest, List.length_cons, Nat.sub_eq_zero_of_le (Nat.le_of_not_lt hfull), List.drop_zero]
      rw [if_neg hfull, hlatest]

variable {m : KeyMemory} {w : KeyWindow}

theorem holds_ofCapacity (n : Nat) : (ofCapacity n).Holds (.ofCapacity n) := ⟨rfl, rfl, rfl, .nil, Nat.zero_le _⟩

theorem Holds.record (h : m.Holds w) (key : String) : (m.record key).Holds (w.record key) := by
  have hknown : key ∈ m.known ↔ key ∈ w.keys := by rw [h.known, List.mem_toFinset, h.queue]
  by_cases hkey : key ∈ m.known
  · rw [KeyMemory.record, if_pos hkey, KeyWindow.record, if_pos (hknown.1 hkey)]
    exact h
  · have hnew : key ∉ m.queue := by rwa [h.known, List.mem_toFinset] at hkey
    have hnodup : (m.queue ++ [key]).Nodup := List.nodup_append.2
      ⟨h.nodup, List.nodup_singleton key, fun a ha b hb => by
        rw [List.mem_singleton.1 hb]
        exact fun heq => hnew (heq ▸ ha)⟩
    have hinsert : insert key m.known = (m.queue ++ [key]).toFinset := by
      rw [h.known, List.toFinset_append, Finset.insert_eq, Finset.union_comm]
      rfl
    rw [KeyMemory.record, if_neg hkey, KeyWindow.record_of_notMem (fun hk => hkey (hknown.2 hk)), hinsert,
      evict_eq _ hnodup]
    exact ⟨h.capacity, by rw [← h.capacity, ← h.queue], rfl, hnodup.sublist (List.drop_sublist _ _),
      length_latest_le _ _⟩

theorem Holds.foldl_record (h : m.Holds w) (keys : List String) :
    (keys.foldl KeyMemory.record m).Holds (keys.foldl KeyWindow.record w) := by
  induction keys generalizing m w with
  | nil => exact h
  | cons key keys ih => exact ih (h.record key)

end KeyMemory

/-- No key comes again for as long as it is among the latest. -/
def Spaced (n : Nat) (keys : List String) : Prop :=
  ∀ earlier key later, keys = earlier ++ key :: later → key ∉ latest n earlier

section Spaced

variable {n : Nat} {keys more : List String}

theorem Spaced.of_prefix (h : Spaced n (keys ++ more)) : Spaced n keys := by
  rintro earlier key later rfl
  exact h earlier key (later ++ more) (by rw [List.append_assoc, List.cons_append])

theorem mem_latest_append {key : String} (h : key ∈ latest n (keys ++ more)) : key ∈ latest n keys ∨ key ∈ more := by
  rw [latest, List.drop_append] at h
  rcases List.mem_append.1 h with h | h
  · refine .inl (List.mem_of_mem_drop (i := (keys ++ more).length - n - (keys.length - n)) ?_)
    rw [latest, List.drop_drop]
    have hsum : keys.length - n + ((keys ++ more).length - n - (keys.length - n)) = (keys ++ more).length - n := by
      rw [List.length_append]
      omega
    rwa [hsum]
  · exact .inr (List.mem_of_mem_drop h)

theorem Spaced.append (h : Spaced n keys) (hnodup : more.Nodup) (hnew : ∀ key ∈ more, key ∉ latest n keys) :
    Spaced n (keys ++ more) := by
  intro earlier key later heq
  rcases List.append_eq_append_iff.1 heq with ⟨first, rfl, hmore⟩ | ⟨rest, hkeys, hrest⟩
  · intro hmem
    rcases mem_latest_append hmem with hold | hfirst
    · exact hnew key (by simp [hmore]) hold
    · rw [hmore] at hnodup
      exact (List.nodup_append.1 hnodup).2.2 key hfirst key List.mem_cons_self rfl
  · cases rest with
    | nil =>
      rw [List.append_nil] at hkeys
      subst hkeys
      exact hnew key (by rw [← List.nil_append more, ← hrest]; exact List.mem_cons_self)
    | cons first rest =>
      obtain ⟨rfl, -⟩ := List.cons.inj hrest
      exact h earlier key rest hkeys

theorem foldl_record_of_spaced (h : Spaced n keys) : keys.foldl KeyWindow.record ⟨n, []⟩ = ⟨n, latest n keys⟩ := by
  induction keys using List.reverseRecOn with
  | nil => simp [latest]
  | append_singleton keys key ih =>
    have hnew : key ∉ latest n keys := h keys key [] rfl
    rw [List.foldl_append, ih h.of_prefix, List.foldl_cons, List.foldl_nil,
      KeyWindow.record_of_notMem (w := ⟨n, latest n keys⟩) hnew, latest_latest_append]

end Spaced

/-- A unit claims no key twice, and none that is remembered. -/
theorem Draft.won_fresh (d : Draft) (steps : List Step) :
    (d.won steps).Nodup ∧ ∀ key ∈ d.won steps, key ∉ d.base.window.keys ∧ key ∉ d.claimed := by
  induction steps generalizing d with
  | nil => exact ⟨.nil, nofun⟩
  | cons s steps ih =>
    obtain ⟨hwindow, hclaimed⟩ := d.frame_next s
    obtain ⟨hnodup, hfresh⟩ := ih (d.next s)
    rw [hwindow, hclaimed] at hfresh
    rw [won]
    cases hw : d.won? s.request with
    | none =>
      rw [hw, Option.toList_none, List.append_nil] at hfresh
      exact ⟨hnodup, hfresh⟩
    | some key =>
      have hfree : key ∉ d.base.window.keys ∧ key ∉ d.claimed := by
        cases hr : s.request with
        | claim k =>
          rw [hr, won?, fst_claim] at hw
          simp only [Option.ite_none_right_eq_some, Option.some.injEq, Bool.not_eq_true', decide_eq_false_iff_not,
            not_or] at hw
          exact hw.2 ▸ hw.1
        | _ => simp [hr, won?] at hw
      rw [hw, Option.toList_some] at hfresh
      rw [Option.toList_some, List.singleton_append]
      refine ⟨List.nodup_cons.2 ⟨fun hk => ?_, hnodup⟩, List.forall_mem_cons.2 ⟨hfree, fun k hk => ?_⟩⟩
      · exact (hfresh key hk).2 (by simp)
      · obtain ⟨hkw, hkc⟩ := hfresh k hk
        exact ⟨hkw, fun hk' => hkc (List.mem_append_left _ hk')⟩

theorem UnitOfWork.window_of_commit? {u : UnitOfWork} {s s' : Store} (h : u.commit? s = some s') :
    s'.window = ((Draft.begin s).won u.steps).foldl KeyWindow.record s.window := by
  obtain ⟨faults, rfl⟩ := u.committed_of_commit? h
  obtain ⟨hwindow, hclaimed⟩ := (Draft.begin s).frame_run u.steps
  change ((Draft.begin s).run u.steps).claimed.foldl KeyWindow.record ((Draft.begin s).run u.steps).base.window = _
  rw [hwindow, hclaimed]
  rfl

namespace Store

def wonKeys (s : Store) : List UnitOfWork → List String
  | [] => []
  | u :: h => (if (u.commit? s).isSome then (Draft.begin s).won u.steps else []) ++ (s.settle u).wonKeys h

variable {s : Store} {n : Nat} {keys : List String}

theorem window_settle (h : s.window = ⟨n, latest n keys⟩) (hspaced : Spaced n keys) (u : UnitOfWork) :
    let more := if (u.commit? s).isSome then (Draft.begin s).won u.steps else []
    (s.settle u).window = ⟨n, latest n (keys ++ more)⟩ ∧ Spaced n (keys ++ more) := by
  intro more
  cases hc : u.commit? s with
  | none =>
    have hmore : more = [] := by simp [more, hc]
    rw [hmore, List.append_nil, settle, hc]
    exact ⟨h, hspaced⟩
  | some s' =>
    have hmore : more = (Draft.begin s).won u.steps := by simp [more, hc]
    obtain ⟨hnodup, hfresh⟩ := (Draft.begin s).won_fresh u.steps
    have hnew : ∀ key ∈ more, key ∉ latest n keys := by
      intro key hkey
      have hfree := (hfresh key (hmore ▸ hkey)).1
      change key ∉ s.window.keys at hfree
      rwa [h] at hfree
    have hall := hspaced.append (hmore ▸ hnodup) hnew
    refine ⟨?_, hall⟩
    rw [settle, hc, Option.getD_some, UnitOfWork.window_of_commit? hc, ← hmore, h, ← foldl_record_of_spaced hspaced,
      ← List.foldl_append, foldl_record_of_spaced hall]

theorem window_afterUnits (h : s.window = ⟨n, latest n keys⟩) (hspaced : Spaced n keys) (us : List UnitOfWork) :
    (s.afterUnits us).window = ⟨n, latest n (keys ++ s.wonKeys us)⟩ ∧ Spaced n (keys ++ s.wonKeys us) := by
  induction us generalizing s keys with
  | nil =>
    rw [wonKeys, List.append_nil]
    exact ⟨h, hspaced⟩
  | cons u us ih =>
    obtain ⟨hwindow, hspaced'⟩ := window_settle h hspaced u
    rw [wonKeys, ← List.append_assoc]
    exact ih hwindow hspaced'

/-- A claim is refused just if its key is among the latest that committed units have claimed, as many as there is room
for, or has been claimed by the same unit. Set and queue hold these keys at all times, also midway through a commit. -/
theorem claims_see_sliding_window (n : Nat) (us : List UnitOfWork) :
    let s := (Store.ofKeyCapacity n).afterUnits us
    let keys := (Store.ofKeyCapacity n).wonKeys us
    (∀ steps key, (((Draft.begin s).run steps).claim key).1 = false ↔
      key ∈ latest (max 1 n) keys ∨ key ∈ (Draft.begin s).won steps) ∧
    (keys.foldl KeyMemory.record (.ofCapacity n)).queue = s.window.keys ∧
    ∀ i,
      let m := (keys.take i).foldl KeyMemory.record (.ofCapacity n)
      m.queue = latest (max 1 n) (keys.take i) ∧ m.known = m.queue.toFinset ∧ m.queue.Nodup ∧
        m.queue.length ≤ max 1 n := by
  intro s keys
  have hempty : Spaced (max n 1) [] := fun earlier key later h => by simp at h
  obtain ⟨hwindow, hspaced⟩ := window_afterUnits (s := .ofKeyCapacity n) (n := max n 1)
    (by simp [ofKeyCapacity, KeyWindow.ofCapacity, latest]) hempty us
  rw [List.nil_append] at hwindow hspaced
  rw [Nat.max_comm 1 n]
  refine ⟨fun steps key => ?_, ?_, ?_⟩
  · obtain ⟨hw, hc⟩ := (Draft.begin s).frame_run steps
    rw [Draft.fst_claim, hw, hc]
    change (!decide (key ∈ s.window.keys ∨ key ∈ [] ++ _)) = false ↔ _
    rw [hwindow, List.nil_append, Bool.not_eq_false', decide_eq_true_iff]
  · rw [((KeyMemory.holds_ofCapacity n).foldl_record keys).queue]
    change (keys.foldl KeyWindow.record ⟨max n 1, []⟩).keys = _
    rw [foldl_record_of_spaced hspaced, hwindow]
  ·
    intro i m
    have hholds := (KeyMemory.holds_ofCapacity n).foldl_record (keys.take i)
    change m.Holds ((keys.take i).foldl KeyWindow.record ⟨max n 1, []⟩) at hholds
    have hsplit : Spaced (max n 1) (keys.take i ++ keys.drop i) := by rwa [List.take_append_drop]
    rw [foldl_record_of_spaced hsplit.of_prefix] at hholds
    have hfits := hholds.fits
    rw [hholds.capacity] at hfits
    exact ⟨hholds.queue, hholds.known, hholds.nodup, hfits⟩

end Store

example : (["a", "b", "c"].foldl KeyMemory.record (.ofCapacity 2)).queue = ["b", "c"] := by decide

end CashShop
