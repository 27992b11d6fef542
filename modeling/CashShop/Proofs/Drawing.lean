import CashShop.Proofs.Encoding
import CashShop.Proofs.Sale
import Mathlib.Data.List.Nodup
import Mathlib.Data.List.Perm.Subperm

namespace CashShop

open Work

namespace Registry

/-- Draws until a candidate is unused. Gives it, and the candidates that have not been drawn. -/
def draw (d : Draft) : List CashId → Option (CashId × List CashId)
  | [] => none
  | c :: rest => if d.hasCashId c then draw d rest else some (c, rest)

def heads (source : Nat → CashId) (k : Nat) : List CashId := (List.range k).map source

variable {d : Draft} {c : CashId} {candidates tried rest : List CashId}

theorem draw_of_taken (h : ∀ c ∈ tried, d.tables.Carries c) (rest : List CashId) :
    draw d (tried ++ rest) = draw d rest := by
  induction tried with
  | nil => rfl
  | cons c tried ih =>
    have hc := Draft.hasCashId_iff.2 (h c List.mem_cons_self)
    rw [List.cons_append, draw, if_pos hc]
    exact ih fun x hx => h x (List.mem_cons_of_mem c hx)

theorem draw_of_free (h : ¬ d.tables.Carries c) (rest : List CashId) : draw d (c :: rest) = some (c, rest) :=
  if_neg (mt Draft.hasCashId_iff.1 h)

theorem find?_eq_draw (d : Draft) (candidates : List CashId) :
    candidates.find? (!d.hasCashId ·) = (draw d candidates).map (·.1) := by
  induction candidates with
  | nil => rfl
  | cons c rest ih =>
    rw [draw]
    cases hc : d.hasCashId c <;> simp [hc, ih]

/-- A source that does not repeat itself has an unused candidate before it has given one more than there are items. -/
theorem exists_draw (hnodup : candidates.Nodup) (hmore : d.tables.items.size < candidates.length) :
    ∃ c rest, draw d candidates = some (c, rest) := by
  cases hdraw : draw d candidates with
  | some r => exact ⟨r.1, r.2, rfl⟩
  | none =>
    have hfind : candidates.find? (!d.hasCashId ·) = none := by rw [find?_eq_draw, hdraw, Option.map_none]
    have hsubset : candidates ⊆ d.tables.items.values.map (·.cashId) := by
      intro c hc
      have htaken : d.hasCashId c = true := by simpa using List.find?_eq_none.1 hfind c hc
      simpa [Draft.hasCashId] using htaken
    have hlength := (List.subperm_of_subset hnodup hsubset).length_le
    rw [List.length_map, Table.values, List.length_map] at hlength
    exact absurd hmore (Nat.not_lt.2 hlength)

/-- As long as the source has not given an unused candidate, the drawing has not come to an end; then it has. -/
theorem draw_heads {source : Nat → CashId} {n : Nat} (taken : ∀ j < n, d.tables.Carries (source j))
    (free : ¬ d.tables.Carries (source n)) (k : Nat) : draw d (heads source k) =
      if n < k then some (source n, (heads source k).drop (n + 1)) else none := by
  have hheads {j : Nat} (hj : j ≤ n) : ∀ c ∈ heads source j, d.tables.Carries c := by
    intro c hc
    obtain ⟨m, hm, rfl⟩ := List.mem_map.1 hc
    exact taken m (Nat.lt_of_lt_of_le (List.mem_range.1 hm) hj)
  split
  next hk =>
    have htake : (heads source k).take n = heads source n := by
      rw [heads, ← List.map_take, List.take_range, Nat.min_eq_left (Nat.le_of_lt hk), heads]
    have hlt : n < (heads source k).length := by rwa [heads, List.length_map, List.length_range]
    have hnext : (heads source k)[n] = source n := by simp [heads]
    have hsplit : heads source k = heads source n ++ source n :: (heads source k).drop (n + 1) := by
      rw [← htake, ← hnext, ← List.drop_eq_getElem_cons hlt, List.take_append_drop]
    calc draw d (heads source k)
        = draw d (heads source n ++ source n :: (heads source k).drop (n + 1)) := by rw [← hsplit]
      _ = some (source n, (heads source k).drop (n + 1)) := by
        rw [draw_of_taken (hheads (Nat.le_refl n)), draw_of_free free]
  next hk =>
    have hnone := draw_of_taken (hheads (Nat.not_lt.1 hk)) []
    rwa [List.append_nil] at hnone

theorem le_size_of_injective {source : Nat → CashId} {n : Nat} (hinjective : source.Injective)
    (taken : ∀ j < n, d.tables.Carries (source j)) (free : ¬ d.tables.Carries (source n)) : n ≤ d.tables.items.size := by
  by_contra hmore
  have hnone := draw_heads taken free n
  have hlength : (heads source n).length = n := by rw [heads, List.length_map, List.length_range]
  have hnodup : (heads source n).Nodup := List.Nodup.map hinjective List.nodup_range
  obtain ⟨c, rest, hsome⟩ := exists_draw hnodup (hlength.symm ▸ Nat.not_le.1 hmore)
  rw [if_neg (Nat.lt_irrefl n), hsome] at hnone
  cases hnone

theorem firstUnused?_eq_draw (d : Draft) (candidates : List CashId) :
    firstUnused? d candidates = (draw d candidates).map fun r => candidates.length - (r.2.length + 1) := by
  have hshorter {cs rest : List CashId} {c : CashId} (h : draw d cs = some (c, rest)) : rest.length < cs.length := by
    induction cs with
    | nil => cases h
    | cons b cs ih =>
      rw [draw] at h
      split at h
      next => exact Nat.lt_succ_of_lt (ih h)
      next =>
        cases h
        exact Nat.lt_succ_self _
  unfold firstUnused?
  induction candidates with
  | nil => rfl
  | cons b cs ih =>
    rw [List.findIdx?_cons, ih, draw]
    cases hb : d.hasCashId b with
    | false => simp
    | true =>
      cases hdraw : draw d cs with
      | none => rfl
      | some r =>
        have hlt := hshorter hdraw
        have hplace : cs.length - (r.2.length + 1) + 1 = (b :: cs).length - (r.2.length + 1) := by
          rw [List.length_cons]
          omega
        exact congrArg some hplace

variable {spec : ItemSpec} {now : Instant}

theorem exec_read_unused (d : Draft) (candidates : List CashId) :
    exec (Work.read fun d => candidates.find? (!d.hasCashId ·)) d = (.ok ((draw d candidates).map (·.1)), d) := by
  rw [← find?_eq_draw]
  rfl

theorem exec_create_of_none (h : draw d candidates = none) :
    exec (create spec now candidates) d = (.error (.internal .cashIdsExhausted), d) := by
  rw [create, exec_bind, exec_read_unused, h]
  rfl

theorem exec_create_of_undated (h : draw d candidates = some (c, rest))
    (hdate : ¬ (now + spec.expirationDays * Instant.day).IsDated) :
    exec (create spec now candidates) d = (.error (.internal .expirationOutOfRange), d) := by
  simp only [create, exec_bind, exec_read_unused, h, Option.map_some, exec_orElseThrow_some, Instant.addDays?,
    if_neg hdate, exec_orElseThrow_none]

section Dated

variable (h : draw d candidates = some (c, rest)) (hdate : (now + spec.expirationDays * Instant.day).IsDated)

include h hdate

theorem exec_create_of_fault (hf : .insertItem ∈ d.base.faults) :
    exec (create spec now candidates) d = (.error (.internal (.injected .insertItem)), d) := by
  have hrefused (n : NewItem) : d.insertItem n = .error (.injected .insertItem) := by
    rw [Draft.insertItem, Draft.check, if_pos hf]
    rfl
  simp only [create, exec_bind, exec_read_unused, h, Option.map_some, exec_orElseThrow_some, Instant.addDays?,
    if_pos hdate]
  rw [exec, tryStep, hrefused]

theorem exec_create_of_dated (hf : .insertItem ∉ d.base.faults) (room : d.tables.lastItem.toNat + 1 < UInt32.size) :
    exec (create spec now candidates) d = (.ok (d.nextItem (spec.newItem c (now + spec.expirationDays * Instant.day))),
      d.enterItem (spec.newItem c (now + spec.expirationDays * Instant.day))) := by
  apply yields_create.2
  refine ⟨c, ?_, _, Instant.addDays?_eq_some_iff.2 ⟨rfl, hdate⟩, hf, room, rfl, rfl⟩
  rw [find?_eq_draw, h]
  rfl

end Dated

end Registry

structure Draft.Enters (d : Draft) (x : Item) (d' : Draft) : Prop where
  number : x.id.val.toNat = d.tables.lastItem.toNat + 1
  last : d'.tables.lastItem = x.id.val
  new : d.tables.items.get? x.id = none
  items : ∀ i, d'.tables.items.get? i = if i = x.id then some x else d.tables.items.get? i
  wallets : d'.tables.wallets = d.tables.wallets
  compartments : d'.tables.compartments = d.tables.compartments
  assets : d'.tables.assets = d.tables.assets
  base : d'.base = d.base
  claimed : d'.claimed = d.claimed
  announced : ∃ m : Message, d'.outbox.entries = d.outbox.entries ++ [(.itemStatus, m)] ∧ m.key = toString x.id ∧
    ItemEvent.decode m.value = .ok (.created x.id ⟨x.cashId, x.template, x.quantity, x.purchasedBy, x.flag⟩)

theorem Draft.enters_enterItem {d : Draft} (bounded : ∀ i x, d.tables.items.get? i = some x → i.val ≤ d.tables.lastItem)
    (room : d.tables.lastItem.toNat + 1 < UInt32.size) (n : NewItem) : d.Enters (d.nextItem n) (d.enterItem n) where
  number := toNat_nextNumber room
  last := rfl
  new := Tables.get?_next bounded room
  items _ := Table.get?_insert _ _ _ _
  wallets := rfl
  compartments := rfl
  assets := rfl
  base := rfl
  claimed := rfl
  announced := ⟨⟨toString (d.nextItem n).id, (ItemEvent.ofItem (d.nextItem n)).toJson⟩, rfl, rfl,
    ItemEvent.decode_toJson (ItemEvent.ofItem (d.nextItem n))⟩

def Draft.collided : Draft := (Draft.begin (.ofKeyCapacity 1)).enterItem ⟨⟨42⟩, ⟨5211000⟩, 1, 0, ⟨3⟩, 0⟩

def Registry.collisions : Nat → CashId
  | 0 => ⟨42⟩
  | j + 1 => ⟨.ofNat (42 + j)⟩

end CashShop
