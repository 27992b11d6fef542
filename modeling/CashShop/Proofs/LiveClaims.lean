import CashShop.Proofs.Reservation

namespace CashShop.Reservations

inductive Operation where
  | reserve (i : ItemId) (claimant : CharacterId) (t : Option TransactionId) (now : Instant)
  | isReserved (i : ItemId) (now : Instant)
  | reservation (i : ItemId) (now : Instant)
  | releaseMatching (i : ItemId) (t : Option TransactionId) (now : Instant)
  | release (i : ItemId)
  | sweep (now : Instant)
deriving DecidableEq

namespace Operation

def reading? : Operation → Option Instant
  | reserve _ _ _ now => some now
  | isReserved _ now => some now
  | reservation _ now => some now
  | releaseMatching _ _ now => some now
  | release _ => none
  | sweep now => some now

def concerns (i : ItemId) : Operation → Bool
  | reserve j _ _ _ => j = i
  | isReserved j _ => j = i
  | reservation j _ => j = i
  | releaseMatching j _ _ => j = i
  | release j => j = i
  | sweep _ => false

def tidies : Operation → Bool
  | isReserved _ _ => true
  | sweep _ => true
  | _ => false

end Operation

def InOrder (ops : List Operation) : Prop := (ops.filterMap Operation.reading?).Pairwise (· ≤ ·)

instance (ops : List Operation) : Decidable (InOrder ops) :=
  inferInstanceAs (Decidable ((ops.filterMap Operation.reading?).Pairwise (· ≤ ·)))

theorem InOrder.sublist {xs ys : List Operation} (h : InOrder ys) (hs : xs.Sublist ys) : InOrder xs :=
  List.Pairwise.sublist (hs.filterMap _) h

inductive Response where
  | granted (yes : Bool)
  | reserved (yes : Bool)
  | standing (r : Option Reservation)
  | correlated (c : Correlation)
deriving DecidableEq

def perform (rs : Reservations) : Operation → Option Response × Reservations
  | .reserve i b t now => (some (.granted (rs.reserve i b t now).1), (rs.reserve i b t now).2)
  | .isReserved i now => (some (.reserved (rs.isReserved i now).1), (rs.isReserved i now).2)
  | .reservation i now => (some (.standing (rs.live? i now)), rs)
  | .releaseMatching i t now => (some (.correlated (rs.releaseMatching i t now).1), (rs.releaseMatching i t now).2)
  | .release i => (none, rs.release i)
  | .sweep now => (none, (rs.sweep now).2)

/-- Of each item the claim that was granted last and has not been released. -/
structure Book where
  ttl : Int
  last : ItemId → Option Reservation

namespace Book

def live? (k : Book) (i : ItemId) (now : Instant) : Option Reservation :=
  (k.last i).filter fun r => ¬ r.expiresAt ≤ now

def set (k : Book) (i : ItemId) (r? : Option Reservation) : Book :=
  { k with last := fun j => if j = i then r? else k.last j }

/-- Both the claim and the answer name a transaction, and not the same one. -/
def opposed (r : Reservation) (t : Option TransactionId) : Bool :=
  r.transaction.isSome && t.isSome && decide (r.transaction ≠ t)

/-- A claim is granted if none is live, and lasts for the time to live; an answer removes the live claim unless the two
are opposed; a claim is removed for no other reason than a release. -/
def perform (k : Book) : Operation → Option Response × Book
  | .reserve i b t now =>
    if (k.live? i now).isSome then (some (.granted false), k)
    else (some (.granted true), k.set i (some ⟨b, t, now + k.ttl⟩))
  | .isReserved i now => (some (.reserved (k.live? i now).isSome), k)
  | .reservation i now => (some (.standing (k.live? i now)), k)
  | .releaseMatching i t now =>
    match k.live? i now with
    | none => (some (.correlated .missing), k)
    | some r =>
      if opposed r t then (some (.correlated (.mismatched r)), k) else (some (.correlated (.matched r)), k.set i none)
  | .release i => (none, k.set i none)
  | .sweep _ => (none, k)

end Book

def book (rs : Reservations) : Book := ⟨rs.ttl, rs.entries.get?⟩

def thin {α : Type} : List Bool → List α → List α
  | keep :: ks, x :: xs => if keep then x :: thin ks xs else thin ks xs
  | _, xs => xs

section Transcript

variable {σ : Type} (step : σ → Operation → Option Response × σ)

def transcript : σ → List Operation → List (Operation × Option Response)
  | _, [] => []
  | s, x :: xs => (x, (step s x).1) :: transcript (step s x).2 xs

def final (s : σ) (ops : List Operation) : σ := ops.foldl (fun s x => (step s x).2) s

variable {step} {s : σ} {ops : List Operation}

theorem transcript_eq_append {l l' : List (Operation × Option Response)} (h : transcript step s ops = l ++ l') :
    ∃ xs ys, ops = xs ++ ys ∧ transcript step s xs = l ∧ transcript step (final step s xs) ys = l' := by
  induction l generalizing s ops with
  | nil => exact ⟨[], ops, rfl, rfl, h⟩
  | cons e l ih =>
    cases ops with
    | nil => cases h
    | cons x rest =>
      obtain ⟨rfl, hrest⟩ := List.cons.inj h
      obtain ⟨xs, ys, rfl, rfl, hys⟩ := ih hrest
      exact ⟨x :: xs, ys, rfl, rfl, hys⟩

theorem transcript_eq_cons {e : Operation × Option Response} {l : List (Operation × Option Response)}
    (h : transcript step s ops = e :: l) :
    ∃ xs, ops = e.1 :: xs ∧ (step s e.1).1 = e.2 ∧ transcript step (step s e.1).2 xs = l := by
  cases ops with
  | nil => cases h
  | cons x xs =>
    obtain ⟨rfl, hl⟩ := List.cons.inj h
    exact ⟨xs, rfl, rfl, hl⟩

theorem transcript_thin {keep : List Bool}
    (h : ∀ p ∈ ops.zip keep, p.2 = true ∨ ∀ s, (step s p.1).2 = s) :
    transcript step s (thin keep ops) = thin keep (transcript step s ops) := by
  induction ops generalizing s keep with
  | nil => cases keep <;> rfl
  | cons x ops ih =>
    cases keep with
    | nil => rfl
    | cons k keep =>
      have hrest (s : σ) : transcript step s (thin keep ops) = thin keep (transcript step s ops) :=
        ih fun p hp => h p (List.mem_cons_of_mem _ hp)
      cases k with
      | true => simp [thin, transcript, hrest]
      | false =>
        have hsame : (step s x).2 = s := (h (x, false) List.mem_cons_self).elim nofun fun hs => hs s
        simp [thin, transcript, hrest, hsame]

end Transcript

namespace Book

variable {k : Book} {i j : ItemId} {r : Reservation} {now later : Instant} {x : Operation} {ops : List Operation}

theorem live?_eq_some_iff : k.live? i now = some r ↔ k.last i = some r ∧ now < r.expiresAt := by
  rw [live?, Option.filter_eq_some_iff]
  simp

theorem live?_eq_none_iff : k.live? i now = none ↔ ∀ r, k.last i = some r → r.expiresAt ≤ now := by
  rw [live?, Option.filter_eq_none_iff]
  simp

theorem live?_later (h : k.live? i now = none) (hle : now ≤ later) : k.live? i later = none :=
  live?_eq_none_iff.2 fun r hr => Int.le_trans (live?_eq_none_iff.1 h r hr) hle

@[simp] theorem live?_set (k : Book) (i j : ItemId) (r? : Option Reservation) (now : Instant) :
    (k.set i r?).live? j now = if j = i then r?.filter (fun r => ¬ r.expiresAt ≤ now) else k.live? j now := by
  by_cases hj : j = i <;> simp [live?, set, hj]

theorem perform_of_tidies (h : x.tidies = true) (k : Book) : (k.perform x).2 = k := by
  cases x <;> first | rfl | cases h

/-- A call on one item reads and writes the claim on that item alone. -/
theorem perform_congr {k' : Book} (ht : k.ttl = k'.ttl) (hi : k.last i = k'.last i) (hx : x.concerns i = true) :
    (k.perform x).1 = (k'.perform x).1 ∧ (k.perform x).2.last i = (k'.perform x).2.last i := by
  have hl (now : Instant) : k.live? i now = k'.live? i now := by rw [live?, live?, hi]
  cases x with
  | sweep now => cases hx
  | reserve j b t now =>
    obtain rfl : j = i := of_decide_eq_true hx
    simp only [perform, hl, ht]
    split <;> simp [set, hi]
  | releaseMatching j t now =>
    obtain rfl : j = i := of_decide_eq_true hx
    simp only [perform, hl]
    split
    · exact ⟨rfl, hi⟩
    · split <;> simp [set, hi]
  | isReserved j now | reservation j now | release j =>
    obtain rfl : j = i := of_decide_eq_true hx
    simp [perform, set, hl, hi]

theorem last_perform_of_not_concerns (k : Book) (hx : x.concerns i = false) : (k.perform x).2.last i = k.last i := by
  cases x with
  | sweep now => rfl
  | reserve j b t now =>
    have hj : ¬ i = j := fun he => of_decide_eq_false hx he.symm
    simp only [perform]
    split <;> simp [set, hj]
  | releaseMatching j t now =>
    have hj : ¬ i = j := fun he => of_decide_eq_false hx he.symm
    simp only [perform]
    split
    · rfl
    · split <;> simp [set, hj]
  | isReserved j now | reservation j now => rfl
  | release j =>
    have hj : ¬ i = j := fun he => of_decide_eq_false hx he.symm
    simp [perform, set, hj]

@[simp] theorem ttl_perform (k : Book) (x : Operation) : (k.perform x).2.ttl = k.ttl := by
  cases x with
  | reserve i b t now =>
    simp only [perform]
    split <;> rfl
  | releaseMatching i t now =>
    simp only [perform]
    split
    · rfl
    · split <;> rfl
  | isReserved i now | reservation i now | release i | sweep now => rfl

theorem transcript_filter {k' : Book} (ht : k.ttl = k'.ttl) (hi : k.last i = k'.last i) :
    (transcript perform k ops).filter (·.1.concerns i) = transcript perform k' (ops.filter (·.concerns i)) := by
  induction ops generalizing k k' with
  | nil => rfl
  | cons x ops ih =>
    cases hx : x.concerns i with
    | false =>
      have hn : (k.perform x).2.last i = k'.last i := (last_perform_of_not_concerns k hx).trans hi
      simpa [transcript, hx] using ih ((ttl_perform k x).trans ht) hn
    | true =>
      obtain ⟨hr, hn⟩ := perform_congr ht hi hx
      have htx : (k.perform x).2.ttl = (k'.perform x).2.ttl := by simpa using ht
      simpa [transcript, hx, hr] using ih htx hn

def Ends (i : ItemId) (r : Reservation) (e : Operation × Option Response) : Prop :=
  e = (.release i, none) ∨ ∃ t now, e = (.releaseMatching i t now, some (.correlated (.matched r)))

theorem last_perform (hr : k.last i = some r) (x : Operation) :
    (k.perform x).2.last i = some r ∨ (∃ now, x.reading? = some now ∧ r.expiresAt ≤ now) ∨
      Ends i r (x, (k.perform x).1) := by
  cases hx : x.concerns i with
  | false => exact .inl ((last_perform_of_not_concerns k hx).trans hr)
  | true =>
    cases x with
    | sweep now => cases hx
    | isReserved j now | reservation j now => exact .inl hr
    | release j =>
      obtain rfl : j = i := of_decide_eq_true hx
      exact .inr (.inr (.inl rfl))
    | reserve j b t now =>
      obtain rfl : j = i := of_decide_eq_true hx
      cases hl : k.live? j now with
      | some r' => exact .inl (by simpa [perform, hl] using hr)
      | none => exact .inr (.inl ⟨now, rfl, live?_eq_none_iff.1 hl r hr⟩)
    | releaseMatching j t now =>
      obtain rfl : j = i := of_decide_eq_true hx
      cases hl : k.live? j now with
      | none => exact .inl (by simpa [perform, hl] using hr)
      | some r' =>
        obtain rfl : r' = r := Option.some.inj ((live?_eq_some_iff.1 hl).1.symm.trans hr)
        cases ho : opposed r' t with
        | true => exact .inl (by simpa [perform, hl, ho] using hr)
        | false => exact .inr (.inr (.inr ⟨t, now, by simp [perform, hl, ho]⟩))

theorem last_final (hr : k.last i = some r) (ops : List Operation) :
    (final perform k ops).last i = some r ∨ (∃ now ∈ ops.filterMap Operation.reading?, r.expiresAt ≤ now) ∨
      ∃ e ∈ transcript perform k ops, Ends i r e := by
  induction ops generalizing k with
  | nil => exact .inl hr
  | cons x ops ih =>
    obtain hn | ⟨now, hx, hexp⟩ | hend := last_perform hr x
    · obtain h | ⟨now, hm, hexp⟩ | ⟨e, hm, hend⟩ := ih hn
      · exact .inl h
      · exact .inr (.inl ⟨now, (List.Sublist.filterMap _ (List.sublist_cons_self x ops)).subset hm, hexp⟩)
      · exact .inr (.inr ⟨e, List.mem_cons_of_mem _ hm, hend⟩)
    · exact .inr (.inl ⟨now, List.mem_filterMap.2 ⟨x, List.mem_cons_self, hx⟩, hexp⟩)
    · exact .inr (.inr ⟨_, List.mem_cons_self, hend⟩)

theorem of_granted {b : CharacterId} {t : Option TransactionId}
    (h : (k.perform (.reserve i b t now)).1 = some (.granted true)) :
    k.live? i now = none ∧ (k.perform (.reserve i b t now)).2.last i = some ⟨b, t, now + k.ttl⟩ := by
  cases hl : k.live? i now with
  | some r => simp [perform, hl] at h
  | none => simp [perform, hl, set]

end Book

variable {rs : Reservations} {k : Book} {now later : Instant} {x : Operation} {i : ItemId} {r : Reservation}
  {t : Option TransactionId} {ops : List Operation}

/-- From an instant on, the cache and the book have the same claims live. -/
structure Agrees (rs : Reservations) (k : Book) (now : Instant) : Prop where
  ttl : rs.ttl = k.ttl
  live : ∀ i later, now ≤ later → rs.live? i later = k.live? i later

theorem agrees_book (rs : Reservations) (now : Instant) : rs.Agrees rs.book now where
  ttl := rfl
  live i later _ := by simp [live?, Book.live?, book, Reservation.isLive]

theorem Agrees.mono (h : rs.Agrees k now) (hle : now ≤ later) : rs.Agrees k later :=
  ⟨h.ttl, fun i n hn => h.live i n (Int.le_trans hle hn)⟩

theorem Agrees.release (h : rs.Agrees k now) (i : ItemId) : (rs.release i).Agrees (k.set i none) now where
  ttl := h.ttl
  live j n hn := by simp [h.live j n hn]

theorem Agrees.release_of_free (h : rs.Agrees k now) (hl : rs.live? i now = none) : (rs.release i).Agrees k now where
  ttl := h.ttl
  live j n hn := by
    rw [live?_release]
    split
    · rename_i hj
      rw [h.live i now (Int.le_refl _)] at hl
      rw [hj, Book.live?_later hl hn]
    · exact h.live j n hn

theorem Agrees.enter (h : rs.Agrees k now) (i : ItemId) (b : CharacterId) (t : Option TransactionId) :
    (rs.enter i b t now).Agrees (k.set i (some ⟨b, t, now + k.ttl⟩)) now where
  ttl := h.ttl
  live j n hn := by
    rw [Book.live?_set, live?, get?_enter, h.ttl]
    split
    · simp [Reservation.isLive]
    · exact h.live j n hn

theorem Agrees.sweep (h : rs.Agrees k now) : (rs.sweep now).2.Agrees k now where
  ttl := h.ttl
  live i n hn := by
    rw [← h.live i n hn]
    apply Option.ext
    intro r
    rw [live?_eq_some_iff, live?_eq_some_iff, get?_sweep, Option.filter_eq_some_iff]
    simp only [Reservation.isLive, decide_eq_true_eq]
    constructor
    · rintro ⟨⟨hr, -⟩, hlt⟩
      exact ⟨hr, hlt⟩
    · rintro ⟨hr, hlt⟩
      exact ⟨⟨hr, Int.lt_of_le_of_lt hn hlt⟩, hlt⟩

theorem answeredBy_eq (r : Reservation) (t : Option TransactionId) :
    Reservation.answeredBy r t = !Book.opposed r t := by
  unfold Reservation.answeredBy Book.opposed
  cases r.transaction <;> cases t <;> simp

/-- A call gets the same response from the cache as from the book, and leaves the two in agreement. -/
theorem perform_of_agrees (h : rs.Agrees k now) (hx : ∀ n, x.reading? = some n → now ≤ n) :
    (rs.perform x).1 = (k.perform x).1 ∧ (rs.perform x).2.Agrees (k.perform x).2 (x.reading?.getD now) := by
  cases x with
  | release i => exact ⟨rfl, h.release i⟩
  | sweep n => exact ⟨rfl, (h.mono (hx n rfl)).sweep⟩
  | reservation i n => exact ⟨by simp [Reservations.perform, Book.perform, h.live i n (hx n rfl)], h.mono (hx n rfl)⟩
  | isReserved i n =>
    have hn := h.mono (hx n rfl)
    have hl := hn.live i n (Int.le_refl _)
    cases hi : rs.live? i n with
    | some r =>
      simpa [Reservations.perform, Book.perform, Operation.reading?, isReserved_of_live hi, ← hl, hi] using hn
    | none =>
      simpa [Reservations.perform, Book.perform, Operation.reading?, isReserved_of_free hi, ← hl, hi]
        using hn.release_of_free hi
  | reserve i b t n =>
    have hn := h.mono (hx n rfl)
    have hl := hn.live i n (Int.le_refl _)
    cases hi : rs.live? i n with
    | some r => simpa [Reservations.perform, Book.perform, Operation.reading?, reserve_of_live hi, ← hl, hi] using hn
    | none =>
      simpa [Reservations.perform, Book.perform, Operation.reading?, reserve_of_free hi, ← hl, hi]
        using hn.enter i b t
  | releaseMatching i t n =>
    have hn := h.mono (hx n rfl)
    have hl := hn.live i n (Int.le_refl _)
    cases hi : rs.live? i n with
    | none =>
      simpa [Reservations.perform, Book.perform, Operation.reading?, releaseMatching_of_free hi, ← hl, hi]
        using hn.release_of_free hi
    | some r =>
      cases ho : Book.opposed r t with
      | true =>
        have ha : Reservation.answeredBy r t = false := by rw [answeredBy_eq, ho]; rfl
        simpa [Reservations.perform, Book.perform, Operation.reading?, releaseMatching_of_opposed hi ha, ← hl, hi, ho]
          using hn
      | false =>
        have ha : Reservation.answeredBy r t = true := by rw [answeredBy_eq, ho]; rfl
        simpa [Reservations.perform, Book.perform, Operation.reading?, releaseMatching_of_answered hi ha, ← hl, hi, ho]
          using hn.release i

theorem transcript_of_agrees (h : rs.Agrees k now) (hch : InOrder ops)
    (hnow : ∀ n ∈ ops.filterMap Operation.reading?, now ≤ n) :
    transcript perform rs ops = transcript Book.perform k ops ∧
      ∀ later, (∀ n ∈ ops.filterMap Operation.reading?, n ≤ later) → now ≤ later →
        (final perform rs ops).Agrees (final Book.perform k ops) later := by
  -- The agreement is carried along from the latest reading on, and what it says of earlier instants is given up.
  induction ops generalizing rs k now with
  | nil => exact ⟨rfl, fun later _ hle => h.mono hle⟩
  | cons x ops ih =>
    have hx : ∀ n, x.reading? = some n → now ≤ n := fun n hn => hnow n (List.mem_filterMap.2 ⟨x, by simp, hn⟩)
    obtain ⟨hr, hagree⟩ := perform_of_agrees h hx
    have htail : InOrder ops := hch.sublist (List.sublist_cons_self x ops)
    have hnext : ∀ n ∈ ops.filterMap Operation.reading?, x.reading?.getD now ≤ n := by
      cases hn : x.reading? with
      | none => exact fun n hm => hnow n (by simpa only [List.filterMap_cons_none hn] using hm)
      | some n =>
        rw [InOrder, List.filterMap_cons_some hn] at hch
        exact (List.pairwise_cons.1 hch).1
    obtain ⟨hrest, hfinal⟩ := ih hagree htail hnext
    refine ⟨by simp [transcript, hr, hrest], fun later hlater hle => ?_⟩
    refine hfinal later (fun n hm => hlater n ((List.Sublist.filterMap _ (List.sublist_cons_self x ops)).subset hm)) ?_
    cases hn : x.reading? with
    | none => exact hle
    | some n => exact hlater n (List.mem_filterMap.2 ⟨x, by simp, hn⟩)

theorem InOrder.exists_le (h : InOrder ops) : ∃ now, ∀ n ∈ ops.filterMap Operation.reading?, now ≤ n := by
  unfold InOrder at h
  cases hr : ops.filterMap Operation.reading? with
  | nil => exact ⟨0, by simp⟩
  | cons n ns =>
    rw [hr] at h
    exact ⟨n, fun m hm => (List.mem_cons.1 hm).elim (fun he => Int.le_of_eq he.symm) ((List.pairwise_cons.1 h).1 m)⟩

theorem transcript_eq_book (rs : Reservations) (h : InOrder ops) :
    transcript perform rs ops = transcript Book.perform rs.book ops := by
  obtain ⟨now, hnow⟩ := h.exists_le
  exact (transcript_of_agrees (rs.agrees_book now) h hnow).1

theorem live?_final (rs : Reservations) (h : InOrder ops) (hnow : ∀ n ∈ ops.filterMap Operation.reading?, n ≤ now)
    (i : ItemId) : (final perform rs ops).live? i now = (final Book.perform rs.book ops).live? i now := by
  obtain ⟨first, hfirst⟩ := h.exists_le
  have hle : ∀ n ∈ ops.filterMap Operation.reading?, min first now ≤ n := fun n hn =>
    Int.le_trans (Int.min_le_left first now) (hfirst n hn)
  have hagree := (transcript_of_agrees (rs.agrees_book (min first now)) h hle).2 now hnow (Int.min_le_right first now)
  exact hagree.live i now (Int.le_refl now)

@[simp] theorem Book.ttl_final (k : Book) (ops : List Operation) : (final Book.perform k ops).ttl = k.ttl := by
  induction ops generalizing k with
  | nil => rfl
  | cons x ops ih => exact (ih _).trans (k.ttl_perform x)

theorem Book.ended_between {b b' : CharacterId} {t t' : Option TransactionId} {now' : Instant}
    {before mid behind : List (Operation × Option Response)} (h : InOrder ops)
    (ht : transcript Book.perform k ops = before ++ (.reserve i b t now, some (.granted true)) ::
      (mid ++ (.reserve i b' t' now', some (.granted true)) :: behind)) :
    now + k.ttl ≤ now' ∨ ∃ e ∈ mid, Book.Ends i ⟨b, t, now + k.ttl⟩ e := by
  obtain ⟨xs, ys, rfl, -, ht⟩ := transcript_eq_append ht
  obtain ⟨zs, rfl, hg, ht⟩ := transcript_eq_cons ht
  obtain ⟨ms, us, rfl, rfl, hu⟩ := transcript_eq_append ht
  obtain ⟨vs, rfl, hg', -⟩ := transcript_eq_cons hu
  have hstand := (Book.of_granted hg).2
  rw [Book.ttl_final] at hstand
  obtain hlast | ⟨n, hn, hexp⟩ | hend := Book.last_final hstand ms
  · exact .inl (Book.live?_eq_none_iff.1 (Book.of_granted hg').1 _ hlast)
  · have hord : InOrder (ms ++ .reserve i b' t' now' :: vs) :=
      h.sublist ((List.sublist_cons_self _ _).trans (List.sublist_append_right _ _))
    rw [InOrder, List.filterMap_append, List.pairwise_append] at hord
    exact .inl (Int.le_trans hexp (hord.2.2 n hn now' (by simp [Operation.reading?])))
  · exact .inr hend

theorem thin_sublist {α : Type} (keep : List Bool) (xs : List α) : (thin keep xs).Sublist xs := by
  induction xs generalizing keep with
  | nil => cases keep <;> exact .slnil
  | cons x xs ih =>
    cases keep with
    | nil => exact .refl _
    | cons k keep => cases k <;> simp [thin, ih]

/-- While the clock does not go back, the calls on the cache are answered as by the book of the claims granted last and
not released, for which the clock strikes out nothing, and the same claims are live in both. So an item is claimed a
second time only after its first claim has expired or has been ended; what is answered on an item depends on the calls
on that item alone; and calls that at most clear away what has expired can be made or left out anywhere, without any
other response changing. -/
theorem answers_as_book (rs : Reservations) {ops : List Operation} (h : InOrder ops) :
    transcript perform rs ops = transcript Book.perform rs.book ops ∧
    (∀ now, (∀ n ∈ ops.filterMap Operation.reading?, n ≤ now) →
      ∀ i, (final perform rs ops).live? i now = (final Book.perform rs.book ops).live? i now) ∧
    (∀ before i b t now mid b' t' now' behind,
      transcript perform rs ops = before ++ (.reserve i b t now, some (.granted true)) ::
        (mid ++ (.reserve i b' t' now', some (.granted true)) :: behind) →
      now + rs.ttl ≤ now' ∨ ∃ e ∈ mid, Book.Ends i ⟨b, t, now + rs.ttl⟩ e) ∧
    (∀ i, (transcript perform rs ops).filter (·.1.concerns i) = transcript perform rs (ops.filter (·.concerns i))) ∧
    ∀ keep : List Bool, (∀ p ∈ ops.zip keep, p.2 = true ∨ p.1.tidies = true) →
      transcript perform rs (thin keep ops) = thin keep (transcript perform rs ops) := by
  have heq := transcript_eq_book rs h
  refine ⟨heq, fun now hnow i => live?_final rs h hnow i, ?_, fun i => ?_, fun keep hkeep => ?_⟩
  · rintro before i b t now mid b' t' now' behind ht
    exact Book.ended_between h (heq.symm.trans ht)
  · rw [heq, transcript_eq_book rs (h.sublist List.filter_sublist)]
    exact Book.transcript_filter rfl rfl
  · rw [heq, transcript_eq_book rs (h.sublist (thin_sublist keep ops))]
    exact transcript_thin fun p hp => (hkeep p hp).imp_right Book.perform_of_tidies

def contest : List Operation := [
  .reserve ⟨1⟩ ⟨7⟩ (some ⟨.ofNat 1⟩) 0,
  .releaseMatching ⟨1⟩ (some ⟨.ofNat 2⟩) 10,
  .reserve ⟨1⟩ ⟨8⟩ none 299999,
  .sweep 300000,
  .reserve ⟨1⟩ ⟨8⟩ none 300000]

theorem answers_as_book_contest : InOrder contest ∧
    transcript perform (.ofTtl 300000) (thin [true, true, true, false] contest) =
      [(.reserve ⟨1⟩ ⟨7⟩ (some ⟨.ofNat 1⟩) 0, some (.granted true)),
        (.releaseMatching ⟨1⟩ (some ⟨.ofNat 2⟩) 10,
          some (.correlated (.mismatched ⟨⟨7⟩, some ⟨.ofNat 1⟩, 300000⟩))),
        (.reserve ⟨1⟩ ⟨8⟩ none 299999, some (.granted false)),
        (.reserve ⟨1⟩ ⟨8⟩ none 300000, some (.granted true))] := by
  have h : InOrder contest := by decide
  refine ⟨h, ((answers_as_book (.ofTtl 300000) h).2.2.2.2 [true, true, true, false] (by decide)).trans ?_⟩
  decide

end CashShop.Reservations
