import CashShop.Proofs.Announcement
import Mathlib.Data.List.Basic

namespace CashShop

namespace Outbox

/-- One batch for each topic of the entries, in the order in which the topics were first put, each with the messages of
its topic in the order in which these were put; and nothing is lost or doubled. -/
structure Groups (entries : List (Topic × Message)) (gs : List (Topic × List Message)) : Prop where
  topics : ∀ t, t ∈ gs.map (·.1) ↔ t ∈ entries.map (·.1)
  order : (gs.map (·.1)).Pairwise fun t u => (entries.map (·.1)).idxOf t < (entries.map (·.1)).idxOf u
  batches : ∀ g ∈ gs, g.2 = (entries.filter (·.1 = g.1)).map (·.2)
  perm : (gs.flatMap fun g => g.2.map (g.1, ·)).Perm entries

def noted (entries : List (Topic × Message)) : List Topic :=
  entries.foldl (fun ts e => if e.1 ∈ ts then ts else ts ++ [e.1]) []

def split : List Topic → List (Topic × Message) → List (Topic × List Message)
  | [], _ => []
  | t :: ts, es =>
    let parts := es.partition (·.1 = t)
    (t, parts.1.map (·.2)) :: split ts parts.2

section Firsts

variable {α : Type} [DecidableEq α]

theorem pairwise_firsts (l : List α) : (firsts l).Pairwise fun a b => l.idxOf a < l.idxOf b := by
  induction l with
  | nil => exact .nil
  | cons a l ih =>
    refine List.pairwise_cons.2 ⟨fun b hb => ?_, ?_⟩
    · have hne : b ≠ a := of_decide_eq_true (List.mem_filter.1 hb).2
      rw [List.idxOf_cons_self, List.idxOf_cons_ne _ hne.symm]
      exact Nat.succ_pos _
    · refine (ih.filter _).imp_of_mem fun {b c} hb hc hbc => ?_
      have hb' : b ≠ a := of_decide_eq_true (List.mem_filter.1 hb).2
      have hc' : c ≠ a := of_decide_eq_true (List.mem_filter.1 hc).2
      rw [List.idxOf_cons_ne _ hb'.symm, List.idxOf_cons_ne _ hc'.symm]
      exact Nat.succ_lt_succ hbc

theorem foldl_note (l ts : List α) : l.foldl (fun ts a => if a ∈ ts then ts else ts ++ [a]) ts =
    ts ++ (firsts l).filter (· ∉ ts) := by
  induction l generalizing ts with
  | nil => simp [firsts]
  | cons a l ih =>
    rw [List.foldl_cons, ih, firsts]
    by_cases ha : a ∈ ts
    · have hfilter : ((firsts l).filter (· ≠ a)).filter (· ∉ ts) = (firsts l).filter (· ∉ ts) := by
        rw [List.filter_filter]
        refine List.filter_congr fun b _ => ?_
        by_cases hb : b ∈ ts
        · simp [hb]
        · have hne : b ≠ a := fun he => hb (he ▸ ha)
          simp [hb, hne]
      simp only [ha, if_true]
      rw [List.filter_cons_of_neg (by simpa using ha), hfilter]
    · simp only [ha, if_false]
      rw [List.filter_cons_of_pos (by simpa using ha), List.filter_filter, List.append_assoc]
      simp [not_or, Bool.and_comm]

end Firsts

theorem noted_eq_topics (o : Outbox) : noted o.entries = o.topics := by
  have hfold := foldl_note (o.entries.map (·.1)) []
  rw [List.foldl_map] at hfold
  rw [noted, hfold]
  simp [topics]

theorem split_eq {ts : List Topic} (h : ts.Nodup) (es : List (Topic × Message)) :
    split ts es = ts.map fun t => (t, (es.filter (·.1 = t)).map (·.2)) := by
  induction ts generalizing es with
  | nil => rfl
  | cons t ts ih =>
    obtain ⟨ht, hts⟩ := List.nodup_cons.1 h
    have hrest : ∀ u ∈ ts, (es.filter fun e => !decide (e.1 = t)).filter (·.1 = u) = es.filter (·.1 = u) := by
      intro u hu
      rw [List.filter_filter]
      refine List.filter_congr fun e _ => ?_
      by_cases he : e.1 = u
      · have hne : u ≠ t := fun h => ht (h ▸ hu)
        simp [he, hne]
      · simp [he]
    rw [split, List.partition_eq_filter_filter, List.map_cons]
    dsimp only
    rw [ih hts]
    congr 1
    refine List.map_congr_left fun u hu => ?_
    exact congrArg (fun xs => (u, xs.map (·.2))) (hrest u hu)

theorem perm_split {ts : List Topic} {es : List (Topic × Message)} (h : ∀ e ∈ es, e.1 ∈ ts) :
    ((split ts es).flatMap fun g => g.2.map (g.1, ·)).Perm es := by
  induction ts generalizing es with
  | nil =>
    obtain rfl : es = [] := List.eq_nil_iff_forall_not_mem.2 fun e he => List.not_mem_nil (h e he)
    exact .refl _
  | cons t ts ih =>
    rw [split, List.partition_eq_filter_filter, List.flatMap_cons]
    dsimp only
    have htagged : ((es.filter (·.1 = t)).map (·.2)).map (t, ·) = es.filter (·.1 = t) := by
      rw [List.map_map]
      refine (List.map_congr_left fun e he => ?_).trans (List.map_id _)
      exact Prod.ext (of_decide_eq_true (List.mem_filter.1 he).2).symm rfl
    have hrest : ∀ e ∈ es.filter fun e => !decide (e.1 = t), e.1 ∈ ts := by
      intro e he
      obtain ⟨he, hne⟩ := List.mem_filter.1 he
      exact (List.mem_cons.1 (h e he)).resolve_left (by simpa using hne)
    rw [htagged]
    exact ((ih hrest).append_left _).trans (List.filter_append_perm _ es)

variable {o : Outbox} {gs : List (Topic × List Message)}

theorem split_topics (o : Outbox) : split o.topics o.entries = o.batches := split_eq (nodup_firsts _) o.entries

theorem map_topic_batches (o : Outbox) : o.batches.map (·.1) = o.topics := by
  rw [batches, List.map_map]
  exact List.map_id _

theorem groups_batches (o : Outbox) : Groups o.entries o.batches where
  topics t := by rw [map_topic_batches, topics, mem_firsts]
  order := by
    rw [map_topic_batches]
    exact pairwise_firsts _
  batches g hg := by
    obtain ⟨t, -, rfl⟩ := List.mem_map.1 hg
    rfl
  perm := by
    rw [← split_topics]
    exact perm_split fun e he => mem_firsts.2 (List.mem_map_of_mem he)

/-- There is one way to group entries like this. -/
theorem Groups.eq_batches (h : Groups o.entries gs) : gs = o.batches := by
  have hnodup : (gs.map (·.1)).Nodup := h.order.imp fun hlt he => by simp [he] at hlt
  have hmem (t : Topic) : t ∈ gs.map (·.1) ↔ t ∈ o.topics := by rw [h.topics, Outbox.topics, mem_firsts]
  have htopics : gs.map (·.1) = o.topics :=
    ((List.perm_ext_iff_of_nodup hnodup (nodup_firsts _)).2 hmem).eq_of_pairwise
      (fun t u _ _ h1 h2 => absurd (Nat.lt_trans h1 h2) (Nat.lt_irrefl _)) h.order (pairwise_firsts _)
  have hgs : gs = (gs.map (·.1)).map fun t => (t, o.batch t) := by
    rw [List.map_map]
    refine (List.map_id gs).symm.trans (List.map_congr_left fun g hg => ?_)
    exact Prod.ext rfl (h.batches g hg)
  rw [hgs, htopics]
  rfl

end Outbox

namespace Publisher

variable {σ : Type} {p : Publisher σ} {s s' : σ} {bs l l' : List (Topic × List Message)} {e : Fault}

inductive Carries (p : Publisher σ) : σ → List (Topic × List Message) → σ → Prop where
  | nil (s : σ) : Carries p s [] s
  | cons {s m s' : σ} {b : Topic × List Message} {bs : List (Topic × List Message)}
      (accepted : p b.1 b.2 s = (.ok (), m)) (rest : Carries p m bs s') : Carries p s (b :: bs) s'

theorem carries_nil_iff : p.Carries s [] s' ↔ s = s' := by
  constructor
  · rintro ⟨⟩
    rfl
  · rintro rfl
    exact .nil s

theorem carries_cons_iff {b : Topic × List Message} :
    p.Carries s (b :: bs) s' ↔ ∃ m, p b.1 b.2 s = (.ok (), m) ∧ p.Carries m bs s' := by
  constructor
  · intro h
    cases h with
    | cons accepted rest => exact ⟨_, accepted, rest⟩
  · rintro ⟨m, accepted, rest⟩
    exact .cons accepted rest

def logged (p : Publisher σ) : Publisher (σ × List (Topic × List Message)) := fun t ms r =>
  ((p t ms r.1).1, (p t ms r.1).2, r.2 ++ [(t, ms)])

theorem publishAll_logged (bs : List (Topic × List Message)) (s : σ) (l : List (Topic × List Message)) :
    (p.logged.publishAll bs (s, l)).1 = (p.publishAll bs s).1 ∧
      (p.logged.publishAll bs (s, l)).2.1 = (p.publishAll bs s).2 := by
  induction bs generalizing s l with
  | nil => exact ⟨rfl, rfl⟩
  | cons b bs ih =>
    simp only [publishAll, logged]
    rcases p b.1 b.2 s with ⟨_ | _, m⟩
    · exact ⟨rfl, rfl⟩
    · exact ih m _

/-- If everything is published, then all batches have been accepted, and each has been tried once. -/
theorem publishAll_logged_eq_ok :
    p.logged.publishAll bs (s, l) = (.ok (), s', l') ↔ p.Carries s bs s' ∧ l' = l ++ bs := by
  induction bs generalizing s l with
  | nil => simp [publishAll, carries_nil_iff, eq_comm (a := l)]
  | cons b bs ih =>
    rw [carries_cons_iff]
    simp only [publishAll, logged]
    rcases p b.1 b.2 s with ⟨_ | _, m⟩
    · simp
    · simpa using ih (s := m) (l := l ++ [b])

/-- If something is refused, then all before it has been accepted, and nothing after it has been tried. -/
theorem publishAll_logged_eq_error : p.logged.publishAll bs (s, l) = (.error e, s', l') ↔ ∃ done b rest m,
    bs = done ++ b :: rest ∧ p.Carries s done m ∧ p b.1 b.2 m = (.error e, s') ∧ l' = l ++ done ++ [b] := by
  induction bs generalizing s l with
  | nil => simp [publishAll]
  | cons b bs ih =>
    simp only [publishAll, logged]
    rcases hb : p b.1 b.2 s with ⟨e' | _, m⟩
    ·
      constructor
      · rintro ⟨⟩
        exact ⟨[], b, bs, s, rfl, .nil s, hb, by simp⟩
      · rintro ⟨_ | ⟨c, done⟩, b', rest, n, hbs, hdone, hc, rfl⟩
        · obtain ⟨rfl, rfl⟩ := List.cons.inj hbs
          obtain rfl := carries_nil_iff.1 hdone
          rw [hb] at hc
          cases hc
          simp
        · obtain ⟨rfl, -⟩ := List.cons.inj hbs
          obtain ⟨m', accepted, -⟩ := carries_cons_iff.1 hdone
          rw [hb] at accepted
          cases accepted
    ·
      refine ih.trans ⟨?_, ?_⟩
      · rintro ⟨done, b', rest, n, rfl, hdone, hc, rfl⟩
        exact ⟨b :: done, b', rest, n, rfl, .cons hb hdone, hc, by simp⟩
      · rintro ⟨_ | ⟨c, done⟩, b', rest, n, hbs, hdone, hc, rfl⟩
        · obtain ⟨rfl, -⟩ := List.cons.inj hbs
          obtain rfl := carries_nil_iff.1 hdone
          rw [hb] at hc
          cases hc
        · obtain ⟨rfl, rfl⟩ := List.cons.inj hbs
          obtain ⟨m', accepted, hdone⟩ := carries_cons_iff.1 hdone
          rw [hb] at accepted
          cases accepted
          exact ⟨done, b', rest, n, rfl, hdone, hc, by simp⟩

def sift (p : Publisher σ) : List Topic → List (Topic × Message) → σ → Except Fault Unit × σ
  | [], _, s => (.ok (), s)
  | t :: ts, es, s =>
    let parts := es.partition (·.1 = t)
    match p t (parts.1.map (·.2)) s with
    | (.ok (), s') => sift p ts parts.2 s'
    | (.error e, s') => (.error e, s')

theorem publishAll_split (ts : List Topic) (es : List (Topic × Message)) (s : σ) :
    p.publishAll (Outbox.split ts es) s = p.sift ts es s := by
  induction ts generalizing es s with
  | nil => rfl
  | cons t ts ih =>
    simp only [Outbox.split, publishAll, sift]
    rcases p t _ s with ⟨_ | _, m⟩
    · rfl
    · exact ih _ m

end Publisher

/-- Whatever has been put into an outbox and whatever the transport does: the messages are grouped by topic in the one
stable way, and to flush the outbox is to take the topics out of it in the order in which they were first met. If that
succeeds, each batch has been published once and in its turn; if it fails, the batches before one of them have been
published, this one has been refused with the error, and those after it have not been tried. -/
theorem Outbox.flush_is_stable_grouping {σ : Type} (o : Outbox) (p : Publisher σ) (s : σ)
    (l : List (Topic × List Message)) :
    (∀ gs, Groups o.entries gs ↔ gs = o.batches) ∧
    o.flush p s = p.sift (noted o.entries) o.entries s ∧
    o.flush p s = ((o.flush p.logged (s, l)).1, (o.flush p.logged (s, l)).2.1) ∧
    (∀ s' l', o.flush p.logged (s, l) = (.ok (), s', l') ↔ p.Carries s o.batches s' ∧ l' = l ++ o.batches) ∧
    ∀ e s' l', o.flush p.logged (s, l) = (.error e, s', l') ↔ ∃ done b rest m, o.batches = done ++ b :: rest ∧
      p.Carries s done m ∧ p b.1 b.2 m = (.error e, s') ∧ l' = l ++ done ++ [b] := by
  refine ⟨fun gs => ⟨Groups.eq_batches, fun h => h ▸ o.groups_batches⟩, ?_, ?_,
    fun s' l' => Publisher.publishAll_logged_eq_ok, fun e s' l' => Publisher.publishAll_logged_eq_error⟩
  · rw [noted_eq_topics, ← Publisher.publishAll_split, split_topics]
    rfl
  · obtain ⟨hresult, hstate⟩ := Publisher.publishAll_logged (p := p) o.batches s l
    exact Prod.ext hresult.symm hstate.symm

example (m n k : Message) : Outbox.batches ⟨[(.walletStatus, m), (.shopStatus, n), (.walletStatus, k)]⟩ =
    [(.walletStatus, [m, k]), (.shopStatus, [n])] := rfl

end CashShop
