import CashShop.Command
import CashShop.Proofs.Consumption

namespace CashShop

namespace Replay

def record? (line : List Char) : Option (Topic × Message) :=
  match readLine line with
  | .ok r => r
  | .error _ => none

theorem readLines_eq_ok {ls : List (List Char)} {k : Nat} {records : List (Topic × Message)}
    (h : readLines k ls = .ok records) : records = ls.filterMap record? := by
  induction ls generalizing k records with
  | nil =>
    cases h
    rfl
  | cons l ls ih =>
    rw [readLines] at h
    cases hl : readLine l with
    | error e =>
      rw [hl] at h
      cases h
    | ok r =>
      rw [hl] at h
      cases hls : readLines (k + 1) ls with
      | error e =>
        rw [hls] at h
        cases h
      | ok rs =>
        rw [hls] at h
        have hrecord : record? l = r := by rw [record?, hl]
        obtain rfl : r.toList ++ rs = records := by simpa [Except.map] using h
        rw [ih hls, List.filterMap_cons, hrecord]
        cases r <;> rfl

def messages (content : String) (t : Topic) : List Message :=
  messagesTo t ((lines content.toList).filterMap record?)

theorem messages_of_parse {content : String} {records : List (Topic × Message)} (h : parse content = .ok records)
    (t : Topic) : messagesTo t records = messages content t := by
  rw [messages, readLines_eq_ok h]

end Replay

def Config.ring (c : Config) : Nat := (max c.settings.consumerBuffer 1).nextPowerOfTwo

namespace Session

variable {i : Nat} {t : Topic} {content : String} {records : List (Topic × Message)} {turns : List Turn} {c : Config}
  {ask : String → Remote.Exchange} {ambient : Nat → Ambient}

def played (c : Config) (ask : String → Remote.Exchange) (ambient : Nat → Ambient) (turns : List Turn) : Session :=
  (start c.settings.consumerBuffer (.ofConfig c ask)).run ambient turns

def reportedLost (c : Config) (ask : String → Remote.Exchange) (ambient : Nat → Ambient) (i : Nat) (turns : List Turn) :
    Nat := (start c.settings.consumerBuffer (.ofConfig c ask)).lost ambient i turns

/-- The messages of the file are published one after the other; when the consumers take their turns is left open. -/
def Plays (turns : List Turn) (content : String) : Prop := Replay.parse content = .ok (turns.filterMap Turn.record?)

def Drained (n : Session) : Prop := ∀ i < Topic.inbound.length, (n.bus.recv i).1 = .empty

/-- No message is published, and each consumer has more than `k` turns. -/
structure Sufficient (k : Nat) (turns : List Turn) : Prop where
  polls : ∀ x ∈ turns, x.record? = none
  count : ∀ i < Topic.inbound.length, k < turns.count (.poll i)

/-- Whichever turns the consumers take until they have nothing left to take, they have handed on each message of the
file once, and those of a topic in the order of their lines. -/
def LosesNothing (c : Config) (ask : String → Remote.Exchange) (ambient : Nat → Ambient) (content : String) : Prop :=
  ∀ turns, Plays turns content → (played c ask ambient turns).Drained →
    ∀ t ∈ Topic.inbound, (played c ask ambient turns).handedOn t = Replay.messages content t

theorem feeds_played (hi : Topic.inbound[i]? = some t) (c : Config) (ask : String → Remote.Exchange)
    (ambient : Nat → Ambient) (turns : List Turn) :
    (played c ask ambient turns).Feeds c.ring i t (Feed.fresh.run c.ring i t turns) ∧
    (Feed.fresh.run c.ring i t turns).lost = reportedLost c ask ambient i turns := by
  have hstart := feeds_start hi c.settings.consumerBuffer (s := Service.ofConfig c ask) rfl
  obtain ⟨hfeeds, hlost⟩ := hstart.run hi ambient turns
  exact ⟨hfeeds, hlost.trans (Nat.zero_add _)⟩

theorem sent_of_plays {ring : Nat} (h : Plays turns content) :
    (Feed.fresh.run ring i t turns).sent = Replay.messages content t := by
  rw [Feed.sent_run, Replay.messages_of_parse h]
  rfl

theorem handedOn_sublist (hi : Topic.inbound[i]? = some t) (hplays : Plays turns content) :
    ((played c ask ambient turns).handedOn t).Sublist (Replay.messages content t) := by
  have hsound : (Feed.fresh.run c.ring i t turns).Sound := Feed.Sound.fresh.run turns
  rw [(feeds_played hi c ask ambient turns).1.handed, ← sent_of_plays hplays]
  exact hsound.inOrder.trans (List.take_sublist _ _)

theorem length_handedOn (hi : Topic.inbound[i]? = some t) (hplays : Plays turns content)
    (hdrained : (played c ask ambient turns).Drained) : ((played c ask ambient turns).handedOn t).length +
      reportedLost c ask ambient i turns = (Replay.messages content t).length := by
  obtain ⟨hfeeds, hlost⟩ := feeds_played hi c ask ambient turns
  have hsound : (Feed.fresh.run c.ring i t turns).Sound := Feed.Sound.fresh.run turns
  have hempty := hdrained i (List.getElem?_eq_some_iff.1 hi).1
  rw [hfeeds.bus.recv_eq] at hempty
  rw [hfeeds.handed, ← hlost, hsound.accounted, (Feed.reception_eq_empty_iff hsound.inside).1 hempty,
    sent_of_plays hplays]

theorem handedOn_of_fits (hi : Topic.inbound[i]? = some t) (hplays : Plays turns content)
    (hdrained : (played c ask ambient turns).Drained) (hfits : (Replay.messages content t).length ≤ c.ring) :
    (played c ask ambient turns).handedOn t = Replay.messages content t := by
  have hlost : reportedLost c ask ambient i turns = 0 := by
    rw [← (feeds_played hi c ask ambient turns).2]
    apply Feed.lost_run
    rwa [sent_of_plays hplays]
  have hlength := length_handedOn hi hplays hdrained
  rw [hlost, Nat.add_zero] at hlength
  exact (handedOn_sublist hi hplays).eq_of_length hlength

theorem length_messagesTo_le (t : Topic) (records : List (Topic × Message)) :
    (messagesTo t records).length ≤ records.length := by
  rw [messagesTo, List.length_map]
  exact List.length_filter_le _ _

theorem drained_of_sufficient {more : List Turn} (h : Sufficient (turns.filterMap Turn.record?).length more) :
    (played c ask ambient (turns ++ more)).Drained := by
  intro i hi
  obtain ⟨hfeeds, -⟩ := feeds_played (List.getElem?_eq_getElem hi) c ask ambient (turns ++ more)
  generalize Topic.inbound[i] = t at hfeeds
  have hsound : (Feed.fresh.run c.ring i t (turns ++ more)).Sound := Feed.Sound.fresh.run _
  have hbefore : (Feed.fresh.run c.ring i t turns).Sound := Feed.Sound.fresh.run turns
  have hnone : more.filterMap Turn.record? = [] := List.filterMap_eq_nil_iff.2 h.polls
  have hsent : (Feed.fresh.run c.ring i t (turns ++ more)).sent = (Feed.fresh.run c.ring i t turns).sent := by
    rw [Feed.run_append, Feed.sent_run more, hnone]
    exact List.append_nil _
  have hlength : (Feed.fresh.run c.ring i t turns).sent.length < more.count (.poll i) := by
    rw [Feed.sent_run]
    exact Nat.lt_of_le_of_lt (length_messagesTo_le t _) (h.count i hi)
  rw [hfeeds.bus.recv_eq]
  apply (Feed.reception_eq_empty_iff hsound.inside).2
  rw [hsent, Feed.run_append, Feed.run_polls h.polls]
  exact Feed.next_iterate_receive hbefore.inside hlength

theorem record?_publishing (records : List (Topic × Message)) :
    (records.map fun r => Turn.publish r.1 r.2).filterMap Turn.record? = records := by
  rw [List.filterMap_map]
  exact List.filterMap_some

theorem sufficient_replayTurns (k : Nat) : Sufficient k
    ((List.range Topic.inbound.length).flatMap fun i => List.replicate (k + 1) (.poll i)) := by
  constructor
  · intro x hx
    obtain ⟨j, -, hx⟩ := List.mem_flatMap.1 hx
    rw [List.eq_of_mem_replicate hx]
    rfl
  · intro i hi
    have hmem : List.replicate (k + 1) (Turn.poll i) ∈
        (List.range Topic.inbound.length).map fun i => List.replicate (k + 1) (Turn.poll i) :=
      List.mem_map_of_mem (List.mem_range.2 hi)
    have hcount := (List.sublist_flatten_of_mem hmem).count_le (.poll i)
    rwa [List.count_replicate_self] at hcount

theorem plays_replayTurns (h : Replay.parse content = .ok records) : Plays (replayTurns records) content := by
  have hnone := List.filterMap_eq_nil_iff.2 (sufficient_replayTurns records.length).polls
  rw [Plays, replayTurns, List.filterMap_append, record?_publishing, hnone, List.append_nil, h]

theorem drained_replayTurns (records : List (Topic × Message)) :
    (played c ask ambient (replayTurns records)).Drained := by
  apply drained_of_sufficient
  rw [record?_publishing]
  exact sufficient_replayTurns records.length

/-- Of a file that is published before the first consumer takes its turn, each topic keeps what fits into the ring. -/
theorem handedOn_replayTurns (hi : Topic.inbound[i]? = some t) (records : List (Topic × Message)) :
    (played c ask ambient (replayTurns records)).handedOn t =
      (messagesTo t records).drop ((messagesTo t records).length - c.ring) := by
  have hsufficient := sufficient_replayTurns records.length
  have hcount := hsufficient.count i (List.getElem?_eq_some_iff.1 hi).1
  rw [(feeds_played hi c ask ambient _).1.handed, replayTurns, Feed.run_append, Feed.run_publish,
    Feed.run_polls hsufficient.polls,
    Feed.iterate_receive_late _ (Nat.lt_of_le_of_lt (length_messagesTo_le t records) hcount)]

theorem length_le_of_losesNothing (hparse : Replay.parse content = .ok records)
    (h : LosesNothing c ask ambient content) (ht : t ∈ Topic.inbound) :
    (Replay.messages content t).length ≤ c.ring := by
  obtain ⟨i, hi⟩ := List.getElem?_of_mem ht
  have hhanded := h _ (plays_replayTurns hparse) (drained_replayTurns records) t ht
  rw [handedOn_replayTurns hi, Replay.messages_of_parse hparse] at hhanded
  have hlength := congrArg List.length hhanded
  rw [List.length_drop] at hlength
  omega

/-- Nothing is handed on twice or out of order; consumers that go on taking turns end up with nothing left to take, and
then whatever has not been handed on has been reported. Nothing is lost, whichever turns the consumers take, if and only
if no topic has more messages in the file than the ring holds. -/
theorem replay_loses_nothing_iff (hparse : Replay.parse content = .ok records) (c : Config)
    (ask : String → Remote.Exchange) (ambient : Nat → Ambient) :
    (∀ turns, Plays turns content → ∀ i t, Topic.inbound[i]? = some t →
      ((played c ask ambient turns).handedOn t).Sublist (Replay.messages content t) ∧
      ((played c ask ambient turns).Drained → ((played c ask ambient turns).handedOn t).length +
        reportedLost c ask ambient i turns = (Replay.messages content t).length)) ∧
    (∀ turns more, Plays turns content → Sufficient records.length more →
      (played c ask ambient (turns ++ more)).Drained) ∧
    (LosesNothing c ask ambient content ↔ ∀ t ∈ Topic.inbound, (Replay.messages content t).length ≤ c.ring) := by
  refine ⟨?_, ?_, ?_, ?_⟩
  · intro turns hplays i t hi
    exact ⟨handedOn_sublist hi hplays, length_handedOn hi hplays⟩
  · intro turns more hplays hmore
    apply drained_of_sufficient
    rw [Plays, hparse] at hplays
    rwa [← Except.ok.inj hplays]
  · intro hnothing t ht
    exact length_le_of_losesNothing hparse hnothing ht
  · intro hfits turns hplays hdrained t ht
    obtain ⟨i, hi⟩ := List.getElem?_of_mem ht
    exact handedOn_of_fits hi hplays hdrained (hfits t ht)

def twoAccounts : String :=
  "\x7b\"topic\":\"EVENT_TOPIC_ACCOUNT_STATUS\",\"key\":\"1\",\"value\":\x7b\"accountId\":1,\"status\":\"CREATED\"\x7d\x7d\n" ++
  "\x7b\"topic\":\"EVENT_TOPIC_ACCOUNT_STATUS\",\"key\":\"2\",\"value\":\x7b\"accountId\":2,\"status\":\"CREATED\"\x7d\x7d\n"

def created (key : String) (account : Int) : Topic × Message :=
  (.accountStatus, ⟨key, .obj [("accountId", .int account), ("status", .str "CREATED")]⟩)

theorem parse_twoAccounts : Replay.parse twoAccounts = .ok [created "1" 1, created "2" 2] := by
  have hread : (Replay.parse twoAccounts).toOption = some [created "1" 1, created "2" 2] := by decide +kernel
  cases hparse : Replay.parse twoAccounts with
  | error e =>
    rw [hparse] at hread
    cases hread
  | ok records =>
    rw [hparse] at hread
    cases hread
    rfl

theorem messages_twoAccounts : Replay.messages twoAccounts .accountStatus = [(created "1" 1).2, (created "2" 2).2] := by
  rw [← Replay.messages_of_parse parse_twoAccounts]
  rfl

theorem replay_loses_nothing_iff_twoAccounts : Replay.parse twoAccounts = .ok [created "1" 1, created "2" 2] ∧
    LosesNothing .initial (fun _ _ => none) (fun _ => .opening) twoAccounts := by
  have hiff := replay_loses_nothing_iff parse_twoAccounts .initial (fun _ _ => none) fun _ => .opening
  refine ⟨parse_twoAccounts, hiff.2.2.2 ?_⟩
  intro t _
  rw [← Replay.messages_of_parse parse_twoAccounts]
  calc (messagesTo t [created "1" 1, created "2" 2]).length
      ≤ 2 := length_messagesTo_le t _
    _ ≤ Config.initial.ring := by decide +kernel

def cramped : Config := { Config.initial with settings := { Settings.initial with consumerBuffer := 1 } }

theorem not_losesNothing_twoAccounts : cramped.validate = .ok () ∧
    ¬ LosesNothing cramped (fun _ _ => none) (fun _ => .opening) twoAccounts := by
  refine ⟨rfl, ?_⟩
  intro hnothing
  have hlength := length_le_of_losesNothing parse_twoAccounts hnothing (t := .accountStatus) (by decide)
  rw [messages_twoAccounts] at hlength
  exact absurd hlength (by decide +kernel)

end Session

end CashShop
