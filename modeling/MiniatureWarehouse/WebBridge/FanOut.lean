import MiniatureWarehouse.WebBridge.Hub

/-!
# No append-only event is dropped

A client is promised every append-only event, in order, unless its channel overflows and it is
told so by `CLOSE`.  The hub touches the channels independently of one another, so the promise is
proved for a single channel and carried over by the component rule.

The eviction loop of a snapshot takes the oldest item, whatever it is.  That is a stale snapshot
only if a snapshot happens to be at the head of the full queue; an append-only event or the
sentinel there is lost without a trace.  The promise is kept in exactly the runs in which every
snapshot that meets a full queue finds a snapshot at its head.
-/

namespace MiniatureWarehouse

namespace WebBridge

section Channel

variable {ε : Type*} (isSnapshot : ε → Bool)

/-- The append-only events among some items. -/
def appendOnly (items : List (Item ε)) : List ε :=
  items.filterMap fun
    | .event e => if isSnapshot e then none else some e
    | .close => none

/-- What no snapshot may displace: the append-only events and the sentinel. -/
def lasting (items : List (Item ε)) : List (Item ε) :=
  items.filter fun
    | .event e => !isSnapshot e
    | .close => true

/-- The append-only events put into a channel. -/
def puts (ops : List (ChannelOp ε)) : List ε :=
  ops.filterMap fun
    | .put e => if isSnapshot e then none else some e
    | .get => none

/-- A snapshot that meets a full queue finds a snapshot at its head. -/
def Spares (ch : ClientChannel ε) : ChannelOp ε → Prop
  | .put e => isSnapshot e = true → ch.full →
      ∃ x rest, ch.queue = .event x :: rest ∧ isSnapshot x = true
  | .get => True

variable {isSnapshot}

@[simp] lemma appendOnly_nil : appendOnly isSnapshot [] = [] := rfl

lemma appendOnly_append (xs ys : List (Item ε)) :
    appendOnly isSnapshot (xs ++ ys) = appendOnly isSnapshot xs ++ appendOnly isSnapshot ys :=
  List.filterMap_append

@[simp] lemma appendOnly_cons_close (xs : List (Item ε)) :
    appendOnly isSnapshot (.close :: xs) = appendOnly isSnapshot xs := rfl

lemma appendOnly_cons_snapshot {e : ε} (he : isSnapshot e = true) (xs : List (Item ε)) :
    appendOnly isSnapshot (.event e :: xs) = appendOnly isSnapshot xs :=
  List.filterMap_cons_none (if_pos he)

lemma appendOnly_cons_event {e : ε} (he : isSnapshot e = false) (xs : List (Item ε)) :
    appendOnly isSnapshot (.event e :: xs) = e :: appendOnly isSnapshot xs := by
  apply List.filterMap_cons_some
  simp [he]

lemma puts_concat (ops : List (ChannelOp ε)) (op : ChannelOp ε) :
    puts isSnapshot (ops ++ [op]) = puts isSnapshot ops ++ puts isSnapshot [op] :=
  List.filterMap_append

lemma puts_put_snapshot {e : ε} (he : isSnapshot e = true) :
    puts isSnapshot [.put e] = [] := by
  simp [puts, he]

lemma puts_put_event {e : ε} (he : isSnapshot e = false) :
    puts isSnapshot [.put e] = [e] := by
  simp [puts, he]

/-- Dropping the oldest item can only shorten what is left to return. -/
lemma appendOnly_tail_sublist (item : Item ε) (rest : List (Item ε)) :
    (appendOnly isSnapshot rest).Sublist (appendOnly isSnapshot (item :: rest)) :=
  (List.sublist_cons_self item rest).filterMap _

/-! ## One operation -/

/-- A snapshot displaces nothing that lasts exactly when it spares it. -/
lemma lasting_put_snapshot_iff (ch : ClientChannel ε) {e : ε} (he : isSnapshot e = true) :
    lasting isSnapshot (ch.put isSnapshot e).queue = lasting isSnapshot ch.queue ↔
      Spares isSnapshot ch (.put e) := by
  have hput : ch.put isSnapshot e = ch.putDropOldest e := if_pos he
  have hsame : ∀ items : List (Item ε),
      lasting isSnapshot (items ++ [.event e]) = lasting isSnapshot items := by
    intro items
    simp [lasting, he]
  rw [hput]
  by_cases hfull : ch.full
  · obtain ⟨item, rest, hqueue⟩ := exists_cons_of_full hfull
    rw [queue_putDropOldest_of_full hfull hqueue, hsame, hqueue]
    cases item with
    | event x =>
      by_cases hx : isSnapshot x = true
      · simp [lasting, Spares, hx, hqueue]
      · simp [lasting, Spares, hx, hqueue, he, hfull]
    | close => simp [lasting, Spares, hqueue, he, hfull]
  · rw [queue_putDropOldest_of_not_full hfull, hsame]
    simp [Spares, hfull]

/-- The sentinel at the head stays there until it is returned. -/
lemma head_close_step {ch : ClientChannel ε} {op : ChannelOp ε} (hop : Spares isSnapshot ch op)
    (hhead : ch.queue.head? = some .close) :
    .close ∈ ((channelMachine isSnapshot).step ch op).2 ∨
      ((channelMachine isSnapshot).step ch op).1.queue.head? = some .close := by
  obtain ⟨rest, hqueue⟩ := List.head?_eq_some_iff.mp hhead
  cases op with
  | get => exact .inl (get_of_cons hqueue).1
  | put e =>
    right
    show (ch.put isSnapshot e).queue.head? = some .close
    unfold ClientChannel.put
    split_ifs with he
    · have hroom : ¬ ch.full := by
        intro hfull
        obtain ⟨x, rest', hhead', -⟩ := hop he hfull
        rw [hqueue] at hhead'
        cases hhead'
      rw [queue_putDropOldest_of_not_full hroom, hqueue]
      rfl
    · by_cases hfull : ch.full
      · rw [(putNeverDrop_of_full hfull e).1]
        rfl
      · rw [(putNeverDrop_of_not_full hfull e).1, hqueue]
        rfl

/-- An operation sets the mark only by leaving the sentinel at the head. -/
lemma overflowed_step {ch : ClientChannel ε} (op : ChannelOp ε) :
    ((channelMachine isSnapshot).step ch op).1.overflowed = true ↔
      ch.overflowed = true ∨ ∃ e, op = .put e ∧ isSnapshot e = false ∧ ch.full := by
  cases op with
  | get =>
    have hsame : ch.get.1.overflowed = ch.overflowed := by
      cases hqueue : ch.queue with
      | nil => rw [get_of_nil hqueue]
      | cons item rest => exact (get_of_cons hqueue).2.2
    simp [channelMachine, hsame]
  | put e =>
    show (ch.put isSnapshot e).overflowed = true ↔ _
    unfold ClientChannel.put
    split_ifs with he
    · simp [he]
    · by_cases hfull : ch.full
      · simp [(putNeverDrop_of_full hfull e).2, he, hfull]
      · simp [(putNeverDrop_of_not_full hfull e).2, hfull]

/-! ## One channel over a run -/

/-- Once the sentinel is at the head, the next item returned is the sentinel. -/
lemma close_returned_or_head {ch : ClientChannel ε} (hhead : ch.queue.head? = some .close)
    {ops : List (ChannelOp ε)}
    (hops : (channelMachine isSnapshot).AllSteps (Spares isSnapshot) ch ops) :
    .close ∈ (channelMachine isSnapshot).emitted ch ops ∨
      ((channelMachine isSnapshot).run ch ops).queue.head? = some .close := by
  induction ops generalizing ch with
  | nil => exact .inr hhead
  | cons op ops ih =>
    rw [Machine.emitted_cons, List.mem_append, Option.mem_toList]
    rcases head_close_step hops.1 hhead with hnow | hnext
    · exact .inl (.inl hnow)
    · rcases ih hnext hops.2 with hlater | hlast
      · exact .inl (.inr hlater)
      · exact .inr hlast

/-- What was returned and what waits are the append-only events put in, in order, as long as the
channel has not overflowed. -/
lemma kept_of_not_overflowed {ch : ClientChannel ε} (hch : ch.queue = [])
    {ops : List (ChannelOp ε)}
    (hops : (channelMachine isSnapshot).AllSteps (Spares isSnapshot) ch ops) :
    ((channelMachine isSnapshot).run ch ops).overflowed = false →
      appendOnly isSnapshot ((channelMachine isSnapshot).emitted ch ops) ++
          appendOnly isSnapshot ((channelMachine isSnapshot).run ch ops).queue =
        puts isSnapshot ops := by
  refine Machine.run_history_of_allSteps (M := channelMachine isSnapshot) (s := ch)
    (I := fun ops last => last.overflowed = false →
      appendOnly isSnapshot ((channelMachine isSnapshot).emitted ch ops) ++
        appendOnly isSnapshot last.queue = puts isSnapshot ops) ?_ ?_ hops
  · intro _
    rw [hch]
    rfl
  · intro past op hop ih hmark
    have hbefore : ¬ (((channelMachine isSnapshot).run ch past).overflowed = true ∨
        ∃ e, op = .put e ∧ isSnapshot e = false ∧
          ((channelMachine isSnapshot).run ch past).full) := by
      rw [← overflowed_step, hmark]
      simp
    push Not at hbefore
    have hih := ih (Bool.not_eq_true _ ▸ hbefore.1)
    rw [Machine.emitted_concat, puts_concat, appendOnly_append, ← hih]
    generalize (channelMachine isSnapshot).run ch past = now at hop hbefore
    cases op with
    | get =>
      show _ ++ appendOnly isSnapshot now.get.2.toList ++ appendOnly isSnapshot now.get.1.queue =
        _ ++ []
      rw [List.append_nil, List.append_assoc, List.append_cancel_left_eq]
      cases hqueue : now.queue with
      | nil => rw [get_of_nil hqueue]; simp [hqueue]
      | cons item rest =>
        obtain ⟨hitem, hrest, -⟩ := get_of_cons hqueue
        rw [hitem, hrest, ← appendOnly_append]
        rfl
    | put e =>
      show _ ++ appendOnly isSnapshot [] ++ appendOnly isSnapshot (now.put isSnapshot e).queue = _
      rw [appendOnly_nil, List.append_nil, List.append_assoc, List.append_cancel_left_eq]
      unfold ClientChannel.put
      split_ifs with he
      · rw [puts_put_snapshot he, List.append_nil]
        by_cases hfull : now.full
        · obtain ⟨x, rest, hqueue, hx⟩ := hop he hfull
          rw [queue_putDropOldest_of_full hfull hqueue, hqueue, appendOnly_append,
            appendOnly_cons_snapshot hx, appendOnly_cons_snapshot he, appendOnly_nil,
            List.append_nil]
        · rw [queue_putDropOldest_of_not_full hfull, appendOnly_append,
            appendOnly_cons_snapshot he, appendOnly_nil, List.append_nil]
      · have he' : isSnapshot e = false := Bool.not_eq_true _ ▸ he
        have hroom := hbefore.2 e rfl he'
        rw [(putNeverDrop_of_not_full hroom e).1, puts_put_event he', appendOnly_append,
          appendOnly_cons_event he', appendOnly_nil]

/-- The append-only events that are returned keep the order in which they were put in. -/
lemma returned_sublist_puts {ch : ClientChannel ε} (hch : ch.queue = [])
    (ops : List (ChannelOp ε)) :
    (appendOnly isSnapshot ((channelMachine isSnapshot).emitted ch ops) ++
        appendOnly isSnapshot ((channelMachine isSnapshot).run ch ops).queue).Sublist
      (puts isSnapshot ops) := by
  refine Machine.run_history (M := channelMachine isSnapshot) (s := ch)
    (I := fun ops last => (appendOnly isSnapshot ((channelMachine isSnapshot).emitted ch ops) ++
      appendOnly isSnapshot last.queue).Sublist (puts isSnapshot ops)) ?_ ?_ ops
  · rw [hch]
    exact List.Sublist.refl _
  · intro past op ih
    rw [Machine.emitted_concat, puts_concat, appendOnly_append]
    generalize (channelMachine isSnapshot).run ch past = now at ih
    cases op with
    | get =>
      show (_ ++ appendOnly isSnapshot now.get.2.toList ++
        appendOnly isSnapshot now.get.1.queue).Sublist (_ ++ [])
      rw [List.append_nil, List.append_assoc, ← appendOnly_append]
      cases hqueue : now.queue with
      | nil =>
        rw [hqueue] at ih
        rw [get_of_nil hqueue, hqueue]
        exact ih
      | cons item rest =>
        obtain ⟨hitem, hrest, -⟩ := get_of_cons hqueue
        rw [hqueue] at ih
        rw [hitem, hrest]
        exact ih
    | put e =>
      show (_ ++ appendOnly isSnapshot [] ++
        appendOnly isSnapshot (now.put isSnapshot e).queue).Sublist _
      rw [appendOnly_nil, List.append_nil]
      unfold ClientChannel.put
      split_ifs with he
      · rw [puts_put_snapshot he, List.append_nil]
        refine List.Sublist.trans ?_ ih
        apply List.Sublist.append_left
        by_cases hfull : now.full
        · obtain ⟨item, rest, hqueue⟩ := exists_cons_of_full hfull
          rw [queue_putDropOldest_of_full hfull hqueue, hqueue, appendOnly_append,
            appendOnly_cons_snapshot he, appendOnly_nil, List.append_nil]
          exact appendOnly_tail_sublist item rest
        · rw [queue_putDropOldest_of_not_full hfull, appendOnly_append,
            appendOnly_cons_snapshot he, appendOnly_nil, List.append_nil]
      · have he' : isSnapshot e = false := Bool.not_eq_true _ ▸ he
        rw [puts_put_event he']
        by_cases hfull : now.full
        · rw [(putNeverDrop_of_full hfull e).1, appendOnly_cons_close, appendOnly_nil,
            List.append_nil]
          exact (List.sublist_append_left _ _).trans (ih.trans (List.sublist_append_left _ _))
        · rw [(putNeverDrop_of_not_full hfull e).1, appendOnly_append, appendOnly_cons_event he',
            appendOnly_nil, ← List.append_assoc]
          exact ih.append_right _

/-- As many gets as items wait return them all, in order. -/
lemma emitted_gets (ch : ClientChannel ε) :
    (channelMachine isSnapshot).emitted ch (List.replicate ch.queue.length .get) = ch.queue := by
  induction hlength : ch.queue.length generalizing ch with
  | zero => exact (List.eq_nil_of_length_eq_zero hlength).symm
  | succ n ih =>
    obtain ⟨item, rest, hqueue⟩ := List.exists_cons_of_length_eq_add_one hlength
    obtain ⟨hitem, hrest, -⟩ := get_of_cons hqueue
    have hshort : ch.get.1.queue.length = n := by
      rw [hqueue, List.length_cons] at hlength
      rw [hrest]
      omega
    rw [List.replicate_succ, Machine.emitted_cons, hqueue]
    show ch.get.2.toList ++ (channelMachine isSnapshot).emitted ch.get.1 _ = item :: rest
    rw [ih ch.get.1 hshort, hitem, hrest]
    rfl

end Channel

/-! ## The hub -/

section Hub

variable {ε : Type*} (isSnapshot : ε → Bool)

/-- What the sender loop of a channel is returned in a run. -/
def returnedBy (c : ℕ) (hub : FanoutHub ε) (calls : List (HubCall ε)) : List (Item ε) :=
  (calls.zip ((hubMachine isSnapshot).outputs hub calls)).filterMap (returned? c)

/-- The append-only events published in a run while a channel is subscribed. -/
def publishedTo (c : ℕ) (hub : FanoutHub ε) (calls : List (HubCall ε)) : List ε :=
  puts isSnapshot ((hubMachine isSnapshot).feeds (FanoutHub.feed c) hub calls)

/-- Publishing the event finds the queue of a channel full. -/
def Overflows (hub : FanoutHub ε) (e : ε) (c : ℕ) : Prop :=
  hub.subscribed c = true ∧ isSnapshot e = false ∧ (hub.channel c).full

/-- A published snapshot that meets a full queue finds a snapshot at its head. -/
def SparesAll (hub : FanoutHub ε) : HubCall ε → Prop
  | .publish e => ∀ c, hub.subscribed c = true → Spares isSnapshot (hub.channel c) (.put e)
  | _ => True

/-- What the overflow policy promises of a run from a new hub. -/
structure NeverDrops (hub : FanoutHub ε) (calls : List (HubCall ε)) : Prop where
  /-- A snapshot displaces neither an append-only event nor the sentinel. -/
  spares : ∀ past e rest, calls = past ++ .publish e :: rest → isSnapshot e = true → ∀ c,
    lasting isSnapshot
        (((hubMachine isSnapshot).run hub (past ++ [.publish e])).channel c).queue =
      lasting isSnapshot (((hubMachine isSnapshot).run hub past).channel c).queue
  /-- The append-only events are returned in the order they were published. -/
  inOrder : ∀ c, (appendOnly isSnapshot (returnedBy isSnapshot c hub calls)).Sublist
    (publishedTo isSnapshot c hub calls)
  /-- On a channel that is not marked, each is returned or waits to be. -/
  kept : ∀ c, (((hubMachine isSnapshot).run hub calls).channel c).overflowed = false →
    appendOnly isSnapshot (returnedBy isSnapshot c hub calls) ++
        appendOnly isSnapshot (((hubMachine isSnapshot).run hub calls).channel c).queue =
      publishedTo isSnapshot c hub calls
  /-- What waits there is returned by as many gets. -/
  delivered : ∀ c, (((hubMachine isSnapshot).run hub calls).channel c).overflowed = false → ∃ n,
    appendOnly isSnapshot (returnedBy isSnapshot c hub (calls ++ List.replicate n (.get c))) =
      publishedTo isSnapshot c hub calls
  /-- A channel is marked when an append-only event found its queue full. -/
  marked : ∀ c, (((hubMachine isSnapshot).run hub calls).channel c).overflowed = true ↔
    ∃ past e rest, calls = past ++ .publish e :: rest ∧
      Overflows isSnapshot ((hubMachine isSnapshot).run hub past) e c
  /-- After that the sentinel is returned, or it is what the next get returns. -/
  closes : ∀ past e rest c, calls = past ++ .publish e :: rest →
    Overflows isSnapshot ((hubMachine isSnapshot).run hub past) e c →
      .close ∈ returnedBy isSnapshot c
          ((hubMachine isSnapshot).run hub (past ++ [.publish e])) rest ∨
        (((hubMachine isSnapshot).run hub calls).channel c).queue.head? = some .close
  /-- No event is returned between the overflow and the sentinel. -/
  closeFirst : ∀ past e mid rest c x,
    calls = past ++ .publish e :: (mid ++ .get c :: rest) →
      Overflows isSnapshot ((hubMachine isSnapshot).run hub past) e c →
        (((hubMachine isSnapshot).run hub (past ++ .publish e :: mid)).get c).2 =
            some (.event x) →
          .close ∈ returnedBy isSnapshot c
            ((hubMachine isSnapshot).run hub (past ++ [.publish e])) mid

variable {isSnapshot}

lemma channel_eq_of_getElem? {hub : FanoutHub ε} {c : ℕ} {entry : ClientChannel ε × Bool}
    (h : hub.channels[c]? = some entry) : hub.channel c = entry.1 := by
  unfold FanoutHub.channel
  rw [h]
  rfl

lemma subscribed_eq_of_getElem? {hub : FanoutHub ε} {c : ℕ} {entry : ClientChannel ε × Bool}
    (h : hub.channels[c]? = some entry) : hub.subscribed c = entry.2 := by
  unfold FanoutHub.subscribed
  rw [h]
  rfl

lemma channel_subscribe (hub : FanoutHub ε) (c : ℕ) :
    hub.subscribe.1.channel c = hub.channel c ∧
      hub.subscribe.1.clientQueueMax = hub.clientQueueMax := by
  unfold FanoutHub.subscribe
  split_ifs
  · exact ⟨rfl, rfl⟩
  · refine ⟨?_, rfl⟩
    unfold FanoutHub.channel
    rcases Nat.lt_trichotomy c hub.channels.length with hlt | rfl | hgt
    · rw [List.getElem?_append_left hlt]
    · rw [List.getElem?_concat_length, List.getElem?_eq_none (Nat.le_refl _)]
      rfl
    · rw [List.getElem?_eq_none (Nat.le_of_lt hgt), List.getElem?_eq_none]
      simpa using hgt

lemma channel_unsubscribe (hub : FanoutHub ε) (c c' : ℕ) :
    (hub.unsubscribe c').channel c = hub.channel c := by
  unfold FanoutHub.unsubscribe FanoutHub.channel
  rw [List.getElem?_modify]
  cases hub.channels[c]? with
  | none => rfl
  | some entry =>
    rw [Option.map_eq_map, Option.map_some]
    split_ifs <;> rfl

lemma channel_publish (hub : FanoutHub ε) (c : ℕ) (e : ε) :
    (hub.publish isSnapshot e).channel c =
      if hub.subscribed c then (hub.channel c).put isSnapshot e else hub.channel c := by
  cases hentry : hub.channels[c]? with
  | none =>
    have hafter : (hub.publish isSnapshot e).channels[c]? = none := by
      simp [FanoutHub.publish, hentry]
    simp only [FanoutHub.channel, FanoutHub.subscribed, hentry, hafter]
    rfl
  | some entry =>
    have hafter : (hub.publish isSnapshot e).channels[c]? =
        some (if entry.2 then entry.1.put isSnapshot e else entry.1, entry.2) := by
      simp [FanoutHub.publish, hentry]
    rw [channel_eq_of_getElem? hafter, channel_eq_of_getElem? hentry,
      subscribed_eq_of_getElem? hentry]

lemma channel_get (hub : FanoutHub ε) (c c' : ℕ) :
    (hub.get c').1.channel c =
        (if c' = c ∧ c < hub.channels.length then (hub.channel c).get.1 else hub.channel c) ∧
      (hub.get c').1.clientQueueMax = hub.clientQueueMax ∧
      (c' = c → (hub.get c').2 =
        if c < hub.channels.length then (hub.channel c).get.2 else none) := by
  unfold FanoutHub.get
  cases hentry : hub.channels[c']? with
  | none =>
    have hout : ¬ c' < hub.channels.length := Nat.not_lt.mpr (List.getElem?_eq_none_iff.mp hentry)
    refine ⟨?_, rfl, ?_⟩
    · rw [if_neg]
      rintro ⟨rfl, hin⟩
      exact hout hin
    · rintro rfl
      rw [if_neg hout]
  | some entry =>
    obtain ⟨hin, -⟩ := List.getElem?_eq_some_iff.mp hentry
    refine ⟨?_, rfl, ?_⟩
    · by_cases hc : c' = c
      · subst hc
        rw [if_pos ⟨rfl, hin⟩, channel_eq_of_getElem? hentry]
        have hset : (hub.channels.set c' (entry.1.get.1, entry.2))[c']? =
            some (entry.1.get.1, entry.2) := List.getElem?_set_self hin
        unfold FanoutHub.channel
        rw [hset]
        rfl
      · rw [if_neg (fun h => hc h.1)]
        unfold FanoutHub.channel
        rw [List.getElem?_set_ne hc]
    · rintro rfl
      rw [if_pos hin, channel_eq_of_getElem? hentry]

/-- A step of the hub is a step of each channel it feeds. -/
lemma hub_step_channel (c : ℕ) (hub : FanoutHub ε) (call : HubCall ε) :
    ((hubMachine isSnapshot).step hub call).1.channel c =
        (channelMachine isSnapshot).run (hub.channel c) (hub.feed c call).toList ∧
      (returned? c (call, ((hubMachine isSnapshot).step hub call).2)).toList =
        (channelMachine isSnapshot).emitted (hub.channel c) (hub.feed c call).toList := by
  cases call with
  | subscribe => exact ⟨(channel_subscribe hub c).1, rfl⟩
  | unsubscribe c' => exact ⟨channel_unsubscribe hub c c', rfl⟩
  | publish e =>
    constructor
    · refine (channel_publish hub c e).trans ?_
      rw [feed_publish]
      split_ifs <;> rfl
    · rw [feed_publish]
      split_ifs <;> rfl
  | get c' =>
    obtain ⟨hchannel, -, hitem⟩ := channel_get hub c c'
    constructor
    · refine hchannel.trans ?_
      rw [feed_get]
      split_ifs <;> rfl
    · show (if c' = c then (hub.get c').2 else none).toList = _
      rw [feed_get]
      by_cases hc : c' = c
      · rw [if_pos hc, hitem hc]
        by_cases hin : c < hub.channels.length
        · rw [if_pos hin, if_pos ⟨hc, hin⟩, Option.toList_some, Machine.emitted_singleton]
          rfl
        · rw [if_neg hin, if_neg (fun h => hin h.2)]
          rfl
      · rw [if_neg hc, if_neg (fun h => hc h.1)]
        rfl

/-- A run of the hub is a run of each of its channels. -/
lemma hub_run_channel (c : ℕ) (hub : FanoutHub ε) (calls : List (HubCall ε)) :
    ((hubMachine isSnapshot).run hub calls).channel c =
        (channelMachine isSnapshot).run (hub.channel c)
          ((hubMachine isSnapshot).feeds (FanoutHub.feed c) hub calls) ∧
      returnedBy isSnapshot c hub calls = (channelMachine isSnapshot).emitted (hub.channel c)
        ((hubMachine isSnapshot).feeds (FanoutHub.feed c) hub calls) := by
  apply Machine.run_component (FanoutHub.feed c) (returned? c) (fun hub ch => hub.channel c = ch) _
    rfl
  rintro hub _ call rfl
  exact hub_step_channel c hub call

/-- A run of the hub that spares is a run of each channel that spares. -/
lemma allSteps_spares (c : ℕ) {hub : FanoutHub ε} {calls : List (HubCall ε)}
    (h : (hubMachine isSnapshot).AllSteps (SparesAll isSnapshot) hub calls) :
    (channelMachine isSnapshot).AllSteps (Spares isSnapshot) (hub.channel c)
      ((hubMachine isSnapshot).feeds (FanoutHub.feed c) hub calls) := by
  apply Machine.allSteps_feeds (FanoutHub.feed c) (fun hub ch => hub.channel c = ch) _ rfl
  · refine Machine.AllSteps.imp _ ?_ h
    rintro hub call hspares _ rfl op hop
    cases call with
    | publish e =>
      simp only [feed_publish, Option.mem_ite_none_right, Option.mem_some] at hop
      rw [← hop.2]
      exact hspares c hop.1
    | get c' =>
      simp only [feed_get, Option.mem_ite_none_right, Option.mem_some] at hop
      rw [← hop.2]
      trivial
    | subscribe => cases hop
    | unsubscribe c' => cases hop
  · rintro hub _ call rfl
    exact (hub_step_channel c hub call).1

/-- The gets of a channel feed it, once it is there. -/
lemma feeds_gets {hub : FanoutHub ε} {c : ℕ} (hin : c < hub.channels.length) (n : ℕ) :
    (hubMachine isSnapshot).feeds (FanoutHub.feed c) hub (List.replicate n (.get c)) =
      List.replicate n .get := by
  induction n generalizing hub with
  | zero => rfl
  | succ n ih =>
    have hnext : c < (hub.get c).1.channels.length := by
      unfold FanoutHub.get
      split
      · exact hin
      · rw [List.length_set]
        exact hin
    rw [List.replicate_succ, List.replicate_succ]
    unfold Machine.feeds
    rw [feed_get, if_pos ⟨rfl, hin⟩]
    exact congrArg (.get :: ·) (ih hnext)

/-- As many gets as items wait return all of them to the sender loop. -/
lemma returnedBy_gets (c : ℕ) (hub : FanoutHub ε) (calls : List (HubCall ε)) :
    ∃ n, returnedBy isSnapshot c hub (calls ++ List.replicate n (.get c)) =
      returnedBy isSnapshot c hub calls ++
        (((hubMachine isSnapshot).run hub calls).channel c).queue := by
  have hrun : ((hubMachine isSnapshot).run hub calls).channel c = _ ∧
      returnedBy isSnapshot c hub calls = _ := hub_run_channel c hub calls
  by_cases hin : c < ((hubMachine isSnapshot).run hub calls).channels.length
  · refine ⟨(((hubMachine isSnapshot).run hub calls).channel c).queue.length, ?_⟩
    rw [(hub_run_channel c hub _).2, hrun.2, Machine.feeds_append, feeds_gets hin,
      Machine.emitted_append, ← hrun.1, emitted_gets]
  · refine ⟨0, ?_⟩
    have hnone : ((hubMachine isSnapshot).run hub calls).channels[c]? = none :=
      List.getElem?_eq_none (Nat.not_lt.mp hin)
    have hqueue : (((hubMachine isSnapshot).run hub calls).channel c).queue = [] := by
      unfold FanoutHub.channel
      rw [hnone]
      rfl
    rw [hqueue, List.replicate_zero, List.append_nil, List.append_nil]

/-- Publishing an event that overflows a channel leaves the sentinel at its head. -/
lemma head_of_overflows {hub : FanoutHub ε} {e : ε} {c : ℕ} (h : Overflows isSnapshot hub e c) :
    ((hub.publish isSnapshot e).channel c).queue.head? = some .close := by
  have hput : (hub.channel c).put isSnapshot e = (hub.channel c).putNeverDrop e := by
    unfold ClientChannel.put
    rw [h.2.1]
    rfl
  rw [channel_publish, if_pos h.1, hput, (putNeverDrop_of_full h.2.2 e).1]
  rfl

/-- The mark of a channel, after one step of the hub. -/
lemma overflowed_hub_step (c : ℕ) (hub : FanoutHub ε) (call : HubCall ε) :
    (((hubMachine isSnapshot).step hub call).1.channel c).overflowed = true ↔
      (hub.channel c).overflowed = true ∨
        ∃ e, call = .publish e ∧ Overflows isSnapshot hub e c := by
  rw [(hub_step_channel c hub call).1]
  cases call with
  | publish e =>
    rw [feed_publish]
    unfold Overflows
    split_ifs with hc
    · rw [Option.toList_some, Machine.run_cons, Machine.run_nil, overflowed_step]
      simp [hc]
    · simp [hc]
  | get c' =>
    rw [feed_get]
    split_ifs with hc
    · rw [Option.toList_some, Machine.run_cons, Machine.run_nil, overflowed_step]
      simp
    · simp
  | subscribe => simp
  | unsubscribe c' => simp

/-- A channel is marked when some step of the run overflowed it. -/
lemma overflowed_run_iff (c : ℕ) {hub : FanoutHub ε} (hhub : hub.channels = [])
    (calls : List (HubCall ε)) :
    (((hubMachine isSnapshot).run hub calls).channel c).overflowed = true ↔
      ∃ past e rest, calls = past ++ .publish e :: rest ∧
        Overflows isSnapshot ((hubMachine isSnapshot).run hub past) e c := by
  induction calls using List.reverseRecOn with
  | nil => simp [FanoutHub.channel, hhub]
  | append_singleton calls call ih =>
    rw [Machine.run_concat, overflowed_hub_step, ih]
    constructor
    · rintro (⟨past, e, rest, rfl, hover⟩ | ⟨e, rfl, hover⟩)
      · exact ⟨past, e, rest ++ [call], by simp, hover⟩
      · exact ⟨calls, e, [], rfl, hover⟩
    · rintro ⟨past, e, rest, hcalls, hover⟩
      rcases List.eq_nil_or_concat rest with rfl | ⟨rest, last, rfl⟩
      · obtain ⟨rfl, hcall⟩ := List.append_inj' hcalls rfl
        exact .inr ⟨e, (List.cons.inj hcall).1, hover⟩
      · have hsplit : calls ++ [call] = (past ++ .publish e :: rest) ++ [last] := by
          rw [hcalls]
          simp
        exact .inl ⟨past, e, rest, (List.append_inj' hsplit rfl).1, hover⟩

/-- After an overflow the sentinel is returned, or is what the next get returns. -/
lemma close_after_overflow {hub : FanoutHub ε} {past rest : List (HubCall ε)} {e : ε} {c : ℕ}
    (h : (hubMachine isSnapshot).AllSteps (SparesAll isSnapshot) hub
      (past ++ .publish e :: rest))
    (hover : Overflows isSnapshot ((hubMachine isSnapshot).run hub past) e c) :
    .close ∈ returnedBy isSnapshot c
        ((hubMachine isSnapshot).run hub (past ++ [.publish e])) rest ∨
      (((hubMachine isSnapshot).run hub (past ++ .publish e :: rest)).channel c).queue.head? =
        some .close := by
  have hrest : (hubMachine isSnapshot).AllSteps (SparesAll isSnapshot)
      ((hubMachine isSnapshot).run hub (past ++ [.publish e])) rest := by
    have hsplit := ((hubMachine isSnapshot).allSteps_append _ hub (past ++ [.publish e]) rest).mp
      (by simpa using h)
    exact hsplit.2
  have hhead : (((hubMachine isSnapshot).run hub (past ++ [.publish e])).channel c).queue.head? =
      some .close := by
    rw [Machine.run_concat]
    exact head_of_overflows hover
  have hrun : (hubMachine isSnapshot).run hub (past ++ .publish e :: rest) =
      (hubMachine isSnapshot).run ((hubMachine isSnapshot).run hub (past ++ [.publish e]))
        rest := by
    rw [← Machine.run_append, List.append_assoc, List.singleton_append]
  rw [hrun, (hub_run_channel c _ rest).1, (hub_run_channel c _ rest).2]
  exact close_returned_or_head hhead (allSteps_spares c hrest)

/-- **Never-drop, exactly.**  From a new hub, with any cap and any queue bound, the overflow policy
keeps its promise in a run of subscribing, publishing, getting and unsubscribing if and only if
every published snapshot that meets a full queue finds a snapshot at its head. -/
theorem neverDrops_iff (isSnapshot : ε → Bool) (maxClients clientQueueMax : ℤ)
    (calls : List (HubCall ε)) :
    NeverDrops isSnapshot (.build maxClients clientQueueMax) calls ↔
      (hubMachine isSnapshot).AllSteps (SparesAll isSnapshot) (.build maxClients clientQueueMax)
        calls := by
  constructor
  · intro h
    rw [Machine.allSteps_iff]
    rintro past call rest rfl
    cases call with
    | publish e =>
      intro c hc hsnapshot
      have hlasting := h.spares past e rest rfl hsnapshot c
      rw [Machine.run_concat] at hlasting
      change lasting isSnapshot ((FanoutHub.publish isSnapshot _ e).channel c).queue = _
        at hlasting
      rw [channel_publish, if_pos hc, lasting_put_snapshot_iff _ hsnapshot] at hlasting
      exact hlasting hsnapshot
    | subscribe => trivial
    | unsubscribe c => trivial
    | get c => trivial
  · intro h
    have hempty : ∀ c, ((FanoutHub.build maxClients clientQueueMax : FanoutHub ε).channel c).queue =
        [] := fun c => rfl
    have hkept : ∀ c, (((hubMachine isSnapshot).run (.build maxClients clientQueueMax)
        calls).channel c).overflowed = false →
          appendOnly isSnapshot (returnedBy isSnapshot c (.build maxClients clientQueueMax) calls) ++
              appendOnly isSnapshot (((hubMachine isSnapshot).run (.build maxClients clientQueueMax)
                calls).channel c).queue =
            publishedTo isSnapshot c (.build maxClients clientQueueMax) calls := by
      intro c hmark
      rw [(hub_run_channel c _ calls).1] at hmark ⊢
      rw [(hub_run_channel c _ calls).2]
      exact kept_of_not_overflowed (hempty c) (allSteps_spares c h) hmark
    refine ⟨?_, ?_, hkept, ?_, fun c => overflowed_run_iff c rfl calls, ?_, ?_⟩
    · rintro past e rest rfl hsnapshot c
      have hspares := ((Machine.allSteps_iff _ _ _ _).mp h past _ rest rfl) c
      rw [Machine.run_concat]
      show lasting isSnapshot ((FanoutHub.publish isSnapshot _ e).channel c).queue = _
      rw [channel_publish]
      split_ifs with hc
      · exact (lasting_put_snapshot_iff _ hsnapshot).mpr (hspares hc)
      · rfl
    · intro c
      rw [(hub_run_channel c _ calls).2]
      exact (List.sublist_append_left _ _).trans (returned_sublist_puts (hempty c) _)
    · intro c hmark
      obtain ⟨n, hn⟩ : ∃ n, returnedBy isSnapshot c _ (calls ++ List.replicate n (.get c)) = _ :=
        returnedBy_gets c (.build maxClients clientQueueMax) calls
      refine ⟨n, ?_⟩
      rw [hn, appendOnly_append]
      exact hkept c hmark
    · rintro past e rest c rfl hover
      exact close_after_overflow h hover
    · rintro past e mid rest c x rfl hover hget
      have hmid := ((Machine.allSteps_append (hubMachine isSnapshot) (SparesAll isSnapshot)
        (.build maxClients clientQueueMax) (past ++ .publish e :: mid) (.get c :: rest)).mp
          (by simpa using h)).1
      rcases close_after_overflow hmid hover with hclose | hhead
      · exact hclose
      · -- the next item is the sentinel, so it is no event
        generalize (hubMachine isSnapshot).run (.build maxClients clientQueueMax)
          (past ++ .publish e :: mid) = hub at hhead hget
        obtain ⟨queue, hqueue⟩ := List.head?_eq_some_iff.mp hhead
        rw [(channel_get hub c c).2.2 rfl] at hget
        split_ifs at hget with hin
        · rw [(get_of_cons hqueue).1] at hget
          cases hget

end Hub

/-! ## A snapshot that drops an event -/

/-- An event of the example: `true` is a snapshot. -/
def droppingCalls : List (HubCall Bool) := [.subscribe, .publish false, .publish true]

/-- **A snapshot drops an append-only event.**  With a queue of one, the snapshot takes the place of
the event before it: the channel is not marked, and no get returns the event. -/
theorem snapshot_drops_event :
    let hub := (hubMachine id).run (.build 1 1) droppingCalls
    publishedTo id 0 (.build 1 1) droppingCalls = [false] ∧
      (hub.channel 0).overflowed = false ∧ (hub.channel 0).queue = [.event true] ∧
      returnedBy id 0 (.build 1 1) droppingCalls = [] ∧
      ¬ NeverDrops id (.build 1 1) droppingCalls := by
  refine ⟨by decide, by decide, by decide, by decide, fun h => ?_⟩
  have hlost := h.kept 0 (by decide)
  revert hlost
  decide

end WebBridge

end MiniatureWarehouse
