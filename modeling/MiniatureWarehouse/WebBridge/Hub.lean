import MiniatureWarehouse.Framework.Runs
import MiniatureWarehouse.Framework.Values

/-!
# The fan-out hub of the web gateway

The hub hands every event to every connected client through a bounded queue of the client's own.
Two classes of events share a queue.  A snapshot is state: when the queue is full the oldest item
makes room.  Every other event is append-only: when the queue is full the client is disconnected,
which is to say the backlog is cleared and the sentinel `CLOSE` takes its place, and the client
comes back for the events it missed.

A queue never holds more than its bound; the bound is positive whatever the settings say.
-/

namespace MiniatureWarehouse

namespace WebBridge

/-- What a client's queue holds: events, and the sentinel that tells the sender loop to close. -/
inductive Item (ε : Type*)
  | event (e : ε)
  | close
  deriving DecidableEq, Repr

/-- `ClientChannel`. -/
structure ClientChannel (ε : Type*) where
  maxsize : ℕ
  maxsize_pos : 0 < maxsize
  queue : List (Item ε)
  bounded : queue.length ≤ maxsize
  overflowed : Bool

section Channel

variable {ε : Type*}

/-- `ClientChannel(queue_max)`: the bound is at least one. -/
def ClientChannel.build (queueMax : ℤ) : ClientChannel ε where
  maxsize := (max 1 queueMax).toNat
  maxsize_pos := by omega
  queue := []
  bounded := Nat.zero_le _
  overflowed := false

/-- `queue.full()`. -/
def ClientChannel.full (ch : ClientChannel ε) : Prop := ch.maxsize ≤ ch.queue.length

instance (ch : ClientChannel ε) : Decidable ch.full := inferInstanceAs (Decidable (_ ≤ _))

/-- The eviction loop of `_put_drop_oldest`. -/
def evictWhileFull (maxsize : ℕ) : List (Item ε) → List (Item ε)
  | [] => []
  | item :: rest => if maxsize ≤ rest.length + 1 then evictWhileFull maxsize rest else item :: rest

lemma length_evictWhileFull {maxsize : ℕ} (hpos : 0 < maxsize) (items : List (Item ε)) :
    (evictWhileFull maxsize items).length < maxsize := by
  induction items with
  | nil => exact hpos
  | cons item rest ih =>
    unfold evictWhileFull
    split_ifs with hfull
    · exact ih
    · rw [List.length_cons]
      omega

lemma evictWhileFull_of_lt {maxsize : ℕ} {items : List (Item ε)} (h : items.length < maxsize) :
    evictWhileFull maxsize items = items := by
  cases items with
  | nil => rfl
  | cons item rest =>
    rw [List.length_cons] at h
    exact if_neg (by omega)

/-- `_put_drop_oldest`. -/
def ClientChannel.putDropOldest (ch : ClientChannel ε) (e : ε) : ClientChannel ε :=
  { ch with
    queue := evictWhileFull ch.maxsize ch.queue ++ [.event e]
    bounded := by
      have hroom := length_evictWhileFull ch.maxsize_pos ch.queue
      rw [List.length_append, List.length_singleton]
      omega }

/-- `_put_never_drop`. -/
def ClientChannel.putNeverDrop (ch : ClientChannel ε) (e : ε) : ClientChannel ε :=
  if h : ch.full then { ch with queue := [.close], bounded := ch.maxsize_pos, overflowed := true }
  else
    { ch with
      queue := ch.queue ++ [.event e]
      bounded := by
        have hroom : ch.queue.length < ch.maxsize := Nat.lt_of_not_le h
        rw [List.length_append, List.length_singleton]
        omega }

/-- `get`, once there is something to return. -/
def ClientChannel.get (ch : ClientChannel ε) : ClientChannel ε × Option (Item ε) :=
  match h : ch.queue with
  | [] => (ch, none)
  | item :: rest =>
    ({ ch with
        queue := rest
        bounded := by
          have hbound := ch.bounded
          rw [h, List.length_cons] at hbound
          omega }, some item)

/-! ## What the operations do to the queue -/

@[simp] lemma queue_build (queueMax : ℤ) : (ClientChannel.build queueMax : ClientChannel ε).queue =
    [] := rfl

@[simp] lemma overflowed_build (queueMax : ℤ) :
    (ClientChannel.build queueMax : ClientChannel ε).overflowed = false := rfl

lemma queue_putDropOldest_of_not_full {ch : ClientChannel ε} (h : ¬ ch.full) (e : ε) :
    (ch.putDropOldest e).queue = ch.queue ++ [.event e] := by
  have hroom : evictWhileFull ch.maxsize ch.queue = ch.queue :=
    evictWhileFull_of_lt (Nat.lt_of_not_le h)
  show evictWhileFull ch.maxsize ch.queue ++ [.event e] = _
  rw [hroom]

/-- A full queue gives up its oldest item, whatever it is. -/
lemma queue_putDropOldest_of_full {ch : ClientChannel ε} (h : ch.full) {item : Item ε}
    {rest : List (Item ε)} (hqueue : ch.queue = item :: rest) (e : ε) :
    (ch.putDropOldest e).queue = rest ++ [.event e] := by
  have hlength : rest.length + 1 = ch.maxsize := by
    have hbound := ch.bounded
    have hfull : ch.maxsize ≤ ch.queue.length := h
    rw [hqueue, List.length_cons] at hbound hfull
    omega
  show evictWhileFull ch.maxsize ch.queue ++ [.event e] = _
  rw [hqueue]
  unfold evictWhileFull
  rw [if_pos (by omega), evictWhileFull_of_lt (by omega)]

lemma exists_cons_of_full {ch : ClientChannel ε} (h : ch.full) :
    ∃ item rest, ch.queue = item :: rest := by
  have hpos := ch.maxsize_pos
  have hfull : ch.maxsize ≤ ch.queue.length := h
  exact List.exists_cons_of_length_pos (by omega)

@[simp] lemma overflowed_putDropOldest (ch : ClientChannel ε) (e : ε) :
    (ch.putDropOldest e).overflowed = ch.overflowed := rfl

lemma putNeverDrop_of_full {ch : ClientChannel ε} (h : ch.full) (e : ε) :
    (ch.putNeverDrop e).queue = [.close] ∧ (ch.putNeverDrop e).overflowed = true := by
  unfold ClientChannel.putNeverDrop
  rw [dif_pos h]
  exact ⟨rfl, rfl⟩

lemma putNeverDrop_of_not_full {ch : ClientChannel ε} (h : ¬ ch.full) (e : ε) :
    (ch.putNeverDrop e).queue = ch.queue ++ [.event e] ∧
      (ch.putNeverDrop e).overflowed = ch.overflowed := by
  unfold ClientChannel.putNeverDrop
  rw [dif_neg h]
  exact ⟨rfl, rfl⟩

lemma get_of_nil {ch : ClientChannel ε} (h : ch.queue = []) : ch.get = (ch, none) := by
  unfold ClientChannel.get
  split
  · rfl
  · rename_i hcons
    rw [h] at hcons
    cases hcons

lemma get_of_cons {ch : ClientChannel ε} {item : Item ε} {rest : List (Item ε)}
    (h : ch.queue = item :: rest) :
    ch.get.2 = some item ∧ ch.get.1.queue = rest ∧ ch.get.1.overflowed = ch.overflowed := by
  unfold ClientChannel.get
  split
  · rename_i hnil
    rw [h] at hnil
    cases hnil
  · rename_i hcons
    rw [h, List.cons.injEq] at hcons
    obtain ⟨rfl, rfl⟩ := hcons
    exact ⟨rfl, rfl, rfl⟩

end Channel

/-! ## One channel over a run -/

/-- What happens to a channel: the hub puts an event, the sender loop gets an item. -/
inductive ChannelOp (ε : Type*)
  | put (e : ε)
  | get

section Hub

variable {ε : Type*} (isSnapshot : ε → Bool)

/-- The body of the loop of `publish`. -/
def ClientChannel.put (ch : ClientChannel ε) (e : ε) : ClientChannel ε :=
  if isSnapshot e then ch.putDropOldest e else ch.putNeverDrop e

/-- A channel as a machine; a get puts out the item it returns. -/
def channelMachine : Machine (ClientChannel ε) (ChannelOp ε) (Option (Item ε)) where
  step ch
    | .put e => (ch.put isSnapshot e, none)
    | .get => ch.get

/-! ## The hub -/

/-- `FanoutHub`.  Every channel made so far, in order, with whether it is one of `_clients`. -/
structure FanoutHub (ε : Type*) where
  maxClients : ℤ
  clientQueueMax : ℤ
  channels : List (ClientChannel ε × Bool)

/-- `FanoutHub(...)`. -/
def FanoutHub.build (maxClients clientQueueMax : ℤ) : FanoutHub ε :=
  ⟨maxClients, clientQueueMax, []⟩

/-- `client_count`. -/
def FanoutHub.clientCount (hub : FanoutHub ε) : ℕ := hub.channels.countP Prod.snd

/-- Is the channel one of `_clients`? -/
def FanoutHub.subscribed (hub : FanoutHub ε) (c : ℕ) : Bool :=
  (hub.channels[c]?.map Prod.snd).getD false

/-- `subscribe`, with the number of the channel. -/
def FanoutHub.subscribe (hub : FanoutHub ε) : FanoutHub ε × Option ℕ :=
  if hub.maxClients ≤ hub.clientCount then (hub, none)
  else
    ({ hub with channels := hub.channels ++ [(.build hub.clientQueueMax, true)] },
      some hub.channels.length)

/-- `unsubscribe`. -/
def FanoutHub.unsubscribe (hub : FanoutHub ε) (c : ℕ) : FanoutHub ε :=
  { hub with channels := hub.channels.modify c fun entry => (entry.1, false) }

/-- `publish`. -/
def FanoutHub.publish (hub : FanoutHub ε) (e : ε) : FanoutHub ε :=
  { hub with
    channels := hub.channels.map fun entry =>
      (if entry.2 then entry.1.put isSnapshot e else entry.1, entry.2) }

/-- `get` of one channel, by its sender loop. -/
def FanoutHub.get (hub : FanoutHub ε) (c : ℕ) : FanoutHub ε × Option (Item ε) :=
  match hub.channels[c]? with
  | none => (hub, none)
  | some entry =>
    ({ hub with channels := hub.channels.set c (entry.1.get.1, entry.2) }, entry.1.get.2)

/-- A step of the hub and its sender loops. -/
inductive HubCall (ε : Type*)
  | subscribe
  | unsubscribe (c : ℕ)
  | publish (e : ε)
  | get (c : ℕ)
  deriving DecidableEq

/-- What a step shows. -/
inductive HubReply (ε : Type*)
  | channel (c : Option ℕ)
  | done
  | item (i : Option (Item ε))

/-- The hub as a machine. -/
def hubMachine : Machine (FanoutHub ε) (HubCall ε) (HubReply ε) where
  step hub
    | .subscribe => (hub.subscribe.1, .channel hub.subscribe.2)
    | .unsubscribe c => (hub.unsubscribe c, .done)
    | .publish e => (hub.publish isSnapshot e, .done)
    | .get c => ((hub.get c).1, .item (hub.get c).2)

/-- The channel with a number, and a new one where there is none yet. -/
def FanoutHub.channel (hub : FanoutHub ε) (c : ℕ) : ClientChannel ε :=
  (hub.channels[c]?.map Prod.fst).getD (.build hub.clientQueueMax)

/-- What a step of the hub does to a channel. -/
def FanoutHub.feed (c : ℕ) (hub : FanoutHub ε) : HubCall ε → Option (ChannelOp ε)
  | .publish e => if hub.subscribed c then some (.put e) else none
  | .get c' => if c' = c ∧ c < hub.channels.length then some .get else none
  | _ => none

@[simp] lemma feed_subscribe (c : ℕ) (hub : FanoutHub ε) : hub.feed c .subscribe = none := rfl

@[simp] lemma feed_unsubscribe (c c' : ℕ) (hub : FanoutHub ε) :
    hub.feed c (.unsubscribe c') = none := rfl

@[simp] lemma feed_publish (c : ℕ) (hub : FanoutHub ε) (e : ε) :
    hub.feed c (.publish e) = if hub.subscribed c then some (.put e) else none := rfl

@[simp] lemma feed_get (c c' : ℕ) (hub : FanoutHub ε) :
    hub.feed c (.get c') = if c' = c ∧ c < hub.channels.length then some .get else none := rfl

/-- The item a step returns to the sender loop of a channel. -/
def returned? (c : ℕ) : HubCall ε × HubReply ε → Option (Item ε)
  | (.get c', .item i) => if c' = c then i else none
  | _ => none

end Hub

end WebBridge

end MiniatureWarehouse
