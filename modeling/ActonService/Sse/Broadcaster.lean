import ActonService.Lib.Fanout
import ActonService.Lib.OrderedMap
import Mathlib.Data.Nat.Log

/-!
# Broadcasting server-sent events

`sse/broadcast.rs`: subscribers of the whole service and of named channels, and the messages that
are sent to either.  A named channel is made by its first subscriber.  What is done with the map of
channels is done under its lock without waiting in between, so the calls of a run come one after
another; a receiver reads and goes whenever its stream does.

## Main definitions

* `SseBroadcaster` — the channels, and `subscribe`, `subscribeChannel`, `broadcast`,
  `broadcastToChannel`.
* `Receiver`, `recv`, `release` — what a stream does with its receiver.
* `Call`, `SseBroadcaster.step` — the calls of a run.

## Main results

* `fanout_foldl` — a run is a run of each channel on its own.
* `sse_delivered` — **a subscriber is given what is sent to its channel**, in order, but for the
  gaps it is told of, and without gaps while it is no further behind than the capacity.
* `sse_answers` — **what a broadcast returns**, and which channels there are: a channel is never
  given up, and a broadcast to one that all have left fails.
-/

namespace ActonService.Sse

/-! ### The broadcaster -/

/-- `BroadcastMessage` -/
structure BroadcastMessage where
  eventType : Option String
  data : String
  id : Option String
  deriving DecidableEq, Repr

namespace BroadcastMessage

def new (data : String) : BroadcastMessage := ⟨none, data, none⟩

def named (eventType data : String) : BroadcastMessage := ⟨some eventType, data, none⟩

end BroadcastMessage

/-- How many places `tokio::sync::broadcast::channel` makes: the next power of two. -/
def channelSize (capacity : ℕ) : ℕ := Nat.pow 2 (Nat.clog 2 capacity)

/-- `SseBroadcaster`, without its connections. -/
structure SseBroadcaster where
  sender : Fanout BroadcastMessage
  channels : OrderedMap String (Fanout BroadcastMessage)
  capacity : ℕ

/-- A receiver of the service or of a named channel. -/
structure Receiver where
  channel : Option String
  index : ℕ
  deriving DecidableEq, Repr

namespace SseBroadcaster

/-- `with_capacity`, which panics without a place and with too many. -/
def withCapacity (capacity : ℕ) : Option SseBroadcaster :=
  if capacity = 0 ∨ UInt64.size / 2 ≤ capacity then none
  else some ⟨.new (channelSize capacity), .empty, capacity⟩

/-- `new` -/
def new : Option SseBroadcaster := withCapacity 256

variable (b : SseBroadcaster)

/-- `subscribe` -/
def subscribe : SseBroadcaster × Receiver :=
  ({ b with sender := b.sender.subscribe }, ⟨none, b.sender.receivers.length⟩)

/-- `subscribe_channel` -/
def subscribeChannel (channel : String) : SseBroadcaster × Receiver :=
  match b.channels.get? channel with
  | some sender =>
    ({ b with channels := b.channels.insert channel sender.subscribe },
      ⟨some channel, sender.receivers.length⟩)
  | none =>
    let sender := Fanout.new (channelSize b.capacity)
    ({ b with channels := b.channels.insert channel sender.subscribe }, ⟨some channel, 0⟩)

/-- `broadcast` -/
def broadcast (message : BroadcastMessage) : SseBroadcaster × Except BroadcastMessage ℕ :=
  ({ b with sender := b.sender.send message }, b.sender.sendResult message)

/-- `broadcast_to_channel` -/
def broadcastToChannel (channel : String) (message : BroadcastMessage) :
    SseBroadcaster × Except BroadcastMessage ℕ :=
  match b.channels.get? channel with
  | some sender =>
    ({ b with channels := b.channels.insert channel (sender.send message) },
      sender.sendResult message)
  | none => (b, .ok 0)

/-- `channel_count` -/
def channelCount : ℕ := b.channels.entries.length

/-- `has_channel` -/
def hasChannel (channel : String) : Bool := (b.channels.get? channel).isSome

/-- The sender of the service or of a named channel. -/
def sender? : Option String → Option (Fanout BroadcastMessage)
  | none => some b.sender
  | some channel => b.channels.get? channel

/-- The broadcaster with another sender in its place. -/
def withSender (channel : Option String) (sender : Fanout BroadcastMessage) : SseBroadcaster :=
  match channel with
  | none => { b with sender := sender }
  | some channel => { b with channels := b.channels.insert channel sender }

/-- `try_recv` of a receiver. -/
def recv (r : Receiver) : SseBroadcaster × Option (Receipt BroadcastMessage) :=
  match b.sender? r.channel with
  | some sender => (b.withSender r.channel (sender.receive r.index), sender.receipt r.index)
  | none => (b, none)

/-- A receiver is dropped, and its channel has one subscriber fewer from then on. -/
def release (r : Receiver) : SseBroadcaster :=
  match b.sender? r.channel with
  | some sender => b.withSender r.channel (sender.drop r.index)
  | none => b

end SseBroadcaster

/-! ### Runs -/

/-- The calls of a run: those of the broadcaster's functions, and those a client makes with a
receiver of its own. -/
inductive Call
  | subscribe
  | subscribeChannel (channel : String)
  | broadcast (message : BroadcastMessage)
  | broadcastToChannel (channel : String) (message : BroadcastMessage)
  | recv (r : Receiver)
  | release (r : Receiver)
  deriving DecidableEq, Repr

/-- The channel a call is about: one with a name, or the global one as `none`. -/
def Call.target : Call → Option String
  | .subscribe | .broadcast _ => none
  | .subscribeChannel channel | .broadcastToChannel channel _ => some channel
  | .recv r | .release r => r.channel

/-- What a call does with its channel. -/
def Call.action : Call → Fanout.Action BroadcastMessage
  | .subscribe | .subscribeChannel _ => .subscribe
  | .broadcast message | .broadcastToChannel _ message => .send message
  | .recv r => .receive r.index
  | .release r => .drop r.index

/-- What a call does with a channel. -/
def Call.on (channel : Option String) (c : Call) : Option (Fanout.Action BroadcastMessage) :=
  if c.target = channel then some c.action else none

/-- What is sent to a channel in a run. -/
def sentTo (channel : Option String) (cs : List Call) : List BroadcastMessage :=
  (cs.filterMap (Call.on channel)).filterMap Fanout.Action.sent?

namespace SseBroadcaster

/-- A subscription to the service or to a named channel. -/
def subscribeTo (b : SseBroadcaster) : Option String → SseBroadcaster × Receiver
  | none => b.subscribe
  | some channel => b.subscribeChannel channel

/-- What a call does to the broadcaster. -/
def step (b : SseBroadcaster) : Call → SseBroadcaster
  | .subscribe => b.subscribe.1
  | .subscribeChannel channel => (b.subscribeChannel channel).1
  | .broadcast message => (b.broadcast message).1
  | .broadcastToChannel channel message => (b.broadcastToChannel channel message).1
  | .recv r => (b.recv r).1
  | .release r => b.release r

/-- The channel, or the one its first subscriber will find. -/
def fanout (b : SseBroadcaster) (channel : Option String) : Fanout BroadcastMessage :=
  (b.sender? channel).getD (.new (channelSize b.capacity))

/-- Only a receiver that was handed out and is still there reads or goes. -/
def allowed (b : SseBroadcaster) (c : Call) : Prop := (b.fanout c.target).allowed c.action

instance (b : SseBroadcaster) : DecidablePred b.allowed := fun c =>
  inferInstanceAs (Decidable ((b.fanout c.target).allowed c.action))

/-- What a receiver is given by a call. -/
def given (r : Receiver) (b : SseBroadcaster) : Call → List (Receipt BroadcastMessage)
  | .recv r' => if r' = r then (b.recv r).2.toList else []
  | _ => []

/-- What a receiver is given in a run. -/
def received (r : Receiver) (b : SseBroadcaster) (cs : List Call) :
    List (Receipt BroadcastMessage) :=
  Run.trace step (given r) b cs

end SseBroadcaster

/-! ### A run of each channel -/

section Channels

variable {b : SseBroadcaster} {capacity : ℕ} {channel : Option String}

open SseBroadcaster

theorem fanout_withSender (target : Option String) (sender : Fanout BroadcastMessage) :
    (b.withSender target sender).fanout channel
      = if target = channel then sender else b.fanout channel := by
  cases target with
  | none =>
    cases channel with
    | none => rfl
    | some channel => rfl
  | some target =>
    cases channel with
    | none => rfl
    | some channel =>
      rw [fanout, sender?, withSender, OrderedMap.get?_insert]
      by_cases h : channel = target
      · simp [h]
      · have hne : ¬ target = channel := fun heq => h heq.symm
        simp [h, hne, fanout, sender?]

/-- A call takes a step of its channel, if there is something to do there. -/
theorem step_cases (b : SseBroadcaster) (c : Call) :
    b.step c = b.withSender c.target ((b.fanout c.target).step c.action) ∨
      (b.step c = b ∧ (b.fanout c.target).step c.action = b.fanout c.target) := by
  cases c with
  | subscribe => exact .inl rfl
  | broadcast message => exact .inl rfl
  | subscribeChannel channel =>
    left
    rw [step, subscribeChannel]
    rcases h : b.channels.get? channel with _ | sender <;>
      simp [h, Call.target, Call.action, withSender, fanout, sender?, Fanout.step]
  | broadcastToChannel channel message =>
    rcases h : b.channels.get? channel with _ | sender
    · exact .inr ⟨by simp [step, broadcastToChannel, h],
        by simp [h, Call.target, Call.action, fanout, sender?, Fanout.step, Fanout.send,
          Fanout.live, Fanout.new]⟩
    · exact .inl (by simp [step, broadcastToChannel, h, Call.target, Call.action, withSender,
        fanout, sender?, Fanout.step])
  | recv r =>
    rcases h : b.sender? r.channel with _ | sender
    · exact .inr ⟨by simp [step, recv, h],
        by simp [h, Call.target, Call.action, fanout, Fanout.step, Fanout.receive, Fanout.new]⟩
    · exact .inl (by simp [step, recv, h, Call.target, Call.action, fanout, Fanout.step])
  | release r =>
    rcases h : b.sender? r.channel with _ | sender
    · exact .inr ⟨by simp [step, release, h],
        by simp [h, Call.target, Call.action, fanout, Fanout.step, Fanout.drop, Fanout.new]⟩
    · exact .inl (by simp [step, release, h, Call.target, Call.action, fanout, Fanout.step])

/-- A call is a step of its channel, and leaves the others as they are. -/
theorem fanout_step (b : SseBroadcaster) (c : Call) (channel : Option String) :
    (b.step c).fanout channel = (c.on channel).elim (b.fanout channel) (b.fanout channel).step := by
  rw [Call.on]
  obtain hstep | ⟨hstep, hsame⟩ := step_cases b c
  · rw [hstep, fanout_withSender]
    by_cases h : c.target = channel
    · subst h
      simp
    · simp [h]
  · rw [hstep]
    by_cases h : c.target = channel
    · subst h
      simpa using hsame.symm
    · simp [h]

/-- **A run is a run of each channel on its own.** -/
theorem fanout_foldl (b : SseBroadcaster) (cs : List Call) (channel : Option String) :
    (cs.foldl step b).fanout channel
      = (cs.filterMap (Call.on channel)).foldl Fanout.step (b.fanout channel) := by
  induction cs generalizing b with
  | nil => rfl
  | cons c cs ih =>
    rw [List.foldl_cons, ih, fanout_step, List.filterMap_cons]
    cases c.on channel <;> rfl

theorem recv_snd (b : SseBroadcaster) (r : Receiver) :
    (b.recv r).2 = (b.fanout r.channel).receipt r.index := by
  rw [recv, fanout]
  rcases b.sender? r.channel with _ | sender
  · simp [Fanout.receipt, Fanout.place?, Fanout.new]
  · rfl

/-- What a call gives a receiver is what its channel gives it. -/
theorem given_eq (r : Receiver) (b : SseBroadcaster) (c : Call) :
    given r b c = (c.on r.channel).elim [] (Fanout.given r.index (b.fanout r.channel)) := by
  cases c with
  | recv r' =>
    by_cases h : r' = r
    · subst h
      simp [given, recv_snd, Call.on, Call.target, Call.action, Fanout.given]
    · by_cases hchannel : r'.channel = r.channel
      · have hindex : r'.index ≠ r.index := fun hindex => h (by
          obtain ⟨channel, index⟩ := r
          cases r'
          simp_all)
        simp [given, h, Call.on, Call.target, hchannel, Call.action, Fanout.given, hindex]
      · simp [given, h, Call.on, Call.target, hchannel]
  | _ =>
    rw [Call.on]
    split <;> rfl

/-- What a receiver is given is what its channel gives it. -/
theorem received_eq (r : Receiver) (b : SseBroadcaster) (cs : List Call) :
    received r b cs
      = Fanout.receipts r.index (b.fanout r.channel) (cs.filterMap (Call.on r.channel)) := by
  induction cs generalizing b with
  | nil => rfl
  | cons c cs ih =>
    have hrun : received r b (c :: cs) = given r b c ++ received r (b.step c) cs := rfl
    rw [hrun, ih, given_eq, fanout_step, List.filterMap_cons]
    cases c.on r.channel <;> rfl

/-- A subscription is one to the channel, and hands out its new receiver. -/
theorem subscribeTo_eq (b : SseBroadcaster) (channel : Option String) :
    (b.subscribeTo channel).1.fanout channel = (b.fanout channel).subscribe ∧
      (b.subscribeTo channel).2 = ⟨channel, (b.fanout channel).receivers.length⟩ := by
  cases channel with
  | none => exact ⟨rfl, rfl⟩
  | some channel =>
    rw [subscribeTo, subscribeChannel]
    rcases h : b.channels.get? channel with _ | sender
    · simp [h, fanout, sender?, OrderedMap.get?_insert, Fanout.new]
    · simp [h, fanout, sender?, OrderedMap.get?_insert]

theorem fanout_withCapacity (h : withCapacity capacity = some b) (channel : Option String) :
    b.fanout channel = .new (channelSize capacity) := by
  rw [withCapacity] at h
  split at h
  · cases h
  · cases h
    cases channel <;> rfl

theorem drop_mem_on {i : ℕ} {cs : List Call}
    (h : Fanout.Action.drop i ∈ cs.filterMap (Call.on channel)) : .release ⟨channel, i⟩ ∈ cs := by
  obtain ⟨c, hc, hon⟩ := List.mem_filterMap.mp h
  rw [Call.on] at hon
  obtain ⟨htarget, haction⟩ := Option.ite_none_right_eq_some.mp hon
  cases c with
  | release r =>
    cases haction
    cases htarget
    exact hc
  | _ => cases haction

/-- A run does with each channel what can be done there. -/
theorem allowed_on {cs : List Call} (h : Run.Allowed step allowed b cs) (channel : Option String) :
    Run.Allowed Fanout.step Fanout.allowed (b.fanout channel) (cs.filterMap (Call.on channel)) := by
  induction cs generalizing b with
  | nil => trivial
  | cons c cs ih =>
    have hrest := ih h.2
    rw [fanout_step] at hrest
    rw [List.filterMap_cons]
    rcases hon : c.on channel with _ | a
    · rw [hon] at hrest
      exact hrest
    · rw [hon] at hrest
      rw [Call.on] at hon
      obtain ⟨htarget, haction⟩ := Option.ite_none_right_eq_some.mp hon
      cases haction
      cases htarget
      exact ⟨h.1, hrest⟩

end Channels

/-! ### Which channels there are -/

/-- The named channels that were subscribed to. -/
def Call.topic? : Call → Option String
  | .subscribeChannel channel => some channel
  | _ => none

/-- How many have subscribed to a channel. -/
def subscribers (channel : Option String) (cs : List Call) : ℕ :=
  Fanout.subscriptions (cs.filterMap (Call.on channel))

/-- How many have left a channel. -/
def leavers (channel : Option String) (cs : List Call) : ℕ :=
  Fanout.departures (cs.filterMap (Call.on channel))

section Topics

variable {b : SseBroadcaster} {capacity : ℕ}

open SseBroadcaster

/-- **A channel is there once it was subscribed to**, and stays. -/
theorem hasChannel_step (b : SseBroadcaster) (c : Call) (channel : String) :
    (b.step c).hasChannel channel = true ↔
      b.hasChannel channel = true ∨ c.topic? = some channel := by
  -- putting a sender where there is one changes nothing of which channels there are
  have hinsert : ∀ (name : String) (sender : Fanout BroadcastMessage),
      (b.channels.get? name).isSome = true →
      (((b.channels.insert name sender).get? channel).isSome = true ↔
        (b.channels.get? channel).isSome = true) := by
    intro name sender hname
    rw [OrderedMap.get?_insert]
    by_cases h : channel = name
    · subst h
      simpa using hname
    · simp [h]
  -- nor does a step of the sender of a receiver
  have hwith : ∀ (target : Option String) (sender : Fanout BroadcastMessage),
      (b.sender? target).isSome = true →
      ((b.withSender target sender).hasChannel channel = true ↔ b.hasChannel channel = true) := by
    intro target sender htarget
    cases target with
    | none => exact Iff.rfl
    | some name => exact hinsert name sender htarget
  cases c with
  | subscribe => simp [step, SseBroadcaster.subscribe, hasChannel, Call.topic?]
  | broadcast message => simp [step, SseBroadcaster.broadcast, hasChannel, Call.topic?]
  -- the one call that makes a channel
  | subscribeChannel name =>
    have hchannels : ∃ sender, (b.step (.subscribeChannel name)).channels
        = b.channels.insert name sender := by
      rw [step, SseBroadcaster.subscribeChannel]
      split <;> exact ⟨_, rfl⟩
    obtain ⟨sender, hsender⟩ := hchannels
    rw [hasChannel, hsender, OrderedMap.get?_insert, hasChannel, Call.topic?]
    by_cases h : channel = name
    · simp [h]
    · have hne : ¬ name = channel := fun heq => h heq.symm
      simp [h, hne]
  -- a broadcast to a channel that is not there does not make it
  | broadcastToChannel name message =>
    rw [step, SseBroadcaster.broadcastToChannel]
    rcases h : b.channels.get? name with _ | sender
    · simp [Call.topic?]
    · simpa [Call.topic?, hasChannel] using hinsert name (sender.send message) (by rw [h]; rfl)
  -- a receiver finds the sender it was made by, and leaves it in its place
  | recv r =>
    rw [step, SseBroadcaster.recv]
    rcases h : b.sender? r.channel with _ | sender
    · simp [Call.topic?]
    · simpa [Call.topic?] using hwith r.channel (sender.receive r.index) (by rw [h]; rfl)
  | release r =>
    rw [step, SseBroadcaster.release]
    rcases h : b.sender? r.channel with _ | sender
    · simp [Call.topic?]
    · simpa [Call.topic?] using hwith r.channel (sender.drop r.index) (by rw [h]; rfl)

theorem hasChannel_foldl (b : SseBroadcaster) (cs : List Call) (channel : String) :
    (cs.foldl step b).hasChannel channel = true ↔
      b.hasChannel channel = true ∨ channel ∈ cs.filterMap Call.topic? := by
  induction cs generalizing b with
  | nil => simp
  | cons c cs ih =>
    rw [List.foldl_cons, ih, hasChannel_step, or_assoc, List.filterMap_cons]
    rcases c.topic? with _ | name
    · simp
    · have hname : some name = some channel ↔ channel = name :=
        ⟨fun h => (Option.some.inj h).symm, fun h => congrArg some h.symm⟩
      rw [hname, List.mem_cons]

theorem mem_keys_iff (b : SseBroadcaster) (channel : String) :
    channel ∈ b.channels.entries.map Prod.fst ↔ b.hasChannel channel = true := by
  rw [hasChannel, Option.isSome_iff_exists, List.mem_map]
  constructor
  · rintro ⟨⟨name, sender⟩, hmem, rfl⟩
    exact ⟨sender, OrderedMap.get?_eq_some_iff.mpr hmem⟩
  · rintro ⟨sender, hsender⟩
    exact ⟨_, OrderedMap.get?_eq_some_iff.mp hsender, rfl⟩

theorem hasChannel_withCapacity (h : withCapacity capacity = some b) (channel : String) :
    b.hasChannel channel = false := by
  rw [withCapacity] at h
  split at h
  · cases h
  · cases h
    rfl

end Topics

/-! ### Runs of the broadcaster -/

section Results

variable {b b' : SseBroadcaster} {capacity : ℕ} {channel : Option String} {r : Receiver}

open SseBroadcaster

/-- **A subscriber is given what is sent to its channel**, from its subscription on and in order,
but for the gaps it is told of.  The next it is given is the next it has not read; it misses nothing
while it is no further behind than the capacity. -/
theorem sse_delivered (hnew : withCapacity capacity = some b) {before after : List Call}
    (hsubscribed : (before.foldl step b).subscribeTo channel = (b', r))
    (hstays : .release r ∉ after) :
    ReadsOff (received r b' after) (sentTo channel after) ∧
      ((after.foldl step b').recv r).2 = some (nextReceipt (channelSize capacity)
        ((sentTo channel after).drop (advanceAll (received r b' after)))) ∧
      ((sentTo channel after).length ≤ advanceAll (received r b' after) + capacity →
        ∀ missed, ((after.foldl step b').recv r).2 ≠ some (.lagged missed)) := by
  obtain ⟨hfanout, hreceiver⟩ := subscribeTo_eq (before.foldl step b) channel
  rw [hsubscribed] at hfanout hreceiver
  simp only at hfanout hreceiver
  -- the calls before have made a log of the channel
  have hchannel := fanout_foldl b before channel
  rw [fanout_withCapacity hnew] at hchannel
  obtain ⟨log, hlog⟩ := (Fanout.logs_new (channelSize capacity)).run
    (before.filterMap (Call.on channel))
  rw [← hchannel] at hlog
  -- the capacity of the channel is that of the broadcaster, whoever made it
  have hsize : ((before.foldl step b).fanout channel).size = channelSize capacity := by
    rw [hchannel, Fanout.size_run]
    rfl
  have hreceived : received r b' after = Fanout.receipts
      ((before.foldl step b).fanout channel).receivers.length (b'.fanout channel)
      (after.filterMap (Call.on channel)) := by
    rw [received_eq, hreceiver]
  have hrecv : ((after.foldl step b').recv r).2 = ((after.foldl step b').fanout channel).receipt
      ((before.foldl step b).fanout channel).receivers.length := by
    rw [recv_snd, hreceiver]
  -- on its channel the receiver is one that has just subscribed
  have hthere : Fanout.Action.drop ((before.foldl step b).fanout channel).receivers.length
      ∉ after.filterMap (Call.on channel) := by
    intro hdrop
    rw [hreceiver] at hstays
    exact hstays (drop_mem_on hdrop)
  obtain ⟨hreads, hnext⟩ := Fanout.read_of_run hlog hthere
  rw [← hfanout, ← fanout_foldl, hsize, ← hrecv, ← hreceived] at hnext
  rw [← hfanout, ← hreceived] at hreads
  -- a receiver that is less than the capacity behind has not been overtaken
  refine ⟨hreads, hnext, fun hnear missed hlagged => ?_⟩
  have hle : capacity ≤ channelSize capacity := Nat.le_pow_clog (by decide) capacity
  rw [sentTo] at hnear
  rw [hnext] at hlagged
  refine nextReceipt_ne_lagged ?_ missed (Option.some.inj hlagged)
  rw [List.length_drop]
  omega

/-- A broadcaster of capacity two. -/
def sampleBroadcaster : SseBroadcaster := ⟨.new (channelSize 2), .empty, 2⟩

/-- Somebody has subscribed to the news. -/
def sampleBefore : List Call := [.subscribeChannel "news"]

/-- The second subscriber has been given one message, and more were sent. -/
def sampleSince : List Call :=
  [.broadcastToChannel "news" (.new "a"), .recv ⟨some "news", 1⟩,
   .broadcastToChannel "news" (.new "b"), .broadcast (.new "c")]

theorem sse_delivered_sample :
    let b' := ((sampleBefore.foldl step sampleBroadcaster).subscribeTo (some "news")).1
    ((sampleSince.foldl step b').recv ⟨some "news", 1⟩).2
      = some (nextReceipt (channelSize 2) ((sentTo (some "news") sampleSince).drop
          (advanceAll (received ⟨some "news", 1⟩ b' sampleSince)))) := by
  have hnew : withCapacity 2 = some sampleBroadcaster := rfl
  have hsubscribed : (sampleBefore.foldl step sampleBroadcaster).subscribeTo (some "news")
      = (((sampleBefore.foldl step sampleBroadcaster).subscribeTo (some "news")).1,
        ⟨some "news", 1⟩) := rfl
  exact (sse_delivered hnew hsubscribed (by simp [sampleSince])).2.1

/-- A send counts those who have subscribed and not left. -/
theorem sendResult_of_run (hnew : withCapacity capacity = some b) {cs : List Call}
    (hcs : Run.Allowed step allowed b cs) (message : BroadcastMessage) (channel : Option String) :
    ((cs.foldl step b).fanout channel).sendResult message
      = if subscribers channel cs = leavers channel cs then .error message
        else .ok (subscribers channel cs - leavers channel cs) := by
  have hlive := Fanout.live_of_run (allowed_on hcs channel)
  rw [← fanout_foldl, fanout_withCapacity hnew] at hlive
  have hcount : ((cs.foldl step b).fanout channel).live + leavers channel cs
      = subscribers channel cs := hlive.trans (Nat.zero_add _)
  rw [Fanout.sendResult]
  by_cases h : subscribers channel cs = leavers channel cs
  · have hnobody : ((cs.foldl step b).fanout channel).live = 0 := by omega
    rw [if_pos h, if_pos hnobody]
  · have hsomebody : ¬ ((cs.foldl step b).fanout channel).live = 0 := by omega
    rw [if_neg h, if_neg hsomebody, ← hcount, Nat.add_sub_cancel]

/-- **What a broadcast returns**: the number of those who have subscribed and not left, or the
message if there are none; nobody, if the channel was never subscribed to.  There are as many named
channels as were ever subscribed to. -/
theorem sse_answers (hnew : withCapacity capacity = some b) {cs : List Call}
    (hcs : Run.Allowed step allowed b cs) (message : BroadcastMessage) (name : String) :
    ((cs.foldl step b).broadcast message).2
        = (if subscribers none cs = leavers none cs then .error message
          else .ok (subscribers none cs - leavers none cs)) ∧
      ((cs.foldl step b).broadcastToChannel name message).2
        = (if name ∉ cs.filterMap Call.topic? then .ok 0
          else if subscribers (some name) cs = leavers (some name) cs then .error message
          else .ok (subscribers (some name) cs - leavers (some name) cs)) ∧
      ((cs.foldl step b).hasChannel name = true ↔ name ∈ cs.filterMap Call.topic?) ∧
      (cs.foldl step b).channelCount = (cs.filterMap Call.topic?).dedup.length := by
  -- the channels that are there are those that were ever subscribed to
  have hhas : ∀ name, (cs.foldl step b).hasChannel name = true ↔
      name ∈ cs.filterMap Call.topic? := by
    intro name
    rw [hasChannel_foldl, hasChannel_withCapacity hnew]
    simp
  refine ⟨sendResult_of_run hnew hcs message none, ?_, hhas name, ?_⟩
  · -- a broadcast to a channel that is there goes to its subscribers
    rcases h : (cs.foldl step b).channels.get? name with _ | sender
    · have hnot : name ∉ cs.filterMap Call.topic? := by
        rw [← hhas, hasChannel, h]
        exact Bool.false_ne_true
      rw [broadcastToChannel, h, if_pos hnot]
    · have hmem : name ∈ cs.filterMap Call.topic? := by
        rw [← hhas, hasChannel, h]
        rfl
      have hfanout : (cs.foldl step b).fanout (some name) = sender := by
        rw [fanout, sender?, h]
        rfl
      have hresult := sendResult_of_run hnew hcs message (some name)
      rw [hfanout] at hresult
      rw [broadcastToChannel, h, if_neg (not_not_intro hmem)]
      exact hresult
  · -- each channel stands in the table once
    have hperm : ((cs.foldl step b).channels.entries.map Prod.fst).Perm
        (cs.filterMap Call.topic?).dedup := by
      refine (List.perm_ext_iff_of_nodup (cs.foldl step b).channels.nodup
        (List.nodup_dedup _)).mpr fun name => ?_
      rw [mem_keys_iff, hhas, List.mem_dedup]
    rw [channelCount, ← hperm.length_eq, List.length_map]

/-- Two have subscribed to the news, and the first has left. -/
def sampleLeft : List Call :=
  [.subscribeChannel "news", .subscribeChannel "news", .release ⟨some "news", 0⟩]

theorem sse_answers_sample :
    ((sampleLeft.foldl step sampleBroadcaster).broadcastToChannel "news" (.new "a")).2 = .ok 1 := by
  have hnew : withCapacity 2 = some sampleBroadcaster := rfl
  have hallowed : Run.Allowed step allowed sampleBroadcaster sampleLeft :=
    ⟨trivial, trivial, rfl, trivial⟩
  exact (sse_answers hnew hallowed (.new "a") "news").2.1

end Results

end ActonService.Sse
