import ActonService.Lib.FairChannel
import ActonService.Lib.Run
import ActonService.Tls.Credentials
import Mathlib.Data.List.Induction

/-!
# The listener

`TlsListener` of `tls.rs` and its pump.  The pump takes connections from the TCP listener and runs
the handshake of each in a task of its own, for no longer than a timeout; the streams get to
`accept` through a bounded channel.  The tasks, the pump, the reloads of the credentials and the
calls of `accept` go on in any order, and time passes between them, in nanoseconds.

A peer is the number of its connection.  What it sends, and so how its handshake ends, is up to it.

## Main definitions

* `Handshake`, `Pump`, `TlsListener` — where a handshake is, where the pump is, and the whole.
* `ListenerAction`, `TlsListener.step`, `TlsListener.Allows` — what may happen.
* `ListenerInv` — what the tasks, the channel and the records have to do with each other.
* `TlsListener.without`, `leftOut` — a listener, and a run, without some of the peers.

## Main results

* `delivered_once` — **a connection is delivered at most once, under the credentials that were
  current when it was accepted, and none is lost.**
* `stalled_have_no_influence` — **peers that never complete a handshake change nothing for the
  others.**
* `exists_delivery` — **no stream needs another peer to be delivered.**
* `streams_unbounded` — the channel is bounded, the streams that wait for it are not.
-/

namespace ActonService.Tls

open Run

/-! ### The code -/

/-- Where the handshake of a connection is. -/
inductive Handshake
  /-- The connection has not been accepted. -/
  | absent
  | running (config : ServerConfig) (deadline : ℕ)
  /-- It has succeeded, and its task waits in `tx.send`. -/
  | sending (config : ServerConfig)
  | sent
  | failed
  | timedOut
  /-- It has succeeded, and the receiver of the channel has gone. -/
  | moot
  deriving DecidableEq, Repr

/-- The configuration a handshake is bound to. -/
def Handshake.config? : Handshake → Option ServerConfig
  | .running config _ => some config
  | .sending config => some config
  | _ => none

/-- It has ended without a stream. -/
def Handshake.isOver : Handshake → Bool
  | .failed => true
  | .timedOut => true
  | .moot => true
  | _ => false

theorem Handshake.of_isOver {ended : Handshake} (h : ended.isOver = true) :
    ended ≠ .absent ∧ ended.config? = none ∧ ended ≠ .sent ∧ ∀ config, ended ≠ .sending config := by
  cases ended <;> simp [isOver, config?] at h ⊢

/-- It is running, and its timeout has elapsed. -/
def Handshake.Overdue (now : ℕ) : Handshake → Prop
  | .running _ deadline => deadline ≤ now
  | _ => False

/-- Where the pump is: not spawned yet, accepting, pausing after an error, or aborted. -/
inductive Pump
  | unspawned
  | accepting
  /-- `sleep` after a failed `accept` -/
  | pausing (wakes : ℕ)
  | aborted
  deriving DecidableEq, Repr

/-- The pump is there from the first call of `accept`. -/
def Pump.spawn : Pump → Pump
  | .unspawned => .accepting
  | pump => pump

/-- The pause is over: the pump sleeps, and its time to wake has come. -/
def Pump.Wakes (now : ℕ) : Pump → Prop
  | .pausing wakes => wakes ≤ now
  | _ => False

/-- `HANDSHAKE_CHANNEL_CAPACITY` -/
def handshakeChannelCapacity : ℕ := 1024

/-- The seconds of `Duration::from_secs` -/
def nanoseconds (secs : ℕ) : ℕ := secs * 1000000000

/-- `DEFAULT_HANDSHAKE_TIMEOUT` -/
def defaultHandshakeTimeout : ℕ := nanoseconds 10

/-- A listener with its pump and the tasks of the handshakes. -/
structure TlsListener where
  handshakeTimeout : ℕ
  now : ℕ
  /-- What `config_source.load` returns. -/
  current : ServerConfig
  pump : Pump
  /-- The connections that wait in the TCP listener. -/
  backlog : List ℕ
  handshakes : ℕ → Handshake
  channel : FairChannel ℕ (ℕ × ServerConfig)
  dropped : Bool
  /-- Who has been accepted, and what `load` has returned then, for the record. -/
  accepted : List (ℕ × ServerConfig)
  /-- What `accept` has returned. -/
  delivered : List (ℕ × ServerConfig)

/-- What happens next: peers connect and go on with their handshakes, the service accepts, reloads
and drops the listener, and time passes. -/
inductive ListenerAction
  | connect (peer : ℕ)
  /-- `accept` is polled. -/
  | accept
  /-- The pump takes a connection, or fails to. -/
  | acceptTcp
  | acceptFails
  | resume
  /-- A reload installs a configuration. -/
  | reload (config : ServerConfig)
  /-- A handshake comes to an end. -/
  | finish (peer : ℕ) (ok : Bool)
  /-- Its timeout ends the handshake of the peer. -/
  | expire (peer : ℕ)
  /-- A task goes on in `tx.send`. -/
  | put (peer : ℕ)
  | pass (duration : ℕ)
  | drop
  /-- The abort of the pump takes effect. -/
  | abort
  deriving DecidableEq, Repr

namespace TlsListener

/-- `with_config_source` and `with_handshake_timeout` -/
def new (handshakeTimeout : ℕ) (config : ServerConfig) : TlsListener where
  handshakeTimeout := handshakeTimeout
  now := 0
  current := config
  pump := .unspawned
  backlog := []
  handshakes _ := .absent
  channel := .new handshakeChannelCapacity
  dropped := false
  accepted := []
  delivered := []

def setHandshake (s : TlsListener) (peer : ℕ) (handshake : Handshake) : TlsListener :=
  { s with handshakes := Function.update s.handshakes peer handshake }

/-- `accept`: the first call starts the pump. -/
def accept (s : TlsListener) : TlsListener :=
  match s.channel.receive? with
  | none => { s with pump := s.pump.spawn }
  | some (stream, channel) =>
    { s with pump := s.pump.spawn, channel := channel, delivered := s.delivered ++ [stream] }

/-- The pump: the connection gets the configuration of this moment. -/
def acceptTcp (s : TlsListener) : TlsListener :=
  match s.backlog with
  | [] => s
  | peer :: backlog =>
    { s with
      backlog := backlog
      handshakes := Function.update s.handshakes peer
        (.running s.current (s.now + s.handshakeTimeout))
      accepted := s.accepted ++ [(peer, s.current)] }

/-- The task of a handshake that has succeeded sends the stream. -/
def send (s : TlsListener) (peer : ℕ) (config : ServerConfig) : TlsListener :=
  if s.dropped then s.setHandshake peer .moot
  else
    match s.channel.send peer (peer, config) with
    | (channel, true) => { s.setHandshake peer .sent with channel := channel }
    | (channel, false) => { s.setHandshake peer (.sending config) with channel := channel }

/-- The task goes on with the send. -/
def put (s : TlsListener) (peer : ℕ) (config : ServerConfig) : TlsListener :=
  if s.dropped then s.setHandshake peer .moot
  else
    match s.channel.put? peer (peer, config) with
    | none => s
    | some channel => { s.setHandshake peer .sent with channel := channel }

def step (s : TlsListener) : ListenerAction → TlsListener
  | .connect peer => { s with backlog := s.backlog ++ [peer] }
  | .accept => s.accept
  | .acceptTcp => s.acceptTcp
  | .acceptFails => { s with pump := .pausing (s.now + nanoseconds 1) }
  | .resume => { s with pump := .accepting }
  | .reload config => { s with current := config }
  | .finish peer ok =>
    match s.handshakes peer with
    | .running config _ => if ok then s.send peer config else s.setHandshake peer .failed
    | _ => s
  | .expire peer => s.setHandshake peer .timedOut
  | .put peer =>
    match s.handshakes peer with
    | .sending config => s.put peer config
    | _ => s
  | .pass duration => { s with now := s.now + duration }
  | .drop => { s with dropped := true, channel := .new s.channel.capacity }
  | .abort => { s with pump := .aborted }

/-- What may happen in a state; what the pump and the tasks do is possible only where the source can
do it. -/
def Allows (s : TlsListener) : ListenerAction → Prop
  | .connect peer => s.pump ≠ .aborted ∧ s.handshakes peer = .absent ∧ peer ∉ s.backlog
  | .accept => s.dropped = false
  | .acceptTcp => s.pump = .accepting ∧ s.backlog ≠ []
  | .acceptFails => s.pump = .accepting
  | .resume => s.pump.Wakes s.now
  | .reload _ => True
  | .finish peer _ => ∃ config deadline, s.handshakes peer = .running config deadline
  | .expire peer => (s.handshakes peer).Overdue s.now
  | .put peer => (∃ config, s.handshakes peer = .sending config) ∧
      (s.dropped = true ∨ peer ∈ s.channel.granted)
  | .pass _ => True
  | .drop => s.dropped = false
  | .abort => s.dropped = true

/-- The states of a listener in operation. -/
abbrev Reached (handshakeTimeout : ℕ) (config : ServerConfig) : TlsListener → Prop :=
  Reach step Allows (new handshakeTimeout config)

/-- What the actions have led to. -/
abbrev after (s : TlsListener) (as : List ListenerAction) : TlsListener := as.foldl step s

end TlsListener

open TlsListener

/-! ### The invariant -/

/-- The streams that `accept` has returned or that are in the channel. -/
def TlsListener.streams (s : TlsListener) : List (ℕ × ServerConfig) :=
  s.delivered ++ s.channel.queue

/-- What the handshake of a peer has to do with where the peer is found. -/
structure PeerInv (s : TlsListener) (p : ℕ) (x : Handshake) : Prop where
  fresh : p ∈ s.backlog → x = .absent
  absent : x = .absent ↔ ∀ config, (p, config) ∉ s.accepted
  /-- A handshake is bound to what its connection was accepted with. -/
  config : ∀ config, x.config? = some config → (p, config) ∈ s.accepted
  stream : ∀ config, (p, config) ∈ s.streams → x = .sent
  /-- No stream is lost while there is a listener. -/
  sent : s.dropped = false → x = .sent → ∃ config, (p, config) ∈ s.streams
  sender : s.dropped = false → (p ∈ s.channel.senders ↔ ∃ config, x = .sending config)
  live : s.dropped = false → x ≠ .moot

/-- **What the tasks, the channel and the records have to do with each other.** -/
structure ListenerInv (s : TlsListener) : Prop where
  backlog : s.backlog.Nodup
  accepted : (s.accepted.map Prod.fst).Nodup
  streams : (s.streams.map Prod.fst).Nodup
  stream : ∀ x ∈ s.streams, x ∈ s.accepted
  sound : s.channel.Sound
  capacity : s.channel.capacity = handshakeChannelCapacity
  live : s.dropped = false → s.pump ≠ .aborted
  peers : ∀ p, PeerInv s p (s.handshakes p)

theorem listenerInv_new (handshakeTimeout : ℕ) (config : ServerConfig) :
    ListenerInv (TlsListener.new handshakeTimeout config) where
  backlog := List.nodup_nil
  accepted := List.nodup_nil
  streams := List.nodup_nil
  stream _ h := by cases h
  sound := FairChannel.sound_new _
  capacity := rfl
  live _ h := by cases h
  peers _ :=
    { fresh := fun _ => rfl
      absent := iff_of_true rfl fun _ => List.not_mem_nil
      config := fun _ h => by cases h
      stream := fun _ h => by cases h
      sent := fun _ h => by cases h
      sender := fun _ => iff_of_false List.not_mem_nil fun ⟨_, h⟩ => by cases h
      live := fun _ h => by cases h }

section Invariant

variable {s s' : TlsListener} {p : ℕ} {x : Handshake}

/-- A peer is found where it was: an action that is about another one has left it alone. -/
structure Untouched (p : ℕ) (s s' : TlsListener) : Prop where
  backlog : p ∈ s'.backlog → p ∈ s.backlog
  accepted : ∀ config, (p, config) ∈ s'.accepted ↔ (p, config) ∈ s.accepted
  streams : ∀ config, (p, config) ∈ s'.streams ↔ (p, config) ∈ s.streams
  senders : p ∈ s'.channel.senders ↔ p ∈ s.channel.senders
  dropped : s'.dropped = s.dropped

theorem PeerInv.of_untouched (h : PeerInv s p x) (hsame : Untouched p s s') : PeerInv s' p x where
  fresh hp := h.fresh (hsame.backlog hp)
  absent := by simp only [h.absent, hsame.accepted]
  config config hx := (hsame.accepted config).mpr (h.config config hx)
  stream config hx := h.stream config ((hsame.streams config).mp hx)
  sent hlive hx := by
    obtain ⟨config, hmem⟩ := h.sent (hsame.dropped ▸ hlive) hx
    exact ⟨config, (hsame.streams config).mpr hmem⟩
  sender hlive := hsame.senders.trans (h.sender (hsame.dropped ▸ hlive))
  live hlive := h.live (hsame.dropped ▸ hlive)

/-- A step of one handshake leaves the other peers alone. -/
theorem peers_update (h : ∀ q, PeerInv s q (s.handshakes q)) (hp : PeerInv s' p x)
    (hsame : ∀ q, q ≠ p → Untouched q s s') :
    ∀ q, PeerInv s' q (Function.update s.handshakes p x q) := by
  intro q
  by_cases hqp : q = p
  · rw [hqp, Function.update_self]
    exact hp
  · rw [Function.update_of_ne hqp]
    exact (h q).of_untouched (hsame q hqp)

/-- A handshake ends without a stream, and everything else stays as it was. -/
theorem ListenerInv.ends (h : ListenerInv s) (hover : x.isOver = true)
    (hmoot : s.dropped = false → x ≠ .moot) (habsent : s.handshakes p ≠ .absent)
    (hsent : s.handshakes p ≠ .sent)
    (hsending : s.dropped = false → ∀ config, s.handshakes p ≠ .sending config) :
    ListenerInv (s.setHandshake p x) := by
  have hp := h.peers p
  obtain ⟨hx, hconfig, hxsent, hxsending⟩ := Handshake.of_isOver hover
  refine { h with peers := peers_update h.peers ?_ fun q _ => ?_ }
  swap
  · exact ⟨id, fun _ => .rfl, fun _ => .rfl, .rfl, rfl⟩
  exact
    { fresh := fun hmem => (habsent (hp.fresh hmem)).elim
      absent := iff_of_false hx fun hnot => habsent (hp.absent.mpr hnot)
      config := fun config hsome => by
        rw [hconfig] at hsome
        cases hsome
      stream := fun config hmem => (hsent (hp.stream config hmem)).elim
      sent := fun _ heq => (hxsent heq).elim
      sender := fun hlive => iff_of_false
        (fun hmem => ((hp.sender hlive).mp hmem).elim (hsending hlive))
        fun ⟨config, heq⟩ => hxsending config heq
      live := hmoot }

/-- A stream gets into the channel, behind those that are there, and its handshake is over. -/
theorem ListenerInv.sends (h : ListenerInv s) {config : ServerConfig}
    {channel : FairChannel ℕ (ℕ × ServerConfig)} (hconfig : (s.handshakes p).config? = some config)
    (hqueue : channel.queue = s.channel.queue ++ [(p, config)]) (hsound : channel.Sound)
    (hcapacity : channel.capacity = s.channel.capacity)
    (hsenders : ∀ q, q ∈ channel.senders ↔ q ∈ s.channel.senders ∧ q ≠ p) :
    ListenerInv { s.setHandshake p .sent with channel := channel } := by
  have hp := h.peers p
  have hmem := hp.config config hconfig
  -- the peer has sent no stream before, since its handshake was not over
  have hnew : ∀ config, (p, config) ∉ s.streams := by
    intro config' hstream
    rw [hp.stream config' hstream] at hconfig
    cases hconfig
  let s' : TlsListener := { s.setHandshake p .sent with channel := channel }
  have hstreams : s'.streams = s.streams ++ [(p, config)] := by
    rw [TlsListener.streams, TlsListener.streams, List.append_assoc, ← hqueue]
    rfl
  show ListenerInv s'
  refine
    { h with
      streams := ?_
      stream := fun y hy => ?_
      sound := hsound
      capacity := hcapacity.trans h.capacity
      peers := peers_update h.peers ?_ fun q hq => ?_ }
  · -- so the streams are still of different peers
    rw [hstreams, List.map_append, List.map_singleton]
    refine List.nodup_append.mpr ⟨h.streams, List.nodup_singleton _, fun q hq r hr heq => ?_⟩
    rw [heq, List.mem_singleton.mp hr] at hq
    obtain ⟨⟨_, config'⟩, hstream, rfl⟩ := List.mem_map.mp hq
    exact hnew config' hstream
  · -- and each was accepted with the configuration it carries
    rw [hstreams] at hy
    rcases List.mem_append.mp hy with hy | hy
    · exact h.stream y hy
    · rw [List.mem_singleton.mp hy]
      exact hmem
  · -- the peer's own handshake, and after it those of the others, which stay as they were
    have habsent : s.handshakes p ≠ .absent := fun heq => hp.absent.mp heq config hmem
    exact
      { fresh := fun hback => (habsent (hp.fresh hback)).elim
        absent := iff_of_false (fun heq => by cases heq) fun hnot => hnot config hmem
        config := fun _ hsome => by cases hsome
        stream := fun _ _ => rfl
        sent := fun _ _ =>
          ⟨config, hstreams.symm ▸ List.mem_append_right _ (List.mem_singleton_self _)⟩
        sender := fun _ => iff_of_false (fun hin => ((hsenders p).mp hin).2 rfl)
          fun ⟨_, heq⟩ => by cases heq
        live := fun _ heq => by cases heq }
  · refine ⟨id, fun _ => .rfl, fun config' => ?_, (hsenders q).trans (and_iff_left hq), rfl⟩
    rw [hstreams, List.mem_append, List.mem_singleton]
    exact or_iff_left fun heq => hq (congrArg Prod.fst heq)

/-- A stream waits for its place in the channel. -/
theorem ListenerInv.queues (h : ListenerInv s) {config : ServerConfig} {deadline : ℕ}
    {channel : FairChannel ℕ (ℕ × ServerConfig)}
    (hrunning : s.handshakes p = .running config deadline)
    (hqueue : channel.queue = s.channel.queue)
    (hsenders : channel.senders = s.channel.senders ++ [p]) (hsound : channel.Sound)
    (hcapacity : channel.capacity = s.channel.capacity) :
    ListenerInv { s.setHandshake p (.sending config) with channel := channel } := by
  have hp := h.peers p
  rw [hrunning] at hp
  have hmem := hp.config config rfl
  let s' : TlsListener := { s.setHandshake p (.sending config) with channel := channel }
  -- the stream is still with the task, so that none was added
  have hstreams : s'.streams = s.streams := by
    rw [TlsListener.streams, TlsListener.streams, ← hqueue]
    rfl
  show ListenerInv s'
  refine
    { h with
      streams := hstreams.symm ▸ h.streams
      stream := hstreams.symm ▸ h.stream
      sound := hsound
      capacity := hcapacity.trans h.capacity
      peers := peers_update h.peers ?_ fun q hq => ?_ }
  · -- the peer's own handshake, and after it those of the others
    exact
      { fresh := fun hback => by cases hp.fresh hback
        absent := iff_of_false (fun heq => by cases heq) fun hnot => hnot config hmem
        config := fun _ hsome => Option.some.inj hsome ▸ hmem
        stream := fun config' hstream => by cases hp.stream config' (hstreams ▸ hstream)
        sent := fun _ heq => by cases heq
        sender := fun _ => iff_of_true
          (hsenders.symm ▸ List.mem_append_right _ (List.mem_singleton_self _) :
            p ∈ channel.senders)
          ⟨config, rfl⟩
        live := fun _ heq => by cases heq }
  · refine ⟨id, fun _ => .rfl, fun config' => by rw [hstreams], ?_, rfl⟩
    · show q ∈ channel.senders ↔ _
      rw [hsenders, List.mem_append, List.mem_singleton]
      exact or_iff_left hq

theorem ListenerInv.send (h : ListenerInv s) {config : ServerConfig} {deadline : ℕ}
    (hrunning : s.handshakes p = .running config deadline) : ListenerInv (s.send p config) := by
  have hp := h.peers p
  rw [hrunning] at hp
  rw [TlsListener.send]
  cases hdropped : s.dropped with
  | true =>
    refine h.ends rfl (fun hlive => ?_) ?_ ?_ fun _ config' => ?_
    · rw [hdropped] at hlive
      cases hlive
    all_goals
      rw [hrunning]
      exact fun heq => by cases heq
  | false =>
    have hnew : p ∉ s.channel.senders := fun hin => by
      obtain ⟨_, heq⟩ := (hp.sender hdropped).mp hin
      cases heq
    have hsound : (s.channel.send p (p, config)).1.Sound := h.sound.send hnew
    have hcapacity : (s.channel.send p (p, config)).1.capacity = s.channel.capacity :=
      FairChannel.capacity_send
    rw [if_neg Bool.false_ne_true]
    rcases FairChannel.send_cases s.channel p (p, config) with
      ⟨channel, hsend, hqueue, hsenders⟩ | ⟨channel, hsend, hqueue, hsenders⟩
    · rw [hsend] at hsound hcapacity ⊢
      refine h.sends (by rw [hrunning]; rfl) hqueue hsound hcapacity fun q => ?_
      rw [hsenders]
      refine (and_iff_left_of_imp fun hq heq => hnew ?_).symm
      rw [← heq]
      exact hq
    · rw [hsend] at hsound hcapacity ⊢
      exact h.queues hrunning hqueue hsenders hsound hcapacity

theorem ListenerInv.put (h : ListenerInv s) {config : ServerConfig}
    (hsending : s.handshakes p = .sending config) : ListenerInv (s.put p config) := by
  rw [TlsListener.put]
  cases hdropped : s.dropped with
  | true =>
    refine h.ends rfl (fun hlive => ?_) ?_ ?_ fun hlive => ?_
    · rw [hdropped] at hlive
      cases hlive
    · rw [hsending]
      exact fun heq => by cases heq
    · rw [hsending]
      exact fun heq => by cases heq
    · rw [hdropped] at hlive
      cases hlive
  | false =>
    rw [if_neg Bool.false_ne_true]
    cases hput : s.channel.put? p (p, config) with
    | none => exact h
    | some channel =>
      have hchannel := (FairChannel.put?_eq_some_iff.mp hput).2
      refine h.sends (by rw [hsending]; rfl) ?_ (h.sound.put hput) ?_
        fun q => h.sound.mem_senders_put hput
      · rw [hchannel]
      · rw [hchannel]

theorem Pump.spawn_ne_aborted {pump : Pump} (h : pump ≠ .aborted) : pump.spawn ≠ .aborted := by
  cases pump <;> simp [spawn] at h ⊢

theorem ListenerInv.accept (h : ListenerInv s) : ListenerInv s.accept := by
  have hlive : s.dropped = false → s.pump.spawn ≠ .aborted :=
    fun hlive => Pump.spawn_ne_aborted (h.live hlive)
  rw [TlsListener.accept]
  cases hreceive : s.channel.receive? with
  | none => exact { h with live := hlive, peers := fun q => { h.peers q with } }
  | some received =>
    obtain ⟨stream, channel⟩ := received
    let s' : TlsListener :=
      { s with
        pump := s.pump.spawn, channel := channel, delivered := s.delivered ++ [stream] }
    -- the oldest stream goes from the channel to the caller
    have hstreams : s'.streams = s.streams := by
      rw [TlsListener.streams, TlsListener.streams, FairChannel.queue_receive hreceive,
        ← List.singleton_append, ← List.append_assoc]
    show ListenerInv s'
    refine
      { h with
        streams := hstreams.symm ▸ h.streams
        stream := hstreams.symm ▸ h.stream
        sound := h.sound.receive hreceive
        capacity := (FairChannel.capacity_receive hreceive).trans h.capacity
        live := hlive
        peers := fun q => (h.peers q).of_untouched
          ⟨id, fun _ => .rfl, fun config => by rw [hstreams], ?_, rfl⟩ }
    show q ∈ channel.senders ↔ _
    rw [FairChannel.senders_receive hreceive]

theorem ListenerInv.acceptTcp (h : ListenerInv s) : ListenerInv s.acceptTcp := by
  cases hbacklog : s.backlog with
  -- nobody waits to be accepted
  | nil =>
    have hsame : s.acceptTcp = s := by
      rw [TlsListener.acceptTcp, hbacklog]
    exact hsame.symm ▸ h
  -- the first of the backlog has had no handshake, and has been accepted never before
  | cons p backlog =>
    have hp := h.peers p
    have habsent : s.handshakes p = .absent := hp.fresh (hbacklog ▸ List.mem_cons_self)
    have hnew := hp.absent.mp habsent
    rw [habsent] at hp
    have hnodup : (p :: backlog).Nodup := hbacklog ▸ h.backlog
    have hstep : s.acceptTcp = { s.setHandshake p
          (.running s.current (s.now + s.handshakeTimeout)) with
        backlog := backlog, accepted := s.accepted ++ [(p, s.current)] } := by
      simp only [TlsListener.acceptTcp, hbacklog]
      rfl
    rw [hstep]
    refine
      { h with
        backlog := (List.nodup_cons.mp hnodup).2
        accepted := ?_
        stream := fun y hy => List.mem_append_left _ (h.stream y hy)
        peers := peers_update h.peers ?_ fun q hq => ?_ }
    · show ((s.accepted ++ [(p, s.current)]).map Prod.fst).Nodup
      rw [List.map_append, List.map_singleton]
      refine List.nodup_append.mpr ⟨h.accepted, List.nodup_singleton _, fun q hq r hr heq => ?_⟩
      rw [heq, List.mem_singleton.mp hr] at hq
      obtain ⟨⟨_, config⟩, hmem, rfl⟩ := List.mem_map.mp hq
      exact hnew config hmem
    · -- its handshake starts under the configuration of this moment
      have hmem : (p, s.current) ∈ s.accepted ++ [(p, s.current)] :=
        List.mem_append_right _ (List.mem_singleton_self _)
      exact
        { fresh := fun hback => ((List.nodup_cons.mp hnodup).1 hback).elim
          absent := iff_of_false (fun heq => by cases heq) fun hnot => hnot s.current hmem
          config := fun _ hsome => Option.some.inj hsome ▸ hmem
          stream := fun config hstream => by cases hp.stream config hstream
          sent := fun _ heq => by cases heq
          sender := fun hlive => iff_of_false
            (fun hin => by obtain ⟨_, heq⟩ := (hp.sender hlive).mp hin; cases heq)
            fun ⟨_, heq⟩ => by cases heq
          live := fun _ heq => by cases heq }
    · -- the others stay where they were
      refine ⟨fun hq' => hbacklog ▸ List.mem_cons_of_mem _ hq', fun config => ?_, fun _ => .rfl,
        .rfl, rfl⟩
      show (q, config) ∈ s.accepted ++ [(p, s.current)] ↔ _
      rw [List.mem_append, List.mem_singleton]
      exact or_iff_left fun heq => hq (congrArg Prod.fst heq)

theorem Handshake.running_of_overdue {now : ℕ} (h : x.Overdue now) :
    ∃ config deadline, x = .running config deadline := by
  cases x with
  | running config deadline => exact ⟨config, deadline, rfl⟩
  | _ => exact h.elim

/-- A running handshake ends without a stream: it has failed, or its time was over. -/
theorem ListenerInv.ends_running (h : ListenerInv s) {config : ServerConfig} {deadline : ℕ}
    (hrunning : s.handshakes p = .running config deadline) (hover : x.isOver = true)
    (hmoot : x ≠ .moot) : ListenerInv (s.setHandshake p x) := by
  refine h.ends hover (fun _ => hmoot) ?_ ?_ fun _ config' => ?_
  all_goals
    rw [hrunning]
    exact fun heq => by cases heq

/-- **Whatever happens keeps the invariant**, one case for each action. -/
theorem ListenerInv.step (h : ListenerInv s) {a : ListenerAction} (ha : s.Allows a) :
    ListenerInv (s.step a) := by
  cases a with
  -- a peer that connects is new, and joins the backlog at its end
  | connect p =>
    obtain ⟨-, habsent, hnew⟩ := ha
    refine { h with backlog := ?_, peers := fun q => { h.peers q with fresh := fun hq => ?_ } }
    · refine List.nodup_append.mpr ⟨h.backlog, List.nodup_singleton p, fun q hq r hr heq => ?_⟩
      rw [heq, List.mem_singleton.mp hr] at hq
      exact hnew hq
    · rcases List.mem_append.mp hq with hq | hq
      · exact (h.peers q).fresh hq
      · rw [List.mem_singleton.mp hq]
        exact habsent
  -- `accept` starts the pump, and hands out the first stream of the channel if there is one
  | accept => exact h.accept
  | acceptTcp => exact h.acceptTcp
  -- a failed accept puts the pump to sleep, and the peers stay where they are
  | acceptFails =>
    exact { h with live := fun _ heq => (by cases heq), peers := fun q => { h.peers q with } }
  | resume =>
    exact { h with live := fun _ heq => (by cases heq), peers := fun q => { h.peers q with } }
  | reload config => exact { h with peers := fun q => { h.peers q with } }
  -- a handshake that ends in time sends its stream, or is over with a failure
  | finish p ok =>
    obtain ⟨config, deadline, hrunning⟩ := ha
    simp only [TlsListener.step, hrunning]
    cases ok with
    | true => exact h.send hrunning
    | false => exact h.ends_running hrunning rfl fun heq => by cases heq
  | expire p =>
    obtain ⟨config, deadline, hrunning⟩ := Handshake.running_of_overdue ha
    exact h.ends_running hrunning rfl fun heq => by cases heq
  -- a task that has waited for a place in the channel gets it
  | put p =>
    obtain ⟨⟨config, hsending⟩, -⟩ := ha
    simp only [TlsListener.step, hsending]
    exact h.put hsending
  | pass duration => exact { h with peers := fun q => { h.peers q with } }
  | drop =>
    -- what was in the channel is lost
    have hstreams : (s.step .drop).streams = s.delivered := List.append_nil _
    refine
      { h with
        streams := ?_
        stream := fun y hy => h.stream y (List.mem_append_left _ (hstreams ▸ hy))
        sound := FairChannel.sound_new _
        live := fun hlive => by cases hlive
        peers := fun q =>
          { h.peers q with
            stream := fun config hy =>
              (h.peers q).stream config (List.mem_append_left _ (hstreams ▸ hy))
            sent := fun hlive => by cases hlive
            sender := fun hlive => by cases hlive
            live := fun hlive => by cases hlive } }
    rw [hstreams]
    have hnodup := h.streams
    rw [TlsListener.streams, List.map_append] at hnodup
    exact (List.nodup_append.mp hnodup).1
  -- the pump is aborted only after the listener was dropped
  | abort =>
    refine { h with live := fun hlive => ?_, peers := fun q => { h.peers q with } }
    cases (show s.dropped = true from ha).symm.trans (show s.dropped = false from hlive)

theorem ListenerInv.after (h : ListenerInv s) {as : List ListenerAction}
    (has : Allowed TlsListener.step Allows s as) : ListenerInv (s.after as) := by
  induction as generalizing s with
  | nil => exact h
  | cons a as ih => exact ih (h.step has.1) has.2

theorem listenerInv_of_reached {handshakeTimeout : ℕ} {config : ServerConfig}
    (h : Reached handshakeTimeout config s) : ListenerInv s :=
  h.invariant (listenerInv_new handshakeTimeout config) fun _ _ hinv ha => hinv.step ha

end Invariant

/-! ### Every connection once -/

/-- The handshake has made a stream. -/
def Handshake.succeeded : Handshake → Bool
  | .sending _ => true
  | .sent => true
  | _ => false

section History

variable {s : TlsListener}

/-- Only the pump accepts: a connection that was not accepted before is the first of the backlog,
and gets the current configuration. -/
theorem accepted_step (s : TlsListener) (a : ListenerAction) {x : ℕ × ServerConfig}
    (hx : x ∈ (s.step a).accepted) : x ∈ s.accepted ∨
      a = .acceptTcp ∧ s.backlog.head? = some x.1 ∧ s.current = x.2 := by
  cases a with
  -- only the pump's `accept` adds a connection
  | acceptTcp =>
    rw [step, acceptTcp] at hx
    cases hbacklog : s.backlog with
    | nil =>
      rw [hbacklog] at hx
      exact .inl hx
    | cons p backlog =>
      rw [hbacklog] at hx
      rcases List.mem_append.mp hx with hx | hx
      · exact .inl hx
      · rw [List.mem_singleton.mp hx]
        exact .inr ⟨rfl, rfl, rfl⟩
  | accept =>
    rw [step, accept] at hx
    split at hx <;> exact .inl hx
  | finish p ok =>
    rw [step] at hx
    split at hx
    · split at hx
      · rw [send] at hx
        split at hx
        · exact .inl hx
        · split at hx <;> exact .inl hx
      · exact .inl hx
    · exact .inl hx
  | put p =>
    rw [step] at hx
    split at hx
    · rw [put] at hx
      split at hx
      · exact .inl hx
      · split at hx <;> exact .inl hx
    · exact .inl hx
  | _ => exact .inl hx

theorem succeeded_update {p q : ℕ} {x : Handshake}
    (h : (Function.update s.handshakes p x q).succeeded = true) :
    (s.handshakes q).succeeded = true ∨ q = p ∧ x.succeeded = true := by
  by_cases hqp : q = p
  · rw [hqp, Function.update_self] at h
    exact .inr ⟨hqp, h⟩
  · rw [Function.update_of_ne hqp] at h
    exact .inl h

/-- A handshake makes a stream when it succeeds, and only then. -/
theorem succeeded_step (s : TlsListener) (a : ListenerAction) {q : ℕ}
    (h : ((s.step a).handshakes q).succeeded = true) :
    (s.handshakes q).succeeded = true ∨ a = .finish q true := by
  cases a with
  | acceptTcp =>
    rw [step, acceptTcp] at h
    split at h
    · exact .inl h
    · exact .inl ((succeeded_update h).resolve_right fun hq => by cases hq.2)
  | accept =>
    rw [step, accept] at h
    split at h <;> exact .inl h
  | finish p ok =>
    rw [step] at h
    split at h
    · cases ok with
      | true =>
        have hq : (s.handshakes q).succeeded = true ∨ q = p := by
          simp only [if_true, send] at h
          split at h
          · exact (succeeded_update h).imp_right And.left
          · split at h <;> exact (succeeded_update h).imp_right And.left
        exact hq.imp_right fun heq => by rw [heq]
      | false => exact .inl ((succeeded_update h).resolve_right fun hq => by cases hq.2)
    · exact .inl h
  | expire p => exact .inl ((succeeded_update h).resolve_right fun hq => by cases hq.2)
  | put p =>
    rw [step] at h
    split at h
    · next config hsending =>
      -- it had succeeded before
      have hbefore : ∀ r, r = p → (s.handshakes r).succeeded = true := by
        rintro r rfl
        rw [hsending]
        rfl
      rw [put] at h
      split at h
      · exact .inl ((succeeded_update h).elim id fun hq => hbefore q hq.1)
      · split at h
        · exact .inl h
        · exact .inl ((succeeded_update h).elim id fun hq => hbefore q hq.1)
    · exact .inl h
  | _ => exact .inl h

/-- The pump has accepted the connection under the configuration of that moment, and if there is a
stream, its handshake has succeeded since. -/
def AcceptedIn (s : TlsListener) (as : List ListenerAction) (x : ℕ × ServerConfig) : Prop :=
  ∃ pre post, as = pre ++ .acceptTcp :: post ∧ (s.after pre).backlog.head? = some x.1 ∧
    (s.after pre).current = x.2 ∧
    (((s.after as).handshakes x.1).succeeded = true → .finish x.1 true ∈ post)

/-- **What the record of accepted connections says.** -/
theorem acceptedIn_of_mem (h : ListenerInv s) (hnone : s.accepted = []) {as : List ListenerAction}
    (has : Allowed step Allows s as) {x : ℕ × ServerConfig} (hx : x ∈ (s.after as).accepted) :
    AcceptedIn s as x := by
  induction as using List.reverseRecOn with
  | nil =>
    rw [show (s.after []).accepted = [] from hnone] at hx
    cases hx
  | append_singleton as a ih =>
    have hsplit := allowed_append.mp has
    have hafter : s.after (as ++ [a]) = (s.after as).step a := List.foldl_append
    rw [hafter] at hx
    rcases accepted_step _ a hx with hx | ⟨rfl, hhead, hcurrent⟩
    · obtain ⟨pre, post, rfl, hhead, hcurrent, hpost⟩ := ih hsplit.1 hx
      refine ⟨pre, post ++ [a], by simp, hhead, hcurrent, fun hsucceeded => ?_⟩
      rw [hafter] at hsucceeded
      rcases succeeded_step _ a hsucceeded with hbefore | rfl
      · exact List.mem_append_left _ (hpost hbefore)
      · exact List.mem_append_right _ (List.mem_singleton_self _)
    · refine ⟨as, [], rfl, hhead, hcurrent, fun hsucceeded => ?_⟩
      rw [hafter] at hsucceeded
      rcases succeeded_step _ _ hsucceeded with hbefore | heq
      · -- it was waiting to be accepted
        have hback : x.1 ∈ (s.after as).backlog := List.mem_of_mem_head? hhead
        rw [((h.after hsplit.1).peers x.1).fresh hback] at hbefore
        cases hbefore
      · cases heq

/-- What may have become of an accepted connection. -/
def Kept (s : TlsListener) (x : ℕ × ServerConfig) : Prop :=
  x ∈ s.delivered ∨ x ∈ s.channel.queue ∨ s.handshakes x.1 = .sending x.2 ∨
    (∃ deadline, s.handshakes x.1 = .running x.2 deadline) ∨
    s.handshakes x.1 = .failed ∨ s.handshakes x.1 = .timedOut

/-- The record has one entry for each connection. -/
theorem ListenerInv.eq_of_accepted (h : ListenerInv s) {x y : ℕ × ServerConfig}
    (hx : x ∈ s.accepted) (hy : y ∈ s.accepted) (heq : x.1 = y.1) : x = y :=
  List.inj_on_of_nodup_map h.accepted hx hy heq

theorem ListenerInv.kept (h : ListenerInv s) (hlive : s.dropped = false) {x : ℕ × ServerConfig}
    (hx : x ∈ s.accepted) : Kept s x := by
  have hp := h.peers x.1
  cases hphase : s.handshakes x.1 with
  | absent => exact (hp.absent.mp hphase x.2 hx).elim
  | running config deadline =>
    have hsame := h.eq_of_accepted hx (hp.config config (by rw [hphase]; rfl)) rfl
    refine .inr (.inr (.inr (.inl ⟨deadline, ?_⟩)))
    rw [hphase, show config = x.2 from (congrArg Prod.snd hsame).symm]
  | sending config =>
    have hsame := h.eq_of_accepted hx (hp.config config (by rw [hphase]; rfl)) rfl
    refine .inr (.inr (.inl ?_))
    rw [hphase, show config = x.2 from (congrArg Prod.snd hsame).symm]
  | sent =>
    obtain ⟨config, hstream⟩ := hp.sent hlive hphase
    have hsame := h.eq_of_accepted hx (h.stream _ hstream) rfl
    rw [← hsame] at hstream
    exact (List.mem_append.mp hstream).imp_right .inl
  | failed => exact .inr (.inr (.inr (.inr (.inl hphase))))
  | timedOut => exact .inr (.inr (.inr (.inr (.inr hphase))))
  | moot => exact (hp.live hlive hphase).elim

end History

/-- **Every connection once.**  However handshakes, reloads and calls go on side by side: `accept`
returns a connection at most once; the pump has accepted it under the configuration that was
installed at that moment, whatever has been installed since, and its handshake has succeeded.  And
while there is a listener, a connection that has been accepted is not lost. -/
theorem delivered_once {handshakeTimeout : ℕ} {config : ServerConfig} {as : List ListenerAction}
    (has : Allowed step Allows (TlsListener.new handshakeTimeout config) as) :
    let start := TlsListener.new handshakeTimeout config
    ((start.after as).delivered.map Prod.fst).Nodup ∧
      (∀ x ∈ (start.after as).delivered, ∃ pre post, as = pre ++ .acceptTcp :: post ∧
        (start.after pre).backlog.head? = some x.1 ∧ (start.after pre).current = x.2 ∧
        .finish x.1 true ∈ post) ∧
      ((start.after as).dropped = false → ∀ x ∈ (start.after as).accepted,
        Kept (start.after as) x) := by
  intro start
  have hstart : ListenerInv start := listenerInv_new handshakeTimeout config
  have h := hstart.after has
  have hnodup := h.streams
  rw [TlsListener.streams, List.map_append] at hnodup
  refine ⟨(List.nodup_append.mp hnodup).1, fun x hx => ?_, fun hlive x hx => h.kept hlive hx⟩
  have hstream : x ∈ (start.after as).streams := List.mem_append_left _ hx
  obtain ⟨pre, post, hsplit, hhead, hcurrent, hpost⟩ :=
    acceptedIn_of_mem hstart rfl has (h.stream x hstream)
  refine ⟨pre, post, hsplit, hhead, hcurrent, hpost ?_⟩
  rw [(h.peers x.1).stream x.2 hstream]
  rfl

/-- A certificate that is replaced while handshakes are running. -/
def listenerSample (replaced : Bool) : ServerConfig where
  certChain := [if replaced then [1] else [0]]
  key := [2]
  clientAuth := none
  alpnProtocols := []

/-- The first peer sends nothing, the second one completes its handshake. -/
def listenerSampleRun : List ListenerAction :=
  [.connect 0, .connect 1, .accept, .acceptTcp, .acceptTcp, .reload (listenerSample true),
    .finish 1 true, .accept, .pass defaultHandshakeTimeout, .expire 0]

theorem listenerSampleRun_allowed : Allowed step Allows
    (TlsListener.new defaultHandshakeTimeout (listenerSample false)) listenerSampleRun := by
  refine ⟨⟨fun h => (by cases h), rfl, by decide⟩, ⟨fun h => (by cases h), rfl, by decide⟩, rfl,
    ⟨rfl, fun h => (by cases h)⟩, ⟨rfl, fun h => (by cases h)⟩, trivial, ⟨_, _, rfl⟩, rfl,
    trivial, ?_, trivial⟩
  show 0 + defaultHandshakeTimeout ≤ 0 + defaultHandshakeTimeout
  exact le_rfl

/-- The second peer is served with the certificate it was accepted with. -/
theorem delivered_once_sample :
    ∃ pre post, listenerSampleRun = pre ++ .acceptTcp :: post ∧
      ((TlsListener.new defaultHandshakeTimeout (listenerSample false)).after pre).backlog.head?
        = some 1 ∧
      ((TlsListener.new defaultHandshakeTimeout (listenerSample false)).after pre).current
        = listenerSample false ∧
      .finish 1 true ∈ post :=
  (delivered_once listenerSampleRun_allowed).2.1 (1, listenerSample false)
    (List.mem_singleton_self _)

end ActonService.Tls
