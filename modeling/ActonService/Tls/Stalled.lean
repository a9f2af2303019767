import ActonService.Tls.Listener

/-!
# Stalled handshakes

A peer that connects and then sends nothing keeps its own task busy until the timeout, and no other.
The listener is compared with what it would be without such peers, and every stream is brought to
`accept` by the listener's own tasks.

What is bounded is the channel.  The pump goes on accepting connections while the channel is full,
and each task holds its stream until there is a place for it.

## Main definitions

* `TlsListener.without`, `leftOut` — a listener, and what is left of a run, without some of the
  peers.
* `Serves` — what the listener does by itself for a peer.

## Main results

* `stalled_have_no_influence` — **peers that never complete a handshake change nothing for the
  others.**
* `exists_delivery` — **no stream needs another peer to be delivered.**
* `streams_unbounded` — the channel is bounded, the streams that wait for it are not.
-/

namespace ActonService.Tls

open Run TlsListener

/-! ### Without some of the peers -/

/-- The listener if it had never heard of some of the peers. -/
def TlsListener.without (S : ℕ → Bool) (s : TlsListener) : TlsListener :=
  { s with
    backlog := s.backlog.filter fun p => !S p
    handshakes := fun p => if S p then .absent else s.handshakes p
    accepted := s.accepted.filter fun x => !S x.1 }

/-- Whose connection an action is about. -/
def ListenerAction.peer? (s : TlsListener) : ListenerAction → Option ℕ
  | .connect p => some p
  | .acceptTcp => s.backlog.head?
  | .finish p _ => some p
  | .expire p => some p
  | .put p => some p
  | _ => none

/-- What is left of an action. -/
def leftOut (S : ℕ → Bool) (s : TlsListener) (a : ListenerAction) : List ListenerAction :=
  if (a.peer? s).any S then [] else [a]

/-- None of the peers has completed its handshake. -/
def NoStream (S : ℕ → Bool) (s : TlsListener) : Prop :=
  ∀ p, S p = true → (s.handshakes p).succeeded = false

section Without

variable {S : ℕ → Bool} {s : TlsListener} {p : ℕ}

theorem channel_without : (s.without S).channel = s.channel := rfl

theorem dropped_without : (s.without S).dropped = s.dropped := rfl

theorem handshakes_without (hp : S p = false) : (s.without S).handshakes p = s.handshakes p := by
  simp [TlsListener.without, hp]

theorem without_update (hp : S p = false) (x : Handshake) :
    (fun q => if S q then Handshake.absent else Function.update s.handshakes p x q)
      = Function.update (fun q => if S q then Handshake.absent else s.handshakes q) p x := by
  funext q
  by_cases hqp : q = p
  · rw [hqp, Function.update_self, Function.update_self, hp]
    rfl
  · rw [Function.update_of_ne hqp, Function.update_of_ne hqp]

theorem without_update_self (hp : S p = true) (x : Handshake) :
    (fun q => if S q then Handshake.absent else Function.update s.handshakes p x q)
      = fun q => if S q then Handshake.absent else s.handshakes q := by
  funext q
  by_cases hqp : q = p
  · simp [hqp, hp]
  · rw [Function.update_of_ne hqp]

theorem without_setHandshake (hp : S p = false) (x : Handshake) :
    (s.setHandshake p x).without S = (s.without S).setHandshake p x := by
  simp only [TlsListener.without, TlsListener.setHandshake, without_update hp]

theorem without_setHandshake_self (hp : S p = true) (x : Handshake) :
    (s.setHandshake p x).without S = s.without S := by
  simp only [TlsListener.without, TlsListener.setHandshake, without_update_self hp]

theorem without_send (hp : S p = false) (config : ServerConfig) :
    (s.send p config).without S = (s.without S).send p config := by
  rw [send, send, channel_without, dropped_without]
  cases s.dropped with
  | true => exact without_setHandshake hp .moot
  | false =>
    rw [if_neg Bool.false_ne_true, if_neg Bool.false_ne_true]
    rcases s.channel.send p (p, config) with ⟨channel, _ | _⟩
    · exact congrArg (fun t : TlsListener => { t with channel := channel })
        (without_setHandshake hp (.sending config))
    · exact congrArg (fun t : TlsListener => { t with channel := channel })
        (without_setHandshake hp .sent)

theorem without_put (hp : S p = false) (config : ServerConfig) :
    (s.put p config).without S = (s.without S).put p config := by
  rw [put, put, channel_without, dropped_without]
  cases s.dropped with
  | true => exact without_setHandshake hp .moot
  | false =>
    rw [if_neg Bool.false_ne_true, if_neg Bool.false_ne_true]
    cases s.channel.put? p (p, config) with
    | none => rfl
    | some channel =>
      exact congrArg (fun t : TlsListener => { t with channel := channel })
        (without_setHandshake hp .sent)

theorem without_accept : s.accept.without S = (s.without S).accept := by
  rw [accept, accept, channel_without]
  cases s.channel.receive? <;> rfl

/-- The pump takes one of the others. -/
theorem without_acceptTcp {backlog : List ℕ} (hbacklog : s.backlog = p :: backlog)
    (hp : S p = false) : s.acceptTcp.without S = (s.without S).acceptTcp := by
  have hhead : (s.without S).backlog = p :: backlog.filter fun q => !S q := by
    show s.backlog.filter (fun q => !S q) = _
    rw [hbacklog, List.filter_cons_of_pos (by simp [hp])]
  rw [acceptTcp, acceptTcp, hhead, hbacklog]
  simp only [TlsListener.without, without_update hp]
  simp [hp]

/-- The pump takes one of the peers that are left out. -/
theorem without_acceptTcp_self {backlog : List ℕ} (hbacklog : s.backlog = p :: backlog)
    (hp : S p = true) : s.acceptTcp.without S = s.without S := by
  simp only [acceptTcp, hbacklog, TlsListener.without, without_update_self hp]
  simp [hp]

/-- What the peers that are left out do is not seen. -/
theorem without_step_self (hnone : NoStream S s) {a : ListenerAction} (ha : s.Allows a)
    (hstalled : ∀ p, S p = true → a ≠ .finish p true) (hpeer : (a.peer? s).any S = true) :
    (s.step a).without S = s.without S := by
  cases a with
  | connect p =>
    have hp : S p = true := hpeer
    simp [step, TlsListener.without, hp]
  | acceptTcp =>
    cases hbacklog : s.backlog with
    | nil =>
      rw [ListenerAction.peer?, hbacklog] at hpeer
      cases hpeer
    | cons p backlog =>
      rw [ListenerAction.peer?, hbacklog] at hpeer
      exact without_acceptTcp_self hbacklog hpeer
  | finish p ok =>
    have hp : S p = true := hpeer
    cases ok with
    | true => exact (hstalled p hp rfl).elim
    | false =>
      obtain ⟨config, deadline, hrunning⟩ := ha
      simp only [step, hrunning, Bool.false_eq_true, if_false]
      exact without_setHandshake_self hp .failed
  | expire p => exact without_setHandshake_self hpeer .timedOut
  | put p =>
    obtain ⟨⟨config, hsending⟩, -⟩ := ha
    have hnot := hnone p hpeer
    rw [hsending] at hnot
    cases hnot
  | _ => cases hpeer

/-- What the others do is what they would do alone. -/
theorem without_step {a : ListenerAction} (ha : s.Allows a) (hpeer : (a.peer? s).any S = false) :
    (s.without S).Allows a ∧ (s.step a).without S = (s.without S).step a := by
  cases a with
  -- a peer outside of the set connects in both listeners alike
  | connect p =>
    have hp : S p = false := hpeer
    obtain ⟨hpump, habsent, hnew⟩ := ha
    refine ⟨⟨hpump, (handshakes_without hp).trans habsent, fun hmem => ?_⟩, ?_⟩
    · exact hnew (List.mem_of_mem_filter hmem)
    · simp [step, TlsListener.without, hp]
  -- the pump moves on alike, for it waits in the same place in both
  | accept => exact ⟨ha, without_accept⟩
  -- the first of the backlog is not one of the set, so it is the first in both
  | acceptTcp =>
    obtain ⟨hpump, hbacklog⟩ := ha
    obtain ⟨p, backlog, hbacklog⟩ := List.exists_cons_of_ne_nil hbacklog
    have hp : S p = false := by
      rw [ListenerAction.peer?, hbacklog] at hpeer
      exact hpeer
    refine ⟨⟨hpump, ?_⟩, without_acceptTcp hbacklog hp⟩
    show s.backlog.filter (fun q => !S q) ≠ []
    rw [hbacklog, List.filter_cons_of_pos (by simp [hp])]
    exact List.cons_ne_nil _ _
  | acceptFails => exact ⟨ha, rfl⟩
  | resume => exact ⟨ha, rfl⟩
  | reload config => exact ⟨ha, rfl⟩
  -- a handshake outside of the set has the same state in both
  | finish p ok =>
    have hp : S p = false := hpeer
    obtain ⟨config, deadline, hrunning⟩ := ha
    have hsame := (handshakes_without (s := s) hp).trans hrunning
    refine ⟨⟨config, deadline, hsame⟩, ?_⟩
    simp only [step, hrunning, hsame]
    cases ok with
    | true => exact without_send hp config
    | false => exact without_setHandshake hp .failed
  | expire p =>
    have hp : S p = false := hpeer
    refine ⟨?_, without_setHandshake hp .timedOut⟩
    show ((s.without S).handshakes p).Overdue s.now
    rw [handshakes_without hp]
    exact ha
  -- and so has a task that waits for a place in the channel
  | put p =>
    have hp : S p = false := hpeer
    obtain ⟨⟨config, hsending⟩, hplace⟩ := ha
    have hsame := (handshakes_without (s := s) hp).trans hsending
    refine ⟨⟨⟨config, hsame⟩, hplace⟩, ?_⟩
    simp only [step, hsending, hsame]
    exact without_put hp config
  | pass duration => exact ⟨ha, rfl⟩
  | drop => exact ⟨ha, rfl⟩
  | abort => exact ⟨ha, rfl⟩

theorem NoStream.step (h : NoStream S s) {a : ListenerAction}
    (hstalled : ∀ p, S p = true → a ≠ .finish p true) : NoStream S (s.step a) := by
  intro p hp
  cases hsucceeded : ((s.step a).handshakes p).succeeded with
  | false => rfl
  | true =>
    rcases succeeded_step s a hsucceeded with hbefore | heq
    · exact hbefore.symm.trans (h p hp)
    · exact (hstalled p hp heq).elim

end Without

/-- **Stalled peers have no influence.**  Whatever peers do that never complete a handshake, whether
they fail, time out or keep a task busy for as long as they can: the run without them is a run of
the listener too, and it ends with the same streams delivered, the same in the channel, and the
same of every other handshake. -/
theorem stalled_have_no_influence {handshakeTimeout : ℕ} {config : ServerConfig}
    {as : List ListenerAction} (S : ℕ → Bool)
    (has : Allowed step Allows (TlsListener.new handshakeTimeout config) as)
    (hstalled : ∀ p, S p = true → .finish p true ∉ as) :
    let start := TlsListener.new handshakeTimeout config
    let as' := trace step (leftOut S) start as
    Allowed step Allows start as' ∧ start.after as' = (start.after as).without S ∧
      (start.after as').delivered = (start.after as).delivered ∧
      (start.after as').channel = (start.after as).channel ∧
      ∀ p, S p = false → (start.after as').handshakes p = (start.after as).handshakes p := by
  intro start as'
  let allowed (s : TlsListener) (a : ListenerAction) : Prop :=
    s.Allows a ∧ ∀ p, S p = true → a ≠ .finish p true
  have hallowed : Allowed step allowed start as := by
    refine has.mono fun s a ha hallows => ⟨hallows, fun p hp heq => hstalled p hp (heq ▸ ha)⟩
  have hstart : start.without S = start := by
    simp only [start, TlsListener.without, TlsListener.new, ite_self]
    rfl
  -- step by step: an action of the set is left out, and any other is done in both listeners
  have hsim : ∀ s a, NoStream S s → allowed s a → NoStream S (s.step a) ∧
      Allowed step Allows (s.without S) (leftOut S s a) ∧
      (s.step a).without S = (s.without S).after (leftOut S s a) := by
    intro s a hnone ha
    refine ⟨hnone.step ha.2, ?_⟩
    rw [leftOut]
    cases hpeer : (a.peer? s).any S with
    | true => exact ⟨trivial, without_step_self hnone ha.1 ha.2 hpeer⟩
    | false =>
      obtain ⟨hallows, hstep⟩ := without_step ha.1 hpeer
      exact ⟨⟨hallows, trivial⟩, hstep⟩
  obtain ⟨hrun, hend⟩ := hallowed.simulates (TlsListener.without S) hsim fun p _ => rfl
  rw [hstart] at hrun hend
  have hend' : start.after as' = (start.after as).without S := hend.symm
  refine ⟨hrun, hend', ?_, ?_, fun p hp => ?_⟩
  · rw [hend']
    rfl
  · rw [hend', channel_without]
  · rw [hend', handshakes_without hp]

/-- Without the peer that sends nothing, the other one is served just the same. -/
theorem stalled_have_no_influence_sample :
    let start := TlsListener.new defaultHandshakeTimeout (listenerSample false)
    (start.after (trace step (leftOut (· == 0)) start listenerSampleRun)).delivered
      = (start.after listenerSampleRun).delivered :=
  (stalled_have_no_influence (· == 0) listenerSampleRun_allowed (by
    intro p hp
    rw [beq_iff_eq.mp hp]
    decide)).2.2.1

/-! ### What the listener does by itself -/

/-- What the listener does by itself for a peer whose handshake succeeds. -/
def Serves (p : ℕ) : ListenerAction → Prop
  | .accept => True
  | .acceptTcp => True
  | .resume => True
  | .put _ => True
  | .pass _ => True
  | .finish q ok => q = p ∧ ok = true
  | _ => False

/-- The listener can deliver the stream of the peer by itself. -/
def Deliverable (p : ℕ) (s : TlsListener) : Prop :=
  ∃ as, Allowed step Allows s as ∧ (∀ a ∈ as, Serves p a) ∧
    ∃ config, (p, config) ∈ (s.after as).delivered

section Delivery

variable {s : TlsListener} {p : ℕ}

theorem Deliverable.of_step {a : ListenerAction} (ha : s.Allows a) (hserves : Serves p a)
    (h : Deliverable p (s.step a)) : Deliverable p s := by
  obtain ⟨as, has, hall, hdelivered⟩ := h
  exact ⟨a :: as, ⟨ha, has⟩, List.forall_mem_cons.mpr ⟨hserves, hall⟩, hdelivered⟩

/-- A call of `accept` takes the oldest stream. -/
theorem accept_of_queue {stream : ℕ × ServerConfig} {queue : List (ℕ × ServerConfig)}
    (hqueue : s.channel.queue = stream :: queue) :
    s.accept.channel.queue = queue ∧ s.accept.channel.senders = s.channel.senders ∧
      s.accept.delivered = s.delivered ++ [stream] ∧ s.accept.handshakes = s.handshakes ∧
      s.accept.dropped = s.dropped := by
  have hreceive : s.channel.receive? = some (stream, { s.channel with queue := queue }.assign) :=
    FairChannel.receive?_eq_some_iff.mpr ⟨queue, hqueue, rfl⟩
  have haccept : s.accept = { s with
      pump := s.pump.spawn
      channel := { s.channel with queue := queue }.assign
      delivered := s.delivered ++ [stream] } := by
    rw [accept, hreceive]
  rw [haccept]
  exact ⟨FairChannel.queue_assign _, FairChannel.senders_assign _, rfl, rfl, rfl⟩

/-- A task that has its place puts its stream there. -/
theorem put_of_granted (hlive : s.dropped = false) {config : ServerConfig}
    (hsending : s.handshakes p = .sending config) (hgranted : p ∈ s.channel.granted) :
    ∃ channel, s.channel.put? p (p, config) = some channel ∧
      s.step (.put p) = { s.setHandshake p .sent with channel := channel } := by
  refine ⟨_, FairChannel.put?_eq_some_iff.mpr ⟨hgranted, rfl⟩, ?_⟩
  simp only [step, hsending, put, hlive, FairChannel.put?, hgranted]
  rfl

/-- A stream in the channel is delivered by calls of `accept`. -/
theorem deliverable_of_queue (hlive : s.dropped = false) {config : ServerConfig}
    (hqueue : (p, config) ∈ s.channel.queue) : Deliverable p s := by
  induction hlist : s.channel.queue generalizing s with
  | nil =>
    rw [hlist] at hqueue
    cases hqueue
  | cons stream queue ih =>
    obtain ⟨hrest, -, hdelivered, -, hdropped⟩ := accept_of_queue hlist
    refine Deliverable.of_step (a := .accept) hlive trivial ?_
    rw [hlist] at hqueue
    rcases List.mem_cons.mp hqueue with heq | hqueue
    · refine ⟨[], trivial, List.forall_mem_nil _, config, ?_⟩
      show (p, config) ∈ s.accept.delivered
      rw [hdelivered, heq]
      exact List.mem_append_right _ (List.mem_singleton_self _)
    · exact ih (hdropped.trans hlive) (show _ ∈ s.accept.channel.queue from hrest ▸ hqueue) hrest

/-- A stream that waits for its place is delivered: the streams before it make room, one after the
other. -/
theorem deliverable_of_sending (h : ListenerInv s) (hlive : s.dropped = false)
    {config : ServerConfig} (hsending : s.handshakes p = .sending config) : Deliverable p s := by
  induction hn : 2 * s.channel.senders.length + s.channel.queue.length
    using Nat.strong_induction_on generalizing s with
  | _ n ih =>
    have hp : p ∈ s.channel.senders := ((h.peers p).sender hlive).mpr ⟨config, hsending⟩
    have hcapacity : 0 < s.channel.capacity := by
      rw [h.capacity]
      decide
    rcases h.sound.pending hcapacity hp with hqueue | hgranted
    · -- somebody's stream is in the channel: it is taken
      obtain ⟨stream, queue, hqueue⟩ := List.exists_cons_of_ne_nil hqueue
      obtain ⟨hrest, hsenders, -, hhandshakes, hdropped⟩ := accept_of_queue hqueue
      have hallows : s.Allows .accept := hlive
      refine Deliverable.of_step hallows trivial (ih _ ?_ (h.step hallows) (hdropped.trans hlive)
        ((congrFun hhandshakes p).trans hsending) rfl)
      show 2 * s.accept.channel.senders.length + s.accept.channel.queue.length < n
      rw [hsenders, hrest, ← hn, hqueue, List.length_cons]
      omega
    · -- somebody has a place: its stream is put there
      obtain ⟨q, hq⟩ := List.exists_mem_of_ne_nil _ hgranted
      obtain ⟨config', hsending'⟩ := ((h.peers q).sender hlive).mp (List.mem_append_left _ hq)
      obtain ⟨channel, hput, hstep⟩ := put_of_granted hlive hsending' hq
      have hallows : s.Allows (.put q) := ⟨⟨config', hsending'⟩, .inr hq⟩
      have hqueue : channel.queue = s.channel.queue ++ [(q, config')] := by
        rw [(FairChannel.put?_eq_some_iff.mp hput).2]
      have hnext := h.step hallows
      refine Deliverable.of_step hallows trivial ?_
      rw [hstep] at hnext ⊢
      by_cases hqp : q = p
      · refine deliverable_of_queue hlive (show (p, config') ∈ channel.queue from ?_)
        rw [hqueue, hqp]
        exact List.mem_append_right _ (List.mem_singleton_self _)
      · refine ih _ ?_ hnext hlive ?_ rfl
        · show 2 * channel.senders.length + channel.queue.length < n
          have hlength := FairChannel.length_senders_put hput
          rw [hqueue, ← hn, List.length_append, List.length_singleton]
          omega
        · exact (Function.update_of_ne (Ne.symm hqp) _ _).trans hsending

theorem deliverable_of_running (h : ListenerInv s) (hlive : s.dropped = false)
    {config : ServerConfig} {deadline : ℕ} (hrunning : s.handshakes p = .running config deadline) :
    Deliverable p s := by
  have hallows : s.Allows (.finish p true) := ⟨config, deadline, hrunning⟩
  have hnext := h.step hallows
  have hstep : s.step (.finish p true) = s.send p config := by
    simp only [step, hrunning, if_true]
  refine Deliverable.of_step hallows ⟨rfl, rfl⟩ ?_
  rw [hstep, send, hlive, if_neg Bool.false_ne_true] at hnext ⊢
  rcases FairChannel.send_cases s.channel p (p, config) with
    ⟨channel, hsend, hqueue, -⟩ | ⟨channel, hsend, -, -⟩
  · rw [hsend]
    refine deliverable_of_queue hlive (show (p, config) ∈ channel.queue from ?_)
    rw [hqueue]
    exact List.mem_append_right _ (List.mem_singleton_self _)
  · rw [hsend] at hnext ⊢
    exact deliverable_of_sending hnext hlive (Function.update_self _ _ _)

/-- The pump gets to every connection of the backlog, whatever those before it do. -/
theorem deliverable_of_backlog (h : ListenerInv s) (hlive : s.dropped = false)
    (hpump : s.pump = .accepting) (hp : p ∈ s.backlog) : Deliverable p s := by
  induction hlist : s.backlog generalizing s with
  | nil =>
    rw [hlist] at hp
    cases hp
  | cons q backlog ih =>
    have hallows : s.Allows .acceptTcp := ⟨hpump, hlist ▸ List.cons_ne_nil _ _⟩
    have hnext := h.step hallows
    have hstep : s.step .acceptTcp = { s.setHandshake q
          (.running s.current (s.now + s.handshakeTimeout)) with
        backlog := backlog, accepted := s.accepted ++ [(q, s.current)] } := by
      simp only [step, acceptTcp, hlist]
      rfl
    refine Deliverable.of_step hallows trivial ?_
    rw [hstep] at hnext ⊢
    rw [hlist] at hp
    rcases List.mem_cons.mp hp with rfl | hp
    · exact deliverable_of_running hnext hlive (Function.update_self _ _ _)
    · exact ih hnext hlive hpump hp rfl

/-- The pump is not there yet, or pauses: it will accept. -/
theorem deliverable_of_waiting (h : ListenerInv s) (hlive : s.dropped = false)
    (hp : p ∈ s.backlog) : Deliverable p s := by
  cases hpump : s.pump with
  | unspawned =>
    have hallows : s.Allows .accept := hlive
    have hnext := h.step hallows
    have hfields : s.accept.pump = .accepting ∧ s.accept.backlog = s.backlog ∧
        s.accept.dropped = s.dropped := by
      rw [accept, hpump]
      split <;> exact ⟨rfl, rfl, rfl⟩
    refine Deliverable.of_step hallows trivial (deliverable_of_backlog hnext ?_ hfields.1 ?_)
    · exact hfields.2.2.trans hlive
    · show p ∈ s.accept.backlog
      rw [hfields.2.1]
      exact hp
  | accepting => exact deliverable_of_backlog h hlive hpump hp
  | pausing wakes =>
    have hpass : s.Allows (.pass (wakes - s.now)) := trivial
    have hresume : (s.step (.pass (wakes - s.now))).Allows .resume := by
      show s.pump.Wakes (s.now + (wakes - s.now))
      rw [hpump]
      show wakes ≤ s.now + (wakes - s.now)
      omega
    exact Deliverable.of_step hpass trivial (Deliverable.of_step hresume trivial
      (deliverable_of_backlog ((h.step hpass).step hresume) hlive rfl hp))
  | aborted => exact (h.live hlive hpump).elim

end Delivery

/-- **No stream needs another peer to be delivered.**  Whenever a connection waits to be accepted,
its handshake is running, or its stream waits for a place: if its own handshake succeeds, the
listener can deliver the stream, and until it has no other handshake has to move.  It does not
matter how many of them are stalled, and whether the channel is full. -/
theorem exists_delivery {handshakeTimeout : ℕ} {config : ServerConfig} {s : TlsListener}
    (h : Reached handshakeTimeout config s) (hlive : s.dropped = false) {p : ℕ}
    (hp : p ∈ s.backlog ∨ s.handshakes p ≠ .absent ∧ (s.handshakes p).isOver = false) :
    ∃ as, Allowed step Allows s as ∧ (∀ a ∈ as, Serves p a) ∧
      ∃ config, (p, config) ∈ (s.after as).delivered := by
  have hinv := listenerInv_of_reached h
  rcases hp with hp | ⟨habsent, hover⟩
  · exact deliverable_of_waiting hinv hlive hp
  · cases hphase : s.handshakes p with
    | absent => exact (habsent hphase).elim
    | running config deadline => exact deliverable_of_running hinv hlive hphase
    | sending config => exact deliverable_of_sending hinv hlive hphase
    | sent =>
      obtain ⟨config, hstream⟩ := (hinv.peers p).sent hlive hphase
      rcases List.mem_append.mp hstream with hdelivered | hqueue
      · exact ⟨[], trivial, List.forall_mem_nil _, config, hdelivered⟩
      · exact deliverable_of_queue hlive hqueue
    | failed =>
      rw [hphase] at hover
      cases hover
    | timedOut =>
      rw [hphase] at hover
      cases hover
    | moot =>
      rw [hphase] at hover
      cases hover

/-- While the first peer stalls, the second one can be served. -/
theorem exists_delivery_sample :
    ∃ as, Allowed step Allows ((TlsListener.new defaultHandshakeTimeout
        (listenerSample false)).after (listenerSampleRun.take 5)) as ∧ (∀ a ∈ as, Serves 1 a) ∧
      ∃ config, (1, config) ∈ (((TlsListener.new defaultHandshakeTimeout
        (listenerSample false)).after (listenerSampleRun.take 5)).after as).delivered := by
  have hrun : Allowed step Allows
      (TlsListener.new defaultHandshakeTimeout (listenerSample false))
      (listenerSampleRun.take 5 ++ listenerSampleRun.drop 5) := listenerSampleRun_allowed
  refine exists_delivery (Reach.start.foldl (allowed_append.mp hrun).1) rfl (.inr ⟨?_, rfl⟩)
  exact fun h => by cases h

/-! ### What is bounded -/

/-- `n` handshakes have succeeded, and `accept` has returned nothing. -/
structure Crowded (handshakeTimeout : ℕ) (config : ServerConfig) (n : ℕ) (s : TlsListener) :
    Prop where
  reached : Reached handshakeTimeout config s
  pump : s.pump = .accepting
  backlog : s.backlog = []
  delivered : s.delivered = []
  dropped : s.dropped = false
  absent : ∀ q, n ≤ q → s.handshakes q = .absent
  crowd : s.channel.queue.length + s.channel.senders.length = n

/-- One more peer completes its handshake, and its stream is in the channel or with a task that
waits. -/
theorem Crowded.succ {handshakeTimeout n : ℕ} {config : ServerConfig} {s : TlsListener}
    (h : Crowded handshakeTimeout config n s) :
    ∃ s', Crowded handshakeTimeout config (n + 1) s' := by
  have hn : s.handshakes n = .absent := h.absent n le_rfl
  -- one more peer connects
  let s₁ := s.step (.connect n)
  have hs₁ : Reached handshakeTimeout config s₁ := by
    refine h.reached.act _ ⟨?_, hn, ?_⟩
    · rw [h.pump]
      exact fun heq => by cases heq
    · rw [h.backlog]
      exact List.not_mem_nil
  have hbacklog : s₁.backlog = [n] := by
    show s.backlog ++ [n] = [n]
    rw [h.backlog]
    rfl
  -- the pump accepts the connection and starts its handshake
  let s₂ : TlsListener :=
    { s₁.setHandshake n (.running s₁.current (s₁.now + s₁.handshakeTimeout)) with
      backlog := [], accepted := s₁.accepted ++ [(n, s₁.current)] }
  have hs₂ : Reached handshakeTimeout config s₂ := by
    have hstep : s₁.step .acceptTcp = s₂ := by
      simp only [step, acceptTcp, hbacklog]
      rfl
    rw [← hstep]
    exact hs₁.act _ ⟨h.pump, hbacklog ▸ List.cons_ne_nil _ _⟩
  have hrunning : s₂.handshakes n = .running s₁.current (s₁.now + s₁.handshakeTimeout) :=
    Function.update_self _ _ _
  -- the handshake succeeds, and its task sends the stream
  have hs₃ : Reached handshakeTimeout config (s₂.send n s₁.current) := by
    have hstep : s₂.step (.finish n true) = s₂.send n s₁.current := by
      simp only [step, hrunning, if_true]
    rw [← hstep]
    exact hs₂.act _ ⟨_, _, hrunning⟩
  -- the peers behind it have not connected yet
  have habsent : ∀ x q, n + 1 ≤ q → Function.update s₂.handshakes n x q = .absent := by
    intro x q hq
    have hqn : q ≠ n := by omega
    rw [Function.update_of_ne hqn, show s₂.handshakes q = s.handshakes q from
      Function.update_of_ne hqn _ _]
    exact h.absent q (by omega)
  have hcrowd := h.crowd
  have hdropped : s₂.dropped = false := h.dropped
  refine ⟨s₂.send n s₁.current, ?_⟩
  rw [send, hdropped, if_neg Bool.false_ne_true] at hs₃ ⊢
  -- there is a place in the channel, or the task waits for one with its stream
  rcases FairChannel.send_cases s₂.channel n (n, s₁.current) with
    ⟨channel, hsend, hqueue, hsenders⟩ | ⟨channel, hsend, hqueue, hsenders⟩
  · rw [hsend] at hs₃ ⊢
    refine ⟨hs₃, h.pump, rfl, h.delivered, h.dropped, habsent _, ?_⟩
    show channel.queue.length + channel.senders.length = n + 1
    rw [hqueue, hsenders, List.length_append, List.length_singleton, ← hcrowd]
    show s.channel.queue.length + 1 + s.channel.senders.length = _
    omega
  · rw [hsend] at hs₃ ⊢
    refine ⟨hs₃, h.pump, rfl, h.delivered, h.dropped, habsent _, ?_⟩
    show channel.queue.length + channel.senders.length = n + 1
    rw [hqueue, hsenders, List.length_append, List.length_singleton, ← hcrowd]
    rfl

theorem exists_crowded (handshakeTimeout : ℕ) (config : ServerConfig) (n : ℕ) :
    ∃ s, Crowded handshakeTimeout config n s := by
  induction n with
  | zero =>
    exact ⟨(TlsListener.new handshakeTimeout config).step .accept,
      Reach.act ListenerAction.accept .start rfl, rfl, rfl, rfl, rfl, fun _ _ => rfl, rfl⟩
  | succ n ih =>
    obtain ⟨s, hs⟩ := ih
    exact hs.succ

/-- **What is bounded, and what is not.**  The channel never has more than 1024 streams.  But the
pump does not wait for it: for every number there is a run in which so many connections have
completed their handshakes and hold their streams outside of the channel, while `accept` has
returned nothing. -/
theorem streams_unbounded (handshakeTimeout : ℕ) (config : ServerConfig) :
    (∀ s, Reached handshakeTimeout config s →
      s.channel.queue.length ≤ handshakeChannelCapacity) ∧
    ∀ n, ∃ s, Reached handshakeTimeout config s ∧ s.delivered = [] ∧ s.dropped = false ∧
      ∃ peers : List ℕ, peers.Nodup ∧ peers.length = n ∧
        ∀ p ∈ peers, ∃ config, s.handshakes p = .sending config := by
  have hbound : ∀ s, Reached handshakeTimeout config s →
      s.channel.queue.length ≤ handshakeChannelCapacity := by
    intro s h
    rw [← (listenerInv_of_reached h).capacity]
    exact (Nat.le_add_right _ _).trans (listenerInv_of_reached h).sound.bound
  refine ⟨hbound, fun n => ?_⟩
  obtain ⟨s, hs⟩ := exists_crowded handshakeTimeout config (handshakeChannelCapacity + n)
  have hinv := listenerInv_of_reached hs.reached
  have hlength : n ≤ s.channel.senders.length := by
    have hcrowd := hs.crowd
    have hqueue := hbound s hs.reached
    omega
  refine ⟨s, hs.reached, hs.delivered, hs.dropped, s.channel.senders.take n, ?_, ?_, ?_⟩
  · exact hinv.sound.nodup.sublist (List.take_sublist _ _)
  · exact List.length_take_of_le hlength
  · intro p hp
    exact ((hinv.peers p).sender hs.dropped).mp (List.mem_of_mem_take hp)

end ActonService.Tls
