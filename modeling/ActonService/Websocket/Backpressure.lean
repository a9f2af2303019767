import ActonService.Websocket.Broadcaster

/-!
# A full channel and the broadcaster

A broadcast waits for every channel that is full, and keeps its read guard meanwhile.  The lock is
fair, so that a registration that waits for the guard keeps everybody out who comes after it.

## Main definitions

* `StuckAt` — a task waits for a full channel.
* `Held` — what stays as it is while it does.

## Main results

* `Held.step` — what one action leaves as it is.
* `registry_frozen` — **while one channel stays full, no connection is registered or unregistered,
  and once one call waits for that, no later call of any kind returns.**
* `goes_on_or_stuck` — **nothing but a full channel holds the broadcaster up.**
-/

namespace ActonService

open Run

variable {M : Type} {s s' s'' : BroadcasterSystem M} {i : ℕ} {sender : ℕ}

namespace BroadcasterSystem

/-- The task waits for a channel that is full. -/
def StuckAt (s : BroadcasterSystem M) (i sender : ℕ) : Prop :=
  ∃ call order sent tried message todo,
    s.tasks i = .sending call order sent tried (sender, message) todo ∧
      (s.channels sender).Stuck

end BroadcasterSystem

/-- The action makes room in the channel, or ends it. -/
def BroadcasterAction.Frees (sender : ℕ) : BroadcasterAction M → Prop
  | .receive c => c = sender
  | .close c => c = sender
  | _ => False

/-! ### One step -/

section SendNext

variable (call : BroadcasterCall M) (order : List ConnectionId) (sent : ℕ)
  (tried : List (ℕ × Bool)) (todo : List (ℕ × M))

@[simp] theorem connections_sendNext :
    (s.sendNext i call order sent tried todo).connections = s.connections := by
  cases todo <;> rfl

@[simp] theorem channels_sendNext :
    (s.sendNext i call order sent tried todo).channels = s.channels := by
  cases todo <;> rfl

@[simp] theorem barred_sendNext :
    (s.sendNext i call order sent tried todo).lock.barred = s.lock.barred := by
  cases todo <;> rfl

theorem tasks_sendNext_of_ne {j : ℕ} (hj : j ≠ i) :
    (s.sendNext i call order sent tried todo).tasks j = s.tasks j := by
  cases todo <;> exact Function.update_of_ne hj _ _

theorem log_sendNext : ∃ more, (s.sendNext i call order sent tried todo).log = s.log ++ more ∧
    ∀ e ∈ more, e.call = call := by
  cases todo with
  | nil => exact ⟨[_], rfl, fun e he => by rw [List.mem_singleton.mp he]⟩
  | cons next todo => exact ⟨[], (List.append_nil _).symm, fun e he => by cases he⟩

/-- A turn ends in another phase than it began in. -/
theorem tasks_sendNext_ne (hphase : (∃ call, s.tasks i = .waiting call) ∨
      ∃ call order sent tried next, s.tasks i = .sending call order sent tried next todo) :
    (s.sendNext i call order sent tried todo).tasks i ≠ s.tasks i := by
  cases todo with
  | nil =>
    simp only [BroadcasterSystem.sendNext, BroadcasterSystem.complete, BroadcasterSystem.goOn,
      Function.update_self]
    rcases hphase with ⟨call', hphase⟩ | ⟨call', order', sent', tried', next, hphase⟩
    · rw [hphase]
      exact fun h => by cases h
    · rw [hphase]
      exact fun h => by cases h
  | cons next' todo =>
    simp only [BroadcasterSystem.sendNext, BroadcasterSystem.goOn, Function.update_self]
    rcases hphase with ⟨call', hphase⟩ | ⟨call', order', sent', tried', next, hphase⟩
    · rw [hphase]
      exact fun h => by cases h
    · rw [hphase]
      intro h
      -- one send less is left
      have hlength := congrArg List.length (BroadcasterPhase.sending.inj h).2.2.2.2.2
      simp at hlength

end SendNext

/-- What a task does when it is polled. -/
theorem poll_cases (s : BroadcasterSystem M) (i : ℕ) (order : List ConnectionId) :
    s.poll i order = s ∨
      (∃ call mode lock, s.tasks i = .waiting call ∧ s.lock.acquire? i = some (mode, lock) ∧
        s.poll i order = { s with lock := lock }.enter i call order) ∨
      ∃ call order' sent tried next todo channel ok,
        s.tasks i = .sending call order' sent tried next todo ∧
          (s.channels next.1).send? next.2 = some (channel, ok) ∧
            s.poll i order = { s with
              channels := Function.update s.channels next.1 channel }.sendNext i call order'
                (if ok then sent + 1 else sent) (tried ++ [(next.1, ok)]) todo := by
  rw [BroadcasterSystem.poll]
  cases hphase : s.tasks i with
  | uncalled => exact .inl rfl
  | returned => exact .inl rfl
  | waiting call =>
    cases hacquire : s.lock.acquire? i with
    | none => exact .inl rfl
    | some r => exact .inr (.inl ⟨call, r.1, r.2, rfl, rfl, rfl⟩)
  | sending call order' sent tried next todo =>
    cases hsend : (s.channels next.1).send? next.2 with
    | none => exact .inl (by simp only [hsend])
    | some r =>
      exact .inr (.inr ⟨call, order', sent, tried, next, todo, r.1, r.2, rfl, hsend,
        by simp only [hsend]⟩)

/-! ### What stays as it is -/

/-- What stays as it is between two states while a task is stuck. -/
structure Held (i sender : ℕ) (s s' : BroadcasterSystem M) : Prop where
  stuck : s'.StuckAt i sender
  connections : s'.connections = s.connections
  log : ∃ more, s'.log = s.log ++ more ∧ ∀ e ∈ more, e.call.mode = .read
  barred : s.lock.barred <+: s'.lock.barred
  waiting : ∀ w ∈ s.lock.barred, s'.tasks w.1 = s.tasks w.1
  uncalled : s.lock.barred ≠ [] → ∀ j, s.tasks j = .uncalled →
    s'.tasks j = .uncalled ∨ ∃ mode, (j, mode) ∈ s'.lock.barred

theorem Held.refl (h : s.StuckAt i sender) : Held i sender s s :=
  ⟨h, rfl, ⟨[], (List.append_nil _).symm, fun e he => by cases he⟩, List.prefix_rfl,
    fun _ _ => rfl, fun _ _ hj => .inl hj⟩

theorem Held.trans (h : Held i sender s s') (h' : Held i sender s' s'') : Held i sender s s'' := by
  obtain ⟨more, hmore, hreads⟩ := h.log
  obtain ⟨more', hmore', hreads'⟩ := h'.log
  refine ⟨h'.stuck, h'.connections.trans h.connections, ⟨more ++ more', ?_, fun e he => ?_⟩,
    h.barred.trans h'.barred, fun w hw => ?_, fun hne j hj => ?_⟩
  · rw [hmore', hmore, List.append_assoc]
  · exact (List.mem_append.mp he).elim (hreads e) (hreads' e)
  · exact (h'.waiting w (h.barred.mem hw)).trans (h.waiting w hw)
  · rcases h.uncalled hne j hj with hj' | ⟨mode, hj'⟩
    · refine h'.uncalled (fun hnil => hne ?_) j hj'
      exact List.prefix_nil.mp (hnil ▸ h.barred)
    · exact .inr ⟨mode, h'.barred.mem hj'⟩

/-- A task that is stuck has a read guard. -/
theorem holders_of_stuckAt (hinv : BroadcasterInv s) (h : s.StuckAt i sender) :
    (i, Mode.read) ∈ s.lock.holders := by
  obtain ⟨call, order, sent, tried, message, todo, hphase, -⟩ := h
  exact (hinv.lock.holders i .read (Option.some_ne_none i)).mpr ⟨rfl, by rw [hphase]; rfl⟩

/-- The end of a turn of another task, which reads. -/
theorem Held.sendNext (h : s.StuckAt i sender) {t : BroadcasterSystem M} {j : ℕ}
    (hconnections : t.connections = s.connections) (htasks : t.tasks = s.tasks)
    (hchannel : t.channels sender = s.channels sender) (hlog : t.log = s.log)
    (hbarred : t.lock.barred = s.lock.barred) (hne : i ≠ j) (hcalled : s.tasks j ≠ .uncalled)
    (hj : ∀ w ∈ s.lock.barred, w.1 ≠ j) {call : BroadcasterCall M} (hread : call.mode = .read)
    (order : List ConnectionId) (sent : ℕ) (tried : List (ℕ × Bool)) (todo : List (ℕ × M)) :
    Held i sender s (t.sendNext j call order sent tried todo) := by
  obtain ⟨call', order', sent', tried', message, todo', hphase, hstuck⟩ := h
  have hothers : ∀ k, k ≠ j → (t.sendNext j call order sent tried todo).tasks k = s.tasks k :=
    fun k hk => (tasks_sendNext_of_ne _ _ _ _ _ hk).trans (congrFun htasks k)
  obtain ⟨more, hmore, hcalls⟩ := log_sendNext (s := t) (i := j) call order sent tried todo
  refine ⟨⟨call', order', sent', tried', message, todo', (hothers i hne).trans hphase, ?_⟩, ?_,
    ⟨more, hlog ▸ hmore, fun e he => by rw [hcalls e he, hread]⟩, ?_,
    fun w hw => hothers w.1 (hj w hw), fun _ k hk => .inl ((hothers k ?_).trans hk)⟩
  · rw [channels_sendNext, hchannel]
    exact hstuck
  · rw [connections_sendNext, hconnections]
  · rw [barred_sendNext, hbarred]
  · rintro rfl
    exact hcalled hk

/-- Another task is called, and asks for the lock. -/
theorem Held.call (hinv : BroadcasterInv s) (h : s.StuckAt i sender) (j : ℕ)
    (newcall : BroadcasterCall M) : Held i sender s (s.step (.call j newcall)) := by
  obtain ⟨call, order, sent, tried, message, todo, hphase, hstuck⟩ := id h
  rw [BroadcasterSystem.step]
  split
  · next huncalled =>
    have hne : i ≠ j := by
      rintro rfl
      rw [hphase] at huncalled
      cases huncalled
    refine ⟨⟨call, order, sent, tried, message, todo, ?_, hstuck⟩, rfl,
      ⟨[], (List.append_nil _).symm, fun e he => by cases he⟩, FairLock.barred_request,
      fun w hw => ?_, fun hbarred k hk => ?_⟩
    · exact (Function.update_of_ne hne _ _).trans hphase
    · -- who waits has been called before
      refine Function.update_of_ne (fun heq => ?_) _ _
      have hwants := ((hinv.lock.queue w.1 w.2).mp (FairLock.mem_queue_of_mem_barred hw)).2
      rw [heq, huncalled] at hwants
      cases hwants
    · rcases eq_or_ne k j with rfl | hkj
      · exact .inr ⟨newcall.mode, FairLock.mem_barred_request hbarred⟩
      · exact .inl ((Function.update_of_ne hkj _ _).trans hk)
  · exact .refl h

/-- Another channel is read or closed, which does not help a send to this one. -/
theorem Held.channel (h : s.StuckAt i sender) {c : ℕ} (hne : c ≠ sender) (channel : Channel M) :
    Held i sender s { s with channels := Function.update s.channels c channel } := by
  obtain ⟨call, order, sent, tried, message, todo, hphase, hstuck⟩ := h
  refine ⟨⟨call, order, sent, tried, message, todo, hphase, ?_⟩, rfl,
    ⟨[], (List.append_nil _).symm, fun e he => by cases he⟩, List.prefix_rfl, fun _ _ => rfl,
    fun _ _ hk => .inl hk⟩
  show (Function.update s.channels c channel sender).Stuck
  rwa [Function.update_of_ne (Ne.symm hne)]

/-- **What one action leaves as it is** while it does not free the channel. -/
theorem Held.step (hinv : BroadcasterInv s) (h : s.StuckAt i sender) {a : BroadcasterAction M}
    (hfree : ¬ a.Frees sender) : Held i sender s (s.step a) := by
  obtain ⟨call, order, sent, tried, message, todo, hphase, hstuck⟩ := id h
  cases a with
  -- a call begins outside of the lock
  | call j newcall => exact .call hinv h j newcall
  | poll j order' =>
    rw [BroadcasterSystem.step]
    rcases poll_cases s j order' with heq | ⟨call', mode, lock, hj, hacquire, heq⟩ |
      ⟨call', order'', sent', tried', next, todo', channel, ok, hj, hsend, heq⟩
    · rw [heq]
      exact .refl h
    · -- a reader that stood ahead of every waiting writer gets in
      obtain ⟨hread, hbarred⟩ := FairLock.barred_acquire
        (List.ne_nil_of_mem (holders_of_stuckAt hinv h)) hacquire
      obtain ⟨hmode, hacquired, -⟩ := hinv.lock.acquired hj hacquire
      have hcall : call'.mode = .read := hmode.symm.trans hread
      rw [heq, BroadcasterSystem.enter]
      let t : BroadcasterSystem M :=
        { s with lock := lock, connections := call'.change s.connections }
      refine Held.sendNext h (t := t) (BroadcasterCall.change_of_read hcall _) rfl rfl rfl hbarred
        ?_ ?_ (fun w hw hwj => ?_) hcall _ _ _ _
      · rintro rfl
        rw [hphase] at hj
        cases hj
      · rw [hj]
        exact fun h => by cases h
      · rw [← hbarred] at hw
        exact ((hacquired.queue w.1 w.2).mp (FairLock.mem_queue_of_mem_barred hw)).1
          (congrArg some hwj)
    · -- a send that succeeds is one to another channel, as this one is full
      have hother : next.1 ≠ sender := by
        rintro rfl
        rw [Channel.send?_eq_none_iff.mpr hstuck] at hsend
        cases hsend
      rw [heq]
      let t : BroadcasterSystem M :=
        { s with channels := Function.update s.channels next.1 channel }
      refine Held.sendNext h (t := t) rfl rfl (Function.update_of_ne hother.symm _ _) rfl rfl ?_ ?_
        (fun w hw hwj => ?_) (hinv.registry.midway j _ _ _ _ _ _ hj).read _ _ _ _
      · rintro rfl
        rw [hphase] at hj
        cases hj
        exact hother rfl
      · rw [hj]
        exact fun h => by cases h
      · have hwants := ((hinv.lock.queue w.1 w.2).mp (FairLock.mem_queue_of_mem_barred hw)).2
        rw [hwj, hj] at hwants
        cases hwants
  -- the condition is that nobody receives from this channel
  | receive c =>
    rw [BroadcasterSystem.step]
    split
    · next channel _ => exact .channel h hfree channel
    · exact .refl h
  | close c => exact .channel h hfree _

/-! ### Runs -/

/-- What a run leaves as it is, as long as nobody reads from the full channel or closes it. -/
theorem Held.foldl (hinv : BroadcasterInv s) (h : s.StuckAt i sender)
    {as : List (BroadcasterAction M)} (hrun : Allowed BroadcasterSystem.step
      BroadcasterSystem.Allowed s as) (hfree : ∀ a ∈ as, ¬ a.Frees sender) :
    Held i sender s (as.foldl BroadcasterSystem.step s) := by
  induction as generalizing s with
  | nil => exact .refl h
  | cons a as ih =>
    have hfirst := Held.step hinv h (hfree a List.mem_cons_self)
    exact hfirst.trans (ih (hinv.step hrun.1) hfirst.stuck hrun.2 fun b hb =>
      hfree b (List.mem_cons_of_mem _ hb))

/-- **One full channel stops the registry.**  From a state in which a broadcast waits for a full
channel, in every run in which nothing is taken from that channel and its receiver stays: the
broadcast keeps waiting, no registration or unregistration takes effect, whoever waits for one
goes on waiting, and once somebody does, no call made later gets beyond waiting. -/
theorem registry_frozen {channels : ℕ → Channel M}
    (hreach : Reach BroadcasterSystem.step BroadcasterSystem.Allowed (.new channels) s)
    (hstuck : s.StuckAt i sender) {as : List (BroadcasterAction M)}
    (hrun : Allowed BroadcasterSystem.step BroadcasterSystem.Allowed s as)
    (hfree : ∀ a ∈ as, ¬ a.Frees sender) :
    let s' := as.foldl BroadcasterSystem.step s
    s'.StuckAt i sender ∧ s'.connections = s.connections ∧
      (∀ e ∈ s'.log, e ∈ s.log ∨ e.call.mode = .read) ∧
      (∀ j call, s.tasks j = .waiting call → call.mode = .write → s'.tasks j = .waiting call) ∧
      ((∃ j call, s.tasks j = .waiting call ∧ call.mode = .write) →
        ∀ k, s.tasks k = .uncalled →
          s'.tasks k = .uncalled ∨ ∃ call, s'.tasks k = .waiting call) := by
  intro s'
  have hinv := broadcasterInv_of_reach hreach
  have hinv' : BroadcasterInv s' := broadcasterInv_of_reach (hreach.foldl hrun)
  have hheld := Held.foldl hinv hstuck hrun hfree
  -- a writer that waits has barred those that come after it
  have hbarred : ∀ j call, s.tasks j = .waiting call → call.mode = .write →
      (j, .write) ∈ s.lock.barred := by
    intro j call hj hwrite
    refine FairLock.mem_barred_of_write ((hinv.lock.queue j .write).mpr ⟨Option.some_ne_none j, ?_⟩)
    rw [hj, ← hwrite]
    rfl
  refine ⟨hheld.stuck, hheld.connections, fun e he => ?_, fun j call hj hwrite => ?_, ?_⟩
  · obtain ⟨more, hmore, hreads⟩ := hheld.log
    rw [hmore] at he
    exact (List.mem_append.mp he).imp id (hreads e)
  · exact (hheld.waiting _ (hbarred j call hj hwrite)).trans hj
  · -- whoever calls now stands in the queue behind a writer, and so gets no further
    rintro ⟨j, call, hj, hwrite⟩ k hk
    refine (hheld.uncalled (List.ne_nil_of_mem (hbarred j call hj hwrite)) k hk).imp id ?_
    rintro ⟨mode, hmem⟩
    have hwants :=
      ((hinv'.lock.queue k mode).mp (FairLock.mem_queue_of_mem_barred hmem)).2
    cases hphase : s'.tasks k with
    | waiting call => exact ⟨call, rfl⟩
    | _ =>
      rw [hphase] at hwants
      cases hwants

/-- A second broadcast finds the channel of the connection full. -/
def sampleStuck : List (BroadcasterAction String) :=
  [.call 2 (.broadcast .all "b"), .poll 2 [⟨1⟩]]

/-- Another connection tries to register, and somebody wants to know how many there are. -/
def sampleFrozen : List (BroadcasterAction String) :=
  [.poll 2 [⟨1⟩], .call 3 (.register ⟨2⟩ 8), .poll 3 [⟨1⟩], .call 4 .connectionCount,
    .poll 4 [⟨1⟩]]

/-- The state in which it waits. -/
def sampleFull : BroadcasterSystem String :=
  sampleStuck.foldl BroadcasterSystem.step
    (sampleBroadcast.foldl BroadcasterSystem.step (.new fun _ => .new 1))

theorem reach_sampleFull : Reach BroadcasterSystem.step BroadcasterSystem.Allowed
    (.new fun _ => .new 1) sampleFull :=
  reach_sampleBroadcast.foldl ⟨trivial, lists_sample, trivial⟩

theorem sampleFull_phase : sampleFull.tasks 2 =
    .sending (.broadcast .all "b") [⟨1⟩] 0 [] (7, "b") [] := rfl

theorem stuckAt_sampleFull : sampleFull.StuckAt 2 7 :=
  ⟨.broadcast .all "b", [⟨1⟩], 0, [], "b", [], sampleFull_phase, by decide⟩

theorem registry_frozen_sample :
    let s' := sampleFrozen.foldl BroadcasterSystem.step sampleFull
    s'.connections = sampleFull.connections ∧
      ∀ e ∈ s'.log, e ∈ sampleFull.log ∨ e.call.mode = .read := by
  have hrun : Allowed BroadcasterSystem.step BroadcasterSystem.Allowed sampleFull sampleFrozen :=
    ⟨lists_sample, trivial, lists_sample, trivial, lists_sample, trivial⟩
  have hfrozen := registry_frozen reach_sampleFull stuckAt_sampleFull hrun (by
    intro a ha
    simp only [sampleFrozen, List.mem_cons, List.not_mem_nil, or_false] at ha
    rcases ha with rfl | rfl | rfl | rfl | rfl <;> exact fun h => h)
  exact ⟨hfrozen.2.1, hfrozen.2.2.1⟩

/-- **Nothing but a full channel** holds the broadcaster up: as long as some call has not
returned, some task goes on when it is polled, or waits for a full channel. -/
theorem goes_on_or_stuck {channels : ℕ → Channel M}
    (hreach : Reach BroadcasterSystem.step BroadcasterSystem.Allowed (.new channels) s) {j : ℕ}
    (huncalled : s.tasks j ≠ .uncalled) (hreturned : s.tasks j ≠ .returned) :
    (∃ k, ∀ order, (s.step (.poll k order)).tasks k ≠ s.tasks k) ∨
      ∃ k sender, s.StuckAt k sender := by
  have hinv := broadcasterInv_of_reach hreach
  -- a task at a send goes on or is stuck
  have hsending : ∀ k call order sent tried next todo,
      s.tasks k = .sending call order sent tried next todo →
        (∃ k, ∀ order, (s.step (.poll k order)).tasks k ≠ s.tasks k) ∨
          ∃ k sender, s.StuckAt k sender := by
    intro k call order sent tried next todo hk
    cases hsend : (s.channels next.1).send? next.2 with
    | none =>
      exact .inr ⟨k, next.1, call, order, sent, tried, next.2, todo, hk,
        Channel.send?_eq_none_iff.mp hsend⟩
    | some r =>
      refine .inl ⟨k, fun order' => ?_⟩
      simp only [BroadcasterSystem.step, BroadcasterSystem.poll, hk, hsend]
      rw [← hk]
      exact tasks_sendNext_ne (s := { s with channels := _ }) _ _ _ _ _
        (.inr ⟨call, order, sent, tried, next, hk⟩)
  cases hholders : s.lock.holders with
  | cons holder holders =>
    -- whoever has a guard is at a send
    have hguard := (hinv.lock.holders holder.1 holder.2 (Option.some_ne_none _)).mp
      (hholders ▸ List.mem_cons_self)
    cases hphase : s.tasks holder.1 with
    | sending call order sent tried next todo => exact hsending _ _ _ _ _ _ _ hphase
    | _ =>
      rw [hphase] at hguard
      cases hguard.2
  -- nobody has a guard, so that the lock can be acquired by the first that waits for it
  | nil =>
    cases hj : s.tasks j with
    | uncalled => exact absurd hj huncalled
    | returned => exact absurd hj hreturned
    | sending call order sent tried next todo => exact hsending _ _ _ _ _ _ _ hj
    -- `j` stands in the queue itself; whoever stands at its head gets in
    | waiting call =>
      have hmem : (j, call.mode) ∈ s.lock.queue :=
        (hinv.lock.queue j call.mode).mpr ⟨Option.some_ne_none j, by rw [hj]; rfl⟩
      obtain ⟨k, mode, lock, hk, hacquire⟩ :=
        FairLock.exists_acquire hholders (List.ne_nil_of_mem hmem)
      have hwants := ((hinv.lock.queue k mode).mp hk).2
      refine .inl ⟨k, fun order => ?_⟩
      cases hphase : s.tasks k with
      | waiting call' =>
        simp only [BroadcasterSystem.step, BroadcasterSystem.poll, hphase, hacquire]
        rw [← hphase]
        exact tasks_sendNext_ne (s := { s with lock := lock, connections := _ }) _ _ _ _ _
          (.inl ⟨call', hphase⟩)
      | _ =>
        rw [hphase] at hwants
        cases hwants

theorem goes_on_or_stuck_sample :
    (∃ k, ∀ order, (sampleFull.step (.poll k order)).tasks k ≠ sampleFull.tasks k) ∨
      ∃ k sender, sampleFull.StuckAt k sender :=
  goes_on_or_stuck (j := 2) reach_sampleFull (by simp [sampleFull_phase])
    (by simp [sampleFull_phase])

end ActonService
