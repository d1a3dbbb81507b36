import EventRelay.Proofs.Likeness
import EventRelay.Proofs.Settling

namespace EventRelay

namespace Vantage

variable {σ : Type} [EventSource σ] {v : Vantage σ} {pairs : TaskId → TaskId → Prop} {r r' : Relay σ}

namespace Alike

theorem reclaim (h : v.Alike pairs r r') : v.Alike pairs r.reclaim r'.reclaim := by
  rcases h.slots with ⟨hn, hn'⟩ | ⟨s, s', hs, hs', -, twins⟩
  · simp only [Relay.reclaim, hn, hn']
    exact h
  · have empty : r.registry.isEmpty = r'.registry.isEmpty := by rw [h.registry]
    simp only [Relay.reclaim, hs, hs', h.taskEnded twins, empty]
    split
    · have vacated : v.Alike pairs ({ r with slot := none }.note (.pollerReclaimed r.sourceName))
          ({ r' with slot := none }.note (.pollerReclaimed r'.sourceName)) := h.vacate.note rfl
      split
      · exact vacated.resetCursor
      · exact vacated
    · exact h

/-- Both go on with a fresh token. -/
theorem issueToken (h : v.Alike pairs r r') :
    r.issueToken.1 = r'.issueToken.1 ∧ v.Alike pairs r.issueToken.2 r'.issueToken.2 :=
  ⟨h.seen Relay.tokens fun _ => rfl, h.reframe (congrArg (fun r => r.issueToken.2) h.frame) rfl rfl⟩

theorem readClock (h : v.Alike pairs r r') :
    r.readClock.1 = r'.readClock.1 ∧ v.Alike pairs r.readClock.2 r'.readClock.2 :=
  ⟨h.seen (fun r => r.readClock.1) fun _ => rfl, h.reframe (congrArg (fun r => r.readClock.2) h.frame) rfl rfl⟩

theorem withSlot (h : v.Alike pairs r r') {s s' : PollerSlot} (token : s.token = s'.token)
    (twins : v.Twins r r' s.task s'.task) : v.Alike pairs { r with slot := some s } { r' with slot := some s' } :=
  ⟨h.frame, .some ⟨token, twins⟩, h.subscribers, h.rows, h.pairs, h.sights⟩

theorem startPoller (h : v.Alike pairs r r') : v.Alike pairs r.startPoller r'.startPoller := by
  obtain ⟨now, read⟩ := h.readClock
  have stamped : v.Alike pairs { r.readClock.2 with cursor := r.readClock.2.cursor.stamp r.readClock.1 }
      { r'.readClock.2 with cursor := r'.readClock.2.cursor.stamp r'.readClock.1 } := by
    rw [now, read.cursor]
    exact read.withCursor _
  have shown : v.shows (.poller 0 .ready) = true := rfl
  have spawned := stamped.spawn r.settings.pollerName r'.settings.pollerName shown shown rfl
  have twins := stamped.spawn_twins r.settings.pollerName r'.settings.pollerName shown shown
  obtain ⟨token, issued⟩ := spawned.issueToken
  have same : (PollerSlot.mk r.tasks.size _).token = (PollerSlot.mk r'.tasks.size _).token := token
  have occupied := issued.withSlot same twins
  have unseen : v.sight? (.pollerStarted r.sourceName r.tasks.size r.readClock.1) =
    v.sight? (.pollerStarted r'.sourceName r'.tasks.size r'.readClock.1) := rfl
  exact occupied.note unseen

theorem revivePoller (h : v.Alike pairs r r') {s s' : PollerSlot} (twins : v.Twins r r' s.task s'.task) :
    v.Alike pairs (r.revivePoller s) (r'.revivePoller s') := by
  obtain ⟨token, issued⟩ := h.issueToken
  have same : { s with token := _ : PollerSlot }.token = { s' with token := _ : PollerSlot }.token := token
  have occupied := issued.withSlot same twins
  have unseen : v.sight? .pollerRevived = v.sight? .pollerRevived := rfl
  exact occupied.note unseen

theorem cancelToken (h : v.Alike pairs r r') (token : TokenId) :
    v.Alike pairs (r.cancelToken token) (r'.cancelToken token) :=
  h.reframe (congrArg (·.cancelToken token) h.frame) rfl rfl

theorem stopPoller (h : v.Alike pairs r r') {s s' : PollerSlot} (token : s.token = s'.token) :
    v.Alike pairs (r.stopPoller s) (r'.stopPoller s') := by
  unfold Relay.stopPoller
  rw [token]
  exact ((h.cancelToken s'.token).interruptSource .controller).note rfl

theorem alignPoller (h : v.Alike pairs r r') : v.Alike pairs r.alignPoller r'.alignPoller := by
  unfold Relay.alignPoller
  rw [h.registry]
  rcases h.slots with ⟨hn, hn'⟩ | ⟨s, s', hs, hs', token, twins⟩
  · rw [hn, hn']
    cases r'.registry.isEmpty with
    | true => exact h
    | false => exact h.startPoller
  · rw [hs, hs']
    cases r'.registry.isEmpty with
    | true =>
      dsimp only
      rw [token, h.isCancelled]
      split
      · exact h
      · exact h.stopPoller token
    | false =>
      dsimp only
      rw [token, h.isCancelled]
      split
      · exact h.revivePoller twins
      · exact h

theorem followRegistry (h : v.Alike pairs r r') : v.Alike pairs r.followRegistry r'.followRegistry :=
  h.reclaim.alignPoller

theorem addSubscriber (h : v.Alike pairs r r') (name : String) (sub : SubId) :
    v.Alike pairs (r.addSubscriber name sub) (r'.addSubscriber name sub) := by
  unfold Relay.addSubscriber
  rw [h.registry]
  have changed := h.withRegistry (r'.registry.insert name sub).2
  dsimp only
  split
  · exact Alike.followRegistry (changed.note rfl)
  · exact changed.followRegistry

theorem removeSubscriber (h : v.Alike pairs r r') (name : String) (sub : SubId) :
    (r.removeSubscriber name sub).1 = (r'.removeSubscriber name sub).1 ∧
    v.Alike pairs (r.removeSubscriber name sub).2 (r'.removeSubscriber name sub).2 := by
  unfold Relay.removeSubscriber
  rw [h.registry]
  have changed := (h.withRegistry (r'.registry.remove name sub).2).followRegistry
  refine ⟨rfl, ?_⟩
  dsimp only
  split
  · exact (changed.discardPending _ sub).note rfl
  · exact changed

theorem removeSubscribers (h : v.Alike pairs r r') (name : String) :
    (r.removeSubscribers name).1 = (r'.removeSubscribers name).1 ∧
    v.Alike pairs (r.removeSubscribers name).2 (r'.removeSubscribers name).2 := by
  unfold Relay.removeSubscribers
  rw [h.registry]
  have changed := ((h.withRegistry (r'.registry.removeName name).2).followRegistry).discardAll (.unregistered name)
    (r'.registry.removeName name).1
  refine ⟨rfl, ?_⟩
  dsimp only
  split
  · exact changed
  · exact changed.note rfl

theorem shutdown (h : v.Alike pairs r r') :
    r.shutdown.1 = r'.shutdown.1 ∧ v.Alike pairs r.shutdown.2 r'.shutdown.2 := by
  unfold Relay.shutdown Relay.shutdownInOrder
  rw [h.registry]
  exact ⟨rfl, ((h.withRegistry _).followRegistry).discardEnrolments _⟩

theorem postToSource (h : v.Alike pairs r r') (event : Event) :
    (∃ cause, r.postToSource event = .error cause ∧ r'.postToSource event = .error cause) ∨
    ∃ index r₁ r₁', r.postToSource event = .ok (index, r₁) ∧ r'.postToSource event = .ok (index, r₁') ∧
      v.Alike pairs r₁ r₁' := by
  obtain ⟨now, read⟩ := h.readClock
  cases posted : EventSource.post r.source r.readClock.1 event with
  | error cause =>
    have refused := v.refused h.source posted
    left
    refine ⟨cause, ?_, ?_⟩
    · simp only [Relay.postToSource, posted]
    · rw [now] at refused
      simp only [Relay.postToSource, refused]
  | ok accepted =>
    obtain ⟨index, source⟩ := accepted
    obtain ⟨source', posted', same⟩ := v.posted h.source posted
    rw [now] at posted'
    right
    refine ⟨index, _, _, by simp only [Relay.postToSource, posted]; rfl,
      by simp only [Relay.postToSource, posted']; rfl, ?_⟩
    exact (read.withSource same).note rfl

theorem hasSubscriber (h : v.Alike pairs r r') (sub : SubId) : r.hasSubscriber sub = r'.hasSubscriber sub := by
  unfold Relay.hasSubscriber
  rcases h.subscriber sub with ⟨hn, hn'⟩ | ⟨s, s', hs, hs', -⟩
  · rw [hn, hn']
  · rw [hs, hs']
    rfl

theorem carryOut (h : v.Alike pairs r r') (c : Call) :
    (r.carryOut c).1 = (r'.carryOut c).1 ∧ v.Alike pairs (r.carryOut c).2 (r'.carryOut c).2 := by
  cases c with
  | add name sub =>
    simp only [Relay.carryOut, h.hasSubscriber]
    split
    · exact ⟨rfl, h.addSubscriber name sub⟩
    · exact ⟨rfl, h⟩
  | remove name sub =>
    obtain ⟨flag, alike⟩ := h.removeSubscriber name sub
    exact ⟨congrArg Reply.flag flag, alike⟩
  | removeName name =>
    obtain ⟨count, alike⟩ := h.removeSubscribers name
    exact ⟨congrArg Reply.number count, alike⟩
  | fire event =>
    obtain ⟨count, alike⟩ := h.fireEvent event
    exact ⟨congrArg Reply.number count, alike⟩
  | post event =>
    rcases h.postToSource event with ⟨cause, he, he'⟩ | ⟨index, r₁, r₁', he, he', alike⟩
    · refine ⟨?_, ?_⟩ <;> simp only [Relay.carryOut, he, he']
      exact h
    · refine ⟨?_, ?_⟩ <;> simp only [Relay.carryOut, he, he']
      exact alike
  | shutdown =>
    obtain ⟨count, alike⟩ := h.shutdown
    exact ⟨congrArg Reply.number count, alike⟩
  | count name => exact ⟨by simp only [Relay.carryOut, h.registry], h⟩
  | settings => exact ⟨by simp only [Relay.carryOut, h.settings], h⟩
  | sourceName => exact ⟨by simp only [Relay.carryOut, h.sourceName], h⟩

theorem call (h : v.Alike pairs r r') (c : Call) :
    (r.call c).1 = (r'.call c).1 ∧ v.Alike pairs (r.call c).2 (r'.call c).2 := by
  unfold Relay.call
  rw [h.hasController]
  split
  · exact ⟨rfl, h⟩
  · split
    · exact ⟨rfl, h⟩
    · exact h.carryOut c

/-- Whatever is asked of both, they look alike after it. -/
theorem perform (h : v.Alike pairs r r') (c : Command) : v.Alike pairs (r.perform c).2 (r'.perform c).2 := by
  cases c with
  | call c => exact (h.call c).2
  | postToSource event =>
    rcases h.postToSource event with ⟨cause, he, he'⟩ | ⟨index, r₁, r₁', he, he', alike⟩
    · simp only [Relay.perform, he, he']
      exact h
    · simp only [Relay.perform, he, he']
      exact alike
  | interruptSource => exact h.interruptSource .client
  | closeSource => exact h.withSource (v.close h.source)
  | pushToSource items => exact h.withSource (v.push items h.source)
  | grant sub permits =>
    exact h.updateSeen sub (fun _ quiet => ⟨quiet, quiet⟩) fun s s' like =>
      ⟨like.handler, like.reactions, like.events, like.served, by simp only [like.permits], like.tally⟩
  | inspect _ | describe _ => exact h

theorem react (h : v.Alike pairs r r') (sub : SubId) (commands : List Command) :
    v.Alike pairs (r.react sub commands) (r'.react sub commands) := by
  induction commands generalizing r r' with
  | nil => exact h
  | cons c rest ih =>
    suffices same : v.sight? (.reacted ((r.perform c).2.party sub) c (r.perform c).1) =
        v.sight? (.reacted ((r'.perform c).2.party sub) c (r'.perform c).1) from ih ((h.perform c).note same)
    cases c with
    | call c =>
      have reply : (r.perform (.call c)).1 = (r'.perform (.call c)).1 := (h.call c).1
      rw [reply]
      rfl
    | postToSource | interruptSource | closeSource | pushToSource | grant | inspect | describe => rfl

theorem withHandles (h : v.Alike pairs r r') {n n' : Nat} (same : n = n') :
    v.Alike pairs { r with handles := n } { r' with handles := n' } := by
  refine h.reframe ?_ rfl rfl
  change { v.frame r with handles := n } = { v.frame r' with handles := n' }
  rw [h.frame, same]

theorem cloneHandle (h : v.Alike pairs r r') : v.Alike pairs r.cloneHandle r'.cloneHandle := by
  unfold Relay.cloneHandle
  rw [h.hasController]
  split
  · exact h.withHandles (congrArg (· + 1) h.handles)
  · exact h

theorem tearDown (h : v.Alike pairs r r') : v.Alike pairs r.tearDown r'.tearDown := by
  have cleared : r.registry.clear = r'.registry.clear := by rw [h.registry]
  rcases h.slots with ⟨hn, hn'⟩ | ⟨s, s', hs, hs', token, -⟩
  · simp only [Relay.tearDown, hn, hn', cleared]
    exact (h.withRegistry _).discardAll _ _
  · simp only [Relay.tearDown, hs, hs', cleared, token]
    exact (((h.vacate.cancelToken s'.token).interruptSource .controller).withRegistry _).discardAll _ _

theorem dropHandle (h : v.Alike pairs r r') : v.Alike pairs r.dropHandle r'.dropHandle := by
  have dropped := h.withHandles (congrArg (· - 1) h.handles)
  unfold Relay.dropHandle
  dsimp only at dropped ⊢
  rw [h.handles] at dropped ⊢
  split
  · exact dropped.tearDown
  · exact dropped

theorem sleep (h : v.Alike pairs r r') (d : Duration) : v.Alike pairs (r.sleep d) (r'.sleep d) :=
  h.reframe (congrArg (·.sleep d) h.frame) rfl rfl

theorem withBus (h : v.Alike pairs r r') (bus bus' : Bus) :
    v.Alike pairs (RelaySession.withBus r bus) (RelaySession.withBus r' bus') :=
  h.reframe h.frame rfl rfl

/-- What is done in a session while no task runs is done to both. -/
theorem brief (h : v.Alike pairs r r') {x : RelayStep} (brief : RelaySession.isBrief x = true) :
    v.Alike pairs (RelaySession.perform r x).2 (RelaySession.perform r' x).2 := by
  cases x with
  | run | poll => contradiction
  | command c => exact h.perform c
  | sleep d => exact h.sleep d
  | cloneHandle => exact h.cloneHandle
  | dropHandle => exact h.dropHandle
  | notices =>
    have read : ∀ r : Relay σ, ∃ bus, (RelaySession.perform r .notices).2 = RelaySession.withBus r bus := by
      intro r
      simp only [RelaySession.perform]
      split
      · exact ⟨r.bus, rfl⟩
      · exact ⟨_, rfl⟩
    obtain ⟨bus, he⟩ := read r
    obtain ⟨bus', he'⟩ := read r'
    rw [he, he']
    exact h.withBus bus bus'
  | renewReceiver =>
    simp only [RelaySession.perform, h.hasController]
    split <;> exact h.withBus _ _

end Alike

end Vantage

end EventRelay
