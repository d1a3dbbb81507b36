import EventRelay.Proofs.LastHandle
import Mathlib.Algebra.Ring.Nat

namespace EventRelay

theorem Table.ext {α : Type} {t t' : Table α} (h : ∀ i, t.get? i = t'.get? i) : t = t' := by
  obtain ⟨rows⟩ := t
  obtain ⟨rows'⟩ := t'
  exact congrArg Table.mk (List.ext_getElem? h)

namespace Bus

/-- A bus but for the notices that it retains. -/
def frame (b : Bus) : Bus := { b with retained := [] }

theorem frame_publish (b : Bus) (body body' : NoticeBody) :
    (b.publish body).frame = (b.frame.publish body').frame := by
  unfold publish send frame
  dsimp only [make]
  split <;> rfl

/-- Publishing is the same but for the retained notices, whatever they say. -/
theorem frame_foldl_publish {bodies bodies' : List NoticeBody} (h : bodies.length = bodies'.length) {b b' : Bus}
    (alike : b.frame = b'.frame) : (bodies.foldl publish b).frame = (bodies'.foldl publish b').frame := by
  induction bodies generalizing bodies' b b' with
  | nil =>
    obtain rfl := List.length_eq_zero_iff.mp h.symm
    exact alike
  | cons body rest ih =>
    obtain ⟨body', rest', rfl⟩ := List.exists_cons_of_length_eq_add_one h.symm
    refine ih (Nat.succ.inj h) ?_
    rw [frame_publish b body body', alike, ← frame_publish b']

end Bus

/-- One of those registered, with the name. -/
abbrev Registration := String × SubId

/-- The registrations in the order in which they are gone through. -/
def registrations (entries : List Enrolment) : List Registration :=
  entries.flatMap fun e => e.2.map fun sub => (e.1, sub)

theorem map_snd_registrations (entries : List Enrolment) :
    (registrations entries).map Prod.snd = entries.flatMap Prod.snd := by
  simp [registrations, List.map_flatMap, Function.comp_def]

/-- However the entries are ordered, there are as many registrations as under all the names. -/
theorem Registry.Tidy.total {registry : Registry} (h : registry.Tidy) {entries : List Enrolment}
    (order : entries.Perm registry.entries) :
    (entries.flatMap Prod.snd).length = (registry.names.map registry.count).sum := by
  have counted : ∀ e ∈ registry.entries, e.2.length = registry.count e.1 :=
    fun e he => congrArg List.length (h.membersOf he).symm
  calc (entries.flatMap Prod.snd).length
      = (registry.entries.flatMap Prod.snd).length := (order.flatMap_right _).length_eq
    _ = (registry.entries.map fun e => e.2.length).sum := List.length_flatMap
    _ = ((registry.entries.map Prod.fst).map registry.count).sum := by
      rw [List.map_map]
      exact congrArg List.sum (List.map_congr_left counted)
    _ = (registry.names.map registry.count).sum := ((List.mergeSort_perm _ _).map _).sum_nat.symm

namespace Relay

variable {σ : Type}

/-- A subscriber lost what it had pending when it was taken off a name. -/
def lossFact (r : Relay σ) (e : Registration) : Occurrence :=
  .discarded (r.party e.2) (r.pendingOf e.2) (.unregistered e.1)

/-- The notice of that: the name, the subscriber, and how much it had pending. -/
def lossNotice (r : Relay σ) (e : Registration) : NoticeBody :=
  { kind := .queueDiscarded
    event := some e.1
    subscriber := some (r.party e.2).name
    count := some (r.pendingOf e.2).length }

/-- The subscriber loses what it has pending, as it is taken off the name. -/
def lose (r : Relay σ) (e : Registration) : Relay σ := (r.updateSubscriber e.2 Subscriber.discard).note (r.lossFact e)

theorem lose_party (r : Relay σ) (e : Registration) (sub : SubId) : (r.lose e).party sub = r.party sub := by
  simp only [lose, party, note, updateSubscriber, Table.get?_update]
  split
  · cases r.subscribers.get? sub <;> rfl
  · rfl

theorem lose_pendingOf (r : Relay σ) (e : Registration) (sub : SubId) :
    (r.lose e).pendingOf sub = if sub = e.2 then [] else r.pendingOf sub := by
  simp only [lose, pendingOf, note, updateSubscriber, Table.get?_update, eq_comm (a := sub)]
  split
  · cases r.subscribers.get? sub <;> rfl
  · rfl

theorem lose_lossFact {r : Relay σ} {e x : Registration} (other : x.2 ≠ e.2) :
    (r.lose e).lossFact x = r.lossFact x := by
  rw [lossFact, lose_party, lose_pendingOf, if_neg other, lossFact]

theorem lose_lossNotice {r : Relay σ} {e x : Registration} (other : x.2 ≠ e.2) :
    (r.lose e).lossNotice x = r.lossNotice x := by
  rw [lossNotice, lose_party, lose_pendingOf, if_neg other, lossNotice]

theorem discardPending_idle {r : Relay σ} {sub : SubId} (idle : r.pendingOf sub = []) (reason : DiscardReason) :
    r.discardPending reason sub = r := by
  unfold discardPending
  split
  · rfl
  · rename_i s found
    have empty : s.pending = [] := by simpa [pendingOf, found] using idle
    simp [empty]

theorem discardPending_busy {r : Relay σ} {e : Registration} (busy : r.pendingOf e.2 ≠ []) :
    r.discardPending (.unregistered e.1) e.2 = r.lose e := by
  unfold discardPending
  split
  · rename_i absent
    exact absurd (by simp [pendingOf, absent]) busy
  · rename_i s found
    have pending : r.pendingOf e.2 = s.pending := by simp [pendingOf, found]
    have filled : ¬ s.pending.isEmpty = true := by simpa [pending] using busy
    rw [if_neg filled, lose, lossFact, pending]

/-- These registrations were gone through. `losses` are those under which a subscriber lost what it had pending: once
for each that had anything, and told at once. -/
structure Unloaded (visited losses : List Registration) (r r' : Relay σ) : Prop where
  rest : r' = { r with subscribers := r'.subscribers, past := r'.past, bus := r'.bus }
  among : losses ⊆ visited
  once : (losses.map Prod.snd).Nodup
  lost : ∀ {sub}, sub ∈ losses.map Prod.snd ↔ sub ∈ visited.map Prod.snd ∧ r.pendingOf sub ≠ []
  past : r'.past = (losses.map r.lossFact).reverse ++ r.past
  bus : r'.bus = (losses.map r.lossNotice).foldl Bus.publish r.bus

/-- Nothing is left to lose under a name of somebody who has nothing pending. -/
theorem Unloaded.passed {r r' : Relay σ} {visited losses : List Registration} (h : Unloaded visited losses r r')
    {e : Registration} (idle : r.pendingOf e.2 = []) : Unloaded (e :: visited) losses r r' where
  rest := h.rest
  among := fun _ hx => List.mem_cons_of_mem e (h.among hx)
  once := h.once
  lost {sub} := by
    rw [h.lost, List.map_cons, List.mem_cons]
    refine ⟨fun ⟨named, busy⟩ => ⟨.inr named, busy⟩, fun ⟨named, busy⟩ => ⟨named.resolve_left ?_, busy⟩⟩
    rintro rfl
    exact busy idle
  past := h.past
  bus := h.bus

/-- Whoever has lost what was pending has nothing to lose under the names that follow. -/
theorem Unloaded.took {r r' : Relay σ} {visited losses : List Registration} {e : Registration}
    (busy : r.pendingOf e.2 ≠ []) (h : Unloaded visited losses (r.lose e) r') :
    Unloaded (e :: visited) (e :: losses) r r' := by
  have spared : e.2 ∉ losses.map Prod.snd := by
    intro again
    refine (h.lost.mp again).2 ?_
    rw [lose_pendingOf, if_pos rfl]
  have apart : ∀ x ∈ losses, x.2 ≠ e.2 := by
    intro x hx same
    exact spared (same ▸ List.mem_map_of_mem hx)
  refine ⟨h.rest, fun x hx => ?_, List.nodup_cons.mpr ⟨spared, h.once⟩, fun {sub} => ?_, ?_, ?_⟩
  · rcases List.mem_cons.mp hx with rfl | later
    · exact List.mem_cons_self
    · exact List.mem_cons_of_mem _ (h.among later)
  · rw [List.map_cons, List.mem_cons, List.map_cons, List.mem_cons, h.lost, lose_pendingOf]
    by_cases same : sub = e.2
    · subst same
      simp [busy]
    · simp [same]
  · rw [h.past, List.map_congr_left fun x hx => lose_lossFact (apart x hx), List.map_cons, List.reverse_cons,
      List.append_assoc]
    rfl
  · rw [h.bus, List.map_congr_left fun x hx => lose_lossNotice (apart x hx)]
    rfl

theorem foldl_unloaded (r : Relay σ) (visited : List Registration) :
    ∃ losses, Unloaded visited losses r
      (visited.foldl (fun r e => r.discardPending (.unregistered e.1) e.2) r) := by
  induction visited generalizing r with
  | nil => exact ⟨[], rfl, List.Subset.refl _, .nil, by simp, rfl, rfl⟩
  | cons e rest ih =>
    rw [List.foldl_cons]
    by_cases idle : r.pendingOf e.2 = []
    · rw [discardPending_idle idle]
      obtain ⟨losses, h⟩ := ih r
      exact ⟨losses, h.passed idle⟩
    · rw [discardPending_busy idle]
      obtain ⟨losses, h⟩ := ih _
      exact ⟨e :: losses, h.took idle⟩

theorem discardEnrolments_unloaded (r : Relay σ) (entries : List Enrolment) :
    ∃ losses, Unloaded (registrations entries) losses r (r.discardEnrolments entries) := by
  have each : r.discardEnrolments entries =
      (registrations entries).foldl (fun r e => r.discardPending (.unregistered e.1) e.2) r := by
    simp only [discardEnrolments, registrations, List.foldl_flatMap, List.foldl_map]
    rfl
  rw [each]
  exact foldl_unloaded r _

theorem Enrolled.listed_in {r : Relay σ} (h : r.Enrolled) {entries : List Enrolment}
    (order : entries.Perm r.registry.entries) {sub : SubId} :
    sub ∈ entries.flatMap Prod.snd ↔ ∃ name, r.registry.contains name sub = true := by
  rw [(order.flatMap_right Prod.snd).mem_iff, h.listed]
  simp [Registry.contains]

theorem Enrolled.registered_in {r : Relay σ} (h : r.Enrolled) {entries : List Enrolment}
    (order : entries.Perm r.registry.entries) {name : String} {sub : SubId}
    (hr : (name, sub) ∈ registrations entries) : r.registry.contains name sub = true := by
  obtain ⟨e, he, hm⟩ := List.mem_flatMap.mp hr
  obtain ⟨member, hs, named⟩ := List.mem_map.mp hm
  cases named
  have members := h.tidy.membersOf (order.mem_iff.mp he)
  simpa [Registry.contains, members] using hs

/-- Two ways of going through registrations agree on everything, but on what was told of the losses. -/
theorem Unloaded.alike {r r' r'' : Relay σ} {visited visited' losses losses' : List Registration}
    (h : Unloaded visited losses r r') (h' : Unloaded visited' losses' r r'')
    (subscribers : r''.subscribers = r'.subscribers) (many : losses'.length = losses.length) :
    r'' = { r' with past := r''.past, bus := { r'.bus with retained := r''.bus.retained } } := by
  have frame : r''.bus.frame = r'.bus.frame := by
    rw [h.bus, h'.bus]
    exact Bus.frame_foldl_publish (by simpa using many) rfl
  have bus : r''.bus = { r'.bus with retained := r''.bus.retained } :=
    congrArg (fun b : Bus => { b with retained := r''.bus.retained }) frame
  obtain ⟨subs, past, told, rfl⟩ : ∃ subs past told, r' = { r with subscribers := subs, past, bus := told } :=
    ⟨_, _, _, h.rest⟩
  obtain ⟨subs', past', told', rfl⟩ : ∃ subs past told, r'' = { r with subscribers := subs, past, bus := told } :=
    ⟨_, _, _, h'.rest⟩
  cases subscribers
  exact congrArg (fun bus : Bus => { r with subscribers := subs, past := past', bus }) bus

/-- The notices of queues that were emptied, in order. -/
def lossNotices (r : Relay σ) : List NoticeBody := r.notices.filter fun n => n.kind = .queueDiscarded

theorem lossNotices_append {r r' : Relay σ} (news : List Occurrence) (h : r'.past = news ++ r.past) :
    r'.lossNotices =
      r.lossNotices ++ (news.reverse.filterMap Occurrence.notice?).filter fun n => n.kind = .queueDiscarded := by
  simp only [lossNotices, notices, story, h, List.reverse_append, List.filterMap_append, List.filter_append]

theorem lossNotices_of_upkeep {r r' : Relay σ} (h : Adds Occurrence.isUpkeep r r') :
    r'.lossNotices = r.lossNotices := by
  obtain ⟨news, past, upkeep⟩ := h
  rw [lossNotices_append news past, List.filter_eq_nil_iff.mpr, List.append_nil]
  intro n hn
  obtain ⟨o, ho, told⟩ := List.mem_filterMap.mp hn
  have kind := upkeep o (List.mem_reverse.mp ho)
  revert told kind
  cases o <;> simp [Occurrence.notice?, Occurrence.isUpkeep] <;> rintro rfl <;> decide

theorem Unloaded.told {r r' : Relay σ} {visited losses : List Registration} (h : Unloaded visited losses r r') :
    r'.lossNotices = r.lossNotices ++ losses.map r.lossNotice := by
  have notices : (losses.map r.lossFact).filterMap Occurrence.notice? = losses.map r.lossNotice := by
    have each : Occurrence.notice? ∘ r.lossFact = some ∘ r.lossNotice := rfl
    rw [List.filterMap_map, each, List.filterMap_eq_map]
  have all : (losses.map r.lossNotice).filter (fun n => n.kind = .queueDiscarded) = losses.map r.lossNotice := by
    refine List.filter_eq_self.mpr fun n hn => ?_
    obtain ⟨e, -, rfl⟩ := List.mem_map.mp hn
    rfl
  rw [lossNotices_append _ h.past, List.reverse_reverse, notices, all]

variable [EventSource σ]

/-- Nobody is registered any more, and the poller follows. Nothing has been discarded yet. -/
def disbanded (r : Relay σ) : Relay σ := (r.withRegistry r.registry.clear.2).followRegistry

theorem disbanded_registry (r : Relay σ) : r.disbanded.registry = .empty :=
  (followRegistry_alignment _).registry.trans (withRegistry_aside r _).registry

theorem disbanded_subscribers (r : Relay σ) : r.disbanded.subscribers = r.subscribers :=
  Table.ext fun sub => by simp [disbanded, (realigned_cleared r _).subscribers sub]

theorem disbanded_pendingOf (r : Relay σ) : r.disbanded.pendingOf = r.pendingOf := by
  unfold pendingOf
  rw [disbanded_subscribers]

theorem disbanded_party (r : Relay σ) : r.disbanded.party = r.party := by
  unfold party
  rw [disbanded_subscribers]

theorem disbanded_lossFact (r : Relay σ) : r.disbanded.lossFact = r.lossFact := by
  unfold lossFact
  rw [disbanded_pendingOf, disbanded_party]

theorem disbanded_lossNotice (r : Relay σ) : r.disbanded.lossNotice = r.lossNotice := by
  unfold lossNotice
  rw [disbanded_pendingOf, disbanded_party]

theorem disbanded_lossNotices (r : Relay σ) : r.disbanded.lossNotices = r.lossNotices := by
  have changed : r.Changed r.registry.clear.2 (r.withRegistry r.registry.clear.2) := .silent
  exact lossNotices_of_upkeep (changed.upkeep.trans (followRegistry_alignment _).upkeep)

/-- Everybody was taken off the registry. Each of `losses` is a subscriber that lost what it had pending, with a name
under which it was registered; the facts, the bus and the notices of losses tell of each once, in that order. -/
structure Dissolved (losses : List Registration) (r r' : Relay σ) : Prop where
  registry : r'.registry = .empty
  emptied : ∀ {name sub}, r.registry.contains name sub = true → ∃ s, r.subscribers.get? sub = some s ∧
    r'.subscribers.get? sub = some
      { s with pending := [], tally := { s.tally with discarded := s.tally.discarded + s.pending.length } }
  spared : ∀ {sub}, (∀ name, r.registry.contains name sub = false) → r'.subscribers.get? sub = r.subscribers.get? sub
  named : ∀ {name sub}, (name, sub) ∈ losses → r.registry.contains name sub = true
  once : (losses.map Prod.snd).Nodup
  lost : ∀ {sub}, sub ∈ losses.map Prod.snd ↔ (∃ name, r.registry.contains name sub = true) ∧ r.pendingOf sub ≠ []
  past : r'.past = (losses.map r.lossFact).reverse ++ r.disbanded.past
  bus : r'.bus = (losses.map r.lossNotice).foldl Bus.publish r.disbanded.bus
  told : r'.lossNotices = r.lossNotices ++ losses.map r.lossNotice

theorem Unloaded.dissolved {r r' : Relay σ} {entries : List Enrolment} {losses : List Registration}
    (h : Unloaded (registrations entries) losses r.disbanded r') (enrolled : r.Enrolled)
    (order : entries.Perm r.registry.entries)
    (cleared : r.disbanded.Cleared (entries.flatMap Prod.snd) r') : Dissolved losses r r' := by
  have same := disbanded_subscribers r
  refine ⟨?_, fun {name sub} on => ?_, fun {sub} off => ?_, fun loss => ?_, h.once, fun {sub} => ?_, ?_, ?_, ?_⟩
  · rw [h.rest]
    exact disbanded_registry r
  · have member : sub ∈ r.registry.membersOf name := by simpa [Registry.contains] using on
    obtain ⟨s, found⟩ := Table.get?_of_lt (enrolled.proper.member member)
    refine ⟨s, found, ?_⟩
    rw [cleared.subscribers, if_pos ((enrolled.listed_in order).mpr ⟨name, on⟩), same, found]
    rfl
  · have absent : sub ∉ entries.flatMap Prod.snd := by
      intro on
      obtain ⟨name, contained⟩ := (enrolled.listed_in order).mp on
      rw [off name] at contained
      contradiction
    rw [cleared.subscribers, if_neg absent, same]
  · exact enrolled.registered_in order (h.among loss)
  · rw [h.lost, map_snd_registrations, enrolled.listed_in order, disbanded_pendingOf]
  · rw [h.past, disbanded_lossFact]
  · rw [h.bus, disbanded_lossNotice]
  · rw [h.told, disbanded_lossNotices, disbanded_lossNotice]

/-- A shutdown says how many registrations there were: each subscriber counts once for each of its names. Whatever the
order in which the names are gone through, the answer is the same and so is all that is left, but for what has been told
of the losses; and in each order these are told once for each subscriber that was registered and had something pending,
under one of its names. -/
theorem shutdown_in_any_order {source : σ} {r : Relay σ} (seen : Seen source r) {entries entries' : List Enrolment}
    (order : entries.Perm r.registry.entries) (order' : entries'.Perm r.registry.entries) :
    (r.hasController = true → r.perform (.call .shutdown) = (.number (r.shutdownInOrder r.registry.entries).1,
      (r.shutdownInOrder r.registry.entries).2)) ∧
    ∃ n r' r'' losses losses', n = (r.registry.names.map r.registry.count).sum ∧
      r.shutdownInOrder entries = (n, r') ∧ r.shutdownInOrder entries' = (n, r'') ∧
      r'' = { r' with past := r''.past, bus := { r'.bus with retained := r''.bus.retained } } ∧
      Dissolved losses r r' ∧ Dissolved losses' r r'' ∧ (losses.map Prod.snd).Perm (losses'.map Prod.snd) := by
  have enrolled := enrolled_invariant.seen (fun _ => created_enrolled) seen
  obtain ⟨losses, unloaded⟩ := discardEnrolments_unloaded r.disbanded entries
  obtain ⟨losses', unloaded'⟩ := discardEnrolments_unloaded r.disbanded entries'
  have cleared := discardEnrolments_cleared r.disbanded entries
  have cleared' := discardEnrolments_cleared r.disbanded entries'
  have dissolved := unloaded.dissolved enrolled order cleared
  have dissolved' := unloaded'.dissolved enrolled order' cleared'
  have whose : (losses.map Prod.snd).Perm (losses'.map Prod.snd) :=
    (List.perm_ext_iff_of_nodup dissolved.once dissolved'.once).mpr fun _ => dissolved.lost.trans dissolved'.lost.symm
  have subscribers : (r.disbanded.discardEnrolments entries').subscribers =
      (r.disbanded.discardEnrolments entries).subscribers := by
    refine Table.ext fun sub => ?_
    have both := ((order'.trans order.symm).flatMap_right Prod.snd).mem_iff (a := sub)
    rw [cleared'.subscribers, cleared.subscribers]
    simp only [both]
  have many : losses'.length = losses.length := by simpa using whose.length_eq.symm
  refine ⟨fun controller => by simp [perform, call, controller, Call.eventName?, carryOut, shutdown, Registry.clear],
    _, _, _, losses, losses', rfl, Prod.ext (enrolled.tidy.total order) rfl, Prod.ext (enrolled.tidy.total order') rfl,
    unloaded.alike unloaded' subscribers many, dissolved, dissolved', whose⟩

/-- A subscriber with two names has an event pending, and is reported under the name that comes first. -/
theorem shutdown_in_any_order_plain :
    let r := (plain (Script.create [])).follow [.request (.call (.add "a" 0)), .request (.call (.add "b" 0)),
      .request (.call (.fire (.named "a"))), .turn 1]
    r.hasController = true ∧ r.registry.entries = [("a", [0]), ("b", [0])] ∧
      (∃ losses losses', Dissolved losses r (r.shutdownInOrder [("a", [0]), ("b", [0])]).2 ∧
        Dissolved losses' r (r.shutdownInOrder [("b", [0]), ("a", [0])]).2) ∧
      (r.shutdownInOrder [("a", [0]), ("b", [0])]).2.lossNotices.map NoticeBody.event = [some "a"] ∧
      (r.shutdownInOrder [("b", [0]), ("a", [0])]).2.lossNotices.map NoticeBody.event = [some "b"] ∧
      (r.perform (.call .shutdown)).1 = .number 2 := by
  intro r
  have seen : Seen (Script.create []) r := .between ((Reachable.created (plain_created _)).follow _)
  have controller : r.hasController = true := by decide
  have entries : r.registry.entries = [("a", [0]), ("b", [0])] := by decide
  have order : [("a", [0]), ("b", [0])].Perm r.registry.entries := entries ▸ .refl _
  have order' : [("b", [0]), ("a", [0])].Perm r.registry.entries := entries ▸ .swap _ _ _
  obtain ⟨answer, n, r', r'', losses, losses', -, shut, shut', -, dissolved, dissolved', -⟩ :=
    shutdown_in_any_order seen order order'
  refine ⟨controller, entries, ⟨losses, losses', ?_, ?_⟩, by decide, by decide, ?_⟩
  · rw [shut]
    exact dissolved
  · rw [shut']
    exact dissolved'
  · rw [answer controller]
    decide

end Relay

end EventRelay
