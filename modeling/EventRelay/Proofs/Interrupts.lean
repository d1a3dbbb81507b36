import EventRelay.Proofs.Wakeup
import Mathlib.Data.List.Nodup

namespace EventRelay

namespace WaitLine

def tickets (l : WaitLine) : List Ticket := l.waiters.map Waiter.ticket

/-- How many in line were handed an interrupt that they have not taken yet. -/
def handed (l : WaitLine) : Nat := l.waiters.countP Waiter.interrupted

/-- The interrupts that were not taken yet, with somebody in line or kept for the next. -/
def stock (l : WaitLine) : Nat := l.handed + l.permit.toNat

theorem cursorOf?_eq_none {l : WaitLine} {t : Ticket} : l.cursorOf? t = none ↔ t ∉ l.tickets := by
  simp [cursorOf?, find?, tickets]

theorem find?_of_mem {l : WaitLine} (distinct : l.tickets.Nodup) {w : Waiter} (member : w ∈ l.waiters) :
    l.find? w.ticket = some w := by
  obtain ⟨v, found⟩ : ∃ v, l.find? w.ticket = some v := by
    apply Option.isSome_iff_exists.mp
    exact List.find?_isSome.mpr ⟨w, member, beq_self_eq_true _⟩
  have same : v.ticket = w.ticket := by simpa using List.find?_some found
  have he : v = w := List.inj_on_of_nodup_map distinct (List.mem_of_find?_eq_some found) member same
  exact he ▸ found

@[simp] theorem wake_tickets (l : WaitLine) : l.wake.tickets = l.tickets := by
  simp [tickets, wake]

@[simp] theorem wake_stock (l : WaitLine) : l.wake.stock = l.stock := by
  simp only [stock, handed, wake, List.countP_map]
  rfl

@[simp] theorem interrupt_tickets (l : WaitLine) : l.interrupt.tickets = l.tickets := by
  unfold interrupt
  split
  · rename_i ys hy
    obtain ⟨before, w, after, hx, -, -, rfl⟩ := hand?_eq_some hy
    simp [tickets, hx]
  · rfl

@[simp] theorem remove_tickets (l : WaitLine) (t : Ticket) :
    (l.remove t).tickets = l.tickets.filter (· != t) := by
  simp only [tickets, remove, List.filter_map]
  rfl

@[simp] theorem leave_tickets (l : WaitLine) (t : Ticket) : (l.leave t).tickets = l.tickets.filter (· != t) := by
  unfold leave
  split <;> simp

/-- An interrupt that is called for is one more in line, or is lost where one is kept already. -/
theorem interrupt_stock {l : WaitLine} (fair : l.Fair) : l.interrupt.stock + l.permit.toNat = l.stock + 1 := by
  unfold interrupt
  split
  · rename_i ys hy
    obtain ⟨before, w, after, hx, -, unmarked, rfl⟩ := hand?_eq_some hy
    have spent : l.permit = false := by
      cases hp : l.permit with
      | false => rfl
      | true => simp [fair hp w (by simp [hx])] at unmarked
    simp only [stock, handed, hx, spent, List.countP_append, List.countP_cons, unmarked]
    simp
    omega
  · simp [stock, handed]
    omega

/-- Whoever is taken out of line takes the interrupt along that it was handed. -/
theorem remove_handed {l : WaitLine} (distinct : l.tickets.Nodup) {t : Ticket} {w : Waiter}
    (found : l.find? t = some w) : (l.remove t).handed + w.interrupted.toNat = l.handed := by
  obtain ⟨ht, before, after, hx, earlier⟩ := List.find?_eq_some_iff_append.mp found
  have same : w.ticket = t := by simpa using ht
  have left : before.filter (fun v => v.ticket != t) = before := List.filter_eq_self.mpr (by simpa using earlier)
  -- the ticket is in line once only, so it is not found behind its waiter
  have right : after.filter (fun v => v.ticket != t) = after := by
    apply List.filter_eq_self.mpr
    intro v hv
    simp only [tickets, hx, List.map_append, List.map_cons, same] at distinct
    have behind := (List.nodup_cons.mp (List.nodup_append.mp distinct).2.1).1
    have other : v.ticket ≠ t := fun he => behind (he ▸ List.mem_map_of_mem hv)
    simpa using other
  simp only [handed, remove, hx, List.filter_append, List.filter_cons, left, right, same, List.countP_append,
    List.countP_cons]
  cases w.interrupted <;> simp [Nat.add_assoc]

/-- An interrupt that is given up is passed on, or is lost where one is kept already. -/
theorem leave_stock {l : WaitLine} (fair : l.Fair) (distinct : l.tickets.Nodup) {t : Ticket} {w : Waiter}
    (found : l.find? t = some w) : (l.leave t).stock + (w.interrupted && l.permit).toNat = l.stock := by
  have removed := remove_handed distinct found
  cases marked : w.interrupted with
  | false =>
    have kept : (l.remove t).permit = l.permit := rfl
    rw [leave_unmarked found marked]
    simp only [stock, marked, Bool.toNat_false, kept, Bool.false_and] at removed ⊢
    omega
  | true =>
    have passed := interrupt_stock (fair.remove t)
    have left : l.leave t = (l.remove t).interrupt := by simp [leave, found, marked]
    have kept : (l.remove t).permit = l.permit := rfl
    rw [left, Bool.true_and]
    simp only [stock, marked, Bool.toNat_true, kept] at removed passed ⊢
    omega

end WaitLine

/-- The answer is that the fetch was interrupted. -/
def FetchReply.isInterrupted : FetchReply → Bool
  | .ready (.failed .interrupted) => true
  | _ => false

/-- A fetch that looks takes the interrupt that is kept only if it finds nothing else. -/
theorem EventRing.Looked.stock {r : EventRing} {t : Ticket} {c : Cursor} {outcome : FetchReply × EventRing}
    (h : r.Looked t c outcome) : outcome.1.isInterrupted.toNat + outcome.2.line.stock = r.line.stock := by
  cases h with
  | found | ended => simp [FetchReply.isInterrupted]
  | kept _ _ permit => simp [FetchReply.isInterrupted, WaitLine.stock, WaitLine.handed, permit, Nat.add_comm]
  | waits _ _ permit => simp [FetchReply.isInterrupted, WaitLine.stock, WaitLine.handed, WaitLine.join]

namespace RingSession

/-- How many steps of a run are of a kind, each in the state in which it is taken. -/
def tally (kind : RingSession → RingStep → Bool) (s : RingSession) : List RingStep → Nat
  | [] => 0
  | x :: rest => (kind s x).toNat + (s.step x).2.tally kind rest

theorem tally_concat (kind : RingSession → RingStep → Bool) (s : RingSession) (steps : List RingStep) (x : RingStep) :
    s.tally kind (steps ++ [x]) = s.tally kind steps + (kind (s.after steps) x).toNat := by
  induction steps generalizing s with
  | nil => simp [tally, after]
  | cons y rest ih =>
    simp only [List.cons_append, tally, ih, Nat.add_assoc]
    rfl

/-- An interrupt is called for. -/
def calls (_ : RingSession) : RingStep → Bool
  | .interrupt => true
  | _ => false

/-- A fetch ends with an interrupt. -/
def takes (s : RingSession) (x : RingStep) : Bool :=
  match (s.step x).1 with
  | .ended (.failed .interrupted) => true
  | _ => false

/-- The fetch that gives up its place in line: it is dropped, another one takes its key, or it looks again because
something has arrived. -/
def leaver? (s : RingSession) : RingStep → Option Waiter
  | .fetch key _ | .cancel key => (s.ticket? key).bind s.ring.line.find?
  | .poll key arrivalFirst => ((s.ticket? key).bind s.ring.line.find?).filter fun w => w.woken && arrivalFirst
  | _ => none

/-- An interrupt that was handed over is given up unused. -/
def passesOn (s : RingSession) (x : RingStep) : Bool := (s.leaver? x).any Waiter.interrupted

/-- An interrupt that is called for or given up meets one that is kept. -/
def merges (s : RingSession) (x : RingStep) : Bool := (s.calls x || s.passesOn x) && s.ring.line.permit

/-- How many waiting fetches were handed an interrupt that they have not taken yet. -/
def handed (s : RingSession) : Nat := s.pending.countP fun p => (s.ring.line.find? p.2).any Waiter.interrupted

/-- Those in line are the fetches that wait, each once. -/
structure Lined (s : RingSession) : Prop where
  keys : (s.pending.map Prod.fst).Nodup
  tickets : (s.pending.map Prod.snd).Perm s.ring.line.tickets
  distinct : s.ring.line.tickets.Nodup

variable {begun : String → Option Cursor} {s : RingSession}

theorem mem_of_ticket? {key : String} {t : Ticket} (ht : s.ticket? key = some t) : (key, t) ∈ s.pending := by
  obtain ⟨⟨key', t'⟩, found, rfl⟩ := Option.map_eq_some_iff.mp ht
  have same : key' = key := by simpa using List.find?_some found
  exact same ▸ List.mem_of_find?_eq_some found

theorem forget_idle {key : String} (idle : s.ticket? key = none) : s.forget key = s := by
  have absent : ∀ p ∈ s.pending, (p.1 != key) = true := by
    simpa [ticket?] using idle
  simp only [forget, List.filter_eq_self.mpr absent]

theorem Lined.start (config : RingSize) : (RingSession.start config).Lined := ⟨.nil, .nil, .nil⟩

theorem Lined.handed (h : s.Lined) : s.handed = s.ring.line.handed := calc
  s.handed = (s.pending.map Prod.snd).countP fun t => (s.ring.line.find? t).any Waiter.interrupted := by
    rw [List.countP_map]
    rfl
  _ = s.ring.line.tickets.countP fun t => (s.ring.line.find? t).any Waiter.interrupted := h.tickets.countP_eq _
  _ = s.ring.line.handed := by
    simp only [WaitLine.tickets, List.countP_map, WaitLine.handed]
    apply List.countP_congr
    intro w hw
    simp [WaitLine.find?_of_mem h.distinct hw]

theorem Lined.stir (h : s.Lined) {ring : EventRing} (tickets : ring.line.tickets = s.ring.line.tickets) :
    { s with ring }.Lined :=
  ⟨h.keys, tickets ▸ h.tickets, tickets ▸ h.distinct⟩

/-- A key and its place in line go together. -/
theorem Lined.drop (h : s.Lined) {key : String} {t : Ticket} (ht : s.ticket? key = some t) {ring : EventRing}
    (tickets : ring.line.tickets = s.ring.line.tickets.filter (· != t)) : { s.forget key with ring }.Lined := by
  have member := mem_of_ticket? ht
  have apart : (s.pending.map Prod.snd).Nodup := h.tickets.nodup_iff.mpr h.distinct
  have same : s.pending.filter (fun p => p.1 != key) = s.pending.filter (fun p => p.2 != t) := by
    apply List.filter_congr
    intro p hp
    have together : p.1 = key ↔ p.2 = t := by
      constructor
      · intro he
        rw [List.inj_on_of_nodup_map h.keys hp member he]
      · intro he
        rw [List.inj_on_of_nodup_map apart hp member he]
    simp only [bne, together, Bool.beq_eq_decide_eq]
  refine ⟨(List.filter_sublist.map Prod.fst).nodup h.keys, ?_, ?_⟩
  · change ((s.pending.filter (fun p => p.1 != key)).map Prod.snd).Perm ring.line.tickets
    rw [same, tickets]
    have := h.tickets.filter (· != t)
    rwa [List.filter_map] at this
  · change ring.line.tickets.Nodup
    rw [tickets]
    exact h.distinct.filter _

theorem Lined.cancel (h : s.Lined) (key : String) : (s.cancel key).Lined := by
  cases ht : s.ticket? key with
  | none => simpa only [RingSession.cancel, ht] using h
  | some t =>
    rw [cancel_eq ht]
    exact h.drop ht (WaitLine.leave_tickets _ t)

theorem Lined.wait (h : s.Lined) {key : String} (idle : s.ticket? key = none) {t : Ticket} {ring : EventRing}
    (absent : t ∉ s.ring.line.tickets) (tickets : ring.line.tickets.Perm (s.ring.line.tickets ++ [t])) :
    (s.keep key (.pending t, ring)).2.Lined := by
  have other : ∀ key' t', (key', t') ∈ s.pending → key' ≠ key := by simpa [ticket?] using idle
  have fresh : key ∉ s.pending.map Prod.fst := by
    intro hk
    obtain ⟨p, hp, he⟩ := List.mem_map.mp hk
    exact other p.1 p.2 hp he
  simp only [keep, forget_idle idle]
  refine ⟨?_, ?_, ?_⟩
  · simpa [List.nodup_append] using ⟨h.keys, other⟩
  · change ((s.pending ++ [(key, t)]).map Prod.snd).Perm ring.line.tickets
    rw [List.map_append]
    exact (h.tickets.append_right [t]).trans tickets.symm
  · refine tickets.nodup_iff.mpr ?_
    simpa [List.nodup_append] using ⟨h.distinct, fun t' ht' he => absent (he ▸ ht')⟩

theorem Lined.look (h : s.Lined) {key : String} (idle : s.ticket? key = none) {t : Ticket} (c : Cursor)
    (absent : t ∉ s.ring.line.tickets) : (s.keep key (s.ring.lookOrWait t c)).2.Lined := by
  have looked := EventRing.lookOrWait_looked s.ring t c
  generalize s.ring.lookOrWait t c = outcome at looked
  cases looked with
  | found | ended | kept =>
    simp only [keep, forget_idle idle]
    exact h.stir rfl
  | waits =>
    refine h.wait idle absent (.of_eq ?_)
    simp [WaitLine.tickets, WaitLine.join]

/-- A fetch that goes on waiting may as well have left the line and come back to its place. -/
theorem Lined.stay (h : s.Lined) {key : String} {t : Ticket} (ht : s.ticket? key = some t) :
    (s.keep key (.pending t, s.ring)).2.Lined := by
  have left : (s.cancel key).ring.line.tickets = s.ring.line.tickets.filter (· != t) := by
    simp [cancel_eq ht, EventRing.cancel]
  have standing : t ∈ s.ring.line.tickets := h.tickets.mem_iff.mp (List.mem_map_of_mem (mem_of_ticket? ht))
  rw [keep_cancel ht]
  apply (h.cancel key).wait
  · simp [ticket?_cancel]
  · simp [left]
  · rw [left, ← h.distinct.erase_eq_filter]
    exact (List.perm_cons_erase standing).trans (List.perm_append_singleton _ _).symm

theorem Lined.poll (h : s.Lined) {key : String} {t : Ticket} (ht : s.ticket? key = some t) (arrivalFirst : Bool) :
    (s.keep key (s.ring.resume t arrivalFirst)).2.Lined := by
  have resumed := EventRing.resume_resumed s.ring t arrivalFirst
  generalize s.ring.resume t arrivalFirst = outcome at resumed
  cases resumed with
  | absent | asleep => exact h.stay ht
  | looked =>
    have ring : s.ring.cancel t = (s.cancel key).ring := by rw [cancel_eq ht]
    rw [keep_cancel ht, ring]
    apply (h.cancel key).look
    · simp [ticket?_cancel]
    · simp [← ring, EventRing.cancel]
  | interrupted => exact h.drop ht (WaitLine.remove_tickets _ t)

theorem Lined.step (watched : s.Watched begun) (h : s.Lined) (x : RingStep) : (s.step x).2.Lined := by
  cases x with
  | post now e =>
    simp only [RingSession.step]
    split
    · exact h
    · rename_i index ring posted
      obtain ⟨-, rfl, -⟩ := EventRing.post_ok posted
      exact h.stir (WaitLine.wake_tickets _)
  | fetch key c =>
    have issued : Lined { s.cancel key with ring := (s.cancel key).ring.issueTicket } := (h.cancel key).stir rfl
    rw [step_fetch]
    apply issued.look
    · change (s.cancel key).ticket? key = none
      simp [ticket?_cancel]
    · exact WaitLine.cursorOf?_eq_none.mp ((watched.cancel key).fresh (Nat.le_refl _))
  | poll key arrivalFirst =>
    simp only [RingSession.step]
    split
    · exact h
    · rename_i t ht
      exact h.poll ht arrivalFirst
  | cancel key => exact h.cancel key
  | interrupt => exact h.stir (WaitLine.interrupt_tickets _)
  | close => exact h.stir (WaitLine.wake_tickets _)
  | config | name => exact h

theorem after_lined (config : RingSize) (steps : List RingStep) : ((RingSession.start config).after steps).Lined := by
  induction steps using List.reverseRecOn with
  | nil => exact .start config
  | append_singleton steps x ih =>
    rw [after_concat]
    exact ih.step (after_watched config steps) x

theorem takes_of_keep {x : RingStep} {s' : RingSession} {key : String} {outcome : FetchReply × EventRing}
    (step : s.step x = s'.keep key outcome) : s.takes x = outcome.1.isInterrupted := by
  obtain ⟨reply, ring⟩ := outcome
  rw [takes, step]
  cases reply with
  | pending => rfl
  | ready result =>
    cases result with
    | failed e => cases e <;> rfl
    | _ => rfl

theorem merges_eq {x : RingStep} (calls : s.calls x = false) :
    s.merges x = ((s.leaver? x).any Waiter.interrupted && s.ring.line.permit) := by
  simp [merges, calls, passesOn]

theorem cancel_stock (watched : s.Watched begun) (h : s.Lined) {x : RingStep} {key : String}
    (leaver : s.leaver? x = (s.ticket? key).bind s.ring.line.find?) (calls : s.calls x = false) :
    (s.cancel key).ring.line.stock + (s.merges x).toNat = s.ring.line.stock := by
  rw [merges_eq calls, leaver]
  cases ht : s.ticket? key with
  | none => simp [RingSession.cancel, ht]
  | some t =>
    obtain ⟨w, found, -⟩ := watched.waiter ht
    have left := WaitLine.leave_stock watched.fair h.distinct found
    simpa [cancel_eq ht, EventRing.cancel, found] using left

theorem poll_stock (watched : s.Watched begun) (h : s.Lined) {key : String} {t : Ticket}
    (ht : s.ticket? key = some t) (arrivalFirst : Bool) :
    s.ring.line.stock = (s.ring.resume t arrivalFirst).1.isInterrupted.toNat +
      (s.ring.resume t arrivalFirst).2.line.stock + (s.merges (.poll key arrivalFirst)).toNat := by
  obtain ⟨w, found, -⟩ := watched.waiter ht
  have merges :
      s.merges (.poll key arrivalFirst) = (w.woken && arrivalFirst && w.interrupted && s.ring.line.permit) := by
    rw [merges_eq rfl]
    cases hw : w.woken <;> cases arrivalFirst <;> simp [leaver?, ht, found, hw]
  have resumed := EventRing.resume_resumed s.ring t arrivalFirst
  generalize s.ring.resume t arrivalFirst = outcome at resumed
  rw [merges]
  cases resumed with
  | absent absent =>
    rw [absent] at found
    contradiction
  | looked found' woken turn =>
    cases found.symm.trans found'
    have left := WaitLine.leave_stock watched.fair h.distinct found
    have looked := (EventRing.lookOrWait_looked (s.ring.cancel t) t w.cursor).stock
    have ring : (s.ring.cancel t).line.stock = (s.ring.line.leave t).stock := rfl
    have turn' : (w.woken && arrivalFirst && w.interrupted) = w.interrupted := by
      rcases turn with rfl | unmarked
      · simp [woken]
      · simp [unmarked]
    rw [turn']
    omega
  | interrupted found' marked turn =>
    cases found.symm.trans found'
    have removed := WaitLine.remove_handed h.distinct found
    have turn' : (w.woken && arrivalFirst) = false := by rcases turn with rfl | asleep <;> simp [*]
    have kept : (s.ring.line.remove t).permit = s.ring.line.permit := rfl
    simp only [turn', marked, FetchReply.isInterrupted, WaitLine.stock, kept, Bool.toNat_true, Bool.false_and,
      Bool.toNat_false] at removed ⊢
    omega
  | asleep found' asleep =>
    cases found.symm.trans found'
    simp [asleep, FetchReply.isInterrupted]

/-- A step that nobody in line hears of but as a wake-up. -/
theorem aside_stock {x : RingStep} (calls : s.calls x = false) (takes : s.takes x = false)
    (leaver : s.leaver? x = none) (same : (s.step x).2.ring.line.stock = s.ring.line.stock) :
    (s.calls x).toNat + s.ring.line.stock =
      (s.takes x).toNat + (s.step x).2.ring.line.stock + (s.merges x).toNat := by
  rw [same, merges_eq calls]
  simp [calls, takes, leaver]

/-- Every interrupt in line was called for, and leaves it with a fetch that takes it or is lost to one that is kept. -/
theorem step_stock (watched : s.Watched begun) (h : s.Lined) (x : RingStep) :
    (s.calls x).toNat + s.ring.line.stock =
      (s.takes x).toNat + (s.step x).2.ring.line.stock + (s.merges x).toNat := by
  cases x with
  | post now e =>
    cases posted : s.ring.post now e with
    | error cause => apply aside_stock <;> simp [calls, takes, leaver?, step, posted]
    | ok result =>
      obtain ⟨-, he, -⟩ := EventRing.post_ok posted
      apply aside_stock <;> simp [calls, takes, leaver?, step, posted, he, EventRing.store]
  | fetch key c =>
    have cancelled := cancel_stock watched h (x := .fetch key c) rfl rfl
    have looked := (EventRing.lookOrWait_looked (s.cancel key).ring.issueTicket (s.cancel key).ring.line.issued c).stock
    have same : (s.cancel key).ring.issueTicket.line.stock = (s.cancel key).ring.line.stock := rfl
    rw [takes_of_keep (step_fetch s key c), step_fetch, keep_ring]
    simp only [calls, Bool.toNat_false]
    omega
  | poll key arrivalFirst =>
    cases ht : s.ticket? key with
    | none => apply aside_stock <;> simp [calls, takes, leaver?, step, ht]
    | some t =>
      have polled := poll_stock watched h ht arrivalFirst
      rw [takes_of_keep (step_poll ht arrivalFirst), step_poll ht, keep_ring]
      simp only [calls, Bool.toNat_false]
      omega
  | cancel key =>
    have cancelled := cancel_stock watched h (x := .cancel key) rfl rfl
    simp only [calls, takes, step, Bool.toNat_false]
    omega
  | interrupt =>
    have interrupted := WaitLine.interrupt_stock watched.fair
    simp only [calls, takes, step, merges, EventRing.interrupt, Bool.toNat_true, Bool.toNat_false, Bool.true_or,
      Bool.true_and]
    omega
  | close => exact aside_stock rfl rfl rfl (WaitLine.wake_stock _)
  | config | name => exact aside_stock rfl rfl rfl rfl

/-- How the interrupts of a run are accounted for at its end. -/
structure Accounted (config : RingSize) (steps : List RingStep) (s : RingSession) : Prop where
  fair : s.ring.line.permit = true → ∀ key t, s.ticket? key = some t →
    (s.ring.line.find? t).any Waiter.interrupted = true
  balance : (start config).tally calls steps = (start config).tally takes steps + s.handed + s.ring.line.permit.toNat +
    (start config).tally merges steps
  earned : (start config).tally takes steps ≤ (start config).tally calls steps

theorem after_stock (config : RingSize) (steps : List RingStep) :
    (start config).tally calls steps = (start config).tally takes steps +
      ((start config).after steps).ring.line.stock + (start config).tally merges steps := by
  induction steps using List.reverseRecOn with
  | nil => rfl
  | append_singleton steps x ih =>
    have step := step_stock (after_watched config steps) (after_lined config steps) x
    simp only [tally_concat, after_concat]
    omega

/-- After any steps, no interrupt is kept while a fetch waits that has none, and every interrupt that was called for was
taken by a fetch that ended with it, is with a fetch that waits, is kept, or was lost where one was kept already. -/
theorem interrupts_are_conserved (config : RingSize) (steps : List RingStep) :
    Accounted config steps ((start config).after steps) := by
  have watched := after_watched config steps
  have stock := after_stock config steps
  rw [WaitLine.stock, ← (after_lined config steps).handed] at stock
  refine ⟨fun permit key t ht => ?_, by omega, by omega⟩
  obtain ⟨w, found, -, member⟩ := watched.waiter ht
  simp [found, watched.fair permit w member]

example : (start .standard).tally merges [.fetch "a" .unset, .interrupt, .interrupt, .cancel "a"] = 1 := by decide

end RingSession

end EventRelay
