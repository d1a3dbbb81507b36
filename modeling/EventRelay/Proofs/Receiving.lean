import EventRelay.Session.Bus
import Mathlib.Data.List.Induction

namespace EventRelay

/-- The notice that is published, under the number that was answered. -/
def BusStep.notice? : BusStep → BusAnswer → Option Notice
  | .publish body, .seq n => some ⟨n, body⟩
  | _, _ => none

/-- What the receiver of a key is told. -/
def BusStep.heard? (key : String) : BusStep → BusAnswer → Option Received
  | .receive key', .received r => if key' = key then some r else none
  | _, _ => none

/-- The receiver of a key is dropped, or another one takes its place. -/
def BusStep.ousts? (key : String) : BusStep → BusAnswer → Option Unit
  | .subscribe key', .subscribed => if key' = key then some () else none
  | .unsubscribe key', _ => if key' = key then some () else none
  | _, _ => none

def Received.notice? : Received → Option Notice
  | .notice n => some n
  | _ => none

/-- What a receiver was told accounts for these notices, in order: each stands for itself, or is one of a number that
were lost. -/
inductive Accounts : List Received → List Notice → Prop
  | nothing : Accounts [] []
  | notice {heard : List Received} {told : List Notice} (h : Accounts heard told) (n : Notice) :
      Accounts (heard ++ [.notice n]) (told ++ [n])
  | lagged {heard : List Received} {told : List Notice} (h : Accounts heard told) {lost : List Notice}
      (some : lost ≠ []) : Accounts (heard ++ [.lagged lost.length]) (told ++ lost)
  | empty {heard : List Received} {told : List Notice} (h : Accounts heard told) : Accounts (heard ++ [.empty]) told
  | closed {heard : List Received} {told : List Notice} (h : Accounts heard told) : Accounts (heard ++ [.closed]) told

theorem Accounts.sublist {heard : List Received} {told : List Notice} (h : Accounts heard told) :
    (heard.filterMap Received.notice?).Sublist told := by
  induction h with
  | nothing => exact .slnil
  | notice _ n ih =>
    rw [List.filterMap_append]
    exact ih.append (.refl [n])
  | lagged _ _ ih =>
    simp only [List.filterMap_append, List.filterMap_cons, Received.notice?, List.filterMap_nil, List.append_nil]
    exact ih.trans (List.sublist_append_left _ _)
  | empty _ ih | closed _ ih =>
    simpa only [List.filterMap_append, List.filterMap_cons, Received.notice?, List.filterMap_nil, List.append_nil] using ih

namespace Bus

def after (b : Bus) (steps : List BusStep) : Bus := steps.foldl (fun b x => (b.step x).2) b

/-- What is picked from the answers of a run. -/
def gather {α : Type} (pick : BusStep → BusAnswer → Option α) (b : Bus) : List BusStep → List α
  | [] => []
  | x :: rest => (pick x (b.step x).1).toList ++ (b.step x).2.gather pick rest

theorem after_concat (b : Bus) (steps : List BusStep) (x : BusStep) :
    b.after (steps ++ [x]) = ((b.after steps).step x).2 := by
  simp [after]

/-- Whoever is told of a notice or of a loss moves on, and nothing else changes. -/
theorem receive_moves (b : Bus) (key : String) :
    (b.receive key).2 = b ∨ ∃ next, (b.receive key).2 = b.moveTo key next := by
  unfold receive
  split
  · exact .inl rfl
  · split
    · exact .inr ⟨_, rfl⟩
    · split
      · exact .inr ⟨_, rfl⟩
      · exact .inl rfl

theorem publish_eq (b : Bus) (body : NoticeBody) : b.publish body =
    if b.handles = 0 ∨ b.receivers.isEmpty then { b with numbered := b.numbered + 1 }
    else { b with
      numbered := b.numbered + 1, tail := b.tail + 1,
      retained := trim b.room (b.retained ++ [⟨b.numbered, body⟩]) } := rfl

/-- Neither the numbers given out nor the notices stored are changed. -/
structure SameWindow (b b' : Bus) : Prop where
  room : b'.room = b.room
  tail : b'.tail = b.tail
  retained : b'.retained = b.retained
  numbered : b'.numbered = b.numbered

theorem receive_sameWindow (b : Bus) (key : String) : b.SameWindow (b.receive key).2 := by
  rcases receive_moves b key with he | ⟨next, he⟩ <;> rw [he]
  · exact ⟨rfl, rfl, rfl, rfl⟩
  · exact ⟨rfl, rfl, rfl, rfl⟩

/-- Only what is published gets a number. -/
theorem step_sameWindow (b : Bus) {x : BusStep} (other : ∀ body, x ≠ .publish body) : b.SameWindow (b.step x).2 := by
  cases x with
  | publish body => exact absurd rfl (other body)
  | subscribe key =>
    simp only [step]
    split <;> exact ⟨rfl, rfl, rfl, rfl⟩
  | receive key => exact receive_sameWindow b key
  | cloneHandle =>
    simp only [step, cloneHandle]
    split <;> exact ⟨rfl, rfl, rfl, rfl⟩
  | unsubscribe | dropHandle => exact ⟨rfl, rfl, rfl, rfl⟩

theorem notice?_of_ne {x : BusStep} (other : ∀ body, x ≠ .publish body) (answer : BusAnswer) :
    x.notice? answer = none := by
  cases x with
  | publish body => exact absurd rfl (other body)
  | _ => rfl

/-- A notice bears the number of those made before it. -/
theorem step_numbered (b : Bus) (x : BusStep) :
    b.numbered ≤ (b.step x).2.numbered ∧
    ∀ n, x.notice? (b.step x).1 = some n → n.seq = b.numbered ∧ (b.step x).2.numbered = b.numbered + 1 := by
  by_cases publishes : ∃ body, x = .publish body
  · obtain ⟨body, rfl⟩ := publishes
    have made : (b.publish body).numbered = b.numbered + 1 := by
      rw [publish_eq]
      split <;> rfl
    simp only [step, made]
    refine ⟨Nat.le_succ _, fun n hn => ?_⟩
    split at hn
    · contradiction
    · cases hn
      exact ⟨rfl, trivial⟩
  · have other : ∀ body, x ≠ .publish body := fun body he => publishes ⟨body, he⟩
    rw [(step_sameWindow b other).numbered, notice?_of_ne other]
    exact ⟨Nat.le_refl _, by simp⟩

theorem gather_numbered (b : Bus) (steps : List BusStep) :
    (b.gather BusStep.notice? steps).Pairwise (fun m n => m.seq < n.seq) ∧
    ∀ n ∈ b.gather BusStep.notice? steps, b.numbered ≤ n.seq := by
  induction steps generalizing b with
  | nil => simp [gather]
  | cons x rest ih =>
    obtain ⟨grows, numbers⟩ := step_numbered b x
    obtain ⟨increasing, later⟩ := ih (b.step x).2
    simp only [gather]
    cases hx : x.notice? (b.step x).1 with
    | none => exact ⟨increasing, fun n hn => Nat.le_trans grows (later n hn)⟩
    | some m =>
      obtain ⟨number, next⟩ := numbers m hx
      refine ⟨List.pairwise_cons.mpr ⟨fun n hn => ?_, increasing⟩, fun n hn => ?_⟩
      · have := later n hn
        omega
      · rcases List.mem_cons.mp hn with rfl | hn
        · omega
        · exact Nat.le_trans grows (later n hn)

/-- Those that there is no room for, the first ones. -/
def crowded (room : Nat) (notices : List Notice) : List Notice := notices.take (notices.length - room)

@[simp] theorem crowded_length (room : Nat) (notices : List Notice) :
    (crowded room notices).length = notices.length - room := by
  simp [crowded]

@[simp] theorem crowded_append_trim (room : Nat) (notices : List Notice) :
    crowded room notices ++ trim room notices = notices := List.take_append_drop _ _

theorem trim_append {room : Nat} {notices : List Notice} (earlier : List Notice) (full : room ≤ notices.length) :
    trim room (earlier ++ notices) = trim room notices := by
  have cut : (earlier ++ notices).length - room = earlier.length + (notices.length - room) := by
    rw [List.length_append]
    omega
  rw [trim, cut, List.drop_length_add_append, trim]

/-- The bus retains the latest of the notices stored so far, as many as it has room for. -/
structure Logged (room : Nat) (stored : List Notice) (b : Bus) : Prop where
  spacious : 0 < room
  size : b.room = room
  tail : b.tail = stored.length
  retained : b.retained = trim room stored

theorem trim_trim {room : Nat} (spacious : 0 < room) (notices : List Notice) (n : Notice) :
    trim room (trim room notices ++ [n]) = trim room (notices ++ [n]) := by
  have cut : notices.drop (notices.length - room) ++ [n] = (notices ++ [n]).drop (notices.length - room) :=
    (List.drop_append_of_le_length (Nat.sub_le _ _)).symm
  have one : 1 ≤ room := spacious
  rw [trim, trim, trim, cut, List.drop_drop]
  congr 1
  simp
  omega

variable {room : Nat} {stored : List Notice} {b : Bus}

theorem Logged.same (h : b.Logged room stored) {b' : Bus} (same : b.SameWindow b') : b'.Logged room stored :=
  ⟨h.spacious, same.room.trans h.size, same.tail.trans h.tail, same.retained.trans h.retained⟩

/-- What is published is stored if there is a receiver, and nothing else is. -/
theorem Logged.step (h : b.Logged room stored) (x : BusStep) :
    ∃ new, (b.step x).2.Logged room (stored ++ new) ∧
      (b.receivers.isEmpty = false → new = (x.notice? (b.step x).1).toList) := by
  by_cases publishes : ∃ body, x = .publish body
  · obtain ⟨body, rfl⟩ := publishes
    simp only [Bus.step, publish_eq]
    split
    · rename_i unheard
      refine ⟨[], ?_, fun receivers => ?_⟩
      · rw [List.append_nil]
        exact ⟨h.spacious, h.size, h.tail, h.retained⟩
      · have closed : b.handles = 0 := by simpa [receivers] using unheard
        simp [closed, BusStep.notice?]
    · rename_i heard
      have opened : b.handles ≠ 0 := fun closed => heard (.inl closed)
      refine ⟨[⟨b.numbered, body⟩], ⟨h.spacious, h.size, ?_, ?_⟩, fun _ => ?_⟩
      · simp [h.tail]
      · simp only [h.size, h.retained]
        exact trim_trim h.spacious stored _
      · simp [opened, BusStep.notice?]
  · have other : ∀ body, x ≠ .publish body := fun body he => publishes ⟨body, he⟩
    refine ⟨[], ?_, fun _ => by simp [notice?_of_ne other]⟩
    rw [List.append_nil]
    exact h.same (step_sameWindow b other)

theorem Logged.oldest (h : b.Logged room stored) : b.oldest = stored.length - room := by
  simp only [Bus.oldest, h.tail, h.retained, trim, List.length_drop]
  omega

/-- What a receiver has left to be told. One that is further behind than the bus has room is told how many notices it has
lost, and any other one the next notice, if there is one. -/
theorem Logged.receive {told left : List Notice} (h : b.Logged room (told ++ left)) {key : String}
    (found : b.receiver? key = some ⟨key, told.length⟩) :
    b.receive key =
      if room < left.length then
        (.lagged (crowded room left).length, b.moveTo key (told ++ crowded room left).length)
      else match left with
        | n :: _ => (.notice n, b.moveTo key (told ++ [n]).length)
        | [] => (if b.handles = 0 then .closed else .empty, b) := by
  have oldest := h.oldest
  rw [List.length_append] at oldest
  simp only [Bus.receive, found]
  by_cases behind : room < left.length
  · rw [if_pos behind, if_pos (by omega), List.length_append, crowded_length]
    congr 2 <;> omega
  · have kept : b.retained[told.length - b.oldest]? = left.head? := by
      rw [h.retained, trim, List.getElem?_drop, List.getElem?_append_right (by simp; omega), List.head?_eq_getElem?]
      congr 1
      simp
      omega
    rw [if_neg behind, if_neg (by omega), kept]
    cases left with
    | nil => rfl
    | cons n rest => simp only [List.head?_cons, List.length_append, List.length_singleton]

theorem receiver?_unsubscribe (b : Bus) (key' key : String) :
    (b.unsubscribe key').receiver? key = if key' = key then none else b.receiver? key := by
  simp only [receiver?, unsubscribe, List.find?_filter]
  split
  · rename_i same
    simp [same]
  · rename_i other
    congr 1
    funext r
    by_cases hr : r.key = key <;> simp [hr, Ne.symm other]

theorem receiver?_subscribe (b : Bus) (key' key : String) :
    (b.subscribe key').receiver? key = if key' = key then some ⟨key, b.tail⟩ else b.receiver? key := by
  have others := receiver?_unsubscribe b key' key
  simp only [receiver?] at others
  simp only [receiver?, subscribe, List.find?_append, others]
  split
  · rename_i same
    simp [same]
  · rename_i other
    simp [other]

theorem receiver?_moveTo (b : Bus) (key' : String) (next : Nat) (key : String) :
    (b.moveTo key' next).receiver? key =
      (b.receiver? key).map fun r => if r.key == key' then ⟨key', next⟩ else r := by
  simp only [receiver?, moveTo, List.find?_map]
  congr 2
  funext r
  by_cases hr : r.key = key' <;> simp [hr]

theorem moveTo_receiver? {b : Bus} {key : String} {place : Nat} (found : b.receiver? key = some ⟨key, place⟩)
    (next : Nat) : (b.moveTo key next).receiver? key = some ⟨key, next⟩ := by
  simp [receiver?_moveTo, found]

/-- A receiver that is neither dropped nor replaced stays where it is until it is asked for. -/
theorem step_receiver? {x : BusStep} {key : String} (stays : x.ousts? key (b.step x).1 = none)
    (unasked : x ≠ .receive key) : (b.step x).2.receiver? key = b.receiver? key := by
  cases x with
  | publish body =>
    simp only [Bus.step, publish_eq]
    split <;> rfl
  | subscribe key' =>
    simp only [Bus.step] at stays ⊢
    split
    · rfl
    · rename_i opened
      have other : key' ≠ key := by
        rintro rfl
        simp [opened, BusStep.ousts?] at stays
      rw [receiver?_subscribe, if_neg other]
  | receive key' =>
    have other : key' ≠ key := fun he => unasked (he ▸ rfl)
    change (b.receive key').2.receiver? key = b.receiver? key
    rcases receive_moves b key' with he | ⟨next, he⟩
    · rw [he]
    · rw [he, receiver?_moveTo]
      cases found : b.receiver? key with
      | none => rfl
      | some r =>
        have same : r.key = key := by simpa using List.find?_some found
        simp [same, Ne.symm other]
  | unsubscribe key' =>
    have other : key' ≠ key := by
      rintro rfl
      simp [BusStep.ousts?] at stays
    change (b.unsubscribe key').receiver? key = b.receiver? key
    rw [receiver?_unsubscribe, if_neg other]
  | cloneHandle =>
    simp only [Bus.step, cloneHandle]
    split <;> rfl
  | dropHandle => rfl

variable {key : String}

theorem heard?_of_ne {x : BusStep} (unasked : x ≠ .receive key) (answer : BusAnswer) :
    x.heard? key answer = none := by
  cases x with
  | receive key' =>
    have other : key' ≠ key := fun he => unasked (he ▸ rfl)
    cases answer <;> simp [BusStep.heard?, other]
  | _ => rfl

/-- A receiver stands behind the notices of which it was told, all of them published since it came. -/
structure Following (room : Nat) (key : String) (earlier published : List Notice) (heard : List Received) (b : Bus) :
    Prop where
  logged : b.Logged room (earlier ++ published)
  place : ∃ told left, published = told ++ left ∧ Accounts heard told ∧
    b.receiver? key = some ⟨key, (earlier ++ told).length⟩

variable {earlier published : List Notice} {heard : List Received}

theorem Logged.subscribe (h : b.Logged room earlier) (key : String) :
    (b.subscribe key).Following room key earlier [] [] := by
  refine ⟨?_, [], [], rfl, .nothing, ?_⟩
  · rw [List.append_nil]
    exact h.same ⟨rfl, rfl, rfl, rfl⟩
  · rw [receiver?_subscribe, if_pos rfl, h.tail, List.append_nil]

theorem Following.receive (h : b.Following room key earlier published heard) :
    (b.receive key).2.Following room key earlier published (heard ++ [(b.receive key).1]) := by
  obtain ⟨logged, told, left, rfl, accounts, found⟩ := h
  refine ⟨logged.same (receive_sameWindow b key), ?_⟩
  rw [← List.append_assoc] at logged
  rw [logged.receive found]
  split
  · rename_i behind
    have some : crowded room left ≠ [] := by
      rw [← List.length_pos_iff, crowded_length]
      omega
    refine ⟨told ++ crowded room left, trim room left, by simp, accounts.lagged some, ?_⟩
    rw [← List.append_assoc]
    exact moveTo_receiver? found _
  · cases left with
    | nil =>
      refine ⟨told, [], rfl, ?_, found⟩
      dsimp only
      split
      · exact accounts.closed
      · exact accounts.empty
    | cons n rest =>
      refine ⟨told ++ [n], rest, by simp, accounts.notice n, ?_⟩
      rw [← List.append_assoc]
      exact moveTo_receiver? found _

theorem Following.step (h : b.Following room key earlier published heard) {x : BusStep}
    (stays : x.ousts? key (b.step x).1 = none) :
    (b.step x).2.Following room key earlier (published ++ (x.notice? (b.step x).1).toList)
      (heard ++ (x.heard? key (b.step x).1).toList) := by
  by_cases asked : x = .receive key
  · subst asked
    have told : (BusStep.receive key).heard? key (b.step (.receive key)).1 = some (b.receive key).1 := by
      simp [Bus.step, BusStep.heard?]
    rw [told, show (BusStep.receive key).notice? (b.step (.receive key)).1 = none from rfl, Option.toList_none,
      List.append_nil]
    exact h.receive
  · obtain ⟨told, left, rfl, accounts, found⟩ := h.place
    have heeded : b.receivers.isEmpty = false := by
      rw [List.isEmpty_eq_false_iff]
      exact List.ne_nil_of_mem (List.mem_of_find?_eq_some found)
    have silent : x.heard? key (b.step x).1 = none := heard?_of_ne asked _
    obtain ⟨new, logged, published⟩ := h.logged.step x
    rw [← published heeded, silent]
    refine ⟨by simpa using logged, told, left ++ new, by simp, by simpa using accounts, ?_⟩
    rw [step_receiver? stays asked, found]

theorem Following.after (h : b.Following room key earlier published heard) {rest : List BusStep}
    (stays : b.gather (BusStep.ousts? key) rest = []) :
    (b.after rest).Following room key earlier (published ++ b.gather BusStep.notice? rest)
      (heard ++ b.gather (BusStep.heard? key) rest) := by
  induction rest generalizing b published heard with
  | nil => simpa [gather, Bus.after] using h
  | cons x rest ih =>
    simp only [gather, List.append_eq_nil_iff, Option.toList_eq_nil_iff] at stays
    have later := ih (h.step stays.1) stays.2
    simp only [gather, ← List.append_assoc]
    exact later

/-- What a receiver is told next that has these notices left: how many it has lost if it is further behind than there is
room, then the oldest that is retained; else the first of them, or that there is none, for now or for good. -/
structure Tells (room : Nat) (key : String) (left : List Notice) (b : Bus) : Prop where
  lagged : ∀ n, (b.receive key).1 = .lagged n ↔ 0 < n ∧ left.length = room + n
  resumes : ∀ n, (b.receive key).1 = .lagged n →
    ∃ oldest, b.retained.head? = some oldest ∧ ((b.receive key).2.receive key).1 = .notice oldest
  notice : ∀ n, (b.receive key).1 = .notice n ↔ left.length ≤ room ∧ left.head? = some n
  empty : (b.receive key).1 = .empty ↔ left = [] ∧ b.handles ≠ 0
  closed : (b.receive key).1 = .closed ↔ left = [] ∧ b.handles = 0

/-- After a word on what was lost comes the oldest notice that is retained. -/
theorem Logged.resumes {told left : List Notice} (h : b.Logged room (told ++ left))
    (found : b.receiver? key = some ⟨key, told.length⟩) (behind : room < left.length) :
    ∃ oldest, b.retained.head? = some oldest ∧ ((b.receive key).2.receive key).1 = .notice oldest := by
  have logged : (b.moveTo key (told ++ crowded room left).length).Logged room
      ((told ++ crowded room left) ++ trim room left) := by
    rw [List.append_assoc, crowded_append_trim]
    exact h.same ⟨rfl, rfl, rfl, rfl⟩
  have length : (trim room left).length = room := by
    rw [trim, List.length_drop]
    omega
  have spacious := h.spacious
  rw [h.receive found, if_pos behind, h.retained, trim_append told (Nat.le_of_lt behind)]
  dsimp only
  rw [logged.receive (moveTo_receiver? found _), if_neg (by omega)]
  cases rest : trim room left with
  | nil =>
    rw [rest, List.length_nil] at length
    omega
  | cons oldest after => exact ⟨oldest, rfl, rfl⟩

theorem Logged.tells {told left : List Notice} (h : b.Logged room (told ++ left))
    (found : b.receiver? key = some ⟨key, told.length⟩) : b.Tells room key left := by
  have answer := congrArg Prod.fst (h.receive found)
  by_cases behind : room < left.length
  · rw [if_pos behind] at answer
    have some : left ≠ [] := by
      rintro rfl
      simp at behind
    refine ⟨fun n => ?_, fun _ _ => h.resumes found behind, fun n => ?_, by simp [answer, some], by simp [answer, some]⟩
    · rw [answer, Received.lagged.injEq, crowded_length]
      omega
    · simp [answer, Nat.not_le_of_lt behind]
  · rw [if_neg behind] at answer
    have short : ∀ n, ¬ (0 < n ∧ left.length = room + n) := by omega
    cases left with
    | nil =>
      change _ = if b.handles = 0 then Received.closed else Received.empty at answer
      refine ⟨fun n => ?_, fun n lagged => ?_, fun n => ?_, ?_, ?_⟩
      · rw [answer]
        split <;> simpa using short n
      · rw [answer] at lagged
        split at lagged <;> contradiction
      · rw [answer]
        split <;> simp
      · simp [answer]
      · simp [answer]
    | cons m rest =>
      change _ = Received.notice m at answer
      have near := Nat.le_of_not_lt behind
      refine ⟨fun n => ?_, fun n => by simp [answer], fun n => ?_, by simp [answer], by simp [answer]⟩
      · simpa [answer] using short n
      · simpa [answer] using fun _ => near

/-- A bus for so many notices, after any steps. -/
def Reached (capacity : Nat) (b : Bus) : Prop :=
  ∃ start steps, create? capacity = some start ∧ b = start.after steps

theorem create?_logged {capacity : Nat} {start : Bus} (h : create? capacity = some start) :
    start.Logged (max capacity 1).nextPowerOfTwo [] := by
  simp only [create?, Option.ite_none_left_eq_some, Option.some.injEq] at h
  obtain ⟨-, rfl⟩ := h
  exact ⟨Nat.pos_of_isPowerOfTwo (Nat.isPowerOfTwo_nextPowerOfTwo _), rfl, rfl, by simp [trim]⟩

theorem Reached.logged {capacity : Nat} (h : Reached capacity b) :
    ∃ stored, b.Logged (max capacity 1).nextPowerOfTwo stored := by
  obtain ⟨start, steps, created, rfl⟩ := h
  induction steps using List.reverseRecOn with
  | nil => exact ⟨[], create?_logged created⟩
  | append_singleton steps x ih =>
    obtain ⟨stored, logged⟩ := ih
    obtain ⟨new, logged, -⟩ := logged.step x
    exact ⟨stored ++ new, after_concat start steps x ▸ logged⟩

/-- The account that a receiver has been given of what was published. -/
structure Faithful (room : Nat) (key : String) (published : List Notice) (heard : List Received) (b : Bus) : Prop where
  account : ∃ told left, published = told ++ left ∧ Accounts heard told ∧ b.Tells room key left
  increasing : (heard.filterMap Received.notice?).Pairwise (fun m n => m.seq < n.seq)

/-- From the moment at which it subscribes until it is dropped, whatever else happens on the bus, a receiver has been
given an exact account of the first of the notices published since then, and is told next of those that are left. -/
theorem receiver_hears_exact_account {capacity : Nat} {b b' : Bus} (reached : Reached capacity b) {key : String}
    (subscribed : b.step (.subscribe key) = (.subscribed, b')) {rest : List BusStep}
    (stays : b'.gather (BusStep.ousts? key) rest = []) :
    (b'.after rest).Faithful (max capacity 1).nextPowerOfTwo key (b'.gather BusStep.notice? rest)
      (b'.gather (BusStep.heard? key) rest) := by
  obtain ⟨earlier, logged⟩ := reached.logged
  have came : b' = b.subscribe key := by
    simp only [step] at subscribed
    split at subscribed
    · cases subscribed
    · exact (congrArg Prod.snd subscribed).symm
  have following : b'.Following _ key earlier [] [] := came ▸ logged.subscribe key
  obtain ⟨logged, told, left, published, accounts, found⟩ := following.after stays
  rw [List.nil_append] at published accounts
  rw [List.nil_append, published, ← List.append_assoc] at logged
  refine ⟨⟨told, left, published, accounts, logged.tells found⟩, ?_⟩
  have increasing := (gather_numbered b' rest).1
  rw [published] at increasing
  exact increasing.sublist (accounts.sublist.trans (List.sublist_append_left told left))

/-- With room for four, the receiver that asks after five notices has lost the first. -/
theorem receiver_hears_exact_account_lagging :
    let start : Bus := ⟨4, 0, [], [], 1, 0⟩
    let rest : List BusStep := .replicate 5 (.publish { kind := .pollerStarted }) ++ [.receive "a", .receive "a"]
    Reached 3 start ∧ start.step (.subscribe "a") = (.subscribed, start.subscribe "a") ∧
      (start.subscribe "a").gather (BusStep.ousts? "a") rest = [] ∧
      (start.subscribe "a").gather (BusStep.heard? "a") rest =
        [.lagged 1, .notice ⟨1, { kind := .pollerStarted }⟩] ∧
      ((start.subscribe "a").after rest).Faithful (max 3 1).nextPowerOfTwo "a"
        ((start.subscribe "a").gather BusStep.notice? rest) ((start.subscribe "a").gather (BusStep.heard? "a") rest) := by
  intro start rest
  have room : Nat.nextPowerOfTwo 3 = 4 := by decide +kernel
  have reached : Reached 3 start := ⟨start, [], by simp [create?, maxCapacity, room, start], rfl⟩
  exact ⟨reached, rfl, by decide, by decide, receiver_hears_exact_account reached rfl (by decide)⟩

end Bus

end EventRelay
