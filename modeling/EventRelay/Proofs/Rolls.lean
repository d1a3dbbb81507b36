import EventRelay.Proofs.Enrolment
import Mathlib.Data.List.Induction
import Mathlib.Logic.Function.Basic

namespace EventRelay

/-- Subscribers in the order in which they came, each once. -/
structure Roll where
  members : List SubId
  once : members.Nodup

namespace Roll

def blank : Roll := ⟨[], List.nodup_nil⟩

/-- One who is not on the roll is put at its end. -/
def enter (roll : Roll) (sub : SubId) : Roll :=
  if absent : sub ∉ roll.members then
    ⟨roll.members ++ [sub], List.concat_eq_append ▸ roll.once.concat absent⟩
  else roll

def strike (roll : Roll) (sub : SubId) : Roll := ⟨roll.members.erase sub, roll.once.erase sub⟩

theorem enter_present {roll : Roll} {sub : SubId} (present : sub ∈ roll.members) : roll.enter sub = roll :=
  dif_neg (not_not_intro present)

theorem enter_absent {roll : Roll} {sub : SubId} (absent : sub ∉ roll.members) :
    (roll.enter sub).members = roll.members ++ [sub] := by
  rw [enter, dif_pos absent]

theorem members_strike (roll : Roll) (sub : SubId) :
    (roll.strike sub).members = roll.members.filter (fun s => s != sub) :=
  roll.once.erase_eq_filter sub

theorem strike_absent {roll : Roll} {sub : SubId} (absent : sub ∉ roll.members) : roll.strike sub = roll := by
  simp only [strike, List.erase_of_not_mem absent]

end Roll

namespace Registry

/-- What is asked of a registry that may change it. -/
inductive Change
  | insert (name : String) (sub : SubId)
  | remove (name : String) (sub : SubId)
  | removeName (name : String)
  | clear

def change (registry : Registry) : Change → Registry
  | .insert name sub => (registry.insert name sub).2
  | .remove name sub => (registry.remove name sub).2
  | .removeName name => (registry.removeName name).2
  | .clear => registry.clear.2

/-- A registry that was empty before the changes. -/
def after (changes : List Change) : Registry := changes.foldl change empty

theorem after_concat (changes : List Change) (c : Change) : after (changes ++ [c]) = (after changes).change c := by
  simp [after]

end Registry

/-- A roll for every name. -/
abbrev Rolls := String → Roll

namespace Rolls

open Registry (Change)

def change (rolls : Rolls) : Change → Rolls
  | .insert name sub => Function.update rolls name ((rolls name).enter sub)
  | .remove name sub => Function.update rolls name ((rolls name).strike sub)
  | .removeName name => Function.update rolls name .blank
  | .clear => fun _ => .blank

/-- Rolls that were blank before the changes. -/
def after (changes : List Change) : Rolls := changes.foldl change fun _ => .blank

theorem after_concat (changes : List Change) (c : Change) : after (changes ++ [c]) = (after changes).change c := by
  simp [after]

/-- The names with somebody on their roll, each once and with its whole roll. -/
structure ListedIn (rolls : Rolls) (entries : List Enrolment) : Prop where
  names : (entries.map Prod.fst).Nodup
  entry : ∀ e, e ∈ entries ↔ e.2 = (rolls e.1).members ∧ e.2 ≠ []

theorem update_sublist (rolls : Rolls) {x : String} {roll : Roll} (fewer : roll.members.Sublist (rolls x).members)
    (name : String) : (Function.update rolls x roll name).members.Sublist (rolls name).members := by
  by_cases same : name = x
  · subst same
    rwa [Function.update_self]
  · rw [Function.update_of_ne same]

/-- A change leaves a roll in its order, perhaps without some, or puts one at its end who was not on it. -/
theorem change_roll (rolls : Rolls) (c : Change) (name : String) :
    (rolls.change c name).members.Sublist (rolls name).members ∨
    ∃ sub, c = .insert name sub ∧ sub ∉ (rolls name).members ∧
      (rolls.change c name).members = (rolls name).members ++ [sub] := by
  cases c with
  | insert x sub =>
    by_cases present : sub ∈ (rolls x).members
    · rw [change, Roll.enter_present present]
      exact .inl (update_sublist rolls (.refl _) name)
    · by_cases same : name = x
      · subst same
        refine .inr ⟨sub, rfl, present, ?_⟩
        rw [change, Function.update_self, Roll.enter_absent present]
      · rw [change, Function.update_of_ne same]
        exact .inl (.refl _)
  | remove x sub => exact .inl (update_sublist rolls List.erase_sublist name)
  | removeName x => exact .inl (update_sublist rolls (List.nil_sublist _) name)
  | clear => exact .inl (List.nil_sublist _)

/-- The change number `p` is the insertion by which the subscriber came to the roll: it was not on the roll before, and
it is on it ever since. Whoever is on the roll is not inserted again. -/
structure CameBy (changes : List Change) (name : String) (sub : SubId) (p : Nat) : Prop where
  inserted : changes[p]? = some (.insert name sub)
  absent : sub ∉ (after (changes.take p) name).members
  since : ∀ q, p < q → q ≤ changes.length → sub ∈ (after (changes.take q) name).members

variable {changes : List Change} {name : String} {sub : SubId} {p q : Nat}

theorem CameBy.lt (h : CameBy changes name sub p) : p < changes.length := (List.getElem?_eq_some_iff.mp h.inserted).1

theorem CameBy.present (h : CameBy changes name sub p) : sub ∈ (after changes name).members := by
  have last := h.since changes.length h.lt (Nat.le_refl _)
  rwa [List.take_length] at last

theorem CameBy.unique (hp : CameBy changes name sub p) (hq : CameBy changes name sub q) : p = q := by
  rcases Nat.lt_trichotomy p q with before | same | behind
  · exact absurd (hp.since q before (Nat.le_of_lt hq.lt)) hq.absent
  · exact same
  · exact absurd (hq.since p behind (Nat.le_of_lt hp.lt)) hp.absent

/-- Whoever stays came by the same insertion as before. -/
theorem CameBy.concat (h : CameBy changes name sub p) {c : Change}
    (stays : sub ∈ (after (changes ++ [c]) name).members) : CameBy (changes ++ [c]) name sub p where
  inserted := by rw [List.getElem?_append_left h.lt, h.inserted]
  absent := by
    rw [List.take_append_of_le_length (Nat.le_of_lt h.lt)]
    exact h.absent
  since q later within := by
    rcases Nat.lt_or_ge changes.length q with last | inside
    · rwa [List.take_of_length_le (by simpa [Nat.succ_le_iff] using last)]
    · rw [List.take_append_of_le_length inside]
      exact h.since q later inside

theorem cameBy_insert (absent : sub ∉ (after changes name).members)
    (present : sub ∈ (after (changes ++ [.insert name sub]) name).members) :
    CameBy (changes ++ [.insert name sub]) name sub changes.length where
  inserted := by simp
  absent := by rwa [List.take_left]
  since q later _ := by rwa [List.take_of_length_le (by simpa [Nat.succ_le_iff] using later)]

theorem mem_after_iff (changes : List Change) (name : String) (sub : SubId) :
    sub ∈ (after changes name).members ↔ ∃ p, CameBy changes name sub p := by
  refine ⟨fun present => ?_, fun ⟨p, h⟩ => h.present⟩
  induction changes using List.reverseRecOn with
  | nil => exact absurd present List.not_mem_nil
  | append_singleton changes c ih =>
    by_cases before : sub ∈ (after changes name).members
    · obtain ⟨p, h⟩ := ih before
      exact ⟨p, h.concat present⟩
    · have grown := change_roll (after changes) c name
      rw [← after_concat] at grown
      rcases grown with fewer | ⟨added, rfl, new, grown⟩
      · exact absurd (fewer.subset present) before
      · rw [grown, List.mem_append, List.mem_singleton] at present
        obtain rfl := present.resolve_left before
        exact ⟨changes.length, cameBy_insert before (by simp [grown])⟩

/-- A roll is in the order of the insertions by which those on it came. -/
theorem after_ordered (changes : List Change) (name : String) :
    (after changes name).members.Pairwise fun a b =>
      ∃ p q, CameBy changes name a p ∧ CameBy changes name b q ∧ p < q := by
  induction changes using List.reverseRecOn with
  | nil => exact .nil
  | append_singleton changes c ih =>
    have grown := change_roll (after changes) c name
    rw [← after_concat] at grown
    -- two who were on the roll already came by the same insertions as before
    have kept {members : List SubId} (ordered : members.Pairwise fun a b =>
          ∃ p q, CameBy changes name a p ∧ CameBy changes name b q ∧ p < q)
        (stay : ∀ sub ∈ members, sub ∈ (after (changes ++ [c]) name).members) :
        members.Pairwise fun a b =>
          ∃ p q, CameBy (changes ++ [c]) name a p ∧ CameBy (changes ++ [c]) name b q ∧ p < q := by
      refine ordered.imp_of_mem fun {a b} ha hb ⟨p, q, hp, hq, before⟩ => ?_
      exact ⟨p, q, hp.concat (stay a ha), hq.concat (stay b hb), before⟩
    rcases grown with fewer | ⟨sub, rfl, new, grown⟩
    · exact kept (ih.sublist fewer) fun _ h => h
    · have stay : ∀ x ∈ (after changes name).members ++ [sub],
          x ∈ (after (changes ++ [.insert name sub]) name).members := fun x hx => grown ▸ hx
      rw [grown, List.pairwise_append]
      refine ⟨kept ih fun x hx => stay x (List.mem_append_left _ hx), List.pairwise_singleton _ _, ?_⟩
      intro a ha b hb
      obtain rfl := List.mem_singleton.mp hb
      obtain ⟨p, hp⟩ := (mem_after_iff changes name a).mp ha
      exact ⟨p, changes.length, hp.concat (stay a (List.mem_append_left _ ha)),
        cameBy_insert new (stay b (List.mem_append_right _ hb)), hp.lt⟩

end Rolls

namespace Registry

theorem nameLe_trans (a b c : String) (hab : nameLe a b = true) (hbc : nameLe b c = true) : nameLe a c = true :=
  decide_eq_true (List.le_trans (of_decide_eq_true hab) (of_decide_eq_true hbc))

theorem nameLe_total (a b : String) : (nameLe a b || nameLe b a) = true := by
  simpa only [nameLe, Bool.or_eq_true, decide_eq_true_eq] using List.le_total _ _

/-- No two names have the same bytes, so the order of the names is strict. -/
theorem names_ascending {registry : Registry} (h : registry.Tidy) :
    registry.names.Pairwise fun a b => a.toUTF8.data.toList < b.toUTF8.data.toList := by
  have sorted := List.pairwise_mergeSort nameLe_trans nameLe_total (registry.entries.map Prod.fst)
  have once : registry.names.Nodup := (List.mergeSort_perm _ _).nodup_iff.mpr h.names
  refine (sorted.and once).imp fun {a b} ⟨le, ne⟩ => ?_
  refine Std.lt_of_le_of_ne (of_decide_eq_true le) fun same => ne ?_
  exact String.toByteArray_inj.mp (ByteArray.ext (Array.toList_inj.mp same))

theorem membersOf_erase (registry : Registry) (name x : String) :
    (registry.erase name).membersOf x = if x = name then [] else registry.membersOf x := by
  unfold membersOf erase
  rw [List.find?_filter]
  split
  · rename_i same
    rw [List.find?_eq_none.mpr]
    · rfl
    · simp [same]
  · rename_i other
    congr 3
    funext e
    by_cases he : e.1 = x <;> simp [he, other]

theorem Tidy.membersOf_put {registry : Registry} (h : registry.Tidy) (name : String) (subs : List SubId) (x : String) :
    (registry.put name subs).membersOf x = if x = name then subs else registry.membersOf x := by
  unfold Registry.put
  split
  · rename_i nobody
    rw [membersOf_erase, List.isEmpty_iff.mp nobody]
  · split
    · rename_i nobody
      have new : registry.entries.find? (fun e => e.1 == name) = none :=
        List.find?_eq_none.mpr fun e he => by simpa using h.unlisted (List.isEmpty_iff.mp nobody) e he
      by_cases same : x = name
      · subst same
        simp [Registry.membersOf, List.find?_append, new]
      · have other : name ≠ x := Ne.symm same
        simp [Registry.membersOf, List.find?_append, same, other]
    · rename_i somebody
      simp only [Registry.membersOf, List.find?_map, Function.comp_def, replaced_name]
      cases found : registry.entries.find? (fun e => e.1 == x) with
      | none =>
        have other : x ≠ name := by
          rintro rfl
          simp [Registry.membersOf, found] at somebody
        simp [other]
      | some e =>
        have named : e.1 = x := by simpa using List.find?_some found
        by_cases same : x = name <;> simp [named, same]

/-- The registry keeps the rolls. -/
structure Keeps (registry : Registry) (rolls : Rolls) : Prop extends registry.Tidy where
  members : ∀ name, registry.membersOf name = (rolls name).members

theorem Keeps.put {registry : Registry} {rolls : Rolls} (h : registry.Keeps rolls) (name : String) (roll : Roll) :
    (registry.put name roll.members).Keeps (Function.update rolls name roll) where
  toTidy := h.toTidy.put name roll.members
  members x := by
    rw [h.toTidy.membersOf_put, Function.update_apply, h.members]
    split <;> rfl

theorem Keeps.erase {registry : Registry} {rolls : Rolls} (h : registry.Keeps rolls) (name : String) :
    (registry.erase name).Keeps (Function.update rolls name .blank) where
  toTidy := h.toTidy.erase name
  members x := by
    rw [membersOf_erase, Function.update_apply, h.members]
    split <;> rfl

theorem contains_iff (registry : Registry) (name : String) (sub : SubId) :
    registry.contains name sub = true ↔ sub ∈ registry.membersOf name := by
  simp [contains]

theorem Keeps.insert {registry : Registry} {rolls : Rolls} (h : registry.Keeps rolls) (name : String) (sub : SubId) :
    (registry.insert name sub).2.Keeps (Function.update rolls name ((rolls name).enter sub)) := by
  unfold Registry.insert
  split
  · rename_i listed
    rw [contains_iff, h.members] at listed
    rw [Roll.enter_present listed, Function.update_eq_self]
    exact h
  · rename_i unlisted
    rw [contains_iff, h.members] at unlisted
    rw [h.members, ← Roll.enter_absent unlisted]
    exact h.put name _

theorem Keeps.remove {registry : Registry} {rolls : Rolls} (h : registry.Keeps rolls) (name : String) (sub : SubId) :
    (registry.remove name sub).2.Keeps (Function.update rolls name ((rolls name).strike sub)) := by
  unfold Registry.remove
  split
  · rw [h.members, ← Roll.members_strike]
    exact h.put name _
  · rename_i unlisted
    rw [contains_iff, h.members] at unlisted
    rw [Roll.strike_absent unlisted, Function.update_eq_self]
    exact h

theorem Keeps.change {registry : Registry} {rolls : Rolls} (h : registry.Keeps rolls) (c : Change) :
    (registry.change c).Keeps (rolls.change c) := by
  cases c with
  | insert name sub => exact h.insert name sub
  | remove name sub => exact h.remove name sub
  | removeName name => exact h.erase name
  | clear => exact ⟨.empty, fun _ => rfl⟩

theorem after_keeps (changes : List Change) : (after changes).Keeps (Rolls.after changes) := by
  induction changes using List.reverseRecOn with
  | nil => exact ⟨.empty, fun _ => rfl⟩
  | append_singleton changes c ih =>
    rw [after_concat, Rolls.after_concat]
    exact ih.change c

theorem Keeps.listed {registry : Registry} {rolls : Rolls} (h : registry.Keeps rolls) :
    rolls.ListedIn registry.entries where
  names := h.names
  entry e := by
    rw [← h.members]
    refine ⟨fun he => ⟨(h.toTidy.membersOf he).symm, h.filled he⟩, fun ⟨all, somebody⟩ => ?_⟩
    have listed := listed_of_members (all ▸ somebody)
    rwa [← all] at listed

/-- The registry has an entry for exactly the names with somebody on their roll, and answers by the rolls. -/
structure Shows (registry : Registry) (rolls : Rolls) : Prop where
  inserted : ∀ name sub, (registry.insert name sub).1 = true ↔ sub ∉ (rolls name).members
  removed : ∀ name sub, (registry.remove name sub).1 = true ↔ sub ∈ (rolls name).members
  nameRemoved : ∀ name, (registry.removeName name).1 = (rolls name).members
  cleared : rolls.ListedIn registry.clear.1
  entries : rolls.ListedIn registry.entries
  proper : ∀ e ∈ registry.entries, e.2 ≠ [] ∧ e.2.Nodup
  snapshot : ∀ name, registry.membersOf name = (rolls name).members
  count : ∀ name, registry.count name = (rolls name).members.length
  isEmpty : registry.isEmpty = true ↔ ∀ name, registry.count name = 0
  ascending : registry.names.Pairwise fun a b => a.toUTF8.data.toList < b.toUTF8.data.toList
  named : ∀ name, name ∈ registry.names ↔ 0 < registry.count name

theorem Tidy.isEmpty_iff {registry : Registry} (h : registry.Tidy) :
    registry.isEmpty = true ↔ ∀ name, registry.count name = 0 := by
  unfold Registry.isEmpty
  rw [List.isEmpty_iff]
  constructor
  · intro empty name
    simp [count, Registry.membersOf, empty]
  · intro nobody
    refine List.eq_nil_iff_forall_not_mem.mpr fun e he => ?_
    have counted := nobody e.1
    rw [count, h.membersOf he, List.length_eq_zero_iff] at counted
    exact h.filled he counted

theorem Tidy.mem_names {registry : Registry} (h : registry.Tidy) (name : String) :
    name ∈ registry.names ↔ 0 < registry.count name := by
  rw [Registry.names, List.mem_mergeSort, List.mem_map, count, List.length_pos_iff]
  constructor
  · rintro ⟨e, he, rfl⟩
    rw [h.membersOf he]
    exact h.filled he
  · exact fun somebody => ⟨_, listed_of_members somebody, rfl⟩

theorem Keeps.shows {registry : Registry} {rolls : Rolls} (h : registry.Keeps rolls) : registry.Shows rolls where
  inserted name sub := by
    rw [← h.members, ← contains_iff]
    cases listed : registry.contains name sub <;> simp [Registry.insert, listed]
  removed name sub := by
    rw [← h.members, ← contains_iff]
    cases listed : registry.contains name sub <;> simp [Registry.remove, listed]
  nameRemoved := h.members
  cleared := h.listed
  entries := h.listed
  proper e he := ⟨h.filled he, ((h.listed.entry e).mp he).1 ▸ (rolls e.1).once⟩
  snapshot := h.members
  count name := congrArg List.length (h.members name)
  isEmpty := h.isEmpty_iff
  ascending := names_ascending h.toTidy
  named := h.mem_names

/-- After any changes the registry shows the rolls that were changed likewise, and those under a name stand in the order
of the insertions by which they came. -/
theorem registry_keeps_rolls (changes : List Change) :
    (after changes).Shows (Rolls.after changes) ∧
    ∀ name,
      (∀ sub, sub ∈ (after changes).membersOf name ↔ ∃! p, Rolls.CameBy changes name sub p) ∧
      ((after changes).membersOf name).Pairwise fun a b =>
        ∃ p q, Rolls.CameBy changes name a p ∧ Rolls.CameBy changes name b q ∧ p < q := by
  have keeps := after_keeps changes
  refine ⟨keeps.shows, fun name => ⟨fun sub => ?_, ?_⟩⟩
  · rw [keeps.members, Rolls.mem_after_iff]
    exact ⟨fun ⟨p, h⟩ => ⟨p, h, fun q hq => hq.unique h⟩, fun ⟨p, h, _⟩ => ⟨p, h⟩⟩
  · rw [keeps.members]
    exact Rolls.after_ordered changes name

example : (after [.insert "BTN" 2, .insert "PWR" 2, .insert "BTN" 0, .insert "BTN" 2, .remove "BTN" 2, .insert "BTN" 1,
    .insert "BTN" 2]).entries = [("BTN", [0, 1, 2]), ("PWR", [2])] := by decide

end Registry

end EventRelay
