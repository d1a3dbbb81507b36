import EventRelay.Proofs.Act
import Mathlib.Data.List.Nodup

namespace EventRelay

namespace Registry

/-- Of `n` subscribers, each is listed once at most under a name. -/
structure Proper (registry : Registry) (n : Nat) : Prop where
  once : ∀ {e}, e ∈ registry.entries → e.2.Nodup
  known : ∀ {e sub}, e ∈ registry.entries → sub ∈ e.2 → sub < n

/-- A name with somebody under it has an entry. -/
theorem listed_of_members {registry : Registry} {name : String} (somebody : registry.membersOf name ≠ []) :
    (name, registry.membersOf name) ∈ registry.entries := by
  unfold membersOf at *
  cases hf : registry.entries.find? (fun e => e.1 == name) with
  | none => simp [hf] at somebody
  | some e =>
    have named : e.1 = name := by simpa using List.find?_some hf
    subst named
    exact List.mem_of_find?_eq_some hf

theorem membersOf_mem {registry : Registry} {name : String} {sub : SubId} (h : sub ∈ registry.membersOf name) :
    ∃ e, e ∈ registry.entries ∧ registry.membersOf name = e.2 :=
  ⟨_, listed_of_members (List.ne_nil_of_mem h), rfl⟩

theorem Proper.nodup {registry : Registry} {n : Nat} (h : registry.Proper n) (name : String) :
    (registry.membersOf name).Nodup := by
  unfold membersOf
  cases hf : registry.entries.find? (fun e => e.1 == name) with
  | none => exact List.nodup_nil
  | some e => exact h.once (List.mem_of_find?_eq_some hf)

theorem Proper.member {registry : Registry} {n : Nat} (h : registry.Proper n) {name : String} {sub : SubId}
    (hs : sub ∈ registry.membersOf name) : sub < n := by
  obtain ⟨e, he, hm⟩ := membersOf_mem hs
  exact h.known he (hm ▸ hs)

theorem Proper.empty (n : Nat) : Registry.empty.Proper n := ⟨nofun, nofun⟩

theorem Proper.erase {registry : Registry} {n : Nat} (h : registry.Proper n) (name : String) :
    (registry.erase name).Proper n :=
  ⟨fun he => h.once (List.mem_filter.mp he).1, fun he => h.known (List.mem_filter.mp he).1⟩

theorem Proper.put {registry : Registry} {n : Nat} (h : registry.Proper n) (name : String) {subs : List SubId}
    (once : subs.Nodup) (known : ∀ sub ∈ subs, sub < n) : (registry.put name subs).Proper n := by
  have added : ∀ {e}, e ∈ (registry.put name subs).entries → e ∈ registry.entries ∨ e.2 = subs := by
    intro e he
    unfold Registry.put at he
    split at he
    · exact .inl (List.mem_filter.mp he).1
    · split at he
      · rcases List.mem_append.mp he with hm | hm
        · exact .inl hm
        · exact .inr (congrArg Prod.snd (List.mem_singleton.mp hm))
      · obtain ⟨old, hm, hd⟩ := List.mem_map.mp he
        split at hd
        · exact .inr (congrArg Prod.snd hd.symm)
        · exact .inl (hd ▸ hm)
  refine ⟨fun he => ?_, fun he hs => ?_⟩
  · rcases added he with hm | hm
    · exact h.once hm
    · exact hm ▸ once
  · rcases added he with hm | hm
    · exact h.known hm hs
    · exact known _ (hm ▸ hs)

theorem Proper.insert {registry : Registry} {n : Nat} (h : registry.Proper n) (name : String) {sub : SubId}
    (hs : sub < n) : (registry.insert name sub).2.Proper n := by
  unfold Registry.insert
  split
  · exact h
  · rename_i absent
    have new : sub ∉ registry.membersOf name := by simpa [contains] using absent
    apply h.put name
    · refine List.nodup_append.mpr ⟨h.nodup name, by simp, fun a ha b hb he => ?_⟩
      rw [he, List.mem_singleton.mp hb] at ha
      exact new ha
    · intro x hx
      rcases List.mem_append.mp hx with hm | hm
      · exact h.member hm
      · exact List.mem_singleton.mp hm ▸ hs

theorem Proper.altered {registry registry' : Registry} {n : Nat} (h : registry.Proper n)
    (ha : registry.Altered n registry') : registry'.Proper n := by
  cases ha with
  | insert name known => exact h.insert name known
  | remove name sub =>
    unfold Registry.remove
    split
    · exact h.put name ((h.nodup name).filter _) fun x hx => h.member (List.mem_filter.mp hx).1
    · exact h
  | removeName name => exact h.erase name
  | clear => exact .empty n

/-- A name has one entry, and only while somebody is registered under it. -/
structure Tidy (registry : Registry) : Prop where
  names : (registry.entries.map Prod.fst).Nodup
  filled : ∀ {e}, e ∈ registry.entries → e.2 ≠ []

theorem Tidy.membersOf {registry : Registry} (h : registry.Tidy) {e : Enrolment} (he : e ∈ registry.entries) :
    registry.membersOf e.1 = e.2 := by
  obtain ⟨found, hf⟩ : ∃ found, registry.entries.find? (fun x => x.1 == e.1) = some found :=
    Option.isSome_iff_exists.mp (List.find?_isSome.mpr ⟨e, he, beq_self_eq_true e.1⟩)
  have named : found.1 = e.1 := by simpa using List.find?_some hf
  have same : found = e := List.inj_on_of_nodup_map h.names (List.mem_of_find?_eq_some hf) he named
  rw [Registry.membersOf, hf, same]
  rfl

/-- A name with nobody under it has no entry. -/
theorem Tidy.unlisted {registry : Registry} (h : registry.Tidy) {name : String}
    (nobody : registry.membersOf name = []) : ∀ e ∈ registry.entries, e.1 ≠ name := by
  rintro e he rfl
  rw [h.membersOf he] at nobody
  exact h.filled he nobody

theorem Tidy.empty : Registry.empty.Tidy := ⟨List.nodup_nil, nofun⟩

theorem Tidy.erase {registry : Registry} (h : registry.Tidy) (name : String) : (registry.erase name).Tidy :=
  ⟨h.names.sublist (List.filter_sublist.map _), fun he => h.filled (List.mem_filter.mp he).1⟩

theorem Tidy.add {registry : Registry} (h : registry.Tidy) {name : String} {subs : List SubId} (filled : subs ≠ [])
    (new : ∀ e ∈ registry.entries, e.1 ≠ name) : Tidy ⟨registry.entries ++ [(name, subs)]⟩ := by
  refine ⟨?_, fun {e} he => ?_⟩
  · rw [List.map_append, List.nodup_append]
    refine ⟨h.names, by simp, fun a ha b hb => ?_⟩
    obtain ⟨e, he, rfl⟩ := List.mem_map.mp ha
    rw [List.mem_singleton.mp hb]
    exact new e he
  · rcases List.mem_append.mp he with old | added
    · exact h.filled old
    · rw [List.mem_singleton.mp added]
      exact filled

/-- An entry that gets a new list keeps its name. -/
theorem replaced_name (name : String) (subs : List SubId) (e : Enrolment) :
    (if e.1 == name then (name, subs) else e).1 = e.1 := by
  split
  · rename_i same
    exact (eq_of_beq same).symm
  · rfl

theorem Tidy.replace {registry : Registry} (h : registry.Tidy) (name : String) {subs : List SubId}
    (filled : subs ≠ []) : Tidy ⟨registry.entries.map fun e => if e.1 == name then (name, subs) else e⟩ := by
  refine ⟨?_, fun {e} he => ?_⟩
  · rw [List.map_map]
    simpa only [Function.comp_def, replaced_name] using h.names
  · obtain ⟨old, ho, rfl⟩ := List.mem_map.mp he
    split
    · exact filled
    · exact h.filled ho

theorem Tidy.put {registry : Registry} (h : registry.Tidy) (name : String) (subs : List SubId) :
    (registry.put name subs).Tidy := by
  unfold Registry.put
  split
  · exact h.erase name
  · rename_i members
    have filled : subs ≠ [] := by simpa using members
    split
    · rename_i nobody
      exact h.add filled (h.unlisted (List.isEmpty_iff.mp nobody))
    · exact h.replace name filled

theorem Tidy.altered {registry registry' : Registry} {n : Nat} (h : registry.Tidy)
    (ha : registry.Altered n registry') : registry'.Tidy := by
  cases ha with
  | insert name _ =>
    unfold Registry.insert
    split
    · exact h
    · exact h.put name _
  | remove name sub =>
    unfold Registry.remove
    split
    · exact h.put name _
    · exact h
  | removeName name => exact h.erase name
  | clear => exact .empty

end Registry

end EventRelay
