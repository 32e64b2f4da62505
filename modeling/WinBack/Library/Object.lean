import Mathlib.Data.List.Basic
import Mathlib.Tactic.Common

/-! JavaScript objects. A key has one entry, and the value `none` is `undefined`:
reading an absent key and reading an entry that holds `undefined` are the same,
but the `in` operator tells them apart. -/

namespace WinBack.Library

structure Object (Value : Type) where
  entries : List (String × Option Value) := []
  distinct : (entries.map Prod.fst).Nodup := by simp

namespace Object

variable {Value : Type}

instance : EmptyCollection (Object Value) := ⟨{}⟩

/-- `object.key`. -/
def get (object : Object Value) (key : String) : Option Value :=
  (object.entries.find? fun entry => entry.1 == key).bind Prod.snd

/-- `key in object`. -/
def has (object : Object Value) (key : String) : Bool :=
  object.entries.any fun entry => entry.1 == key

private theorem keys_replace (entries : List (String × Option Value)) (key : String) (value : Value) :
    (entries.map fun entry => if entry.1 == key then (key, some value) else entry).map Prod.fst =
      entries.map Prod.fst := by
  rw [List.map_map]
  refine List.map_congr_left fun entry _ => ?_
  by_cases named : entry.1 = key <;> simp [named]

private theorem distinct_append {entries : List (String × Option Value)} {key : String} (value : Value)
    (distinct : (entries.map Prod.fst).Nodup) (absent : ¬entries.any (fun entry => entry.1 == key) = true) :
    ((entries ++ [(key, some value)]).map Prod.fst).Nodup := by
  rw [List.map_append, List.map_singleton, List.nodup_append]
  refine ⟨distinct, by simp, ?_⟩
  intro name listed other single same
  obtain ⟨entry, member, rfl⟩ := List.mem_map.mp listed
  rw [List.mem_singleton.mp single] at same
  exact absent (List.any_eq_true.mpr ⟨entry, member, by simpa using same⟩)

/-- `{ ...object, key: value }`. -/
def set (object : Object Value) (key : String) (value : Value) : Object Value :=
  if absent : object.has key = true then
    ⟨object.entries.map fun entry => if entry.1 == key then (key, some value) else entry,
      keys_replace object.entries key value ▸ object.distinct⟩
  else ⟨object.entries ++ [(key, some value)], distinct_append value object.distinct absent⟩

variable {object : Object Value} {key other : String} {value : Value} {content : Option Value}

theorem get_of_mem (member : (key, content) ∈ object.entries) : object.get key = content := by
  obtain ⟨entries, distinct⟩ := object
  unfold get
  induction entries with
  | nil => cases member
  | cons head rest ih =>
    simp only [List.map_cons, List.nodup_cons] at distinct
    rcases List.mem_cons.mp member with rfl | later
    · simp
    · have apart : head.1 ≠ key := by
        rintro rfl
        exact distinct.1 (List.mem_map.mpr ⟨_, later, rfl⟩)
      simpa [apart] using ih distinct.2 later

theorem mem_of_get (found : object.get key = some value) : (key, some value) ∈ object.entries := by
  obtain ⟨entry, present, held⟩ := Option.bind_eq_some_iff.mp found
  have named : entry.1 = key := by simpa using List.find?_some present
  have member := List.mem_of_find?_eq_some present
  rcases entry with ⟨name, content⟩
  cases named
  cases held
  exact member

/-- The entries after setting one key: the new one and those of the other keys. -/
theorem mem_set_iff :
    (other, content) ∈ (object.set key value).entries ↔
      other = key ∧ content = some value ∨ other ≠ key ∧ (other, content) ∈ object.entries := by
  unfold set
  split
  · rename_i present
    obtain ⟨held, member, named⟩ := List.any_eq_true.mp present
    constructor
    · intro listed
      obtain ⟨entry, there, same⟩ := List.mem_map.mp listed
      split at same
      · cases same
        exact .inl ⟨rfl, rfl⟩
      · rename_i apart
        subst same
        exact .inr ⟨by simpa using apart, there⟩
    · rintro (⟨rfl, rfl⟩ | ⟨apart, there⟩)
      · exact List.mem_map.mpr ⟨held, member, by rw [if_pos named]⟩
      · exact List.mem_map.mpr ⟨(other, content), there, by simp [apart]⟩
  · rename_i absent
    constructor
    · intro listed
      rcases List.mem_append.mp listed with there | single
      · refine .inr ⟨?_, there⟩
        rintro rfl
        exact absent (List.any_eq_true.mpr ⟨_, there, by simp⟩)
      · cases List.mem_singleton.mp single
        exact .inl ⟨rfl, rfl⟩
    · rintro (⟨rfl, rfl⟩ | ⟨_, there⟩)
      · exact List.mem_append_right _ (by simp)
      · exact List.mem_append_left _ there

@[simp] theorem get_set_self (object : Object Value) (key : String) (value : Value) :
    (object.set key value).get key = some value :=
  get_of_mem (mem_set_iff.mpr (.inl ⟨rfl, rfl⟩))

theorem get_eq_none_of_absent (absent : ∀ content, (key, content) ∉ object.entries) :
    object.get key = none := by
  unfold get
  cases found : object.entries.find? (fun entry => entry.1 == key) with
  | none => rfl
  | some entry =>
    obtain ⟨name, content⟩ := entry
    have named : name = key := by simpa using List.find?_some found
    subst named
    exact absurd (List.mem_of_find?_eq_some found) (absent content)

theorem get_set_of_ne (apart : other ≠ key) : (object.set key value).get other = object.get other := by
  by_cases present : ∃ content, (other, content) ∈ object.entries
  · obtain ⟨content, member⟩ := present
    rw [get_of_mem member, get_of_mem (mem_set_iff.mpr (.inr ⟨apart, member⟩))]
  · have absent : ∀ content, (other, content) ∉ object.entries := fun content member =>
      present ⟨content, member⟩
    rw [get_eq_none_of_absent absent, get_eq_none_of_absent]
    intro content member
    rcases mem_set_iff.mp member with ⟨same, _⟩ | ⟨_, there⟩
    · exact apart same
    · exact absent content there

end Object

end WinBack.Library
