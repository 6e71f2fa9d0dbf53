import Reflow.Cache
import Reflow.Proofs.Lists

/-!
# What a cache holds

* `getOrCreate_of_held`, `getOrCreate_of_not_held`: the answer is the value held under the key, or
  what is made anew.
* `mem_entries_getOrCreate`: no operation holds on to anything but what it was given. Keys that are
  dropped are not said here: what is held is bounded from above only.
* `map`: the cache with other values under its keys. What a cache does depends on its keys only
  (`getOrCreate_map`), so it can be followed with names in place of the values.
-/

namespace Reflow.Cache

variable {α ε : Type} {c : Cache α} {key : String} {value : α} {made : Option α} {e : ε}
  {make : Unit → Except ε (Option α)} {entry : String × Option α}

theorem contains_iff : c.contains key ↔ key ∈ c.keys := List.contains_iff_mem

theorem mem_entries_get (key : String) (h : entry ∈ (c.get key).2.entries) : entry ∈ c.entries := by
  unfold get at h
  split at h
  · exact h
  · next held hl =>
    rcases List.mem_append.1 h with h | h
    · exact (List.mem_filter.1 h).1
    · rw [List.mem_singleton.1 h]
      exact mem_of_lookup hl

theorem mem_entries_put (h : entry ∈ (c.put key made).entries) :
    entry ∈ c.entries ∧ entry.1 ≠ key ∨ entry = (key, made) := by
  unfold put at h
  rcases List.mem_append.1 h with h | h
  · left
    by_cases hk : c.contains key
    · rw [if_pos hk] at h
      obtain ⟨hm, hne⟩ := List.mem_filter.1 h
      exact ⟨hm, of_decide_eq_true hne⟩
    · rw [if_neg hk] at h
      have hm : entry ∈ c.entries := by
        split at h
        · exact List.mem_of_mem_drop h
        · exact h
      have hkeys : entry.1 ∈ c.keys := List.mem_map.2 ⟨entry, hm, rfl⟩
      exact ⟨hm, fun he => hk (contains_iff.2 (he ▸ hkeys))⟩
  · exact .inr (List.mem_singleton.1 h)

/-- A value held under the key is the answer, whatever could be made. -/
theorem getOrCreate_of_held (h : c.entries.lookup key = some (some value)) :
    (c.getOrCreate key make).1 = .ok (some value) := by
  rw [getOrCreate, get, h]

/-- Without a value under the key, the answer is what is made. -/
theorem getOrCreate_of_not_held (h : ∀ value, c.entries.lookup key ≠ some (some value)) :
    (c.getOrCreate key make).1 = make () := by
  rw [getOrCreate, get]
  cases hl : c.entries.lookup key with
  | none => cases make () <;> rfl
  | some held =>
    cases held with
    | none => cases make () <;> rfl
    | some value => exact absurd hl (h value)

/-- The value under the key, or the one that is made if there is none. -/
theorem getOrCreate_fst (c : Cache α) (key : String) (value : α) :
    (c.getOrCreate key fun _ => (.ok (some value) : Except ε (Option α))).1 =
      .ok (some ((c.entries.lookup key).join.getD value)) := by
  unfold getOrCreate get
  cases c.entries.lookup key with
  | none => rfl
  | some held => cases held <;> rfl

/-- The entries afterwards were there before, but for the one that was made. -/
theorem mem_entries_getOrCreate (h : entry ∈ (c.getOrCreate key make).2.entries) :
    entry ∈ c.entries ∨ ∃ made, make () = .ok made ∧ entry = (key, made) := by
  unfold getOrCreate at h
  split at h
  · next hg => exact .inl (mem_entries_get key (by rw [hg]; exact h))
  · next read hg =>
    have hread {e} (he : e ∈ read.entries) : e ∈ c.entries :=
      mem_entries_get key (by rw [hg]; exact he)
    split at h
    · next made hm => exact (mem_entries_put h).imp (fun he => hread he.1) fun he => ⟨made, hm, he⟩
    · exact .inl (hread h)

/-! ## Other values -/

section Map

variable {β : Type}

/-- The cache with other values under its keys. -/
def map (f : α → β) (c : Cache α) : Cache β :=
  { c with entries := c.entries.map fun e => (e.1, e.2.map f) }

variable (f : α → β) (c : Cache α)

theorem lookup_map (key : String) :
    (c.map f).entries.lookup key = (c.entries.lookup key).map (Option.map f) :=
  lookup_map_values (Option.map f) c.entries key

theorem keys_map : (c.map f).keys = c.keys := by
  rw [keys, keys, map, List.map_map]
  rfl

theorem without_map (key : String) :
    (c.map f).without key = (c.without key).map fun e => (e.1, e.2.map f) := by
  rw [without, without, map, List.filter_map]
  rfl

theorem get_map (key : String) :
    (c.map f).get key = ((c.get key).1.map f, (c.get key).2.map f) := by
  rw [get, get, lookup_map]
  cases c.entries.lookup key with
  | none => rfl
  | some value =>
    refine Prod.ext rfl ?_
    show ({ c.map f with
      entries := (c.map f).without key ++ [(key, value.map f)], hits := c.hits + 1 } : Cache β) = _
    rw [without_map]
    simp only [map, List.map_append, List.map_singleton]

theorem put_map (key : String) (value : Option α) :
    (c.map f).put key (value.map f) = (c.put key value).map f := by
  have hcontains : (c.map f).contains key = c.contains key := by
    rw [contains, contains, keys_map]
  unfold put
  rw [hcontains, without_map]
  by_cases hk : c.contains key
  · rw [if_pos hk, if_pos hk]
    simp only [map, List.map_append, List.map_singleton]
  · have hlength : (c.map f).entries.length = c.entries.length := List.length_map _
    have hcapacity : (c.map f).capacity = c.capacity := rfl
    rw [if_neg hk, if_neg hk, hlength, hcapacity]
    by_cases hfull : c.capacity ≤ c.entries.length
    · rw [if_pos hfull, if_pos hfull]
      simp only [map, List.map_append, List.map_singleton, List.map_drop]
    · rw [if_neg hfull, if_neg hfull]
      simp only [map, List.map_append, List.map_singleton]

/-- A cache does the same with other values, if those that are made are the other ones too. -/
theorem getOrCreate_map (key : String) (made : Except ε (Option α)) :
    (c.map f).getOrCreate key (fun _ => made.map (Option.map f)) =
      ((c.getOrCreate key fun _ => made).1.map (Option.map f),
        (c.getOrCreate key fun _ => made).2.map f) := by
  unfold getOrCreate
  rw [get_map]
  obtain ⟨held, read⟩ := c.get key
  cases held with
  | some value => rfl
  | none =>
    cases made with
    | error e => rfl
    | ok value => exact congrArg (Prod.mk _) (put_map f read key value)

end Map

end Reflow.Cache
