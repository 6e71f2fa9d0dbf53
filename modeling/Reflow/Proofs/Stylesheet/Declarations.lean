import Mathlib.Data.List.Basic
import Mathlib.Data.List.Induction
import Reflow.Stylesheet

/-!
# Declarations made one after the other

`Declarations.ofPairs` declares pairs of a name and a value in their order. The result is said
here without the order of the steps: `lastValues` has every name once, where it stands first among
the pairs, with the value that it is given last (`ofPairs_eq_lastValues`).

* `mem_ofPairs_iff`: what is declared is the last pair of its name.
* `updated`: declarations with others made after them. Declaring pairs one by one updates what is
  there with what these pairs alone declare (`foldl_declare_eq_updated`, `ofPairs_append`).
-/

namespace Reflow.Declarations

variable {d pairs : List (String × String)} {name value : String}

/-- The last pair of a name. -/
def lastOf (pairs : List (String × String)) (name : String) : Option (String × String) :=
  (pairs.filter (·.1 = name)).getLast?

/-- Every name once, where it stands first, with the value that it is given last. -/
def lastValues (pairs : List (String × String)) : List (String × String) :=
  (pairs.map (·.1)).eraseDups.filterMap (lastOf pairs)

/-! ## One declaration -/

theorem declare_of_not_mem (h : name ∉ d.map (·.1)) :
    declare d name value = d ++ [(name, value)] := by
  induction d with
  | nil => rfl
  | cons p d ih =>
    obtain ⟨hp, hd⟩ := not_or.1 (mt List.mem_cons.2 h)
    rw [declare, if_neg (Ne.symm hp), ih hd, List.cons_append]

theorem declare_of_mem (hn : (d.map (·.1)).Nodup) (h : name ∈ d.map (·.1)) :
    declare d name value = d.map fun p => if p.1 = name then (name, value) else p := by
  induction d with
  | nil => cases h
  | cons p d ih =>
    obtain ⟨hp, hn⟩ := List.nodup_cons.1 hn
    rw [declare, List.map_cons]
    split
    · next he =>
      -- The name does not come again, so the rest keeps its values.
      subst he
      refine congrArg _ ((List.map_id d).symm.trans (List.map_congr_left fun q hq => ?_))
      rw [id_eq, if_neg]
      exact fun hqp => hp (List.mem_map.2 ⟨q, hq, hqp⟩)
    · next he =>
      rw [ih hn ((List.mem_cons.1 h).resolve_left (Ne.symm he))]

theorem declare_append_of_mem {e : Declarations} (h : name ∈ d.map (·.1)) :
    declare (d ++ e) name value = declare d name value ++ e := by
  induction d with
  | nil => cases h
  | cons p d ih =>
    rw [List.cons_append, declare, declare]
    by_cases hp : p.1 = name
    · rw [if_pos hp, if_pos hp, List.cons_append]
    · rw [if_neg hp, if_neg hp, List.cons_append,
        ih ((List.mem_cons.1 h).resolve_left (Ne.symm hp))]

theorem declare_append_of_not_mem {e : Declarations} (h : name ∉ d.map (·.1)) :
    declare (d ++ e) name value = d ++ declare e name value := by
  induction d with
  | nil => rfl
  | cons p d ih =>
    obtain ⟨hp, hd⟩ := not_or.1 (mt List.mem_cons.2 h)
    rw [List.cons_append, declare, if_neg (Ne.symm hp), ih hd, List.cons_append]

theorem value?_cons (p : String × String) (d : Declarations) (name : String) :
    value? (p :: d) name = if name = p.1 then some p.2 else d.value? name := by
  rw [value?, List.lookup_cons]
  by_cases h : name = p.1
  · rw [if_pos h, beq_iff_eq.2 h]
  · rw [if_neg h, beq_eq_false_iff_ne.2 h, value?]

theorem value?_declare (d : Declarations) (name value other : String) :
    (declare d name value).value? other = if other = name then some value else d.value? other := by
  induction d with
  | nil => exact value?_cons (name, value) [] other
  | cons p d ih =>
    rw [declare, value?_cons]
    by_cases hp : p.1 = name
    · rw [if_pos hp, value?_cons, hp]
      by_cases ho : other = name
      · simp only [if_pos ho]
      · simp only [if_neg ho]
    · rw [if_neg hp, value?_cons, ih]
      by_cases ho : other = p.1
      · rw [if_pos ho, if_pos ho, if_neg (ho ▸ hp)]
      · rw [if_neg ho, if_neg ho]

/-- Among the names of a kind, a declaration is made if its name is of that kind. -/
theorem filter_declare (d : Declarations) (name value : String) (kind : String → Bool) :
    (declare d name value).filter (kind ·.1) =
      if kind name then declare (d.filter (kind ·.1)) name value else d.filter (kind ·.1) := by
  induction d with
  | nil => by_cases hk : kind name <;> simp [declare, hk]
  | cons p d ih =>
    rw [declare]
    by_cases hp : p.1 = name
    · by_cases hk : kind name <;> simp [hp, hk, declare]
    · by_cases hk : kind p.1 <;> by_cases hn : kind name <;> simp_all [declare]

/-! ## All of them -/

private theorem nodup_eraseDups (names : List String) : names.eraseDups.Nodup := by
  match names with
  | [] => exact List.nodup_nil
  | n :: rest =>
    rw [List.eraseDups_cons, List.nodup_cons, List.mem_eraseDups]
    exact ⟨by simp, nodup_eraseDups (rest.filter fun m => !m == n)⟩
termination_by names.length
decreasing_by
  have := List.length_filter_le (fun m => !m == n) rest
  simp only [List.length_cons]
  omega

theorem fst_of_lastOf {p : String × String} (h : lastOf pairs name = some p) : p.1 = name := by
  simpa using (List.mem_filter.1 (List.mem_of_getLast? h)).2

theorem lastOf_append (pairs : List (String × String)) (p : String × String) (name : String) :
    lastOf (pairs ++ [p]) name = if p.1 = name then some p else lastOf pairs name := by
  rw [lastOf, List.filter_append]
  split
  · next h => simp [h]
  · next h => simp [h, lastOf]

theorem isSome_lastOf (h : name ∈ pairs.map (·.1)) : ∃ p, lastOf pairs name = some p := by
  obtain ⟨p, hp, rfl⟩ := List.mem_map.1 h
  have hne : pairs.filter (·.1 = p.1) ≠ [] := List.ne_nil_of_mem (List.mem_filter.2 ⟨hp, by simp⟩)
  exact ⟨_, List.getLast?_eq_some_getLast hne⟩

theorem map_fst_filterMap_lastOf {names : List String} (h : names ⊆ pairs.map (·.1)) :
    (names.filterMap (lastOf pairs)).map (·.1) = names := by
  induction names with
  | nil => rfl
  | cons name names ih =>
    obtain ⟨hname, hnames⟩ := List.cons_subset.1 h
    obtain ⟨p, hp⟩ := isSome_lastOf hname
    rw [List.filterMap_cons_some hp, List.map_cons, fst_of_lastOf hp, ih hnames]

theorem map_fst_lastValues (pairs : List (String × String)) :
    (lastValues pairs).map (·.1) = (pairs.map (·.1)).eraseDups :=
  map_fst_filterMap_lastOf fun _ h => List.mem_eraseDups.1 h

theorem mem_map_fst_lastValues :
    name ∈ (lastValues pairs).map (·.1) ↔ name ∈ pairs.map (·.1) := by
  rw [map_fst_lastValues, List.mem_eraseDups]

theorem nodup_map_fst_lastValues (pairs : List (String × String)) :
    ((lastValues pairs).map (·.1)).Nodup := by
  rw [map_fst_lastValues]
  exact nodup_eraseDups _

/-- One more pair is one more declaration. -/
theorem lastValues_append (pairs : List (String × String)) (p : String × String) :
    lastValues (pairs ++ [p]) = declare (lastValues pairs) p.1 p.2 := by
  obtain ⟨name, value⟩ := p
  have hnames : ((pairs ++ [(name, value)]).map (·.1)).eraseDups =
      (pairs.map (·.1)).eraseDups ++ if name ∈ pairs.map (·.1) then [] else [name] := by
    rw [List.map_append, List.eraseDups_append]
    split <;> simp_all [List.removeAll, List.eraseDups_cons]
  rw [lastValues, hnames, List.filterMap_append]
  by_cases h : name ∈ pairs.map (·.1)
  · rw [declare_of_mem (nodup_map_fst_lastValues pairs) (mem_map_fst_lastValues.2 h), if_pos h,
      List.filterMap_nil, List.append_nil, lastValues, List.map_filterMap]
    refine List.filterMap_congr fun n hn => ?_
    obtain ⟨q, hq⟩ := isSome_lastOf (List.mem_eraseDups.1 hn)
    rw [lastOf_append, hq, Option.map_some, fst_of_lastOf hq]
    simp only [eq_comm]
    split <;> rfl
  · rw [declare_of_not_mem (mt mem_map_fst_lastValues.1 h), if_neg h]
    congr 1
    · refine List.filterMap_congr fun n hn => ?_
      rw [lastOf_append, if_neg]
      rintro rfl
      exact h (List.mem_eraseDups.1 hn)
    · simp [lastOf_append]

/-- Every name once, where it stands first, with the value that it is given last. -/
theorem ofPairs_eq_lastValues (pairs : List (String × String)) :
    ofPairs pairs = lastValues pairs := by
  induction pairs using List.reverseRecOn with
  | nil => rfl
  | append_singleton pairs p ih =>
    rw [lastValues_append, ← ih, ofPairs, List.foldl_append]
    rfl

theorem map_fst_ofPairs (pairs : List (String × String)) :
    (ofPairs pairs).map (·.1) = (pairs.map (·.1)).eraseDups := by
  rw [ofPairs_eq_lastValues, map_fst_lastValues]

theorem nodup_map_fst_ofPairs (pairs : List (String × String)) :
    ((ofPairs pairs).map (·.1)).Nodup := by
  rw [ofPairs_eq_lastValues]
  exact nodup_map_fst_lastValues pairs

/-- What is declared is the last pair of its name. -/
theorem mem_ofPairs_iff :
    (name, value) ∈ ofPairs pairs ↔ lastOf pairs name = some (name, value) := by
  rw [ofPairs_eq_lastValues, lastValues, List.mem_filterMap]
  constructor
  · rintro ⟨n, -, hlast⟩
    have hn : name = n := fst_of_lastOf hlast
    rwa [hn] at hlast ⊢
  · intro hlast
    have hmem := (List.mem_filter.1 (List.mem_of_getLast? hlast)).1
    exact ⟨name, List.mem_eraseDups.2 (List.mem_map.2 ⟨_, hmem, rfl⟩), hlast⟩

/-! ## Some after others -/

/-- Declarations with others made after them. A name keeps its place and takes its value from the
later ones if it is declared there. The names that only come there are put at the end. -/
def updated (d e : Declarations) : Declarations :=
  d.map (fun p => (p.1, (e.value? p.1).getD p.2)) ++ e.filter (fun p => p.1 ∉ d.map (·.1))

/-- One more declaration after an update is one more in what it is updated with. -/
theorem declare_updated {e : Declarations} (hn : (d.map (·.1)).Nodup) :
    declare (updated d e) name value = updated d (declare e name value) := by
  have hnames : (d.map fun p => (p.1, (e.value? p.1).getD p.2)).map (·.1) = d.map (·.1) := by
    rw [List.map_map]
    rfl
  rw [updated, updated, filter_declare e name value fun n => n ∉ d.map (·.1)]
  by_cases h : name ∈ d.map (·.1)
  · -- The name has its place already, and nothing is put at the end.
    rw [declare_append_of_mem (hnames.symm ▸ h),
      declare_of_mem (hnames.symm ▸ hn) (hnames.symm ▸ h), if_neg (by simpa using h), List.map_map]
    congr 1
    refine List.map_congr_left fun p _ => ?_
    by_cases hp : p.1 = name
    · simp [value?_declare, hp]
    · simp [value?_declare, hp]
  · rw [declare_append_of_not_mem (hnames.symm ▸ h), if_pos (by simpa using h)]
    congr 1
    refine List.map_congr_left fun p hp => ?_
    have hne : p.1 ≠ name := fun he => h (List.mem_map.2 ⟨p, hp, he⟩)
    rw [value?_declare, if_neg hne]

/-- Pairs declared one by one update what is there with what they declare by themselves. -/
theorem foldl_declare_eq_updated (hn : (d.map (·.1)).Nodup) (pairs : List (String × String)) :
    pairs.foldl (fun d p => declare d p.1 p.2) d = updated d (ofPairs pairs) := by
  induction pairs using List.reverseRecOn with
  | nil => simp [updated, ofPairs, value?]
  | append_singleton pairs p ih =>
    rw [List.foldl_append, ih, List.foldl_cons, List.foldl_nil, declare_updated hn]
    rw [ofPairs, ofPairs, List.foldl_append, List.foldl_cons, List.foldl_nil]

theorem ofPairs_append (a b : List (String × String)) :
    ofPairs (a ++ b) = updated (ofPairs a) (ofPairs b) := by
  rw [ofPairs, List.foldl_append]
  exact foldl_declare_eq_updated (nodup_map_fst_ofPairs a) b

end Reflow.Declarations
