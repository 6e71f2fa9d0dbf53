import Mathlib.Data.List.Dedup
import Mathlib.Data.List.DropRight
import Reflow.Proofs.Cache.Entries

/-!
# The history of a cache

What a cache holds is told by what it was used for since it was last cleared, and by nothing else.

* `Use`, `afterAll`: the uses of a cache, one after the other.
* `History`: the keys touched, the values stored and the number of reads. A store touches its key,
  and so does a read of a key that is held; a read that misses touches nothing.
* `History.recent`: the distinct keys in the order of their last touches, and of these the last
  ones, as many as there is room for. `History.stored?`: the value stored last under a key.
  `History.held?`: that value, while the key is recent.
* `FollowsHistory`: a cache holds the recent keys with their last values. Every use keeps this
  (`FollowsHistory.after`), so it is true of every run (`followsHistory_afterAll`).
* `getOrCreateIn`: `getOrCreate` by a maker who leaves traces in a world, which shows when the
  maker is called.
* `create_follows_history`: the above for a cache that is made anew.
-/

namespace Reflow.Cache

variable {α ε σ : Type} {c : Cache α} {key : String} {value made : Option α}

/-! ## Uses -/

/-- A use of a cache. A value that is not held is made, and `made` is what comes of it. -/
inductive Use (ε α : Type) where
  | get (key : String)
  | put (key : String) (value : Option α)
  | getOrCreate (key : String) (made : Except ε (Option α))
  | contains (key : String)
  | clear

/-- The cache after a use. -/
def after (c : Cache α) : Use ε α → Cache α
  | .get key => (c.get key).2
  | .put key value => c.put key value
  | .getOrCreate key made => (c.getOrCreate key fun _ => made).2
  | .contains _ => c
  | .clear => c.clear

/-- The cache after uses in their order. -/
def afterAll (c : Cache α) (uses : List (Use ε α)) : Cache α := uses.foldl after c

/-- Whether a key is held with a value in it. -/
def hasValue (c : Cache α) (key : String) : Bool := (c.entries.lookup key).join.isSome

/-- `getOrCreate` by a maker who works in a world of their own. -/
def getOrCreateIn (c : Cache α) (key : String) (make : σ → Except ε (Option α) × σ) (world : σ) :
    (Except ε (Option α) × Cache α) × σ :=
  match c.get key with
  | (some value, read) => ((.ok (some value), read), world)
  | (none, read) =>
    match make world with
    | (.ok value, world) => ((.ok value, read.put key value), world)
    | (.error e, world) => ((.error e, read), world)

/-- A value is made if none is held, and stored if it could be made. -/
theorem getOrCreate_snd (c : Cache α) (key : String) (made : Except ε (Option α)) :
    (c.getOrCreate key fun _ => made).2 =
      match c.hasValue key, made with
      | false, .ok value => (c.get key).2.put key value
      | _, _ => (c.get key).2 := by
  unfold getOrCreate hasValue get
  cases c.entries.lookup key with
  | none => cases made <;> rfl
  | some held => cases held <;> cases made <;> rfl

/-- The maker is called if no value is held, and then only once. -/
theorem getOrCreateIn_eq (c : Cache α) (key : String) (make : σ → Except ε (Option α) × σ)
    (world : σ) :
    c.getOrCreateIn key make world =
      (c.getOrCreate key fun _ => (make world).1,
        if c.hasValue key then world else (make world).2) := by
  unfold getOrCreateIn getOrCreate hasValue get
  cases c.entries.lookup key with
  | none =>
    rcases hm : make world with ⟨_ | _, w⟩ <;> rfl
  | some held =>
    cases held with
    | some value => rfl
    | none => rcases hm : make world with ⟨_ | _, w⟩ <;> rfl

/-! ## Histories -/

/-- What a cache was used for since it was last cleared, from the oldest on. -/
structure History (α : Type) where
  touches : List String
  stores : List (String × Option α)
  reads : Nat

namespace History

/-- Nothing has happened. -/
def blank : History α := ⟨[], [], 0⟩

/-- The last of the distinct keys in the order of their last touches, `room` of them. -/
def recent (room : Nat) (h : History α) : List String := h.touches.dedup.rtake room

/-- The value that was stored last under a key. -/
def stored? (h : History α) (key : String) : Option (Option α) := h.stores.reverse.lookup key

/-- Whether a key is recent and was last stored with a value. -/
def hasValue (room : Nat) (h : History α) (key : String) : Bool :=
  decide (key ∈ h.recent room) && (h.stored? key).join.isSome

/-- The value that is held under a key: the one that was stored last, if the key is recent. -/
def held? (room : Nat) (h : History α) (key : String) : Option α :=
  if key ∈ h.recent room then (h.stored? key).join else none

/-- A read touches a key that is held. -/
def read (room : Nat) (h : History α) (key : String) : History α :=
  { h with
    touches := if key ∈ h.recent room then h.touches ++ [key] else h.touches
    reads := h.reads + 1 }

/-- A store touches its key. -/
def store (h : History α) (key : String) (value : Option α) : History α :=
  { h with touches := h.touches ++ [key], stores := h.stores ++ [(key, value)] }

/-- The history after a use of a cache with so much room. A value is made if none is held, and
what cannot be made is not stored. -/
def after (room : Nat) (h : History α) : Use ε α → History α
  | .get key => h.read room key
  | .put key value => h.store key value
  | .getOrCreate key (.ok value) =>
    if h.hasValue room key then h.read room key else (h.read room key).store key value
  | .getOrCreate key (.error _) => h.read room key
  | .contains _ => h
  | .clear => blank

/-- The history of uses in their order. -/
def ofUses (room : Nat) (uses : List (Use ε α)) : History α := uses.foldl (after room) blank

end History

/-! ## The order of last touches -/

/-- One more touch puts a key behind all others. -/
theorem dedup_concat (touches : List String) (key : String) :
    (touches ++ [key]).dedup = touches.dedup.filter (· ≠ key) ++ [key] := by
  induction touches with
  | nil => simp
  | cons a touches ih =>
    by_cases ha : a ∈ touches
    · have hc : a ∈ touches ++ [key] := List.mem_append_left _ ha
      rw [List.cons_append, List.dedup_cons_of_mem hc, List.dedup_cons_of_mem ha, ih]
    · rw [List.dedup_cons_of_notMem ha, List.filter_cons, List.cons_append]
      by_cases hk : a = key
      · have hc : a ∈ touches ++ [key] := by simp [hk]
        rw [List.dedup_cons_of_mem hc, ih]
        simp [hk]
      · have hc : a ∉ touches ++ [key] := by simp [hk, ha]
        rw [List.dedup_cons_of_notMem hc, ih]
        simp [hk]

private theorem length_rtake (l : List String) (n : Nat) :
    (l.rtake n).length = min n l.length := by
  rw [List.rtake, List.length_drop]
  omega

private theorem rtake_of_length_le {l : List String} {n : Nat} (h : l.length ≤ n) :
    l.rtake n = l := by
  rw [List.rtake, Nat.sub_eq_zero_of_le h, List.drop_zero]

private theorem rtake_append_of_le {a b : List String} {n : Nat} (h : n ≤ b.length) :
    (a ++ b).rtake n = b.rtake n := by
  rw [List.rtake, List.rtake, List.length_append, List.drop_append]
  have h₁ : a.length + b.length - n - a.length = b.length - n := by omega
  have h₂ : a.drop (a.length + b.length - n) = [] := List.drop_eq_nil_of_le (by omega)
  rw [h₁, h₂, List.nil_append]

private theorem length_filter_ne {l : List String} (hl : l.Nodup) (h : key ∈ l) :
    (l.filter (· ≠ key)).length + 1 = l.length := by
  have herase : l.erase key = l.filter (· ≠ key) := by
    rw [hl.erase_eq_filter]
    exact List.filter_congr fun x _ => by by_cases hx : x = key <;> simp [hx]
  have hpos := List.length_pos_of_mem h
  rw [← herase, List.length_erase_of_mem h]
  omega

/-- The last `n` without a key, told by the last `n + 1`: a key among them leaves a gap; if it is
not among them, the first of them goes, unless there are fewer anyway. -/
private theorem rtake_filter_ne {l : List String} (hl : l.Nodup) (n : Nat) (key : String) :
    (l.filter (· ≠ key)).rtake n =
      if key ∈ l.rtake (n + 1) then (l.rtake (n + 1)).filter (· ≠ key)
      else if n + 1 ≤ (l.rtake (n + 1)).length then (l.rtake (n + 1)).drop 1
      else l.rtake (n + 1) := by
  obtain ⟨a, b, hab, hb⟩ : ∃ a b, l = a ++ b ∧ l.rtake (n + 1) = b :=
    ⟨_, _, (List.take_append_drop (l.length - (n + 1)) l).symm, rfl⟩
  have hlength := length_rtake l (n + 1)
  have hsum : l.length = a.length + b.length := by rw [hab, List.length_append]
  rw [hb] at hlength ⊢
  rw [hab] at hl ⊢
  obtain ⟨-, hnodup, hapart⟩ := List.nodup_append.1 hl
  rw [List.filter_append]
  by_cases hk : key ∈ b
  · have hfewer := length_filter_ne hnodup hk
    have ha : a.filter (· ≠ key) = a :=
      List.filter_eq_self.2 fun x hx => by simpa using hapart x hx key hk
    rw [if_pos hk, ha]
    by_cases hfull : n + 1 ≤ b.length
    · rw [rtake_append_of_le (by omega), rtake_of_length_le (by omega)]
    · have hnil : a = [] := List.eq_nil_of_length_eq_zero (by omega)
      rw [hnil, List.nil_append, rtake_of_length_le (by omega)]
  · have hb : b.filter (· ≠ key) = b :=
      List.filter_eq_self.2 fun x hx => by simpa using fun h : x = key => hk (h ▸ hx)
    rw [if_neg hk, hb]
    by_cases hfull : n + 1 ≤ b.length
    · have hone : b.length - n = 1 := by omega
      rw [if_pos hfull, rtake_append_of_le (by omega), List.rtake, hone]
    · have hnil : a = [] := List.eq_nil_of_length_eq_zero (by omega)
      rw [if_neg hfull, hnil, List.filter_nil, List.nil_append, rtake_of_length_le (by omega)]

namespace History

variable {h : History α} {room : Nat}

theorem nodup_recent (room : Nat) (h : History α) : (h.recent room).Nodup :=
  (List.nodup_dedup h.touches).sublist (List.drop_sublist _ _)

theorem length_recent_le (room : Nat) (h : History α) : (h.recent room).length ≤ room := by
  rw [recent, length_rtake]
  omega

/-- One more touch makes a key the most recent one. If it was not held and there is no room left,
the least recent one is dropped. -/
theorem recent_of_touch {h' : History α} (hroom : 1 ≤ room)
    (htouch : h'.touches = h.touches ++ [key]) :
    h'.recent room =
      (if key ∈ h.recent room then (h.recent room).filter (· ≠ key)
        else if room ≤ (h.recent room).length then (h.recent room).drop 1
        else h.recent room) ++ [key] := by
  obtain ⟨n, rfl⟩ : ∃ n, room = n + 1 := ⟨room - 1, by omega⟩
  rw [recent, htouch, dedup_concat, List.rtake_concat_succ,
    rtake_filter_ne (List.nodup_dedup h.touches)]
  rfl

theorem mem_recent_of_touch {h' : History α} (hroom : 1 ≤ room)
    (htouch : h'.touches = h.touches ++ [key]) : key ∈ h'.recent room := by
  rw [recent_of_touch hroom htouch]
  exact List.mem_append_right _ (List.mem_singleton_self key)

/-- A store changes what is stored under its key and under no other one. -/
theorem stored?_store (h : History α) (key other : String) (value : Option α) :
    (h.store key value).stored? other = if other = key then some value else h.stored? other := by
  unfold stored? store
  rw [List.reverse_append, List.reverse_singleton, List.singleton_append, List.lookup_cons]
  by_cases ho : other = key
  · simp [ho]
  · have hne : (other == key) = false := by simpa using ho
    rw [hne, if_neg ho]

theorem hasValue_eq_isSome (room : Nat) (h : History α) (key : String) :
    h.hasValue room key = (h.held? room key).isSome := by
  unfold hasValue held?
  split
  · next hkey => simp [hkey]
  · next hkey => simp [hkey]

/-- The value that was held before is held on, or else the one that was made. -/
theorem held?_getOrCreate (hroom : 1 ≤ room) (h : History α) (key : String) (made : α) :
    (h.after room (.getOrCreate key (.ok (some made)) : Use ε α)).held? room key =
      some ((h.held? room key).getD made) := by
  rw [after, hasValue_eq_isSome]
  cases hheld : h.held? room key with
  | none =>
    have hrecent : key ∈ ((h.read room key).store key (some made)).recent room :=
      mem_recent_of_touch hroom rfl
    rw [if_neg nofun, held?, if_pos hrecent, stored?_store, if_pos rfl]
    rfl
  | some value =>
    have hkey : key ∈ h.recent room := by
      by_contra hkey
      rw [held?, if_neg hkey] at hheld
      cases hheld
    have htouch : (h.read room key).touches = h.touches ++ [key] := if_pos hkey
    rw [if_pos Option.isSome_some, held?, if_pos (mem_recent_of_touch hroom htouch),
      Option.getD_some, ← hheld, held?, if_pos hkey]
    rfl

/-- What is stored was put there, or made. -/
theorem mem_uses_of_mem_stores {uses : List (Use ε α)}
    (h : (key, value) ∈ (ofUses room uses).stores) :
    .put key value ∈ uses ∨ .getOrCreate key (.ok value) ∈ uses := by
  induction uses using List.reverseRecOn with
  | nil => cases h
  | append_singleton uses use ih =>
    have hbefore (hold : (key, value) ∈ (ofUses room uses).stores) :
        .put key value ∈ uses ++ [use] ∨ .getOrCreate key (.ok value) ∈ uses ++ [use] :=
      (ih hold).imp (List.mem_append_left _) (List.mem_append_left _)
    have hlast : use ∈ uses ++ [use] := List.mem_append_right _ (List.mem_singleton_self use)
    rw [ofUses, List.foldl_concat, ← ofUses] at h
    cases use with
    | get other => exact hbefore h
    | put other stored =>
      rcases List.mem_append.1 h with h | h
      · exact hbefore h
      · cases List.mem_singleton.1 h
        exact .inl hlast
    | getOrCreate other made =>
      cases made with
      | error e => exact hbefore h
      | ok stored =>
        rw [after] at h
        split at h
        · exact hbefore h
        · rcases List.mem_append.1 h with h | h
          · exact hbefore h
          · cases List.mem_singleton.1 h
            exact .inr hlast
    | contains other => exact hbefore h
    | clear => cases h

end History

/-! ## Caches and their histories -/

theorem keys_without (c : Cache α) (key : String) :
    (c.without key).map (·.1) = c.keys.filter (· ≠ key) := by
  rw [keys, List.filter_map]
  rfl

theorem keys_put (c : Cache α) (key : String) (value : Option α) :
    (c.put key value).keys =
      (if key ∈ c.keys then c.keys.filter (· ≠ key)
        else if c.capacity ≤ c.keys.length then c.keys.drop 1
        else c.keys) ++ [key] := by
  have hlength : c.keys.length = c.entries.length := List.length_map _
  unfold put
  rw [keys, List.map_append]
  congr 1
  by_cases hk : key ∈ c.keys
  · rw [if_pos hk, if_pos (contains_iff.2 hk), keys_without]
  · rw [if_neg hk, if_neg (mt contains_iff.1 hk), hlength]
    split
    · exact List.map_drop
    · rfl

theorem lookup_eq_none_iff_keys : c.entries.lookup key = none ↔ key ∉ c.keys :=
  lookup_eq_none_iff_not_mem

theorem exists_lookup_of_mem_keys (h : key ∈ c.keys) :
    ∃ value, c.entries.lookup key = some value := by
  cases hl : c.entries.lookup key with
  | none => exact absurd h (lookup_eq_none_iff_keys.1 hl)
  | some value => exact ⟨value, rfl⟩

/-- A cache of the given room that holds the recent keys of a history, each with the value that
was stored last, and has counted its reads. -/
structure FollowsHistory (room : Nat) (c : Cache α) (h : History α) : Prop where
  capacity : c.capacity = room
  keys : c.keys = h.recent room
  stored : ∀ e ∈ c.entries, h.stored? e.1 = some e.2
  reads : c.hits + c.misses = h.reads

namespace FollowsHistory

variable {room : Nat} {h : History α}

theorem lookup (hc : FollowsHistory room c h) (hkey : key ∈ c.keys) :
    c.entries.lookup key = h.stored? key := by
  obtain ⟨value, hl⟩ := exists_lookup_of_mem_keys hkey
  rw [hl]
  exact (hc.stored _ (mem_of_lookup hl)).symm

theorem join_lookup (hc : FollowsHistory room c h) (key : String) :
    (c.entries.lookup key).join = h.held? room key := by
  rw [History.held?, ← hc.keys]
  split
  · next hkey => rw [hc.lookup hkey]
  · next hkey => rw [lookup_eq_none_iff_keys.2 hkey]; rfl

theorem hasValue_eq (hc : FollowsHistory room c h) (key : String) :
    c.hasValue key = h.hasValue room key := by
  rw [History.hasValue_eq_isSome, ← hc.join_lookup]
  rfl

theorem get (hc : FollowsHistory room c h) (hroom : 1 ≤ room) (key : String) :
    FollowsHistory room (c.get key).2 (h.read room key) := by
  cases hl : c.entries.lookup key with
  | none =>
    have hkey : key ∉ h.recent room := hc.keys ▸ lookup_eq_none_iff_keys.1 hl
    rw [Cache.get, hl, History.read, if_neg hkey]
    refine ⟨hc.capacity, hc.keys, hc.stored, ?_⟩
    have := hc.reads
    show c.hits + (c.misses + 1) = h.reads + 1
    omega
  | some value =>
    have hkey : key ∈ h.recent room := by
      rw [← hc.keys]
      exact List.mem_map.2 ⟨_, mem_of_lookup hl, rfl⟩
    have htouch : (h.read room key).touches = h.touches ++ [key] := by
      rw [History.read, if_pos hkey]
    have hentries : (c.get key).2.entries = c.without key ++ [(key, value)] := by
      rw [Cache.get, hl]
    have hhits : (c.get key).2.hits + (c.get key).2.misses = c.hits + c.misses + 1 := by
      rw [Cache.get, hl]
      show c.hits + 1 + c.misses = c.hits + c.misses + 1
      omega
    refine ⟨by rw [Cache.get, hl]; exact hc.capacity, ?_, ?_, ?_⟩
    · rw [History.recent_of_touch hroom htouch, if_pos hkey, ← hc.keys, ← keys_without, Cache.keys,
        hentries, List.map_append, List.map_singleton]
    · intro e he
      exact hc.stored e (mem_entries_get key he)
    · rw [hhits, hc.reads]
      rfl

theorem put (hc : FollowsHistory room c h) (hroom : 1 ≤ room) (key : String) (value : Option α) :
    FollowsHistory room (c.put key value) (h.store key value) := by
  have htouch : (h.store key value).touches = h.touches ++ [key] := rfl
  refine ⟨hc.capacity, ?_, ?_, hc.reads⟩
  · rw [keys_put, History.recent_of_touch hroom htouch, hc.capacity, hc.keys]
  · intro e he
    rw [History.stored?_store]
    rcases mem_entries_put he with ⟨hm, hne⟩ | he
    · rw [if_neg hne]
      exact hc.stored e hm
    · rw [he, if_pos rfl]

/-- A use does to the cache what it does to the history. -/
theorem after (hc : FollowsHistory room c h) (hroom : 1 ≤ room) (use : Use ε α) :
    FollowsHistory room (c.after use) (h.after room use) := by
  cases use with
  | get key => exact hc.get hroom key
  | put key value => exact hc.put hroom key value
  | getOrCreate key made =>
    have hread := hc.get hroom key
    show FollowsHistory room (c.getOrCreate key fun _ => made).2 _
    rw [getOrCreate_snd, hc.hasValue_eq]
    cases made with
    | error e => simpa [History.after] using hread
    | ok value =>
      by_cases hv : h.hasValue room key
      · simpa [History.after, hv] using hread
      · simpa [History.after, hv] using hread.put hroom key value
  | contains key => exact hc
  | clear =>
    refine ⟨hc.capacity, ?_, List.forall_mem_nil _, rfl⟩
    exact (List.rtake_nil room).symm

end FollowsHistory

section Runs

variable {room : Nat}

theorem followsHistory_empty (room : Nat) : FollowsHistory room (empty room : Cache α) .blank :=
  ⟨rfl, (List.rtake_nil room).symm, List.forall_mem_nil _, rfl⟩

/-- After every run a cache follows the history of the run. -/
theorem followsHistory_afterAll (hroom : 1 ≤ room) (uses : List (Use ε α)) :
    FollowsHistory room ((empty room).afterAll uses) (.ofUses room uses) := by
  induction uses using List.reverseRecOn with
  | nil => exact followsHistory_empty room
  | append_singleton uses use ih =>
    unfold afterAll History.ofUses at ih ⊢
    rw [List.foldl_concat, List.foldl_concat]
    exact ih.after hroom use

end Runs

/-- A read moves one entry at most. -/
theorem perm_entries_get (hc : c.keys.Nodup) (key : String) :
    (c.get key).2.entries.Perm c.entries := by
  cases hl : c.entries.lookup key with
  | none => rw [get, hl]
  | some value =>
    obtain ⟨l₁, l₂, hsplit, -⟩ := List.lookup_eq_some_iff.1 hl
    rw [keys, hsplit, List.map_append, List.map_cons, List.nodup_middle, List.nodup_cons] at hc
    have hother : ∀ e ∈ l₁ ++ l₂, e.1 ≠ key := by
      intro e he hk
      exact hc.1 (by rw [← hk, ← List.map_append]; exact List.mem_map.2 ⟨e, he, rfl⟩)
    have hwithout : c.without key = l₁ ++ l₂ := by
      have hself : (l₁ ++ l₂).filter (·.1 ≠ key) = l₁ ++ l₂ :=
        List.filter_eq_self.2 fun e he => by simpa using hother e he
      rw [List.filter_append] at hself
      rw [without, hsplit, List.filter_append, List.filter_cons_of_neg (by simp), hself]
    rw [get, hl]
    show (c.without key ++ [(key, value)]).Perm c.entries
    rw [hwithout, hsplit, List.append_assoc]
    exact List.Perm.append_left l₁ (List.perm_append_singleton _ _)

/-- What a cache that was made anew holds after a run, and how the uses of it go on from there. Its
keys are the recent ones of the history, with the values that were stored last. Asking whether a
key is held changes nothing. A maker is called exactly if no value is held; if the maker fails, the
cache is left as the read leaves it, with the same entries. -/
theorem create_follows_history {size : Int} (hsize : 1 ≤ size) (uses : List (Use ε α)) :
    ∃ new : Cache α, create size = .ok new ∧
      let c := new.afterAll uses
      let past := History.ofUses size.toNat uses
      c.keys.Nodup ∧ c.keys.length ≤ size.toNat ∧ c.keys = past.recent size.toNat ∧
      (∀ key ∈ c.keys, ∃ value, c.entries.lookup key = some value ∧
        past.stored? key = some value) ∧
      c.hits + c.misses = past.reads ∧
      (∀ key, c.after (.contains key : Use ε α) = c) ∧
      ∀ (σ : Type) (key : String) (make : σ → Except ε (Option α) × σ) (world : σ),
        let run := c.getOrCreateIn key make world
        run.1.2 = c.after (.getOrCreate key (make world).1) ∧
        run.2 = (if c.hasValue key then world else (make world).2) ∧
        ∀ e, (make world).1 = .error e →
          run.1.2 = (c.get key).2 ∧ (c.get key).2.entries.Perm c.entries := by
  have hroom : 1 ≤ size.toNat := by omega
  refine ⟨empty size.toNat, if_neg (by omega), ?_⟩
  have hc := followsHistory_afterAll (α := α) hroom uses
  intro c past
  have hnodup : c.keys.Nodup := by
    rw [hc.keys]
    exact History.nodup_recent _ _
  refine ⟨hnodup, ?_, hc.keys, ?_, hc.reads, fun _ => rfl, ?_⟩
  · rw [hc.keys]
    exact History.length_recent_le _ _
  · intro key hkey
    obtain ⟨value, hl⟩ := exists_lookup_of_mem_keys hkey
    exact ⟨value, hl, hc.lookup hkey ▸ hl⟩
  · intro σ key make world run
    have hrun : run = _ := getOrCreateIn_eq c key make world
    refine ⟨by rw [hrun]; rfl, by rw [hrun], fun e he => ⟨?_, perm_entries_get hnodup key⟩⟩
    rw [hrun]
    show (c.getOrCreate key fun _ => (make world).1).2 = _
    rw [getOrCreate_snd, he]
    cases c.hasValue key <;> rfl

/-- Room for two: the read of `a` keeps it when `c` comes, which cannot be made at first. -/
theorem create_follows_history_two :
    let uses : List (Use String Nat) := [
      .put "x" none, .clear, .get "a", .put "a" (some 1), .put "b" none, .get "a",
      .getOrCreate "c" (.error "no"), .getOrCreate "c" (.ok (some 3)), .contains "b",
      .getOrCreate "a" (.ok (some 9))]
    1 ≤ (2 : Int) ∧ ∃ new : Cache Nat, create 2 = .ok new ∧
      (new.afterAll uses).keys = ["c", "a"] ∧ (History.ofUses 2 uses).touches =
        ["a", "b", "a", "c", "a"] ∧ (new.afterAll uses).hits + (new.afterAll uses).misses = 5 := by
  intro uses
  obtain ⟨new, hnew, -, -, hkeys, -, hreads, -⟩ :=
    create_follows_history (show 1 ≤ (2 : Int) by decide) uses
  exact ⟨by decide, new, hnew, hkeys.trans (by decide), by decide, hreads.trans (by decide)⟩

end Reflow.Cache
