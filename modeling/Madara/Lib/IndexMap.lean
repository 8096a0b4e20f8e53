import Mathlib.Data.List.Perm.Basic
import Mathlib.Data.List.Nodup
import Mathlib.Data.List.TakeWhile
import Mathlib.Data.Finset.Card

/-! Insertion-ordered maps, as the `indexmap` crate keeps them: the entries in
the order their keys were first inserted, no key twice. Inserting a present
key changes its value in place and a new key goes last; `swapRemove` takes a
key out by moving the last entry into its slot, so the order of what remains
changes but not its contents (`swapRemove_perm`).

Lookups are stated through membership (`get_eq_some_iff`), so that any two
maps whose entries are permutations of each other answer alike
(`get_eq_of_perm`). -/

/-- An insertion-ordered map: its entries in order, no key twice. -/
structure IndexMap (κ ν : Type) where
  entries : List (κ × ν)
  nodup : (entries.map Prod.fst).Nodup

namespace IndexMap

section Keys

variable {κ ν : Type}

/-- The empty map. -/
def empty : IndexMap κ ν := ⟨[], List.nodup_nil⟩

/-- The keys, in order. -/
def keys (m : IndexMap κ ν) : List κ := m.entries.map Prod.fst

/-- The number of entries. -/
def len (m : IndexMap κ ν) : Nat := m.entries.length

theorem keys_nodup (m : IndexMap κ ν) : m.keys.Nodup := m.nodup

end Keys

variable {κ ν : Type} [DecidableEq κ]

/-- The value of a key. -/
def get (m : IndexMap κ ν) (k : κ) : Option ν := m.entries.lookup k

theorem lookup_eq_some_iff {entries : List (κ × ν)} (nodup : (entries.map Prod.fst).Nodup) {k : κ} {v : ν} :
    entries.lookup k = some v ↔ (k, v) ∈ entries := by
  induction entries with
  | nil => simp
  | cons entry rest ih =>
    obtain ⟨key, value⟩ := entry
    rw [List.map_cons, List.nodup_cons] at nodup
    by_cases same : k = key
    · subst same
      -- the key is not in the rest, so the head is its only entry
      have absent : ∀ other, (k, other) ∉ rest := fun other member =>
        nodup.1 (List.mem_map.mpr ⟨(k, other), member, rfl⟩)
      simp only [List.lookup_cons_self, Option.some.injEq, List.mem_cons, Prod.mk.injEq, true_and]
      constructor
      · intro found
        exact Or.inl found.symm
      · rintro (found | later)
        · exact found.symm
        · exact absurd later (absent v)
    · have differ : (k == key) = false := by simpa using same
      rw [List.lookup_cons, differ, ih nodup.2]
      simp [same]

theorem get_eq_some_iff (m : IndexMap κ ν) {k : κ} {v : ν} : m.get k = some v ↔ (k, v) ∈ m.entries :=
  lookup_eq_some_iff m.nodup

/-- Maps with the same entries in any order answer every lookup alike. -/
theorem get_eq_of_perm {m m' : IndexMap κ ν} (perm : m.entries.Perm m'.entries) (k : κ) : m.get k = m'.get k := by
  apply Option.ext
  intro v
  rw [get_eq_some_iff, get_eq_some_iff, perm.mem_iff]

/-- `IndexMap::insert`: a present key gets the new value in its place, a new
key goes last. -/
def insert (m : IndexMap κ ν) (k : κ) (v : ν) : IndexMap κ ν :=
  if present : k ∈ m.keys then
    ⟨m.entries.map (fun entry => if entry.1 = k then (k, v) else entry), by
      have sameKeys : (m.entries.map (fun entry => if entry.1 = k then (k, v) else entry)).map Prod.fst =
          m.entries.map Prod.fst := by
        rw [List.map_map]
        apply List.map_congr_left
        intro entry _
        by_cases hit : entry.1 = k
        · simp [hit]
        · simp [hit]
      rw [sameKeys]
      exact m.nodup⟩
  else
    ⟨m.entries ++ [(k, v)], by
      rw [List.map_append, List.nodup_append]
      refine ⟨m.nodup, List.nodup_singleton _, ?_⟩
      intro key member other single same
      simp only [List.map_cons, List.map_nil, List.mem_singleton] at single
      rw [same, single] at member
      exact present member⟩

theorem keys_insert (m : IndexMap κ ν) (k : κ) (v : ν) :
    (m.insert k v).keys = if k ∈ m.keys then m.keys else m.keys ++ [k] := by
  unfold insert keys
  by_cases present : k ∈ m.entries.map Prod.fst
  · rw [dif_pos present, if_pos present, List.map_map]
    apply List.map_congr_left
    intro entry _
    by_cases hit : entry.1 = k
    · simp [hit]
    · simp [hit]
  · rw [dif_neg present, if_neg present, List.map_append]
    rfl

/-- After an insert the key holds the new value and every other key its old
one. -/
theorem get_insert (m : IndexMap κ ν) (k k' : κ) (v : ν) :
    (m.insert k v).get k' = if k' = k then some v else m.get k' := by
  apply Option.ext
  intro w
  rw [get_eq_some_iff]
  unfold insert
  by_cases same : k' = k
  · subst same
    rw [if_pos rfl, Option.some.injEq]
    by_cases present : k' ∈ m.keys
    · rw [dif_pos present, List.mem_map]
      constructor
      · rintro ⟨entry, _, replaced⟩
        by_cases hit : entry.1 = k'
        · rw [if_pos hit, Prod.mk.injEq] at replaced
          exact replaced.2
        · rw [if_neg hit] at replaced
          exact absurd (congrArg Prod.fst replaced) hit
      · rintro rfl
        obtain ⟨entry, member, hit⟩ := List.mem_map.mp present
        exact ⟨entry, member, by rw [if_pos hit]⟩
    · rw [dif_neg present, List.mem_append, List.mem_singleton, Prod.mk.injEq]
      constructor
      · rintro (member | ⟨-, written⟩)
        · exact absurd (List.mem_map_of_mem member) present
        · exact written.symm
      · rintro rfl
        exact Or.inr ⟨rfl, rfl⟩
  · rw [if_neg same, get_eq_some_iff]
    split
    · rw [List.mem_map]
      constructor
      · rintro ⟨entry, member, replaced⟩
        by_cases hit : entry.1 = k
        · rw [if_pos hit, Prod.mk.injEq] at replaced
          exact absurd replaced.1.symm same
        · rw [if_neg hit] at replaced
          exact replaced ▸ member
      · intro member
        exact ⟨(k', w), member, by rw [if_neg same]⟩
    · rw [List.mem_append, List.mem_singleton, Prod.mk.injEq]
      constructor
      · rintro (member | ⟨written, -⟩)
        · exact member
        · exact absurd written same
      · exact Or.inl

theorem takeWhile_key {entries : List (κ × ν)} {k : κ} {entry : κ × ν}
    (member : entry ∈ entries.takeWhile fun entry => entry.1 ≠ k) : entry.1 ≠ k := by
  simpa using List.mem_takeWhile_imp member

theorem dropWhile_key {entries after : List (κ × ν)} {k key : κ} {value : ν}
    (found : entries.dropWhile (fun entry => entry.1 ≠ k) = (key, value) :: after) : key = k := by
  have head := List.head_dropWhile_not (p := fun entry : κ × ν => decide (entry.1 ≠ k)) (l := entries)
  rw [found] at head
  have stops := head (List.cons_ne_nil _ _)
  simp only [List.head_cons] at stops
  exact not_not.mp (of_decide_eq_false stops)

/-- The entries left when the entry of `k` is taken out by `swap_remove`: the
last entry moves into its slot. Nothing changes when `k` is absent. -/
def swapRemoveEntries (entries : List (κ × ν)) (k : κ) : Option ν × List (κ × ν) :=
  match entries.dropWhile (fun entry => entry.1 ≠ k) with
  | [] => (none, entries)
  | (_, value) :: after =>
    (some value, entries.takeWhile (fun entry => entry.1 ≠ k) ++
      match after.getLast? with
      | none => []
      | some last => last :: after.dropLast)

theorem swapRemoveEntries_perm (entries : List (κ × ν)) (nodup : (entries.map Prod.fst).Nodup) (k : κ) :
    (swapRemoveEntries entries k).2.Perm (entries.filter fun entry => entry.1 ≠ k) := by
  have split := List.takeWhile_append_dropWhile (p := fun entry : κ × ν => decide (entry.1 ≠ k)) (l := entries)
  unfold swapRemoveEntries
  split
  · next rest absent =>
    -- no entry has the key: the filter keeps everything
    rw [absent, List.append_nil] at split
    have kept : ∀ entry ∈ entries, entry.1 ≠ k := by
      intro entry member
      rw [← split] at member
      exact takeWhile_key member
    rw [List.filter_eq_self.mpr (fun entry member => by simpa using kept entry member)]
  · next rest key value after found =>
    -- the entry of the key sits between the prefix without it and the rest
    have before : ∀ entry ∈ entries.takeWhile (fun entry => entry.1 ≠ k), entry.1 ≠ k :=
      fun entry member => takeWhile_key member
    have hit : key = k := dropWhile_key found
    subst hit
    rw [found] at split
    have nodupSplit := nodup
    rw [← split, List.map_append, List.map_cons, List.nodup_append] at nodupSplit
    have outside : ∀ entry ∈ after, entry.1 ≠ key := by
      intro entry member same
      exact (List.nodup_cons.mp nodupSplit.2.1).1 (List.mem_map.mpr ⟨entry, member, same⟩)
    have filtered : entries.filter (fun entry => entry.1 ≠ key) =
        entries.takeWhile (fun entry => entry.1 ≠ key) ++ after := by
      conv_lhs => rw [← split]
      rw [List.filter_append, List.filter_cons_of_neg (by simp),
        List.filter_eq_self.mpr (fun entry member => by simpa using before entry member),
        List.filter_eq_self.mpr (fun entry member => by simpa using outside entry member)]
    rw [filtered]
    apply List.Perm.append_left
    cases lastOf : after.getLast? with
    | none =>
      rw [List.getLast?_eq_none_iff] at lastOf
      rw [lastOf]
    | some last =>
      -- the last entry moved to the front of the rest
      have whole : after = after.dropLast ++ [last] := by
        rw [List.getLast?_eq_some_iff] at lastOf
        obtain ⟨front, spelled⟩ := lastOf
        rw [spelled, List.dropLast_concat]
      dsimp only
      conv_rhs => rw [whole]
      exact (List.perm_append_singleton last after.dropLast).symm

/-- `IndexMap::swap_remove` (and `remove`, its alias): the value of `k`, and
the map without it. -/
def swapRemove (m : IndexMap κ ν) (k : κ) : Option ν × IndexMap κ ν :=
  ((swapRemoveEntries m.entries k).1, ⟨(swapRemoveEntries m.entries k).2, by
    have perm := (swapRemoveEntries_perm m.entries m.nodup k).map Prod.fst
    exact perm.nodup_iff.mpr (m.nodup.sublist ((List.filter_sublist).map Prod.fst))⟩)

theorem swapRemove_perm (m : IndexMap κ ν) (k : κ) :
    (m.swapRemove k).2.entries.Perm (m.entries.filter fun entry => entry.1 ≠ k) :=
  swapRemoveEntries_perm m.entries m.nodup k

theorem swapRemoveEntries_fst (entries : List (κ × ν)) (nodup : (entries.map Prod.fst).Nodup) (k : κ) :
    (swapRemoveEntries entries k).1 = entries.lookup k := by
  have split := List.takeWhile_append_dropWhile (p := fun entry : κ × ν => decide (entry.1 ≠ k)) (l := entries)
  unfold swapRemoveEntries
  split
  · next rest absent =>
    -- no entry has the key
    rw [absent, List.append_nil] at split
    cases found : entries.lookup k with
    | none => rfl
    | some value =>
      have member := (lookup_eq_some_iff nodup).mp found
      rw [← split] at member
      exact absurd rfl (takeWhile_key member)
  · next rest key value after found =>
    have hit : key = k := dropWhile_key found
    subst hit
    symm
    rw [lookup_eq_some_iff nodup, ← split, found]
    exact List.mem_append_right _ List.mem_cons_self

/-- `swap_remove` hands back the value the key had. -/
theorem swapRemove_fst (m : IndexMap κ ν) (k : κ) : (m.swapRemove k).1 = m.get k :=
  swapRemoveEntries_fst m.entries m.nodup k

/-- `swap_remove` leaves the other keys' values alone. -/
theorem get_swapRemove (m : IndexMap κ ν) {k k' : κ} (other : k' ≠ k) :
    (m.swapRemove k).2.get k' = m.get k' := by
  apply Option.ext
  intro v
  rw [get_eq_some_iff, get_eq_some_iff, (swapRemove_perm m k).mem_iff, List.mem_filter]
  simp [other]

end IndexMap

/-- An insertion-ordered set, as `indexmap` builds `IndexSet`: a map to `()`. -/
abbrev IndexSet (κ : Type) := IndexMap κ Unit

namespace IndexSet

variable {κ : Type} [DecidableEq κ]

/-- `IndexSet::insert`. -/
def insert (s : IndexSet κ) (k : κ) : IndexSet κ := IndexMap.insert s k ()

theorem keys_toFinset_insert (s : IndexSet κ) (k : κ) :
    (s.insert k).keys.toFinset = Insert.insert k s.keys.toFinset := by
  unfold insert
  rw [IndexMap.keys_insert]
  split
  · next present => rw [Finset.insert_eq_of_mem (List.mem_toFinset.mpr present)]
  · rw [List.toFinset_append, List.toFinset_cons, List.toFinset_nil, Finset.union_comm]
    rfl

/-- The length of a set is the number of its distinct elements. -/
theorem len_eq_card (s : IndexSet κ) : s.len = s.keys.toFinset.card := by
  rw [List.toFinset_card_of_nodup s.keys_nodup, IndexMap.keys, List.length_map]
  rfl

end IndexSet
