import Mathlib.Order.Lattice
import Mathlib.Data.List.Dedup
import Mathlib.Data.List.AList

/-! Finite maps as association lists: in-place update of an entry, and iteration in
an order that the caller of the map does not control. -/

namespace Visor.Library
open List
universe u v

abbrev KeyedMap (Key : Type u) (Value : Type v) := AList fun _ : Key => Value

namespace KeyedMap
variable {Key : Type u} {Value : Type v} [DecidableEq Key] {Result : Type v}
  (map : KeyedMap Key Value) (select : Key → Value → Option Result)

def modify (map : KeyedMap Key Value) (key : Key) (update : Value → Value) : KeyedMap Key Value :=
  match map.lookup key with
  | none => map
  | some value => map.insert key (update value)

section
variable (map : KeyedMap Key Value) (test : (_ : Key) × Value → Bool)

@[simp] theorem lookup_modify (key : Key) (update : Value → Value) (other : Key) :
    (map.modify key update).lookup other =
    if other = key then (map.lookup key).map update else map.lookup other := by
  unfold modify
  by_cases same : other = key
  · subst same
    cases present : map.lookup other with
    | none => simp [present]
    | some => simp
  · cases present : map.lookup key with
    | none | some => simp [same]

@[simp] theorem lookup_erase_eq (key other : Key) :
    (map.erase key).lookup other = if other = key then none else map.lookup other := by
  by_cases same : other = key
  · subst same
    simp
  · simp [same]

@[simp] theorem lookup_insert_eq (key other : Key) (value : Value) :
    (map.insert key value).lookup other = if other = key then some value else map.lookup other := by
  by_cases same : other = key
  · subst same
    simp
  · simp [same]

theorem mem_entries_iff (key : Key) (value : Value) :
    ⟨key, value⟩ ∈ map.entries ↔ map.lookup key = some value :=
  (AList.mem_lookup_iff (s := map)).symm

theorem all_entries_iff : map.entries.all test = true ↔ ∀ key value, map.lookup key = some value →
    test ⟨key, value⟩ = true := by
  rw [all_eq_true]
  constructor
  · intro every key value found
    exact every ⟨key, value⟩ ((mem_entries_iff map key value).mpr found)
  · rintro every ⟨key, value⟩ member
    exact every key value ((mem_entries_iff map key value).mp member)

theorem any_entries_iff : map.entries.any test = true ↔ ∃ key value, map.lookup key = some value ∧
    test ⟨key, value⟩ = true := by
  rw [any_eq_true]
  constructor
  · rintro ⟨⟨key, value⟩, member, holds⟩
    exact ⟨key, value, (mem_entries_iff map key value).mp member, holds⟩
  · rintro ⟨key, value, found, holds⟩
    exact ⟨⟨key, value⟩, (mem_entries_iff map key value).mpr found, holds⟩

theorem mem_keys_iff (key : Key) : key ∈ map.keys ↔ (map.lookup key).isSome = true := by
  rw [AList.lookup_isSome, AList.mem_keys]

end

def filterMap : KeyedMap Key Result :=
  map.entries.foldr (fun entry rest =>
    match select entry.1 entry.2 with
    | none => rest
    | some result => rest.insert entry.1 result) ∅

@[simp] theorem lookup_filterMap (key : Key) :
    (map.filterMap select).lookup key = (map.lookup key).bind (select key) := by
  obtain ⟨entries, distinct⟩ := map
  induction entries with
  | nil => rfl
  | cons entry rest ih =>
    obtain ⟨first, value⟩ := entry
    obtain ⟨fresh, distinctRest⟩ := nodupKeys_cons.mp distinct
    have later := ih distinctRest
    simp only [filterMap, AList.lookup, foldr_cons] at later ⊢
    by_cases same : key = first
    · subst same
      have absent : dlookup key rest = none := dlookup_eq_none.mpr fresh
      rw [dlookup_cons_eq, Option.bind_some]
      cases selected : select key value with
      | none => simpa [absent] using later
      | some => exact AList.lookup_insert _
    · rw [dlookup_cons_ne _ _ same, ← later]
      cases selected : select first value with
      | none => rfl
      | some => exact AList.lookup_insert_ne same

/-- The keys in iteration order: those the order names first, then the others. -/
def iterate (order : List Key) : List Key :=
  order.dedup.filter (· ∈ map.keys) ++ map.keys.filter (· ∉ order)

end KeyedMap

/-! Finite sets kept as lists in increasing order. -/

variable {α : Type}
section Insert
variable [DecidableEq α] [LT α] [DecidableLT α]

def sortedInsert (value : α) : List α → List α
  | [] => [value]
  | first :: rest =>
    if value = first then first :: rest
    else if value < first then value :: first :: rest
    else first :: sortedInsert value rest

def sortedOfList (values : List α) : List α := values.foldl (fun set value => sortedInsert value set) []

theorem mem_sortedInsert {value other : α} {set : List α} :
    other ∈ sortedInsert value set ↔ other = value ∨ other ∈ set := by
  induction set with
  | nil => simp [sortedInsert]
  | cons first rest ih =>
    rw [sortedInsert]
    split
    next same =>
      simp [same]
    · split
      · simp
      · simp only [mem_cons, ih]
        tauto

theorem mem_sortedOfList {values : List α} {value : α} : value ∈ sortedOfList values ↔ value ∈ values := by
  have general (set : List α) : value ∈ values.foldl (fun set value => sortedInsert value set) set ↔
    value ∈ values ∨ value ∈ set := by
    induction values generalizing set with
    | nil => simp
    | cons first rest ih =>
      rw [foldl_cons, ih, mem_sortedInsert, mem_cons]
      tauto
  rw [sortedOfList, general]
  simp

theorem sortedOfList_eq_nil_iff {values : List α} : sortedOfList values = [] ↔ values = [] := by
  simp only [eq_nil_iff_forall_not_mem, mem_sortedOfList]

end Insert

section Order
variable [LinearOrder α]

private theorem sortedInsert_pairwise {value : α} {set : List α} (sorted : set.Pairwise (· < ·)) :
    (sortedInsert value set).Pairwise (· < ·) := by
  induction set with
  | nil => simp [sortedInsert]
  | cons first rest ih =>
    obtain ⟨below, restSorted⟩ := pairwise_cons.mp sorted
    rw [sortedInsert]
    split
    · exact sorted
    next differ =>
      split
      next less =>
        refine pairwise_cons.mpr ⟨?_, sorted⟩
        rintro other (_ | ⟨_, mem⟩)
        · exact less
        · exact lt_trans less (below other mem)
      next notLess =>
        refine pairwise_cons.mpr ⟨?_, ih restSorted⟩
        intro other mem
        rcases mem_sortedInsert.mp mem with rfl | old
        · exact lt_of_le_of_ne (not_lt.mp notLess) (Ne.symm differ)
        · exact below other old

theorem sortedOfList_pairwise (values : List α) : (sortedOfList values).Pairwise (· < ·) := by
  have general (set : List α) (sorted : set.Pairwise (· < ·)) :
    (values.foldl (fun set value => sortedInsert value set) set).Pairwise (· < ·) := by
    induction values generalizing set with
    | nil => exact sorted
    | cons first rest ih => exact ih _ (sortedInsert_pairwise sorted)
  exact general [] List.Pairwise.nil

end Order
end Visor.Library
