/-!
# Maps with text keys

A `KeyMap` holds its entries in ascending order of keys, each key once, so equal maps have equal
entry lists.  Keys are compared by their characters, which is the order of their UTF-8 octets.

`KeyMap.sort` brings any list of entries into that order; of several entries with one key the last
one counts.
-/

namespace HubSpoke

/-- A finite map from texts, kept in ascending order of keys. -/
structure KeyMap (α : Type) where
  entries : List (String × α)
  ascending : (entries.map Prod.fst).Pairwise (· < ·)
deriving DecidableEq, Repr

namespace KeyMap

variable {α β : Type}

/-! ## Ordered entry lists -/

/-- Adds an entry to entries that come later: a key they already hold wins. -/
def addEarlier (key : String) (value : α) : List (String × α) → List (String × α)
  | [] => [(key, value)]
  | (other, held) :: rest =>
      if key < other then (key, value) :: (other, held) :: rest
      else if other < key then (other, held) :: addEarlier key value rest
      else (other, held) :: rest

/-- Entries in ascending order of keys, the last of several equal keys kept. -/
def sort : List (String × α) → List (String × α)
  | [] => []
  | (key, value) :: rest => addEarlier key value (sort rest)

/-- Puts an entry into an ordered list, replacing the one under the same key. -/
def put (key : String) (value : α) : List (String × α) → List (String × α)
  | [] => [(key, value)]
  | (other, held) :: rest =>
      if key < other then (key, value) :: (other, held) :: rest
      else if other < key then (other, held) :: put key value rest
      else (other, value) :: rest

theorem key_of_mem_addEarlier {key k : String} {value : α} {entries : List (String × α)}
    (h : k ∈ (addEarlier key value entries).map Prod.fst) :
    k = key ∨ k ∈ entries.map Prod.fst := by
  induction entries with
  | nil => simpa [addEarlier] using h
  | cons entry rest ih =>
      simp only [addEarlier] at h
      split at h
      · simpa using h
      · split at h
        · simp only [List.map_cons, List.mem_cons] at h ⊢
          rcases h with h | h
          · exact .inr (.inl h)
          · exact (ih h).imp_right .inr
        · exact .inr h

theorem ascending_addEarlier {key : String} {value : α} {entries : List (String × α)}
    (h : (entries.map Prod.fst).Pairwise (· < ·)) :
    ((addEarlier key value entries).map Prod.fst).Pairwise (· < ·) := by
  induction entries with
  | nil => simp [addEarlier]
  | cons entry rest ih =>
      obtain ⟨hhead, hrest⟩ := List.pairwise_cons.1 h
      simp only [addEarlier]
      split
      · rename_i hlt
        refine List.pairwise_cons.2 ⟨fun k hk => ?_, h⟩
        rcases List.mem_cons.1 hk with rfl | hk
        · exact hlt
        · exact String.lt_trans hlt (hhead k hk)
      · split
        · rename_i hgt
          refine List.pairwise_cons.2 ⟨fun k hk => ?_, ih hrest⟩
          rcases key_of_mem_addEarlier hk with rfl | hk
          · exact hgt
          · exact hhead k hk
        · exact h

theorem ascending_sort (entries : List (String × α)) :
    ((sort entries).map Prod.fst).Pairwise (· < ·) := by
  induction entries with
  | nil => exact .nil
  | cons entry rest ih => exact ascending_addEarlier ih

theorem key_of_mem_put {key k : String} {value : α} {entries : List (String × α)}
    (h : k ∈ (put key value entries).map Prod.fst) :
    k = key ∨ k ∈ entries.map Prod.fst := by
  induction entries with
  | nil => simpa [put] using h
  | cons entry rest ih =>
      simp only [put] at h
      split at h
      · simpa using h
      · split at h
        · simp only [List.map_cons, List.mem_cons] at h ⊢
          rcases h with h | h
          · exact .inr (.inl h)
          · exact (ih h).imp_right .inr
        · exact .inr h

theorem ascending_put {key : String} {value : α} {entries : List (String × α)}
    (h : (entries.map Prod.fst).Pairwise (· < ·)) :
    ((put key value entries).map Prod.fst).Pairwise (· < ·) := by
  induction entries with
  | nil => simp [put]
  | cons entry rest ih =>
      obtain ⟨hhead, hrest⟩ := List.pairwise_cons.1 h
      simp only [put]
      split
      · rename_i hlt
        refine List.pairwise_cons.2 ⟨fun k hk => ?_, h⟩
        rcases List.mem_cons.1 hk with rfl | hk
        · exact hlt
        · exact String.lt_trans hlt (hhead k hk)
      · split
        · rename_i hgt
          refine List.pairwise_cons.2 ⟨fun k hk => ?_, ih hrest⟩
          rcases key_of_mem_put hk with rfl | hk
          · exact hgt
          · exact hhead k hk
        · exact h

/-! ## Maps -/

/-- The map without entries. -/
def empty : KeyMap α := ⟨[], .nil⟩

instance : Inhabited (KeyMap α) := ⟨empty⟩

/-- The map has no entries. -/
def isEmpty (m : KeyMap α) : Bool := m.entries.isEmpty

/-- The map of a list of entries, the last of several equal keys kept. -/
def ofList (entries : List (String × α)) : KeyMap α :=
  ⟨sort entries, ascending_sort entries⟩

/-- The value under a key. -/
def find? (m : KeyMap α) (key : String) : Option α :=
  m.entries.lookup key

/-- The map with a value put under a key. -/
def insert (m : KeyMap α) (key : String) (value : α) : KeyMap α :=
  ⟨put key value m.entries, ascending_put m.ascending⟩

/-- The map without a key. -/
def erase (m : KeyMap α) (key : String) : KeyMap α :=
  ⟨m.entries.filter fun entry => entry.1 != key,
    m.ascending.sublist (List.filter_sublist.map _)⟩

/-- The map with a function applied to every value. -/
def mapValues (f : α → β) (m : KeyMap α) : KeyMap β :=
  ⟨m.entries.map fun entry => (entry.1, f entry.2), by
    simpa [Function.comp_def] using m.ascending⟩

/-- The keys, in ascending order. -/
def keys (m : KeyMap α) : List String := m.entries.map Prod.fst

end KeyMap

end HubSpoke
