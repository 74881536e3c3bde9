import HubSpoke.KeyMap

/-!
# Looking up in ordered entry lists

Everything that is known of an ordered entry list is what it answers to look-ups: two ascending
lists with the same answers are equal (`eq_of_lookup`).  So each operation on maps is described by
its look-ups, and equations between maps follow from equations between answers.

`sort_eq_of_perm` is what the written forms of objects rest on: sorting any rearrangement of an
ascending list gives that list back.
-/

namespace HubSpoke.KeyMap

variable {α β : Type}

/-! ## Look-ups in entry lists -/

theorem lookup_entry (key : String) (entry : String × α) (rest : List (String × α)) :
    (entry :: rest).lookup key = if key = entry.1 then some entry.2 else rest.lookup key := by
  rw [List.lookup_cons]
  split
  · rename_i heq
    rw [if_pos (beq_iff_eq.mp heq)]
  · rename_i heq
    rw [if_neg (beq_eq_false_iff_ne.mp heq)]

theorem lookup_eq_none_of_lt {key : String} {entries : List (String × α)}
    (h : ∀ k ∈ entries.map Prod.fst, key < k) : entries.lookup key = none := by
  induction entries with
  | nil => rfl
  | cons entry rest ih =>
      have hne : key ≠ entry.1 := by
        intro heq
        exact String.lt_irrefl key (heq ▸ h entry.1 (by simp))
      have hrest : rest.lookup key = none := ih fun k hk => h k (by simp [hk])
      simpa [lookup_entry, hne] using hrest

theorem lookup_eq_none_of_not_mem {key : String} {entries : List (String × α)}
    (h : key ∉ entries.map Prod.fst) : entries.lookup key = none := by
  induction entries with
  | nil => rfl
  | cons entry rest ih =>
      simp only [List.map_cons, List.mem_cons, not_or] at h
      simpa [lookup_entry, h.1] using ih h.2

theorem mem_of_lookup {key : String} {value : α} {entries : List (String × α)}
    (h : entries.lookup key = some value) : (key, value) ∈ entries := by
  induction entries with
  | nil => simp at h
  | cons entry rest ih =>
      by_cases hkey : key = entry.1
      · subst hkey
        obtain rfl : entry.2 = value := by simpa [lookup_entry] using h
        simp
      · rw [lookup_entry, if_neg hkey] at h
        exact List.mem_cons_of_mem _ (ih h)

theorem lookup_of_mem {key : String} {value : α} {entries : List (String × α)}
    (hnodup : (entries.map Prod.fst).Nodup) (h : (key, value) ∈ entries) :
    entries.lookup key = some value := by
  induction entries with
  | nil => simp at h
  | cons entry rest ih =>
      rw [List.map_cons, List.nodup_cons] at hnodup
      rcases List.mem_cons.mp h with rfl | hrest
      · simp
      · have hne : key ≠ entry.1 := by
          intro heq
          exact hnodup.1 (heq ▸ List.mem_map_of_mem (f := Prod.fst) hrest)
        simpa [lookup_entry, hne] using ih hnodup.2 hrest

theorem lookup_map_values {key : String} {entries : List (String × α)} (f : α → β) :
    (entries.map fun entry => (entry.1, f entry.2)).lookup key = (entries.lookup key).map f := by
  induction entries with
  | nil => rfl
  | cons entry rest ih =>
      by_cases hkey : key = entry.1
      · simp [lookup_entry, hkey]
      · simpa [lookup_entry, hkey] using ih

/-- Of the entries whose keys pass, each answers as before. -/
theorem lookup_filter {key : String} {entries : List (String × α)} (keep : String → Bool) :
    (entries.filter fun entry => keep entry.1).lookup key =
      if keep key then entries.lookup key else none := by
  induction entries with
  | nil => simp
  | cons entry rest ih =>
      by_cases hkey : key = entry.1
      · subst hkey
        cases hkeep : keep entry.1 <;> simp [hkeep, ih, lookup_entry]
      · cases hkeep : keep entry.1 <;> simp [hkeep, ih, lookup_entry, hkey]

/-- An entry list that ascends holds each key once. -/
theorem nodup_of_ascending {keys : List String} (h : keys.Pairwise (· < ·)) : keys.Nodup :=
  List.Pairwise.imp (fun hlt => by rintro rfl; exact String.lt_irrefl _ hlt) h

/-- A list does not begin before an ascending one that answers the same. -/
theorem least_key_le {entry other : String × α} {rest more : List (String × α)}
    (hmore : ∀ k ∈ more.map Prod.fst, other.1 < k)
    (h : ∀ key, (entry :: rest).lookup key = (other :: more).lookup key) : other.1 ≤ entry.1 := by
  rw [← String.not_lt]
  intro hlt
  have hnone : (other :: more).lookup entry.1 = none := by
    apply lookup_eq_none_of_lt
    intro k hk
    rcases List.mem_cons.mp hk with rfl | hk
    · exact hlt
    · exact String.lt_trans hlt (hmore k hk)
  simp [← h, lookup_entry] at hnone

/-- Ascending lists that answer alike are equal. -/
theorem eq_of_lookup {first second : List (String × α)}
    (hfirst : (first.map Prod.fst).Pairwise (· < ·))
    (hsecond : (second.map Prod.fst).Pairwise (· < ·))
    (h : ∀ key, first.lookup key = second.lookup key) : first = second := by
  induction first generalizing second with
  | nil =>
      cases second with
      | nil => rfl
      | cons entry rest => simpa [lookup_entry] using h entry.1
  | cons entry rest ih =>
      cases second with
      | nil => simpa [lookup_entry] using h entry.1
      | cons other more =>
          obtain ⟨hhead, hrest⟩ := List.pairwise_cons.mp hfirst
          obtain ⟨hhead', hmore⟩ := List.pairwise_cons.mp hsecond
          -- the least keys agree: a lesser one would be answered by one list only
          have hkey : entry.1 = other.1 :=
            String.le_antisymm (least_key_le hhead fun key => (h key).symm) (least_key_le hhead' h)
          have hvalue : entry.2 = other.2 := by
            have := h entry.1
            simpa [lookup_entry, hkey] using this
          have htail : rest = more := by
            refine ih hrest hmore fun key => ?_
            by_cases hk : key = entry.1
            · rw [hk, lookup_eq_none_of_lt hhead, hkey, lookup_eq_none_of_lt hhead']
            · have hk' : key ≠ other.1 := hkey ▸ hk
              simpa [lookup_entry, hk, hk'] using h key
          rw [htail, Prod.ext hkey hvalue]

/-! ## Sorting -/

theorem lookup_addEarlier {key k : String} {value : α} {entries : List (String × α)}
    (h : (entries.map Prod.fst).Pairwise (· < ·)) :
    (addEarlier key value entries).lookup k =
      (entries.lookup k).or (if k = key then some value else none) := by
  induction entries with
  | nil => by_cases hk : k = key <;> simp [addEarlier, lookup_entry, hk]
  | cons entry rest ih =>
      obtain ⟨hhead, hrest⟩ := List.pairwise_cons.mp h
      simp only [addEarlier]
      split
      case isTrue hlt =>
        by_cases hk : k = key
        · have hnone : (entry :: rest).lookup key = none :=
            lookup_eq_none_of_lt fun other hother => by
              rcases List.mem_cons.mp hother with rfl | hother
              · exact hlt
              · exact String.lt_trans hlt (hhead other hother)
          rw [hk, hnone]
          simp
        · simp [lookup_entry, hk]
      case isFalse hle =>
        split
        case isTrue hgt =>
          by_cases hk : k = entry.1
          · simp [lookup_entry, hk]
          · simpa [lookup_entry, hk] using ih hrest
        case isFalse hge =>
          have hkey : key = entry.1 :=
            String.le_antisymm (String.not_lt.mp hge) (String.not_lt.mp hle)
          by_cases hk : k = entry.1 <;> simp [lookup_entry, hk, hkey]

/-- Of several entries with one key the last one counts. -/
theorem lookup_sort_cons {key k : String} {value : α} {rest : List (String × α)} :
    (sort ((key, value) :: rest)).lookup k =
      ((sort rest).lookup k).or (if k = key then some value else none) :=
  lookup_addEarlier (ascending_sort rest)

theorem lookup_sort {key : String} {entries : List (String × α)}
    (h : (entries.map Prod.fst).Nodup) : (sort entries).lookup key = entries.lookup key := by
  induction entries with
  | nil => rfl
  | cons entry rest ih =>
      rw [List.map_cons, List.nodup_cons] at h
      rw [lookup_sort_cons, ih h.2]
      by_cases hk : key = entry.1
      · simp [hk, lookup_entry, lookup_eq_none_of_not_mem h.1]
      · simp [lookup_entry, hk]

/-- Sorting a rearrangement of an ascending list gives that list. -/
theorem sort_eq_of_perm {entries ordered : List (String × α)} (hperm : entries.Perm ordered)
    (hordered : (ordered.map Prod.fst).Pairwise (· < ·)) : sort entries = ordered := by
  have hnodup : (entries.map Prod.fst).Nodup :=
    (hperm.map Prod.fst).nodup_iff.mpr (nodup_of_ascending hordered)
  refine eq_of_lookup (ascending_sort entries) hordered fun key => ?_
  rw [lookup_sort hnodup]
  cases hlookup : ordered.lookup key with
  | none =>
      cases hother : entries.lookup key with
      | none => rfl
      | some value =>
          have hmem := hperm.mem_iff.mp (mem_of_lookup hother)
          rw [lookup_of_mem (nodup_of_ascending hordered) hmem] at hlookup
          exact absurd hlookup (by simp)
  | some value => exact lookup_of_mem hnodup (hperm.mem_iff.mpr (mem_of_lookup hlookup))

theorem sort_eq_self {entries : List (String × α)}
    (h : (entries.map Prod.fst).Pairwise (· < ·)) : sort entries = entries :=
  sort_eq_of_perm (List.Perm.refl _) h

theorem perm_addEarlier {key : String} {value : α} {entries : List (String × α)}
    (h : key ∉ entries.map Prod.fst) :
    (addEarlier key value entries).Perm ((key, value) :: entries) := by
  induction entries with
  | nil => exact List.Perm.refl _
  | cons entry rest ih =>
      simp only [List.map_cons, List.mem_cons, not_or] at h
      simp only [addEarlier]
      split
      case isTrue => exact List.Perm.refl _
      case isFalse hle =>
        split
        case isTrue => exact ((ih h.2).cons entry).trans (List.Perm.swap _ _ _)
        case isFalse hge =>
          exact absurd (String.le_antisymm (String.not_lt.mp hge) (String.not_lt.mp hle)) h.1

/-- Where no key is repeated, sorting only rearranges. -/
theorem perm_sort {entries : List (String × α)} (h : (entries.map Prod.fst).Nodup) :
    (sort entries).Perm entries := by
  induction entries with
  | nil => exact List.Perm.refl _
  | cons entry rest ih =>
      rw [List.map_cons, List.nodup_cons] at h
      have hperm := ih h.2
      have hnot : entry.1 ∉ (sort rest).map Prod.fst := fun hmem =>
        h.1 ((hperm.map Prod.fst).mem_iff.mp hmem)
      exact (perm_addEarlier hnot).trans (hperm.cons entry)

theorem mem_of_mem_sort {entry : String × α} {entries : List (String × α)}
    (h : entry ∈ sort entries) : entry ∈ entries := by
  induction entries with
  | nil => exact h
  | cons first rest ih =>
      have hadd : ∀ {others : List (String × α)}, entry ∈ addEarlier first.1 first.2 others →
          entry = first ∨ entry ∈ others := by
        intro others
        induction others with
        | nil => simp [addEarlier]
        | cons other more ihmore =>
            simp only [addEarlier]
            split
            · simp
            · split
              · simp only [List.mem_cons]
                rintro (hmem | hmem)
                · exact .inr (.inl hmem)
                · exact (ihmore hmem).imp_right .inr
              · exact .inr
      rcases hadd h with rfl | hmem
      · exact List.mem_cons_self
      · exact List.mem_cons_of_mem _ (ih hmem)

/-! ## Maps -/

/-- Maps that answer alike are equal. -/
theorem ext_find? {first second : KeyMap α} (h : ∀ key, first.find? key = second.find? key) :
    first = second := by
  obtain ⟨entries, hentries⟩ := first
  obtain ⟨others, hothers⟩ := second
  obtain rfl : entries = others := eq_of_lookup hentries hothers h
  rfl

theorem ofList_entries (m : KeyMap α) : ofList m.entries = m :=
  ext_find? fun key => congrArg (List.lookup key) (sort_eq_self m.ascending)

theorem find?_insert (m : KeyMap α) (key k : String) (value : α) :
    (m.insert key value).find? k = if k = key then some value else m.find? k := by
  obtain ⟨entries, hentries⟩ := m
  simp only [find?, insert]
  induction entries with
  | nil => by_cases hk : k = key <;> simp [put, lookup_entry, hk]
  | cons entry rest ih =>
      obtain ⟨-, hrest⟩ := List.pairwise_cons.mp hentries
      simp only [put]
      split
      case isTrue => by_cases hk : k = key <;> simp [lookup_entry, hk]
      case isFalse hle =>
        split
        case isTrue hgt =>
          by_cases hk : k = entry.1
          · have hne : k ≠ key := fun heq => String.lt_irrefl key (by rwa [← hk, heq] at hgt)
            simp [lookup_entry, hk, hk ▸ hne]
          · simpa [lookup_entry, hk] using ih hrest
        case isFalse hge =>
          have hkey : key = entry.1 :=
            String.le_antisymm (String.not_lt.mp hge) (String.not_lt.mp hle)
          by_cases hk : k = entry.1 <;> simp [lookup_entry, hk, hkey]

theorem find?_erase (m : KeyMap α) (key k : String) :
    (m.erase key).find? k = if k = key then none else m.find? k := by
  have hlookup := @lookup_filter α k m.entries fun other => other != key
  by_cases hk : k = key <;> simpa [find?, erase, hk] using hlookup

theorem find?_mapValues (f : α → β) (m : KeyMap α) (key : String) :
    (m.mapValues f).find? key = (m.find? key).map f :=
  lookup_map_values f

/-- Putting back the value under an erased key undoes the erasure. -/
theorem insert_erase {m : KeyMap α} {key : String} {value : α} (h : m.find? key = some value) :
    (m.erase key).insert key value = m := by
  refine ext_find? fun k => ?_
  rw [find?_insert, find?_erase]
  by_cases hk : k = key <;> simp [hk, h]

theorem erase_of_find?_eq_none {m : KeyMap α} {key : String} (h : m.find? key = none) :
    m.erase key = m := by
  refine ext_find? fun k => ?_
  rw [find?_erase]
  by_cases hk : k = key <;> simp [hk, h]

theorem erase_insert (m : KeyMap α) (key : String) (value : α) :
    (m.insert key value).erase key = m.erase key := by
  refine ext_find? fun k => ?_
  rw [find?_erase, find?_erase, find?_insert]
  by_cases hk : k = key <;> simp [hk]

theorem erase_erase (m : KeyMap α) (key : String) : (m.erase key).erase key = m.erase key := by
  refine ext_find? fun k => ?_
  rw [find?_erase, find?_erase]
  by_cases hk : k = key <;> simp [hk]

end HubSpoke.KeyMap
