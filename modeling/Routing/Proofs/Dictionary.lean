/-
# Entries of dictionaries

What a dictionary holds after an insertion, and that it is the dictionary of its own entries
(`ofList_entries`).  A dictionary of pairs whose keys are distinct has the value of each pair.

Equality of dictionaries is settled by what can be looked up (`ext_get?`): the entries are ordered
by key, with no key twice, so that the same values for the same keys make the same entries.
-/

import Routing.Dictionary

namespace Routing

variable {α : Type}

/-- A key behind all others is put at the end. -/
theorem putEntry_eq_append {key : Text} (value : α) {entries : List (Text × α)}
    (h : ∀ entry ∈ entries, entry.1 < key) :
    putEntry key value entries = entries ++ [(key, value)] := by
  induction entries with
  | nil => rfl
  | cons first entries ih =>
    have hfirst := h first List.mem_cons_self
    rw [putEntry, if_neg (fun hlt => List.lt_irrefl _ (List.lt_trans hlt hfirst)),
      if_neg (fun heq => List.lt_irrefl _ (heq ▸ hfirst)),
      ih fun entry hmem => h entry (List.mem_cons_of_mem _ hmem)]
    rfl

namespace Dictionary

/-- A dictionary is its entries.  That they are in order is no further information. -/
theorem ext {d d' : Dictionary α} (h : d.entries = d'.entries) : d = d' := by
  cases d
  cases d'
  cases h
  rfl

/-- Entries that ascend to behind those of a dictionary are appended to it. -/
theorem entries_foldl_insert (entries : List (Text × α)) (d : Dictionary α)
    (h : (d.entries ++ entries).Pairwise (·.1 < ·.1)) :
    (entries.foldl (fun d (key, value) => d.insert key value) d).entries =
      d.entries ++ entries := by
  induction entries generalizing d with
  | nil => simp
  | cons first entries ih =>
    have hfirst : ∀ entry ∈ d.entries, entry.1 < first.1 := fun entry hmem =>
      (List.pairwise_append.mp h).2.2 entry hmem first List.mem_cons_self
    have hinsert : (d.insert first.1 first.2).entries = d.entries ++ [first] :=
      putEntry_eq_append first.2 hfirst
    rw [List.foldl_cons, ih, hinsert, List.append_assoc, List.singleton_append]
    rwa [hinsert, List.append_assoc, List.singleton_append]

/-- **A dictionary is that of its entries.** -/
theorem ofList_entries (d : Dictionary α) : ofList d.entries = d :=
  ext (entries_foldl_insert d.entries empty d.ascending)

/-- Looking up behind an insertion finds the new entry under its key, and the old entries under all
others. -/
theorem find?_putEntry (key : Text) (value : α) (entries : List (Text × α)) (k : Text) :
    (putEntry key value entries).find? (·.1 == k) =
      if key = k then some (key, value) else entries.find? (·.1 == k) := by
  induction entries with
  | nil =>
    by_cases h : key = k <;> simp [putEntry, h]
  | cons first entries ih =>
    obtain ⟨k', v⟩ := first
    rw [putEntry]
    -- The three places of a new entry: before, instead of, or somewhere behind the first one.
    split
    case isTrue => by_cases h : key = k <;> simp [h]
    case isFalse =>
      split
      case isTrue heq => by_cases h : key = k <;> simp [← heq, h]
      case isFalse hne =>
        by_cases h : k' = k
        · have : key ≠ k := fun heq => hne (heq.trans h.symm)
          simp [h, this]
        · simp [h, ih]

/-- **The last value that was given to a key is the one that is found.** -/
theorem get?_insert (d : Dictionary α) (key : Text) (value : α) (k : Text) :
    (d.insert key value).get? k = if key = k then some value else d.get? k := by
  rw [get?, insert, find?_putEntry]
  split <;> rfl

/-- Insertions under other keys do not change what is found. -/
theorem get?_foldl_insert {pairs : List (Text × α)} {d : Dictionary α} {key : Text}
    (h : key ∉ pairs.map Prod.fst) :
    (pairs.foldl (fun d (key, value) => d.insert key value) d).get? key = d.get? key := by
  induction pairs generalizing d with
  | nil => rfl
  | cons first pairs ih =>
    rw [List.map_cons, List.mem_cons, not_or] at h
    rw [List.foldl_cons, ih h.2, get?_insert, if_neg (Ne.symm h.1)]

/-- A pair among pairs with distinct keys is an entry of their dictionary. -/
theorem get?_ofList {pairs : List (Text × α)} (hdistinct : (pairs.map Prod.fst).Nodup)
    {key : Text} {value : α} (h : (key, value) ∈ pairs) :
    (ofList pairs).get? key = some value := by
  unfold ofList
  generalize empty = d
  induction pairs generalizing d with
  | nil => simp at h
  | cons first pairs ih =>
    rw [List.map_cons, List.nodup_cons] at hdistinct
    rw [List.foldl_cons]
    rcases List.mem_cons.mp h with rfl | h
    · rw [get?_foldl_insert hdistinct.1, get?_insert, if_pos rfl]
    · exact ih hdistinct.2 h _

/-- An insertion adds its key to those that are there. -/
theorem mem_keys_putEntry {key k : Text} {value : α} {entries : List (Text × α)} :
    k ∈ (putEntry key value entries).map Prod.fst ↔ k = key ∨ k ∈ entries.map Prod.fst := by
  induction entries with
  | nil => simp [putEntry]
  | cons first entries ih =>
    rw [putEntry]
    split
    case isTrue => simp
    case isFalse =>
      split
      case isTrue heq => simp [heq]
      case isFalse =>
        rw [List.map_cons, List.mem_cons, ih, List.map_cons, List.mem_cons]
        exact or_left_comm

/-- The keys of the dictionary of some pairs are those of the pairs. -/
theorem mem_keys_ofList {pairs : List (Text × α)} {key : Text} :
    key ∈ (ofList pairs).keys ↔ key ∈ pairs.map Prod.fst := by
  have (d : Dictionary α) :
      key ∈ (pairs.foldl (fun d (key, value) => d.insert key value) d).keys ↔
        key ∈ d.keys ∨ key ∈ pairs.map Prod.fst := by
    induction pairs generalizing d with
    | nil => simp
    | cons first pairs ih =>
      have hinsert : key ∈ (d.insert first.1 first.2).keys ↔ key = first.1 ∨ key ∈ d.keys :=
        mem_keys_putEntry
      rw [List.foldl_cons, ih, hinsert, List.map_cons, List.mem_cons]
      exact or_assoc.trans or_left_comm
  rw [ofList, this]
  simp [empty, keys]

/-- No key occurs twice, since the keys ascend. -/
theorem nodup_keys (d : Dictionary α) : d.keys.Nodup := by
  refine List.pairwise_map.mpr (d.ascending.imp fun {a b} hlt heq => ?_)
  exact List.lt_irrefl b.1 (heq ▸ hlt)

/-- What is found under a key is the entry with this key. -/
theorem get?_eq_some_iff {d : Dictionary α} {key : Text} {value : α} :
    d.get? key = some value ↔ (key, value) ∈ d.entries := by
  constructor
  · intro h
    obtain ⟨⟨k, v⟩, hfind, rfl⟩ := Option.map_eq_some_iff.mp h
    obtain rfl : k = key := by simpa using List.find?_some hfind
    exact List.mem_of_find?_eq_some hfind
  · intro h
    rw [← ofList_entries d]
    exact get?_ofList d.nodup_keys h

/-- The keys are those under which something is found. -/
theorem mem_keys_iff {d : Dictionary α} {key : Text} :
    key ∈ d.keys ↔ ∃ value, d.get? key = some value := by
  simp only [get?_eq_some_iff, keys, List.mem_map, Prod.exists, exists_and_right, exists_eq_right]

/-- **Dictionaries with the same values are equal.** -/
theorem ext_get? {d d' : Dictionary α} (h : ∀ key, d.get? key = d'.get? key) : d = d' := by
  have hne (d : Dictionary α) : d.entries.Nodup :=
    List.Pairwise.of_map Prod.fst (fun _ _ hne heq => hne (heq ▸ rfl)) d.nodup_keys
  have hperm : d.entries.Perm d'.entries :=
    (List.perm_ext_iff_of_nodup (hne d) (hne d')).mpr fun (key, value) => by
      rw [← get?_eq_some_iff, ← get?_eq_some_iff, h]
  refine ext (hperm.eq_of_pairwise (fun a b _ _ hab hba => ?_) d.ascending d'.ascending)
  exact absurd (List.lt_trans hab hba) (List.lt_irrefl _)

end Dictionary
end Routing
