/-
# Dictionaries

A dictionary has a value for each of its keys.  Its entries are ordered by key,
so that two dictionaries with the same values for the same keys are equal, and
the order of what is rendered from one does not depend on how it came about.
-/

import Routing.Text.Basic

namespace Routing

/-- Puts an entry into entries that are ordered by key, in place of one with the
same key. -/
def putEntry {α : Type} (key : Text) (value : α) : List (Text × α) → List (Text × α)
  | [] => [(key, value)]
  | (k, v) :: entries =>
    if key < k then (key, value) :: (k, v) :: entries
    else if key = k then (key, value) :: entries
    else (k, v) :: putEntry key value entries

/-- Texts are ordered by code point, and the order is total. -/
theorem lt_of_not_lt_of_ne {a b : Text} (h : ¬ a < b) (hne : a ≠ b) : b < a := by
  apply Decidable.byContradiction
  intro h'
  exact hne (Std.Trichotomous.trichotomous (r := (· < · : Text → Text → Prop)) a b h h')

/-- A key of the entries after putting one is the new key or was there before. -/
theorem mem_putEntry {α : Type} {key : Text} {value : α} {entries : List (Text × α)}
    {entry : Text × α} (h : entry ∈ putEntry key value entries) :
    entry = (key, value) ∨ entry ∈ entries := by
  induction entries with
  | nil => exact Or.inl (by simpa [putEntry] using h)
  | cons first entries ih =>
    obtain ⟨k, v⟩ := first
    unfold putEntry at h
    split at h
    · exact List.mem_cons.mp h
    · split at h
      · rcases List.mem_cons.mp h with h | h
        · exact Or.inl h
        · exact Or.inr (List.mem_cons_of_mem _ h)
      · rcases List.mem_cons.mp h with h | h
        · exact Or.inr (h ▸ List.mem_cons_self)
        · exact (ih h).imp_right (List.mem_cons_of_mem _)

/-- An insertion keeps the keys in order and apart. -/
theorem pairwise_putEntry {α : Type} {key : Text} {value : α} {entries : List (Text × α)}
    (h : entries.Pairwise (·.1 < ·.1)) :
    (putEntry key value entries).Pairwise (·.1 < ·.1) := by
  induction entries with
  | nil => simp [putEntry]
  | cons first entries ih =>
    obtain ⟨k, v⟩ := first
    obtain ⟨hfirst, hrest⟩ := List.pairwise_cons.mp h
    unfold putEntry
    split
    case isTrue hlt =>
      refine List.pairwise_cons.mpr ⟨fun entry hmem => ?_, h⟩
      rcases List.mem_cons.mp hmem with heq | hmem
      · exact heq ▸ hlt
      · exact List.lt_trans hlt (hfirst _ hmem)
    case isFalse hlt =>
      split
      case isTrue heq => exact List.pairwise_cons.mpr ⟨heq ▸ hfirst, hrest⟩
      case isFalse hne =>
        refine List.pairwise_cons.mpr ⟨fun entry hmem => ?_, ih hrest⟩
        rcases mem_putEntry hmem with heq | hmem
        · exact heq ▸ lt_of_not_lt_of_ne hlt hne
        · exact hfirst _ hmem

/-- Values by key. -/
structure Dictionary (α : Type) where
  /-- The keys with their values. -/
  entries : List (Text × α)
  /-- The keys ascend by code point. -/
  ascending : entries.Pairwise (·.1 < ·.1)

namespace Dictionary

variable {α : Type}

/-- The dictionary without keys. -/
def empty : Dictionary α := ⟨[], List.Pairwise.nil⟩

/-- The dictionary with a further key, or with another value for a key. -/
def insert (d : Dictionary α) (key : Text) (value : α) : Dictionary α :=
  ⟨putEntry key value d.entries, pairwise_putEntry d.ascending⟩

/-- The dictionary of some entries; of entries with one key the last one counts. -/
def ofList (entries : List (Text × α)) : Dictionary α :=
  entries.foldl (fun d (key, value) => d.insert key value) empty

/-- The value of a key. -/
def get? (d : Dictionary α) (key : Text) : Option α :=
  (d.entries.find? (·.1 == key)).map (·.2)

/-- The keys in order. -/
def keys (d : Dictionary α) : List Text := d.entries.map (·.1)

/-- There is no key. -/
def isEmpty (d : Dictionary α) : Bool := d.entries.isEmpty

end Dictionary
end Routing
