/-
# Addresses are read as they were rendered

A rendered address begins with its path, and its search and hash follow in encodings of their own.
Whatever these are, the address is read back just if its path has one slash in front and no dot
segment (`Address.read?_render_iff`): behind a second slash a host would begin, and a dot segment
would be resolved.

A path that is canonical is read back (`Address.read?_render`).  The other direction counts slashes
and looks at the end of the path (`Address.isCanonical_or_of_read?`): both differ from those of
what was rendered when a host or a dot segment is taken out.
-/

import Mathlib.Data.Bool.AllAny
import Routing.Proofs.Url.Dots
import Routing.Proofs.Url.Written

namespace Routing

/-- One or two points, each of them spelt out or percent-encoded. -/
def Segments.IsDotSegment (s : Text) : Prop :=
  s ∈ points ∨ ∃ p ∈ points, ∃ q ∈ points, s = p ++ q

/-- A dot segment is one by its spelling. -/
theorem Segments.isDot_iff_isDotSegment (s : Text) : isDot s ↔ IsDotSegment s := by
  rw [isDot, Bool.or_eq_true, isSingleDot_iff_mem, isDoubleDot_iff_exists, IsDotSegment]

instance (s : Text) : Decidable (Segments.IsDotSegment s) :=
  decidable_of_iff _ (Segments.isDot_iff_isDotSegment s)

namespace Address

/-- A slash and then letters and digits of ASCII, percent signs, slashes and what else may stand in
a segment. -/
structure IsPathText (path : Text) : Prop where
  /-- It begins with a slash. -/
  rooted : path.head? = some '/'
  /-- All characters may stand in a path. -/
  chars : ∀ c ∈ path, c.isAlphanum ∨ c ∈ "-._~!$&'()*+,;=:@%/".toList

/-- A path keeps these characters. -/
theorem IsPathText.isWritten {path : Text} (h : IsPathText path) : IsWritten path := by
  refine ⟨h.rooted, fun c hc => ?_⟩
  have hmarks : ∀ c ∈ "-._~!$&'()*+,;=:@%/".toList, Percent.path c ∧ c ≠ '\\' :=
    List.all_iff_forall_prop.mp (by decide)
  rcases h.chars c hc with hc | hc
  · exact Percent.of_ascii (P := fun c => c.isAlphanum → Percent.path c ∧ c ≠ '\\') (by decide)
      (Percent.lt_of_isAlphanumeric hc) hc
  · exact hmarks c hc

/-- **A rendered address is read back**, whatever its search and its hash, just if its path does not
begin with two slashes and none of its segments is a dot segment. -/
theorem read?_render_iff {path : Text} (h : IsPathText path) (search : Dictionary Text)
    (hash : Text) :
    read? (render ⟨path, search, hash⟩) = some ⟨path, search, hash⟩ ↔
      path.tail.head? ≠ some '/' ∧
        ∀ s ∈ Text.splitBy (· == '/') path, ¬Segments.IsDotSegment s := by
  have hsegments : Text.splitBy (· == '/') path = [] :: pieces path := by
    conv => lhs; rw [h.isWritten.eq_cons]
    rfl
  have hempty : ¬Segments.IsDotSegment [] := by
    rw [← Segments.isDot_iff_isDotSegment]
    decide
  have hdots : (∀ s ∈ Text.splitBy (· == '/') path, ¬Segments.IsDotSegment s) ↔
      ∀ s ∈ pieces path, Segments.isDot s = false := by
    rw [hsegments, List.forall_mem_cons, and_iff_right hempty]
    simp only [← Segments.isDot_iff_isDotSegment, Bool.not_eq_true]
  rw [hdots]
  constructor
  · intro hread
    rcases isCanonical_or_of_read? h.isWritten hread with hcanonical | hcount | ⟨hlast, hnot⟩
    · exact ⟨hcanonical.single, hcanonical.noDots⟩
    · exact absurd hcount (Nat.lt_irrefl _)
    · exact absurd hlast hnot
  · rintro ⟨hsingle, hdots⟩
    exact read?_render ⟨h.isWritten, hsingle, hdots⟩

/-- Behind a path with percent signs, points that are no dot segments and an empty segment, with
all delimiters in the search and the hash. -/
theorem read?_render_delimiters :
    let path := "/a/..b/%2F:@//...%2e/%".toList
    let search := Dictionary.ofList
      [([], []), ("&=+".toList, "#?% é\x00".toList), ("?".toList, []), ([], "\n".toList)]
    let hash := "#?%41 \x00\n&😀".toList
    IsPathText path ∧ read? (render ⟨path, search, hash⟩) = some ⟨path, search, hash⟩ := by
  intro path search hash
  have hpath : IsPathText path := ⟨rfl, List.all_iff_forall_prop.mp (by decide)⟩
  exact ⟨hpath, (read?_render_iff hpath search hash).mpr ⟨by decide, by decide⟩⟩

end Address
end Routing
