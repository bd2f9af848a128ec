import DiagnosticDigest.Text.Utf8

/-!
# Sets of lines

A section of a report is a set of lines. It is kept as the list in which a report prints it: without
duplicates, in ascending order of the UTF-8 bytes.

## Main definitions

* `LineSet`: an ascending list of lines.
* `LineSet.insert`: the set with one more line; `mem_insert` says which lines it holds.
-/

namespace DiagnosticDigest

/-- A set of lines, as the list of its members in ascending order of their bytes. -/
@[ext] structure LineSet where
  lines : List String
  ascending : lines.Pairwise Utf8.Before
  deriving DecidableEq

namespace LineSet

instance : Membership String LineSet where
  mem s line := line ∈ s.lines

instance (line : String) (s : LineSet) : Decidable (line ∈ s) :=
  inferInstanceAs (Decidable (line ∈ s.lines))

theorem mem_def {line : String} {s : LineSet} : line ∈ s ↔ line ∈ s.lines :=
  Iff.rfl

/-- The set without lines. -/
def empty : LineSet :=
  ⟨[], List.Pairwise.nil⟩

instance : EmptyCollection LineSet where
  emptyCollection := empty

instance : Inhabited LineSet where
  default := empty

@[simp] theorem lines_empty : (∅ : LineSet).lines = [] := rfl

@[simp] theorem notMem_empty (line : String) : line ∉ (∅ : LineSet) := by
  simp [mem_def]

/-- How many lines a set holds. -/
def size (s : LineSet) : Nat :=
  s.lines.length

/-! ## Insertion -/

/-- Puts a line where it belongs in an ascending list, unless it is there already. -/
def place (line : String) : List String → List String
  | [] => [line]
  | first :: rest =>
    if line = first then first :: rest
    else if Utf8.Before line first then line :: first :: rest
    else first :: place line rest

theorem mem_place {line other : String} {lines : List String} :
    other ∈ place line lines ↔ other = line ∨ other ∈ lines := by
  induction lines with
  | nil => simp [place]
  | cons first rest ih =>
    unfold place
    split
    · simp_all
    · split
      · simp
      · simp only [List.mem_cons, ih]
        constructor
        · rintro (h | h | h)
          · exact .inr (.inl h)
          · exact .inl h
          · exact .inr (.inr h)
        · rintro (h | h | h)
          · exact .inr (.inl h)
          · exact .inl h
          · exact .inr (.inr h)

theorem pairwise_place {line : String} {lines : List String} (h : lines.Pairwise Utf8.Before) :
    (place line lines).Pairwise Utf8.Before := by
  induction lines with
  | nil => simp [place]
  | cons first rest ih =>
    have ⟨hfirst, hrest⟩ := List.pairwise_cons.mp h
    unfold place
    split
    · exact h
    · rename_i hne
      split
      · rename_i hlt
        refine List.pairwise_cons.mpr ⟨?_, h⟩
        intro other hother
        rcases List.mem_cons.mp hother with rfl | hother
        · exact hlt
        · exact hlt.trans (hfirst other hother)
      · rename_i hlt
        refine List.pairwise_cons.mpr ⟨?_, ih hrest⟩
        intro other hother
        rcases mem_place.mp hother with rfl | hother
        · exact Utf8.Before.of_not hne hlt
        · exact hfirst other hother

/-- A line that is there already changes nothing. The order carries this: no line of the list comes
before one that stands in front of it. -/
theorem place_of_mem {line : String} {lines : List String} (h : lines.Pairwise Utf8.Before)
    (hmem : line ∈ lines) : place line lines = lines := by
  induction lines with
  | nil => simp at hmem
  | cons first rest ih =>
    have ⟨hfirst, hrest⟩ := List.pairwise_cons.mp h
    rcases List.mem_cons.mp hmem with rfl | hmem
    · simp [place]
    · have hlt := hfirst line hmem
      have hne : line ≠ first := fun heq => Utf8.Before.irrefl first (heq ▸ hlt)
      have hnot : ¬ Utf8.Before line first := fun hgt => Utf8.Before.irrefl first (hlt.trans hgt)
      simp [place, hne, hnot, ih hrest hmem]

/-- The set with one more line, or the same set if the line is in it. -/
def insert (s : LineSet) (line : String) : LineSet :=
  ⟨place line s.lines, pairwise_place s.ascending⟩

@[simp] theorem mem_insert {s : LineSet} {line other : String} :
    other ∈ s.insert line ↔ other = line ∨ other ∈ s :=
  mem_place

theorem insert_of_mem {s : LineSet} {line : String} (h : line ∈ s) : s.insert line = s :=
  LineSet.ext (place_of_mem s.ascending h)

end LineSet

end DiagnosticDigest
