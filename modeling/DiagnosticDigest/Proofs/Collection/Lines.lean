import DiagnosticDigest.Collection
import Mathlib.Data.List.SplitBy

/-!
# Lines of a stream

What the lines of a stream are, said without reading it: its bytes, cut after each line feed. Bytes
that leave no line open can be cut off from the front, and they are built up a line at a time; every
statement about reading is an induction on that.

## Main definitions

* `Intake.linesOf` — the lines that bytes make up.
* `Intake.Closed` — bytes that leave no line open.
-/

namespace DiagnosticDigest.Intake

/-- The lines that bytes make up: the bytes, cut after each line feed. The last line needs none. -/
def linesOf (bytes : List UInt8) : List (List UInt8) :=
  bytes.splitBy fun b _ => b != lineFeed

/-- Bytes that leave no line open: they are empty or end in a line feed. -/
def Closed (bytes : List UInt8) : Prop :=
  bytes = [] ∨ bytes.getLast? = some lineFeed

instance (bytes : List UInt8) : Decidable (Closed bytes) :=
  inferInstanceAs (Decidable (_ ∨ _))

theorem closed_line (bytes : List UInt8) : Closed (bytes ++ [lineFeed]) := by
  right
  simp

/-! ## Cutting -/

/-- Closed bytes are cut by themselves, whatever follows them. -/
theorem linesOf_append {bytes : List UInt8} (h : Closed bytes) (rest : List UInt8) :
    linesOf (bytes ++ rest) = linesOf bytes ++ linesOf rest := by
  apply List.splitBy_append
  intro b hb next _
  rcases h with rfl | h
  · simp at hb
  · have hfeed : lineFeed = b := by simpa [h] using hb
    simp [hfeed]

/-- Bytes of which at most the last one is a line feed are one line. -/
theorem linesOf_single {bytes : List UInt8} (h : lineFeed ∉ bytes) (last : UInt8) :
    linesOf (bytes ++ [last]) = [bytes ++ [last]] := by
  have hfeed : ∀ b ∈ bytes, (b != lineFeed) = true := by
    intro b hb
    have hne : b ≠ lineFeed := fun heq => h (heq ▸ hb)
    simpa using hne
  apply List.splitBy_of_isChain (by simp)
  apply List.Pairwise.isChain
  rw [List.pairwise_append]
  refine ⟨?_, List.pairwise_singleton _ _, fun b hb _ _ => hfeed b hb⟩
  exact List.pairwise_of_forall_mem_list fun b hb _ _ => hfeed b hb

/-- A line that is left open is one line. -/
theorem linesOf_open {bytes : List UInt8} (hne : bytes ≠ []) (h : lineFeed ∉ bytes) :
    linesOf bytes = [bytes] := by
  rw [← List.dropLast_append_getLast hne] at h ⊢
  exact linesOf_single (fun hmem => h (List.mem_append_left _ hmem)) _

/-- The first lines of some bytes are cut as before when they stand alone. -/
theorem linesOf_flatten {bytes : List UInt8} {before : List (List UInt8)}
    (h : before <+: linesOf bytes) : linesOf before.flatten = before := by
  obtain ⟨after, hlines⟩ := h
  obtain ⟨-, hne, hwithin, hbetween⟩ := List.splitBy_eq_iff.mp hlines.symm
  apply List.splitBy_flatten
  · exact fun hmem => hne (List.mem_append_left _ hmem)
  · exact fun line hmem => hwithin line (List.mem_append_left _ hmem)
  · exact hbetween.left_of_append

/-! ## Closed bytes -/

/-- All bytes are closed ones and a line that is still open. -/
theorem exists_closed_append (bytes : List UInt8) :
    ∃ closed rest, bytes = closed ++ rest ∧ Closed closed ∧ lineFeed ∉ rest := by
  induction bytes using List.reverseRecOn with
  | nil => exact ⟨[], [], rfl, .inl rfl, by simp⟩
  | append_singleton bytes b ih =>
    obtain ⟨closed, rest, rfl, hclosed, hrest⟩ := ih
    by_cases hb : b = lineFeed
    · subst hb
      exact ⟨closed ++ rest ++ [lineFeed], [], by simp, closed_line _, by simp⟩
    · refine ⟨closed, rest ++ [b], by simp, hclosed, ?_⟩
      simp only [List.mem_append, List.mem_singleton, not_or]
      exact ⟨hrest, Ne.symm hb⟩

/-- A line that is open at the end leaves bytes open. -/
theorem closed_append_iff {closed rest : List UInt8} (hclosed : Closed closed)
    (hrest : lineFeed ∉ rest) : Closed (closed ++ rest) ↔ rest = [] := by
  constructor
  · intro h
    by_contra hne
    rcases h with h | h
    · exact hne (List.append_eq_nil_iff.mp h).2
    · rw [List.getLast?_append_of_ne_nil _ hne] at h
      exact hrest (List.mem_of_getLast? h)
  · rintro rfl
    simpa using hclosed

/-- Closed bytes are built up a line at a time. -/
theorem closed_induction {motive : List UInt8 → Prop} (nil : motive [])
    (line : ∀ closed bytes, Closed closed → lineFeed ∉ bytes → motive closed →
      motive (closed ++ (bytes ++ [lineFeed])))
    (bytes : List UInt8) (h : Closed bytes) : motive bytes := by
  induction hlength : bytes.length using Nat.strongRecOn generalizing bytes with
  | _ n ih =>
    rcases h with rfl | hlast
    · exact nil
    · obtain ⟨front, rfl⟩ := List.getLast?_eq_some_iff.mp hlast
      obtain ⟨closed, rest, rfl, hclosed, hrest⟩ := exists_closed_append front
      have hshort : closed.length < n := by
        rw [← hlength]
        simp only [List.length_append, List.length_singleton]
        omega
      rw [List.append_assoc]
      exact line closed rest hclosed hrest (ih _ hshort _ hclosed rfl)

/-- Lines that are put one behind the other, each with a line feed, are cut into themselves. -/
theorem linesOf_flatMap {lines : List (List UInt8)} (h : ∀ line ∈ lines, lineFeed ∉ line) :
    linesOf (lines.flatMap (· ++ [lineFeed])) = lines.map (· ++ [lineFeed]) := by
  induction lines with
  | nil => rfl
  | cons line lines ih =>
    rw [List.forall_mem_cons] at h
    rw [List.flatMap_cons, linesOf_append (closed_line line), linesOf_single h.1, ih h.2,
      List.map_cons, List.singleton_append]

/-- Closed bytes have as many lines as line feeds. -/
theorem length_linesOf_of_closed {bytes : List UInt8} (h : Closed bytes) :
    (linesOf bytes).length = bytes.count lineFeed := by
  refine closed_induction (motive := fun bytes => (linesOf bytes).length = bytes.count lineFeed)
    rfl ?_ bytes h
  intro closed bytes hclosed hbytes ih
  rw [linesOf_append hclosed, linesOf_single hbytes, List.length_append, ih]
  simp [List.count_append, List.count_eq_zero_of_not_mem hbytes]

/-- Each line of closed bytes is closed. -/
theorem closed_of_mem_linesOf {bytes : List UInt8} (h : Closed bytes) :
    ∀ line ∈ linesOf bytes, Closed line := by
  refine closed_induction (motive := fun bytes => ∀ line ∈ linesOf bytes, Closed line)
    (by simp [linesOf]) ?_ bytes h
  intro closed bytes hclosed hbytes ih
  rw [linesOf_append hclosed, linesOf_single hbytes, List.forall_mem_append]
  exact ⟨ih, by simpa using closed_line bytes⟩

/-- A line is what stands in front of a line feed, with it, or it is left open. -/
theorem exists_body_of_mem_linesOf {bytes line : List UInt8} (h : line ∈ linesOf bytes) :
    ∃ body, lineFeed ∉ body ∧ (line = body ++ [lineFeed] ∨ line = body) := by
  obtain ⟨closed, rest, rfl, hclosed, hrest⟩ := exists_closed_append bytes
  rw [linesOf_append hclosed, List.mem_append] at h
  rcases h with h | h
  · revert h
    refine closed_induction (motive := fun closed => line ∈ linesOf closed →
      ∃ body, lineFeed ∉ body ∧ (line = body ++ [lineFeed] ∨ line = body)) ?_ ?_ closed hclosed
    · intro h
      simp [linesOf] at h
    · intro closed body hclosed hbody ih h
      rw [linesOf_append hclosed, linesOf_single hbody, List.mem_append, List.mem_singleton] at h
      rcases h with h | rfl
      · exact ih h
      · exact ⟨body, hbody, .inl rfl⟩
  · by_cases hne : rest = []
    · simp [hne, linesOf] at h
    · rw [linesOf_open hne hrest, List.mem_singleton] at h
      exact ⟨rest, hrest, .inr h⟩

/-- Only the last line can be left open. -/
theorem closed_of_linesOf_eq {bytes line : List UInt8} {before after : List (List UInt8)}
    (h : linesOf bytes = before ++ line :: after) (hafter : after ≠ []) : Closed line := by
  obtain ⟨closed, rest, rfl, hclosed, hrest⟩ := exists_closed_append bytes
  rw [linesOf_append hclosed] at h
  have hmem : line ∈ linesOf closed := by
    by_cases hne : rest = []
    · have hnil : linesOf rest = [] := by rw [hne]; rfl
      rw [hnil, List.append_nil] at h
      simp [h]
    · -- the open line is the last one, so it is not this one
      rw [linesOf_open hne hrest, ← List.dropLast_append_getLast hafter, ← List.cons_append,
        ← List.append_assoc] at h
      rw [(List.append_inj' h rfl).1]
      simp
  exact closed_of_mem_linesOf hclosed line hmem

/-- Bytes have as many lines as line feeds, and one more if they leave a line open. -/
theorem length_linesOf (bytes : List UInt8) :
    (linesOf bytes).length = bytes.count lineFeed + if Closed bytes then 0 else 1 := by
  obtain ⟨closed, rest, rfl, hclosed, hrest⟩ := exists_closed_append bytes
  rw [linesOf_append hclosed, List.length_append, length_linesOf_of_closed hclosed,
    List.count_append, List.count_eq_zero_of_not_mem hrest]
  by_cases hne : rest = []
  · simp [hne, hclosed, linesOf]
  · simp [hne, closed_append_iff hclosed hrest, linesOf_open hne hrest]

end DiagnosticDigest.Intake
