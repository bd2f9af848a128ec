import DiagnosticDigest.Proofs.Json.Doubles
import DiagnosticDigest.Proofs.Json.RoundTrip

/-!
# Order in compact text

The compact text of whatever a tree stands for is itself a written value, and the keys of each of its
objects, as they are meant, stand in strictly ascending order of their bytes.

## Main definitions

* `Written.Tree.Ordered` — trees in which the keys of every object ascend.
* `WrittenInOrder` — values whose compact text is that of such a tree.
-/

namespace DiagnosticDigest.Json

open Written

/-- Trees in which the keys of every object, however deep it stands, ascend strictly in the order of
their bytes. -/
inductive Written.Tree.Ordered : Tree → Prop
  | intro {t : Tree}
      (keys : ∀ members, t.members? = some members →
        (members.map Member.name).Pairwise Utf8.Before)
      (inside : ∀ u ∈ t.inside, Ordered u) : Ordered t

/-- A tree that holds no others is in order. -/
theorem ordered_of_leaf {t : Tree} (hmembers : t.members? = none) (hinside : t.inside = []) :
    t.Ordered := by
  refine .intro ?_ ?_
  · simp [hmembers]
  · simp [hinside]

/-- The compact text of a value is that of a tree in order. -/
def WrittenInOrder (v : Json) : Prop :=
  ∃ t : Tree, t.text = compactChars v ∧ t.Ordered

theorem writtenInOrder_number (n : Number) : WrittenInOrder (.number n) := by
  rcases exists_text_eq_numberText n with ⟨w, hw⟩ | hnull
  · exact ⟨.number w, by rw [compactChars, ← hw, Tree.text], ordered_of_leaf rfl rfl⟩
  · exact ⟨.null, by rw [compactChars, hnull], ordered_of_leaf rfl rfl⟩

theorem writtenInOrder_string (text : String) : WrittenInOrder (.string text) := by
  obtain ⟨pieces, hpieces, -⟩ := exists_pieces text
  exact ⟨.string pieces, by rw [compactChars, ← hpieces, Tree.text], ordered_of_leaf rfl rfl⟩

theorem writtenInOrder_array {vs : List Json} (h : ∀ v ∈ vs, WrittenInOrder v) :
    WrittenInOrder (.array vs) := by
  obtain ⟨t, f, htext, hitems, hall⟩ := exists_array (P := fun _ t => t.Ordered) h
  refine ⟨t, htext, .intro ?_ ?_⟩
  · simp [Tree.members?_of_items? hitems]
  · rw [Tree.inside_of_items? hitems, List.map_map, List.forall_mem_map]
    exact hall

theorem writtenInOrder_object {members : List (String × Json)} (horder : Members.Ascending members)
    (h : ∀ m ∈ members, WrittenInOrder m.2) : WrittenInOrder (.object members) := by
  obtain ⟨t, keys, f, htext, hmembers, hkeys, hall⟩ :=
    exists_object (P := fun _ t => t.Ordered) h
  refine ⟨t, htext, .intro ?_ ?_⟩
  · intro others hothers
    obtain rfl := Option.some.inj (hmembers.symm.trans hothers)
    rw [List.map_map, List.pairwise_map]
    refine horder.imp fun hbefore => ?_
    simpa [Member.name, Member.bare, (hkeys _).2] using hbefore
  · rw [Tree.inside_of_members? hmembers, List.map_map, List.forall_mem_map]
    exact hall

/-- Whatever a tree stands for is written in order. -/
theorem Written.Tree.writtenInOrder_value (t : Tree) : WrittenInOrder t.value := by
  induction t using Tree.induction with
  | h t ih =>
    cases t with
    | null => exact ⟨.null, rfl, ordered_of_leaf rfl rfl⟩
    | bool b => exact ⟨.bool b, by cases b <;> rfl, ordered_of_leaf rfl rfl⟩
    | number n => exact writtenInOrder_number n.value
    | string pieces => exact writtenInOrder_string _
    | emptyArray | array =>
      rw [Tree.value_of_items? rfl]
      apply writtenInOrder_array
      rw [List.forall_mem_map]
      rw [Tree.inside_of_items? rfl, List.forall_mem_map] at ih
      exact ih
    | emptyObject | object =>
      rw [Tree.value_of_members? rfl]
      apply writtenInOrder_object (Members.ascending_ofPairs _)
      intro m hm
      obtain ⟨member, hmember, rfl⟩ := List.mem_map.mp (Members.mem_of_mem_ofPairs hm)
      rw [Tree.inside_of_members? rfl, List.forall_mem_map] at ih
      exact ih member hmember

end DiagnosticDigest.Json
