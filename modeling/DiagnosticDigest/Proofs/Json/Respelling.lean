import DiagnosticDigest.Proofs.Json.Members
import DiagnosticDigest.Proofs.Json.Unambiguous

/-!
# Other spellings of a value

What a tree stands for does not depend on how it is spelled: not on the blanks, not on the order of
members with different keys, not on members that a later one overrides, and not on how the characters
of strings and keys are written.

## Main definitions

* `Written.Respelled` — trees that differ in their spelling only.
* `Written.Respelling` — texts that differ in their spelling only.
-/

namespace DiagnosticDigest.Json.Written

/-- Trees that differ in their spelling only. Strings and keys are cut into parts that stand for a
character each, so any two ways to write a character are as good as one another; the blanks of an item
or a member go with it. -/
inductive Respelled : Tree → Tree → Prop
  | refl (t : Tree) : Respelled t t
  | symm {t u : Tree} : Respelled t u → Respelled u t
  | trans {t u w : Tree} : Respelled t u → Respelled u w → Respelled t w
  | string {pieces others : List Piece} {cs : List Char} :
      Spelled pieces cs → Spelled others cs → Respelled (.string pieces) (.string others)
  | emptyArray (inside other : Blanks) : Respelled (.emptyArray inside) (.emptyArray other)
  | emptyObject (inside other : Blanks) : Respelled (.emptyObject inside) (.emptyObject other)
  | item {t u : Tree} {before after : List (Padded Tree)} {a b : Padded Tree} :
      t.items? = some (before ++ a :: after) → u.items? = some (before ++ b :: after) →
      Respelled a.held b.held → Respelled t u
  | member {t u : Tree} {before after : List (Member Tree)} {a b : Member Tree} {cs : List Char} :
      t.members? = some (before ++ a :: after) → u.members? = some (before ++ b :: after) →
      Spelled a.key cs → Spelled b.key cs → Respelled a.value.held b.value.held → Respelled t u
  | exchange {t u : Tree} {before after : List (Member Tree)} {a b : Member Tree} :
      t.members? = some (before ++ a :: b :: after) →
      u.members? = some (before ++ b :: a :: after) → a.name ≠ b.name → Respelled t u
  | overridden {t u : Tree} {before after : List (Member Tree)} {a : Member Tree} :
      t.members? = some (before ++ a :: after) → u.members? = some (before ++ after) →
      (∃ b ∈ after, b.name = a.name) → Respelled t u

/-- Keys that spell the same characters have the same name. -/
theorem name_eq_of_spelled {a b : Member Tree} {cs : List Char} (ha : Spelled a.key cs)
    (hb : Spelled b.key cs) : a.name = b.name := by
  rw [Member.name, Member.name, ha.meaning_eq, hb.meaning_eq]

/-- Trees that differ in their spelling only stand for the same value. -/
theorem Respelled.value_eq {t u : Tree} (h : Respelled t u) : t.value = u.value := by
  induction h with
  | refl => rfl
  | symm _ ih => exact ih.symm
  | trans _ _ ih ih' => exact ih.trans ih'
  | string ha hb => rw [Tree.value, Tree.value, ha.meaning_eq, hb.meaning_eq]
  | emptyArray => rfl
  | emptyObject => rfl
  | item ht hu _ ih =>
    rw [Tree.value_of_items? ht, Tree.value_of_items? hu, List.map_append, List.map_append,
      List.map_cons, List.map_cons, ih]
  | @member _ _ _ _ a b _ ht hu ha hb _ ih =>
    have hmember : memberValue a = memberValue b := Prod.ext (name_eq_of_spelled ha hb) ih
    rw [Tree.value_of_members? ht, Tree.value_of_members? hu, List.map_append, List.map_append,
      List.map_cons, List.map_cons, hmember]
  | exchange ht hu hne =>
    rw [Tree.value_of_members? ht, Tree.value_of_members? hu]
    simp only [List.map_append, List.map_cons]
    rw [Members.ofPairs_exchange hne]
  | @overridden _ _ _ after a ht hu hlater =>
    obtain ⟨b, hb, hname⟩ := hlater
    have hvalue : ∃ pair ∈ after.map memberValue, pair.1 = (memberValue a).1 :=
      ⟨memberValue b, List.mem_map_of_mem hb, hname⟩
    rw [Tree.value_of_members? ht, Tree.value_of_members? hu, List.map_append, List.map_append,
      List.map_cons, Members.ofPairs_overridden hvalue]

/-! ## Texts -/

/-- Texts that differ in their spelling only. -/
def Respelling (text other : String) : Prop :=
  ∃ t u : Tree, t.Writes text ∧ u.Writes other ∧ Respelled t u

/-- Of texts that differ in their spelling only, all that are accepted are read as one value. -/
theorem Respelling.parse_eq {text other : String} (h : Respelling text other) {v w : Json}
    (hv : parse text = .ok v) (hw : parse other = .ok w) : v = w := by
  obtain ⟨t, u, ht, hu, hspelled⟩ := h
  rw [← (ht.parse_eq_ok_iff.mp hv).2, ← (hu.parse_eq_ok_iff.mp hw).2, hspelled.value_eq]

end DiagnosticDigest.Json.Written
