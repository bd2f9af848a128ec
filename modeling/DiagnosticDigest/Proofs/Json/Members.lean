import DiagnosticDigest.Json.Value
import Mathlib.Data.List.Induction
import Mathlib.Data.List.Sort

/-!
# Members in order

The members of an object stand in ascending order of their keys, whatever pairs they are built from;
pairs that are in that order already are kept as they are. Members in order are known by what is found
under each key, and of pairs the last one with a key is found.

## Main definitions

* `Members.Ascending` — members in strictly ascending order of their keys' bytes.
* `Members.erase` — members without those under a key.
* `Members.last?` — the value of the last pair with a key.
-/

namespace DiagnosticDigest.Members

variable {α : Type}

/-- Members in strictly ascending order of their keys' bytes, so that no key stands twice. -/
def Ascending (members : List (String × α)) : Prop :=
  members.Pairwise fun a b => Utf8.Before a.1 b.1

theorem mem_insert {key : String} {value : α} {members : List (String × α)} {m : String × α}
    (h : m ∈ insert key value members) : m = (key, value) ∨ m ∈ members := by
  induction members with
  | nil => simpa [insert] using h
  | cons first rest ih =>
    obtain ⟨name, held⟩ := first
    rw [insert] at h
    split at h
    · rcases List.mem_cons.mp h with rfl | h
      · exact .inl rfl
      · exact .inr (List.mem_cons_of_mem _ h)
    · split at h
      · exact List.mem_cons.mp h
      · rcases List.mem_cons.mp h with rfl | h
        · exact .inr List.mem_cons_self
        · exact (ih h).imp_right (List.mem_cons_of_mem _)

theorem Ascending.insert {members : List (String × α)} (h : Ascending members) (key : String)
    (value : α) : Ascending (insert key value members) := by
  induction members with
  | nil => exact List.pairwise_singleton _ _
  | cons first rest ih =>
    obtain ⟨name, held⟩ := first
    obtain ⟨hfirst, hrest⟩ := List.pairwise_cons.mp h
    rw [Members.insert]
    split
    · rename_i hkey
      subst hkey
      exact List.pairwise_cons.mpr ⟨hfirst, hrest⟩
    · rename_i hne
      split
      · rename_i hlt
        refine List.pairwise_cons.mpr ⟨?_, h⟩
        intro m hm
        rcases List.mem_cons.mp hm with rfl | hm
        · exact hlt
        · exact hlt.trans (hfirst m hm)
      · rename_i hlt
        refine List.pairwise_cons.mpr ⟨?_, ih hrest⟩
        intro m hm
        rcases mem_insert hm with rfl | hm
        · exact Utf8.Before.of_not hne hlt
        · exact hfirst m hm

/-- Members that are built from pairs are among the pairs. -/
theorem mem_of_mem_ofPairs {pairs : List (String × α)} {m : String × α} (h : m ∈ ofPairs pairs) :
    m ∈ pairs := by
  have hfold : ∀ members : List (String × α),
      m ∈ pairs.foldl (fun members pair => insert pair.1 pair.2 members) members →
        m ∈ members ∨ m ∈ pairs := by
    clear h
    induction pairs with
    | nil =>
      intro members hm
      exact .inl hm
    | cons pair pairs ih =>
      intro members hm
      rcases ih _ hm with hm | hm
      · rcases mem_insert hm with rfl | hm
        · exact .inr List.mem_cons_self
        · exact .inl hm
      · exact .inr (List.mem_cons_of_mem _ hm)
  simpa using hfold [] h

/-- Members that are built from pairs are in order. -/
theorem ascending_ofPairs (pairs : List (String × α)) : Ascending (ofPairs pairs) := by
  have h : ∀ members : List (String × α), Ascending members →
      Ascending (pairs.foldl (fun members pair => insert pair.1 pair.2 members) members) := by
    induction pairs with
    | nil =>
      intro members hmembers
      exact hmembers
    | cons pair pairs ih =>
      intro members hmembers
      exact ih _ (hmembers.insert pair.1 pair.2)
  exact h [] List.Pairwise.nil

/-- A key that comes behind all others is put last. -/
theorem insert_of_before {key : String} {value : α} {members : List (String × α)}
    (h : ∀ m ∈ members, Utf8.Before m.1 key) :
    insert key value members = members ++ [(key, value)] := by
  induction members with
  | nil => rfl
  | cons first rest ih =>
    obtain ⟨name, held⟩ := first
    have hlt : Utf8.Before name key := h (name, held) List.mem_cons_self
    have hne : key ≠ name := by
      rintro rfl
      exact Utf8.Before.irrefl key hlt
    have hnot : ¬ Utf8.Before key name := fun hgt => Utf8.Before.irrefl key (hgt.trans hlt)
    rw [insert, if_neg hne, if_neg hnot, ih (fun m hm => h m (List.mem_cons_of_mem _ hm)),
      List.cons_append]

/-- Pairs that are in order are the members themselves. -/
theorem ofPairs_of_ascending {pairs : List (String × α)} (h : Ascending pairs) :
    ofPairs pairs = pairs := by
  have hfold : ∀ members : List (String × α), Ascending (members ++ pairs) →
      pairs.foldl (fun members pair => insert pair.1 pair.2 members) members =
        members ++ pairs := by
    clear h
    induction pairs with
    | nil =>
      intro members _
      rw [List.foldl_nil, List.append_nil]
    | cons pair pairs ih =>
      intro members hall
      have hbefore : ∀ m ∈ members, Utf8.Before m.1 pair.1 := by
        intro m hm
        exact (List.pairwise_append.mp hall).2.2 m hm pair List.mem_cons_self
      rw [List.foldl_cons, insert_of_before hbefore, ih _ (by simpa using hall)]
      simp
  exact hfold [] h

/-! ## Looking up -/

/-- Members without those under a key. -/
def erase (key : String) (members : List (String × α)) : List (String × α) :=
  members.filter fun m => m.1 ≠ key

/-- Nothing is found under a key that was erased, and other keys keep their values. -/
theorem find?_erase (key other : String) (members : List (String × α)) :
    find? other (erase key members) = if other = key then none else find? other members := by
  induction members with
  | nil => simp [erase, find?]
  | cons member rest ih =>
    obtain ⟨first, held⟩ := member
    by_cases hfirst : first = key
    · have herase : erase key ((first, held) :: rest) = erase key rest :=
        List.filter_cons_of_neg (by simp [hfirst])
      rw [herase, ih, find?]
      by_cases h : other = key <;> simp [h, hfirst]
    · have herase : erase key ((first, held) :: rest) = (first, held) :: erase key rest :=
        List.filter_cons_of_pos (by simp [hfirst])
      rw [herase, find?, find?, ih]
      by_cases h : other = first
      · subst h
        simp [hfirst]
      · simp [h]

/-- In members that are in order, what is found under a key is the member with that key. -/
theorem Ascending.find?_eq_some_iff {members : List (String × α)} (h : Ascending members)
    {key : String} {value : α} : find? key members = some value ↔ (key, value) ∈ members := by
  induction members with
  | nil => simp [find?]
  | cons member rest ih =>
    obtain ⟨first, held⟩ := member
    obtain ⟨hfirst, hrest⟩ := List.pairwise_cons.mp h
    rw [find?, List.mem_cons, Prod.mk.injEq]
    split
    · rename_i hkey
      subst hkey
      -- a key that stands in front does not come again
      have hnot : (key, value) ∉ rest := fun hmem => Utf8.Before.irrefl key (hfirst _ hmem)
      simp [hnot, eq_comm]
    · rename_i hkey
      simp [hkey, ih hrest]

/-- Members in order that hold the same value under each key are equal. -/
theorem Ascending.ext_find? {a b : List (String × α)} (ha : Ascending a) (hb : Ascending b)
    (h : ∀ key, find? key a = find? key b) : a = b := by
  have hirrefl : Std.Irrefl fun a b : String × α => Utf8.Before a.1 b.1 :=
    ⟨fun m => Utf8.Before.irrefl m.1⟩
  have hantisymm : Std.Antisymm fun a b : String × α => Utf8.Before a.1 b.1 :=
    ⟨fun m n hmn hnm => absurd (hmn.trans hnm) (Utf8.Before.irrefl m.1)⟩
  refine List.Pairwise.eq_of_mem_iff ha hb fun ⟨key, value⟩ => ?_
  rw [← ha.find?_eq_some_iff, ← hb.find?_eq_some_iff, h]

/-- The value of the last pair with a key. -/
def last? (key : String) (pairs : List (String × α)) : Option α :=
  (pairs.reverse.find? fun pair => pair.1 = key).map Prod.snd

/-- Of several pairs with a key, the last one counts. -/
theorem find?_ofPairs (key : String) (pairs : List (String × α)) :
    find? key (ofPairs pairs) = last? key pairs := by
  induction pairs using List.reverseRecOn with
  | nil => rfl
  | append_singleton pairs pair ih =>
    rw [last?] at ih
    rw [ofPairs, List.foldl_append, List.foldl_cons, List.foldl_nil, find?_insert, last?,
      List.reverse_append, List.reverse_singleton, List.singleton_append, List.find?_cons]
    by_cases hkey : key = pair.1
    · simp [hkey]
    · rw [if_neg hkey, decide_eq_false (Ne.symm hkey)]
      exact ih

/-- Pairs that give the same last value under each key give the same members. -/
theorem ofPairs_eq_of_last? {pairs others : List (String × α)}
    (h : ∀ key, last? key pairs = last? key others) : ofPairs pairs = ofPairs others := by
  refine (ascending_ofPairs pairs).ext_find? (ascending_ofPairs others) fun key => ?_
  rw [find?_ofPairs, find?_ofPairs, h]

/-- Neighbours with different keys may change places. -/
theorem ofPairs_exchange {a b : String × α} (h : a.1 ≠ b.1) (before after : List (String × α)) :
    ofPairs (before ++ a :: b :: after) = ofPairs (before ++ b :: a :: after) := by
  apply ofPairs_eq_of_last?
  intro key
  have hpair : List.find? (fun pair => pair.1 = key) [b, a] =
      List.find? (fun pair => pair.1 = key) [a, b] := by
    by_cases ha : a.1 = key
    · have hb : b.1 ≠ key := fun hb => h (ha.trans hb.symm)
      simp [ha, hb]
    · by_cases hb : b.1 = key <;> simp [ha, hb]
  have hreverse : ∀ c d : String × α,
      (before ++ c :: d :: after).reverse = after.reverse ++ ([d, c] ++ before.reverse) := by
    simp
  rw [last?, last?, hreverse, hreverse, List.find?_append, List.find?_append,
    List.find?_append, List.find?_append, hpair]

/-- A pair that a later one with its key overrides may be left out. -/
theorem ofPairs_overridden {a : String × α} {after : List (String × α)}
    (h : ∃ b ∈ after, b.1 = a.1) (before : List (String × α)) :
    ofPairs (before ++ a :: after) = ofPairs (before ++ after) := by
  apply ofPairs_eq_of_last?
  intro key
  rw [last?, last?, List.reverse_append, List.reverse_append, List.reverse_cons, List.append_assoc,
    List.find?_append, List.find?_append, List.find?_append]
  by_cases ha : a.1 = key
  · -- the later pair is found first
    obtain ⟨b, hb, hkey⟩ := h
    have hfound : (after.reverse.find? fun pair => pair.1 = key).isSome := by
      rw [List.find?_isSome]
      exact ⟨b, List.mem_reverse.mpr hb, by simpa [hkey] using ha⟩
    obtain ⟨found, hfound⟩ := Option.isSome_iff_exists.mp hfound
    rw [hfound, Option.some_or, Option.some_or]
  · simp [ha]

end DiagnosticDigest.Members
