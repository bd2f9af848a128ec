import DiagnosticDigest.Proofs.Json.Lists
import DiagnosticDigest.Proofs.Json.Members

/-!
# The parts of a tree

Arrays and objects have two forms as they are written, one for what holds nothing. Here they are seen
as one: a list of items, or a list of members, with or without something in it.

## Main definitions

* `Written.Tree.items?`, `Written.Tree.members?` — the items of an array and the members of an object.
* `Written.Tree.inside` — the trees right inside a tree.
* `Written.Member.name` — the key of a member, as it is meant.
* `Written.Blanks.none`, `Written.Padded.bare`, `Written.Member.bare` — parts without blanks.
* `Written.rawPieces` — characters that stand for themselves.
* `Written.Tree.member?`, `Written.Tree.firstItem?` — the tree of a member, and that of the first item.
-/

namespace DiagnosticDigest.Json.Written

/-- The items of an array. -/
def Tree.items? : Tree → Option (List (Padded Tree))
  | .emptyArray _ => some []
  | .array first more => some (first :: more)
  | _ => none

/-- The members of an object, in the order of the text. -/
def Tree.members? : Tree → Option (List (Member Tree))
  | .emptyObject _ => some []
  | .object first more => some (first :: more)
  | _ => none

/-- What has items is no object. -/
theorem Tree.members?_of_items? {t : Tree} {items : List (Padded Tree)}
    (h : t.items? = some items) : t.members? = none := by
  cases t with
  | emptyArray | array => rfl
  | null | bool | number | string | emptyObject | object => simp [Tree.items?] at h

/-- The key of a member, as it is meant. -/
def Member.name (m : Member Tree) : String :=
  String.ofList (meaning m.key)

/-! ## Parts without blanks -/

/-- A place without blanks. -/
def Blanks.none : Blanks where
  text := []
  blank := by simp

/-- An item without blanks. -/
def Padded.bare (t : Tree) : Padded Tree where
  before := .none
  held := t
  after := .none

/-- A member without blanks. -/
def Member.bare (key : List Piece) (t : Tree) : Member Tree where
  before := .none
  key := key
  between := .none
  value := .bare t

/-! ## Values -/

theorem itemsValues_eq_map (items : List (Padded Tree)) :
    itemsValues items = items.map fun item => item.held.value := by
  induction items with
  | nil => rfl
  | cons item items ih => rw [List.map_cons, ← ih]; rfl

theorem membersValues_eq_map (members : List (Member Tree)) :
    membersValues members = members.map memberValue := by
  induction members with
  | nil => rfl
  | cons m members ih => rw [membersValues_cons, List.map_cons, ih]

theorem Tree.value_of_items? {t : Tree} {items : List (Padded Tree)} (h : t.items? = some items) :
    t.value = .array (items.map fun item => item.held.value) := by
  rw [← itemsValues_eq_map]
  cases t with
  | emptyArray inside =>
    obtain rfl := Option.some.inj h
    rfl
  | array first more =>
    obtain rfl := Option.some.inj h
    rfl
  | null | bool | number | string | emptyObject | object => simp [Tree.items?] at h

theorem Tree.value_of_members? {t : Tree} {members : List (Member Tree)}
    (h : t.members? = some members) :
    t.value = .object (Members.ofPairs (members.map memberValue)) := by
  rw [← membersValues_eq_map]
  cases t with
  | emptyObject inside =>
    obtain rfl := Option.some.inj h
    rfl
  | object first more =>
    obtain rfl := Option.some.inj h
    rfl
  | null | bool | number | string | emptyArray | array => simp [Tree.members?] at h

/-! ## Looking up -/

/-- What stands under a key; of several members with the key it is the last one. -/
def Tree.member? (key : String) (t : Tree) : Option Tree :=
  t.members?.bind fun members =>
    (members.reverse.find? fun m => m.name = key).map fun m => m.value.held

/-- The first item of an array. -/
def Tree.firstItem? (t : Tree) : Option Tree :=
  t.items?.bind fun items => items.head?.map fun item => item.held

/-- What stands under a key in the text is what is found there in the value. -/
theorem Tree.find?_of_member? {t u : Tree} {key : String} (h : t.member? key = some u) :
    ∃ members, t.value = .object members ∧ Members.find? key members = some u.value := by
  obtain ⟨members, hmembers, hfound⟩ := Option.bind_eq_some_iff.mp h
  obtain ⟨m, hm, rfl⟩ := Option.map_eq_some_iff.mp hfound
  have hname : ((fun pair : String × Json => decide (pair.1 = key)) ∘ memberValue) =
      fun m : Member Tree => decide (m.name = key) := rfl
  refine ⟨_, Tree.value_of_members? hmembers, ?_⟩
  rw [Members.find?_ofPairs, Members.last?, ← List.map_reverse, List.find?_map, hname, hm]
  rfl

/-- The first item of an array in the text is the first one of the value. -/
theorem Tree.value_of_firstItem? {t u : Tree} (h : t.firstItem? = some u) :
    ∃ more, t.value = .array (u.value :: more) := by
  obtain ⟨items, hitems, hfirst⟩ := Option.bind_eq_some_iff.mp h
  obtain ⟨item, hitem, rfl⟩ := Option.map_eq_some_iff.mp hfirst
  obtain ⟨more, rfl⟩ := List.head?_eq_some_iff.mp hitem
  exact ⟨_, Tree.value_of_items? hitems⟩

/-! ## What is asked of a tree -/

theorem Tree.admitted_of_items? {t : Tree} {items : List (Padded Tree)} {n : Nat}
    (h : t.items? = some items) :
    t.Admitted (n + 1) ↔ ∀ item ∈ items, item.held.Admitted n := by
  cases t with
  | emptyArray inside =>
    obtain rfl := Option.some.inj h
    simpa using admitted_leaf (Nat.le_add_left 1 n) rfl
  | array first more =>
    obtain rfl := Option.some.inj h
    exact admitted_array
  | null | bool | number | string | emptyObject | object => simp [Tree.items?] at h

theorem Tree.admitted_of_members? {t : Tree} {members : List (Member Tree)} {n : Nat}
    (h : t.members? = some members) :
    t.Admitted (n + 1) ↔ ∀ m ∈ members, Paired m.key ∧ m.value.held.Admitted n := by
  cases t with
  | emptyObject inside =>
    obtain rfl := Option.some.inj h
    simpa using admitted_leaf (Nat.le_add_left 1 n) rfl
  | object first more =>
    obtain rfl := Option.some.inj h
    exact admitted_object
  | null | bool | number | string | emptyArray | array => simp [Tree.members?] at h

/-! ## Trees inside trees -/

/-- The trees right inside a tree. -/
def Tree.inside (t : Tree) : List Tree :=
  match t with
  | .array first more => (first :: more).map fun item => item.held
  | .object first more => (first :: more).map fun m => m.value.held
  | _ => []

theorem Tree.inside_of_items? {t : Tree} {items : List (Padded Tree)} (h : t.items? = some items) :
    t.inside = items.map fun item => item.held := by
  cases t with
  | emptyArray | array =>
    obtain rfl := Option.some.inj h
    rfl
  | null | bool | number | string | emptyObject | object => simp [Tree.items?] at h

theorem Tree.inside_of_members? {t : Tree} {members : List (Member Tree)}
    (h : t.members? = some members) : t.inside = members.map fun m => m.value.held := by
  cases t with
  | emptyObject | object =>
    obtain rfl := Option.some.inj h
    rfl
  | null | bool | number | string | emptyArray | array => simp [Tree.members?] at h

theorem Tree.depth_lt_of_mem_inside {t u : Tree} (h : u ∈ t.inside) : u.depth < t.depth := by
  cases t with
  | array first more =>
    obtain ⟨item, hitem, rfl⟩ := List.mem_map.mp h
    exact Nat.lt_succ_of_le (itemsDepth_le_iff.mp (le_refl (itemsDepth (first :: more))) item hitem)
  | object first more =>
    obtain ⟨m, hm, rfl⟩ := List.mem_map.mp h
    exact Nat.lt_succ_of_le
      (membersDepth_le_iff.mp (le_refl (membersDepth (first :: more))) m hm)
  | null | bool | number | string | emptyArray | emptyObject => simp [Tree.inside] at h

/-- What holds of a tree if it holds of the trees right inside holds of every tree. -/
theorem Tree.induction {P : Tree → Prop} (h : ∀ t : Tree, (∀ u ∈ t.inside, P u) → P t)
    (t : Tree) : P t := by
  induction hdepth : t.depth using Nat.strongRecOn generalizing t with
  | ind depth ih =>
    apply h
    intro u hu
    exact ih u.depth (hdepth ▸ Tree.depth_lt_of_mem_inside hu) u rfl

/-! ## Characters as they are -/

/-- Whether a character can stand for itself in a string. -/
def unescaped (c : Char) : Bool :=
  c ≠ '"' && c ≠ '\\' && 0x20 ≤ c.toNat

theorem unescaped_iff {c : Char} :
    unescaped c = true ↔ c ≠ '"' ∧ c ≠ '\\' ∧ 0x20 ≤ c.toNat := by
  simp [unescaped, and_assoc]

/-- The characters of a text, as far as they can stand for themselves. -/
def rawPieces (text : String) : List Piece :=
  text.toList.filterMap fun c =>
    if h : unescaped c = true then some (.plain c (unescaped_iff.mp h)) else none

/-- Characters that can stand for themselves spell the text. -/
theorem spelled_rawPieces {text : String} (h : text.toList.all unescaped = true) :
    Spelled (rawPieces text) text.toList := by
  rw [List.all_eq_true] at h
  rw [rawPieces]
  generalize text.toList = cs at h
  induction cs with
  | nil => exact .nil
  | cons c cs ih =>
    obtain ⟨hc, hcs⟩ := List.forall_mem_cons.mp h
    rw [List.filterMap_cons_some (dif_pos hc)]
    exact .cons (.plain c (unescaped_iff.mp hc)) (ih hcs)

end DiagnosticDigest.Json.Written
