import DiagnosticDigest.Json.Compact
import DiagnosticDigest.Proofs.Json.Integers
import Mathlib.Tactic.Choose

/-!
# Compact text read back

The compact text of a value is a written value, and reads as the value it was made from, as long as
its numbers are whole and fit 64 bits.

## Main definitions

* `Plain` — values that their compact text gives back, nested at most so deep.
-/

namespace DiagnosticDigest.Json

open Written

/-! ## Strings -/

theorem hexDigit?_hexChar (n : Fin 16) : hexDigit? (hexChar n.val) = some n.val := by
  revert n
  decide

/-- A control character is written by its number. -/
theorem exists_control {c : Char} (h : c.toNat < 0x20) :
    ∃ x : Code, Char.ofNat x.number = c ∧ x.number < 0x20 ∧
      x.text = ['0', '0', hexChar (c.toNat / 0x10), hexChar (c.toNat % 0x10)] := by
  obtain ⟨zero, hzero, hzeroValue⟩ := exists_hexDigit (hexDigit?_hexChar 0)
  obtain ⟨high, hhigh, hhighValue⟩ :=
    exists_hexDigit (hexDigit?_hexChar ⟨c.toNat / 0x10, by omega⟩)
  obtain ⟨low, hlow, hlowValue⟩ := exists_hexDigit (hexDigit?_hexChar ⟨c.toNat % 0x10, by omega⟩)
  have hnumber : Code.number ⟨zero, zero, high, low⟩ = c.toNat := by
    rw [Code.number, hzeroValue, hhighValue, hlowValue]
    simp only [Fin.val_zero]
    omega
  refine ⟨⟨zero, zero, high, low⟩, ?_, by omega, ?_⟩
  · rw [hnumber, Char.ofNat_toNat]
  · rw [Code.text, hzero, hhigh, hlow]
    rfl

/-- A character is written as one piece that stands for it. -/
theorem exists_piece (c : Char) : ∃ p : Piece, p.text = escaped c ∧ Stands [p] c := by
  rw [escaped]
  split
  · rename_i hc
    exact ⟨.simple .quote, rfl, hc ▸ .simple .quote⟩
  split
  · rename_i hc
    exact ⟨.simple .backslash, rfl, hc ▸ .simple .backslash⟩
  split
  · rename_i hc
    exact ⟨.simple .backspace, rfl, hc ▸ .simple .backspace⟩
  split
  · rename_i hc
    exact ⟨.simple .formFeed, rfl, hc ▸ .simple .formFeed⟩
  split
  · rename_i hc
    exact ⟨.simple .lineFeed, rfl, hc ▸ .simple .lineFeed⟩
  split
  · rename_i hc
    exact ⟨.simple .carriageReturn, rfl, hc ▸ .simple .carriageReturn⟩
  split
  · rename_i hc
    exact ⟨.simple .tab, rfl, hc ▸ .simple .tab⟩
  split
  · rename_i hc
    obtain ⟨x, hx, hlt, htext⟩ := exists_control hc
    refine ⟨.code x, by rw [Piece.text, htext], ?_⟩
    have hstands := Stands.code x (by simp [isLeading]; omega) (by simp [isTrailing]; omega)
    rw [hx] at hstands
    exact hstands
  · rename_i hquote hbackslash _ _ _ _ _ hcontrol
    exact ⟨.plain c ⟨hquote, hbackslash, by omega⟩, rfl, .plain c _⟩

theorem exists_pieces_of_chars (cs : List Char) :
    ∃ pieces : List Piece, piecesText pieces = cs.flatMap escaped ∧ Spelled pieces cs := by
  induction cs with
  | nil => exact ⟨[], rfl, .nil⟩
  | cons c cs ih =>
    obtain ⟨p, hp, hstands⟩ := exists_piece c
    obtain ⟨pieces, hpieces, hspelled⟩ := ih
    refine ⟨p :: pieces, ?_, .cons hstands hspelled⟩
    rw [List.flatMap_cons, ← hp, ← hpieces]
    rfl

/-- A string as it is written between quotes is one with paired surrogates, and means itself. -/
theorem exists_pieces (text : String) :
    ∃ pieces : List Piece, stringText pieces = quotedText text ∧ Paired pieces ∧
      String.ofList (meaning pieces) = text := by
  obtain ⟨pieces, hpieces, hspelled⟩ := exists_pieces_of_chars text.toList
  refine ⟨pieces, ?_, hspelled.paired, ?_⟩
  · rw [stringText, quotedText, hpieces]
  · rw [hspelled.meaning_eq, String.ofList_toList]

/-! ## Values -/

/-- Values that are nested at most so deep, whose numbers are whole and fit 64 bits, and whose members
are in order. -/
inductive Plain : Nat → Json → Prop
  | null {depth : Nat} : Plain depth .null
  | bool {depth : Nat} (b : Bool) : Plain depth (.bool b)
  | integer {depth : Nat} {z : Int} : -0x8000000000000000 ≤ z → z ≤ 0xFFFFFFFFFFFFFFFF →
      Plain depth (.number (.integer z))
  | string {depth : Nat} (text : String) : Plain depth (.string text)
  | array {depth : Nat} {items : List Json} : (∀ item ∈ items, Plain depth item) →
      Plain (depth + 1) (.array items)
  | object {depth : Nat} {members : List (String × Json)} :
      (∀ m ∈ members, Plain depth m.2) → Members.Ascending members →
        Plain (depth + 1) (.object members)

/-- A tree for a depth that is written as the compact text of a value, and stands for it. -/
def Written.Tree.Shows (depth : Nat) (v : Json) (t : Tree) : Prop :=
  t.text = compactChars v ∧ t.value = v ∧ t.Admitted depth

instance : Inhabited Tree :=
  ⟨.null⟩

theorem itemText_bare (t : Tree) : itemText (.bare t) = t.text := by
  simp [Padded.bare, itemText, Blanks.none]

theorem itemsText_bare {f : Json → Tree} {vs : List Json}
    (h : ∀ v ∈ vs, (f v).text = compactChars v) :
    itemsText (vs.map fun v => .bare (f v)) ++ [']'] = compactItems vs := by
  induction vs with
  | nil => simp [itemsText, compactItems]
  | cons v vs ih =>
    obtain ⟨hv, hvs⟩ := List.forall_mem_cons.mp h
    rw [List.map_cons, itemsText, compactItems, itemText_bare, hv, ← ih hvs]
    simp

theorem memberText_bare {key : String} {pieces : List Piece}
    (hkey : stringText pieces = quotedText key) (t : Tree) :
    memberText (.bare pieces t) = quotedText key ++ ':' :: t.text := by
  simp [Member.bare, memberText, itemText_bare, Blanks.none, hkey]

theorem membersText_bare {f : Json → Tree} {keys : String → List Piece}
    (hkeys : ∀ key, stringText (keys key) = quotedText key) {pairs : List (String × Json)}
    (h : ∀ pair ∈ pairs, (f pair.2).text = compactChars pair.2) :
    membersText (pairs.map fun pair => .bare (keys pair.1) (f pair.2)) ++ ['\x7d'] =
      compactMembers pairs := by
  induction pairs with
  | nil => simp [membersText, compactMembers]
  | cons pair pairs ih =>
    obtain ⟨hpair, hpairs⟩ := List.forall_mem_cons.mp h
    rw [List.map_cons, membersText, compactMembers, memberText_bare (hkeys pair.1), hpair,
      ← ih hpairs]
    simp

/-- Where the items of an array are written compactly, so is the array. -/
theorem exists_array {P : Json → Tree → Prop} {vs : List Json}
    (h : ∀ v ∈ vs, ∃ t : Tree, t.text = compactChars v ∧ P v t) :
    ∃ (t : Tree) (f : Json → Tree), t.text = compactChars (.array vs) ∧
      t.items? = some (vs.map fun v => .bare (f v)) ∧ ∀ v ∈ vs, P v (f v) := by
  choose! f htext hP using h
  cases vs with
  | nil =>
    exact ⟨.emptyArray .none, f, by simp [Tree.text, Blanks.none, compactChars], rfl, hP⟩
  | cons v vs =>
    obtain ⟨hv, hvs⟩ := List.forall_mem_cons.mp htext
    refine ⟨.array (.bare (f v)) (vs.map fun v => .bare (f v)), f, ?_, rfl, hP⟩
    rw [Tree.text, compactChars, itemText_bare, hv, ← itemsText_bare hvs]
    simp

/-- Where the values of an object's members are written compactly, so is the object, with its members
in their order. -/
theorem exists_object {P : Json → Tree → Prop} {pairs : List (String × Json)}
    (h : ∀ pair ∈ pairs, ∃ t : Tree, t.text = compactChars pair.2 ∧ P pair.2 t) :
    ∃ (t : Tree) (keys : String → List Piece) (f : Json → Tree),
      t.text = compactChars (.object pairs) ∧
      t.members? = some (pairs.map fun pair => .bare (keys pair.1) (f pair.2)) ∧
      (∀ key, Paired (keys key) ∧ String.ofList (meaning (keys key)) = key) ∧
      ∀ pair ∈ pairs, P pair.2 (f pair.2) := by
  choose keys hkeys hmeaning using exists_pieces
  have hvalues : ∀ v ∈ pairs.map Prod.snd, ∃ t : Tree, t.text = compactChars v ∧ P v t := by
    simpa only [List.forall_mem_map] using h
  choose! f htext hP using hvalues
  rw [List.forall_mem_map] at htext hP
  cases pairs with
  | nil =>
    exact ⟨.emptyObject .none, keys, f, by simp [Tree.text, Blanks.none, compactChars], rfl,
      hmeaning, hP⟩
  | cons pair pairs =>
    obtain ⟨hpair, hpairs⟩ := List.forall_mem_cons.mp htext
    refine ⟨.object (.bare (keys pair.1) (f pair.2))
      (pairs.map fun pair => .bare (keys pair.1) (f pair.2)), keys, f, ?_, rfl, hmeaning, hP⟩
    rw [Tree.text, compactChars, memberText_bare (hkeys pair.1), hpair,
      ← membersText_bare hkeys hpairs]
    simp

theorem exists_plain_array {depth : Nat} {vs : List Json}
    (h : ∀ v ∈ vs, ∃ t : Tree, t.Shows depth v) :
    ∃ t : Tree, t.Shows (depth + 1) (.array vs) := by
  obtain ⟨t, f, htext, hitems, hall⟩ := exists_array h
  refine ⟨t, htext, ?_, (Tree.admitted_of_items? hitems).mpr ?_⟩
  · have hvalues : ∀ v ∈ vs, (f v).value = v := fun v hv => (hall v hv).1
    rw [Tree.value_of_items? hitems, List.map_map]
    exact congrArg _ ((List.map_congr_left hvalues).trans (List.map_id vs))
  · rw [List.forall_mem_map]
    exact fun v hv => (hall v hv).2

theorem exists_plain_object {depth : Nat} {pairs : List (String × Json)}
    (h : ∀ pair ∈ pairs, ∃ t : Tree, t.Shows depth pair.2) (horder : Members.Ascending pairs) :
    ∃ t : Tree, t.Shows (depth + 1) (.object pairs) := by
  obtain ⟨t, keys, f, htext, hmembers, hkeys, hall⟩ :=
    exists_object (P := fun v t => t.value = v ∧ t.Admitted depth) h
  refine ⟨t, htext, ?_, (Tree.admitted_of_members? hmembers).mpr ?_⟩
  · have hpairs : ∀ pair ∈ pairs, memberValue (.bare (keys pair.1) (f pair.2)) = pair :=
      fun pair hpair => Prod.ext (hkeys pair.1).2 (hall pair hpair).1
    have hsame : pairs.map (memberValue ∘ fun pair => .bare (keys pair.1) (f pair.2)) = pairs :=
      (List.map_congr_left hpairs).trans (List.map_id pairs)
    rw [Tree.value_of_members? hmembers, List.map_map, hsame,
      Members.ofPairs_of_ascending horder]
  · rw [List.forall_mem_map]
    exact fun pair hpair => ⟨(hkeys pair.1).1, (hall pair hpair).2⟩

/-- The compact text of such a value is written from a tree. -/
theorem exists_tree {depth : Nat} {v : Json} (h : Plain depth v) :
    ∃ t : Tree, t.Shows depth v := by
  induction h with
  | null => exact ⟨.null, rfl, rfl, admitted_leaf (Nat.zero_le _) rfl⟩
  | bool b =>
    exact ⟨.bool b, by cases b <;> rfl, rfl, admitted_leaf (Nat.zero_le _) rfl⟩
  | @integer _ z hlow hhigh =>
    obtain ⟨n, hn⟩ := NumberText.exists_denotes z
    have hvalue := NumberText.value_eq_integer_iff.mpr ⟨hn, by rw [Fits]; omega⟩
    exact ⟨.number n, by rw [Tree.text, hn.text_eq]; rfl,
      by rw [Tree.value, NumberText.value, hvalue], admitted_number ⟨_, hvalue⟩ _⟩
  | string text =>
    obtain ⟨pieces, hpieces, hpaired, hmeaning⟩ := exists_pieces text
    exact ⟨.string pieces, by rw [Tree.text, hpieces]; rfl, by rw [Tree.value, hmeaning],
      admitted_string hpaired _⟩
  | array _ ih => exact exists_plain_array ih
  | object _ horder ih => exact exists_plain_object ih horder

/-- Compact text reads as the value it was made from. -/
theorem parse_compact {v : Json} (h : Plain maxDepth v) : parse (compact v) = .ok v := by
  obtain ⟨t, htext, hvalue, hadmitted⟩ := exists_tree h
  refine parse_eq_ok_iff.mpr ⟨.none, .none, t, ?_, hadmitted, hvalue⟩
  rw [compact, String.toList_ofList, ← htext]
  simp [Blanks.none]

end DiagnosticDigest.Json
