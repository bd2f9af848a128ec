import DiagnosticDigest.Proofs.Json.Numbers
import DiagnosticDigest.Proofs.Json.Strings
import Mathlib.Data.List.TakeWhile

/-!
# Reading lists

The inside of arrays and objects, for any reader of the values that stand there. If the reader takes
written values, the lists of such values are taken, with the commas and blanks between them; if
whatever it takes is a written value, whatever is taken as a list is a list of such values.

## Main definitions

* `Written.Delimited` — texts that may follow a value.
* `Written.Tree.Admitted` — what is asked of a tree: a depth, and that its parts are admitted.
* `Written.Takes`, `Written.Finds` — what is asked of a reader, in the two directions.
-/

namespace DiagnosticDigest.Json.Written

/-! ## Blanks -/

theorem isBlank_iff {c : Char} :
    isBlank c = true ↔ c = ' ' ∨ c = '\t' ∨ c = '\n' ∨ c = '\r' := by
  simp only [isBlank, Bool.or_eq_true, decide_eq_true_eq]
  tauto

theorem skipBlanks_append (blanks : Blanks) (text : List Char) :
    skipBlanks (blanks.text ++ text) = skipBlanks text := by
  apply List.dropWhile_append_of_pos
  intro c hc
  exact isBlank_iff.mpr (blanks.blank c hc)

theorem skipBlanks_text (blanks : Blanks) : skipBlanks blanks.text = [] := by
  have h := skipBlanks_append blanks []
  rw [List.append_nil] at h
  exact h

theorem skipBlanks_cons {c : Char} (h : isBlank c = false) (text : List Char) :
    skipBlanks (c :: text) = c :: text := by
  rw [skipBlanks, List.dropWhile_cons_of_neg (by simp [h])]

/-- What is skipped of a text is blanks. -/
theorem exists_blanks (text : List Char) :
    ∃ blanks : Blanks, text = blanks.text ++ skipBlanks text := by
  refine ⟨⟨text.takeWhile isBlank, fun c hc => ?_⟩, List.takeWhile_append_dropWhile.symm⟩
  exact isBlank_iff.mp (List.mem_takeWhile_imp hc)

/-- Texts that may follow a value: they are empty, or begin with a blank or with what separates or
ends items and members. -/
def Delimited (text : List Char) : Prop :=
  ∀ c ∈ text.head?, isBlank c = true ∨ c = ',' ∨ c = ']' ∨ c = '\x7d'

theorem Delimited.endsNumber {text : List Char} (h : Delimited text) : EndsNumber text := by
  intro c hc
  rcases h c hc with hblank | rfl | rfl | rfl
  · rcases isBlank_iff.mp hblank with rfl | rfl | rfl | rfl <;> decide
  all_goals decide

theorem Delimited.append_blanks {text : List Char} (h : Delimited text) (blanks : Blanks) :
    Delimited (blanks.text ++ text) := by
  intro c hc
  cases hblanks : blanks.text with
  | nil =>
    rw [hblanks] at hc
    exact h c hc
  | cons first more =>
    rw [hblanks] at hc
    obtain rfl : first = c := by simpa using hc
    exact .inl (isBlank_iff.mpr (blanks.blank first (by rw [hblanks]; simp)))

theorem delimited_cons {c : Char} (h : c = ',' ∨ c = ']' ∨ c = '\x7d') (text : List Char) :
    Delimited (c :: text) := by
  intro d hd
  obtain rfl : c = d := by simpa using hd
  exact .inr h

theorem delimited_blanks (blanks : Blanks) : Delimited blanks.text := by
  have h : Delimited [] := by
    intro c hc
    simp at hc
  simpa using h.append_blanks blanks

/-! ## What is asked of a tree -/

/-- What a reader of values that are nested at most so deep asks of a tree. -/
structure Tree.Admitted (depth : Nat) (t : Tree) : Prop where
  depth_le : t.depth ≤ depth
  tokens : ∀ token ∈ t.tokens, token.Admitted

theorem admitted_leaf {depth : Nat} {t : Tree} (hdepth : t.depth ≤ depth)
    (htokens : t.tokens = []) : t.Admitted depth := by
  refine ⟨hdepth, ?_⟩
  rw [htokens]
  simp

theorem admitted_string {pieces : List Piece} (h : Paired pieces) (depth : Nat) :
    (Tree.string pieces).Admitted depth := by
  refine ⟨Nat.zero_le depth, ?_⟩
  rw [Tree.tokens, List.forall_mem_singleton]
  exact h

theorem admitted_number {n : NumberText} (h : n.InRange) (depth : Nat) :
    (Tree.number n).Admitted depth := by
  refine ⟨Nat.zero_le depth, ?_⟩
  rw [Tree.tokens, List.forall_mem_singleton]
  exact h

theorem itemsDepth_le_iff {items : List (Padded Tree)} {n : Nat} :
    itemsDepth items ≤ n ↔ ∀ item ∈ items, item.held.depth ≤ n := by
  induction items with
  | nil => simp [itemsDepth]
  | cons item items ih =>
    obtain ⟨before, held, after⟩ := item
    rw [itemsDepth, Nat.max_le, List.forall_mem_cons, ih]

theorem mem_itemsTokens_iff {items : List (Padded Tree)} {token : Token} :
    token ∈ itemsTokens items ↔ ∃ item ∈ items, token ∈ item.held.tokens := by
  induction items with
  | nil => simp [itemsTokens]
  | cons item items ih =>
    obtain ⟨before, held, after⟩ := item
    simp [itemsTokens, ih]

theorem membersDepth_le_iff {members : List (Member Tree)} {n : Nat} :
    membersDepth members ≤ n ↔ ∀ member ∈ members, member.value.held.depth ≤ n := by
  induction members with
  | nil => simp [membersDepth]
  | cons member members ih =>
    obtain ⟨before, key, between, ⟨inside, held, after⟩⟩ := member
    rw [membersDepth, Nat.max_le, List.forall_mem_cons, ih]

theorem mem_membersTokens_iff {members : List (Member Tree)} {token : Token} :
    token ∈ membersTokens members ↔
      ∃ member ∈ members, token = .string member.key ∨ token ∈ member.value.held.tokens := by
  induction members with
  | nil => simp [membersTokens]
  | cons member members ih =>
    obtain ⟨before, key, between, ⟨inside, held, after⟩⟩ := member
    simp [membersTokens, ih, or_assoc]

/-- An array has what is asked for if its items have what is asked for a depth less. -/
theorem admitted_array {first : Padded Tree} {more : List (Padded Tree)} {n : Nat} :
    (Tree.array first more).Admitted (n + 1) ↔ ∀ item ∈ first :: more, item.held.Admitted n := by
  have hdepth : (Tree.array first more).depth = itemsDepth (first :: more) + 1 := rfl
  have htokens : (Tree.array first more).tokens = itemsTokens (first :: more) := rfl
  constructor
  · rintro ⟨hle, htoken⟩ item hitem
    rw [hdepth, Nat.add_le_add_iff_right, itemsDepth_le_iff] at hle
    rw [htokens] at htoken
    exact ⟨hle item hitem, fun token h => htoken token (mem_itemsTokens_iff.mpr ⟨item, hitem, h⟩)⟩
  · intro h
    refine ⟨?_, fun token htoken => ?_⟩
    · rw [hdepth, Nat.add_le_add_iff_right, itemsDepth_le_iff]
      exact fun item hitem => (h item hitem).depth_le
    · rw [htokens, mem_itemsTokens_iff] at htoken
      obtain ⟨item, hitem, hmem⟩ := htoken
      exact (h item hitem).tokens token hmem

theorem admitted_object {first : Member Tree} {more : List (Member Tree)} {n : Nat} :
    (Tree.object first more).Admitted (n + 1) ↔
      ∀ member ∈ first :: more, Paired member.key ∧ member.value.held.Admitted n := by
  have hdepth : (Tree.object first more).depth = membersDepth (first :: more) + 1 := rfl
  have htokens : (Tree.object first more).tokens = membersTokens (first :: more) := rfl
  constructor
  · rintro ⟨hle, htoken⟩ member hmember
    rw [hdepth, Nat.add_le_add_iff_right, membersDepth_le_iff] at hle
    rw [htokens] at htoken
    refine ⟨htoken _ (mem_membersTokens_iff.mpr ⟨member, hmember, .inl rfl⟩), hle member hmember,
      fun token h => htoken token (mem_membersTokens_iff.mpr ⟨member, hmember, .inr h⟩)⟩
  · intro h
    refine ⟨?_, fun token htoken => ?_⟩
    · rw [hdepth, Nat.add_le_add_iff_right, membersDepth_le_iff]
      exact fun member hmember => (h member hmember).2.depth_le
    · rw [htokens, mem_membersTokens_iff] at htoken
      obtain ⟨member, hmember, rfl | hmem⟩ := htoken
      · exact (h member hmember).1
      · exact (h member hmember).2.tokens token hmem

/-! ## How a value begins -/

/-- A number begins with a sign or a digit. -/
theorem NumberText.text_eq_cons (n : NumberText) :
    ∃ c rest, n.text = c :: rest ∧ (c = '-' ∨ ∃ d, c = digitChar d) := by
  obtain ⟨d, digits, hwhole⟩ := List.exists_cons_of_ne_nil n.whole_ne_nil
  rw [NumberText.text]
  split
  · exact ⟨'-', _, rfl, .inl rfl⟩
  · rw [NumberText.unsignedText, hwhole]
    exact ⟨digitChar d, _, rfl, .inr ⟨d, rfl⟩⟩

theorem digitChar_not_blank (d : Fin 10) :
    isBlank (digitChar d) = false ∧ digitChar d ≠ ']' := by
  revert d
  decide

/-- A value begins with what is neither blank nor the end of an array. -/
theorem Tree.text_eq_cons (t : Tree) :
    ∃ c rest, t.text = c :: rest ∧ isBlank c = false ∧ c ≠ ']' := by
  cases t with
  | number n =>
    obtain ⟨c, rest, htext, rfl | ⟨d, rfl⟩⟩ := n.text_eq_cons
    · exact ⟨_, rest, htext, by decide⟩
    · exact ⟨_, rest, htext, digitChar_not_blank d⟩
  | bool b => cases b <;> exact ⟨_, _, rfl, by decide⟩
  | null | string | emptyArray | array | emptyObject | object => exact ⟨_, _, rfl, by decide⟩

/-! ## Readers of the values inside -/

/-- A reader takes a tree: behind blanks, and before whatever may follow a value, it reads the text of
the tree and gives its value. -/
def Takes (reader : Reader Json) (t : Tree) : Prop :=
  ∀ (before : Blanks) (rest : List Char), Delimited rest →
    reader.run (before.text ++ (t.text ++ rest)) = .ok (t.value, rest)

/-- A reader finds trees of a kind: whatever it takes is the text of one behind blanks. -/
def Finds (P : Tree → Prop) (reader : Reader Json) : Prop :=
  ∀ text v rest, reader.run text = .ok (v, rest) →
    ∃ (before : Blanks) (t : Tree), P t ∧ t.value = v ∧ text = before.text ++ (t.text ++ rest)

/-! ## Items -/

theorem itemsFrom_of_bracket {reader : Reader Json} {text mid rest : List Char} {v : Json}
    (hread : reader.run text = .ok (v, mid)) (hmid : skipBlanks mid = ']' :: rest)
    (done : List Json) : itemsFrom reader done text = .ok ((v :: done).reverse, rest) := by
  rw [itemsFrom.eq_def]
  -- every branch but one contradicts what was read
  split <;> simp_all
  split <;> simp_all

theorem itemsFrom_of_comma {reader : Reader Json} {text mid more tail : List Char} {v : Json}
    {c : Char} (hread : reader.run text = .ok (v, mid)) (hmid : skipBlanks mid = ',' :: more)
    (hmore : skipBlanks more = c :: tail) (hc : c ≠ ']') (done : List Json) :
    itemsFrom reader done text = itemsFrom reader (v :: done) more := by
  rw [itemsFrom.eq_def]
  split <;> simp_all
  split <;> simp_all

/-- What such a reader leaves of an item are the blanks behind it. -/
theorem Takes.run_itemText {reader : Reader Json} {item : Padded Tree}
    (h : Takes reader item.held) {rest : List Char} (hrest : Delimited rest) :
    reader.run (itemText item ++ rest) = .ok (item.held.value, item.after.text ++ rest) := by
  obtain ⟨before, held, after⟩ := item
  rw [itemText, List.append_assoc, List.append_assoc]
  exact h before _ (hrest.append_blanks after)

theorem skipBlanks_itemText (item : Padded Tree) (rest : List Char) :
    ∃ c tail, skipBlanks (itemText item ++ rest) = c :: tail ∧ c ≠ ']' := by
  obtain ⟨before, held, after⟩ := item
  obtain ⟨c, tail, htext, hblank, hbracket⟩ := held.text_eq_cons
  refine ⟨c, tail ++ (after.text ++ rest), ?_, hbracket⟩
  rw [itemText, List.append_assoc, List.append_assoc, skipBlanks_append, htext, List.cons_append,
    skipBlanks_cons hblank]

/-- A reader that takes the values of items takes the items up to the closing bracket. -/
theorem itemsFrom_itemsText {reader : Reader Json} {first : Padded Tree}
    {more : List (Padded Tree)} (h : ∀ item ∈ first :: more, Takes reader item.held)
    (done : List Json) (rest : List Char) :
    itemsFrom reader done (itemText first ++ (itemsText more ++ ']' :: rest)) =
      .ok (done.reverse ++ itemsValues (first :: more), rest) := by
  induction more generalizing first done with
  | nil =>
    have hread := (h first (by simp)).run_itemText (delimited_cons (.inr (.inl rfl)) rest)
    have hmid : skipBlanks (first.after.text ++ ']' :: rest) = ']' :: rest := by
      rw [skipBlanks_append, skipBlanks_cons (by decide)]
    rw [itemsText, List.nil_append, itemsFrom_of_bracket hread hmid, List.reverse_cons]
    rfl
  | cons second more ih =>
    have hread := (h first (by simp)).run_itemText
      (delimited_cons (.inl rfl) (itemText second ++ (itemsText more ++ ']' :: rest)))
    have hmid := skipBlanks_append first.after
      (',' :: (itemText second ++ (itemsText more ++ ']' :: rest)))
    rw [skipBlanks_cons (by decide)] at hmid
    obtain ⟨c, tail, hmore, hc⟩ := skipBlanks_itemText second (itemsText more ++ ']' :: rest)
    rw [itemsText, List.cons_append, List.cons_append, List.append_assoc,
      itemsFrom_of_comma hread hmid hmore hc,
      ih (fun item hitem => h item (List.mem_cons_of_mem _ hitem)), List.reverse_cons,
      List.append_assoc]
    rfl

/-- Whatever is read as items up to a bracket is written items, if the reader only takes trees. -/
theorem exists_items {reader : Reader Json} {P : Tree → Prop}
    (hreader : Finds P reader) {done read : List Json} {text rest : List Char}
    (h : itemsFrom reader done text = .ok (read, rest)) :
    ∃ first more, (∀ item ∈ first :: more, P item.held) ∧
      read = done.reverse ++ itemsValues (first :: more) ∧
        text = itemText first ++ (itemsText more ++ ']' :: rest) := by
  fun_induction itemsFrom reader done text with
  | case1 => simp at h
  | case2 => simp at h
  | case3 done text v mid hread tail hmid =>
    obtain ⟨rfl, rfl⟩ : _ = read ∧ tail = rest := by simpa using h
    obtain ⟨before, t, ht, rfl, rfl⟩ := hreader _ _ _ hread
    obtain ⟨after, hafter⟩ := exists_blanks mid
    rw [hmid] at hafter
    refine ⟨⟨before, t, after⟩, [], by simpa using ht, by simp [itemsValues], ?_⟩
    simp [itemText, itemsText, ← hafter]
  | case4 => simp at h
  | case5 => simp at h
  | case6 done text v mid hread more hmid _ _ ih =>
    obtain ⟨second, others, hall, rfl, rfl⟩ := ih h
    obtain ⟨before, t, ht, rfl, rfl⟩ := hreader _ _ _ hread
    obtain ⟨after, hafter⟩ := exists_blanks mid
    rw [hmid] at hafter
    refine ⟨⟨before, t, after⟩, second :: others, ?_, by simp [itemsValues], ?_⟩
    · rw [List.forall_mem_cons]
      exact ⟨ht, hall⟩
    · simp [itemText, itemsText, hafter]
  | case7 => simp at h

theorem items_inside (reader : Reader Json) (inside : Blanks) (rest : List Char) :
    items reader (inside.text ++ ']' :: rest) = .ok ([], rest) := by
  rw [items, skipBlanks_append, skipBlanks_cons (by decide)]
  rfl

theorem items_itemsText {reader : Reader Json} {first : Padded Tree}
    {more : List (Padded Tree)} (h : ∀ item ∈ first :: more, Takes reader item.held)
    (rest : List Char) :
    items reader (itemText first ++ (itemsText more ++ ']' :: rest)) =
      .ok (itemsValues (first :: more), rest) := by
  obtain ⟨c, tail, htext, hc⟩ := skipBlanks_itemText first (itemsText more ++ ']' :: rest)
  rw [items, htext]
  split
  · simp_all
  · simp_all
  · exact itemsFrom_itemsText h [] rest

/-- What is read behind an opening bracket is blanks or items. -/
theorem exists_items_or_inside {reader : Reader Json} {P : Tree → Prop}
    (hreader : Finds P reader) {read : List Json} {text rest : List Char}
    (h : items reader text = .ok (read, rest)) :
    (∃ inside : Blanks, read = [] ∧ text = inside.text ++ ']' :: rest) ∨
      ∃ first more, (∀ item ∈ first :: more, P item.held) ∧
        read = itemsValues (first :: more) ∧
          text = itemText first ++ (itemsText more ++ ']' :: rest) := by
  rw [items] at h
  split at h
  · simp at h
  · rename_i tail htext
    obtain ⟨rfl, rfl⟩ : [] = read ∧ tail = rest := by simpa using h
    obtain ⟨inside, hinside⟩ := exists_blanks text
    rw [htext] at hinside
    exact .inl ⟨inside, rfl, hinside⟩
  · exact .inr (exists_items hreader h)

/-! ## Members -/

/-- A member behind the opening quote of its key. -/
def memberTail (m : Member Tree) : List Char :=
  piecesText m.key ++ '"' :: (m.between.text ++ ':' :: itemText m.value)

/-- The pair that a member stands for. -/
def memberValue (m : Member Tree) : String × Json :=
  (String.ofList (meaning m.key), m.value.held.value)

theorem memberText_eq (m : Member Tree) : memberText m = m.before.text ++ '"' :: memberTail m := by
  obtain ⟨before, key, between, value⟩ := m
  simp [memberText, memberTail, stringText]

theorem membersValues_cons (m : Member Tree) (more : List (Member Tree)) :
    membersValues (m :: more) = memberValue m :: membersValues more := rfl

theorem member_run {reader : Reader Json} {m : Member Tree} (hkey : Paired m.key)
    (h : Takes reader m.value.held) {rest : List Char} (hrest : Delimited rest) :
    (member quotation reader).run (memberTail m ++ rest) =
      .ok (memberValue m, m.value.after.text ++ rest) := by
  have hquote := quotation_run hkey (m.between.text ++ ':' :: (itemText m.value ++ rest))
  simp only [member, readMember, memberTail, List.append_assoc, List.cons_append, hquote,
    skipBlanks_append, skipBlanks_cons (by decide : isBlank ':' = false), h.run_itemText hrest]
  rfl

theorem exists_member {reader : Reader Json} {P : Tree → Prop}
    (hreader : Finds P reader) {text mid : List Char} {read : String × Json}
    (h : (member quotation reader).run text = .ok (read, mid)) (before : Blanks) :
    ∃ m : Member Tree, m.before = before ∧ Paired m.key ∧ P m.value.held ∧
      memberValue m = read ∧ text = memberTail m ++ skipBlanks mid := by
  simp only [member, readMember] at h
  split at h
  · simp at h
  · rename_i name rest hkey
    obtain ⟨key, hpaired, rfl, rfl⟩ := exists_paired hkey
    obtain ⟨between, hbetween⟩ := exists_blanks rest
    split at h
    · simp at h
    · rename_i colon hcolon
      rw [hcolon] at hbetween
      split at h
      · simp at h
      · rename_i v tail hread
        obtain ⟨rfl, rfl⟩ : _ = read ∧ tail = mid := by simpa using h
        obtain ⟨inside, t, ht, rfl, rfl⟩ := hreader _ _ _ hread
        obtain ⟨after, hafter⟩ := exists_blanks tail
        refine ⟨⟨before, key, between, ⟨inside, t, after⟩⟩, rfl, hpaired, ht, rfl, ?_⟩
        simp [memberTail, itemText, hbetween, ← hafter]
    · simp at h

theorem membersFrom_of_brace {member : Reader (String × Json)} {text mid rest : List Char}
    {pair : String × Json} (hread : member.run text = .ok (pair, mid))
    (hmid : skipBlanks mid = '\x7d' :: rest) (done : List (String × Json)) :
    membersFrom member done text = .ok ((pair :: done).reverse, rest) := by
  rw [membersFrom.eq_def]
  split <;> simp_all
  split <;> simp_all

theorem membersFrom_of_comma {member : Reader (String × Json)} {text mid more tail : List Char}
    {pair : String × Json} (hread : member.run text = .ok (pair, mid))
    (hmid : skipBlanks mid = ',' :: more) (hmore : skipBlanks more = '"' :: tail)
    (done : List (String × Json)) :
    membersFrom member done text = membersFrom member (pair :: done) tail := by
  rw [membersFrom.eq_def]
  split <;> simp_all
  split <;> simp_all
  split <;> simp_all

/-- A reader that takes the values of members takes the members up to the closing brace. -/
theorem membersFrom_membersText {reader : Reader Json} {first : Member Tree}
    {more : List (Member Tree)}
    (h : ∀ m ∈ first :: more, Paired m.key ∧ Takes reader m.value.held)
    (done : List (String × Json)) (rest : List Char) :
    membersFrom (member quotation reader) done
        (memberTail first ++ (membersText more ++ '\x7d' :: rest)) =
      .ok (done.reverse ++ membersValues (first :: more), rest) := by
  obtain ⟨hkey, hvalue⟩ := h first (by simp)
  induction more generalizing first done with
  | nil =>
    have hread := member_run hkey hvalue (delimited_cons (.inr (.inr rfl)) rest)
    have hmid : skipBlanks (first.value.after.text ++ '\x7d' :: rest) = '\x7d' :: rest := by
      rw [skipBlanks_append, skipBlanks_cons (by decide)]
    rw [membersText, List.nil_append, membersFrom_of_brace hread hmid, List.reverse_cons]
    rfl
  | cons second more ih =>
    have hread := member_run hkey hvalue
      (delimited_cons (.inl rfl) (memberText second ++ (membersText more ++ '\x7d' :: rest)))
    have hmid := skipBlanks_append first.value.after
      (',' :: (memberText second ++ (membersText more ++ '\x7d' :: rest)))
    rw [skipBlanks_cons (by decide)] at hmid
    have hmore : skipBlanks (memberText second ++ (membersText more ++ '\x7d' :: rest)) =
        '"' :: (memberTail second ++ (membersText more ++ '\x7d' :: rest)) := by
      rw [memberText_eq, List.append_assoc, skipBlanks_append, List.cons_append,
        skipBlanks_cons (by decide)]
    obtain ⟨hsecond, hothers⟩ := h second (by simp)
    rw [membersText, List.cons_append, List.cons_append, List.append_assoc,
      membersFrom_of_comma hread hmid hmore,
      ih (fun m hm => h m (List.mem_cons_of_mem _ hm)) _ hsecond hothers, List.reverse_cons,
      List.append_assoc]
    rfl

/-- Whatever is read as members up to a brace is written members, if the reader of values only takes
trees. -/
theorem exists_members {reader : Reader Json} {P : Tree → Prop}
    (hreader : Finds P reader) {done read : List (String × Json)} {text rest : List Char}
    (h : membersFrom (member quotation reader) done text = .ok (read, rest)) (before : Blanks) :
    ∃ first more, first.before = before ∧
      (∀ m ∈ first :: more, Paired m.key ∧ P m.value.held) ∧
        read = done.reverse ++ membersValues (first :: more) ∧
          text = memberTail first ++ (membersText more ++ '\x7d' :: rest) := by
  fun_induction membersFrom (member quotation reader) done text generalizing before with
  | case1 => simp at h
  | case2 => simp at h
  | case3 done text pair mid hread tail hmid =>
    obtain ⟨rfl, rfl⟩ : _ = read ∧ tail = rest := by simpa using h
    obtain ⟨m, hbefore, hkey, hvalue, rfl, rfl⟩ := exists_member hreader hread before
    refine ⟨m, [], hbefore, by simpa using ⟨hkey, hvalue⟩, ?_, ?_⟩
    · rw [membersValues_cons]
      rfl
    · simp [membersText, hmid]
  | case4 => simp at h
  | case5 done text pair mid hread more hmid tail hmore ih =>
    obtain ⟨m, hbefore, hkey, hvalue, rfl, rfl⟩ := exists_member hreader hread before
    obtain ⟨inside, hinside⟩ := exists_blanks more
    rw [hmore] at hinside
    obtain ⟨second, others, rfl, hall, rfl, rfl⟩ := ih h inside
    refine ⟨m, second :: others, hbefore, ?_, ?_, ?_⟩
    · rw [List.forall_mem_cons]
      exact ⟨⟨hkey, hvalue⟩, hall⟩
    · simp [membersValues_cons]
    · simp [membersText, memberText_eq, hmid, hinside]
  | case6 => simp at h
  | case7 => simp at h
  | case8 => simp at h

theorem members_inside (member : Reader (String × Json)) (inside : Blanks) (rest : List Char) :
    members member (inside.text ++ '\x7d' :: rest) = .ok ([], rest) := by
  rw [members, skipBlanks_append, skipBlanks_cons (by decide)]
  rfl

theorem members_membersText {reader : Reader Json} {first : Member Tree}
    {more : List (Member Tree)}
    (h : ∀ m ∈ first :: more, Paired m.key ∧ Takes reader m.value.held) (rest : List Char) :
    members (member quotation reader) (memberText first ++ (membersText more ++ '\x7d' :: rest)) =
      .ok (membersValues (first :: more), rest) := by
  rw [members, memberText_eq, List.append_assoc, skipBlanks_append, List.cons_append,
    skipBlanks_cons (by decide)]
  exact membersFrom_membersText h [] rest

/-- What is read behind an opening brace is blanks or members. -/
theorem exists_members_or_inside {reader : Reader Json} {P : Tree → Prop}
    (hreader : Finds P reader) {read : List (String × Json)} {text rest : List Char}
    (h : members (member quotation reader) text = .ok (read, rest)) :
    (∃ inside : Blanks, read = [] ∧ text = inside.text ++ '\x7d' :: rest) ∨
      ∃ first more, (∀ m ∈ first :: more, Paired m.key ∧ P m.value.held) ∧
        read = membersValues (first :: more) ∧
          text = memberText first ++ (membersText more ++ '\x7d' :: rest) := by
  obtain ⟨inside, hinside⟩ := exists_blanks text
  rw [members] at h
  split at h
  · simp at h
  · rename_i tail htext
    obtain ⟨rfl, rfl⟩ : [] = read ∧ tail = rest := by simpa using h
    rw [htext] at hinside
    exact .inl ⟨inside, rfl, hinside⟩
  · rename_i tail htext
    rw [htext] at hinside
    obtain ⟨first, more, rfl, hall, hread, rfl⟩ := exists_members hreader h inside
    refine .inr ⟨first, more, hall, hread, ?_⟩
    rw [hinside, memberText_eq, List.append_assoc, List.cons_append]
  · simp at h

end DiagnosticDigest.Json.Written
