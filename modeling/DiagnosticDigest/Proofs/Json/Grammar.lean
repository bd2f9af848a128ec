import DiagnosticDigest.Proofs.Json.Lists

/-!
# Reading by the grammar

A text is read as a value exactly if it is a written value with blanks around it that is nested no
deeper than allowed, whose surrogates are paired and whose numbers are in range. Both directions go
by the depth: a reader for values that are nested at most so deep has a reader for a depth less
inside.
-/

namespace DiagnosticDigest.Json.Written

/-! ## Values -/

theorem readLiteral_append (meant : Json) (letters rest : List Char) :
    readLiteral meant letters (letters ++ rest) = .ok (meant, rest) := by
  induction letters with
  | nil => rw [List.nil_append, readLiteral]
  | cons letter letters ih => rw [List.cons_append, readLiteral, if_pos rfl, ih]

theorem eq_of_readLiteral {meant v : Json} {letters text rest : List Char}
    (h : readLiteral meant letters text = .ok (v, rest)) :
    v = meant ∧ text = letters ++ rest := by
  fun_induction readLiteral meant letters text with
  | case1 =>
    obtain ⟨rfl, rfl⟩ : _ = v ∧ _ = rest := by simpa using h
    exact ⟨rfl, rfl⟩
  | case2 => simp at h
  | case3 c rest letters ih =>
    obtain ⟨rfl, rfl⟩ := ih h
    exact ⟨rfl, rfl⟩
  | case4 => simp at h

theorem digitChar_ne_start (d : Fin 10) :
    digitChar d ∉ ['n', 't', 'f', '"', '[', '\x7b'] := by
  revert d
  decide

/-- Where a number stands, a value is whatever the reader of numbers makes of it. -/
theorem readValue_numberText (n : NumberText) (inner : Option (Reader Json))
    {text rest : List Char} (htext : skipBlanks text = n.text ++ rest) :
    readValue inner text =
      match numeral.run (n.text ++ rest) with
      | .error fault => .error fault
      | .ok (read, rest) => .ok (.number read, rest) := by
  obtain ⟨c, tail, hcons, hstart⟩ := n.text_eq_cons
  -- the first character sorts out every other kind of value
  have hne : c ∉ ['n', 't', 'f', '"', '[', '\x7b'] := by
    rcases hstart with rfl | ⟨d, rfl⟩
    · decide
    · exact digitChar_ne_start d
  have hdigit : c = '-' ∨ c.isDigit = true := by
    rcases hstart with rfl | ⟨d, rfl⟩
    · exact .inl rfl
    · exact .inr (isDigit_digitChar d)
  simp only [List.mem_cons, List.not_mem_nil, or_false, not_or] at hne
  rw [hcons, List.cons_append] at htext ⊢
  rw [readValue, htext]
  cases hread : numeral.run (c :: (tail ++ rest)) <;> simp [hne, hdigit, hread]

/-- A number in range is read as a value, whatever stands for the values inside. -/
theorem readValue_number {n : NumberText} (hn : n.InRange) (inner : Option (Reader Json))
    {text rest : List Char} (hrest : Delimited rest) (htext : skipBlanks text = n.text ++ rest) :
    readValue inner text = .ok (.number n.value, rest) := by
  rw [readValue_numberText n inner htext, numeral_run hn hrest.endsNumber]

theorem skipBlanks_tree (before : Blanks) (t : Tree) (rest : List Char) :
    skipBlanks (before.text ++ (t.text ++ rest)) = t.text ++ rest := by
  obtain ⟨c, tail, htext, hblank, -⟩ := t.text_eq_cons
  rw [skipBlanks_append, htext, List.cons_append, skipBlanks_cons hblank]

/-- Any reader of values takes the trees that hold no others. -/
theorem valueWith_takes_leaf (inner : Option (Reader Json)) {t : Tree} (h : t.Admitted 0) :
    Takes (valueWith inner) t := by
  intro before rest hrest
  have htext := skipBlanks_tree before t rest
  change readValue inner _ = _
  cases t with
  | null =>
    rw [readValue, htext]
    exact readLiteral_append .null ['u', 'l', 'l'] rest
  | bool b =>
    cases b with
    | false =>
      rw [readValue, htext]
      exact readLiteral_append (.bool false) ['a', 'l', 's', 'e'] rest
    | true =>
      rw [readValue, htext]
      exact readLiteral_append (.bool true) ['r', 'u', 'e'] rest
  | number n =>
    have hn : n.InRange := h.tokens (.number n) (by simp [Tree.tokens])
    exact readValue_number hn inner hrest htext
  | string pieces =>
    have hpaired : Paired pieces := h.tokens (.string pieces) (by simp [Tree.tokens])
    have hrun := quotation_run hpaired rest
    have hquote : (Tree.string pieces).text ++ rest =
        '"' :: (piecesText pieces ++ '"' :: rest) := by
      simp [Tree.text, stringText]
    rw [readValue, htext, hquote]
    simp [hrun, Tree.value]
  | emptyArray | array | emptyObject | object => exact absurd h.depth_le (by simp [Tree.depth])

theorem readValue_array {reader : Reader Json} {text tail rest : List Char} {read : List Json}
    (htext : skipBlanks text = '[' :: tail) (h : items reader tail = .ok (read, rest)) :
    readValue (some reader) text = .ok (.array read, rest) := by
  rw [readValue, htext]
  simp [readNested, h]

theorem readValue_object {reader : Reader Json} {text tail rest : List Char}
    {read : List (String × Json)} (htext : skipBlanks text = '\x7b' :: tail)
    (h : members (member quotation reader) tail = .ok (read, rest)) :
    readValue (some reader) text = .ok (.object (Members.ofPairs read), rest) := by
  rw [readValue, htext]
  simp [readNested, h]

/-- A reader for a depth takes every tree that has what it asks for. -/
theorem value_takes {depth : Nat} {t : Tree} (h : t.Admitted depth) : Takes (value depth) t := by
  induction depth generalizing t with
  | zero => exact valueWith_takes_leaf none h
  | succ depth ih =>
    intro before rest hrest
    have htext := skipBlanks_tree before t rest
    change readValue (some (value depth)) _ = _
    cases t with
    -- what holds no values is read alike at every depth
    | null | bool | number | string =>
      exact valueWith_takes_leaf _ ⟨by simp [Tree.depth], h.tokens⟩ before rest hrest
    | emptyArray inside =>
      have hitems := items_inside (value depth) inside rest
      rw [readValue_array (by simpa [Tree.text] using htext) hitems, Tree.value]
    | array first more =>
      have hitems := items_itemsText (fun item hitem => ih (admitted_array.mp h item hitem)) rest
      rw [readValue_array (by simpa [Tree.text] using htext) hitems]
      rfl
    | emptyObject inside =>
      have hmembers := members_inside (member quotation (value depth)) inside rest
      rw [readValue_object (by simpa [Tree.text] using htext) hmembers, Tree.value]
      rfl
    | object first more =>
      have hmembers := members_membersText (fun m hm =>
        ⟨(admitted_object.mp h m hm).1, ih (admitted_object.mp h m hm).2⟩) rest
      rw [readValue_object (by simpa [Tree.text] using htext) hmembers]
      rfl

/-- What is read behind an opening bracket or brace is the rest of a tree for a depth more. -/
theorem exists_nested {depth : Nat} {reader : Reader Json}
    (hreader : Finds (Tree.Admitted depth) reader) {bracket : Char}
    (hbracket : bracket = '[' ∨ bracket = '\x7b') {text rest : List Char} {v : Json}
    (h : readNested (some reader) bracket text = .ok (v, rest)) :
    ∃ t : Tree, t.Admitted (depth + 1) ∧ t.value = v ∧ bracket :: text = t.text ++ rest := by
  rw [readNested] at h
  rcases hbracket with rfl | rfl
  · rw [if_pos rfl] at h
    split at h
    · simp at h
    · rename_i read tail hread
      obtain ⟨rfl, rfl⟩ : Json.array read = v ∧ tail = rest := by simpa using h
      rcases exists_items_or_inside hreader hread with
        ⟨inside, rfl, rfl⟩ | ⟨first, more, hall, rfl, rfl⟩
      · exact ⟨.emptyArray inside, admitted_leaf (Nat.le_add_left 1 depth) rfl, rfl,
          by simp [Tree.text]⟩
      · exact ⟨.array first more, admitted_array.mpr hall, rfl, by simp [Tree.text]⟩
  · rw [if_neg (by decide)] at h
    split at h
    · simp at h
    · rename_i read tail hread
      obtain ⟨rfl, rfl⟩ : Json.object (Members.ofPairs read) = v ∧ tail = rest := by simpa using h
      rcases exists_members_or_inside hreader hread with
        ⟨inside, rfl, rfl⟩ | ⟨first, more, hall, rfl, rfl⟩
      · exact ⟨.emptyObject inside, admitted_leaf (Nat.le_add_left 1 depth) rfl, rfl,
          by simp [Tree.text]⟩
      · exact ⟨.object first more, admitted_object.mpr hall, rfl, by simp [Tree.text]⟩

/-- A reader of values finds trees of a depth if its way of reading nested ones does. -/
theorem valueWith_finds {depth : Nat} {inner : Option (Reader Json)}
    (hnested : ∀ bracket text v rest, bracket = '[' ∨ bracket = '\x7b' →
      readNested inner bracket text = .ok (v, rest) →
        ∃ t : Tree, t.Admitted depth ∧ t.value = v ∧ bracket :: text = t.text ++ rest) :
    Finds (Tree.Admitted depth) (valueWith inner) := by
  intro text v rest h
  change readValue inner text = _ at h
  obtain ⟨before, hbefore⟩ := exists_blanks text
  -- the blanks are set aside, and the first character behind them tells the kind of the value
  suffices ∃ t : Tree, t.Admitted depth ∧ t.value = v ∧ skipBlanks text = t.text ++ rest by
    obtain ⟨t, ht, hv, htext⟩ := this
    rw [htext] at hbefore
    exact ⟨before, t, ht, hv, hbefore⟩
  rw [readValue] at h
  split at h
  · simp at h
  · rename_i c tail htext
    rw [htext]
    split at h
    · rename_i hc
      subst hc
      obtain ⟨rfl, rfl⟩ := eq_of_readLiteral h
      exact ⟨.null, admitted_leaf (Nat.zero_le depth) rfl, rfl, rfl⟩
    split at h
    · rename_i hc
      subst hc
      obtain ⟨rfl, rfl⟩ := eq_of_readLiteral h
      exact ⟨.bool true, admitted_leaf (Nat.zero_le depth) rfl, rfl, rfl⟩
    split at h
    · rename_i hc
      subst hc
      obtain ⟨rfl, rfl⟩ := eq_of_readLiteral h
      exact ⟨.bool false, admitted_leaf (Nat.zero_le depth) rfl, rfl, rfl⟩
    split at h
    · rename_i hc
      subst hc
      split at h
      · simp at h
      · rename_i hread
        obtain ⟨pieces, hpaired, rfl, rfl⟩ := exists_paired hread
        obtain ⟨rfl, rfl⟩ : _ = v ∧ _ = rest := by simpa using h
        exact ⟨.string pieces, admitted_string hpaired depth, rfl, by simp [Tree.text, stringText]⟩
    split at h
    · rename_i hc
      exact hnested c tail v rest (by simpa using hc) h
    split at h
    · split at h
      · simp at h
      · rename_i hread
        obtain ⟨n, hn, rfl, htail⟩ := exists_inRange hread
        obtain ⟨rfl, rfl⟩ : _ = v ∧ _ = rest := by simpa using h
        exact ⟨.number n, admitted_number hn depth, rfl, by simpa [Tree.text] using htail⟩
    · simp at h

/-- Whatever a reader for a depth takes is a tree that has what it asks for. -/
theorem value_finds (depth : Nat) : Finds (Tree.Admitted depth) (value depth) := by
  induction depth with
  | zero =>
    apply valueWith_finds
    intro bracket text v rest _ h
    simp [readNested] at h
  | succ depth ih =>
    apply valueWith_finds
    intro bracket text v rest hbracket h
    exact exists_nested ih hbracket h

/-! ## Documents -/

/-- A text is read as a value exactly if it is a written one between blanks. -/
theorem parse_eq_ok_iff {text : String} {v : Json} :
    parse text = .ok v ↔
      ∃ (before after : Blanks) (t : Tree), before.text ++ t.text ++ after.text = text.toList ∧
        t.Admitted maxDepth ∧ t.value = v := by
  rw [parse, parseChars]
  constructor
  · intro h
    split at h
    · simp at h
    · rename_i read rest hread
      split at h
      · rename_i hrest
        obtain rfl : read = v := by simpa using h
        obtain ⟨before, t, ht, hv, htext⟩ := value_finds maxDepth _ _ _ hread
        obtain ⟨after, hafter⟩ := exists_blanks rest
        rw [hrest, List.append_nil] at hafter
        exact ⟨before, after, t, by rw [htext, hafter, List.append_assoc], ht, hv⟩
      · simp at h
  · rintro ⟨before, after, t, htext, ht, rfl⟩
    have hrun := value_takes ht before after.text (delimited_blanks after)
    rw [← List.append_assoc, htext] at hrun
    rw [hrun]
    simp only [skipBlanks_text]

end DiagnosticDigest.Json.Written
