import DiagnosticDigest.Proofs.Json.Grammar
import DiagnosticDigest.Proofs.Json.Parts

/-!
# One tree for each text

No text is written in two ways: the tree of a text can be told from it, up to every blank, every letter
of an escape and every digit. So a text that is accepted has one tree only, and that one has what a
reader asks for.

## Main definitions

* `Written.Solid`, `Written.Separated` — texts that begin with no blank, and with what separates or ends
  items and members.
* `Written.Tree.Writes` — a tree is written as a text, with blanks around it.
* `Written.Tree.Told` — a tree can be told from a text that begins with it.
-/

namespace DiagnosticDigest.Json.Written

/-! ## Blanks -/

/-- Texts that do not begin with a blank. -/
def Solid (text : List Char) : Prop :=
  ∀ c ∈ text.head?, isBlank c = false

theorem solid_cons {c : Char} (h : isBlank c = false) (text : List Char) : Solid (c :: text) := by
  intro d hd
  obtain rfl : c = d := by simpa using hd
  exact h

theorem Tree.solid_text (t : Tree) (rest : List Char) : Solid (t.text ++ rest) := by
  obtain ⟨c, tail, htext, hblank, -⟩ := t.text_eq_cons
  rw [htext, List.cons_append]
  exact solid_cons hblank _

theorem Blanks.eq_of_text_eq {a b : Blanks} (h : a.text = b.text) : a = b := by
  cases a
  cases b
  cases h
  rfl

theorem skipBlanks_of_solid {text : List Char} (h : Solid text) : skipBlanks text = text := by
  cases text with
  | nil => rfl
  | cons c rest => exact skipBlanks_cons (h c rfl) rest

/-- Blanks end where what follows does not begin with one. -/
theorem Blanks.eq_of_append {a b : Blanks} {rest more : List Char} (hrest : Solid rest)
    (hmore : Solid more) (h : a.text ++ rest = b.text ++ more) : a = b ∧ rest = more := by
  have hsame := congrArg skipBlanks h
  rw [skipBlanks_append, skipBlanks_append, skipBlanks_of_solid hrest,
    skipBlanks_of_solid hmore] at hsame
  subst hsame
  exact ⟨Blanks.eq_of_text_eq (List.append_cancel_right h), rfl⟩

/-! ## Strings -/

theorem HexDigit.eq_of_char_eq {a b : HexDigit} (h : a.char = b.char) : a = b := by
  cases a
  cases b
  cases h
  rfl

theorem Code.eq_of_text_eq {x y : Code} (h : x.text = y.text) : x = y := by
  obtain ⟨a, b, c, d⟩ := x
  obtain ⟨a', b', c', d'⟩ := y
  simp only [Code.text, List.cons.injEq, and_true] at h
  obtain ⟨ha, hb, hc, hd⟩ := h
  rw [HexDigit.eq_of_char_eq ha, HexDigit.eq_of_char_eq hb, HexDigit.eq_of_char_eq hc,
    HexDigit.eq_of_char_eq hd]

theorem Escape.letter_injective {e f : Escape} (h : e.letter = f.letter) : e = f := by
  cases e <;> cases f <;> simp_all [letter]

/-- A piece does not begin with the quote that ends a string. -/
theorem Piece.text_append_ne (p : Piece) (rest more : List Char) : p.text ++ rest ≠ '"' :: more := by
  cases p with
  | plain c hc =>
    intro h
    exact hc.1 (List.cons.inj h).1
  | simple e => simp [Piece.text]
  | code x => simp [Piece.text]

/-- The first piece of a string is told by its first characters. -/
theorem Piece.eq_of_append {p q : Piece} {rest more : List Char}
    (h : p.text ++ rest = q.text ++ more) : p = q ∧ rest = more := by
  have hlength : ∀ x y : Code, x.text.length = y.text.length := fun _ _ => rfl
  cases p with
  | plain c hc =>
    cases q with
    | plain d hd =>
      obtain ⟨rfl, rfl⟩ := List.cons.inj h
      exact ⟨rfl, rfl⟩
    | simple e => exact absurd (List.cons.inj h).1 hc.2.1
    | code y => exact absurd (List.cons.inj h).1 hc.2.1
  | simple e =>
    cases q with
    | plain d hd => exact absurd (List.cons.inj h).1.symm hd.2.1
    | simple f =>
      simp only [Piece.text, List.cons_append, List.nil_append, List.cons.injEq, true_and] at h
      obtain ⟨hletter, rfl⟩ := h
      exact ⟨congrArg Piece.simple (Escape.letter_injective hletter), rfl⟩
    | code y =>
      simp only [Piece.text, List.cons_append, List.nil_append, List.cons.injEq, true_and] at h
      exact absurd h.1 e.letter_ne_u
  | code x =>
    cases q with
    | plain d hd => exact absurd (List.cons.inj h).1.symm hd.2.1
    | simple f =>
      simp only [Piece.text, List.cons_append, List.nil_append, List.cons.injEq, true_and] at h
      exact absurd h.1.symm f.letter_ne_u
    | code y =>
      simp only [Piece.text, List.cons_append, List.cons.injEq, true_and] at h
      obtain ⟨hdigits, rfl⟩ := List.append_inj h (hlength x y)
      exact ⟨congrArg Piece.code (Code.eq_of_text_eq hdigits), rfl⟩

/-- A string is told by its pieces up to its closing quote. -/
theorem stringText_inj {pieces others : List Piece} {rest more : List Char}
    (h : stringText pieces ++ rest = stringText others ++ more) : pieces = others ∧ rest = more := by
  have hinside : piecesText pieces ++ '"' :: rest = piecesText others ++ '"' :: more := by
    simpa [stringText] using h
  clear h
  induction pieces generalizing others with
  | nil =>
    cases others with
    | nil => exact ⟨rfl, (List.cons.inj hinside).2⟩
    | cons q others =>
      rw [piecesText, piecesText, List.flatMap_cons, List.append_assoc] at hinside
      exact absurd hinside.symm (q.text_append_ne _ _)
  | cons p pieces ih =>
    rw [piecesText, List.flatMap_cons, List.append_assoc] at hinside
    cases others with
    | nil => exact absurd hinside (p.text_append_ne _ _)
    | cons q others =>
      rw [piecesText, List.flatMap_cons, List.append_assoc] at hinside
      obtain ⟨rfl, hrest⟩ := Piece.eq_of_append hinside
      obtain ⟨rfl, rfl⟩ := ih hrest
      exact ⟨rfl, rfl⟩

/-! ## Numbers -/

/-- Digits end where no digit follows. -/
theorem digitsText_inj {digits others : List (Fin 10)} {rest more : List Char}
    (hrest : EndsDigits rest) (hmore : EndsDigits more)
    (h : digitsText digits ++ rest = digitsText others ++ more) : digits = others ∧ rest = more := by
  have hdigits := congrArg leadingDigits h
  rw [leadingDigits_digitsText _ hrest, leadingDigits_digitsText _ hmore] at hdigits
  have hafter := congrArg afterDigits h
  rw [afterDigits_digitsText _ hrest, afterDigits_digitsText _ hmore] at hafter
  exact ⟨List.map_injective_iff.mpr (fun _ _ => Fin.ext) hdigits, hafter⟩

theorem fractionText_inj {digits others : List (Fin 10)} {rest more : List Char}
    (hrest : EndsFraction rest) (hmore : EndsFraction more)
    (h : NumberText.fractionText digits ++ rest = NumberText.fractionText others ++ more) :
    digits = others ∧ rest = more := by
  cases digits with
  | nil =>
    cases others with
    | nil => exact ⟨rfl, h⟩
    | cons d others =>
      obtain rfl : rest = _ := h
      exact absurd rfl (hrest '.' rfl).2
  | cons d digits =>
    cases others with
    | nil =>
      obtain rfl : _ = more := h
      exact absurd rfl (hmore '.' rfl).2
    | cons e others =>
      simp only [NumberText.fractionText, List.cons_append, List.cons.injEq, true_and] at h
      exact digitsText_inj hrest.endsDigits hmore.endsDigits h

/-- The letter that begins an exponent. -/
theorem Exponent.exists_text_eq_cons (e : Exponent) :
    ∃ c rest, e.text = c :: rest ∧ (c = 'e' ∨ c = 'E') := by
  obtain ⟨capital, sign, digits, hne⟩ := e
  cases capital
  · exact ⟨'e', _, rfl, .inl rfl⟩
  · exact ⟨'E', _, rfl, .inr rfl⟩

theorem Exponent.text_inj {e f : Exponent} {rest more : List Char} (hrest : EndsDigits rest)
    (hmore : EndsDigits more) (h : e.text ++ rest = f.text ++ more) : e = f ∧ rest = more := by
  obtain ⟨capital, sign, digits, hne⟩ := e
  obtain ⟨capital', sign', others, hne'⟩ := f
  obtain ⟨d, digits, rfl⟩ := List.exists_cons_of_ne_nil hne
  obtain ⟨d', others, rfl⟩ := List.exists_cons_of_ne_nil hne'
  have hletter : capital = capital' := by
    cases capital <;> cases capital' <;> simp [Exponent.text] at h ⊢
  subst hletter
  -- a sign is no digit, so it is there on both sides or on none
  obtain ⟨hplus, hminus⟩ := digitChar_ne_sign d
  obtain ⟨hplus', hminus'⟩ := digitChar_ne_sign d'
  have hdigits : digitsText (d :: digits) ++ rest = digitsText (d' :: others) ++ more →
      d :: digits = d' :: others ∧ rest = more := digitsText_inj hrest hmore
  rcases sign with _ | _ | _ <;> rcases sign' with _ | _ | _ <;>
    simp_all [Exponent.text, digitsText, hplus'.symm, hminus'.symm]

/-- What cannot continue a number does not begin an exponent. -/
theorem Exponent.text_append_ne (e : Exponent) {rest : List Char} (h : EndsNumber rest)
    (more : List Char) : e.text ++ more ≠ rest := by
  rintro rfl
  obtain ⟨c, tail, htext, hletter⟩ := e.exists_text_eq_cons
  obtain ⟨-, -, hsmall, hcapital⟩ := h c (by rw [htext]; rfl)
  exact hletter.elim hsmall hcapital

namespace NumberText

theorem exponentText_inj {a b : Option Exponent} {rest more : List Char} (hrest : EndsNumber rest)
    (hmore : EndsNumber more) (h : exponentText a ++ rest = exponentText b ++ more) :
    a = b ∧ rest = more := by
  cases a with
  | none =>
    cases b with
    | none => exact ⟨rfl, h⟩
    | some f => exact absurd h.symm (f.text_append_ne hrest more)
  | some e =>
    cases b with
    | none => exact absurd h (e.text_append_ne hmore rest)
    | some f =>
      obtain ⟨rfl, rfl⟩ := Exponent.text_inj hrest.endsFraction.endsDigits
        hmore.endsFraction.endsDigits h
      exact ⟨rfl, rfl⟩

/-- A sign is no digit, so a number without one does not begin with it. -/
theorem unsignedText_append_ne (n : NumberText) (rest more : List Char) :
    n.unsignedText ++ rest ≠ '-' :: more := by
  obtain ⟨d, digits, hwhole⟩ := List.exists_cons_of_ne_nil n.whole_ne_nil
  intro h
  rw [unsignedText, hwhole] at h
  exact (digitChar_ne_sign d).2 (List.cons.inj h).1

/-- The parts of a number behind its sign are told one after the other, each by what cannot continue
it. -/
theorem unsignedText_inj {n m : NumberText} {rest more : List Char} (hrest : EndsNumber rest)
    (hmore : EndsNumber more) (h : n.unsignedText ++ rest = m.unsignedText ++ more) :
    n.whole = m.whole ∧ n.fraction = m.fraction ∧ n.exponent = m.exponent ∧ rest = more := by
  have hexponent := endsFraction_exponentText n.exponent hrest
  have hexponent' := endsFraction_exponentText m.exponent hmore
  simp only [unsignedText, List.append_assoc] at h
  obtain ⟨hwhole, h⟩ := digitsText_inj (endsDigits_fractionText n.fraction hexponent)
    (endsDigits_fractionText m.fraction hexponent') h
  obtain ⟨hfraction, h⟩ := fractionText_inj hexponent hexponent' h
  obtain ⟨hsame, h⟩ := exponentText_inj hrest hmore h
  exact ⟨hwhole, hfraction, hsame, h⟩

/-- A number is told up to what cannot continue it. -/
theorem text_inj {n m : NumberText} {rest more : List Char} (hrest : EndsNumber rest)
    (hmore : EndsNumber more) (h : n.text ++ rest = m.text ++ more) : n = m ∧ rest = more := by
  have hsign : n.negative = m.negative ∧ n.unsignedText ++ rest = m.unsignedText ++ more := by
    rw [text, text] at h
    cases hn : n.negative <;> cases hm : m.negative <;> rw [hn, hm] at h
    · exact ⟨rfl, h⟩
    · exact absurd h (n.unsignedText_append_ne _ _)
    · exact absurd h.symm (m.unsignedText_append_ne _ _)
    · exact ⟨rfl, (List.cons.inj h).2⟩
  obtain ⟨hwhole, hfraction, hexponent, rfl⟩ := unsignedText_inj hrest hmore hsign.2
  cases n
  cases m
  obtain rfl := hsign.1
  cases hwhole
  cases hfraction
  cases hexponent
  exact ⟨rfl, rfl⟩

end NumberText

/-! ## Kinds -/

/-- The kind of value that a character begins. -/
def kindOf (c : Char) : String :=
  if c = 'n' then "null"
  else if c = 't' ∨ c = 'f' then "bool"
  else if c = '"' then "string"
  else if c = '[' then "array"
  else if c = '\x7b' then "object"
  else "number"

theorem kindOf_digitChar (d : Fin 10) : kindOf (digitChar d) = "number" := by
  revert d
  decide

/-- The first character of a value tells its kind. -/
theorem Tree.kindOf_first (t : Tree) :
    ∃ c tail, t.text = c :: tail ∧ kindOf c = t.value.kind := by
  cases t with
  | number n =>
    obtain ⟨c, rest, htext, rfl | ⟨d, rfl⟩⟩ := n.text_eq_cons
    · exact ⟨_, rest, htext, rfl⟩
    · exact ⟨_, rest, htext, kindOf_digitChar d⟩
  | bool b => cases b <;> exact ⟨_, _, rfl, rfl⟩
  | array first more =>
    obtain ⟨before, held, after⟩ := first
    exact ⟨_, _, rfl, rfl⟩
  | object first more =>
    obtain ⟨before, key, between, ⟨inside, held, after⟩⟩ := first
    exact ⟨_, _, rfl, rfl⟩
  | null | string | emptyArray | emptyObject => exact ⟨_, _, rfl, rfl⟩

theorem Tree.kind_eq_of_append {t u : Tree} {rest more : List Char}
    (h : t.text ++ rest = u.text ++ more) : t.value.kind = u.value.kind := by
  obtain ⟨c, tail, htext, hkind⟩ := t.kindOf_first
  obtain ⟨d, tail', htext', hkind'⟩ := u.kindOf_first
  rw [htext, htext'] at h
  obtain ⟨rfl, -⟩ := List.cons.inj h
  rw [← hkind, hkind']

/-! ## Items and members -/

/-- A tree can be told from a text that begins with it, whatever may follow a value behind it. -/
def Tree.Told (t : Tree) : Prop :=
  ∀ (u : Tree) (rest more : List Char), Delimited rest → Delimited more →
    t.text ++ rest = u.text ++ more → t = u ∧ rest = more

/-- Texts that begin with what separates or ends items and members. -/
def Separated (text : List Char) : Prop :=
  ∃ c tail, text = c :: tail ∧ (c = ',' ∨ c = ']' ∨ c = '\x7d')

theorem Separated.delimited {text : List Char} (h : Separated text) : Delimited text := by
  obtain ⟨c, tail, rfl, hc⟩ := h
  exact delimited_cons hc tail

theorem Separated.solid {text : List Char} (h : Separated text) : Solid text := by
  obtain ⟨c, tail, rfl, rfl | rfl | rfl⟩ := h <;> exact solid_cons (by decide) tail

theorem itemText_inj {a b : Padded Tree} (ha : a.held.Told) {rest more : List Char}
    (hrest : Separated rest) (hmore : Separated more)
    (h : itemText a ++ rest = itemText b ++ more) : a = b ∧ rest = more := by
  obtain ⟨before, held, after⟩ := a
  obtain ⟨before', held', after'⟩ := b
  simp only [itemText, List.append_assoc] at h
  obtain ⟨rfl, hheld⟩ := Blanks.eq_of_append (held.solid_text _) (held'.solid_text _) h
  obtain ⟨rfl, hafter⟩ := ha held' _ _ (hrest.delimited.append_blanks after)
    (hmore.delimited.append_blanks after') hheld
  obtain ⟨rfl, rfl⟩ := Blanks.eq_of_append hrest.solid hmore.solid hafter
  exact ⟨rfl, rfl⟩

theorem separated_itemsText (items : List (Padded Tree)) (rest : List Char) :
    Separated (itemsText items ++ ']' :: rest) := by
  cases items with
  | nil => exact ⟨']', rest, rfl, .inr (.inl rfl)⟩
  | cons item items => exact ⟨',', _, rfl, .inl rfl⟩

/-- Items are told up to the closing bracket if their values are. -/
theorem itemsText_inj {items others : List (Padded Tree)} (hitems : ∀ item ∈ items, item.held.Told)
    {rest more : List Char}
    (h : itemsText items ++ ']' :: rest = itemsText others ++ ']' :: more) :
    items = others ∧ rest = more := by
  induction items generalizing others with
  | nil =>
    cases others with
    | nil => exact ⟨rfl, (List.cons.inj h).2⟩
    | cons other others => simp [itemsText] at h
  | cons item items ih =>
    obtain ⟨hitem, hitems⟩ := List.forall_mem_cons.mp hitems
    cases others with
    | nil => simp [itemsText] at h
    | cons other others =>
      simp only [itemsText, List.cons_append, List.append_assoc, List.cons.injEq, true_and] at h
      obtain ⟨rfl, hbehind⟩ :=
        itemText_inj hitem (separated_itemsText _ _) (separated_itemsText _ _) h
      obtain ⟨rfl, rfl⟩ := ih hitems hbehind
      exact ⟨rfl, rfl⟩

theorem memberText_inj {a b : Member Tree} (ha : a.value.held.Told) {rest more : List Char}
    (hrest : Separated rest) (hmore : Separated more)
    (h : memberText a ++ rest = memberText b ++ more) : a = b ∧ rest = more := by
  obtain ⟨before, key, between, value⟩ := a
  obtain ⟨before', key', between', value'⟩ := b
  simp only [memberText, List.append_assoc] at h
  obtain ⟨rfl, hkey⟩ := Blanks.eq_of_append (solid_cons (by decide) _) (solid_cons (by decide) _) h
  obtain ⟨rfl, hbetween⟩ := stringText_inj hkey
  obtain ⟨rfl, hcolon⟩ :=
    Blanks.eq_of_append (solid_cons (by decide) _) (solid_cons (by decide) _) hbetween
  obtain ⟨rfl, rfl⟩ := itemText_inj ha hrest hmore (List.cons.inj hcolon).2
  exact ⟨rfl, rfl⟩

theorem separated_membersText (members : List (Member Tree)) (rest : List Char) :
    Separated (membersText members ++ '\x7d' :: rest) := by
  cases members with
  | nil => exact ⟨'\x7d', rest, rfl, .inr (.inr rfl)⟩
  | cons member members => exact ⟨',', _, rfl, .inl rfl⟩

/-- Members are told up to the closing brace if their values are. -/
theorem membersText_inj {members others : List (Member Tree)}
    (hmembers : ∀ m ∈ members, m.value.held.Told) {rest more : List Char}
    (h : membersText members ++ '\x7d' :: rest = membersText others ++ '\x7d' :: more) :
    members = others ∧ rest = more := by
  induction members generalizing others with
  | nil =>
    cases others with
    | nil => exact ⟨rfl, (List.cons.inj h).2⟩
    | cons other others => simp [membersText] at h
  | cons m members ih =>
    obtain ⟨hm, hmembers⟩ := List.forall_mem_cons.mp hmembers
    cases others with
    | nil => simp [membersText] at h
    | cons other others =>
      simp only [membersText, List.cons_append, List.append_assoc, List.cons.injEq, true_and] at h
      obtain ⟨rfl, hbehind⟩ :=
        memberText_inj hm (separated_membersText _ _) (separated_membersText _ _) h
      obtain ⟨rfl, rfl⟩ := ih hmembers hbehind
      exact ⟨rfl, rfl⟩

/-! ## Trees -/

theorem emptyArray_append (inside : Blanks) (rest : List Char) :
    (Tree.emptyArray inside).text ++ rest = '[' :: (inside.text ++ ']' :: rest) := by
  simp [Tree.text]

theorem array_append (first : Padded Tree) (more : List (Padded Tree)) (rest : List Char) :
    (Tree.array first more).text ++ rest =
      '[' :: (itemText first ++ (itemsText more ++ ']' :: rest)) := by
  simp [Tree.text]

theorem emptyObject_append (inside : Blanks) (rest : List Char) :
    (Tree.emptyObject inside).text ++ rest = '\x7b' :: (inside.text ++ '\x7d' :: rest) := by
  simp [Tree.text]

theorem object_append (first : Member Tree) (more : List (Member Tree)) (rest : List Char) :
    (Tree.object first more).text ++ rest =
      '\x7b' :: (memberText first ++ (membersText more ++ '\x7d' :: rest)) := by
  simp [Tree.text]

/-- Brackets that hold blanks only are not taken for brackets that hold items. -/
theorem blanks_ne_itemText (inside : Blanks) (item : Padded Tree) (rest more : List Char) :
    inside.text ++ ']' :: rest ≠ itemText item ++ more := by
  intro h
  obtain ⟨c, tail, hskip, hc⟩ := skipBlanks_itemText item more
  rw [← h, skipBlanks_append, skipBlanks_cons (by decide)] at hskip
  exact hc (List.cons.inj hskip).1.symm

/-- Braces that hold blanks only are not taken for braces that hold members. -/
theorem blanks_ne_memberText (inside : Blanks) (m : Member Tree) (rest more : List Char) :
    inside.text ++ '\x7d' :: rest ≠ memberText m ++ more := by
  intro h
  have hskip := congrArg skipBlanks h
  rw [memberText_eq, List.append_assoc, skipBlanks_append, skipBlanks_append, List.cons_append,
    skipBlanks_cons (by decide), skipBlanks_cons (by decide)] at hskip
  simp at hskip

theorem told_emptyArray (inside : Blanks) : (Tree.emptyArray inside).Told := by
  intro u rest behind _ _ h
  have hkind := Tree.kind_eq_of_append h
  rw [emptyArray_append] at h
  cases u with
  | emptyArray inside' =>
    rw [emptyArray_append] at h
    obtain ⟨rfl, htail⟩ := Blanks.eq_of_append (solid_cons (by decide) _)
      (solid_cons (by decide) _) (List.cons.inj h).2
    exact ⟨rfl, (List.cons.inj htail).2⟩
  | array first more =>
    rw [array_append] at h
    exact absurd (List.cons.inj h).2 (blanks_ne_itemText inside first rest _)
  | null | bool | number | string | emptyObject | object => simp [Tree.value, kind] at hkind

theorem told_array {first : Padded Tree} {more : List (Padded Tree)}
    (hitems : ∀ item ∈ first :: more, item.held.Told) : (Tree.array first more).Told := by
  intro u rest behind _ _ h
  have hkind := Tree.kind_eq_of_append h
  obtain ⟨hfirst, hmore⟩ := List.forall_mem_cons.mp hitems
  rw [array_append] at h
  cases u with
  | emptyArray inside =>
    rw [emptyArray_append] at h
    exact absurd (List.cons.inj h).2.symm (blanks_ne_itemText inside first behind _)
  | array first' more' =>
    rw [array_append] at h
    obtain ⟨rfl, hitems⟩ := itemText_inj hfirst (separated_itemsText _ _)
      (separated_itemsText _ _) (List.cons.inj h).2
    obtain ⟨rfl, rfl⟩ := itemsText_inj hmore hitems
    exact ⟨rfl, rfl⟩
  | null | bool | number | string | emptyObject | object => simp [Tree.value, kind] at hkind

theorem told_emptyObject (inside : Blanks) : (Tree.emptyObject inside).Told := by
  intro u rest behind _ _ h
  have hkind := Tree.kind_eq_of_append h
  rw [emptyObject_append] at h
  cases u with
  | emptyObject inside' =>
    rw [emptyObject_append] at h
    obtain ⟨rfl, htail⟩ := Blanks.eq_of_append (solid_cons (by decide) _)
      (solid_cons (by decide) _) (List.cons.inj h).2
    exact ⟨rfl, (List.cons.inj htail).2⟩
  | object first more =>
    rw [object_append] at h
    exact absurd (List.cons.inj h).2 (blanks_ne_memberText inside first rest _)
  | null | bool | number | string | emptyArray | array => simp [Tree.value, kind] at hkind

theorem told_object {first : Member Tree} {more : List (Member Tree)}
    (hmembers : ∀ m ∈ first :: more, m.value.held.Told) : (Tree.object first more).Told := by
  intro u rest behind _ _ h
  have hkind := Tree.kind_eq_of_append h
  obtain ⟨hfirst, hmore⟩ := List.forall_mem_cons.mp hmembers
  rw [object_append] at h
  cases u with
  | emptyObject inside =>
    rw [emptyObject_append] at h
    exact absurd (List.cons.inj h).2.symm (blanks_ne_memberText inside first behind _)
  | object first' more' =>
    rw [object_append] at h
    obtain ⟨rfl, hmembers⟩ := memberText_inj hfirst (separated_membersText _ _)
      (separated_membersText _ _) (List.cons.inj h).2
    obtain ⟨rfl, rfl⟩ := membersText_inj hmore hmembers
    exact ⟨rfl, rfl⟩
  | null | bool | number | string | emptyArray | array => simp [Tree.value, kind] at hkind

theorem told_null : Tree.null.Told := by
  intro u rest behind _ _ h
  have hkind := Tree.kind_eq_of_append h
  cases u with
  | null => exact ⟨rfl, List.append_cancel_left h⟩
  | bool | number | string | emptyArray | array | emptyObject | object =>
    simp [Tree.value, kind] at hkind

theorem told_bool (b : Bool) : (Tree.bool b).Told := by
  intro u rest behind _ _ h
  have hkind := Tree.kind_eq_of_append h
  cases u with
  | bool b' => cases b <;> cases b' <;> simp_all [Tree.text]
  | null | number | string | emptyArray | array | emptyObject | object =>
    simp [Tree.value, kind] at hkind

theorem told_number (n : NumberText) : (Tree.number n).Told := by
  intro u rest behind hrest hbehind h
  have hkind := Tree.kind_eq_of_append h
  cases u with
  | number m =>
    obtain ⟨rfl, rfl⟩ := NumberText.text_inj hrest.endsNumber hbehind.endsNumber h
    exact ⟨rfl, rfl⟩
  | null | bool | string | emptyArray | array | emptyObject | object =>
    simp [Tree.value, kind] at hkind

theorem told_string (pieces : List Piece) : (Tree.string pieces).Told := by
  intro u rest behind _ _ h
  have hkind := Tree.kind_eq_of_append h
  cases u with
  | string others =>
    obtain ⟨rfl, rfl⟩ := stringText_inj h
    exact ⟨rfl, rfl⟩
  | null | bool | number | emptyArray | array | emptyObject | object =>
    simp [Tree.value, kind] at hkind

/-- Every tree can be told from a text that begins with it. -/
theorem Tree.told (t : Tree) : t.Told := by
  induction t using Tree.induction with
  | h t ih =>
    cases t with
    | null => exact told_null
    | bool b => exact told_bool b
    | number n => exact told_number n
    | string pieces => exact told_string pieces
    | emptyArray inside => exact told_emptyArray inside
    | array first more =>
      exact told_array fun item hitem => ih item.held (List.mem_map_of_mem hitem)
    | emptyObject inside => exact told_emptyObject inside
    | object first more =>
      exact told_object fun m hm => ih m.value.held (List.mem_map_of_mem hm)

/-! ## Texts -/

/-- A tree is written as a text, with blanks around it. -/
def Tree.Writes (t : Tree) (text : String) : Prop :=
  ∃ before after : Blanks, before.text ++ t.text ++ after.text = text.toList

/-- A text is written from one tree at most. -/
theorem Tree.Writes.unique {t u : Tree} {text : String} (ht : t.Writes text)
    (hu : u.Writes text) : t = u := by
  obtain ⟨before, after, htext⟩ := ht
  obtain ⟨before', after', htext'⟩ := hu
  rw [← htext', List.append_assoc, List.append_assoc] at htext
  obtain ⟨-, hbehind⟩ := Blanks.eq_of_append (t.solid_text _) (u.solid_text _) htext
  exact (t.told u _ _ (delimited_blanks after) (delimited_blanks after') hbehind).1

/-- A text that a tree is written as is read as a value exactly if the tree has what a reader asks for
and stands for the value. -/
theorem Tree.Writes.parse_eq_ok_iff {t : Tree} {text : String} (h : t.Writes text) {v : Json} :
    parse text = .ok v ↔ t.Admitted maxDepth ∧ t.value = v := by
  rw [Written.parse_eq_ok_iff]
  constructor
  · rintro ⟨before, after, u, htext, hu, rfl⟩
    obtain rfl := h.unique ⟨before, after, htext⟩
    exact ⟨hu, rfl⟩
  · rintro ⟨ht, rfl⟩
    obtain ⟨before, after, htext⟩ := h
    exact ⟨before, after, t, htext, ht, rfl⟩

end DiagnosticDigest.Json.Written
