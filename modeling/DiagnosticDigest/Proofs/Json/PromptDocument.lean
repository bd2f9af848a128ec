import DiagnosticDigest.Proofs.Json.Lists
import DiagnosticDigest.Proofs.Json.PromptTokens
import Mathlib.Data.List.DropRight

/-!
# Prompt readers of values

Values are read promptly: the lists in brackets and braces with any prompt reader for what stands in
them, and so, by induction on how deep they may be nested, documents.
-/

namespace DiagnosticDigest.Json

variable {α : Type}

/-! ## Arrays -/

theorem skipBlanks_skipBlanks (text : List Char) : skipBlanks (skipBlanks text) = skipBlanks text :=
  List.dropWhile_idempotent isBlank text

/-- Reads what follows a comma in an array, behind blanks. -/
def nextItem (item : Reader α) (done : List α) (text : List Char) : Reading (List α) :=
  match text with
  | [] => .error (.atEnd .endInValue)
  | ']' :: rest => .error (.past .trailingComma (']' :: rest))
  | _ => itemsFrom item done text

/-- Reads what follows an item, behind blanks. -/
def afterItem (item : Reader α) (done : List α) (text : List Char) : Reading (List α) :=
  match text with
  | [] => .error (.atEnd .endInList)
  | ']' :: rest => .ok (done.reverse, rest)
  | ',' :: rest => nextItem item done (skipBlanks rest)
  | other => .error (.past .expectedListEnd other)

section Items

variable {item : Reader α} (hblanks : ∀ text, item.run (skipBlanks text) = item.run text)
include hblanks

/-- A reader of items that skips blanks leaves it open where the first item starts. -/
theorem itemsFrom_skipBlanks (done : List α) (text : List Char) :
    itemsFrom item done (skipBlanks text) = itemsFrom item done text := by
  rw [itemsFrom.eq_def, itemsFrom.eq_def item done text, hblanks]

theorem itemsFrom_eq (done : List α) :
    itemsFrom item done =
      andThen item.run fun value rest => afterItem item (value :: done) (skipBlanks rest) := by
  apply eq_andThen
  · intro text fault h
    rw [itemsFrom.eq_def]
    split <;> simp_all
  · intro text value rest h
    rw [itemsFrom.eq_def]
    split
    · simp_all
    · rename_i read tail hread
      obtain ⟨rfl, rfl⟩ : value = read ∧ rest = tail := by simpa [h] using hread
      split
      · rename_i hrest
        rw [hrest, afterItem]
      · rename_i hrest
        rw [hrest, afterItem]
      · rename_i more hrest
        rw [hrest, afterItem, nextItem.eq_def]
        split <;> simp_all [itemsFrom_skipBlanks hblanks]
      · rw [afterItem.eq_def]
        simp_all

variable (hprompt : ∀ text, Prompt item.run text)
include hprompt

theorem prompt_itemsFrom (done : List α) (text : List Char) : Prompt (itemsFrom item done) text := by
  induction hn : text.length using Nat.strongRecOn generalizing done text with
  | ind n ih =>
    -- what follows a comma is shorter, and is read behind its blanks
    have hnext : ∀ done next, next.length < n → Prompt (nextItem item done) next := by
      intro done next hlength
      cases next with
      | nil => exact .atEnd rfl rfl
      | cons c more =>
        by_cases hbracket : c = ']'
        · subst hbracket
          refine (Prompt.past Cause.trailingComma rfl ']' more).of_alike ?_
          intro d more halike
          obtain rfl := halike.eq (by decide)
          rfl
        · refine (ih _ hlength done (c :: more) rfl).of_alike ?_
          intro d more halike
          have hd : d ≠ ']' := halike.ne hbracket (by decide)
          simp [nextItem, hd]
    rw [itemsFrom_eq hblanks]
    refine (hprompt text).andThen fun value rest h => Prompt.blanks ?_
    have hrest := item.shortens h
    have hskip := length_skipBlanks_le rest
    generalize skipBlanks rest = behind at hskip
    cases behind with
    | nil => exact .atEnd rfl rfl
    | cons c tail =>
      rw [List.length_cons] at hskip
      by_cases hbracket : c = ']'
      · subst hbracket
        exact (Prompt.nothing (value :: done).reverse tail).behind [']'] fun _ => rfl
      by_cases hcomma : c = ','
      · subst hcomma
        have htail := length_skipBlanks_le tail
        have hmore := hnext (value :: done) (skipBlanks tail) (by omega)
        exact hmore.blanks.behind [','] fun _ => rfl
      · refine (Prompt.past Cause.expectedListEnd rfl c tail).of_alike ?_
        intro d more halike
        have hbracket : d ≠ ']' := halike.ne hbracket (by decide)
        have hcomma : d ≠ ',' := halike.ne hcomma (by decide)
        simp [afterItem, hbracket, hcomma]

/-- Reads the inside of an array, behind blanks. -/
def firstItem (item : Reader α) (text : List Char) : Reading (List α) :=
  match text with
  | [] => .error (.atEnd .endInList)
  | ']' :: rest => .ok ([], rest)
  | _ => itemsFrom item [] text

theorem prompt_items (text : List Char) : Prompt (items item) text := by
  have hwhole : items item = fun text => firstItem item (skipBlanks text) := by
    funext text
    rw [items]
    split <;> simp_all [firstItem, itemsFrom_skipBlanks hblanks]
  rw [hwhole]
  refine Prompt.blanks ?_
  cases skipBlanks text with
  | nil => exact .atEnd rfl rfl
  | cons c rest =>
    by_cases hbracket : c = ']'
    · subst hbracket
      exact (Prompt.nothing [] rest).behind [']'] fun _ => rfl
    · refine (prompt_itemsFrom hblanks hprompt [] (c :: rest)).of_alike ?_
      intro d more halike
      have hd : d ≠ ']' := halike.ne hbracket (by decide)
      simp [firstItem, hd]

end Items

/-! ## Objects -/

/-- Reads the value of a member, behind the blanks that follow its key. -/
def afterKey (value : Reader α) (name : String) (text : List Char) : Reading (String × α) :=
  match text with
  | [] => .error (.atEnd .endInObject)
  | ':' :: rest => andThen value.run (fun held rest => .ok ((name, held), rest)) rest
  | other => .error (.past .expectedColon other)

theorem prompt_member {value : Reader α} (hvalue : ∀ text, Prompt value.run text)
    (text : List Char) : Prompt (member quotation value).run text := by
  have hwhole : (member quotation value).run =
      andThen quotation.run fun name rest => afterKey value name (skipBlanks rest) := by
    apply eq_andThen
    · intro text fault h
      simp only [member, readMember, h]
    · intro text name rest h
      simp only [member, readMember, h]
      split
      · simp_all [afterKey]
      · rename_i tail hrest
        cases hvalue : value.run tail <;> simp [hrest, afterKey, andThen, hvalue]
      · simp_all [afterKey]
  rw [hwhole]
  refine (prompt_quotation text).andThen fun name rest _ => Prompt.blanks ?_
  cases skipBlanks rest with
  | nil => exact .atEnd rfl rfl
  | cons c tail =>
    by_cases hcolon : c = ':'
    · subst hcolon
      have hheld : Prompt (andThen value.run fun held rest => .ok ((name, held), rest)) tail :=
        (hvalue tail).andThen fun held rest _ => .nothing (name, held) rest
      exact hheld.behind [':'] fun _ => rfl
    · refine (Prompt.past Cause.expectedColon rfl c tail).of_alike ?_
      intro d more halike
      have hd : d ≠ ':' := halike.ne hcolon (by decide)
      simp [afterKey, hd]

/-- Reads what follows a comma in an object, behind blanks. -/
def nextMember (member : Reader (String × α)) (done : List (String × α)) (text : List Char) :
    Reading (List (String × α)) :=
  match text with
  | [] => .error (.atEnd .endInValue)
  | '"' :: rest => membersFrom member done rest
  | '\x7d' :: rest => .error (.past .trailingComma ('\x7d' :: rest))
  | other => .error (.past .keyNotString other)

/-- Reads what follows a member, behind blanks. -/
def afterMember (member : Reader (String × α)) (done : List (String × α)) (text : List Char) :
    Reading (List (String × α)) :=
  match text with
  | [] => .error (.atEnd .endInObject)
  | '\x7d' :: rest => .ok (done.reverse, rest)
  | ',' :: rest => nextMember member done (skipBlanks rest)
  | other => .error (.past .expectedObjectEnd other)

theorem membersFrom_eq (member : Reader (String × α)) (done : List (String × α)) :
    membersFrom member done =
      andThen member.run fun pair rest => afterMember member (pair :: done) (skipBlanks rest) := by
  apply eq_andThen
  · intro text fault h
    rw [membersFrom.eq_def]
    split <;> simp_all
  · intro text pair rest h
    rw [membersFrom.eq_def]
    split
    · simp_all
    · rename_i read tail hread
      obtain ⟨rfl, rfl⟩ : pair = read ∧ rest = tail := by simpa [h] using hread
      split
      · rename_i hrest
        rw [hrest, afterMember]
      · rename_i hrest
        rw [hrest, afterMember]
      · rename_i more hrest
        rw [hrest, afterMember, nextMember.eq_def]
        split <;> simp_all
      · rw [afterMember.eq_def]
        simp_all

theorem prompt_membersFrom {member : Reader (String × α)} (hprompt : ∀ text, Prompt member.run text)
    (done : List (String × α)) (text : List Char) : Prompt (membersFrom member done) text := by
  induction hn : text.length using Nat.strongRecOn generalizing done text with
  | ind n ih =>
    have hnext : ∀ done next, next.length < n → Prompt (nextMember member done) next := by
      intro done next hlength
      cases next with
      | nil => exact .atEnd rfl rfl
      | cons c more =>
        rw [List.length_cons] at hlength
        by_cases hquote : c = '"'
        · subst hquote
          exact (ih more.length (by omega) done more rfl).behind ['"'] fun _ => rfl
        by_cases hbrace : c = '\x7d'
        · subst hbrace
          refine (Prompt.past Cause.trailingComma rfl '\x7d' more).of_alike ?_
          intro d more halike
          obtain rfl := halike.eq (by decide)
          rfl
        · refine (Prompt.past Cause.keyNotString rfl c more).of_alike ?_
          intro d more halike
          have hquote : d ≠ '"' := halike.ne hquote (by decide)
          have hbrace : d ≠ '\x7d' := halike.ne hbrace (by decide)
          simp [nextMember, hquote, hbrace]
    rw [membersFrom_eq]
    refine (hprompt text).andThen fun pair rest h => Prompt.blanks ?_
    have hrest := member.shortens h
    have hskip := length_skipBlanks_le rest
    generalize skipBlanks rest = behind at hskip
    cases behind with
    | nil => exact .atEnd rfl rfl
    | cons c tail =>
      rw [List.length_cons] at hskip
      by_cases hbrace : c = '\x7d'
      · subst hbrace
        exact (Prompt.nothing (pair :: done).reverse tail).behind ['\x7d'] fun _ => rfl
      by_cases hcomma : c = ','
      · subst hcomma
        have htail := length_skipBlanks_le tail
        have hmore := hnext (pair :: done) (skipBlanks tail) (by omega)
        exact hmore.blanks.behind [','] fun _ => rfl
      · refine (Prompt.past Cause.expectedObjectEnd rfl c tail).of_alike ?_
        intro d more halike
        have hbrace : d ≠ '\x7d' := halike.ne hbrace (by decide)
        have hcomma : d ≠ ',' := halike.ne hcomma (by decide)
        simp [afterMember, hbrace, hcomma]

/-- Reads the inside of an object, behind blanks. -/
def firstMember (member : Reader (String × α)) (text : List Char) : Reading (List (String × α)) :=
  match text with
  | [] => .error (.atEnd .endInObject)
  | '\x7d' :: rest => .ok ([], rest)
  | '"' :: rest => membersFrom member [] rest
  | other => .error (.past .keyNotString other)

theorem prompt_members {member : Reader (String × α)} (hprompt : ∀ text, Prompt member.run text)
    (text : List Char) : Prompt (members member) text := by
  have hwhole : members member = fun text => firstMember member (skipBlanks text) := by
    funext text
    rw [members]
    split <;> simp_all [firstMember]
  rw [hwhole]
  refine Prompt.blanks ?_
  cases skipBlanks text with
  | nil => exact .atEnd rfl rfl
  | cons c rest =>
    by_cases hbrace : c = '\x7d'
    · subst hbrace
      exact (Prompt.nothing [] rest).behind ['\x7d'] fun _ => rfl
    by_cases hquote : c = '"'
    · subst hquote
      exact (prompt_membersFrom hprompt [] rest).behind ['"'] fun _ => rfl
    · refine (Prompt.past Cause.keyNotString rfl c rest).of_alike ?_
      intro d more halike
      have hbrace : d ≠ '\x7d' := halike.ne hbrace (by decide)
      have hquote : d ≠ '"' := halike.ne hquote (by decide)
      simp [firstMember, hbrace, hquote]

/-! ## Documents -/

theorem isBlank_of_skipBlanks {c : Char} {rest : List Char}
    (h : skipBlanks (c :: rest) = c :: rest) : isBlank c = false := by
  by_contra hblank
  have hle := length_skipBlanks_le rest
  rw [skipBlanks, List.dropWhile_cons_of_pos (by simpa using hblank)] at h
  rw [skipBlanks, h, List.length_cons] at hle
  omega

theorem readValue_skipBlanks (inner : Option (Reader Json)) (text : List Char) :
    readValue inner (skipBlanks text) = readValue inner text := by
  rw [readValue, readValue, skipBlanks_skipBlanks]

theorem prompt_readNested {inner : Reader Json}
    (hblanks : ∀ text, inner.run (skipBlanks text) = inner.run text)
    (hprompt : ∀ text, Prompt inner.run text) (bracket : Char) (text : List Char) :
    Prompt (readNested (some inner) bracket) text := by
  by_cases hbracket : bracket = '['
  · have hwhole : readNested (some inner) bracket =
        andThen (items inner) fun read rest => .ok (.array read, rest) := by
      apply eq_andThen
      · intro text fault h
        simp [readNested, hbracket, h]
      · intro text read rest h
        simp [readNested, hbracket, h]
    rw [hwhole]
    exact (prompt_items hblanks hprompt text).andThen fun read rest _ => .nothing _ rest
  · have hwhole : readNested (some inner) bracket =
        andThen (members (member quotation inner)) fun read rest =>
          .ok (.object (Members.ofPairs read), rest) := by
      apply eq_andThen
      · intro text fault h
        simp [readNested, hbracket, h]
      · intro text read rest h
        simp [readNested, hbracket, h]
    rw [hwhole]
    exact (prompt_members (prompt_member hprompt) text).andThen fun read rest _ =>
      .nothing _ rest

/-- Numbers start with characters that are alike to no others. -/
theorem Alike.startsNumber_eq {c d : Char} (h : Alike c d) :
    (d = '-' || d.isDigit) = (c = '-' || c.isDigit) := by
  refine Alike.congr (p := fun c => c = '-' || c.isDigit) ?_ h
  intro e he
  have hminus : e ≠ '-' := by
    rintro rfl
    simp at he
  simp [hminus, isDigit_eq_false he]

/-- What starts with no other value is a number, or none. -/
theorem readValue_of_notMem (inner : Option (Reader Json)) {c : Char} (hbare : isBlank c = false)
    (hstart : c ∉ ['n', 't', 'f', '"', '[', '\x7b']) (rest : List Char) :
    readValue inner (c :: rest) =
      if c = '-' || c.isDigit then
        andThen numeral.run (fun read rest => .ok (.number read, rest)) (c :: rest)
      else .error (.past .expectedValue (c :: rest)) := by
  simp only [List.mem_cons, List.not_mem_nil, or_false, not_or] at hstart
  obtain ⟨hnull, htrue, hfalse, hquote, hbracket, hbrace⟩ := hstart
  rw [readValue, Written.skipBlanks_cons hbare, andThen]
  simp only [hnull, htrue, hfalse, hquote, hbracket, hbrace, if_false]
  cases numeral.run (c :: rest) <;> rfl

theorem prompt_readValue_of_notMem (inner : Option (Reader Json)) {c : Char}
    (hbare : isBlank c = false) (hstart : c ∉ ['n', 't', 'f', '"', '[', '\x7b'])
    (rest : List Char) : Prompt (readValue inner) (c :: rest) := by
  have halike : ∀ d more, Alike c d → readValue inner (d :: more) =
      if c = '-' || c.isDigit then
        andThen numeral.run (fun read rest => .ok (.number read, rest)) (d :: more)
      else .error (.past .expectedValue (d :: more)) := by
    intro d more halike
    have hd : isBlank d = false := (halike.congr fun _ => isBlank_eq_false).trans hbare
    have hnot : d ∉ ['n', 't', 'f', '"', '[', '\x7b'] := by
      intro hmem
      have hascii : ∀ start ∈ ['n', 't', 'f', '"', '[', '\x7b'], start.toNat < 0x80 := by
        simp
      refine halike.ne ?_ (hascii d hmem) rfl
      rintro rfl
      exact hstart hmem
    rw [readValue_of_notMem inner hd hnot, halike.startsNumber_eq]
  by_cases hnumber : (c = '-' || c.isDigit) = true
  · have hprompt : Prompt (andThen numeral.run fun read rest => .ok (Json.number read, rest))
        (c :: rest) := (prompt_numeral _).andThen fun read rest _ => .nothing _ rest
    refine hprompt.of_alike ?_
    intro d more hd
    rw [halike d more hd, if_pos hnumber]
  · refine (Prompt.past Cause.expectedValue rfl c rest).of_alike ?_
    intro d more hd
    rw [halike d more hd, if_neg hnumber]

theorem prompt_readValue {inner : Option (Reader Json)}
    (hinner : ∀ reader ∈ inner, (∀ text, reader.run (skipBlanks text) = reader.run text) ∧
      ∀ text, Prompt reader.run text) (text : List Char) : Prompt (readValue inner) text := by
  have hwhole : readValue inner = fun text => readValue inner (skipBlanks text) := by
    funext text
    rw [readValue_skipBlanks]
  rw [hwhole]
  refine Prompt.blanks ?_
  have hskip := skipBlanks_skipBlanks text
  generalize skipBlanks text = text at hskip
  cases text with
  | nil => exact .atEnd rfl rfl
  | cons c rest =>
    have hbare := isBlank_of_skipBlanks hskip
    by_cases hnull : c = 'n'
    · subst hnull
      exact (prompt_readLiteral .null (by simp) rest).behind ['n'] fun _ => rfl
    by_cases htrue : c = 't'
    · subst htrue
      exact (prompt_readLiteral (.bool true) (by simp) rest).behind ['t'] fun _ => rfl
    by_cases hfalse : c = 'f'
    · subst hfalse
      exact (prompt_readLiteral (.bool false) (by simp) rest).behind ['f'] fun _ => rfl
    by_cases hquote : c = '"'
    · subst hquote
      have hstring : Prompt (andThen quotation.run fun read rest => .ok (Json.string read, rest))
          rest := (prompt_quotation rest).andThen fun read rest _ => .nothing _ rest
      refine hstring.behind ['"'] ?_
      intro rest
      rw [List.singleton_append, readValue, Written.skipBlanks_cons hbare, andThen]
      dsimp only
      cases quotation.run rest <;> rfl
    by_cases hnested : c = '[' ∨ c = '\x7b'
    · have hread : ∀ rest, readValue inner (c :: rest) = readNested inner c rest := by
        intro rest
        rw [readValue, Written.skipBlanks_cons hbare]
        rcases hnested with rfl | rfl <;> rfl
      cases inner with
      | none =>
        refine (Prompt.past Cause.nestingTooDeep rfl c rest).of_alike ?_
        intro d more halike
        obtain rfl := halike.eq (by rcases hnested with rfl | rfl <;> decide)
        exact hread more
      | some inner =>
        obtain ⟨hblanks, hprompt⟩ := hinner inner rfl
        exact (prompt_readNested hblanks hprompt c rest).behind [c] hread
    · refine prompt_readValue_of_notMem inner hbare ?_ rest
      simp only [not_or] at hnested
      simp [hnull, htrue, hfalse, hquote, hnested]

theorem value_run_skipBlanks (depth : Nat) (text : List Char) :
    (value depth).run (skipBlanks text) = (value depth).run text := by
  cases depth <;> exact readValue_skipBlanks _ text

/-- Values are read promptly, however deep they may be nested. -/
theorem prompt_value (depth : Nat) (text : List Char) : Prompt (value depth).run text := by
  induction depth generalizing text with
  | zero => exact prompt_readValue (by simp) text
  | succ depth ih =>
    refine prompt_readValue ?_ text
    intro reader hreader
    obtain rfl := Option.some.inj hreader
    exact ⟨value_run_skipBlanks depth, ih⟩

/-- Takes the end of a text, behind blanks. -/
def ending (v : Json) (text : List Char) : Reading Json :=
  match text with
  | [] => .ok (v, [])
  | other => .error (.past .trailingText other)

/-- Reads a whole text as a reader does. -/
def readWholeText : List Char → Reading Json :=
  andThen (value maxDepth).run fun v rest => ending v (skipBlanks rest)

theorem prompt_readWholeText (text : List Char) : Prompt readWholeText text := by
  refine (prompt_value maxDepth text).andThen fun v rest _ => Prompt.blanks ?_
  cases skipBlanks rest with
  | nil => exact .lastly rfl
  | cons c tail =>
    exact (Prompt.past Cause.trailingText rfl c tail).of_alike fun d more _ => rfl

theorem parseChars_eq (text : List Char) : parseChars text = (readWholeText text).map Prod.fst := by
  rw [parseChars, readWholeText, andThen]
  cases (value maxDepth).run text with
  | error fault => rfl
  | ok found =>
    dsimp only
    rw [ending.eq_def]
    cases skipBlanks found.2 <;> rfl

end DiagnosticDigest.Json
