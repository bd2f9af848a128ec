import DiagnosticDigest.Proofs.Json.Written
import Mathlib.Data.List.Basic

/-!
# Reading strings

The reader of strings takes exactly the written strings in which surrogates are paired, and gives
the characters that are meant. Pairing is a property of neighbours; for the reader it is restated as
a way to cut a string into pieces, or pairs of them, that stand for one character each.

## Main definitions

* `Written.Stands` — one or two pieces that stand for a character.
* `Written.Spelled` — pieces that are cut into such parts, with the characters they stand for.
-/

namespace DiagnosticDigest.Json.Written

/-! ## Pieces that stand for one character -/

/-- Pieces that stand for one character: a single one that is no surrogate, or a pair of
surrogates. -/
inductive Stands : List Piece → Char → Prop
  | plain (c : Char) (h) : Stands [.plain c h] c
  | simple (e : Escape) : Stands [.simple e] e.meaning
  | code (x : Code) : isLeading x.number = false → isTrailing x.number = false →
      Stands [.code x] (Char.ofNat x.number)
  | pair (x y : Code) : isLeading x.number = true → isTrailing y.number = true →
      Stands [.code x, .code y] (ofPair x.number y.number)

/-- Pieces that are cut into parts that stand for one character each. -/
inductive Spelled : List Piece → List Char → Prop
  | nil : Spelled [] []
  | cons {part pieces : List Piece} {c : Char} {cs : List Char} :
      Stands part c → Spelled pieces cs → Spelled (part ++ pieces) (c :: cs)

/-- No number is both halves of a pair. -/
theorem isTrailing_of_isLeading {n : Nat} (h : isLeading n = true) : isTrailing n = false := by
  simp only [isLeading, isTrailing, Bool.and_eq_true, decide_eq_true_eq, Bool.and_eq_false_iff,
    decide_eq_false_iff_not] at h ⊢
  omega

theorem Piece.leads_code {x : Code} : (Piece.code x).Leads ↔ isLeading x.number = true := by
  constructor
  · rintro ⟨y, h, hy⟩
    cases h
    exact hy
  · intro h
    exact ⟨x, rfl, h⟩

theorem Piece.trails_code {x : Code} : (Piece.code x).Trails ↔ isTrailing x.number = true := by
  constructor
  · rintro ⟨y, h, hy⟩
    cases h
    exact hy
  · intro h
    exact ⟨x, rfl, h⟩

theorem Piece.not_leads_of_trails {p : Piece} (h : p.Trails) : ¬ p.Leads := by
  obtain ⟨x, rfl, hx⟩ := h
  rw [Piece.leads_code]
  intro hleads
  rw [isTrailing_of_isLeading hleads] at hx
  simp at hx

/-! ## Pairing -/

theorem paired_nil : Paired [] := by
  intro before piece after h
  simp at h

/-- Strings in which surrogates are paired can be put together. -/
theorem Paired.append {a b : List Piece} (ha : Paired a) (hb : Paired b) : Paired (a ++ b) := by
  intro before piece after h
  rcases List.append_eq_append_iff.mp h with ⟨mid, rfl, hmid⟩ | ⟨mid, rfl, hmid⟩
  · obtain ⟨hleads, htrails⟩ := hb mid piece after hmid
    refine ⟨hleads, fun hp => ?_⟩
    obtain ⟨last, hlast, hl⟩ := htrails hp
    exact ⟨last, by rw [List.getLast?_append, hlast]; rfl, hl⟩
  · cases mid with
    | nil =>
      obtain ⟨hleads, htrails⟩ := hb [] piece after (by simpa using hmid.symm)
      refine ⟨hleads, fun hp => ?_⟩
      obtain ⟨last, hlast, -⟩ := htrails hp
      simp at hlast
    | cons first mid =>
      rw [List.cons_append, List.cons.injEq] at hmid
      obtain ⟨rfl, rfl⟩ := hmid
      obtain ⟨hleads, htrails⟩ := ha before piece mid rfl
      refine ⟨fun hp => ?_, htrails⟩
      obtain ⟨next, hnext, hn⟩ := hleads hp
      exact ⟨next, by rw [List.head?_append, hnext]; rfl, hn⟩

/-- A string in which surrogates are paired may be cut where no pair is. -/
theorem Paired.of_append {a b : List Piece} (h : Paired (a ++ b))
    (hlast : ∀ last ∈ a.getLast?, ¬ last.Leads) : Paired b := by
  intro before piece after hb
  obtain ⟨hleads, htrails⟩ := h (a ++ before) piece after (by rw [hb, List.append_assoc])
  refine ⟨hleads, fun hp => ?_⟩
  obtain ⟨last, hmem, hl⟩ := htrails hp
  rw [List.getLast?_append] at hmem
  cases hbefore : before.getLast? with
  | some other =>
    rw [hbefore] at hmem
    exact ⟨last, hmem, hl⟩
  | none =>
    rw [hbefore] at hmem
    exact absurd hl (hlast last hmem)

theorem paired_singleton {p : Piece} (hleads : ¬ p.Leads) (htrails : ¬ p.Trails) :
    Paired [p] := by
  intro before piece after h
  rcases List.singleton_eq_append_iff.mp h with ⟨rfl, h⟩ | ⟨rfl, h⟩
  · obtain ⟨rfl, rfl⟩ := List.cons.inj h
    exact ⟨fun hp => absurd hp hleads, fun hp => absurd hp htrails⟩
  · simp at h

theorem paired_pair {p q : Piece} (hp : p.Leads) (hq : q.Trails) : Paired [p, q] := by
  intro before piece after h
  rcases before with _ | ⟨first, _ | ⟨second, before⟩⟩
  · simp only [List.nil_append, List.cons.injEq] at h
    obtain ⟨rfl, rfl⟩ := h
    exact ⟨fun _ => ⟨q, rfl, hq⟩, fun htrails => absurd hp (Piece.not_leads_of_trails htrails)⟩
  · simp only [List.cons_append, List.nil_append, List.cons.injEq] at h
    obtain ⟨rfl, rfl, rfl⟩ := h
    exact ⟨fun hleads => absurd hleads (Piece.not_leads_of_trails hq), fun _ => ⟨p, rfl, hp⟩⟩
  · simp at h

theorem Stands.paired {part : List Piece} {c : Char} (h : Stands part c) : Paired part := by
  cases h with
  | plain c hc => exact paired_singleton (by simp [Piece.Leads]) (by simp [Piece.Trails])
  | simple e => exact paired_singleton (by simp [Piece.Leads]) (by simp [Piece.Trails])
  | code x hleads htrails =>
    exact paired_singleton (by simp [Piece.leads_code, hleads])
      (by simp [Piece.trails_code, htrails])
  | pair x y hleads htrails =>
    exact paired_pair (Piece.leads_code.mpr hleads) (Piece.trails_code.mpr htrails)

theorem Spelled.paired {pieces : List Piece} {cs : List Char} (h : Spelled pieces cs) :
    Paired pieces := by
  induction h with
  | nil => exact paired_nil
  | cons hpart _ ih => exact hpart.paired.append ih

theorem meaning_code {x : Code} (hleads : isLeading x.number = false) (rest : List Piece) :
    meaning (.code x :: rest) = Char.ofNat x.number :: meaning rest := by
  cases rest with
  | nil => rfl
  | cons next rest => cases next <;> simp [meaning, hleads]

theorem Spelled.meaning_eq {pieces : List Piece} {cs : List Char} (h : Spelled pieces cs) :
    meaning pieces = cs := by
  induction h with
  | nil => rfl
  | cons hpart _ ih =>
    cases hpart with
    | plain c hc => simp [meaning, ih]
    | simple e => simp [meaning, ih]
    | pair x y hleads htrails => simp [meaning, hleads, ih]
    | code x hleads htrails => rw [List.singleton_append, meaning_code hleads, ih]

/-- A string in which surrogates are paired can be cut into parts. -/
theorem Paired.spelled {pieces : List Piece} (h : Paired pieces) :
    Spelled pieces (meaning pieces) := by
  have hcode : ∀ {x rest}, Paired (.code x :: rest) → isTrailing x.number = false := by
    intro x rest h
    by_contra hx
    obtain ⟨last, hlast, -⟩ := (h [] _ rest rfl).2 (Piece.trails_code.mpr (by simpa using hx))
    simp at hlast
  fun_induction meaning pieces with
  | case1 => exact .nil
  | case2 c hc rest ih =>
    refine .cons (.plain c hc) (ih (h.of_append (a := [_]) ?_))
    simp [Piece.Leads]
  | case3 e rest ih =>
    refine .cons (.simple e) (ih (h.of_append (a := [_]) ?_))
    simp [Piece.Leads]
  | case4 x y rest hleads ih =>
    obtain ⟨next, hnext, htrails⟩ := (h [] _ _ rfl).1 (Piece.leads_code.mpr hleads)
    obtain rfl : Piece.code y = next := by simpa using hnext
    refine .cons (.pair x y hleads (Piece.trails_code.mp htrails))
      (ih (h.of_append (a := [_, _]) ?_))
    simpa using Piece.not_leads_of_trails htrails
  | case5 x y rest hleads ih =>
    refine .cons (.code x (by simpa using hleads) (hcode h)) (ih (h.of_append (a := [_]) ?_))
    simpa [Piece.leads_code] using hleads
  | case6 x rest hrest ih =>
    have hleads : isLeading x.number = false := by
      by_contra hx
      have hleads : (Piece.code x).Leads := Piece.leads_code.mpr (by simpa using hx)
      obtain ⟨next, hnext, y, rfl, -⟩ := (h [] _ rest rfl).1 hleads
      obtain ⟨tail, rfl⟩ := List.head?_eq_some_iff.mp hnext
      exact hrest y tail rfl
    refine .cons (.code x hleads (hcode h)) (ih (h.of_append (a := [_]) ?_))
    simp [Piece.leads_code, hleads]

/-! ## Digits of an escape -/

theorem hexDigit?_char (d : HexDigit) : hexDigit? d.char = some d.value := by
  have h := d.isHex
  simp only [HexDigit.value, hexDigit?, Bool.and_eq_true, decide_eq_true_eq]
  split
  · rfl
  · split
    · rfl
    · split
      · rfl
      · simp_all

theorem exists_hexDigit {c : Char} {n : Nat} (h : hexDigit? c = some n) :
    ∃ d : HexDigit, d.char = c ∧ d.value = n := by
  have hhex : ('0' ≤ c ∧ c ≤ '9') ∨ ('a' ≤ c ∧ c ≤ 'f') ∨ ('A' ≤ c ∧ c ≤ 'F') := by
    simp only [hexDigit?, Bool.and_eq_true, decide_eq_true_eq] at h
    grind
  exact ⟨⟨c, hhex⟩, rfl, by rw [HexDigit.value, h, Option.getD_some]⟩

theorem hexNumber_code (x : Code) (rest : List Char) :
    hexNumber (x.text ++ rest) = .ok (x.number, rest) := by
  simp [hexNumber, hexNumber?, Code.text, Code.number, hexDigit?_char]

theorem exists_code {text rest : List Char} {n : Nat} (h : hexNumber text = .ok (n, rest)) :
    ∃ x : Code, x.number = n ∧ text = x.text ++ rest := by
  rw [hexNumber] at h
  split at h
  · rename_i read hread
    obtain rfl : read = (n, rest) := by simpa using h
    rw [hexNumber?.eq_def] at hread
    split at hread
    · split at hread
      · rename_i ha hb hc hd
        obtain ⟨a, rfl, rfl⟩ := exists_hexDigit ha
        obtain ⟨b, rfl, rfl⟩ := exists_hexDigit hb
        obtain ⟨c, rfl, rfl⟩ := exists_hexDigit hc
        obtain ⟨d, rfl, rfl⟩ := exists_hexDigit hd
        simp only [Option.some.injEq, Prod.mk.injEq] at hread
        obtain ⟨rfl, rfl⟩ := hread
        exact ⟨⟨a, b, c, d⟩, rfl, rfl⟩
      · simp at hread
    · simp at hread
  · split at h <;> simp at h

/-! ## Escapes -/

theorem simpleEscape?_letter (e : Escape) : simpleEscape? e.letter = some e.meaning := by
  cases e <;> rfl

theorem Escape.letter_ne_u (e : Escape) : e.letter ≠ 'u' := by
  cases e <;> decide

theorem exists_escape {letter c : Char} (h : simpleEscape? letter = some c) :
    ∃ e : Escape, e.letter = letter ∧ e.meaning = c := by
  rw [simpleEscape?.eq_def] at h
  split at h
  · exact ⟨.quote, rfl, Option.some.inj h⟩
  · exact ⟨.backslash, rfl, Option.some.inj h⟩
  · exact ⟨.slash, rfl, Option.some.inj h⟩
  · exact ⟨.backspace, rfl, Option.some.inj h⟩
  · exact ⟨.formFeed, rfl, Option.some.inj h⟩
  · exact ⟨.lineFeed, rfl, Option.some.inj h⟩
  · exact ⟨.carriageReturn, rfl, Option.some.inj h⟩
  · exact ⟨.tab, rfl, Option.some.inj h⟩
  · simp at h

/-- The second half of a pair is an escape of a trailing surrogate. -/
theorem exists_trailing {text rest : List Char} {leading : Nat} {c : Char}
    (h : secondHalf leading text = .ok (c, rest)) :
    ∃ y : Code, isTrailing y.number = true ∧ ofPair leading y.number = c ∧
      text = '\\' :: 'u' :: y.text ++ rest := by
  rw [secondHalf.eq_def] at h
  split at h
  · simp at h
  · split at h
    · simp at h
    · split at h
      · simp at h
      · rename_i n tail hnumber
        obtain ⟨y, rfl, rfl⟩ := exists_code hnumber
        split at h
        · rename_i htrails
          obtain ⟨rfl, rfl⟩ : _ = c ∧ tail = rest := by simpa using h
          exact ⟨y, htrails, rfl, rfl⟩
        · simp at h
    · simp at h
  · simp at h

/-- What is read behind `\u` is an escape of no surrogate, or two that form a pair. -/
theorem exists_stands_code {text rest : List Char} {c : Char}
    (h : numberedEscape text = .ok (c, rest)) :
    ∃ part, Stands part c ∧ '\\' :: 'u' :: text = piecesText part ++ rest := by
  rw [numberedEscape] at h
  split at h
  · simp at h
  · rename_i n tail hnumber
    obtain ⟨x, rfl, rfl⟩ := exists_code hnumber
    split at h
    · simp at h
    · rename_i htrails
      split at h
      · rename_i hleads
        obtain ⟨y, hy, rfl, rfl⟩ := exists_trailing h
        exact ⟨_, .pair x y hleads hy, by simp [piecesText, Piece.text]⟩
      · rename_i hleads
        obtain ⟨rfl, rfl⟩ : _ = c ∧ tail = rest := by simpa using h
        exact ⟨_, .code x (by simpa using hleads) (by simpa using htrails),
          by simp [piecesText, Piece.text]⟩

/-- What is read behind a backslash is an escape, or two that form a pair. -/
theorem exists_stands {text rest : List Char} {c : Char} (h : escape text = .ok (c, rest)) :
    ∃ part, Stands part c ∧ '\\' :: text = piecesText part ++ rest := by
  rw [escape.eq_def] at h
  split at h
  · simp at h
  · rename_i letter tail
    split at h
    · rename_i hletter
      subst hletter
      exact exists_stands_code h
    · split at h
      · rename_i meant hmeant
        obtain ⟨rfl, rfl⟩ : meant = c ∧ tail = rest := by simpa using h
        obtain ⟨e, rfl, rfl⟩ := exists_escape hmeant
        exact ⟨_, .simple e, by simp [piecesText, Piece.text]⟩
      · simp at h

/-- An escape, or two that form a pair, are read as the character they stand for. -/
theorem escape_stands {part : List Piece} {c : Char} (h : Stands part c) {text rest : List Char}
    (htext : piecesText part ++ rest = '\\' :: text) : escape text = .ok (c, rest) := by
  cases h with
  | plain c hc => simp [piecesText, Piece.text, hc.2.1] at htext
  | simple e =>
    obtain rfl : e.letter :: rest = text := by simpa [piecesText, Piece.text] using htext
    rw [escape, if_neg e.letter_ne_u, simpleEscape?_letter]
  | code x hleads htrails =>
    obtain rfl : 'u' :: (x.text ++ rest) = text := by simpa [piecesText, Piece.text] using htext
    rw [escape, if_pos rfl, numberedEscape, hexNumber_code]
    simp [hleads, htrails]
  | pair x y hleads htrails =>
    obtain rfl : 'u' :: (x.text ++ '\\' :: 'u' :: (y.text ++ rest)) = text := by
      simpa [piecesText, Piece.text] using htext
    rw [escape, if_pos rfl, numberedEscape, hexNumber_code]
    simp [hleads, isTrailing_of_isLeading hleads, secondHalf, hexNumber_code, htrails]

/-! ## Strings -/

theorem charactersFrom_backslash {text rest : List Char} {c : Char}
    (h : escape text = .ok (c, rest)) (done : List Char) :
    charactersFrom done ('\\' :: text) = charactersFrom (c :: done) rest := by
  rw [charactersFrom.eq_def done]
  simp only [Char.reduceEq, if_false, if_true]
  split
  · rename_i fault hfault
    rw [h] at hfault
    simp at hfault
  · rename_i meant tail hmeant
    rw [h] at hmeant
    obtain ⟨rfl, rfl⟩ : c = meant ∧ rest = tail := by simpa using hmeant
    rfl

/-- The reader takes the pieces that stand for one character at once. -/
theorem charactersFrom_stands {part : List Piece} {c : Char} (h : Stands part c)
    (done rest : List Char) :
    charactersFrom done (piecesText part ++ rest) = charactersFrom (c :: done) rest := by
  have hescape : ∀ text, piecesText part ++ rest = '\\' :: text →
      charactersFrom done (piecesText part ++ rest) = charactersFrom (c :: done) rest := by
    intro text htext
    rw [htext, charactersFrom_backslash (escape_stands h htext)]
  cases h with
  | plain c hc =>
    obtain ⟨hquote, hbackslash, hcontrol⟩ := hc
    have hnot : ¬ c.toNat < 0x20 := by omega
    simp [piecesText, Piece.text, charactersFrom.eq_def done, hquote, hbackslash, hnot]
  | simple e => exact hescape _ rfl
  | code x hleads htrails => exact hescape _ rfl
  | pair x y hleads htrails => exact hescape _ rfl

theorem charactersFrom_spelled {pieces : List Piece} {cs : List Char} (h : Spelled pieces cs)
    (done rest : List Char) :
    charactersFrom done (piecesText pieces ++ '"' :: rest) = .ok (done.reverse ++ cs, rest) := by
  induction h generalizing done with
  | nil => simp [piecesText, charactersFrom]
  | cons hpart _ ih =>
    rw [piecesText, List.flatMap_append, List.append_assoc]
    change charactersFrom done (piecesText _ ++ (piecesText _ ++ '"' :: rest)) = _
    rw [charactersFrom_stands hpart, ih]
    simp

/-- Whatever is read as characters is pieces that are spelled that way, up to a quote. -/
theorem exists_spelled {done text read rest : List Char}
    (h : charactersFrom done text = .ok (read, rest)) :
    ∃ pieces cs, Spelled pieces cs ∧ read = done.reverse ++ cs ∧
      text = piecesText pieces ++ '"' :: rest := by
  fun_induction charactersFrom done text with
  | case1 => simp at h
  | case2 done tail =>
    obtain ⟨rfl, rfl⟩ : _ = read ∧ tail = rest := by simpa using h
    exact ⟨[], [], .nil, by simp, by simp [piecesText]⟩
  | case3 => simp at h
  | case4 done tail meant mid hescape _ ih =>
    obtain ⟨part, hpart, htail⟩ := exists_stands hescape
    obtain ⟨pieces, cs, hpieces, rfl, rfl⟩ := ih h
    refine ⟨_, _, .cons hpart hpieces, by simp, ?_⟩
    rw [htail]
    simp [piecesText]
  | case5 => simp at h
  | case6 done c tail hquote hbackslash hcontrol ih =>
    obtain ⟨pieces, cs, hpieces, rfl, rfl⟩ := ih h
    exact ⟨_, _, .cons (.plain c ⟨hquote, hbackslash, by omega⟩) hpieces, by simp,
      by simp [piecesText, Piece.text]⟩

/-- A string in which surrogates are paired is read up to its closing quote. -/
theorem quotation_run {pieces : List Piece} (h : Paired pieces) (rest : List Char) :
    quotation.run (piecesText pieces ++ '"' :: rest) =
      .ok (String.ofList (meaning pieces), rest) := by
  simp [quotation, charactersFrom_spelled h.spelled]

/-- What is read as a string is a written string in which surrogates are paired. -/
theorem exists_paired {text rest : List Char} {read : String}
    (h : quotation.run text = .ok (read, rest)) :
    ∃ pieces, Paired pieces ∧ String.ofList (meaning pieces) = read ∧
      text = piecesText pieces ++ '"' :: rest := by
  simp only [quotation] at h
  split at h
  · simp at h
  · rename_i hread
    obtain ⟨pieces, cs, hpieces, rfl, rfl⟩ := exists_spelled hread
    obtain ⟨rfl, rfl⟩ : _ = read ∧ _ = rest := by simpa using h
    exact ⟨pieces, hpieces.paired, by rw [hpieces.meaning_eq], rfl⟩

end DiagnosticDigest.Json.Written
