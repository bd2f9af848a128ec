import DiagnosticDigest.Json.Document
import DiagnosticDigest.Proofs.Json.Numbers
import DiagnosticDigest.Proofs.Json.Prompt
import DiagnosticDigest.Proofs.Json.Strings

/-!
# Prompt readers of numbers, strings and literals

Numbers, strings and literals are read promptly. A number ends where something else begins, so one byte
more has to be shared for it to be the same; the four digits of an escape are wrong all together, behind
the last of them.
-/

namespace DiagnosticDigest.Json

open Utf8 (size size_append)

variable {α : Type}

/-! ## Digits -/

theorem isDigit_eq_false {c : Char} (h : 0x80 ≤ c.toNat) : c.isDigit = false := by
  have hnot : ¬ c.isDigit = true := by
    intro hdigit
    have hbounds : 0x30 ≤ c.toNat ∧ c.toNat ≤ 0x39 := by
      simpa [Char.isDigit, UInt32.le_iff_toNat_le] using hdigit
    omega
  simpa using hnot

theorem Alike.isDigit_eq {c d : Char} (h : Alike c d) : d.isDigit = c.isDigit :=
  h.congr fun _ => isDigit_eq_false

theorem leadingDigits_of_digit {c : Char} (hc : c.isDigit = true) (rest : List Char) :
    leadingDigits (c :: rest) = (c.toNat - 0x30) :: leadingDigits rest := by
  rw [leadingDigits, List.takeWhile_cons_of_pos hc, List.map_cons, leadingDigits]

theorem leadingDigits_of_not_digit {c : Char} (hc : ¬ c.isDigit = true) (rest : List Char) :
    leadingDigits (c :: rest) = [] := by
  rw [leadingDigits, List.takeWhile_cons_of_neg hc, List.map_nil]

theorem prompt_digits (text : List Char) :
    Prompt (fun text => .ok (leadingDigits text, afterDigits text)) text := by
  refine .given rfl (size_dropWhile_le _ text) ?_
  intro left other hleft hshares
  obtain ⟨hleading, hafter⟩ := hshares.dropWhile (fun c => isDigit_eq_false) hleft
  refine ⟨afterDigits other, ?_, hafter⟩
  rw [leadingDigits, hleading, leadingDigits]

theorem prompt_readPower (text : List Char) : Prompt readPower text := by
  cases text with
  | nil => exact .atEnd rfl rfl
  | cons c rest =>
    by_cases hc : c.isDigit = true
    · refine (prompt_digits (c :: rest)).of_alike ?_
      intro d more halike
      have hd : d.isDigit = true := halike.isDigit_eq.trans hc
      rw [readPower.eq_def, leadingDigits_of_digit hd]
    · refine (Prompt.past Cause.invalidNumber rfl c rest).of_alike ?_
      intro d more halike
      have hd : ¬ d.isDigit = true := by
        rw [halike.isDigit_eq]
        exact hc
      rw [readPower.eq_def, leadingDigits_of_not_digit hd]

/-! ## Numbers -/

theorem prompt_readFraction (text : List Char) : Prompt readFraction text := by
  cases text with
  | nil => exact .lastly rfl
  | cons c rest =>
    by_cases hc : c = '.'
    · subst hc
      exact (prompt_readPower rest).behind ['.'] fun _ => rfl
    · refine (Prompt.nothing [] (c :: rest)).of_alike ?_
      intro d more halike
      have hd : d ≠ '.' := halike.ne hc (by decide)
      simp [readFraction, hd]

/-- Reads the digits of an exponent behind its sign. -/
def signedPower (negative : Bool) : List Char → Reading (Option (Bool × List Nat)) :=
  andThen readPower fun power rest => .ok (some (negative, power), rest)

theorem prompt_signedPower (negative : Bool) (text : List Char) :
    Prompt (signedPower negative) text :=
  (prompt_readPower text).andThen fun power rest _ => .nothing (some (negative, power)) rest

/-- Behind the letter of an exponent its digits are read, with a sign in front of them or without. -/
theorem prompt_readExponent_of_letter {c : Char} (hc : c = 'e' ∨ c = 'E') (text : List Char) :
    Prompt (fun text => readExponent (c :: text)) text := by
  have hletter : (c = 'e' || c = 'E') = true := by simpa using hc
  cases text with
  | nil =>
    have hend : readExponent [c] = .error (.atEnd .endInValue) := by
      simp [readExponent, hletter, readPower, leadingDigits]
    exact .atEnd hend rfl
  | cons d rest =>
    by_cases hplus : d = '+'
    · subst hplus
      refine (prompt_signedPower false rest).behind ['+'] ?_
      intro rest
      simp only [readExponent, hletter, if_true, signedPower, andThen, List.singleton_append]
      cases readPower rest <;> rfl
    by_cases hminus : d = '-'
    · subst hminus
      refine (prompt_signedPower true rest).behind ['-'] ?_
      intro rest
      simp only [readExponent, hletter, if_true, signedPower, andThen, List.singleton_append]
      cases readPower rest <;> rfl
    · refine (prompt_signedPower false (d :: rest)).of_alike ?_
      intro e more halike
      have hplus : e ≠ '+' := halike.ne hplus (by decide)
      have hminus : e ≠ '-' := halike.ne hminus (by decide)
      cases hpower : readPower (e :: more) <;>
        simp [readExponent, hletter, hplus, hminus, signedPower, andThen, hpower]

theorem prompt_readExponent (text : List Char) : Prompt readExponent text := by
  cases text with
  | nil => exact .lastly rfl
  | cons c rest =>
    by_cases hc : c = 'e' ∨ c = 'E'
    · exact (prompt_readExponent_of_letter hc rest).behind [c] fun _ => rfl
    · refine (Prompt.nothing none (c :: rest)).of_alike ?_
      intro d more halike
      have hsmall : d ≠ 'e' := halike.ne (fun h => hc (.inl h)) (by decide)
      have hlarge : d ≠ 'E' := halike.ne (fun h => hc (.inr h)) (by decide)
      simp [readExponent, hsmall, hlarge]

/-- Reads what follows a zero at the front of a number, which no digit may. -/
def afterZero (text : List Char) : Reading (List Nat) :=
  match text with
  | [] => .ok ([0], [])
  | c :: rest =>
    if c.isDigit then .error (.past .invalidNumber (c :: rest)) else .ok ([0], c :: rest)

theorem prompt_afterZero (text : List Char) : Prompt afterZero text := by
  cases text with
  | nil => exact .lastly rfl
  | cons c rest =>
    by_cases hc : c.isDigit = true
    · refine (Prompt.past Cause.invalidNumber rfl c rest).of_alike ?_
      intro d more halike
      rw [afterZero, halike.isDigit_eq, if_pos hc]
    · refine (Prompt.nothing [0] (c :: rest)).of_alike ?_
      intro d more halike
      rw [afterZero, halike.isDigit_eq, if_neg hc]

theorem prompt_readWhole (text : List Char) : Prompt readWhole text := by
  cases text with
  | nil => exact .atEnd rfl rfl
  | cons c rest =>
    by_cases hzero : c = '0'
    · subst hzero
      refine (prompt_afterZero rest).behind ['0'] ?_
      intro rest
      cases rest <;> rfl
    by_cases hc : c.isDigit = true
    · refine (prompt_digits (c :: rest)).of_alike ?_
      intro d more halike
      have hd : d.isDigit = true := halike.isDigit_eq.trans hc
      have hzero : d ≠ '0' := halike.ne hzero (by decide)
      simp [readWhole, hd, hzero]
    · refine (Prompt.past Cause.invalidNumber rfl c rest).of_alike ?_
      intro d more halike
      have hd : ¬ d.isDigit = true := by
        rw [halike.isDigit_eq]
        exact hc
      have hzero : d ≠ '0' := halike.ne hzero (by decide)
      simp [readWhole, hd, hzero]

theorem readUnsigned_eq (negative : Bool) :
    readUnsigned negative =
      andThen readWhole fun whole => andThen readFraction fun fraction =>
        andThen readExponent fun exponent rest =>
          .ok (Numeral.mk negative whole fraction exponent, rest) := by
  funext text
  simp only [readUnsigned, andThen]
  cases readWhole text with
  | error => rfl
  | ok found =>
    dsimp only
    cases readFraction found.2 with
    | error => rfl
    | ok found =>
      dsimp only
      cases readExponent found.2 <;> rfl

theorem prompt_readUnsigned (negative : Bool) (text : List Char) :
    Prompt (readUnsigned negative) text := by
  rw [readUnsigned_eq]
  refine (prompt_readWhole text).andThen fun whole rest _ => ?_
  refine (prompt_readFraction rest).andThen fun fraction rest _ => ?_
  exact (prompt_readExponent rest).andThen fun exponent rest _ => .nothing _ rest

theorem prompt_readNumeral (text : List Char) : Prompt readNumeral text := by
  cases text with
  | nil => exact .atEnd rfl rfl
  | cons c rest =>
    by_cases hc : c = '-'
    · subst hc
      exact (prompt_readUnsigned true rest).behind ['-'] fun _ => rfl
    · refine (prompt_readUnsigned false (c :: rest)).of_alike ?_
      intro d more halike
      have hd : d ≠ '-' := halike.ne hc (by decide)
      simp [readNumeral, hd]

theorem length_absorb_le (limit number : Nat) (digits : List Nat) :
    (absorb limit number digits).2.length ≤ digits.length := by
  induction digits generalizing number with
  | nil => exact Nat.le_refl _
  | cons digit rest ih =>
    rw [absorb]
    split
    · have hrest := ih (number * 10 + digit)
      rw [List.length_cons]
      omega
    · exact Nat.le_refl _

/-- What cannot be scaled is out of range at the end of its number. -/
theorem eq_zero_of_scaled {scaled : Option Float} {negative : Bool} {behind : Nat}
    (h : (match scaled with
      | some x => (.ok (.double (signed negative x)) : Except Nat Number)
      | none => .error 0) = .error behind) : behind = 0 := by
  cases scaled with
  | some x => simp at h
  | none => simpa [eq_comm] using h

/-- That a number is out of range shows at its end, or in front of some digits of its exponent. -/
theorem value_error {n : Numeral} {behind : Nat} (h : n.value = .error behind) :
    behind = 0 ∨ ∃ negative digits, n.exponent = some (negative, digits) ∧ behind < digits.length := by
  rw [Numeral.value] at h
  dsimp only at h
  cases hexponent : n.exponent with
  | none =>
    rw [hexponent] at h
    dsimp only at h
    split at h
    · split at h <;> simp at h
    · exact .inl (eq_zero_of_scaled h)
  | some exponent =>
    obtain ⟨negative, digits⟩ := exponent
    rw [hexponent] at h
    dsimp only at h
    cases hpower : absorb maxExponent 0 digits with
    | mk power unused =>
      rw [hpower] at h
      cases unused with
      | nil => exact .inl (eq_zero_of_scaled h)
      | cons first unused =>
        dsimp only at h
        split at h
        · have hle := length_absorb_le maxExponent 0 digits
          rw [hpower, List.length_cons] at hle
          obtain rfl : unused.length = behind := by simpa using h
          exact .inr ⟨negative, digits, rfl, hle⟩
        · simp at h

/-- So it shows behind some byte of the number. -/
theorem Written.NumberText.value_error_lt {n : Written.NumberText} {behind : Nat}
    (h : n.numeral.value = .error behind) : behind < size n.text := by
  have hlength : n.unsignedText.length ≤ size n.text := by
    refine Nat.le_trans ?_ (length_le_size n.text)
    rw [text]
    split <;> simp
  have hwhole : 0 < n.whole.length := List.length_pos_of_ne_nil n.whole_ne_nil
  rw [unsignedText, List.length_append, List.length_append, Written.digitsText,
    List.length_map] at hlength
  rcases value_error h with rfl | ⟨negative, digits, hexponent, hlt⟩
  · omega
  · obtain ⟨e, he, hpower⟩ := Option.map_eq_some_iff.mp hexponent
    have hdigits : digits.length = e.digits.length := by
      rw [← (Prod.mk.inj hpower).2, List.length_map]
    have htext : e.digits.length ≤ (exponentText n.exponent).length := by
      simp only [he, exponentText, Exponent.text, Written.digitsText, List.length_append,
        List.length_cons, List.length_map]
      omega
    omega

/-- Numbers are read whole before it is seen whether they are in range. -/
theorem numeral_eq_andThen : numeral.run = andThen readNumeral fun n rest =>
    match n.value with
    | .ok read => .ok (read, rest)
    | .error behind => .error ⟨.numberOutOfRange, size rest + behind⟩ := by
  apply eq_andThen
  · intro text fault h
    simp only [numeral, h]
  · intro text n rest h
    cases hvalue : n.value <;> simp only [numeral, h, hvalue]

theorem prompt_numeral (text : List Char) : Prompt numeral.run text := by
  cases hread : readNumeral text with
  | error fault =>
    rw [numeral_eq_andThen]
    exact (prompt_readNumeral text).andThen (by simp [hread])
  | ok found =>
    obtain ⟨n, rest⟩ := found
    cases hvalue : n.value with
    | ok read =>
      rw [numeral_eq_andThen]
      refine (prompt_readNumeral text).andThen fun m tail h => ?_
      obtain ⟨rfl, rfl⟩ : n = m ∧ rest = tail := by simpa [hread] using h
      simp only [hvalue]
      exact .nothing read rest
    | error behind =>
      obtain ⟨written, rfl, rfl⟩ := Written.exists_numeral hread
      have hlt := written.value_error_lt hvalue
      refine .outOfRange (by simp only [numeral, hread, hvalue]; rfl) rfl ?_
      rw [size_append]
      change size rest + behind < _
      omega

/-! ## Escapes -/

theorem Written.HexDigit.toNat_lt (d : Written.HexDigit) : d.char.toNat < 0x80 := by
  have h := d.isHex
  simp only [Char.le_def, UInt32.le_iff_toNat_le, Char.toNat_val, Char.reduceToNat] at h
  omega

/-- Four digits are four bytes. -/
theorem Written.Code.size_text (x : Written.Code) : size x.text = 4 := by
  simp [text, Utf8.utf8Size_ascii (HexDigit.toNat_lt _)]

/-- Where no four digits are, no text has four that shares the bytes of four. -/
theorem prompt_hexNumber_of_error {text : List Char} {fault : Fault}
    (hread : hexNumber text = .error fault) : Prompt hexNumber text := by
  have hfault := hread
  rw [hexNumber] at hfault
  split at hfault
  · simp at hfault
  split at hfault
  · obtain rfl := Except.error.inj hfault
    exact .atEnd hread rfl
  · obtain rfl := Except.error.inj hfault
    refine .refused hread rfl ?_ ?_
    · change size text - 4 < size text
      omega
    · intro other hshares given hgiven
      -- four digits there would be the same four bytes here
      obtain ⟨x, -, hx⟩ := Written.exists_code hgiven
      obtain ⟨left, hsize, hsymm⟩ := hshares.symm
      rw [hx, size_append, x.size_text] at hsize
      rw [hx] at hsymm
      change _ + (size text - 4) = _ at hsize
      obtain ⟨more, rfl, -⟩ := hsymm.exists_append x.text (by omega)
      rw [Written.hexNumber_code] at hread
      simp at hread

/-- Reading four digits, and behind them something that depends on their number: a fault whatever follows,
or something prompt. -/
theorem prompt_hexNumber {next : Nat → List Char → Reading α}
    (h : ∀ n, (∀ rest, next n rest = .error (.before .loneSurrogate rest)) ∨
      ∀ rest, Prompt (next n) rest) (text : List Char) : Prompt (andThen hexNumber next) text := by
  cases hread : hexNumber text with
  | error fault =>
    exact (prompt_hexNumber_of_error hread).andThen (by simp [hread])
  | ok found =>
    obtain ⟨n, rest⟩ := found
    obtain ⟨x, rfl, rfl⟩ := Written.exists_code hread
    have hnext : ∀ rest, andThen hexNumber next (x.text ++ rest) = next x.number rest := by
      intro rest
      rw [andThen, Written.hexNumber_code]
    rcases h x.number with hfault | hprompt
    · have hbefore : ∀ rest, andThen hexNumber next (x.text ++ rest) =
          .error (.before .loneSurrogate rest) := by
        intro rest
        rw [hnext, hfault]
      exact Prompt.before (by simp [Written.Code.text]) hbefore rfl rest
    · exact (hprompt rest).behind x.text hnext

/-- The character of a pair, of which the second half must be one. -/
def pairWith (leading trailing : Nat) (rest : List Char) : Reading Char :=
  if isTrailing trailing then .ok (ofPair leading trailing, rest)
  else .error (.before .loneSurrogate rest)

theorem prompt_secondHalf (leading : Nat) (text : List Char) : Prompt (secondHalf leading) text := by
  have hpair : ∀ n, (∀ rest, pairWith leading n rest = .error (.before .loneSurrogate rest)) ∨
      ∀ rest, Prompt (pairWith leading n) rest := by
    intro n
    by_cases hn : isTrailing n = true
    · have hgiven : pairWith leading n = fun rest => .ok (ofPair leading n, rest) := by
        funext rest
        rw [pairWith, if_pos hn]
      rw [hgiven]
      exact .inr fun rest => .nothing _ rest
    · exact .inl fun rest => by rw [pairWith, if_neg hn]
  cases text with
  | nil => exact .atEnd rfl rfl
  | cons c rest =>
    by_cases hc : c = '\\'
    · subst hc
      cases rest with
      | nil => exact .atEnd rfl rfl
      | cons d rest =>
        by_cases hd : d = 'u'
        · subst hd
          refine (prompt_hexNumber hpair rest).behind ['\\', 'u'] ?_
          intro rest
          simp only [List.cons_append, List.nil_append, secondHalf, andThen]
          cases hexNumber rest <;> rfl
        · refine Prompt.behind ['\\'] ?_ fun _ => rfl
          refine (Prompt.past Cause.unfinishedPair rfl d rest).of_alike ?_
          intro e more halike
          have he : e ≠ 'u' := halike.ne hd (by decide)
          simp [secondHalf, he]
    · refine (Prompt.past Cause.unfinishedPair rfl c rest).of_alike ?_
      intro d more halike
      have hd : d ≠ '\\' := halike.ne hc (by decide)
      simp [secondHalf, hd]

/-- The character that an escape by number stands for. -/
def charOf (n : Nat) (rest : List Char) : Reading Char :=
  if isTrailing n then .error (.before .loneSurrogate rest)
  else if isLeading n then secondHalf n rest
  else .ok (Char.ofNat n, rest)

theorem prompt_numberedEscape (text : List Char) : Prompt numberedEscape text := by
  have hchar : ∀ n, (∀ rest, charOf n rest = .error (.before .loneSurrogate rest)) ∨
      ∀ rest, Prompt (charOf n) rest := by
    intro n
    by_cases htrailing : isTrailing n = true
    · exact .inl fun rest => by rw [charOf, if_pos htrailing]
    by_cases hleading : isLeading n = true
    · have hhalf : charOf n = secondHalf n := by
        funext rest
        rw [charOf, if_neg htrailing, if_pos hleading]
      rw [hhalf]
      exact .inr fun rest => prompt_secondHalf n rest
    · have hgiven : charOf n = fun rest => .ok (Char.ofNat n, rest) := by
        funext rest
        rw [charOf, if_neg htrailing, if_neg hleading]
      rw [hgiven]
      exact .inr fun rest => .nothing _ rest
  have hwhole : numberedEscape = andThen hexNumber charOf := by
    apply eq_andThen
    · intro text fault h
      rw [numberedEscape, h]
    · intro text n rest h
      rw [numberedEscape, h]
      rfl
  rw [hwhole]
  exact prompt_hexNumber hchar text

theorem simpleEscape?_eq_none {c : Char} (h : 0x80 ≤ c.toNat) : simpleEscape? c = none := by
  cases hsimple : simpleEscape? c with
  | none => rfl
  | some meant =>
    obtain ⟨e, rfl, -⟩ := Written.exists_escape hsimple
    cases e <;> simp [Written.Escape.letter] at h

theorem prompt_escape (text : List Char) : Prompt escape text := by
  cases text with
  | nil => exact .atEnd rfl rfl
  | cons c rest =>
    by_cases hu : c = 'u'
    · subst hu
      exact (prompt_numberedEscape rest).behind ['u'] fun _ => rfl
    cases hsimple : simpleEscape? c with
    | some meant =>
      refine (Prompt.nothing meant rest).behind [c] ?_
      intro rest
      simp [escape, hu, hsimple]
    | none =>
      refine (Prompt.past Cause.invalidEscape rfl c rest).of_alike ?_
      intro d more halike
      have hd : d ≠ 'u' := halike.ne hu (by decide)
      have hnone : simpleEscape? d = none := by
        rcases halike with rfl | ⟨-, hbeyond⟩
        · exact hsimple
        · exact simpleEscape?_eq_none hbeyond
      simp [escape, hd, hnone]

/-! ## Strings -/

theorem charactersFrom_escape (done text : List Char) :
    charactersFrom done ('\\' :: text) =
      andThen escape (fun meant rest => charactersFrom (meant :: done) rest) text := by
  cases hescape : escape text with
  | error fault =>
    rw [andThen, hescape, charactersFrom.eq_def]
    simp only [Char.reduceEq, if_false, if_true]
    split <;> simp_all
  | ok found =>
    obtain ⟨meant, rest⟩ := found
    rw [andThen, hescape, Written.charactersFrom_backslash hescape]

theorem prompt_charactersFrom (done text : List Char) : Prompt (charactersFrom done) text := by
  induction hn : text.length using Nat.strongRecOn generalizing done text with
  | ind n ih =>
    cases text with
    | nil => exact .atEnd (by rw [charactersFrom]) rfl
    | cons c rest =>
      have hrest : rest.length < n := by
        rw [← hn, List.length_cons]
        omega
      by_cases hquote : c = '"'
      · subst hquote
        refine (Prompt.nothing done.reverse rest).behind ['"'] ?_
        intro rest
        rw [List.singleton_append, charactersFrom, if_pos rfl]
      by_cases hbackslash : c = '\\'
      · subst hbackslash
        refine Prompt.behind ['\\'] ?_ (charactersFrom_escape done)
        refine (prompt_escape rest).andThen fun meant tail h => ?_
        have htail := length_lt_of_escape h
        exact ih tail.length (by omega) (meant :: done) tail rfl
      by_cases hcontrol : c.toNat < 0x20
      · refine (Prompt.past Cause.controlCharacter rfl c rest).of_alike ?_
        intro d more halike
        obtain rfl := halike.eq (by omega)
        rw [charactersFrom, if_neg hquote, if_neg hbackslash, if_pos hcontrol]
      · refine Prompt.behind [c] (ih rest.length hrest (c :: done) rest rfl) ?_
        intro rest
        rw [List.singleton_append, charactersFrom, if_neg hquote, if_neg hbackslash,
          if_neg hcontrol]

theorem prompt_quotation (text : List Char) : Prompt quotation.run text := by
  have hwhole : quotation.run =
      andThen (charactersFrom []) fun read rest => .ok (String.ofList read, rest) := by
    apply eq_andThen
    · intro text fault h
      simp only [quotation, h]
    · intro text read rest h
      simp only [quotation, h]
  rw [hwhole]
  exact (prompt_charactersFrom [] text).andThen fun read rest _ => .nothing _ rest

/-! ## Literals -/

theorem prompt_readLiteral (meant : Json) {letters : List Char}
    (hascii : ∀ letter ∈ letters, letter.toNat < 0x80) (text : List Char) :
    Prompt (readLiteral meant letters) text := by
  induction letters generalizing text with
  | nil => exact .nothing meant text
  | cons letter letters ih =>
    rw [List.forall_mem_cons] at hascii
    cases text with
    | nil => exact .atEnd rfl rfl
    | cons c rest =>
      by_cases hc : c = letter
      · refine (ih hascii.2 rest).behind [c] ?_
        intro rest
        rw [List.singleton_append, readLiteral, if_pos hc]
      · refine (Prompt.past Cause.expectedLiteral rfl c rest).of_alike ?_
        intro d more halike
        rw [readLiteral, if_neg (halike.ne hc hascii.1)]

end DiagnosticDigest.Json
