import DiagnosticDigest.Proofs.Json.Sharing

/-!
# Reading that stops at the first wrong byte

A reader is prompt if its faults stand where a text first goes wrong: no text that shares the bytes in
front of the place is read without a fault. For this to hold of what is put together from readers, what
one of them gives may depend only on bytes in front of any place that lies further on. Two kinds of
faults are set apart: that the text ends too early, which stands at its end, and that a number is out of
range.

Promptness is stated of one text at a time, so that readers that call themselves can be treated by an
induction on the text.

## Main definitions

* `Json.Prompt` — reading a text gives something, or it stops at the first wrong byte.
* `Json.andThen` — reading one thing behind the other.

## Main statements

* `Json.Prompt.andThen`, `Json.Prompt.blanks`, `Json.Prompt.behind`, `Json.Prompt.of_alike` — promptness of
  what is put together.
* `Json.Prompt.past`, `Json.Prompt.before`, `Json.Prompt.atEnd` — promptness of faults.
-/

namespace DiagnosticDigest.Json

open Utf8 (size size_append)

variable {α β : Type}

/-- How reading a text can go that is prompt. What is given is given of all texts that share some byte of
the rest; a fault stands at the end, or concerns the range of a number, or is met with on every text that
shares what is in front of it. -/
inductive Prompt (read : List Char → Reading α) (text : List Char) : Prop
  | given {a : α} {rest : List Char} (hread : read text = .ok (a, rest))
      (hsize : size rest ≤ size text)
      (hkeeps : ∀ left other, left < size rest → Shares left text other →
        ∃ more, read other = .ok (a, more) ∧ Shares left rest more)
  | ended {fault : Fault} (hread : read text = .error fault) (hcause : fault.cause.isEnd = true)
      (hleft : fault.left = 0)
  | outOfRange {fault : Fault} (hread : read text = .error fault)
      (hcause : fault.cause = .numberOutOfRange) (hleft : fault.left < size text)
  | refused {fault : Fault} (hread : read text = .error fault)
      (hcause : fault.cause.isEnd = false) (hleft : fault.left < size text)
      (hrefuses : ∀ other, Shares fault.left text other → ∀ given, read other ≠ .ok given)

/-- Reads one thing, and behind it another one that may depend on it. -/
def andThen (read : List Char → Reading α) (next : α → List Char → Reading β) (text : List Char) :
    Reading β :=
  match read text with
  | .error fault => .error fault
  | .ok (a, rest) => next a rest

/-- Reading one thing and then another one, told by what it gives. -/
theorem eq_andThen {read : List Char → Reading α} {whole : List Char → Reading β}
    {next : α → List Char → Reading β}
    (herror : ∀ text fault, read text = .error fault → whole text = .error fault)
    (hok : ∀ text a rest, read text = .ok (a, rest) → whole text = next a rest) :
    whole = andThen read next := by
  funext text
  rw [andThen]
  cases hread : read text with
  | error fault => exact herror text fault hread
  | ok found => exact hok text _ _ hread

theorem isBlank_eq_false {c : Char} (h : 0x80 ≤ c.toNat) : isBlank c = false := by
  have hne : ∀ blank : Char, blank.toNat < 0x80 → c ≠ blank := by
    rintro blank hblank rfl
    omega
  simp [isBlank, hne ' ' (by decide), hne '\n' (by decide), hne '\t' (by decide),
    hne '\r' (by decide)]

namespace Prompt

variable {read read' : List Char → Reading α} {text rest : List Char} {c : Char} {cause : Cause}

/-! ## Faults -/

theorem atEnd (hread : read text = .error (.atEnd cause)) (hcause : cause.isEnd = true) :
    Prompt read text :=
  .ended hread hcause rfl

/-- A fault behind the first byte, whatever the text is. -/
theorem past (cause : Cause) (hcause : cause.isEnd = false) (c : Char) (rest : List Char) :
    Prompt (fun text => (.error (.past cause text) : Reading α)) (c :: rest) := by
  have hpos := size_cons_pos c rest
  refine .refused rfl hcause ?_ ?_
  · change size (c :: rest) - 1 < size (c :: rest)
    omega
  · intro other hshares given hgiven
    simp at hgiven

/-- A fault behind some characters, whatever follows them. -/
theorem before {front : List Char} (hfront : front ≠ [])
    (hread : ∀ rest, read (front ++ rest) = .error (.before cause rest))
    (hcause : cause.isEnd = false) (rest : List Char) : Prompt read (front ++ rest) := by
  refine .refused (hread rest) hcause ?_ ?_
  · obtain ⟨c, more, rfl⟩ := List.exists_cons_of_ne_nil hfront
    have hpos := size_cons_pos c more
    rw [size_append]
    change size rest < _
    omega
  · intro other hshares given hgiven
    obtain ⟨more, rfl, -⟩ := hshares.exists_append front (Nat.le_refl _)
    rw [hread] at hgiven
    simp at hgiven

/-! ## Lookahead -/

/-- What takes nothing is prompt. -/
theorem nothing (a : α) (text : List Char) : Prompt (fun text => .ok (a, text)) text :=
  .given rfl (Nat.le_refl _) fun _ other _ hshares => ⟨other, rfl, hshares⟩

/-- At the end of a text anything may be given. -/
theorem lastly {a : α} (hread : read text = .ok (a, [])) : Prompt read text := by
  refine .given hread (Nat.zero_le _) ?_
  intro left other hleft
  simp at hleft

/-- Reading in a way that is right for all texts that begin alike. -/
theorem of_alike (h : Prompt read (c :: rest))
    (hsame : ∀ d more, Alike c d → read' (d :: more) = read (d :: more)) :
    Prompt read' (c :: rest) := by
  have hread' := hsame c rest (Alike.refl c)
  have hother : ∀ left other, left < size (c :: rest) → Shares left (c :: rest) other →
      read' other = read other := by
    intro left other hleft hshares
    obtain ⟨d, more, rfl, halike⟩ := hshares.exists_alike hleft
    exact hsame d more halike
  cases h with
  | given hread hsize hkeeps =>
    refine .given (hread'.trans hread) hsize ?_
    intro left other hleft hshares
    rw [hother left other (by omega) hshares]
    exact hkeeps left other hleft hshares
  | ended hread hcause hleft => exact .ended (hread'.trans hread) hcause hleft
  | outOfRange hread hcause hleft => exact .outOfRange (hread'.trans hread) hcause hleft
  | refused hread hcause hleft hrefuses =>
    refine .refused (hread'.trans hread) hcause hleft ?_
    intro other hshares
    rw [hother _ other hleft hshares]
    exact hrefuses other hshares

/-! ## One behind the other -/

/-- Reading behind characters that are known. -/
theorem behind (front : List Char) (h : Prompt read rest)
    (hread : ∀ rest, read' (front ++ rest) = read rest) : Prompt read' (front ++ rest) := by
  have hle : size rest ≤ size (front ++ rest) := by
    rw [size_append]
    omega
  cases h with
  | given hgiven hsize hkeeps =>
    refine .given ((hread rest).trans hgiven) (by omega) ?_
    intro left other hleft hshares
    obtain ⟨more, rfl, hmore⟩ := hshares.exists_append front (by omega)
    rw [hread]
    exact hkeeps left more hleft hmore
  | ended hfault hcause hleft => exact .ended ((hread rest).trans hfault) hcause hleft
  | outOfRange hfault hcause hleft =>
    exact .outOfRange ((hread rest).trans hfault) hcause (by omega)
  | refused hfault hcause hleft hrefuses =>
    refine .refused ((hread rest).trans hfault) hcause (by omega) ?_
    intro other hshares
    obtain ⟨more, rfl, hmore⟩ := hshares.exists_append front (by omega)
    rw [hread]
    exact hrefuses more hmore

/-- Reading behind blanks. -/
theorem blanks (h : Prompt read (skipBlanks text)) :
    Prompt (fun text => read (skipBlanks text)) text := by
  have hle : size (skipBlanks text) ≤ size text := size_dropWhile_le isBlank text
  have hskip : ∀ left other, left < size (skipBlanks text) → Shares left text other →
      Shares left (skipBlanks text) (skipBlanks other) := by
    intro left other hleft hshares
    exact (hshares.dropWhile (fun c => isBlank_eq_false) hleft).2
  cases h with
  | given hread hsize hkeeps =>
    refine .given hread (by omega) ?_
    intro left other hleft hshares
    exact hkeeps left _ hleft (hskip left other (by omega) hshares)
  | ended hread hcause hleft => exact .ended hread hcause hleft
  | outOfRange hread hcause hleft => exact .outOfRange hread hcause (by omega)
  | refused hread hcause hleft hrefuses =>
    refine .refused hread hcause (by omega) ?_
    intro other hshares
    exact hrefuses _ (hskip _ other hleft hshares)

/-- Reading one thing behind the other. -/
theorem andThen {next : α → List Char → Reading β} (h : Prompt read text)
    (hnext : ∀ a rest, read text = .ok (a, rest) → Prompt (next a) rest) :
    Prompt (andThen read next) text := by
  cases h with
  | @given a rest hread hsize hkeeps =>
    have hwhole : Json.andThen read next text = next a rest := by rw [Json.andThen, hread]
    have hother : ∀ left other, left < size rest → Shares left text other →
        ∃ more, Json.andThen read next other = next a more ∧ Shares left rest more := by
      intro left other hleft hshares
      obtain ⟨more, hmore, hrest⟩ := hkeeps left other hleft hshares
      exact ⟨more, by rw [Json.andThen, hmore], hrest⟩
    cases hnext _ _ hread with
    | given hread2 hsize2 hkeeps2 =>
      refine .given (hwhole.trans hread2) (by omega) ?_
      intro left other hleft hshares
      obtain ⟨more, hmore, hrest⟩ := hother left other (by omega) hshares
      rw [hmore]
      exact hkeeps2 left more hleft hrest
    | ended hfault hcause hleft => exact .ended (hwhole.trans hfault) hcause hleft
    | outOfRange hfault hcause hleft =>
      exact .outOfRange (hwhole.trans hfault) hcause (by omega)
    | refused hfault hcause hleft hrefuses =>
      refine .refused (hwhole.trans hfault) hcause (by omega) ?_
      intro other hshares
      obtain ⟨more, hmore, hrest⟩ := hother _ other hleft hshares
      rw [hmore]
      exact hrefuses more hrest
  | ended hread hcause hleft =>
    exact .ended (by rw [Json.andThen, hread]) hcause hleft
  | outOfRange hread hcause hleft =>
    exact .outOfRange (by rw [Json.andThen, hread]) hcause hleft
  | refused hread hcause hleft hrefuses =>
    refine .refused (by rw [Json.andThen, hread]) hcause hleft ?_
    intro other hshares given hgiven
    cases hother : read other with
    | error fault => simp [Json.andThen, hother] at hgiven
    | ok found => exact hrefuses other hshares found hother

end Prompt

end DiagnosticDigest.Json
