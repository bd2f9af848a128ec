import DiagnosticDigest.Proofs.Utf8.Order

/-!
# Where and how bytes fail to be text

A fault stands behind the longest beginning that is text. What follows is the beginning of a character
that the bytes end inside of, or it begins with no character however it is continued, and then the fault
tells how much of a character is there.

## Main definitions

* `Utf8.Starts`, `Utf8.Unfinished` — bytes that a character begins with, without or with more to come.
* `Utf8.Completable` — bytes that begin with a character once more bytes follow.
* `Utf8.LongestStart` — how many of some bytes a character begins with.
* `Utf8.Fault.At` — how bytes that begin with no character fail.

## Main statements

* `Utf8.exists_at_of_decode` — a fault stands behind a text and describes the bytes there.
* `Utf8.Fault.At.longest` — no text that the bytes begin with is longer.
-/

namespace DiagnosticDigest.Utf8

/-! ## Beginnings of characters -/

/-- Some character begins with these bytes. -/
def Starts (bytes : List UInt8) : Prop :=
  ∃ c, bytes <+: String.utf8EncodeChar c

/-- Some character begins with these bytes and has more of them. -/
def Unfinished (bytes : List UInt8) : Prop :=
  ∃ c, bytes <+: String.utf8EncodeChar c ∧ bytes.length < c.utf8Size

/-- With more bytes behind them, the bytes begin with a character. -/
def Completable (bytes : List UInt8) : Prop :=
  ∃ more c, String.utf8EncodeChar c <+: bytes ++ more

/-- So many bytes at the front, and no more, are what some character begins with. -/
def LongestStart (bytes : List UInt8) (n : Nat) : Prop :=
  (n ≤ bytes.length ∧ Starts (bytes.take n)) ∧
    ∀ m, m ≤ bytes.length → Starts (bytes.take m) → m ≤ n

theorem Unfinished.starts {bytes : List UInt8} (h : Unfinished bytes) : Starts bytes := by
  obtain ⟨c, hstart, -⟩ := h
  exact ⟨c, hstart⟩

theorem Unfinished.of_append {front back : List UInt8} (h : Unfinished (front ++ back)) :
    Unfinished front := by
  obtain ⟨c, hstart, hlength⟩ := h
  rw [List.length_append] at hlength
  exact ⟨c, (List.prefix_append front back).trans hstart, by omega⟩

/-- A character has at most four bytes, so three of them can be there without the last. -/
theorem Unfinished.length_le {bytes : List UInt8} (h : Unfinished bytes) : bytes.length ≤ 3 := by
  obtain ⟨c, -, hlength⟩ := h
  have hsize := c.utf8Size_le_four
  omega

/-- No character begins with all the bytes of another one. -/
theorem Unfinished.no_char {bytes : List UInt8} (h : Unfinished bytes) (d : Char) :
    ¬ String.utf8EncodeChar d <+: bytes := by
  rintro ⟨back, rfl⟩
  obtain ⟨c, ⟨more, hmore⟩, hlength⟩ := h
  rw [List.append_assoc, ← List.append_nil (String.utf8EncodeChar c)] at hmore
  obtain ⟨rfl, -⟩ := utf8EncodeChar_append_inj hmore
  rw [List.length_append, String.length_utf8EncodeChar] at hlength
  omega

/-! ## First and further bytes -/

/-- Behind every first byte some byte may follow. -/
theorem exists_mayFollow (a : UInt8) : ∃ b, mayFollow a b = true := by
  simp only [mayFollow_iff]
  by_cases hthree : a.toNat = 0xE0
  · exact ⟨0xA0, by simp [hthree]⟩
  by_cases hfour : a.toNat = 0xF0
  · exact ⟨0x90, by simp [hfour]⟩
  · exact ⟨0x80, by simp [hthree, hfour]⟩

variable {a b d e : UInt8} {n : Nat}

theorem unfinished_nil : Unfinished [] :=
  ⟨'a', List.nil_prefix, Char.utf8Size_pos _⟩

theorem unfinished_of_char {bytes : List UInt8} {last : UInt8} {c : Char}
    (h : String.utf8EncodeChar c = bytes ++ [last]) : Unfinished bytes := by
  refine ⟨c, ⟨[last], h.symm⟩, ?_⟩
  rw [← String.length_utf8EncodeChar, h, List.length_append, List.length_singleton]
  omega

theorem unfinished_three (ha : sequenceLength? a = some 4) (hb : mayFollow a b = true)
    (hd : continues d = true) : Unfinished [a, b, d] :=
  unfinished_of_char (utf8EncodeChar_eq_four.mpr
    ⟨ha, hb, hd, (by decide : continues 0x80 = true), rfl⟩)

theorem unfinished_two (ha : sequenceLength? a = some n) (h1 : n ≠ 1) (h2 : n ≠ 2)
    (hb : mayFollow a b = true) : Unfinished [a, b] := by
  have hlast : continues 0x80 = true := by
    decide
  by_cases h3 : n = 3
  · subst h3
    exact unfinished_of_char (utf8EncodeChar_eq_three.mpr ⟨ha, hb, hlast, rfl⟩)
  · obtain rfl := sequenceLength?_eq_of_ne ha h1 h2 h3
    have hthree : Unfinished ([a, b] ++ [0x80]) := unfinished_three ha hb hlast
    exact hthree.of_append

theorem unfinished_one (ha : sequenceLength? a = some n) (h1 : n ≠ 1) : Unfinished [a] := by
  obtain ⟨b, hb⟩ := exists_mayFollow a
  by_cases h2 : n = 2
  · subst h2
    exact unfinished_of_char (utf8EncodeChar_eq_two.mpr ⟨ha, hb, rfl⟩)
  · have htwo : Unfinished ([a] ++ [b]) := unfinished_two ha h1 h2 hb
    exact htwo.of_append

/-- What stands in the bytes of a character: a first byte, one that may follow it, and continuation
bytes. -/
theorem bytes_of_utf8EncodeChar {c : Char} {rest : List UInt8}
    (h : String.utf8EncodeChar c = a :: rest) :
    sequenceLength? a ≠ none ∧ (∀ b ∈ rest.head?, mayFollow a b = true) ∧
      ∀ d ∈ rest.tail, continues d = true := by
  match rest with
  | [] =>
    obtain ⟨ha, -⟩ := utf8EncodeChar_eq_one.mp h
    simp [ha]
  | [b] =>
    obtain ⟨ha, hb, -⟩ := utf8EncodeChar_eq_two.mp h
    simp [ha, hb]
  | [b, d] =>
    obtain ⟨ha, hb, hd, -⟩ := utf8EncodeChar_eq_three.mp h
    simp [ha, hb, hd]
  | [b, d, e] =>
    obtain ⟨ha, hb, hd, he, -⟩ := utf8EncodeChar_eq_four.mp h
    simp [ha, hb, hd, he]
  | _ :: _ :: _ :: _ :: _ =>
    have hlength := String.length_utf8EncodeChar c
    have hsize := c.utf8Size_le_four
    rw [h] at hlength
    simp only [List.length_cons] at hlength
    omega

theorem bytes_of_starts {rest : List UInt8} (h : Starts (a :: rest)) :
    sequenceLength? a ≠ none ∧ (∀ b ∈ rest.head?, mayFollow a b = true) ∧
      ∀ d ∈ rest.tail, continues d = true := by
  obtain ⟨c, more, hmore⟩ := h
  obtain ⟨ha, hb, hd⟩ := bytes_of_utf8EncodeChar hmore.symm
  refine ⟨ha, ?_, ?_⟩
  · intro b hmem
    exact hb b (by cases rest <;> simp_all)
  · intro d hmem
    exact hd d (by cases rest <;> simp_all)

theorem not_starts_one (ha : sequenceLength? a = none) : ¬ Starts ([] ++ [a]) := by
  intro h
  exact (bytes_of_starts h).1 ha

theorem not_starts_two (hb : ¬ mayFollow a b = true) : ¬ Starts ([a] ++ [b]) := by
  intro h
  exact hb ((bytes_of_starts h).2.1 b rfl)

theorem not_starts_more {front : List UInt8} (hd : ¬ continues d = true) :
    ¬ Starts ((a :: b :: front) ++ [d]) := by
  intro h
  exact hd ((bytes_of_starts h).2.2 d (by simp))

/-! ## Faults -/

/-- How bytes fail that stand at an index: they end inside a character, or behind some beginning of one
stands a byte that continues no character. -/
inductive Fault.At (index : Nat) : List UInt8 → Fault → Prop
  | incomplete {bytes : List UInt8} (hne : bytes ≠ []) (h : Unfinished bytes) :
      At index bytes (.incomplete index)
  | invalid {front back : List UInt8} {b : UInt8} (h : Unfinished front)
      (hb : ¬ Starts (front ++ [b])) :
      At index (front ++ b :: back) (.invalid (max 1 front.length) index)

/-- A fault behind one more character. -/
theorem Fault.At.behind_char {index : Nat} {used rest : List UInt8} {fault : Fault} {c : Char}
    (hused : String.utf8EncodeChar c = used)
    (h : ∃ (cs : List Char) (behind : List UInt8),
      rest = cs.flatMap String.utf8EncodeChar ++ behind ∧
        Fault.At (index + used.length + (cs.flatMap String.utf8EncodeChar).length) behind fault) :
    ∃ (cs : List Char) (behind : List UInt8),
      used ++ rest = cs.flatMap String.utf8EncodeChar ++ behind ∧
        Fault.At (index + (cs.flatMap String.utf8EncodeChar).length) behind fault := by
  obtain ⟨cs, behind, rfl, hfault⟩ := h
  refine ⟨c :: cs, behind, by simp [hused], ?_⟩
  rw [List.flatMap_cons, hused, List.length_append, ← Nat.add_assoc]
  exact hfault

/-- A fault right at the front. -/
theorem Fault.At.front {index : Nat} {bytes : List UInt8} {fault : Fault}
    (h : Fault.At index bytes fault) :
    ∃ (cs : List Char) (behind : List UInt8),
      bytes = cs.flatMap String.utf8EncodeChar ++ behind ∧
        Fault.At (index + (cs.flatMap String.utf8EncodeChar).length) behind fault :=
  ⟨[], bytes, rfl, h⟩

/-- Decoding fails behind some characters, for what the bytes behind them are. -/
theorem exists_at_of_decodeFrom {index : Nat} {done : List Char} {bytes : List UInt8} {fault : Fault}
    (h : decodeFrom index done bytes = .error fault) :
    ∃ (cs : List Char) (behind : List UInt8),
      bytes = cs.flatMap String.utf8EncodeChar ++ behind ∧
        Fault.At (index + (cs.flatMap String.utf8EncodeChar).length) behind fault := by
  fun_induction decodeFrom index done bytes with
  | case1 => simp at h
  | case2 index done a rest ha ih =>
    exact Fault.At.behind_char (utf8EncodeChar_eq_one.mpr ⟨ha, rfl⟩) (ih h)
  -- two bytes
  | case3 index done a ha =>
    obtain rfl := Except.error.inj h
    exact (Fault.At.incomplete (by simp) (unfinished_one ha (by decide))).front
  | case4 index done a ha b rest hb ih =>
    exact Fault.At.behind_char (utf8EncodeChar_eq_two.mpr ⟨ha, hb, rfl⟩) (ih h)
  | case5 index done a ha b rest hb =>
    obtain rfl := Except.error.inj h
    exact (Fault.At.invalid (unfinished_one ha (by decide)) (not_starts_two hb)).front
  -- three bytes
  | case6 index done a ha =>
    obtain rfl := Except.error.inj h
    exact (Fault.At.incomplete (by simp) (unfinished_one ha (by decide))).front
  | case7 index done a ha b hb =>
    obtain rfl := Except.error.inj h
    exact (Fault.At.incomplete (by simp) (unfinished_two ha (by decide) (by decide) hb)).front
  | case8 index done a ha b hb d rest hd ih =>
    exact Fault.At.behind_char (utf8EncodeChar_eq_three.mpr ⟨ha, hb, hd, rfl⟩) (ih h)
  | case9 index done a ha b hb d rest hd =>
    obtain rfl := Except.error.inj h
    exact (Fault.At.invalid (unfinished_two ha (by decide) (by decide) hb)
      (not_starts_more hd)).front
  | case10 index done a ha b rest hb =>
    obtain rfl := Except.error.inj h
    exact (Fault.At.invalid (unfinished_one ha (by decide)) (not_starts_two hb)).front
  -- four bytes
  | case11 index done a n h1 h2 h3 ha =>
    obtain rfl := Except.error.inj h
    exact (Fault.At.incomplete (by simp) (unfinished_one ha h1)).front
  | case12 index done a n h1 h2 h3 ha b hb =>
    obtain rfl := Except.error.inj h
    exact (Fault.At.incomplete (by simp) (unfinished_two ha h1 h2 hb)).front
  | case13 index done a n h1 h2 h3 ha b hb d hd =>
    obtain rfl := sequenceLength?_eq_of_ne ha h1 h2 h3
    obtain rfl := Except.error.inj h
    exact (Fault.At.incomplete (by simp) (unfinished_three ha hb hd)).front
  | case14 index done a n h1 h2 h3 ha b hb d hd e rest he ih =>
    obtain rfl := sequenceLength?_eq_of_ne ha h1 h2 h3
    exact Fault.At.behind_char (utf8EncodeChar_eq_four.mpr ⟨ha, hb, hd, he, rfl⟩) (ih h)
  | case15 index done a n h1 h2 h3 ha b hb d hd e rest he =>
    obtain rfl := sequenceLength?_eq_of_ne ha h1 h2 h3
    obtain rfl := Except.error.inj h
    exact (Fault.At.invalid (unfinished_three ha hb hd) (not_starts_more he)).front
  | case16 index done a n h1 h2 h3 ha b hb d rest hd =>
    obtain rfl := Except.error.inj h
    exact (Fault.At.invalid (unfinished_two ha h1 h2 hb) (not_starts_more hd)).front
  | case17 index done a n h1 h2 h3 ha b rest hb =>
    obtain rfl := Except.error.inj h
    exact (Fault.At.invalid (unfinished_one ha h1) (not_starts_two hb)).front
  -- no character starts with the byte
  | case18 index done a rest ha =>
    obtain rfl := Except.error.inj h
    exact (Fault.At.invalid unfinished_nil (not_starts_one ha)).front

/-- Bytes that are no text are a text with bytes behind it that fail as the fault says. -/
theorem exists_at_of_decode {bytes : List UInt8} {fault : Fault} (h : decode bytes = .error fault) :
    ∃ text behind, bytes = encode text ++ behind ∧
      Fault.At (encode text).length behind fault := by
  cases hread : decodeFrom 0 [] bytes with
  | ok read => simp [decode, hread, Except.map] at h
  | error found =>
    obtain rfl : found = fault := by simpa [decode, hread, Except.map] using h
    obtain ⟨cs, behind, hbytes, hfault⟩ := exists_at_of_decodeFrom hread
    rw [Nat.zero_add] at hfault
    refine ⟨String.ofList cs, behind, ?_, ?_⟩
    · rw [encode_ofList]
      exact hbytes
    · rw [encode_ofList]
      exact hfault

namespace Fault.At

variable {index : Nat} {bytes : List UInt8} {fault : Fault}

/-- Where a fault stands no character does. -/
theorem no_char (h : Fault.At index bytes fault) (c : Char) :
    ¬ String.utf8EncodeChar c <+: bytes := by
  cases h with
  | incomplete hne h => exact h.no_char c
  | @invalid front back b h hb =>
    intro hchar
    have hfront : front ++ [b] <+: front ++ b :: back := ⟨back, by simp⟩
    rcases List.prefix_or_prefix_of_prefix hchar hfront with hshort | hlong
    · rcases List.prefix_concat_iff.mp hshort with heq | hinside
      · exact hb ⟨c, heq ▸ List.prefix_rfl⟩
      · exact h.no_char c hinside
    · exact hb ⟨c, hlong⟩

/-- The text in front of a fault is the longest one that the bytes begin with. -/
theorem longest {text other : String} {more : List UInt8}
    (h : Fault.At index bytes fault) (hother : encode text ++ bytes = encode other ++ more) :
    (encode other).length ≤ (encode text).length := by
  rcases List.append_eq_append_iff.mp hother with ⟨mid, hmid, hbytes⟩ | ⟨mid, hmid, -⟩
  · -- what the other text has more is a text too, of no character
    obtain ⟨back, hback⟩ := (exists_encode_iff_of_append hmid).mp ⟨text, rfl⟩
    rw [encode_eq_flatMap] at hback
    cases hchars : back.toList with
    | nil =>
      rw [hchars] at hback
      rw [hmid, ← hback]
      simp
    | cons c cs =>
      rw [hchars, List.flatMap_cons] at hback
      refine absurd ?_ (h.no_char c)
      rw [hbytes, ← hback, List.append_assoc]
      exact List.prefix_append _ _
  · rw [hmid, List.length_append]
    omega

/-- Only bytes that end inside a character can be completed. -/
theorem completable_iff (h : Fault.At index bytes fault) :
    Completable bytes ↔ fault = .incomplete index := by
  cases h with
  | incomplete hne h =>
    obtain ⟨c, ⟨more, hmore⟩, -⟩ := h
    refine ⟨fun _ => rfl, fun _ => ⟨more, c, [], ?_⟩⟩
    rw [hmore, List.append_nil]
  | @invalid front back b h hb =>
    constructor
    · rintro ⟨more, c, hchar⟩
      -- more bytes behind a fault leave it as it is
      have hmore : Fault.At index (front ++ b :: (back ++ more)) (.invalid (max 1 front.length) index) :=
        .invalid h hb
      rw [List.append_assoc, List.cons_append] at hchar
      exact absurd hchar (hmore.no_char c)
    · intro heq
      simp at heq

/-- Bytes that cannot be completed begin as some character does up to the byte that fails. -/
theorem exists_longestStart (h : Fault.At index bytes fault) (hfault : fault ≠ .incomplete index) :
    ∃ n, LongestStart bytes n ∧ n ≤ 3 ∧ fault = .invalid (max 1 n) index := by
  cases h with
  | incomplete => exact absurd rfl hfault
  | @invalid front back b h hb =>
    refine ⟨front.length, ⟨⟨by simp, ?_⟩, ?_⟩, h.length_le, rfl⟩
    · rw [List.take_left]
      exact h.starts
    · intro m hm hstarts
      by_contra hlong
      obtain ⟨k, rfl⟩ : ∃ k, m = front.length + (k + 1) := ⟨m - front.length - 1, by omega⟩
      rw [List.take_length_add_append, List.take_succ_cons] at hstarts
      obtain ⟨c, hchar⟩ := hstarts
      have hfront : front ++ [b] <+: front ++ b :: back.take k := ⟨back.take k, by simp⟩
      exact hb ⟨c, hfront.trans hchar⟩

end Fault.At

/-- What a fault tells of bytes: its index is the length of the longest beginning that is text, and it
is the fault of an incomplete character exactly if the bytes from there on can be completed to one.
Otherwise it tells how many of these a character begins with, or of one byte if none does. -/
def Fault.Describes (fault : Fault) (bytes : List UInt8) : Prop :=
  ∃ text rest, bytes = encode text ++ rest ∧
    (∀ other more, bytes = encode other ++ more → (encode other).length ≤ (encode text).length) ∧
    (Completable rest ∧ fault = .incomplete (encode text).length ∨
      ¬ Completable rest ∧ ∃ n, LongestStart rest n ∧ n ≤ 3 ∧
        fault = .invalid (max 1 n) (encode text).length)

theorem LongestStart.unique {bytes : List UInt8} {n m : Nat} (hn : LongestStart bytes n)
    (hm : LongestStart bytes m) : n = m :=
  Nat.le_antisymm (hm.2 n hn.1.1 hn.1.2) (hn.2 m hm.1.1 hm.1.2)

/-- Of the same bytes no other fault tells that. -/
theorem Fault.Describes.unique {fault other : Fault} {bytes : List UInt8}
    (h : fault.Describes bytes) (hother : other.Describes bytes) : fault = other := by
  obtain ⟨text, rest, rfl, hlongest, hfault⟩ := h
  obtain ⟨text', rest', hsame, hlongest', hother⟩ := hother
  have hlength : (encode text).length = (encode text').length :=
    Nat.le_antisymm (hlongest' text rest rfl) (hlongest text' rest' hsame)
  obtain ⟨-, rfl⟩ := List.append_inj hsame hlength
  rw [← hlength] at hother
  rcases hfault with ⟨hmore, rfl⟩ | ⟨hmore, n, hn, -, rfl⟩
  · rcases hother with ⟨-, rfl⟩ | ⟨hno, -⟩
    · rfl
    · exact absurd hmore hno
  · rcases hother with ⟨hyes, -⟩ | ⟨-, m, hm, -, rfl⟩
    · exact absurd hyes hmore
    · rw [hn.unique hm]

/-- Decoding fails on the bytes of no text, with the fault that describes them. -/
theorem decode_eq_error_iff {bytes : List UInt8} {fault : Fault} :
    decode bytes = .error fault ↔ (∀ text, encode text ≠ bytes) ∧ fault.Describes bytes := by
  have hdescribes : ∀ {found}, decode bytes = .error found → found.Describes bytes := by
    intro found h
    obtain ⟨text, rest, rfl, hfault⟩ := exists_at_of_decode h
    refine ⟨text, rest, rfl, fun other more hother => hfault.longest hother, ?_⟩
    by_cases hcompletable : Completable rest
    · exact .inl ⟨hcompletable, hfault.completable_iff.mp hcompletable⟩
    · refine .inr ⟨hcompletable, hfault.exists_longestStart ?_⟩
      exact fun heq => hcompletable (hfault.completable_iff.mpr heq)
  constructor
  · intro h
    refine ⟨?_, hdescribes h⟩
    intro text htext
    rw [decode_eq_ok_iff.mpr htext] at h
    contradiction
  · rintro ⟨hnot, hfault⟩
    cases hdecode : decode bytes with
    | ok text => exact absurd (decode_eq_ok_iff.mp hdecode) (hnot text)
    | error found => rw [(hdescribes hdecode).unique hfault]

end DiagnosticDigest.Utf8
