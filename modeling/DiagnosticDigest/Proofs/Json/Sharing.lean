import DiagnosticDigest.Json.Reader
import DiagnosticDigest.Proofs.Utf8.Order

/-!
# Texts that share their bytes up to a place

A fault is placed by bytes, and its place may lie inside a character. Of a text that shares the bytes in
front of such a place, the characters in front of it are known, and of the character that the place lies
in only that it is the same one, or that neither is ASCII. That is all a reader looks at that tells ASCII
characters apart.

## Main definitions

* `Json.Alike` — characters that are the same as far as ASCII is concerned.
* `Json.Shares` — texts that share the bytes of the first one up to some of its last ones.

## Main statements

* `Json.Shares.exists_append` — characters in front of the place are shared.
* `Json.Shares.exists_alike` — the character that the place is not in front of has one alike.
* `Json.Shares.dropWhile` — ASCII characters of some kind are taken from both texts alike.
-/

namespace DiagnosticDigest.Json

open Utf8

/-! ## Characters -/

/-- Characters that are the same or both beyond ASCII. -/
def Alike (c d : Char) : Prop :=
  c = d ∨ 0x80 ≤ c.toNat ∧ 0x80 ≤ d.toNat

theorem Alike.refl (c : Char) : Alike c c :=
  .inl rfl

/-- An ASCII character is alike only to itself. -/
theorem Alike.eq {c d : Char} (h : Alike c d) (hc : c.toNat < 0x80) : d = c := by
  rcases h with rfl | ⟨hle, -⟩
  · rfl
  · omega

theorem Alike.ne {c d e : Char} (h : Alike c d) (hne : c ≠ e) (he : e.toNat < 0x80) : d ≠ e := by
  rintro rfl
  rcases h with rfl | ⟨-, hle⟩
  · exact hne rfl
  · omega

/-- What holds of ASCII characters only tells no characters apart that are alike. -/
theorem Alike.congr {p : Char → Bool} (hp : ∀ c, 0x80 ≤ c.toNat → p c = false) {c d : Char}
    (h : Alike c d) : p d = p c := by
  rcases h with rfl | ⟨hc, hd⟩
  · rfl
  · rw [hp c hc, hp d hd]

/-- Characters with the same first byte are alike. -/
theorem alike_of_head {c d : Char} {b : UInt8} {x y : List UInt8}
    (hc : String.utf8EncodeChar c = b :: x) (hd : String.utf8EncodeChar d = b :: y) : Alike c d := by
  by_cases hb : b.toNat < 0x80
  · have hcb : c.toNat = b.toNat := toNat_eq_of_mem hb (by simp [hc])
    have hdb : d.toNat = b.toNat := toNat_eq_of_mem hb (by simp [hd])
    left
    rw [← Char.ofNat_toNat c, hcb, ← hdb, Char.ofNat_toNat]
  · have hbeyond : ∀ {e : Char} {z}, String.utf8EncodeChar e = b :: z → 0x80 ≤ e.toNat := by
      intro e z he
      by_contra hascii
      rw [utf8EncodeChar_ascii (by omega)] at he
      obtain ⟨rfl, -⟩ := List.cons.inj he
      rw [UInt8.toNat_ofNat'] at hb
      omega
    exact .inr ⟨hbeyond hc, hbeyond hd⟩

/-! ## Texts -/

theorem length_flatMap_utf8EncodeChar (text : List Char) :
    (text.flatMap String.utf8EncodeChar).length = size text := by
  induction text with
  | nil => rfl
  | cons c text ih =>
    rw [List.flatMap_cons, List.length_append, String.length_utf8EncodeChar, ih, size_cons]

/-- A text of some bytes begins with the character that these begin with. -/
theorem exists_cons_of_flatMap {c : Char} {text : List Char} {x : List UInt8}
    (h : text.flatMap String.utf8EncodeChar = String.utf8EncodeChar c ++ x) :
    ∃ more, text = c :: more ∧ more.flatMap String.utf8EncodeChar = x := by
  cases text with
  | nil =>
    have hlength := congrArg List.length h
    have hpos := c.utf8Size_pos
    rw [List.length_append, String.length_utf8EncodeChar] at hlength
    simp at hlength
    omega
  | cons d text =>
    rw [List.flatMap_cons] at h
    obtain ⟨rfl, hx⟩ := utf8EncodeChar_append_inj h
    exact ⟨text, rfl, hx⟩

/-- The first byte of a text is that of its first character. -/
theorem exists_head_of_flatMap {c : Char} {text : List Char} {b : UInt8} {x : List UInt8}
    (h : (c :: text).flatMap String.utf8EncodeChar = b :: x) :
    ∃ y, String.utf8EncodeChar c = b :: y := by
  have hne : String.utf8EncodeChar c ≠ [] := by simp
  obtain ⟨first, y, hchar⟩ := List.exists_cons_of_ne_nil hne
  rw [List.flatMap_cons, hchar, List.cons_append] at h
  obtain ⟨rfl, -⟩ := List.cons.inj h
  exact ⟨y, hchar⟩

/-- The second text has the bytes of the first one at its front, but for so many of the last ones. -/
def Shares (left : Nat) (text other : List Char) : Prop :=
  ∃ shared behind more, text.flatMap String.utf8EncodeChar = shared ++ behind ∧
    behind.length = left ∧ other.flatMap String.utf8EncodeChar = shared ++ more

theorem size_cons_pos (c : Char) (text : List Char) : 0 < size (c :: text) := by
  have hpos := c.utf8Size_pos
  rw [size_cons]
  omega

theorem length_le_size (text : List Char) : text.length ≤ size text := by
  induction text with
  | nil => exact Nat.le_refl _
  | cons c text ih =>
    have hpos := c.utf8Size_pos
    rw [List.length_cons, size_cons]
    omega

theorem size_dropWhile_le (p : Char → Bool) (text : List Char) :
    size (text.dropWhile p) ≤ size text := by
  have hsplit := congrArg size (List.takeWhile_append_dropWhile (p := p) (l := text))
  rw [size_append] at hsplit
  omega

namespace Shares

variable {left : Nat} {c : Char} {text other : List Char}

/-- A character in front of the place is shared. -/
theorem exists_cons (h : Shares left (c :: text) other) (hleft : left ≤ size text) :
    ∃ more, other = c :: more ∧ Shares left text more := by
  obtain ⟨shared, behind, more, htext, rfl, hother⟩ := h
  rw [List.flatMap_cons] at htext
  have hbytes : ∃ inside, shared = String.utf8EncodeChar c ++ inside ∧
      text.flatMap String.utf8EncodeChar = inside ++ behind := by
    rcases List.append_eq_append_iff.mp htext with ⟨inside, hshared, hrest⟩ | ⟨tail, hchar, hbehind⟩
    · exact ⟨inside, hshared, hrest⟩
    · have htail : tail = [] := by
        rw [← length_flatMap_utf8EncodeChar, hbehind, List.length_append] at hleft
        exact List.length_eq_zero_iff.mp (by omega)
      subst htail
      exact ⟨[], by simpa using hchar.symm, by simpa using hbehind.symm⟩
  obtain ⟨inside, rfl, hrest⟩ := hbytes
  rw [List.append_assoc] at hother
  obtain ⟨tail, rfl, htail⟩ := exists_cons_of_flatMap hother
  exact ⟨tail, rfl, inside, behind, more, hrest, rfl, htail⟩

/-- As many bytes as the texts share, so many the first text shares with the second one. -/
theorem symm (h : Shares left text other) :
    ∃ left', size other + left = size text + left' ∧ Shares left' other text := by
  obtain ⟨shared, behind, more, htext, rfl, hother⟩ := h
  refine ⟨more.length, ?_, shared, more, behind, hother, rfl, htext⟩
  rw [← length_flatMap_utf8EncodeChar, ← length_flatMap_utf8EncodeChar, htext, hother,
    List.length_append, List.length_append]
  omega

/-- Characters in front of the place are shared. -/
theorem exists_append (front : List Char) (h : Shares left (front ++ text) other)
    (hleft : left ≤ size text) : ∃ more, other = front ++ more ∧ Shares left text more := by
  induction front generalizing other with
  | nil => exact ⟨other, rfl, h⟩
  | cons c front ih =>
    have hfront : left ≤ size (front ++ text) := by
      rw [size_append]
      omega
    obtain ⟨tail, rfl, htail⟩ := exists_cons h hfront
    obtain ⟨more, rfl, hmore⟩ := ih htail
    exact ⟨more, rfl, hmore⟩

/-- Where some byte is in front of the place, the texts begin alike. -/
theorem exists_alike (h : Shares left (c :: text) other) (hleft : left < size (c :: text)) :
    ∃ d more, other = d :: more ∧ Alike c d := by
  obtain ⟨shared, behind, more, htext, rfl, hother⟩ := h
  cases shared with
  | nil =>
    rw [← length_flatMap_utf8EncodeChar, htext, List.nil_append] at hleft
    omega
  | cons b shared =>
    obtain ⟨x, hc⟩ := exists_head_of_flatMap htext
    cases other with
    | nil => simp at hother
    | cons d tail =>
      obtain ⟨y, hd⟩ := exists_head_of_flatMap hother
      exact ⟨d, tail, rfl, alike_of_head hc hd⟩

/-- ASCII characters of some kind, of which a run ends in front of the place, are shared. -/
theorem dropWhile {p : Char → Bool} (hp : ∀ c, 0x80 ≤ c.toNat → p c = false)
    (h : Shares left text other) (hleft : left < size (text.dropWhile p)) :
    other.takeWhile p = text.takeWhile p ∧
      Shares left (text.dropWhile p) (other.dropWhile p) := by
  induction text generalizing other with
  | nil => simp at hleft
  | cons c text ih =>
    by_cases hc : p c = true
    · rw [List.dropWhile_cons_of_pos hc] at hleft ⊢
      have hle := size_dropWhile_le p text
      obtain ⟨more, rfl, hmore⟩ := h.exists_cons (by omega)
      obtain ⟨htake, hdrop⟩ := ih hmore hleft
      rw [List.takeWhile_cons_of_pos hc, List.takeWhile_cons_of_pos hc, htake,
        List.dropWhile_cons_of_pos hc]
      exact ⟨rfl, hdrop⟩
    · rw [List.dropWhile_cons_of_neg hc] at hleft ⊢
      obtain ⟨d, more, rfl, halike⟩ := h.exists_alike hleft
      have hd : ¬ p d = true := by
        rw [halike.congr hp]
        exact hc
      rw [List.takeWhile_cons_of_neg hc, List.takeWhile_cons_of_neg hd,
        List.dropWhile_cons_of_neg hd]
      exact ⟨rfl, h⟩

end Shares

end DiagnosticDigest.Json
