/-
Reading UTF-8 undoes writing it.

Bytes are read as a text exactly if they are the bytes of that text, so bytes are refused
exactly if no text has them. The forms of one to four bytes are told apart by the first
byte when reading and by the code point when writing. That the two agree is arithmetic on
the six bits that each continuation byte holds; the bounds on the second byte are what
keeps the code point from having a shorter form, from being a surrogate, and from being
too large.
-/
import SymbolDocs.Text.Utf8
import Mathlib.Tactic.Common

set_option autoImplicit false

namespace SymbolDocs.Text.Utf8

open String (utf8EncodeChar)

/-! ## The conditions as inequalities -/

theorem isContinuation_iff {b : UInt8} :
    isContinuation b = true ↔ 0x80 ≤ b.toNat ∧ b.toNat ≤ 0xBF := by
  rw [isContinuation, Bool.and_eq_true, decide_eq_true_iff, decide_eq_true_iff]

/-- What may stand second of three bytes: the bounds keep out characters that fewer bytes write,
and surrogates. -/
theorem continuesThree_iff {a b : UInt8} :
    continuesThree a b = true ↔
      (0x80 ≤ b.toNat ∧ b.toNat ≤ 0xBF) ∧ (b.toNat < 0xA0 → a.toNat ≠ 0xE0)
        ∧ (0xA0 ≤ b.toNat → a.toNat ≠ 0xED) := by
  rw [continuesThree, Bool.and_eq_true, isContinuation_iff]
  split <;> rw [decide_eq_true_iff] <;> omega

/-- What may stand second of four bytes: the bounds keep out characters that fewer bytes write,
and numbers beyond the last character. -/
theorem continuesFour_iff {a b : UInt8} :
    continuesFour a b = true ↔
      (0x80 ≤ b.toNat ∧ b.toNat ≤ 0xBF) ∧ (b.toNat < 0x90 → a.toNat ≠ 0xF0)
        ∧ (0x90 ≤ b.toNat → a.toNat ≠ 0xF4) := by
  rw [continuesFour, Bool.and_eq_true, isContinuation_iff]
  split <;> rw [decide_eq_true_iff] <;> omega

theorem ofNat_eq_iff {n : Nat} {b : UInt8} (h : n < 256) : UInt8.ofNat n = b ↔ n = b.toNat := by
  rw [← UInt8.toNat_inj, UInt8.toNat_ofNat_of_lt' h]

/-- The code point of the character that a number is made into. -/
theorem val_ofNat {n : Nat} (h : n.isValidChar) : (Char.ofNat n).val.toNat = n := by
  rw [Char.ofNat, dif_pos h]
  rfl

/-! ## One character -/

section Forms

variable {n : Nat} {a b c d : UInt8}

/-- The bytes of a character, by its code point. -/
theorem utf8EncodeChar_ofNat (h : n.isValidChar) :
    utf8EncodeChar (Char.ofNat n)
      = if n ≤ 0x7F then [.ofNat n]
        else if n ≤ 0x7FF then [.ofNat (n / 64 % 32 + 0xC0), .ofNat (n % 64 + 0x80)]
        else if n ≤ 0xFFFF then
          [.ofNat (n / 4096 % 16 + 0xE0), .ofNat (n / 64 % 64 + 0x80), .ofNat (n % 64 + 0x80)]
        else
          [.ofNat (n / 262144 % 8 + 0xF0), .ofNat (n / 4096 % 64 + 0x80),
            .ofNat (n / 64 % 64 + 0x80), .ofNat (n % 64 + 0x80)] := by
  simp only [utf8EncodeChar, val_ofNat h]

/-- One byte writes a character of ASCII, and the byte is its number. -/
theorem encode_one_iff (h : n.isValidChar) :
    utf8EncodeChar (Char.ofNat n) = [a] ↔ a.toNat < 0x80 ∧ n = a.toNat := by
  rw [utf8EncodeChar_ofNat h]
  split_ifs with h1 h2 h3
  · simp only [List.cons.injEq, and_true]
    rw [ofNat_eq_iff (by omega)]
    omega
  all_goals simp; omega

/-- Two bytes write a character just if the reader takes them for two, and its number is what the
reader makes of them. -/
theorem encode_two_iff (h : n.isValidChar) :
    utf8EncodeChar (Char.ofNat n) = [a, b] ↔
      (0xC2 ≤ a.toNat ∧ a.toNat < 0xE0) ∧ isContinuation b = true
        ∧ n = a.toNat % 32 * 64 + payload b := by
  rw [utf8EncodeChar_ofNat h, isContinuation_iff, payload]
  split_ifs with h1 h2 h3
  · simp; omega
  · simp only [List.cons.injEq, and_true]
    rw [ofNat_eq_iff (by omega), ofNat_eq_iff (by omega)]
    omega
  all_goals simp; omega

/-- So it is with three bytes. -/
theorem encode_three_iff (h : n.isValidChar) :
    utf8EncodeChar (Char.ofNat n) = [a, b, c] ↔
      (0xE0 ≤ a.toNat ∧ a.toNat < 0xF0) ∧ continuesThree a b = true ∧ isContinuation c = true
        ∧ n = a.toNat % 16 * 4096 + payload b * 64 + payload c := by
  rw [utf8EncodeChar_ofNat h, continuesThree_iff, isContinuation_iff, payload, payload]
  split_ifs with h1 h2 h3
  · simp; omega
  · simp; omega
  · simp only [List.cons.injEq, and_true]
    rw [ofNat_eq_iff (by omega), ofNat_eq_iff (by omega), ofNat_eq_iff (by omega)]
    unfold Nat.isValidChar at h
    omega
  · simp; omega

/-- And with four. -/
theorem encode_four_iff (h : n.isValidChar) :
    utf8EncodeChar (Char.ofNat n) = [a, b, c, d] ↔
      (0xF0 ≤ a.toNat ∧ a.toNat < 0xF5) ∧ continuesFour a b = true ∧ isContinuation c = true
        ∧ isContinuation d = true
        ∧ n = a.toNat % 8 * 262144 + payload b * 4096 + payload c * 64 + payload d := by
  rw [utf8EncodeChar_ofNat h, continuesFour_iff, isContinuation_iff, isContinuation_iff, payload,
    payload, payload]
  split_ifs with h1 h2 h3
  · simp; omega
  · simp; omega
  · simp; omega
  · simp only [List.cons.injEq, and_true]
    rw [ofNat_eq_iff (by omega), ofNat_eq_iff (by omega), ofNat_eq_iff (by omega),
      ofNat_eq_iff (by omega)]
    unfold Nat.isValidChar at h
    omega

/-- The forms of the bytes of a character. -/
theorem exists_form (char : Char) :
    (∃ a, utf8EncodeChar char = [a]) ∨ (∃ a b, utf8EncodeChar char = [a, b])
      ∨ (∃ a b c, utf8EncodeChar char = [a, b, c])
      ∨ ∃ a b c d, utf8EncodeChar char = [a, b, c, d] := by
  rw [utf8EncodeChar]
  split_ifs
  · exact .inl ⟨_, rfl⟩
  · exact .inr (.inl ⟨_, _, rfl⟩)
  · exact .inr (.inr (.inl ⟨_, _, _, rfl⟩))
  · exact .inr (.inr (.inr ⟨_, _, _, _, rfl⟩))

end Forms

/-! ## Whole texts -/

/-- The bytes of a character are read as that character. -/
theorem decodeFrom_append (char : Char) (rest : List UInt8) (start : Nat) :
    ∃ next, decodeFrom start (utf8EncodeChar char ++ rest)
      = (char :: ·) <$> decodeFrom next rest := by
  obtain ⟨n, hn, rfl⟩ : ∃ n : Nat, n.isValidChar ∧ char = Char.ofNat n :=
    ⟨char.toNat, char.valid, (Char.ofNat_toNat char).symm⟩
  rcases exists_form (Char.ofNat n) with ⟨a, h⟩ | ⟨a, b, h⟩ | ⟨a, b, c, h⟩ | ⟨a, b, c, d, h⟩
  · obtain ⟨ha, hval⟩ := (encode_one_iff hn).mp h
    refine ⟨start + 1, ?_⟩
    rw [h, List.cons_append, List.nil_append, decodeFrom.eq_def]
    simp only
    rw [if_pos ha, hval]
  · obtain ⟨⟨hle, hlt⟩, hb, hval⟩ := (encode_two_iff hn).mp h
    refine ⟨start + 2, ?_⟩
    rw [h]
    simp only [List.cons_append, List.nil_append, decodeFrom]
    rw [if_neg (by omega), if_neg (by omega), if_pos hlt, if_pos hb, hval]
  · obtain ⟨⟨hle, hlt⟩, hb, hc, hval⟩ := (encode_three_iff hn).mp h
    refine ⟨start + 3, ?_⟩
    rw [h]
    simp only [List.cons_append, List.nil_append, decodeFrom]
    rw [if_neg (by omega), if_neg (by omega), if_neg (by omega), if_pos hlt, hb, hc, hval]
    rfl
  · obtain ⟨⟨hle, hlt⟩, hb, hc, hd, hval⟩ := (encode_four_iff hn).mp h
    refine ⟨start + 4, ?_⟩
    rw [h]
    simp only [List.cons_append, List.nil_append, decodeFrom]
    rw [if_neg (by omega), if_neg (by omega), if_neg (by omega), if_neg (by omega), if_pos hlt,
      hb, hc, hd, hval]
    rfl

/-- What was written is read again. -/
theorem decodeFrom_encode (text : List Char) (start : Nat) :
    decodeFrom start (encode text) = .ok text := by
  induction text generalizing start with
  | nil => rfl
  | cons char rest ih =>
    obtain ⟨next, hnext⟩ := decodeFrom_append char (encode rest) start
    have hencode : encode (char :: rest) = utf8EncodeChar char ++ encode rest := rfl
    rw [hencode, hnext, ih]
    rfl

theorem exists_of_map_ok {result : Except Fault (List Char)} {char : Char} {text : List Char}
    (h : (char :: ·) <$> result = .ok text) : ∃ rest, result = .ok rest ∧ text = char :: rest := by
  cases result with
  | error fault => cases h
  | ok rest => exact ⟨rest, rfl, (Except.ok.inj h).symm⟩

theorem encode_cons_eq {char : Char} {text : List Char} {bytes rest : List UInt8}
    (hchar : utf8EncodeChar char = bytes) (hrest : encode text = rest) :
    encode (char :: text) = bytes ++ rest := by
  rw [← hchar, ← hrest]
  rfl

/-- What is read is written with the bytes that were read. The cases are those of the
reader; in all but five the bytes are refused. -/
theorem encode_of_decodeFrom {bytes : List UInt8} {start : Nat} {text : List Char}
    (h : decodeFrom start bytes = .ok text) : encode text = bytes := by
  fun_induction decodeFrom start bytes generalizing text with
  | case1 => exact Except.ok.inj h ▸ rfl
  | case2 start a rest ha ih =>
    obtain ⟨text, htext, rfl⟩ := exists_of_map_ok h
    have hvalid : a.toNat.isValidChar := by
      unfold Nat.isValidChar
      omega
    exact encode_cons_eq ((encode_one_iff hvalid).mpr ⟨ha, rfl⟩) (ih htext)
  | case5 start a h1 h2 hlt b rest hb ih =>
    obtain ⟨text, htext, rfl⟩ := exists_of_map_ok h
    have hvalid : (a.toNat % 32 * 64 + payload b).isValidChar := by
      unfold Nat.isValidChar payload
      omega
    exact encode_cons_eq ((encode_two_iff hvalid).mpr ⟨⟨by omega, hlt⟩, hb, rfl⟩) (ih htext)
  | case12 start a h1 h2 h3 hlt b c rest hb hc ih =>
    obtain ⟨text, htext, rfl⟩ := exists_of_map_ok h
    rw [Bool.not_eq_true, Bool.not_eq_false'] at hb hc
    have hvalid : (a.toNat % 16 * 4096 + payload b * 64 + payload c).isValidChar := by
      have hbounds := continuesThree_iff.mp hb
      unfold Nat.isValidChar payload
      omega
    exact encode_cons_eq ((encode_three_iff hvalid).mpr ⟨⟨by omega, hlt⟩, hb, hc, rfl⟩)
      (ih htext)
  | case22 start a h1 h2 h3 h4 hlt b c d rest hb hc hd ih =>
    obtain ⟨text, htext, rfl⟩ := exists_of_map_ok h
    rw [Bool.not_eq_true, Bool.not_eq_false'] at hb hc hd
    have hvalid : (a.toNat % 8 * 262144 + payload b * 4096 + payload c * 64
        + payload d).isValidChar := by
      have hbounds := continuesFour_iff.mp hb
      unfold Nat.isValidChar payload
      omega
    exact encode_cons_eq ((encode_four_iff hvalid).mpr ⟨⟨by omega, hlt⟩, hb, hc, hd, rfl⟩)
      (ih htext)
  | _ => cases h

/-- Bytes are read as a text exactly if they are the bytes of that text. -/
theorem decode_eq_ok_iff {bytes : List UInt8} {text : List Char} :
    decode bytes = .ok text ↔ encode text = bytes := by
  constructor
  · exact encode_of_decodeFrom
  · rintro rfl
    exact decodeFrom_encode text 0

end SymbolDocs.Text.Utf8
