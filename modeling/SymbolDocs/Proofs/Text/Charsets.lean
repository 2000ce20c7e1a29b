/-
What other encodings make of UTF-8.

The bytes of a text are read from left to right, so what a text is read as begins with what
its beginning is read as (`reread_append`). A text whose characters are each kept by an
encoding is therefore kept as a whole (`reread_of_keeps`). All encodings that have a name keep
the characters that they share with ASCII (`reread_of_isShared`); a few of those in ASCII they
give up for a yen sign, an overline or a mark of their own.

Where each byte stands for one character, or for none, nothing outside ASCII is kept: such a
character has several bytes (`reread_page_iff`). The encoding in runs of digits has no character
at all for these bytes (`reread_shifted`). What is said of the encodings in single bytes and in
digits together is `ascii_of_reread`. It leaves out encodings in pairs of bytes, as their tables
alone could tell whether a pair is that of its own character, and those whose characters are not
listed.
-/
import SymbolDocs.Text.Charset
import Mathlib.Tactic.Common

set_option autoImplicit false

namespace SymbolDocs.Text

/-- The bytes of a text. -/
def bytesOf (text : List Char) : List Nat :=
  (Utf8.encode text).map UInt8.toNat

theorem bytesOf_append (before after : List Char) :
    bytesOf (before ++ after) = bytesOf before ++ bytesOf after := by
  rw [bytesOf, Utf8.encode, List.flatMap_append, List.map_append]
  rfl

theorem bytesOf_cons (c : Char) (rest : List Char) :
    bytesOf (c :: rest) = bytesOf [c] ++ bytesOf rest :=
  bytesOf_append [c] rest

/-- A character of ASCII has itself for its byte. -/
theorem bytesOf_ascii {c : Char} (h : c.toNat < 0x80) : bytesOf [c] = [c.toNat] := by
  have hval : c.val.toNat ≤ 0x7f := Nat.le_of_lt_succ h
  change ((String.utf8EncodeChar c ++ []).map UInt8.toNat) = _
  rw [List.append_nil, String.utf8EncodeChar, if_pos hval, List.map_singleton]
  exact congrArg (fun n => [n]) (UInt8.toNat_ofNat_of_lt' (Nat.lt_of_lt_of_le h (by decide)))

/-- The last byte of any other character is beyond ASCII. -/
theorem exists_mem_bytesOf {c : Char} (h : 0x80 ≤ c.toNat) : ∃ byte ∈ bytesOf [c], 0x80 ≤ byte := by
  have hval : ¬ c.val.toNat ≤ 0x7f := Nat.not_le.mpr h
  have hlast : 0x80 ≤ (UInt8.ofNat (c.val.toNat % 64 + 0x80)).toNat := by
    rw [UInt8.toNat_ofNat_of_lt' (by change _ < 256; omega)]
    omega
  refine ⟨_, List.mem_map_of_mem (List.mem_append_left [] ?_), hlast⟩
  rw [String.utf8EncodeChar]
  simp only [if_neg hval]
  split_ifs <;> simp

/-- A character has as many bytes as its size says. -/
theorem length_bytesOf (c : Char) : (bytesOf [c]).length = c.utf8Size := by
  change ((String.utf8EncodeChar c ++ []).map UInt8.toNat).length = _
  rw [List.append_nil, List.length_map, String.length_utf8EncodeChar]

/-- A text has as many bytes as characters if it is in ASCII, and more otherwise. -/
theorem length_le_length_bytesOf (text : List Char) : text.length ≤ (bytesOf text).length := by
  induction text with
  | nil => exact Nat.le_refl _
  | cons c rest ih =>
    rw [bytesOf_cons, List.length_append, length_bytesOf, List.length_cons]
    have := c.utf8Size_pos
    omega

/-- A text with no more bytes than characters is ASCII. -/
theorem ascii_of_length_bytesOf {text : List Char} (h : (bytesOf text).length = text.length) :
    ∀ c ∈ text, c.toNat < 0x80 := by
  induction text with
  | nil => exact fun c hc => nomatch hc
  | cons d rest ih =>
    rw [bytesOf_cons, List.length_append, length_bytesOf, List.length_cons] at h
    have hpos := d.utf8Size_pos
    have hrest := length_le_length_bytesOf rest
    intro c hc
    rcases List.mem_cons.mp hc with rfl | hmem
    · have hone : c.utf8Size = 1 := by omega
      have hle := Char.utf8Size_eq_one_iff.mp hone
      exact Nat.lt_succ_of_le (UInt32.le_iff_toNat_le.mp hle)
    · exact ih (by omega) c hmem

/-! ## Reading from left to right -/

/-- Bytes on a page are read from left to right. -/
theorem Page.decode_append {page : Page} {bytes : List Nat} {text : List Char}
    (h : page.decode bytes = some text) (more : List Nat) :
    page.decode (bytes ++ more) = (page.decode more).map (text ++ ·) := by
  rw [Page.decode] at h ⊢
  rw [List.mapM_append, h]
  change (page.decode more).bind _ = _
  rw [Option.map_eq_bind]
  rfl

/-- Bytes in ones and twos are read from left to right, if the first ones end with a character. -/
theorem DoubleByte.decode_append {set : DoubleByte} {bytes : List Nat} {text : List Char}
    (h : set.decode bytes = some text) (more : List Nat) :
    set.decode (bytes ++ more) = (set.decode more).map (text ++ ·) := by
  fun_induction DoubleByte.decode set bytes generalizing text with
  | case1 =>
    obtain rfl := Option.some.inj h
    simp
  | case2 byte rest c hsingle ih =>
    obtain ⟨cs, hrest, rfl⟩ := Option.map_eq_some_iff.mp h
    rw [List.cons_append, DoubleByte.decode.eq_def]
    simp only [hsingle, ih hrest, Option.map_map]
    rfl
  | case3 => cases h
  | case4 byte hsingle trail rest c hpair ih =>
    obtain ⟨cs, hrest, rfl⟩ := Option.map_eq_some_iff.mp h
    rw [List.cons_append, List.cons_append, DoubleByte.decode.eq_def]
    simp only [hsingle, hpair, ih hrest, Option.map_map]
    rfl
  | case5 => cases h
  | case6 byte hsingle trail hpair third rest c htriple ih =>
    obtain ⟨cs, hrest, rfl⟩ := Option.map_eq_some_iff.mp h
    rw [List.cons_append, List.cons_append, List.cons_append, DoubleByte.decode.eq_def]
    simp only [hsingle, hpair, htriple, ih hrest, Option.map_map]
    rfl
  | case7 => cases h

namespace Shifted

/-- Outside a run a byte other than a plus sign stands for itself or for nothing. -/
def decodeOne (byte : Nat) (rest : List Nat) : Option (List Char) :=
  if isDirect byte then (decodeFrom none rest).map (Char.ofNat byte :: ·) else none

/-- Outside a run of digits a byte is read by itself, unless it opens one. -/
theorem decodeFrom_direct {byte : Nat} (hplus : byte ≠ 0x2b) (rest : List Nat) :
    decodeFrom none (byte :: rest) = decodeOne byte rest := by
  rw [decodeFrom.eq_def]
  simp only [if_neg hplus]
  rfl

/-- A plus sign is written as a run without digits. -/
theorem decodeFrom_plus (rest : List Nat) :
    decodeFrom none (0x2b :: 0x2d :: rest) = (decodeFrom none rest).map ('+' :: ·) :=
  rfl

theorem decodeFrom_opening {rest : List Nat} (h : rest.head? ≠ some 0x2d) :
    decodeFrom none (0x2b :: rest) = decodeFrom (some .empty) rest := by
  rw [decodeFrom.eq_def]
  simp only [if_true, if_neg h]

/-- In a run a digit is added to it. -/
theorem decodeFrom_digit {byte digit : Nat} (h : digit? byte = some digit) (run : Run)
    (rest : List Nat) :
    decodeFrom (some run) (byte :: rest) = decodeFrom (some (run.push digit)) rest := by
  rw [decodeFrom.eq_def]
  simp only [h]

/-- A run that ends comes before what follows it. -/
theorem decodeFrom_end {byte : Nat} (h : digit? byte = none) (run : Run) (rest : List Nat) :
    decodeFrom (some run) (byte :: rest)
      = run.chars.bind fun before =>
          (if byte = 0x2d then decodeFrom none rest else decodeOne byte rest).map
            (before ++ ·) := by
  rw [decodeFrom.eq_def, decodeOne]
  simp only [h]
  cases run.chars with
  | none => rfl
  | some before =>
    change (if byte = 0x2d then _ else _) = Option.map _ _
    split_ifs
    · cases decodeFrom none rest <;> rfl
    · cases decodeFrom none rest <;> rfl
    · rfl

theorem decodeOne_append {byte : Nat} {rest more : List Nat} {text : List Char}
    (ih : ∀ {text}, decodeFrom none rest = some text →
      decodeFrom none (rest ++ more) = (decodeFrom none more).map (text ++ ·))
    (h : decodeOne byte rest = some text) :
    decodeOne byte (rest ++ more) = (decodeFrom none more).map (text ++ ·) := by
  rw [decodeOne] at h ⊢
  split_ifs at h ⊢
  obtain ⟨cs, hrest, rfl⟩ := Option.map_eq_some_iff.mp h
  rw [ih hrest, Option.map_map]
  rfl

/-- Bytes in runs of digits are read from left to right, whatever run they end in. -/
theorem decodeFrom_append {state : Option Run} {bytes : List Nat} {text : List Char}
    (h : decodeFrom state bytes = some text) (more : List Nat) :
    decodeFrom state (bytes ++ more) = (decodeFrom none more).map (text ++ ·) := by
  induction state, bytes using decodeFrom.induct generalizing text with
  | case1 =>
    obtain rfl := Option.some.inj h
    simp
  | case2 => cases h
  | case3 hminus => cases hminus
  | case4 second rest hminus ih =>
    obtain rfl := Option.some.inj hminus
    rw [decodeFrom_plus] at h
    obtain ⟨cs, hrest, rfl⟩ := Option.map_eq_some_iff.mp h
    rw [List.cons_append, List.cons_append, decodeFrom_plus, ih hrest, Option.map_map]
    rfl
  | case5 rest hminus ih =>
    rw [decodeFrom_opening hminus] at h
    have hhead : (rest ++ more).head? ≠ some 0x2d := by
      cases rest with
      | nil => cases h
      | cons second rest => exact hminus
    rw [List.cons_append, decodeFrom_opening hhead]
    exact ih h
  | case6 byte rest hplus hdirect ih =>
    rw [decodeFrom_direct hplus] at h
    rw [List.cons_append, decodeFrom_direct hplus]
    exact decodeOne_append ih h
  | case7 byte rest hplus hdirect =>
    rw [decodeFrom_direct hplus, decodeOne, if_neg hdirect] at h
    cases h
  | case8 run byte rest digit hdigit ih =>
    rw [decodeFrom_digit hdigit] at h
    rw [List.cons_append, decodeFrom_digit hdigit]
    exact ih h
  | case9 run byte rest hdigit ih =>
    rw [decodeFrom_end hdigit] at h
    obtain ⟨before, hchars, h⟩ := Option.bind_eq_some_iff.mp h
    obtain ⟨after, hafter, rfl⟩ := Option.map_eq_some_iff.mp h
    have hmore : (if byte = 0x2d then decodeFrom none (rest ++ more)
        else decodeOne byte (rest ++ more)) = (decodeFrom none more).map (after ++ ·) := by
      split_ifs at hafter ⊢
      · exact ih hafter
      · exact decodeOne_append ih hafter
    rw [List.cons_append, decodeFrom_end hdigit, hchars, Option.bind_some, hmore, Option.map_map]
    congr 1
    funext cs
    exact (List.append_assoc before after cs).symm

theorem lt_of_isDirect {byte : Nat} (h : isDirect byte = true) : byte < 0x80 := by
  simp only [isDirect, Bool.or_eq_true, Bool.and_eq_true, decide_eq_true_eq] at h
  omega

theorem lt_of_digit {byte digit : Nat} (h : digit? byte = some digit) : byte < 0x80 := by
  unfold digit? at h
  split_ifs at h <;> omega

/-- What is read in runs of digits has no byte beyond ASCII. -/
theorem lt_of_decodeFrom {state : Option Run} {bytes : List Nat} {text : List Char}
    (h : decodeFrom state bytes = some text) : ∀ byte ∈ bytes, byte < 0x80 := by
  induction state, bytes using decodeFrom.induct generalizing text with
  | case1 => exact fun byte hbyte => nomatch hbyte
  | case2 => cases h
  | case3 hminus => cases hminus
  | case4 second rest hminus ih =>
    obtain rfl := Option.some.inj hminus
    rw [decodeFrom_plus] at h
    obtain ⟨cs, hrest, -⟩ := Option.map_eq_some_iff.mp h
    simpa using ih hrest
  | case5 rest hminus ih =>
    rw [decodeFrom_opening hminus] at h
    simpa using ih h
  | case6 byte rest hplus hdirect ih =>
    rw [decodeFrom_direct hplus, decodeOne, if_pos hdirect] at h
    obtain ⟨cs, hrest, -⟩ := Option.map_eq_some_iff.mp h
    simpa using ⟨lt_of_isDirect hdirect, ih hrest⟩
  | case7 byte rest hplus hdirect =>
    rw [decodeFrom_direct hplus, decodeOne, if_neg hdirect] at h
    cases h
  | case8 run byte rest digit hdigit ih =>
    rw [decodeFrom_digit hdigit] at h
    simpa using ⟨lt_of_digit hdigit, ih h⟩
  | case9 run byte rest hdigit ih =>
    rw [decodeFrom_end hdigit] at h
    obtain ⟨before, hchars, h⟩ := Option.bind_eq_some_iff.mp h
    obtain ⟨after, hafter, rfl⟩ := Option.map_eq_some_iff.mp h
    rw [decodeOne] at hafter
    split_ifs at hafter with hminus hdirect
    · simpa [hminus] using ih hafter
    · obtain ⟨cs, hrest, -⟩ := Option.map_eq_some_iff.mp hafter
      simpa using ⟨lt_of_isDirect hdirect, ih hrest⟩

end Shifted

/-! ## Pages that change characters of ASCII -/

/-- A character below the cells of a page stands for itself. -/
theorem Page.charOf?_of_lt {table : Page} {c : Char} (h : c.toNat < table.first) :
    table.charOf? c.toNat = some c := by
  rw [Page.charOf?, if_pos h, Char.ofNat_toNat]

/-- The characters from the bracket to the brace. -/
def upperAscii : List Char :=
  [']', '^', '_', '\x60', 'a', 'b', 'c', 'd', 'e', 'f', 'g', 'h', 'i', 'j', 'k', 'l', 'm', 'n',
    'o', 'p', 'q', 'r', 's', 't', 'u', 'v', 'w', 'x', 'y', 'z', '\x7b', '|', '\x7d']

/-- A page that puts a sign of its own in the place of the backslash, and goes on as ASCII
does until the tilde. -/
def Page.IsNational (table : Page) : Prop :=
  table.first = 0x5c ∧ ∃ sign rest, table.cells.toList = sign :: (upperAscii ++ rest)

set_option maxRecDepth 2000 in
theorem Page.isNational_japanese : Page.japanese.IsNational :=
  ⟨rfl, _, _, String.toList_append.trans (congrArg (· ++ _) String.toList_ofList)⟩

theorem Page.isNational_japaneseRoman : Page.japaneseRoman.IsNational :=
  ⟨rfl, _, _, String.toList_ofList⟩

/-- A national page has signs of its own only in the places of the backslash and from the tilde
on. -/
theorem Page.charOf?_of_isNational {table : Page} (h : table.IsNational) {c : Char}
    (hc : c.toNat < 0x7e) (hsign : c ≠ '\\') : table.charOf? c.toNat = some c := by
  obtain ⟨hfirst, sign, rest, hcells⟩ := h
  have hne : c.toNat ≠ 0x5c := fun heq => hsign (Char.toNat_inj.mp heq)
  by_cases hlow : c.toNat < 0x5c
  · exact Page.charOf?_of_lt (hfirst ▸ hlow)
  · -- The place among the characters after the sign of the page.
    obtain ⟨place, hplace⟩ : ∃ place : Fin 33, c.toNat = 0x5d + place.val :=
      ⟨⟨c.toNat - 0x5d, by omega⟩, by simp only; omega⟩
    have hchar : ∀ place : Fin 33, upperAscii[place.val]? = some (Char.ofNat (0x5d + place.val))
        ∧ Char.ofNat (0x5d + place.val) ≠ Grid.vacant := by
      decide
    obtain ⟨hat, hfilled⟩ := hchar place
    have hlength : place.val < upperAscii.length := place.isLt
    rw [Page.charOf?, hfirst, if_neg hlow, Grid.charAt?, hcells,
      show c.toNat - 0x5c = place.val + 1 by omega, List.getElem?_cons_succ,
      List.getElem?_append_left hlength, hat, ← hplace, Char.ofNat_toNat]
    rw [← hplace, Char.ofNat_toNat] at hfilled
    exact Option.filter_eq_some_iff.mpr ⟨rfl, bne_iff_ne.mpr hfilled⟩

/-- Every page agrees with ASCII up to the tilde, but for the backslash. -/
theorem Page.charOf?_of_mem {table : Page} (h : table ∈ Page.all) {c : Char}
    (hc : c.toNat < 0x7e) (hsign : c ≠ '\\') : table.charOf? c.toNat = some c := by
  have hwide : ∀ table ∈ Page.settled ++ Page.unsettled, 0x80 ≤ table.first := by
    decide
  simp only [Page.all, List.mem_cons] at h
  rcases h with rfl | rfl | h
  · exact charOf?_of_isNational isNational_japanese hc hsign
  · exact charOf?_of_isNational isNational_japaneseRoman hc hsign
  · exact charOf?_of_lt (Nat.lt_of_lt_of_le (Nat.lt_trans hc (by decide)) (hwide table h))

namespace Charset

variable {charset : Charset}

theorem reread_untabulated (text : List Char) :
    untabulated.reread text = if isPlain text then some text else none :=
  rfl

/-- In an encoding that is not listed only plain texts are read. -/
theorem reread_untabulated_iff {text read : List Char} :
    untabulated.reread text = some read ↔ isPlain text = true ∧ text = read := by
  rw [reread_untabulated]
  cases isPlain text <;> simp

/-- Only the end of a text can be held back. -/
theorem isPlain_append {before : List Char} (h : isPlain before = true) (after : List Char) :
    isPlain (before ++ after) = isPlain after := by
  cases after with
  | nil => rw [List.append_nil, h]; rfl
  | cons c rest =>
    have hshared := (Bool.and_eq_true_iff.mp h).1
    have hlast : (before ++ c :: rest).getLast? = (c :: rest).getLast? := by
      rw [List.getLast?_append, List.getLast?_cons, Option.some_or]
    rw [isPlain, isPlain, List.all_append, hshared, hlast, Bool.true_and]

/-- What a text is read as begins with what its beginning is read as. -/
theorem reread_append {before text : List Char} (h : charset.reread before = some text)
    (after : List Char) :
    charset.reread (before ++ after) = (charset.reread after).map (text ++ ·) := by
  have hbytes := bytesOf_append before after
  cases charset with
  | utf8 =>
    obtain rfl := Option.some.inj h
    rfl
  | shifted =>
    change Shifted.decodeFrom none (bytesOf (before ++ after)) = _
    rw [hbytes]
    exact Shifted.decodeFrom_append h _
  | page table =>
    change table.decode (bytesOf (before ++ after)) = _
    rw [hbytes]
    exact Page.decode_append h _
  | double set =>
    change set.decode (bytesOf (before ++ after)) = _
    rw [hbytes]
    exact DoubleByte.decode_append h _
  | untabulated =>
    obtain ⟨hplain, rfl⟩ := reread_untabulated_iff.mp h
    rw [reread_untabulated, reread_untabulated, isPlain_append hplain]
    cases isPlain after <;> rfl

theorem reread_nil : charset.reread [] = some [] := by
  cases charset <;> rfl

/-! ## What is kept -/

/-- Whether an encoding reads the bytes of a character as that character. -/
def keeps (charset : Charset) (c : Char) : Bool :=
  charset.reread [c] == some [c]

/-- A text all of whose characters an encoding keeps reads as itself. -/
theorem reread_of_keeps {text : List Char} (h : ∀ c ∈ text, charset.keeps c = true) :
    charset.reread text = some text := by
  induction text with
  | nil => exact reread_nil
  | cons c rest ih =>
    rw [List.forall_mem_cons] at h
    have hc := beq_iff_eq.mp h.1
    rw [← List.singleton_append, reread_append hc, ih h.2]
    rfl

/-- The characters that encodings share are in ASCII. -/
theorem ascii_of_isShared {c : Char} (h : isShared c = true) : c.toNat < 0x7e := by
  simp only [isShared, Bool.or_eq_true, Bool.and_eq_true, decide_eq_true_eq] at h
  rcases h with ((rfl | rfl) | rfl) | h
  · decide
  · decide
  · decide
  · omega

theorem keeps_page {table : Page} {c : Char} (hc : c.toNat < 0x80)
    (h : table.charOf? c.toNat = some c) : (page table).keeps c = true := by
  have hread : (page table).reread [c] = table.decode (bytesOf [c]) := rfl
  rw [keeps, hread, bytesOf_ascii hc, Page.decode, List.mapM_cons, h]
  exact beq_self_eq_true _

theorem keeps_double {set : DoubleByte} {c : Char} (hc : c.toNat < 0x80)
    (h : set.single? c.toNat = some c) : (double set).keeps c = true := by
  have hread : (double set).reread [c] = set.decode (bytesOf [c]) := rfl
  rw [keeps, hread, bytesOf_ascii hc, DoubleByte.decode.eq_def]
  simp only [h]
  exact beq_self_eq_true _

/-- Runs of digits keep the shared characters: none of them opens a run. -/
theorem keeps_shifted {c : Char} (hc : isShared c = true) : shifted.keeps c = true := by
  have hascii := Nat.lt_trans (ascii_of_isShared hc) (by decide : 0x7e < 0x80)
  have hdirect : c.toNat ≠ 0x2b ∧ Shifted.isDirect c.toNat = true := by
    simp only [isShared, Bool.or_eq_true, Bool.and_eq_true, decide_eq_true_eq] at hc
    rcases hc with ((rfl | rfl) | rfl) | ⟨⟨⟨hlow, hhigh⟩, hplus⟩, hsign⟩
    · decide
    · decide
    · decide
    · have hplus : c.toNat ≠ '+'.toNat := mt Char.toNat_inj.mp hplus
      have hsign : c.toNat ≠ '\\'.toNat := mt Char.toNat_inj.mp hsign
      rw [show '+'.toNat = 0x2b from rfl] at hplus
      rw [show '\\'.toNat = 0x5c from rfl] at hsign
      simp only [Shifted.isDirect, Bool.or_eq_true, Bool.and_eq_true, decide_eq_true_eq]
      omega
  have hread : shifted.reread [c] = Shifted.decodeFrom none (bytesOf [c]) := rfl
  rw [keeps, hread, bytesOf_ascii hascii, Shifted.decodeFrom_direct hdirect.1, Shifted.decodeOne,
    if_pos hdirect.2, Char.ofNat_toNat]
  exact beq_self_eq_true _

/-- The encodings that a name may stand for. -/
theorem cases_of_ofName? {name : List Char} (h : ofName? name = some charset) :
    charset = .utf8 ∨ charset = .shifted ∨ charset = .untabulated
      ∨ (∃ table ∈ Page.all, charset = .page table) ∨ ∃ set, charset = .double set := by
  rw [ofName?] at h
  split_ifs at h
  · exact .inl (Option.some.inj h).symm
  · obtain ⟨entry, hfind, rfl⟩ := Option.map_eq_some_iff.mp h
    have hentry := List.mem_of_find?_eq_some hfind
    simp only [named, List.mem_append, List.mem_cons, List.mem_map] at hentry
    rcases hentry with (rfl | rfl | ⟨table, htable, rfl⟩) | ⟨set, -, rfl⟩
    · exact .inr (.inl rfl)
    · exact .inr (.inr (.inl rfl))
    · exact .inr (.inr (.inr (.inl ⟨table, htable, rfl⟩)))
    · exact .inr (.inr (.inr (.inr ⟨set, rfl⟩)))

/-- The encoding of a name keeps the characters that all share, if its characters are listed. -/
theorem keeps_of_isShared {name : List Char} (h : ofName? name = some charset)
    (hlisted : charset ≠ .untabulated) {c : Char} (hc : isShared c = true) :
    charset.keeps c = true := by
  have hlt := ascii_of_isShared hc
  have hascii : c.toNat < 0x80 := Nat.lt_trans hlt (by decide)
  have hsign : c ≠ '\\' := by
    rintro rfl
    exact absurd hc (by decide)
  rcases cases_of_ofName? h with rfl | rfl | rfl | ⟨table, htable, rfl⟩ | ⟨set, rfl⟩
  · exact beq_self_eq_true _
  · exact keeps_shifted hc
  · exact absurd rfl hlisted
  · exact keeps_page hascii (Page.charOf?_of_mem htable hlt hsign)
  · have hpage : Page.ascii.charOf? c.toNat = some c := Page.charOf?_of_lt hascii
    refine keeps_double hascii ?_
    cases set with
    | shiftJis => exact Page.charOf?_of_isNational Page.isNational_japanese hlt hsign
    | cp932 => rw [DoubleByte.single?, if_pos hascii, Char.ofNat_toNat]
    | cp936 => rw [DoubleByte.single?, if_neg (Nat.ne_of_lt hascii), hpage]
    | _ => exact hpage

/-- The encoding of a name keeps a text of the characters that all share. -/
theorem reread_of_isShared {name text : List Char} (h : ofName? name = some charset)
    (hshared : ∀ c ∈ text, isShared c = true)
    (hplain : charset = .untabulated → isPlain text = true) :
    charset.reread text = some text := by
  by_cases hlisted : charset = .untabulated
  · rw [hlisted, reread_untabulated_iff]
    exact ⟨hplain hlisted, rfl⟩
  · exact reread_of_keeps fun c hc => keeps_of_isShared h hlisted (hshared c hc)

/-! ## What is lost -/

/-- A page makes as many characters as there are bytes. -/
theorem length_of_reread_page {table : Page} {text read : List Char}
    (h : (page table).reread text = some read) : read.length = (bytesOf text).length := by
  change (bytesOf text).mapM table.charOf? = some read at h
  generalize bytesOf text = bytes at h
  induction bytes generalizing read with
  | nil =>
    obtain rfl := Option.some.inj h
    rfl
  | cons byte rest ih =>
    rw [List.mapM_cons] at h
    obtain ⟨c, -, h⟩ := Option.bind_eq_some_iff.mp h
    obtain ⟨cs, hrest, heq⟩ := Option.bind_eq_some_iff.mp h
    obtain rfl := Option.some.inj heq
    rw [List.length_cons, List.length_cons, ih hrest]

/-- A text with a character outside ASCII is none in runs of digits. -/
theorem reread_shifted {text : List Char} {c : Char} (hc : c ∈ text) (h : 0x80 ≤ c.toNat) :
    shifted.reread text = none := by
  cases hread : shifted.reread text with
  | none => rfl
  | some read =>
    obtain ⟨before, after, rfl⟩ := List.append_of_mem hc
    obtain ⟨byte, hbyte, hlarge⟩ := exists_mem_bytesOf h
    have hmem : byte ∈ bytesOf (before ++ c :: after) := by
      rw [bytesOf_append, bytesOf_cons]
      exact List.mem_append_right _ (List.mem_append_left _ hbyte)
    exact absurd (Shifted.lt_of_decodeFrom hread byte hmem) (Nat.not_lt.mpr hlarge)

/-- A text that is kept is in ASCII, where bytes are read one by one or in runs of digits. -/
theorem ascii_of_reread {text : List Char} (h : charset.reread text = some text)
    (hbytes : charset = .shifted ∨ ∃ table, charset = .page table) :
    ∀ c ∈ text, c.toNat < 0x80 := by
  rcases hbytes with rfl | ⟨table, rfl⟩
  · intro c hc
    by_contra hlarge
    rw [reread_shifted hc (Nat.not_lt.mp hlarge)] at h
    cases h
  · exact ascii_of_length_bytesOf (length_of_reread_page h).symm

/-- A page that has ASCII before its cells keeps a text exactly if the text is in ASCII. -/
theorem reread_page_iff {table : Page} (hfirst : 0x80 ≤ table.first) {text : List Char} :
    (page table).reread text = some text ↔ ∀ c ∈ text, c.toNat < 0x80 := by
  constructor
  · exact fun h => ascii_of_reread h (.inr ⟨table, rfl⟩)
  · exact fun h => reread_of_keeps fun c hc =>
      keeps_page (h c hc) (Page.charOf?_of_lt (Nat.lt_of_lt_of_le (h c hc) hfirst))

end Charset

end SymbolDocs.Text
