/-
Encodings in which some characters take two bytes.

A byte that stands for a character of its own is read as that. Any other byte is the
first of a pair, and the pair is a place in a grid: each byte is turned into its
position among the bytes that may stand where it stands, and the two positions are a
row and a column. What one encoding has beyond another is a grid of its own, or a run
of code points in order. One of them announces a pair from a second grid by a byte
before it.

Those who read these encodings agree on most pairs but not on all: they differ in a
few signs, and in what they make of pairs that are left free.
-/
import SymbolDocs.Text.Charset.Japanese
import SymbolDocs.Text.Charset.Korean
import SymbolDocs.Text.Charset.Page
import SymbolDocs.Text.Charset.SimplifiedChinese
import SymbolDocs.Text.Charset.TraditionalChinese

set_option autoImplicit false

namespace SymbolDocs.Text

/-- An encoding of characters as single bytes and as pairs. -/
inductive DoubleByte where
  | shiftJis
  | cp932
  | eucJp
  | eucCn
  | gbk
  | cp936
  | gb18030
  | eucKr
  | cp949
  | big5
  | cp950
  deriving DecidableEq, Repr

namespace DoubleByte

/-- All of them. -/
def all : List DoubleByte :=
  [.shiftJis, .cp932, .eucJp, .eucCn, .gbk, .cp936, .gb18030, .eucKr, .cp949, .big5, .cp950]

/-- The names of each, in lowercase. -/
def names : DoubleByte → List String
  | .shiftJis => ["shift_jis", "shift-jis", "sjis", "ms_kanji", "csshiftjis"]
  | .cp932 => ["cp932"]
  | .eucJp =>
    ["euc-jp", "eucjp", "extended_unix_code_packed_format_for_japanese",
      "cseucpkdfmtjapanese"]
  | .eucCn => ["gb2312", "euc-cn", "euccn", "cn-gb", "csgb2312"]
  | .gbk => ["gbk"]
  | .cp936 => ["cp936", "ms936", "windows-936"]
  | .gb18030 => ["gb18030", "csgb18030"]
  | .eucKr => ["euc-kr", "euckr", "cseuckr"]
  | .cp949 => ["cp949", "uhc"]
  | .big5 => ["big5", "big-5", "big-five", "bigfive", "cn-big5", "csbig5"]
  | .cp950 => ["cp950"]

/-! ## Positions -/

/-- The position of a byte among the bytes of some ranges, taken one after another. -/
def position? (byte : Nat) : List (Nat × Nat) → Option Nat
  | [] => none
  | (low, high) :: rest =>
    if low ≤ byte ∧ byte ≤ high then some (byte - low)
    else (position? byte rest).map (· + (high + 1 - low))

/-- The places of the bytes from `0xa1` on. -/
def upper : List (Nat × Nat) := [(0xa1, 0xfe)]

/-- The character of a number of places after the first one for private use. -/
def privateUse (first count : Nat) : Char :=
  Char.ofNat (first + count)

/-- The character in a grid at two bytes from `0xa1` on. -/
def upperCell? (grid : Grid) (lead trail : Nat) : Option Char := do
  let row ← position? lead upper
  let column ← position? trail upper
  grid.cell? row column

/-! ## Japanese -/

/-- The narrow letter of a byte. -/
def narrow? (byte : Nat) : Option Char :=
  (position? byte [(0xa1, 0xdf)]).map fun n => Char.ofNat (0xff61 + n)

/-- The trailing bytes of a pair that covers two rows. -/
def shiftedTrail : List (Nat × Nat) := [(0x40, 0x7e), (0x80, 0xfc)]

/-- The row and the column of a pair whose first byte stands for two rows. -/
def shifted? (lead trail : Nat) : Option (Nat × Nat) := do
  let double ← position? lead [(0x81, 0x9f), (0xe0, 0xef)]
  let place ← position? trail shiftedTrail
  return (2 * double + place / 94, place % 94)

/-- The character for private use of a pair. -/
def shiftedPrivate? (lead trail : Nat) : Option Char := do
  let double ← position? lead [(0xf0, 0xf9)]
  let place ← position? trail shiftedTrail
  return privateUse 0xe000 (188 * double + place)

/-- The vendor's choice where a character has two likely forms. -/
def vendorForms : List ((Nat × Nat) × Char) :=
  [((0, 32), '～'), ((0, 33), '∥'), ((0, 60), '－'), ((0, 80), '￠'), ((0, 81), '￡'),
   ((1, 43), '￢')]

/-- The character of a vendor at a row and a column. -/
def vendorCell? (row column : Nat) : Option Char :=
  vendorForms.lookup (row, column)
    <|> ((Grid.japaneseAdded.lookup row).bind fun cells => Grid.charAt? cells column)
    <|> Grid.japanese.cell? row column

/-- The character at two bytes of the supplementary standard. -/
def supplementary? (lead trail : Nat) : Option Char := do
  let row ← position? lead upper
  let column ← position? trail upper
  let cells ← Grid.japaneseSupplement.lookup row
  Grid.charAt? cells column

/-! ## Chinese -/

/-- The trailing bytes of the lower part of a row. -/
def lowerTrail : List (Nat × Nat) := [(0x40, 0x7e), (0x80, 0xa0)]

/-- The character of a pair in the extended set. -/
def extendedChinese? (lead trail : Nat) : Option Char := do
  let row ← position? lead [(0x81, 0xfe)]
  ((position? trail lowerTrail).bind fun n => Grid.chineseLower.cell? row n)
    <|> (position? trail upper).bind fun n => Grid.chineseUpper.cell? row n

/-- Whether a pair of the upper parts came with the extended set. -/
def isLaterChinese (lead trail : Nat) : Bool :=
  (lead == 0xa2 && trail ≤ 0xaa) || (lead == 0xa6 && 0xe0 ≤ trail)
    || (lead == 0xa8 && 0xbb ≤ trail && trail ≤ 0xc0)

/-- The character of a pair in the older set. -/
def olderChinese? (lead trail : Nat) : Option Char :=
  if lead = 0xa1 ∧ trail = 0xa4 then some '・'
  else if lead = 0xa1 ∧ trail = 0xaa then some '―'
  else if lead < 0xa1 ∨ trail < 0xa1 ∨ isLaterChinese lead trail then none
  else extendedChinese? lead trail

/-- The character for private use of a pair that the extended set leaves free. -/
def privateChinese? (lead trail : Nat) : Option Char :=
  match position? lead [(0xaa, 0xaf), (0xf8, 0xfe)], position? trail upper with
  | some row, some column => some (privateUse 0xe000 (94 * row + column))
  | _, _ =>
    match position? lead [(0xa1, 0xa7)], position? trail lowerTrail with
    | some row, some column => some (privateUse 0xe4c6 (96 * row + column))
    | _, _ => none

/-- What the national standard added to the extended set. -/
def addedChinese? (lead trail : Nat) : Option Char :=
  match lead, trail with
  | 0xa2, 0xe3 => some '€'
  | 0xa8, 0xbc => some 'ḿ'
  | 0xa8, 0xbf => some 'ǹ'
  | 0xa9, 0x89 => some '〾'
  | 0xa9, _ => (position? trail [(0x8a, 0x95)]).map fun n => Char.ofNat (0x2ff0 + n)
  | _, _ => none

/-- The character of a pair in the traditional set. -/
def traditional? (lead trail : Nat) : Option Char := do
  let row ← position? lead upper
  ((position? trail [(0x40, 0x7e)]).bind fun n => Grid.traditionalLower.cell? row n)
    <|> (position? trail upper).bind fun n => Grid.traditionalUpper.cell? row n

/-- The vendor's forms in the first rows of the traditional set. -/
def vendorTraditional : List ((Nat × Nat) × Char) :=
  [((0xa1, 0x45), '‧'), ((0xa1, 0x4e), '﹑'), ((0xa1, 0xc2), '¯'), ((0xa1, 0xe3), '～'),
   ((0xa1, 0xf2), '⊕'), ((0xa1, 0xf3), '⊙'), ((0xa2, 0x41), '∕'), ((0xa2, 0x42), '﹨'),
   ((0xa2, 0x44), '￥'), ((0xa2, 0x46), '￠'), ((0xa2, 0x47), '￡'), ((0xa3, 0xe1), '€')]

/-- The characters that the vendor added at the end of the traditional set. -/
def vendorTail : String :=
  "碁銹裏墻恒粧嫺╔╦╗╠╬╣╚╩╝╒╤╕╞╪╡╘╧╛╓╥╖╟╫╢╙╨╜║═╭╮╰╯▓"

/-- The trailing bytes of a whole row. -/
def wholeTrail : List (Nat × Nat) := [(0x40, 0x7e), (0xa1, 0xfe)]

/-- The character for private use of a pair that the vendor leaves free. -/
def privateTraditional? (lead trail : Nat) : Option Char := do
  let place ← position? trail wholeTrail
  if 0x81 ≤ lead ∧ lead ≤ 0x8d then
    return privateUse 0xeeb8 (157 * (lead - 0x81) + place)
  else if 0x8e ≤ lead ∧ lead ≤ 0xa0 then
    return privateUse 0xe311 (157 * (lead - 0x8e) + place)
  else if (lead = 0xc6 ∧ 63 ≤ place) ∨ lead = 0xc7 ∨ lead = 0xc8 then
    return privateUse 0xf672 (157 * (lead - 0xc6) + place)
  else none

/-! ## Korean -/

/-- The syllable of a pair among those without a place in the rows. A lead byte that
the rows use has only the trailing bytes that they do not. -/
def furtherSyllable? (lead trail : Nat) : Option Char := do
  let column ← position? trail [(0x41, 0x5a), (0x61, 0x7a), (0x81, 0xfe)]
  let place ←
    if 0x81 ≤ lead ∧ lead ≤ 0xa0 then some (178 * (lead - 0x81) + column)
    else if 0xa1 ≤ lead ∧ lead ≤ 0xc6 ∧ trail ≤ 0xa0 then
      some (32 * 178 + 84 * (lead - 0xa1) + column)
    else none
  koreanRest[place]?.map Char.ofNat

/-! ## Bytes and pairs -/

/-- The character that a byte stands for alone. -/
def single? (set : DoubleByte) (byte : Nat) : Option Char :=
  match set with
  | .shiftJis => Page.japanese.charOf? byte
  | .cp932 => if byte < 0x80 then some (Char.ofNat byte) else narrow? byte
  | .cp936 => if byte = 0x80 then some '€' else Page.ascii.charOf? byte
  | _ => Page.ascii.charOf? byte

/-- The character that two bytes stand for together. -/
def pair? (set : DoubleByte) (lead trail : Nat) : Option Char :=
  match set with
  | .shiftJis =>
    ((shifted? lead trail).bind fun (row, column) => Grid.japanese.cell? row column)
      <|> shiftedPrivate? lead trail
  | .cp932 =>
    ((shifted? lead trail).bind fun (row, column) => vendorCell? row column)
      <|> shiftedPrivate? lead trail
  | .eucJp => if lead = 0x8e then narrow? trail else upperCell? Grid.japanese lead trail
  | .eucCn => olderChinese? lead trail
  | .gbk => extendedChinese? lead trail
  | .cp936 => extendedChinese? lead trail <|> privateChinese? lead trail
  | .gb18030 =>
    extendedChinese? lead trail <|> addedChinese? lead trail <|> privateChinese? lead trail
  | .eucKr => upperCell? Grid.korean lead trail
  | .cp949 =>
    if lead = 0xc9 then (position? trail upper).map (privateUse 0xe000)
    else upperCell? Grid.korean lead trail <|> furtherSyllable? lead trail
  | .big5 => traditional? lead trail
  | .cp950 =>
    vendorTraditional.lookup (lead, trail)
      <|> (if lead = 0xf9 then
        (position? trail [(0xd6, 0xfe)]).bind fun n => Grid.charAt? vendorTail n else none)
      <|> privateTraditional? lead trail
      <|> traditional? lead trail

/-- The character that three bytes stand for together. -/
def triple? (set : DoubleByte) (first lead trail : Nat) : Option Char :=
  match set with
  | .eucJp => if first = 0x8f then supplementary? lead trail else none
  | _ => none

/-- The characters of a run of bytes, unless some of them have none. -/
def decode (set : DoubleByte) : List Nat → Option (List Char)
  | [] => some []
  | byte :: rest =>
    match set.single? byte with
    | some c => (decode set rest).map (c :: ·)
    | none =>
      match rest with
      | [] => none
      | trail :: rest =>
        match set.pair? byte trail with
        | some c => (decode set rest).map (c :: ·)
        | none =>
          match rest with
          | [] => none
          | third :: rest =>
            match set.triple? byte trail third with
            | some c => (decode set rest).map (c :: ·)
            | none => none

end DoubleByte

end SymbolDocs.Text
