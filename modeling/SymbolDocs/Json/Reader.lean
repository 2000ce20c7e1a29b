/-
Reading a JSON text, with the place of the first fault.

The grammar is the usual one with two liberties: the words NaN, Infinity and
-Infinity are numbers, and nothing is said about the names of an object being
distinct (a repeated one keeps its first place and its last value). Blanks are
space, tab, line feed and carriage return only. A fault is reported at the first
character that no longer fits; inside a text that is never closed it is reported
at the opening quote instead.

A reading step answers a value and the characters after it. A fault carries the
number of characters that were left where it occurred, from which the place in the
whole text is computed once, at the end.

A text is written in code units of sixteen bits, and an escape may write a surrogate
whose other half is missing. No character is that unit alone, and no output can hold it;
values hold a character in its place, of which it is left open which one it is.
-/
import SymbolDocs.Json.Value
import SymbolDocs.Text.Digit
import SymbolDocs.Text.Lines

set_option autoImplicit false

namespace SymbolDocs.Json

/-! ## Faults -/

/-- What is wrong with a text that is no JSON. -/
inductive Cause where
  | value
  | propertyName
  | colon
  | comma
  | unterminatedText
  | controlCharacter
  | escape
  | unicodeEscape
  | extraData
  | byteOrderMark
  /-- An integer has more digits than the reader converts. -/
  | tooManyDigits (count : Nat)
  /-- A list or, if `braced` holds, an object is nested more deeply than the reader
  follows. -/
  | tooDeep (braced : Bool)
  deriving DecidableEq, Repr

/-- A fault and its place. -/
structure Fault where
  cause : Cause
  position : Text.Position
  deriving DecidableEq, Repr

/-- The most digits that an integer may have. -/
def digitLimit : Nat := 4300

/-- The most lists and objects that may lie in one another. It stands for a limit of the
stack on which the reader runs. Whoever goes through a value on the same stack afterwards, as
the wording of a notice on it does, may be stopped a few levels earlier; that is left out. -/
def depthLimit : Nat := 990

/-- The wording of a cause, without a place. -/
def Cause.message : Cause → String
  | .value => "Expecting value"
  | .propertyName => "Expecting property name enclosed in double quotes"
  | .colon => "Expecting ':' delimiter"
  | .comma => "Expecting ',' delimiter"
  | .unterminatedText => "Unterminated string starting at"
  | .controlCharacter => "Invalid control character at"
  | .escape => "Invalid \\escape"
  | .unicodeEscape => "Invalid \\uXXXX escape"
  | .extraData => "Extra data"
  | .byteOrderMark => "Unexpected UTF-8 BOM (decode using utf-8-sig)"
  | .tooManyDigits count =>
    "Exceeds the limit (" ++ toString digitLimit
      ++ " digits) for integer string conversion: value has " ++ toString count
      ++ " digits; use sys.set_int_max_str_digits() to increase the limit"
  | .tooDeep braced =>
    "maximum recursion depth exceeded while decoding a JSON "
      ++ (if braced then "object" else "array") ++ " from a unicode string"

/-- Whether a cause is a limit of the reader and no fault of the text. -/
def Cause.isLimit : Cause → Bool
  | .tooManyDigits _ => true
  | .tooDeep _ => true
  | _ => false

/-- The wording of a fault. A limit is told without a place. -/
def Fault.message (f : Fault) : String :=
  if f.cause.isLimit then f.cause.message
  else f.cause.message ++ ": " ++ f.position.describe

/-- The answer of a reading step: a value and what follows it, or a cause and the
number of characters left at its place. -/
abbrev Step (α : Type) := Except (Cause × Nat) (α × List Char)

/-- Refuses the text at the start of `s`. -/
def refuse {α : Type} (cause : Cause) (s : List Char) : Step α :=
  .error (cause, s.length)

/-! ## Blanks and texts -/

def isGap (c : Char) : Bool :=
  c = ' ' || c = '\t' || c = '\n' || c = '\r'

def skipGaps (s : List Char) : List Char :=
  s.dropWhile isGap

/-- The character that a one-letter escape stands for. -/
def simpleEscape? : Char → Option Char
  | '"' => some '"'
  | '\\' => some '\\'
  | '/' => some '/'
  | 'b' => some '\x08'
  | 'f' => some '\x0c'
  | 'n' => some '\n'
  | 'r' => some '\r'
  | 't' => some '\t'
  | _ => none

/-- The number that four hexadecimal digits write. -/
def hexFour? (a b c d : Char) : Option Nat := do
  let a ← Text.hexValue? a
  let b ← Text.hexValue? b
  let c ← Text.hexValue? c
  let d ← Text.hexValue? d
  return ((a * 16 + b) * 16 + c) * 16 + d

def isHighSurrogate (n : Nat) : Bool :=
  0xD800 ≤ n && n ≤ 0xDBFF

def isLowSurrogate (n : Nat) : Bool :=
  0xDC00 ≤ n && n ≤ 0xDFFF

/-- The characters that a sequence of code units encodes. A high surrogate and a low one
after it make one character; a surrogate left alone has none, and `lone` stands for it. -/
def joinUnits (lone : Char) : List Nat → List Char
  | high :: low :: rest =>
    if isHighSurrogate high && isLowSurrogate low then
      Char.ofNat (0x10000 + (high - 0xD800) * 0x400 + (low - 0xDC00)) :: joinUnits lone rest
    else ofUnit high :: joinUnits lone (low :: rest)
  | [unit] => [ofUnit unit]
  | [] => []
where
  /-- The character of a code unit that stands alone. -/
  ofUnit (n : Nat) : Char :=
    if isHighSurrogate n || isLowSurrogate n then lone else Char.ofNat n

/-- Puts a code unit in front of those that were read. -/
def prepend (unit : Nat) (step : Step (List Nat)) : Step (List Nat) :=
  step.map fun p => (unit :: p.1, p.2)

/-- Reads the code units of a text up to its closing quote. `opening` is what is left
at the opening quote. The four digits of an escape must be
followed by at least one more character, or the escape itself is faulted. -/
def textBody (opening : List Char) : List Char → Step (List Nat)
  | [] => refuse .unterminatedText opening
  | '"' :: rest => .ok ([], rest)
  | '\\' :: 'u' :: a :: b :: c :: d :: rest =>
    match hexFour? a b c d with
    | none => refuse .unicodeEscape ('u' :: a :: b :: c :: d :: rest)
    | some unit =>
      if rest.isEmpty then refuse .unicodeEscape ['u', a, b, c, d]
      else prepend unit (textBody opening rest)
  | '\\' :: 'u' :: rest => refuse .unicodeEscape ('u' :: rest)
  | '\\' :: c :: rest =>
    match simpleEscape? c with
    | some d => prepend d.toNat (textBody opening rest)
    | none => refuse .escape ('\\' :: c :: rest)
  | ['\\'] => refuse .unterminatedText opening
  | c :: rest =>
    if c.toNat < 0x20 then refuse .controlCharacter (c :: rest)
    else prepend c.toNat (textBody opening rest)

/-- Reads a text whose opening quote is the first character of `s`. -/
def textAt (lone : Char) (s : List Char) : Step String :=
  (textBody s s.tail).map fun p => (String.ofList (joinUnits lone p.1), p.2)

/-! ## Numbers -/

/-- The value of a run of decimal digits. -/
def digitsValue (ds : List Char) : Nat :=
  ds.foldl (fun n c => n * 10 + (c.toNat - '0'.toNat)) 0

/-- The digits of an integer part: a zero alone, or a run that starts otherwise. -/
def integerDigits (s : List Char) : List Char :=
  match s with
  | '0' :: _ => ['0']
  | _ => s.takeWhile Char.isDigit

/-- The digits of a fraction, if `s` starts with a point and a digit. -/
def fractionDigits (s : List Char) : List Char :=
  match s with
  | '.' :: rest => rest.takeWhile Char.isDigit
  | _ => []

/-- Sign and digits of an exponent, if `s` starts with a whole one, and what
follows it. -/
def exponentPart? (s : List Char) : Option (Bool × List Char × List Char) :=
  let digits (negative : Bool) (t : List Char) : Option (Bool × List Char × List Char) :=
    match t.takeWhile Char.isDigit with
    | [] => none
    | ds => some (negative, ds, t.dropWhile Char.isDigit)
  match s with
  | c :: rest =>
    if c = 'e' || c = 'E' then
      match rest with
      | '-' :: more => digits true more
      | '+' :: more => digits false more
      | more => digits false more
    else none
  | [] => none

/-- Reads the longest number that starts at `s`, whose sign has been taken off. -/
def numberAfterSign (negative : Bool) (start s : List Char) : Step Json :=
  let whole := integerDigits s
  if whole.isEmpty then refuse .value start
  else
    let rest := s.drop whole.length
    let fraction := fractionDigits rest
    let rest := if fraction.isEmpty then rest else rest.drop (fraction.length + 1)
    let decimal (exponent : Int) : Json :=
      .number (Binary64.ofDecimal negative (digitsValue (whole ++ fraction))
        (exponent - fraction.length))
    match exponentPart? rest with
    | some (down, ds, rest) =>
      let size : Int := digitsValue ds
      .ok (decimal (if down then -size else size), rest)
    | none =>
      if !fraction.isEmpty then .ok (decimal 0, rest)
      else if digitLimit < whole.length then refuse (.tooManyDigits whole.length) start
      else
        let size : Int := digitsValue whole
        .ok (.integer (if negative then -size else size), rest)

/-- The words that are values, with the values they stand for. -/
def words : List (List Char × Json) :=
  [("null".toList, .null), ("true".toList, .bool true), ("false".toList, .bool false),
   ("NaN".toList, .number Binary64.notANumber),
   ("Infinity".toList, .number (Binary64.infinity false)),
   ("-Infinity".toList, .number (Binary64.infinity true))]

/-- The word that `s` starts with, and what follows it. -/
def word? (s : List Char) : Option (Json × List Char) :=
  words.findSome? fun w => (w.1.isPrefixOf? s).map fun rest => (w.2, rest)

/-- Reads a word or a number. -/
def scalar (s : List Char) : Step Json :=
  match word? s with
  | some found => .ok found
  | none =>
    match s with
    | '-' :: rest => numberAfterSign true s rest
    | _ => numberAfterSign false s s

/-! ## Values -/

mutual

/-- Reads the value that starts at `s`. Up to `room` more lists and objects may lie in
one another. Of two calls, one inside the other, at least one takes a character, so
`fuel` beyond twice the length of the text is never used up. -/
def valueAt (lone : Char) (fuel room : Nat) (s : List Char) : Step Json :=
  match fuel with
  | 0 => refuse .value s
  | fuel + 1 =>
    match s, room with
    | '"' :: _, _ => (textAt lone s).map fun p => (.string p.1, p.2)
    | '[' :: _, 0 => refuse (.tooDeep false) s
    | '[' :: rest, room + 1 =>
      match skipGaps rest with
      | ']' :: rest => .ok (.array [], rest)
      | rest => (itemsAt lone fuel room rest).map fun p => (.array p.1, p.2)
    | '\x7b' :: _, 0 => refuse (.tooDeep true) s
    | '\x7b' :: rest, room + 1 =>
      match skipGaps rest with
      | '\x7d' :: rest => .ok (.object [], rest)
      | rest => (membersAt lone fuel room rest).map fun p => (ofMembers p.1, p.2)
    | _, _ => scalar s

/-- Reads the items of a list from the first one on, and the closing bracket. -/
def itemsAt (lone : Char) (fuel room : Nat) (s : List Char) :
    Except (Cause × Nat) (List Json × List Char) :=
  match fuel with
  | 0 => refuse .value s
  | fuel + 1 => do
    let (item, rest) ← valueAt lone fuel room s
    match skipGaps rest with
    | ']' :: rest => return ([item], rest)
    | ',' :: rest =>
      let (items, rest) ← itemsAt lone fuel room (skipGaps rest)
      return (item :: items, rest)
    | rest => refuse .comma rest

/-- Reads the members of an object from the first one on, and the closing brace. -/
def membersAt (lone : Char) (fuel room : Nat) (s : List Char) :
    Except (Cause × Nat) (List (String × Json) × List Char) :=
  match fuel with
  | 0 => refuse .propertyName s
  | fuel + 1 =>
    match s with
    | '"' :: _ => do
      let (name, rest) ← textAt lone s
      match skipGaps rest with
      | ':' :: rest =>
        let (value, rest) ← valueAt lone fuel room (skipGaps rest)
        match skipGaps rest with
        | '\x7d' :: rest => return ([(name, value)], rest)
        | ',' :: rest =>
          let (members, rest) ← membersAt lone fuel room (skipGaps rest)
          return ((name, value) :: members, rest)
        | rest => refuse .comma rest
      | rest => refuse .colon rest
    | _ => refuse .propertyName s

end

/-! ## Whole texts -/

/-- Reads a whole text: one value, with nothing but blanks around it. -/
def document (lone : Char) (text : List Char) : Except (Cause × Nat) Json :=
  match text with
  | '\uFEFF' :: _ => .error (.byteOrderMark, text.length)
  | _ => do
    let (value, rest) ← valueAt lone (2 * text.length + 1) depthLimit (skipGaps text)
    match skipGaps rest with
    | [] => return value
    | rest => .error (.extraData, rest.length)

/-- The value that a text writes, or the first fault with its place. Where a text in it
holds a surrogate that is left alone, the value holds `lone`. -/
def parseWith (lone : Char) (text : List Char) : Except Fault Json :=
  (document lone text).mapError fun p =>
    { cause := p.1, position := Text.Position.ofOffset text (text.length - p.2) }

/-- What stands for a surrogate that is left alone: no markup may hold it, as none may hold
the surrogate. -/
def standIn : Char := '\uFFFF'

/-- The value that a text writes, or the first fault with its place. -/
def parse (text : List Char) : Except Fault Json :=
  parseWith standIn text

end SymbolDocs.Json
