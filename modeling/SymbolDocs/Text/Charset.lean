/-
Encodings of text as bytes, by name.

A text that arrives as characters is encoded as UTF-8, so an encoding that it declares
is applied to those bytes. UTF-8 gives the text back. Any other encoding takes the bytes
for what they are not, so that text outside ASCII comes out as other characters, or
comes out as none and is refused. Encodings in units wider than a byte are not among
those listed: they cannot be declared in bytes.

The characters of some encodings are not listed here. What they have in common with
ASCII is enough to read most markup; other texts in them are refused, for a reason of
its own that says nothing of their readers.
-/
import SymbolDocs.Text.Charset.DoubleByte
import SymbolDocs.Text.Charset.Page
import SymbolDocs.Text.Charset.Shifted
import SymbolDocs.Text.Utf8

set_option autoImplicit false

namespace SymbolDocs.Text

/-- An encoding of text as bytes. -/
inductive Charset where
  | utf8
  /-- Runs of digits between characters of ASCII. -/
  | shifted
  | page (table : Page)
  | double (set : DoubleByte)
  /-- One whose characters are not listed here. -/
  | untabulated
  deriving DecidableEq, Repr

namespace Charset

/-- The names of encodings whose characters are not listed here: they shift between sets,
compose characters of several, or have sets of their own. -/
def untabulatedNames : List String :=
  ["iso-2022-jp", "csiso2022jp", "iso-2022-jp-1", "iso-2022-jp-2", "csiso2022jp2",
    "iso-2022-jp-ms", "cp50221", "iso-2022-kr", "csiso2022kr", "iso-2022-cn", "csiso2022cn",
    "iso-2022-cn-ext", "hz", "hz-gb-2312", "euc-tw", "euctw", "cseuctw", "big5-hkscs",
    "big5hkscs", "johab", "cp1361", "windows-1258", "cp1258", "viscii", "viscii1.1-1",
    "csviscii"]

/-- The encodings other than UTF-8, each with its names. -/
def named : List (List String × Charset) :=
  (["utf-7", "unicode-1-1-utf-7", "csunicode11utf7"], .shifted)
    :: (untabulatedNames, .untabulated)
    :: (Page.all.map fun table => (table.names, Charset.page table))
    ++ DoubleByte.all.map fun set => (set.names, Charset.double set)

/-- The encoding of a name, in whatever case it is written. -/
def ofName? (name : List Char) : Option Charset :=
  let lower := String.ofList (name.map Char.toLower)
  if lower = "utf-8" ∨ lower = "utf8" then some .utf8
  else (named.find? fun entry => entry.1.contains lower).map Prod.snd

/-- The characters of ASCII that all encodings share: those that markup may hold, but for the
plus sign, the backslash, the tilde and the character after it. -/
def isShared (c : Char) : Bool :=
  c = '\t' || c = '\n' || c = '\r'
    || (0x20 ≤ c.toNat && c.toNat < 0x7e && c ≠ '+' && c ≠ '\\')

/-- Whether a text is itself in every encoding. Besides sharing its characters, it must not
end with a letter, or with a sign behind the letters: an encoding that composes characters
holds that back until it knows what follows. -/
def isPlain (text : List Char) : Bool :=
  text.all isShared && text.getLast?.all fun c => c.toNat < 'A'.toNat

/-- The characters that the UTF-8 bytes of a text stand for in an encoding, if it has
them all and they are listed. -/
def reread (charset : Charset) (text : List Char) : Option (List Char) :=
  let bytes := (Utf8.encode text).map UInt8.toNat
  match charset with
  | .utf8 => some text
  | .shifted => Shifted.decode bytes
  | .page table => table.decode bytes
  | .double set => set.decode bytes
  | .untabulated => if isPlain text then some text else none

/-- In UTF-8 a text reads as itself. -/
theorem reread_utf8 (text : List Char) : Charset.utf8.reread text = some text := rfl

/-- Whether it is settled what each byte stands for. Those who read the other encodings differ
in some places, or their characters are not listed. -/
def isSettled : Charset → Bool
  | .utf8 => true
  | .page table => Page.settled.contains table
  | _ => false

end Charset

end SymbolDocs.Text
