/-
The declaration that may open a markup text: a version, an encoding and whether the
document stands alone.

A byte order mark at the start settles the encoding before the declaration is seen. The
declaration must be well formed all the same.
-/
import SymbolDocs.Markup.Lexeme
import SymbolDocs.Text.Charset

set_option autoImplicit false

namespace SymbolDocs.Markup

/-- What an opening declaration says. -/
structure Opening where
  /-- The declared encoding. -/
  charset : Option Text.Charset
  /-- Whether the document is declared free of declarations kept elsewhere. -/
  standalone : Bool
  deriving DecidableEq, Repr

/-- What the absence of an opening declaration says. -/
def Opening.absent : Opening :=
  { charset := none, standalone := false }

/-- The quoted value that follows a word and an equals sign. -/
def settingAt (s : List Char) : Except Fault (List Char × List Char) :=
  match skipSpace s with
  | '=' :: rest => literalAt .declaration (skipSpace rest)
  | _ => .error .declaration

/-- Whether a version is one of 1.x. -/
def isVersion (s : List Char) : Bool :=
  match s with
  | '1' :: '.' :: rest => rest.all Char.isDigit
  | _ => false

/-- Whether a text might name an encoding. -/
def isEncodingName (s : List Char) : Bool :=
  match s with
  | c :: rest =>
    c.isAlpha && rest.all fun d => d.isAlphanum || d = '.' || d = '_' || d = '-'
  | [] => false

/-- Reads a setting that may be left out: its value, if a gap and the word follow. -/
def optionalSettingAt (word : String) (s : List Char) :
    Except Fault (Option (List Char) × List Char) :=
  match after? word (skipSpace s) with
  | none => .ok (none, s)
  | some rest => do
    let _ ← afterGap .declaration s
    let (value, rest) ← settingAt rest
    return (some value, rest)

/-- The encoding that a setting asks for. Where the encoding is settled, any name will
do that might be one. -/
def charsetOf (settled : Bool) (setting : Option (List Char)) :
    Except Fault (Option Text.Charset) :=
  match setting with
  | none => .ok none
  | some name =>
    if !isEncodingName name then .error .declaration
    else if settled then .ok none
    else
      match Text.Charset.ofName? name with
      | some charset => .ok (some charset)
      | none => .error .unknownEncoding

/-- Whether a setting declares the document standalone. -/
def standaloneOf (setting : Option (List Char)) : Except Fault Bool :=
  match setting with
  | none => .ok false
  | some value =>
    if value = "yes".toList then .ok true
    else if value = "no".toList then .ok false
    else .error .declaration

/-- Reads the opening declaration from the gap after its first word. With `settled`
the encoding it asks for makes no difference. -/
def Opening.read (settled : Bool) (s : List Char) : Except Fault (Opening × List Char) := do
  let rest ← afterGap .declaration s
  match after? "version" rest with
  | none => .error .declaration
  | some rest =>
    let (version, rest) ← settingAt rest
    if !isVersion version then .error .declaration
    else
      let (encoding, rest) ← optionalSettingAt "encoding" rest
      let charset ← charsetOf settled encoding
      let (setting, rest) ← optionalSettingAt "standalone" rest
      let standalone ← standaloneOf setting
      match after? "?>" (skipSpace rest) with
      | some rest => return ({ charset := charset, standalone := standalone }, rest)
      | none => .error .declaration

/-- Reads the opening declaration of a text, if it has one. The word that begins it
must be followed by a gap, or it begins something else. -/
def Opening.ofText (settled : Bool) (text : List Char) : Except Fault (Opening × List Char) :=
  match after? "<?xml" text with
  | some (c :: rest) =>
    if isSpace c then Opening.read settled (c :: rest) else .ok (.absent, text)
  | _ => .ok (.absent, text)

end SymbolDocs.Markup
