/-
Reading a whole markup text.

A text is read in this order: a byte order mark, the opening declaration, the
encoding it asks for, the characters, the tokens, the tree. Only then is it known
whether what was complained of on the way makes the text refused.
-/
import SymbolDocs.Markup.Item
import SymbolDocs.Markup.Opening

set_option autoImplicit false

namespace SymbolDocs.Markup

/-- The root element that tokens make, in a document of so many bytes. -/
def rootOf (standalone : Bool) (bytes : Nat) (tokens : List Token) : Except Fault Element := do
  let o ← (Outline.empty standalone bytes).takeAll tokens
  o.finish

/-- Reads the text after the opening declaration. -/
def readBody (standalone : Bool) (text : List Char) : Except Fault Element := do
  if !text.all isAllowed then .error .character
  else
    let tokens ← tokens text
    rootOf standalone (byteCount text) tokens

/-- The fault of a text that an encoding makes nothing of. -/
def Fault.ofCharset : Text.Charset → Fault
  | .untabulated => .untabulated
  | _ => .undecodable

/-- Reads a markup text: its root element, or the first fault. -/
def read (markup : List Char) : Except Fault Element := do
  let marked := markup.head? = some '\uFEFF'
  let (opening, rest) ← Opening.ofText marked (if marked then markup.tail else markup)
  let charset := opening.charset.getD .utf8
  match charset.reread rest with
  | some body => readBody opening.standalone body
  | none => .error (.ofCharset charset)

end SymbolDocs.Markup
