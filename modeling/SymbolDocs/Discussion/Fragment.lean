/-
Showing nodes: the Markdown fragment of a node, and the fragments of a sequence of
nodes, one at a time.

Every kind has its form. A node that was put together by hand may lack what its kind
promises; showing it is then a fault. Nodes read from markup never do.

A stream yields the fragments of its nodes in order and leaves out those without
one. It looks at no node before it is asked for a fragment, and at no more nodes than
it needs for the next one.
-/
import SymbolDocs.Discussion.Node
import SymbolDocs.Markdown
import SymbolDocs.Text.Quoted

set_option autoImplicit false

namespace SymbolDocs.Discussion

/-- Why a node cannot be shown. -/
inductive RenderFault where
  /-- A link or image does not begin with an element. -/
  | noFirstElement
  /-- The element that a link or image begins with lacks an attribute. -/
  | missingAttribute (name : String)
  deriving DecidableEq, Repr

/-- The wording of a fault. -/
def RenderFault.message : RenderFault → String
  | .noFirstElement => "'NoneType' object has no attribute 'attributes'"
  | .missingAttribute name => Text.quoted name

/-! ## Forms -/

/-- The texts of the children that have one which is not empty. -/
def childTexts (n : Node) : List String :=
  (n.children.filterMap (·.text)).filter fun t => !t.isEmpty

/-- A code listing: a line for each child with text, between fences. There are
fences even if there is no line. -/
def listing (n : Node) : String :=
  Markdown.codeBlock (String.intercalate "\n" (childTexts n)) ""

/-- A list: a bullet for each child with text, or nothing if no child has any. -/
def bullets? (n : Node) : Option String :=
  match childTexts n with
  | [] => none
  | texts => some (String.intercalate "\n" (texts.map Markdown.bullet))

/-- The attributes that describe an image, in the order in which they are asked; the
second is a spelling that occurs as well. -/
def alternativeAttributes : List String :=
  ["alt", "atl"]

/-- The description of an image. -/
def alternativeText (first : Node) : String :=
  (alternativeAttributes.findSome? first.attribute?).getD ""

/-- The value of an attribute that must be there. -/
def requireAttribute (first : Node) (name : String) : Except RenderFault String :=
  match first.attribute? name with
  | some value => .ok value
  | none => .error (.missingAttribute name)

/-- The element that a node must begin with. -/
def requireFirstElement (n : Node) : Except RenderFault Node :=
  match n.firstElement? with
  | some first => .ok first
  | none => .error .noFirstElement

/-- The fragment of a node, if it has one. A link without text shows the word for a
missing value. -/
def Node.render (n : Node) : Except RenderFault (Option String) :=
  match n.kind with
  | .passthrough => .ok (some n.description)
  | .codeListing => .ok (some (listing n))
  | .listBullet => .ok (bullets? n)
  | .text => .ok n.text
  | .link => do
    let first ← requireFirstElement n
    let url ← requireAttribute first targetAttribute
    return some (Markdown.link (n.text.getD "None") url)
  | .image => do
    let first ← requireFirstElement n
    let url ← requireAttribute first sourceAttribute
    return some (Markdown.image (alternativeText first) url)
  | .callout => .ok none
  | .wrapper => .ok (n.children.head?.map (·.description))

/-- The fragment of a node with an empty one left out. -/
def Node.fragment? (n : Node) : Except RenderFault (Option String) :=
  n.render.map fun f => f.filter fun t => !t.isEmpty

/-! ## Streams -/

/-- A sequence of nodes that is shown step by step: the nodes not yet looked at, and
the number of those that were. -/
structure Stream where
  pending : List Node
  consumed : Nat

/-- The answer of a step. -/
inductive Pull where
  | fragment (text : String)
  | finished
  | failed (fault : RenderFault)
  deriving DecidableEq, Repr

/-- A stream from which nothing was asked yet. -/
def Stream.ofNodes (nodes : List Node) : Stream :=
  { pending := nodes, consumed := 0 }

/-- Looks at nodes until one has a fragment. -/
def pullFrom (consumed : Nat) : List Node → Pull × Stream
  | [] => (.finished, { pending := [], consumed := consumed })
  | n :: rest =>
    match n.fragment? with
    | .ok (some text) => (.fragment text, { pending := rest, consumed := consumed + 1 })
    | .ok none => pullFrom (consumed + 1) rest
    -- A stream that failed yields nothing more, so the nodes left are given up.
    | .error fault => (.failed fault, { pending := [], consumed := consumed + 1 })

/-- Asks a stream for its next fragment. -/
def Stream.next (s : Stream) : Pull × Stream :=
  pullFrom s.consumed s.pending

/-- The answers to `count` requests in a row, each with the number of nodes looked at
up to then. -/
def Stream.pulls (s : Stream) : Nat → List (Pull × Nat)
  | 0 => []
  | count + 1 =>
    let (pull, rest) := s.next
    (pull, rest.consumed) :: rest.pulls count

/-- All fragments of a sequence of nodes, or the first fault. -/
def fragments (nodes : List Node) : Except RenderFault (List String) :=
  match nodes with
  | [] => .ok []
  | n :: rest => do
    let first ← n.fragment?
    let others ← fragments rest
    return first.toList ++ others

end SymbolDocs.Discussion
