/-
Nodes of a discussion, and the kind that decides how each is shown.

A node is an element, a run of text, a comment, an instruction or a reference of the
discussion markup, seen through the few things that showing it needs: its name, its
own written form, its text, its attributes and its children. Runs of text that hold
only blanks are layout and make no node; they still count as text of the elements
around them. Every node carries its kind, which depends on its name and on its first
child alone.
-/
import SymbolDocs.Discussion.Key
import SymbolDocs.Markup.Document
import SymbolDocs.Markup.Print
import SymbolDocs.Text.Blank
import SymbolDocs.Text.Quoted

set_option autoImplicit false

namespace SymbolDocs.Discussion

/-- How a node is shown. -/
inductive Kind where
  /-- By its written form: the node is no block of a discussion. -/
  | passthrough
  /-- As a fence with the texts of its children as lines. -/
  | codeListing
  /-- As one bullet for each child with text. -/
  | listBullet
  /-- By its text: it does not begin with an element. -/
  | text
  /-- As a link: it begins with an element that links. -/
  | link
  /-- As an image: it begins with an element that shows an image. -/
  | image
  /-- Not at all in the running text: callouts have their own sections. -/
  | callout
  /-- By the written form of its first child. -/
  | wrapper
  deriving DecidableEq, Repr

namespace Kind

/-- All kinds, in the order of the declaration. -/
def all : List Kind :=
  [.passthrough, .codeListing, .listBullet, .text, .link, .image, .callout, .wrapper]

/-- The name of a kind. -/
def name : Kind → String
  | .passthrough => "passthrough"
  | .codeListing => "code_listing"
  | .listBullet => "list_bullet"
  | .text => "text"
  | .link => "link"
  | .image => "image"
  | .callout => "callout"
  | .wrapper => "wrapper"

/-- The words of the kind in capitals, as listings of all kinds call it. -/
def constant (k : Kind) : String :=
  String.ofList (k.name.toList.map Char.toUpper)

/-- The kind of a name. -/
def ofName? (name : String) : Option Kind :=
  all.find? fun k => k.name = name

end Kind

/-- A node of a discussion. Only elements have a name and attributes, but the type
does not insist: nodes may also be put together by hand, and showing one that does
not hang together is refused (see `Node.render`). -/
structure Node where
  /-- The local name of an element. -/
  name : Option String
  /-- The written form of the node by itself. -/
  description : String
  /-- The text inside the node, markup left out. -/
  text : Option String
  isElement : Bool
  /-- The attributes of an element under their expanded names. -/
  attributes : List (String × String)
  children : List Node
  kind : Kind
  deriving BEq

/-- The value of an attribute. -/
def Node.attribute? (n : Node) (name : String) : Option String :=
  n.attributes.lookup name

/-- The first of some nodes, if that one is an element. -/
def firstElement? (nodes : List Node) : Option Node :=
  nodes.head?.filter (·.isElement)

/-- The first child of a node, if that one is an element. -/
def Node.firstElement? (n : Node) : Option Node :=
  Discussion.firstElement? n.children

/-! ## Kinds -/

/-- The name of elements that link, and the attribute with the target. -/
def linkName : String := "Link"

def targetAttribute : String := "href"

/-- The name of elements that show an image, and the attribute with its source. -/
def imageName : String := "img"

def sourceAttribute : String := "src"

/-- Whether a first child makes its parent a link. -/
def linksWith (first : Node) (text : Option String) : Bool :=
  first.name = some linkName && text.isSome && (first.attribute? targetAttribute).isSome

/-- Whether a first child makes its parent an image. -/
def showsImage (first : Node) : Bool :=
  first.name = some imageName && (first.attribute? sourceAttribute).isSome

/-- The first child that decides the kind of its parent: an element with a name. -/
def leadingElement? (children : List Node) : Option Node :=
  (firstElement? children).filter fun first => first.name.any fun n => !n.isEmpty

/-- The kind of a node with the given name, children and text. Code listings and
lists are told by their name alone; the other blocks by what they begin with, and
only one that begins with neither link nor image is a callout or a wrapper. -/
def classify (name : Option String) (children : List Node) (text : Option String) : Kind :=
  match name.bind Key.ofName? with
  | none => .passthrough
  | some .codeListing => .codeListing
  | some .listBullet => .listBullet
  | some key =>
    match leadingElement? children with
    | none => .text
    | some first =>
      if linksWith first text then .link
      else if showsImage first then .image
      else if key.isCallout then .callout
      else .wrapper

/-! ## Nodes of markup -/

mutual

/-- The text inside an item. Comments and instructions hold none of the text around
them. -/
def itemText : Markup.Item → List Char
  | .text text => text
  | .entity name => Markup.printEntity name
  | .comment _ => []
  | .instruction _ _ => []
  | .element _ content => contentText content

/-- The text inside a list of items. -/
def contentText : List Markup.Item → List Char
  | [] => []
  | item :: rest => itemText item ++ contentText rest

end

/-- The written form of a text node: only ampersands and angle brackets are hidden. -/
def describeText (cs : List Char) : List Char :=
  cs.flatMap fun c => if c = '\r' then [c] else Markup.textChar c

/-- An attribute under its expanded name, which is the local name after the
namespace in braces, or the written name alone. -/
def expandedAttribute (a : Markup.Attribute) : String × String :=
  let name :=
    match a.space with
    | none => a.name.print
    | some space => '\x7b' :: space ++ '\x7d' :: a.name.part
  (String.ofList name, String.ofList a.text)

/-- Attributes under their expanded names. Of several with one name the first counts. -/
def expandedAttributes (attributes : List Markup.Attribute) : List (String × String) :=
  (attributes.map expandedAttribute).foldl
    (fun kept a => if (kept.lookup a.1).isSome then kept else kept ++ [a]) []

/-- A node that is no element. -/
def Node.leaf (description text : List Char) : Node :=
  { name := none, description := String.ofList description, text := some (String.ofList text)
    isElement := false, attributes := [], children := [], kind := .passthrough }

mutual

/-- The nodes of an item in a scope: none for a blank run of text, one otherwise. -/
def nodesOfItem (scope : Markup.Scope) : Markup.Item → List Node
  | .text text => if Text.allBlank text then [] else [.leaf (describeText text) text]
  | .entity name => [.leaf (Markup.printEntity name) (Markup.printEntity name)]
  | .comment text => [.leaf (Markup.printComment text) text]
  | .instruction target data => [.leaf (Markup.printInstruction target data) (data.getD [])]
  | .element tag content =>
    let name := String.ofList tag.name.part
    let children := nodesOfContent (tag.declarations ++ scope) content
    let text := String.ofList (contentText content)
    [{ name := some name
       description := String.ofList ((Markup.Item.element tag content).printAlone scope)
       text := some text
       isElement := true
       attributes := expandedAttributes tag.attributes
       children := children
       kind := classify (some name) children (some text) }]

/-- The nodes of a list of items in a scope. -/
def nodesOfContent (scope : Markup.Scope) : List Markup.Item → List Node
  | [] => []
  | item :: rest => nodesOfItem scope item ++ nodesOfContent scope rest

end

/-- The top-level nodes of a discussion: those inside the root element. -/
def nodesOf (root : Markup.Element) : List Node :=
  nodesOfContent root.tag.declarations root.content

/-! ## Names without a node -/

/-- The local name that is read off an expanded one: what follows its first closing
brace. It is the local part unless the namespace has such a brace. -/
def localOfExpanded (space part : List Char) : List Char :=
  ((space ++ '\x7d' :: part).dropWhile (· ≠ '\x7d')).drop 1

/-- The local name of an element, in the scope of its own declarations, if it makes no
node: the written name if its qualifier is not bound, and otherwise what is no simple
name. -/
def strayPart? (scope : Markup.Scope) (name : Markup.QName) : Option (List Char) :=
  if !scope.binds name then some name.print
  else
    let read := localOfExpanded ((scope.bound? name.qualifier).getD []) name.part
    if read = name.part && name.isProper then none else some read

mutual

/-- The first element name in an item that makes no node, in the order of the text. -/
def strayName? (scope : Markup.Scope) : Markup.Item → Option (List Char)
  | .element tag content =>
    let inner := tag.declarations ++ scope
    (strayPart? inner tag.name).or (strayNameIn? inner content)
  | _ => none

/-- The first such name in a list of items. -/
def strayNameIn? (scope : Markup.Scope) : List Markup.Item → Option (List Char)
  | [] => none
  | item :: rest => (strayName? scope item).or (strayNameIn? scope rest)

end

/-- The name of an element that makes no node. -/
structure StrayName where
  name : String
  deriving DecidableEq, Repr

def StrayName.message (stray : StrayName) : String :=
  "Invalid tag name " ++ Text.quoted stray.name

/-- Why a discussion has no nodes. -/
inductive ParseFault where
  /-- Its markup is refused. -/
  | malformed (fault : Markup.Fault)
  /-- Its markup is read, but an element in it has a name that makes no node. -/
  | stray (stray : StrayName)
  deriving DecidableEq, Repr

/-- Reads discussion markup. The name of the root element is of no interest. -/
def parse (markup : String) : Except ParseFault (List Node) := do
  let root ← (Markup.read markup.toList).mapError .malformed
  match strayNameIn? root.tag.declarations root.content with
  | some name => .error (.stray { name := String.ofList name })
  | none => return nodesOf root

end SymbolDocs.Discussion
