/-
The names with which blocks of a discussion are tagged.

A key names either a callout, which is shown apart from the running text as a
section of its own, or a structure: a paragraph, a code listing, a list or an item
of one. The same names tag elements of discussion markup and entries of the
flattened discussion. They are compared exactly, capitals included.
-/

set_option autoImplicit false

namespace SymbolDocs.Discussion

/-- A known tag of a discussion block. -/
inductive Key where
  | attention
  | author
  | authors
  | bug
  | complexity
  | copyright
  | date
  | sample
  | experiment
  | important
  | invariant
  | note
  | precondition
  | postcondition
  | remark
  | requires
  | seeAlso
  | since
  | version
  | warning
  | paragraph
  | codeListing
  | listBullet
  | item
  deriving DecidableEq, Repr

namespace Key

/-- The keys of callouts, in the order in which callouts are shown. -/
def callouts : List Key :=
  [.attention, .author, .authors, .bug, .complexity, .copyright, .date, .sample,
   .experiment, .important, .invariant, .note, .precondition, .postcondition, .remark,
   .requires, .seeAlso, .since, .version, .warning]

/-- The keys of structures. -/
def structural : List Key :=
  [.paragraph, .codeListing, .listBullet, .item]

/-- All keys, callouts first. -/
def all : List Key :=
  callouts ++ structural

/-- The tag itself, which is also the label of a callout. -/
def name : Key → String
  | .attention => "Attention"
  | .author => "Author"
  | .authors => "Authors"
  | .bug => "Bug"
  | .complexity => "Complexity"
  | .copyright => "Copyright"
  | .date => "Date"
  | .sample => "Example"
  | .experiment => "Experiment"
  | .important => "Important"
  | .invariant => "Invariant"
  | .note => "Note"
  | .precondition => "Precondition"
  | .postcondition => "Postcondition"
  | .remark => "Remark"
  | .requires => "Requires"
  | .seeAlso => "SeeAlso"
  | .since => "Since"
  | .version => "Version"
  | .warning => "Warning"
  | .paragraph => "Para"
  | .codeListing => "CodeListing"
  | .listBullet => "List-Bullet"
  | .item => "Item"

/-- The words of the key in capitals, joined by underscores: how the key is called
in listings of all keys. -/
def constant : Key → String
  | .attention => "ATTENTION"
  | .author => "AUTHOR"
  | .authors => "AUTHORS"
  | .bug => "BUG"
  | .complexity => "COMPLEXITY"
  | .copyright => "COPYRIGHT"
  | .date => "DATE"
  | .sample => "EXAMPLE"
  | .experiment => "EXPERIMENT"
  | .important => "IMPORTANT"
  | .invariant => "INVARIANT"
  | .note => "NOTE"
  | .precondition => "PRECONDITION"
  | .postcondition => "POSTCONDITION"
  | .remark => "REMARK"
  | .requires => "REQUIRES"
  | .seeAlso => "SEE_ALSO"
  | .since => "SINCE"
  | .version => "VERSION"
  | .warning => "WARNING"
  | .paragraph => "PARAGRAPH"
  | .codeListing => "CODE_LISTING"
  | .listBullet => "LIST_BULLET"
  | .item => "ITEM"

/-- The key of a tag. -/
def ofName? (name : String) : Option Key :=
  all.find? fun k => k.name = name

/-- The key that a listing calls by the given words. -/
def ofConstant? (constant : String) : Option Key :=
  all.find? fun k => k.constant = constant

def isCallout (k : Key) : Bool :=
  callouts.contains k

end Key

/-- Whether a tag names a callout. A missing tag names nothing. -/
def isCalloutName (name : Option String) : Bool :=
  match name.bind Key.ofName? with
  | some k => k.isCallout
  | none => false

/-- Whether a tag names a block of a discussion, callout or structure. -/
def isKeyName (name : Option String) : Bool :=
  (name.bind Key.ofName?).isSome

end SymbolDocs.Discussion
