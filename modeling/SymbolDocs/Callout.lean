/-
Callouts: asides that are shown as sections of their own.

The flattened discussion is a list of entries, objects whose first member is what
counts: its name is the entry's key, its value the text. A callout is an entry with
the callout's key and the paragraphs that follow it; an entry with any other key ends
it. Only the first callout of each key is collected. The search for each key starts
anew at the head of the list, so the order in which callouts are shown is that of the
keys and not that of the list.

A value that is no entry, because it is no object or an object without members, has
no key. It ends a callout, and each search that meets one takes note of it.
-/
import SymbolDocs.Discussion.Key
import SymbolDocs.Markdown
import SymbolDocs.Record

set_option autoImplicit false

namespace SymbolDocs

open Discussion

/-! ## Entries -/

/-- An entry of a flattened discussion: its key, and its text if its value is one. -/
structure Entry where
  key : String
  text : Option String
  deriving DecidableEq, Repr

/-- The entry that a value is. -/
def Entry.ofJson? : Json → Option Entry
  | .object ((key, value) :: _) => some { key := key, text := value.asString? }
  | _ => none

/-- The key of a value, if it is an entry. -/
def entryKey? (value : Json) : Option String :=
  (Entry.ofJson? value).map (·.key)

/-- The text of a value, if it is an entry with one. -/
def entryText? (value : Json) : Option String :=
  (Entry.ofJson? value).bind (·.text)

def hasKey (key : Key) (value : Json) : Bool :=
  entryKey? value = some key.name

def isParagraph (value : Json) : Bool :=
  hasKey .paragraph value

/-! ## The search -/

/-- What every piece of a callout is preceded by. -/
def blankLine : String := "\n\n"

/-- Where the search for a callout stands. -/
inductive Search where
  /-- No entry with the key was met yet. -/
  | searching
  /-- The text collected so far. -/
  | collecting (text : String)
  /-- The callout has ended. -/
  | done (text : String)
  deriving DecidableEq, Repr

/-- Takes one value of the list into account. While searching only an entry with the
key matters, and its text is taken up if it has one. Afterwards paragraphs are taken
up, with or without text, and a further entry with the key is passed over. -/
def Search.step (key : Key) (search : Search) (value : Json) : Search :=
  match search with
  | .searching =>
    if hasKey key value then
      .collecting (match entryText? value with | some text => blankLine ++ text | none => "")
    else .searching
  | .collecting text =>
    if isParagraph value then .collecting (text ++ blankLine ++ (entryText? value).getD "")
    else if hasKey key value then .collecting text
    else .done text
  | .done text => .done text

/-- The text that a search has collected. -/
def Search.text : Search → String
  | .searching => ""
  | .collecting text => text
  | .done text => text

/-- The text of the callout of a key, unless there is none or it is blank. -/
def collect? (key : Key) (entries : List Json) : Option String :=
  let text := (entries.foldl (Search.step key) .searching).text
  if Text.isBlankText text then none else some text

/-! ## What a search meets -/

/-- The values that a search looks at, from a given state on: all up to the one that
ends the callout, that one included. -/
def looked (key : Key) (search : Search) : List Json → List Json
  | [] => []
  | value :: rest =>
    match search.step key value with
    | .done _ => [value]
    | next => value :: looked key next rest

/-- The values that a search looks at and that are no entries. -/
def malformedMet (key : Key) (entries : List Json) : List Json :=
  (looked key .searching entries).filter fun value => (Entry.ofJson? value).isNone

/-! ## All callouts of a record -/

/-- The callout of a key as a section that folds away behind the key. -/
def calloutSection? (entries : List Json) (key : Key) : Option String :=
  (collect? key entries).map fun text => Markdown.collapsible key.name text

namespace Record

/-- The entries of the flattened discussion; none if there is no such list. -/
def entries (r : Record) : List Json :=
  (r.list? .discussionEntries).getD []

/-- The callouts of a record, a section each, in the order of the keys. -/
def callouts? (r : Record) : Option String :=
  match Key.callouts.filterMap (calloutSection? r.entries) with
  | [] => none
  | sections => some (String.intercalate blankLine sections)

/-- The values that the searches for all callouts take note of, in the order in which
they are met. -/
def malformedEntries (r : Record) : List Json :=
  Key.callouts.flatMap fun key => malformedMet key r.entries

end Record

end SymbolDocs
