/-
Symbols: what is shown of a record.

A symbol has a name, a declaration and a comment. The comment is made of the summary,
the discussion and the callouts, and the section of a symbol of its heading, its
declaration and its comment; what is missing or empty is left out each time. All of
it depends on the record and the settings alone. Nothing in a record is at fault, except
a discussion in which an element has a stray name.
-/
import SymbolDocs.Callout
import SymbolDocs.Discussion.Fragment
import SymbolDocs.Settings

set_option autoImplicit false

namespace SymbolDocs

open Discussion (StrayName)

/-! ## The discussion of a record -/

/-- What became of the discussion markup of a record. -/
inductive Discussed where
  /-- There is no markup, or nothing of it is shown in the running text. -/
  | nothing
  | text (text : String)
  /-- The markup was refused. -/
  | malformed (fault : Markup.Fault)
  deriving DecidableEq, Repr

/-- Shows the nodes of a discussion. Nodes read from markup are never at fault, so
the other case does not arise. -/
def showNodes (nodes : List Discussion.Node) : Discussed :=
  match Discussion.fragments nodes with
  | .ok [] => .nothing
  | .ok texts => .text (String.intercalate "\n\n" texts)
  | .error _ => .nothing

namespace Record

/-- Reads and shows the discussion markup of a record. -/
def discussed (r : Record) : Except StrayName Discussed :=
  match r.string? .discussionMarkup with
  | none => .ok .nothing
  | some markup =>
    match Discussion.parse markup with
    | .ok nodes => .ok (showNodes nodes)
    | .error (.malformed fault) => .ok (.malformed fault)
    | .error (.stray stray) => .error stray

/-- The discussion of a record as running text. Markup that is refused costs the
discussion and nothing else; only a stray name in it is a fault. -/
def discussion? (r : Record) : Except StrayName (Option String) :=
  r.discussed.map fun discussed =>
    match discussed with
    | .text text => some text
    | _ => none

/-! ## Name, declaration, comment -/

/-- The name of a symbol, even an empty one, or the placeholder. -/
def symbolName (settings : Settings) (r : Record) : String :=
  (r.string? .name).getD settings.placeholderName

/-- The declaration to show: the one meant to be shown unless it is empty, or else the
one read from the code, even if that is empty. -/
def declaration? (r : Record) : Option String :=
  match r.nonEmpty? .shownDeclaration with
  | some text => some text
  | none => r.string? .parsedDeclaration

/-- The declaration as a code block, or nothing. -/
def declarationBlock (settings : Settings) (r : Record) : String :=
  match r.declaration? with
  | none => ""
  | some text => if text.isEmpty then "" else Markdown.codeBlock text settings.language

/-- The summary, unless it is empty. -/
def abstract? (r : Record) : Option String :=
  r.nonEmpty? .abstract

/-- The comment: summary, discussion and callouts. -/
def comment (r : Record) : Except StrayName String :=
  r.discussion?.map fun discussion =>
    Markdown.joinNonEmpty "\n\n"
      [r.abstract?.getD "", discussion.getD "", r.callouts?.getD ""]

/-- The comment that is given, as it is, or else the one of the record. -/
def commentOr (comment : Option String) (r : Record) : Except StrayName String :=
  match comment with
  | some comment => .ok comment
  | none => r.comment

/-! ## Sections -/

/-- The section of a symbol whose comment is known. -/
def sectionWith (settings : Settings) (level : Int) (comment : String) (r : Record) : String :=
  Markdown.joinNonEmpty "\n\n"
    [Markdown.heading (r.symbolName settings) level, r.declarationBlock settings, comment]

/-- The section of a symbol. A comment that is given is taken as it is. -/
def showSection (settings : Settings) (level : Int) (comment : Option String) (r : Record) :
    Except StrayName String :=
  (r.commentOr comment).map fun comment => r.sectionWith settings level comment

end Record

/-- What stands between two sections. -/
def sectionRule : String := "\n\n---\n\n"

/-- The sections of symbols whose comments are known. There are as many sections as the
shorter of the two lists has members. -/
def sectionsWith (settings : Settings) (level : Int) (comments : List String)
    (records : List Record) : String :=
  String.intercalate sectionRule
    (List.zipWith (fun r comment => r.sectionWith settings level comment) records comments)

/-- The sections of several symbols. Where comments are given, symbols beyond them have
no sections. -/
def showSections (settings : Settings) (level : Int) (comments : Option (List (Option String)))
    (records : List Record) : Except StrayName String := do
  let comments := comments.getD (records.map fun _ => none)
  let shown ← (records.zip comments).mapM fun p => p.1.commentOr p.2
  return sectionsWith settings level shown records

/-! ## Introspection -/

/-- What is told about a symbol besides its documentation. -/
structure Introspection where
  name : String
  /-- The declaration as it was read from the code. -/
  declaration : String
  /-- The path of the file, without the prefix that the settings take off. -/
  file : String
  isDocumented : Bool
  deriving DecidableEq, Repr

/-- A text without the occurrences of a part that is not empty. They are found from
the left and do not overlap; `skip` counts the characters of one that are still to be
passed over. -/
def removeFrom (part : List Char) (skip : Nat) : List Char → List Char
  | [] => []
  | c :: rest =>
    match skip with
    | skip + 1 => removeFrom part skip rest
    | 0 =>
      if part.isPrefixOf (c :: rest) then removeFrom part (part.length - 1) rest
      else c :: removeFrom part 0 rest

/-- A text without the occurrences of a part. An empty part occurs nowhere. -/
def removeAll (part text : String) : String :=
  if part.isEmpty then text else String.ofList (removeFrom part.toList 0 text.toList)

/-- What is told about a symbol whose comment is known. -/
def Record.introspectWith (settings : Settings) (workingDirectory : String)
    (comment : String) (r : Record) : Introspection :=
  { name := r.symbolName settings
    declaration := (r.string? .parsedDeclaration).getD ""
    file := removeAll (settings.resolvedPathPrefix workingDirectory)
      ((r.string? .filePath).getD "")
    isDocumented := !comment.isEmpty }

/-- What is told about a symbol. A comment that is given is taken as it is. -/
def Record.introspect (settings : Settings) (workingDirectory : String)
    (comment : Option String) (r : Record) : Except StrayName Introspection :=
  (r.commentOr comment).map fun comment => r.introspectWith settings workingDirectory comment

end SymbolDocs
