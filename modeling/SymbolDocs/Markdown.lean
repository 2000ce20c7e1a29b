/-
The Markdown forms that documentation is made of.

These are plain builders of text: they know nothing of records, and apart from the
trimming in a collapsible section they take their arguments as they are.
-/
import SymbolDocs.Text.Blank

set_option autoImplicit false

namespace SymbolDocs.Markdown

/-- A fence of three backticks around code, with a language after the opening one.
An empty language is none. -/
def codeBlock (code : String) (language : String) : String :=
  "```" ++ language ++ "\n" ++ code ++ "\n```"

/-- A section that folds away behind its summary. -/
def collapsible (summary details : String) : String :=
  String.intercalate "\n"
    ["<details>", "<summary>" ++ summary ++ "</summary>", "", Text.trimmed details, "",
     "</details>"]

def bullet (text : String) : String :=
  "- " ++ text

def link (text url : String) : String :=
  "[" ++ text ++ "](" ++ url ++ ")"

def image (alternative url : String) : String :=
  "![" ++ alternative ++ "](" ++ url ++ ")"

/-- The number of marks for a heading of a given level: levels run from one to six,
and what lies outside is brought to the nearer end. -/
def headingMarks (level : Int) : Nat :=
  (min (max level 1) 6).toNat

def heading (text : String) (level : Int) : String :=
  String.ofList (List.replicate (headingMarks level) '#') ++ " " ++ text

/-- A title followed by items, a line each, or nothing if there are no items. -/
def collection (title : String) (items : List String) : String :=
  if items.isEmpty then "" else String.intercalate "\n" (title :: items)

/-- The parts that are not empty, with `separator` between them. -/
def joinNonEmpty (separator : String) (parts : List String) : String :=
  String.intercalate separator (parts.filter fun p => !p.isEmpty)

end SymbolDocs.Markdown
