/-
Notices: what a run tells about its work while it goes on.

A notice has a level and a channel. Records give rise to two kinds: a discussion that
was skipped because its markup was refused, and a value in a flattened discussion that
is no entry. The third kind tells that the result was written to a file. Where the
wording of a notice depends on where the program runs, it is left to a style.
-/
import SymbolDocs.Symbol

set_option autoImplicit false

namespace SymbolDocs

/-! ## Notices and their levels -/

/-- How much a notice matters. -/
inductive Level where
  | debug
  | info
  | warning
  deriving DecidableEq, Repr

namespace Level

def rank : Level → Nat
  | .debug => 0
  | .info => 1
  | .warning => 2

/-- Whether a notice of this level is shown when the given level is asked for. -/
def reaches (level asked : Level) : Bool :=
  asked.rank ≤ level.rank

def name : Level → String
  | .debug => "DEBUG"
  | .info => "INFO"
  | .warning => "WARNING"

end Level

/-- A notice. -/
inductive Notice where
  /-- The discussion of the symbol with the given name was skipped. A missing name may
  also be one that is empty. -/
  | skippedDiscussion (name : Option String) (fault : Markup.Fault)
  /-- A search for a callout met a value that is no entry. -/
  | malformedEntry (value : Json)
  /-- The sections of that many symbols were written to the file of that name. -/
  | written (count : Nat) (file : String)

/-- What the wording of notices depends on. -/
structure Notice.Style where
  /-- The channel on which the run itself speaks. -/
  runChannel : String
  /-- The account of a fault in discussion markup. -/
  detail : Markup.Fault → String

namespace Notice

def level : Notice → Level
  | .skippedDiscussion _ _ => .warning
  | .malformedEntry _ => .debug
  | .written _ _ => .info

/-- The part of the program that a notice comes from. -/
def channel (style : Style) : Notice → String
  | .skippedDiscussion _ _ => "sourcedocs.discussion"
  | .malformedEntry _ => "sourcedocs.callouts"
  | .written _ _ => style.runChannel

end Notice

/-- What is told about discussion markup that was refused. -/
def malformedMarkup (style : Notice.Style) (fault : Markup.Fault) : String :=
  "Cannot parse discussion markup: " ++ style.detail fault

namespace Notice

/-- The wording of a notice. -/
def message (style : Style) : Notice → String
  | .skippedDiscussion name fault =>
    "Skipping discussion of " ++ name.getD "unnamed symbol" ++ ": "
      ++ malformedMarkup style fault
  | .malformedEntry value => "Ignoring malformed discussion entry: " ++ value.shown
  | .written count file => "Wrote " ++ toString count ++ " symbols to " ++ file

/-- The line of a notice, after a stamp that tells the time. -/
def line (style : Style) (stamp : String) (notice : Notice) : String :=
  stamp ++ " " ++ notice.level.name ++ " " ++ notice.channel style ++ ": "
    ++ notice.message style ++ "\n"

end Notice

/-! ## Notices of a record -/

namespace Record

/-- The notices that showing the discussion of a record gives rise to. -/
def discussionNotices (r : Record) : List Notice :=
  match r.discussed with
  | .ok (.malformed fault) => [.skippedDiscussion (r.nonEmpty? .name) fault]
  | _ => []

/-- The notices that rendering the comment of a record gives rise to, in order. Rendering
ends at a stray name, before the entries are looked at. -/
def notices (r : Record) : List Notice :=
  match r.discussed with
  | .ok _ => r.discussionNotices ++ r.malformedEntries.map .malformedEntry
  | .error _ => []

end Record

end SymbolDocs
