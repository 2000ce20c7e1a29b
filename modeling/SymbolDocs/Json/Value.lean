/-
JSON values.

Records are JSON objects whose fields may hold anything, so the value type is
general. Two points matter to the rest: the members of an object keep their order,
because the first member of a callout entry is the entry; and an integer is kept
apart from a number written with a point or an exponent, because only the former
counts as an integer.
-/
import SymbolDocs.Decimal.Shortest
import SymbolDocs.Text.Quoted

set_option autoImplicit false

namespace SymbolDocs

/-- A JSON value. -/
inductive Json where
  | null
  | bool (value : Bool)
  | integer (value : Int)
  /-- A number written with a point or an exponent. -/
  | number (value : Binary64)
  | string (text : String)
  | array (items : List Json)
  /-- An object, its members in order and its names distinct. -/
  | object (members : List (String × Json))

namespace Json

/-! ## Members of an object -/

/-- Adds a member. A name that is there already keeps its place and takes the new
value, so a repeated name counts where it came first and as it came last. -/
def put (name : String) (value : Json) : List (String × Json) → List (String × Json)
  | [] => [(name, value)]
  | (key, old) :: rest =>
    if key = name then (key, value) :: rest else (key, old) :: put name value rest

/-- The object with the given members in the order in which they were written. -/
def ofMembers (members : List (String × Json)) : Json :=
  .object (members.foldl (fun done m => put m.1 m.2 done) [])

/-! ## Views -/

def asString? : Json → Option String
  | .string text => some text
  | _ => none

def asArray? : Json → Option (List Json)
  | .array items => some items
  | _ => none

def asObject? : Json → Option (List (String × Json))
  | .object members => some members
  | _ => none

/-! ## How a diagnostic shows a value -/

mutual

/-- A value as diagnostics show it: texts in quotes, truth values and null by their
capitalised names, lists in brackets, objects in braces. -/
def shown : Json → String
  | .null => "None"
  | .bool true => "True"
  | .bool false => "False"
  | .integer value => toString value
  | .number value => value.text
  | .string text => Text.quoted text
  | .array items => "[" ++ String.intercalate ", " (shownItems items) ++ "]"
  | .object members => "\x7b" ++ String.intercalate ", " (shownMembers members) ++ "\x7d"

/-- The items of a list, each as diagnostics show it. -/
def shownItems : List Json → List String
  | [] => []
  | item :: rest => item.shown :: shownItems rest

/-- The members of an object, each as its quoted name, a colon and its value. -/
def shownMembers : List (String × Json) → List String
  | [] => []
  | (name, value) :: rest => (Text.quoted name ++ ": " ++ value.shown) :: shownMembers rest

end

end Json

end SymbolDocs
