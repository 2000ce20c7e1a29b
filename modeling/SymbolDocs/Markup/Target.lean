/-
Targets of instructions.

An instruction is addressed to a program by a name, its target. The name of the
declaration that may open a text is reserved in all spellings, and names that begin with
it are unusual, unless they are among the few that are known. A target has no qualifier.
-/
import SymbolDocs.Markup.Ledger
import SymbolDocs.Markup.Name

set_option autoImplicit false

namespace SymbolDocs.Markup.Target

/-- The word that targets do not begin with, in lowercase. -/
def reserved : List Char :=
  ['x', 'm', 'l']

/-- The targets that begin with the reserved word and are known. -/
def known : List (List Char) :=
  ["xml-stylesheet".toList, "xml-model".toList]

/-- Refuses what cannot be a target. -/
def check (target : List Char) : Except Fault Unit :=
  if isName target && target.map Char.toLower ≠ reserved then .ok ()
  else .error .instruction

/-- Notes what is unusual or wrong about a target. -/
def judge (target : List Char) : Reading Unit := do
  if (target.take 3).map Char.toLower = reserved && !known.contains target then
    Reading.remark
  Reading.expect (!target.contains ':') .name

end SymbolDocs.Markup.Target
