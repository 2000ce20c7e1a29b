/-
A run does what the library does.

A run makes the comments of its records once and uses them twice, for the sections and
for the coverage. The library makes them where it needs them. Both come to the same: a
comment that was made beforehand is the one that would be made, even if it is empty, and
the two lists of comments and records are as long as each other (`markdown_reportOn`,
`coverage_reportOn`). The rest of a run adds the coverage line, the list of undocumented
names and the place where the sections go.

Where the library has no answer because of a stray name, a run has none either: it fails
with that name, and nothing is written.

What is said of runs is said of records that are loaded in full (`LoadsInFull`). A file may
write a surrogate without its other half, and no output holds what a text with it says; that
does not happen where surrogates come in pairs (`loadsInFull_of_isPaired`).
-/
import SymbolDocs.CommandLine.Run
import SymbolDocs.Proofs.CommandLine.Files
import SymbolDocs.Proofs.Json.Surrogates
import SymbolDocs.Proofs.Symbol.Comment
import SymbolDocs.Proofs.Text.Utf8

set_option autoImplicit false

namespace SymbolDocs.CommandLine

/-! ## What a run says -/

/-- The text of a remark that is no notice. -/
def Remark.line? : Remark → Option String
  | .plain text => some text
  | .notice _ => none

/-- What a run says beside its output, notices apart. -/
def Outcome.lines (outcome : Outcome) : List String :=
  outcome.remarks.filterMap Remark.line?

/-- The line on the coverage of a number of symbols. -/
def coverageLineOf (coverage : Coverage) (count : Nat) : String :=
  "Coverage: " ++ coverage.percentText ++ " of " ++ toString count ++ " symbols\n"

/-- The line on an undocumented symbol. -/
def undocumentedLine (name : String) : String :=
  "  ✗ " ++ name ++ ": undocumented\n"

theorem lines_plain (text : String) (remarks : List Remark) :
    (Remark.plain text :: remarks).filterMap Remark.line?
      = text :: remarks.filterMap Remark.line? :=
  rfl

theorem lines_notices (notices : List Notice) (remarks : List Remark) :
    (notices.map Remark.notice ++ remarks).filterMap Remark.line?
      = remarks.filterMap Remark.line? := by
  have hnone : (notices.map Remark.notice).filterMap Remark.line? = [] := by
    rw [List.filterMap_eq_nil_iff]
    intro remark hremark
    obtain ⟨notice, -, rfl⟩ := List.mem_map.mp hremark
    rfl
  rw [List.filterMap_append, hnone, List.nil_append]

/-- The closing remarks name the undocumented symbols if these are asked for; if there are
none, there is nothing to name. -/
theorem lines_closing (report : Report) :
    report.closing.filterMap Remark.line?
      = coverageLineOf report.coverage report.coverage.total
        :: (if report.invocation.strict then report.coverage.missing.map undocumentedLine
          else []) := by
  have hnames : (report.coverage.missing.map fun name =>
        Remark.plain ("  " ++ cross ++ name ++ ": undocumented\n")).filterMap Remark.line?
      = report.coverage.missing.map undocumentedLine := by
    rw [List.filterMap_map, ← List.filterMap_eq_map]
    rfl
  rw [Report.closing, lines_plain, Report.isRejected]
  congr 1
  cases report.invocation.strict with
  | false => rfl
  | true =>
    cases hmissing : report.coverage.missing with
    | nil => rfl
    | cons name rest =>
      rw [hmissing] at hnames
      exact hnames

/-! ## Records loaded in full -/

section Loading

variable {tree : FileTree} {path : Path} {records : List Record}

/-- Records are loaded, and are the same whatever stands for a surrogate left alone. So no text
in them holds one, which no output could hold and no markup may. -/
def LoadsInFull (tree : FileTree) (path : Path) (records : List Record) : Prop :=
  ∀ lone, recordsWith lone path (tree.read path) = .ok records

/-- Records that are loaded in full are loaded. -/
theorem LoadsInFull.load (h : LoadsInFull tree path records) : load tree path = .ok records :=
  h Json.standIn

/-- Records are loaded in full if the surrogates that the file writes come in pairs. -/
theorem loadsInFull_of_isPaired {text : List Char}
    (hread : tree.read path = .ok (Text.Utf8.encode text))
    (hpaired : Json.isPaired false (Text.unifyLineEnds text) = true)
    (hload : CommandLine.load tree path = .ok records) : LoadsInFull tree path records := by
  intro lone
  rw [← hload, CommandLine.load, recordsOf, hread]
  simp only [recordsWith, bind, Except.bind, Except.mapError,
    Text.Utf8.decode_eq_ok_iff.mpr (rfl : Text.Utf8.encode text = _),
    Json.parseWith_eq_of_isPaired hpaired lone Json.standIn]

end Loading

/-! ## Reports -/

section Reports

variable (invocation : Invocation) (settings : Settings) (workingDirectory : String)
  (records : List Record)

/-- The report on records without a stray name. -/
def reportOn : Report :=
  .ofComments invocation settings workingDirectory records (records.map Record.prose)

/-- The report has the sections of the records, each with its prose. -/
theorem markdown_reportOn :
    (reportOn invocation settings workingDirectory records).markdown
      = String.intercalate sectionRule
          (records.map fun r => r.sectionWith settings 3 r.prose) :=
  sectionsWith_prose settings 3 records

/-- Its coverage is that of the introspections of the records, each with its prose. -/
theorem coverage_reportOn :
    (reportOn invocation settings workingDirectory records).coverage
      = .ofSymbols (records.map fun r => r.introspectWith settings workingDirectory r.prose) := by
  rw [reportOn, Report.ofComments, coverageOf, List.zipWith_map_right, List.zipWith_self]

theorem total_reportOn :
    (reportOn invocation settings workingDirectory records).coverage.total = records.length := by
  rw [coverage_reportOn, Coverage.ofSymbols, List.length_map]

/-- Without stray names there is a report. -/
theorem ofRecords_of_no_stray (h : firstStray? records = none) :
    Report.ofRecords invocation settings workingDirectory records
      = .ok (reportOn invocation settings workingDirectory records) := by
  rw [Report.ofRecords, mapM_comment, h]
  rfl

/-- The first stray name ends the run, with the notices on the records before it. -/
theorem ofRecords_of_stray {stray : Discussion.StrayName}
    (h : firstStray? records = some stray) :
    Report.ofRecords invocation settings workingDirectory records
      = .error (.silent (.failure (.stray stray))
          ((invocation.noticesOn (records.takeWhile fun r => r.comment.isOk)).map .notice)) := by
  rw [Report.ofRecords, mapM_comment, h]
  rfl

end Reports

/-! ## Runs -/

section Runs

variable {s : Surroundings} {arguments : List String} {invocation : Invocation}
  {records : List Record}

/-- The settings of a run. -/
def Surroundings.settings (s : Surroundings) : Settings :=
  .ofEnvironment s.lookup

/-- Once records are loaded, the report is made of them alone. -/
theorem report_of_load (hload : load s.files (.ofString invocation.records) = .ok records) :
    invocation.report s.settings s.workingDirectory (s.files.read (.ofString invocation.records))
      = Report.ofRecords invocation s.settings s.workingDirectory records := by
  rw [load] at hload
  rw [Invocation.report, hload]

/-- What a run leaves behind and what the library answers belong together. -/
structure Delivers (s : Surroundings) (invocation : Invocation) (records : List Record)
    (markdown : String) (coverage : Coverage) (result : Outcome × FileTree) : Prop where
  shown : showSections s.settings 3 none records = .ok markdown
  counted : Coverage.ofRecords s.settings s.workingDirectory records = .ok coverage
  /-- The status is one exactly if undocumented symbols are not to be passed over and there
  are any. -/
  ending : result.1.ending
    = .exit (if invocation.strict && !coverage.missing.isEmpty then 1 else 0)
  lines : result.1.lines
    = coverageLineOf coverage records.length
      :: (if invocation.strict then coverage.missing.map undocumentedLine else [])
  emitted :
    match invocation.output with
    | none => result.1.output = markdown ++ "\n" ∧ result.2 = s.files
    | some file =>
      result.1.output = ""
        ∧ s.files.write (.ofString file) (Text.Utf8.encode (markdown ++ "\n").toList)
          = .ok result.2
        ∧ result.2.read (.ofString file) = .ok (Text.Utf8.encode (markdown ++ "\n").toList)

theorem run_of_silent {outcome : Outcome} (haccepted : start arguments = .ok invocation)
    (hreport : invocation.report s.settings s.workingDirectory
      (s.files.read (.ofString invocation.records)) = .error outcome) :
    run s arguments = (outcome, s.files) := by
  rw [Surroundings.settings] at hreport
  rw [run, haccepted]
  simp only [bind, Except.bind, hreport]

/-- A report without a file to write is printed, and the files stay as they are. -/
theorem run_of_printed {report : Report} (haccepted : start arguments = .ok invocation)
    (hreport : invocation.report s.settings s.workingDirectory
      (s.files.read (.ofString invocation.records)) = .ok report)
    (htarget : report.target? = none) : run s arguments = (report.printed, s.files) := by
  rw [Surroundings.settings] at hreport
  rw [run, haccepted]
  simp only [bind, Except.bind, hreport, htarget]

/-- A report is written if its file can be. -/
theorem run_of_written {report : Report} {path : Path} {later : FileTree}
    (haccepted : start arguments = .ok invocation)
    (hreport : invocation.report s.settings s.workingDirectory
      (s.files.read (.ofString invocation.records)) = .ok report)
    (htarget : report.target? = some path)
    (hlater : s.files.write path (Text.Utf8.encode report.document.toList) = .ok later) :
    run s arguments = (report.written path (.ok ()), later) := by
  rw [Surroundings.settings] at hreport
  rw [run, haccepted]
  simp only [bind, Except.bind, hreport, htarget, hlater]

/-- If it cannot, the files stay as they are. -/
theorem run_of_unwritten {report : Report} {path : Path} {fault : FileFault}
    (haccepted : start arguments = .ok invocation)
    (hreport : invocation.report s.settings s.workingDirectory
      (s.files.read (.ofString invocation.records)) = .ok report)
    (htarget : report.target? = some path)
    (hfault : s.files.write path (Text.Utf8.encode report.document.toList) = .error fault) :
    run s arguments = (report.written path (.error fault), s.files) := by
  rw [Surroundings.settings] at hreport
  rw [run, haccepted]
  simp only [bind, Except.bind, hreport, htarget, hfault]

/-- Without a stray name a run delivers what the library answers. -/
theorem delivers_of_no_stray (haccepted : start arguments = .ok invocation)
    (hload : load s.files (.ofString invocation.records) = .ok records)
    (hwritable : ∀ file ∈ invocation.output, s.files.isWritable (.ofString file) = true)
    (hstray : firstStray? records = none) :
    ∃ markdown coverage, Delivers s invocation records markdown coverage (run s arguments) := by
  -- All that the run says and writes is read off the one report.
  obtain ⟨report, hreport⟩ : ∃ report,
      report = reportOn invocation s.settings s.workingDirectory records := ⟨_, rfl⟩
  have hinvocation : report.invocation = invocation := by rw [hreport]; rfl
  have htotal : report.coverage.total = records.length := by rw [hreport, total_reportOn]
  have hshown : showSections s.settings 3 none records = .ok report.markdown := by
    rw [showSections_eq, hstray, hreport, markdown_reportOn]
    rfl
  have hcounted : Coverage.ofRecords s.settings s.workingDirectory records
      = .ok report.coverage := by
    rw [ofRecords_eq, hstray, hreport, coverage_reportOn]
    rfl
  have hclosing : report.closing.filterMap Remark.line?
      = coverageLineOf report.coverage records.length
        :: (if invocation.strict then report.coverage.missing.map undocumentedLine else []) := by
    rw [lines_closing, htotal, hinvocation]
  have hstatus : report.status
      = if invocation.strict && !report.coverage.missing.isEmpty then 1 else 0 := by
    rw [Report.status, Report.isRejected, hinvocation]
  have htarget : report.target? = invocation.output.map Path.ofString := by
    rw [Report.target?, hinvocation]
  have hmade : invocation.report s.settings s.workingDirectory
      (s.files.read (.ofString invocation.records)) = .ok report := by
    rw [report_of_load hload, ofRecords_of_no_stray _ _ _ _ hstray, hreport]
  refine ⟨report.markdown, report.coverage, ?_⟩
  cases houtput : invocation.output with
  | none =>
    rw [houtput] at htarget
    rw [run_of_printed haccepted hmade htarget]
    refine ⟨hshown, hcounted, ?_, ?_, ?_⟩
    · rw [Report.printed, hstatus]
    · rw [Outcome.lines, Report.printed, lines_notices, hclosing]
    · rw [houtput]
      exact ⟨rfl, rfl⟩
  | some file =>
    rw [houtput] at htarget hwritable
    obtain ⟨later, hlater⟩ := FileTree.write_of_isWritable
      (hwritable file rfl) (Text.Utf8.encode report.document.toList)
    rw [run_of_written haccepted hmade htarget hlater]
    refine ⟨hshown, hcounted, ?_, ?_, ?_⟩
    · rw [Report.written, Outcome.silent, hstatus]
    · rw [Outcome.lines, Report.written, Outcome.silent, lines_notices, List.filterMap_cons,
        hclosing]
      rfl
    · rw [houtput]
      exact ⟨rfl, hlater, FileTree.read_of_write hlater⟩

/-- With a stray name a run fails with it, once the records before it were noticed. -/
theorem run_eq_of_stray {stray : Discussion.StrayName}
    (haccepted : start arguments = .ok invocation)
    (hload : load s.files (.ofString invocation.records) = .ok records)
    (hstray : firstStray? records = some stray) :
    run s arguments
      = (.silent (.failure (.stray stray))
          ((invocation.noticesOn (records.takeWhile fun r => r.comment.isOk)).map .notice),
        s.files) :=
  run_of_silent haccepted ((report_of_load hload).trans
    (ofRecords_of_stray invocation s.settings s.workingDirectory records hstray))

/-- With a stray name a run fails with it, and no file is touched. -/
theorem run_of_stray {stray : Discussion.StrayName} (haccepted : start arguments = .ok invocation)
    (hload : load s.files (.ofString invocation.records) = .ok records)
    (hstray : firstStray? records = some stray) :
    (run s arguments).1.ending = .failure (.stray stray) ∧ (run s arguments).1.output = ""
      ∧ (run s arguments).2 = s.files := by
  rw [run_eq_of_stray haccepted hload hstray]
  exact ⟨rfl, rfl, rfl⟩

/-- One file of records. -/
def oneFile (text : String) : Surroundings where
  lookup _ := none
  workingDirectory := "/"
  files := [(["r.json"], Text.Utf8.encode text.toList)]

theorem loadsInFull_oneFile {text : String} {records : List Record}
    (hpaired : Json.isPaired false (Text.unifyLineEnds text.toList) = true)
    (hload : load (oneFile text).files (.ofString "r.json") = .ok records) :
    LoadsInFull (oneFile text).files (.ofString "r.json") records :=
  loadsInFull_of_isPaired rfl hpaired hload

/-- Two symbols, the first of which has nothing to its name. -/
def twoSymbols : Surroundings :=
  oneFile "[\x7b\"name\":\"f\"\x7d,\x7b\"docAbstract\":\"s\"\x7d]"

/-- A run that is asked to write to a file and to insist on documentation. -/
def insistingRun : Invocation :=
  { records := "r.json", output := some "o.md", strict := true, verbose := false }

end Runs

end SymbolDocs.CommandLine
