/-
A run of the program, from its arguments to its outcome.

A run has three stages, between which the world outside is asked: the arguments are
understood, then a file is read and reported on, then the Markdown may be written to
a file. A stage may end the run early. What a run leaves behind is an outcome: how it
ended, what it printed, what it remarked, and what became of the files. Comments are
made once for each record, so each notice is given once, and the coverage is counted
from the same comments that are shown.
-/
import SymbolDocs.CommandLine.Arguments
import SymbolDocs.CommandLine.Load
import SymbolDocs.Coverage
import SymbolDocs.Notice

set_option autoImplicit false

namespace SymbolDocs.CommandLine

/-! ## Outcomes -/

/-- A failure that no run expects. It is passed on as it is. -/
inductive Failure where
  | load (fault : LoadFault)
  /-- An element of a discussion has a name that makes no node. -/
  | stray (name : Discussion.StrayName)
  | write (path : Path) (fault : FileFault)
  deriving DecidableEq, Repr

def Failure.message : Failure → String
  | .load fault => fault.message
  | .stray name => name.message
  | .write path fault => fault.message path

/-- How a run ends. -/
inductive Ending where
  | exit (status : Nat)
  | failure (failure : Failure)
  deriving DecidableEq, Repr

/-- What a run says beside its output. -/
inductive Remark where
  /-- A text as it stands, line ends included. -/
  | plain (text : String)
  | notice (notice : Notice)

/-- The text of a remark. -/
def Remark.render (style : Notice.Style) (stamp : String) : Remark → String
  | .plain text => text
  | .notice n => n.line style stamp

/-- What a run leaves behind, files apart. -/
structure Outcome where
  ending : Ending
  output : String
  remarks : List Remark

/-- The outcome of a run that ends before there is any output. -/
def Outcome.silent (ending : Ending) (remarks : List Remark) : Outcome :=
  { ending := ending, output := "", remarks := remarks }

/-! ## Arguments -/

/-- Understands the arguments. Help, and arguments that are refused, end the run. -/
def start (arguments : List String) : Except Outcome Invocation :=
  match request arguments with
  | .error fault => .error (.silent (.exit 2) [.plain fault.report])
  | .ok .help => .error { ending := .exit 0, output := helpText, remarks := [] }
  | .ok (.run invocation) => .ok invocation

/-! ## The report -/

/-- What there is to tell once the records are read. -/
structure Report where
  invocation : Invocation
  /-- The notices that are shown. -/
  notices : List Notice
  markdown : String
  coverage : Coverage

/-- The least level of the notices that are shown. -/
def Invocation.level (invocation : Invocation) : Level :=
  if invocation.verbose then .debug else .info

/-- Counts symbols whose comments are known. -/
def coverageOf (settings : Settings) (workingDirectory : String) (comments : List String)
    (records : List Record) : Coverage :=
  .ofSymbols (List.zipWith
    (fun r comment => r.introspectWith settings workingDirectory comment)
    records comments)

/-- The notices on records that are shown. -/
def Invocation.noticesOn (invocation : Invocation) (records : List Record) : List Notice :=
  (records.flatMap Record.notices).filter fun n => n.level.reaches invocation.level

/-- Reports on records whose comments are known. -/
def Report.ofComments (invocation : Invocation) (settings : Settings)
    (workingDirectory : String) (records : List Record) (comments : List String) : Report :=
  { invocation := invocation
    notices := invocation.noticesOn records
    markdown := sectionsWith settings 3 comments records
    coverage := coverageOf settings workingDirectory comments records }

/-- Reports on records. A stray name ends the run, once the records before it were
noticed. -/
def Report.ofRecords (invocation : Invocation) (settings : Settings)
    (workingDirectory : String) (records : List Record) : Except Outcome Report :=
  match records.mapM Record.comment with
  | .ok comments => .ok (.ofComments invocation settings workingDirectory records comments)
  | .error name =>
    let before := records.takeWhile fun r => r.comment.isOk
    .error (.silent (.failure (.stray name)) ((invocation.noticesOn before).map .notice))

/-- The mark of a complaint. -/
def cross : String := "✗ "

/-- Reports on the records in a file, whose content is given, or what reading it came
to. A fault in loading the records ends the run. -/
def Invocation.report (invocation : Invocation) (settings : Settings)
    (workingDirectory : String) (content : Except FileFault (List UInt8)) :
    Except Outcome Report :=
  match recordsOf (.ofString invocation.records) content with
  | .ok records => Report.ofRecords invocation settings workingDirectory records
  | .error fault =>
    if fault.isReported then
      .error (.silent (.exit 1) [.plain (cross ++ fault.message ++ "\n")])
    else .error (.silent (.failure (.load fault)) [])

namespace Report

/-- The file to write, if one is asked for. -/
def target? (report : Report) : Option Path :=
  report.invocation.output.map Path.ofString

/-- The Markdown with the line end that closes it. -/
def document (report : Report) : String :=
  report.markdown ++ "\n"

/-- The line that tells the coverage. -/
def coverageLine (report : Report) : String :=
  "Coverage: " ++ report.coverage.percentText ++ " of "
    ++ toString report.coverage.total ++ " symbols\n"

/-- Whether symbols without documentation make the run fail. -/
def isRejected (report : Report) : Bool :=
  report.invocation.strict && !report.coverage.missing.isEmpty

/-- The closing remarks: the coverage and, if they make the run fail, the symbols
without documentation. -/
def closing (report : Report) : List Remark :=
  .plain report.coverageLine ::
    (if report.isRejected then
      report.coverage.missing.map fun name =>
        .plain ("  " ++ cross ++ name ++ ": undocumented\n")
    else [])

/-- The status of a run that came to its end. -/
def status (report : Report) : Nat :=
  if report.isRejected then 1 else 0

/-- The outcome of a run that prints its Markdown. -/
def printed (report : Report) : Outcome :=
  { ending := .exit report.status
    output := report.document
    remarks := report.notices.map .notice ++ report.closing }

/-- The outcome of a run that was to write its Markdown to a file, given what writing
came to. -/
def written (report : Report) (path : Path) (result : Except FileFault Unit) : Outcome :=
  match result with
  | .ok _ =>
    .silent (.exit report.status)
      (report.notices.map .notice
        ++ .notice (.written report.coverage.total path.text) :: report.closing)
  | .error fault =>
    .silent (.failure (.write path fault)) (report.notices.map .notice)

end Report

/-! ## Runs -/

/-- What surrounds a run. -/
structure Surroundings where
  lookup : String → Option String
  workingDirectory : String
  files : FileTree

/-- A run: its outcome, and the files after it. -/
def run (surroundings : Surroundings) (arguments : List String) : Outcome × FileTree :=
  let files := surroundings.files
  let report : Except Outcome Report := do
    let invocation ← start arguments
    invocation.report (.ofEnvironment surroundings.lookup) surroundings.workingDirectory
      (files.read (.ofString invocation.records))
  match report with
  | .error outcome => (outcome, files)
  | .ok report =>
    match report.target? with
    | none => (report.printed, files)
    | some path =>
      match files.write path (Text.Utf8.encode report.document.toList) with
      | .ok later => (report.written path (.ok ()), later)
      | .error fault => (report.written path (.error fault), files)

end SymbolDocs.CommandLine
