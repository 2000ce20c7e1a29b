/-
A run that fails leaves nothing behind.

There are five ways to fail. The arguments are refused; the records cannot be loaded, and
the user is told or is not; a record has a stray name; or the file that is asked for cannot
be written. They are the exits of the stages of a run, in their order, and a run that takes
none of them, nor is asked for help, delivers (`fails_or_delivers`). The output is printed
and the file is written after the last of these exits, so a run that fails has printed
nothing by then and has touched no file, not even the one that it was to write, or the one
that it read, should they be the same.

That an output may not hold what is to be written, because a record was not loaded in full,
is not looked at here.
-/
import SymbolDocs.Proofs.CommandLine.Load

set_option autoImplicit false

namespace SymbolDocs.CommandLine

/-- The ways in which a run fails, and how it ends then. -/
inductive Fails (s : Surroundings) (arguments : List String) : Ending → Prop
  | refused {fault : UsageFault} (hrequest : request arguments = .error fault) :
      Fails s arguments (.exit 2)
  | complained {invocation : Invocation} {fault : LoadFault}
      (hrequest : request arguments = .ok (.run invocation))
      (hload : load s.files (.ofString invocation.records) = .error fault)
      (hreported : fault.isReported = true) : Fails s arguments (.exit 1)
  | overlooked {invocation : Invocation} {fault : LoadFault}
      (hrequest : request arguments = .ok (.run invocation))
      (hload : load s.files (.ofString invocation.records) = .error fault)
      (hreported : fault.isReported = false) : Fails s arguments (.failure (.load fault))
  | strayed {invocation : Invocation} {records : List Record} {stray : Discussion.StrayName}
      (hrequest : request arguments = .ok (.run invocation))
      (hload : load s.files (.ofString invocation.records) = .ok records)
      (hstray : firstStray? records = some stray) : Fails s arguments (.failure (.stray stray))
  /-- The path of the file to write leads to none, whatever is to be written. -/
  | unwritable {invocation : Invocation} {records : List Record} {file : String}
      {fault : FileFault} (hrequest : request arguments = .ok (.run invocation))
      (hload : load s.files (.ofString invocation.records) = .ok records)
      (hstray : firstStray? records = none) (houtput : invocation.output = some file)
      (hwrite : ∀ bytes, s.files.write (.ofString file) bytes = .error fault) :
      Fails s arguments (.failure (.write (.ofString file) fault))

section Runs

variable {s : Surroundings} {arguments : List String} {ending : Ending}

theorem start_of_run {invocation : Invocation}
    (hrequest : request arguments = .ok (.run invocation)) : start arguments = .ok invocation := by
  rw [start, hrequest]

theorem run_of_refused {fault : UsageFault} (hrequest : request arguments = .error fault) :
    run s arguments = (.silent (.exit 2) [.plain fault.report], s.files) := by
  have hstart : start arguments = .error (.silent (.exit 2) [.plain fault.report]) := by
    rw [start, hrequest]
  rw [run, hstart]
  rfl

/-- Each exit is taken before anything is printed or written. -/
theorem run_of_fails (h : Fails s arguments ending) :
    ∃ remarks, run s arguments = (.silent ending remarks, s.files) := by
  cases h with
  | refused hrequest => exact ⟨_, run_of_refused hrequest⟩
  | complained hrequest hload hreported =>
    have hrun := run_of_fault (start_of_run hrequest) hload
    rw [if_pos hreported] at hrun
    exact ⟨_, hrun⟩
  | overlooked hrequest hload hreported =>
    have hrun := run_of_fault (start_of_run hrequest) hload
    rw [hreported, if_neg Bool.false_ne_true] at hrun
    exact ⟨_, hrun⟩
  | strayed hrequest hload hstray =>
    exact ⟨_, run_eq_of_stray (start_of_run hrequest) hload hstray⟩
  | @unwritable invocation records file fault hrequest hload hstray houtput hwrite =>
    have hreport := (report_of_load hload).trans
      (ofRecords_of_no_stray invocation s.settings s.workingDirectory records hstray)
    have htarget : (reportOn invocation s.settings s.workingDirectory records).target?
        = some (.ofString file) := by
      show invocation.output.map Path.ofString = _
      rw [houtput, Option.map_some]
    exact ⟨_, run_of_unwritten (start_of_run hrequest) hreport htarget (hwrite _)⟩

/-- A run that is not asked for help takes one of the exits, or delivers. -/
theorem fails_or_delivers (s : Surroundings) (arguments : List String)
    (hhelp : request arguments ≠ .ok .help) :
    (∃ ending, Fails s arguments ending)
    ∨ ∃ invocation records markdown coverage,
      request arguments = .ok (.run invocation)
      ∧ load s.files (.ofString invocation.records) = .ok records
      ∧ Delivers s invocation records markdown coverage (run s arguments) := by
  cases hrequest : request arguments with
  | error fault => exact .inl ⟨_, .refused hrequest⟩
  | ok asked =>
    cases asked with
    | help => exact absurd hrequest hhelp
    | run invocation =>
      cases hload : load s.files (.ofString invocation.records) with
      | error fault =>
        cases hreported : fault.isReported with
        | true => exact .inl ⟨_, .complained hrequest hload hreported⟩
        | false => exact .inl ⟨_, .overlooked hrequest hload hreported⟩
      | ok records =>
        cases hstray : firstStray? records with
        | some stray => exact .inl ⟨_, .strayed hrequest hload hstray⟩
        | none =>
          by_cases hwritable : ∀ file ∈ invocation.output,
              s.files.isWritable (.ofString file) = true
          · obtain ⟨markdown, coverage, hdelivers⟩ :=
              delivers_of_no_stray (start_of_run hrequest) hload hwritable hstray
            exact .inr ⟨invocation, records, markdown, coverage, rfl, hload, hdelivers⟩
          · simp only [not_forall, Bool.not_eq_true] at hwritable
            obtain ⟨file, hfile, hclosed⟩ := hwritable
            obtain ⟨fault, hwrite⟩ := FileTree.write_of_not_isWritable hclosed
            exact .inl ⟨_, .unwritable hrequest hload hstray hfile hwrite⟩

/-- **A run that fails prints nothing and touches no file.** Its arguments are refused, or its
records are not loaded, or its output file cannot be written, or a record has a stray name;
it ends as the way of failing says, with empty output and with the files as they were. Runs
that do not fail in one of these ways show help or deliver. -/
theorem failed_run_leaves_nothing (s : Surroundings) (arguments : List String) :
    (∀ ending, Fails s arguments ending →
      (run s arguments).1.ending = ending ∧ (run s arguments).1.output = ""
        ∧ (run s arguments).2 = s.files)
    ∧ (request arguments ≠ .ok .help → (¬ ∃ ending, Fails s arguments ending) →
      ∃ invocation records markdown coverage,
        request arguments = .ok (.run invocation)
        ∧ load s.files (.ofString invocation.records) = .ok records
        ∧ Delivers s invocation records markdown coverage (run s arguments)) := by
  constructor
  · intro ending hfails
    obtain ⟨remarks, hrun⟩ := run_of_fails hfails
    rw [hrun]
    exact ⟨rfl, rfl, rfl⟩
  · intro hhelp hnone
    exact (fails_or_delivers s arguments hhelp).resolve_left hnone

/-- A file that is no JSON, and a file that is there already. -/
def unfinishedFile : Surroundings where
  lookup _ := none
  workingDirectory := "/"
  files := [(["r.json"], Text.Utf8.encode "[".toList), (["o.md"], Text.Utf8.encode "old".toList)]

/-- The unfinished text is told about, and neither file is touched, be it the one that was
there or the one that is read. -/
theorem failed_run_leaves_nothing_of_unfinishedFile :
    (run unfinishedFile ["r.json", "-o", "o.md"]).1.ending = .exit 1
      ∧ (run unfinishedFile ["r.json", "-o", "o.md"]).1.output = ""
      ∧ (run unfinishedFile ["r.json", "-o", "o.md"]).2 = unfinishedFile.files
      ∧ (run unfinishedFile ["r.json", "-o", "r.json"]).2 = unfinishedFile.files := by
  have hfault : (match load unfinishedFile.files (.ofString "r.json") with
      | .error fault => fault.isReported
      | .ok _ => false) = true := by decide +kernel
  cases hload : load unfinishedFile.files (.ofString "r.json") with
  | ok records => simp [hload] at hfault
  | error fault =>
    have hreported : fault.isReported = true := by simpa [hload] using hfault
    have hother : request ["r.json", "-o", "o.md"] = .ok (.run { plainRun with output := "o.md" }) :=
      eq_ok_of_toOption (by decide +kernel)
    have hsame : request ["r.json", "-o", "r.json"]
        = .ok (.run { plainRun with output := "r.json" }) := eq_ok_of_toOption (by decide +kernel)
    obtain ⟨hending, houtput, hfiles⟩ := (failed_run_leaves_nothing unfinishedFile _).1 _
      (.complained hother hload hreported)
    obtain ⟨-, -, hfiles'⟩ := (failed_run_leaves_nothing unfinishedFile _).1 _
      (.complained hsame hload hreported)
    exact ⟨hending, houtput, hfiles, hfiles'⟩

end Runs

end SymbolDocs.CommandLine
