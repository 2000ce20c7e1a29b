/-
Refused markup is warned of once.

The warnings of a run are accounted for by its records: one for each record whose markup is
refused, in the order of the records, by the name of the record, and none besides
(`Accounts`). A comment is made once for each record, and only making it gives rise to a
warning. What becomes of the comments afterwards does not: neither the sections and the
coverage, which are both made from them, nor the file that the sections may go to, whether
or not it can be written. Which notices are shown depends on the arguments, but a warning is
shown in any case.

A stray name ends the run when the record with it is reached. Then only the records before
that one are accounted for.
-/
import SymbolDocs.Proofs.CommandLine.Run
import SymbolDocs.Proofs.Symbol.Batch

set_option autoImplicit false

namespace SymbolDocs

/-! ## Warnings -/

/-- Whether a notice is a warning. -/
def Notice.isWarning (notice : Notice) : Bool :=
  notice.level = .warning

namespace Record

/-- How a warning calls a record. -/
def nameInWarnings (r : Record) : String :=
  ((r.text? "name").filter (· ≠ "")).getD "unnamed symbol"

/-- A notice warns that the markup of a record was refused, whatever the style. -/
def WarnedBy (r : Record) (notice : Notice) : Prop :=
  notice.level = .warning
    ∧ ∃ markup fault, r.text? "docDiscussionXML" = some markup
      ∧ Discussion.parse markup = .error (.malformed fault)
      ∧ ∀ style : Notice.Style, notice.channel style = "sourcedocs.discussion"
        ∧ notice.message style
          = "Skipping discussion of " ++ r.nameInWarnings ++ ": "
            ++ ("Cannot parse discussion markup: " ++ style.detail fault)

end Record

/-- Records, and the warnings that are due to them. -/
inductive Accounts : List Record → List Notice → Prop
  | nil : Accounts [] []
  | refused {r : Record} {notice : Notice} {records : List Record} {warnings : List Notice}
      (hwarned : r.WarnedBy notice) (hrest : Accounts records warnings) :
      Accounts (r :: records) (notice :: warnings)
  | other {r : Record} {records : List Record} {warnings : List Notice}
      (hother : ¬ r.IsRefused) (hrest : Accounts records warnings) :
      Accounts (r :: records) warnings

/-- Without a warning there is no record whose markup is refused. -/
theorem Accounts.not_refused {records : List Record} {warnings : List Notice}
    (h : Accounts records warnings) (hnone : warnings = []) : ∀ r ∈ records, ¬ r.IsRefused := by
  induction h with
  | nil => exact fun _ hr => absurd hr List.not_mem_nil
  | refused => exact absurd hnone (List.cons_ne_nil _ _)
  | other hother _ ih => exact List.forall_mem_cons.mpr ⟨hother, ih hnone⟩

/-! ## The notices of a record -/

theorem Notice.message_skippedDiscussion (style : Notice.Style) (name : Option String)
    (fault : Markup.Fault) :
    (Notice.skippedDiscussion name fault).message style
      = "Skipping discussion of " ++ name.getD "unnamed symbol" ++ ": "
        ++ ("Cannot parse discussion markup: " ++ style.detail fault) :=
  rfl

namespace Record

variable {r : Record}

theorem nonEmpty?_name_getD (r : Record) :
    (r.nonEmpty? .name).getD "unnamed symbol" = r.nameInWarnings := by
  rw [nonEmpty?, string?_eq_text?, Field.key, nameInWarnings]
  cases r.text? "name" with
  | none => rfl
  | some name => by_cases hname : name = "" <;> simp [Option.filter, hname]

/-- Values that are no entries are told about in notices that are no warnings. -/
theorem filter_malformedEntries (values : List Json) :
    (values.map Notice.malformedEntry).filter Notice.isWarning = [] := by
  rw [List.filter_eq_nil_iff]
  intro notice hnotice
  obtain ⟨value, -, rfl⟩ := List.mem_map.mp hnotice
  exact Bool.false_ne_true

theorem exists_discussed_of_no_stray (h : r.stray? = none) :
    ∃ discussed, r.discussed = .ok discussed := by
  rw [stray?] at h
  cases hmarkup : r.text? "docDiscussionXML" with
  | none => exact ⟨_, discussed_of_no_text hmarkup⟩
  | some markup =>
    rw [discussed_of_text? hmarkup]
    simp only [hmarkup] at h
    cases hparse : Discussion.parse markup with
    | ok nodes => exact ⟨_, rfl⟩
    | error fault =>
      cases fault with
      | malformed fault => exact ⟨_, rfl⟩
      | stray stray => simp [hparse] at h

/-- Without a stray name, the warnings of a record are those of its discussion. -/
theorem warnings_of_no_stray (h : r.stray? = none) :
    r.notices.filter Notice.isWarning = r.discussionNotices.filter Notice.isWarning := by
  obtain ⟨discussed, hdiscussed⟩ := exists_discussed_of_no_stray h
  rw [notices, hdiscussed, List.filter_append, filter_malformedEntries, List.append_nil]

theorem discussionNotices_of_not_refused (h : ¬ r.IsRefused) : r.discussionNotices = [] := by
  cases hmarkup : r.text? "docDiscussionXML" with
  | none => rw [discussionNotices, discussed_of_no_text hmarkup]
  | some markup =>
    apply discussionNotices_of_parse hmarkup
    intro fault hfault
    exact h ⟨markup, fault, hmarkup, hfault⟩

/-- Refused markup gives rise to one notice, and that is a warning. -/
theorem discussionNotices_of_refused (h : r.IsRefused) :
    ∃ notice, r.discussionNotices = [notice] ∧ r.WarnedBy notice := by
  obtain ⟨markup, fault, hmarkup, hfault⟩ := h
  refine ⟨.skippedDiscussion (r.nonEmpty? .name) fault, ?_, ?_⟩
  · rw [discussionNotices, discussed_of_text? hmarkup, hfault]
  · rw [WarnedBy]
    refine ⟨rfl, markup, fault, hmarkup, hfault, fun style => ⟨rfl, ?_⟩⟩
    rw [Notice.message_skippedDiscussion, nonEmpty?_name_getD]

end Record

/-- One record more: its warning comes before the others, if it has one. -/
theorem accounts_cons {r : Record} {records : List Record} {warnings : List Notice}
    (hstray : r.stray? = none) (hrest : Accounts records warnings) :
    Accounts (r :: records) (r.notices.filter Notice.isWarning ++ warnings) := by
  rw [Record.warnings_of_no_stray hstray]
  by_cases hrefused : r.IsRefused
  · obtain ⟨notice, hnotice, hwarned⟩ := Record.discussionNotices_of_refused hrefused
    have hwarning : notice.isWarning = true := by simp [Notice.isWarning, hwarned.1]
    rw [hnotice, List.filter_cons_of_pos hwarning]
    exact .refused hwarned hrest
  · rw [Record.discussionNotices_of_not_refused hrefused]
    exact .other hrefused hrest

/-- The warnings among the notices of records are those that are due to them. -/
theorem accounts_notices {records : List Record} (h : firstStray? records = none) :
    Accounts records ((records.flatMap Record.notices).filter Notice.isWarning) := by
  induction records with
  | nil => exact .nil
  | cons r rest ih =>
    rw [firstStray?_eq_none_iff, List.forall_mem_cons] at h
    rw [List.flatMap_cons, List.filter_append]
    exact accounts_cons h.1 (ih (firstStray?_eq_none_iff.mpr h.2))

namespace CommandLine

/-! ## The warnings of a run -/

/-- The notice that a remark is. -/
def Remark.notice? : Remark → Option Notice
  | .plain _ => none
  | .notice n => some n

/-- The warnings of a run, in order. -/
def Outcome.warnings (outcome : Outcome) : List Notice :=
  (outcome.remarks.filterMap Remark.notice?).filter Notice.isWarning

theorem filterMap_notice?_map (notices : List Notice) :
    (notices.map Remark.notice).filterMap Remark.notice? = notices := by
  rw [List.filterMap_map]
  exact List.filterMap_some

theorem filterMap_notice?_closing (report : Report) :
    report.closing.filterMap Remark.notice? = [] := by
  rw [List.filterMap_eq_nil_iff]
  intro remark hremark
  rw [Report.closing, List.mem_cons] at hremark
  rcases hremark with rfl | hremark
  · rfl
  · split at hremark
    · obtain ⟨name, -, rfl⟩ := List.mem_map.mp hremark
      rfl
    · exact absurd hremark List.not_mem_nil

/-- Whatever level is asked for, warnings are shown. -/
theorem filter_noticesOn (invocation : Invocation) (records : List Record) :
    (invocation.noticesOn records).filter Notice.isWarning
      = (records.flatMap Record.notices).filter Notice.isWarning := by
  rw [Invocation.noticesOn, List.filter_filter]
  apply List.filter_congr
  intro notice _
  cases hlevel : notice.level with
  | warning => cases hverbose : invocation.verbose <;>
      simp [Notice.isWarning, hlevel, Invocation.level, hverbose, Level.reaches, Level.rank]
  | _ => simp [Notice.isWarning, hlevel]

section Runs

variable {s : Surroundings} {arguments : List String} {invocation : Invocation}
  {records : List Record}

/-- The warnings of a run with a report are those of the report, whether the sections are
printed, written, or cannot be written. -/
theorem warnings_run {report : Report} (haccepted : start arguments = .ok invocation)
    (hreport : invocation.report s.settings s.workingDirectory
      (s.files.read (.ofString invocation.records)) = .ok report) :
    (run s arguments).1.warnings = report.notices.filter Notice.isWarning := by
  cases htarget : report.target? with
  | none =>
    rw [run_of_printed haccepted hreport htarget, Outcome.warnings, Report.printed,
      List.filterMap_append, filterMap_notice?_map, filterMap_notice?_closing, List.append_nil]
  | some path =>
    cases hwrite : s.files.write path (Text.Utf8.encode report.document.toList) with
    | ok later =>
      rw [run_of_written haccepted hreport htarget hwrite, Outcome.warnings, Report.written,
        Outcome.silent, List.filterMap_append, filterMap_notice?_map, List.filter_append]
      -- That the file was written is told in a notice, but not in a warning.
      simp [Remark.notice?, filterMap_notice?_closing, Notice.isWarning, Notice.level]
    | error fault =>
      rw [run_of_unwritten haccepted hreport htarget hwrite, Outcome.warnings, Report.written,
        Outcome.silent, filterMap_notice?_map]

theorem accounts_run_of_no_stray (haccepted : start arguments = .ok invocation)
    (hload : load s.files (.ofString invocation.records) = .ok records)
    (hstray : firstStray? records = none) :
    Accounts records (run s arguments).1.warnings := by
  have hreport := (report_of_load hload).trans
    (ofRecords_of_no_stray invocation s.settings s.workingDirectory records hstray)
  rw [warnings_run haccepted hreport]
  show Accounts records ((invocation.noticesOn records).filter Notice.isWarning)
  rw [filter_noticesOn]
  exact accounts_notices hstray

/-- The records before a stray name are those whose comments are made. -/
theorem takeWhile_isOk {before after : List Record} {r : Record} {stray : Discussion.StrayName}
    (hbefore : firstStray? before = none) (hr : r.stray? = some stray) :
    ((before ++ r :: after).takeWhile fun other => other.comment.isOk) = before := by
  have hmade : ∀ other ∈ before, other.comment.isOk = true := by
    intro other hother
    rw [Record.comment_eq, firstStray?_eq_none_iff.mp hbefore other hother]
    rfl
  have hended : r.comment.isOk = false := by
    rw [Record.comment_eq, hr]
    rfl
  rw [List.takeWhile_append_of_pos hmade, List.takeWhile_cons_of_neg (by simp [hended]),
    List.append_nil]

/-- Two records whose markup is refused, one of them without a name, and one between them
whose markup is in order. -/
def twoRefused : Surroundings :=
  oneFile ("[\x7b\"name\":\"f\",\"docDiscussionXML\":\"<d>\"\x7d,"
    ++ "\x7b\"name\":\"g\",\"docDiscussionXML\":\"<d/>\"\x7d,"
    ++ "\x7b\"name\":1,\"docDiscussionXML\":\"\"\x7d]")

/-- A run that is asked for everything at once. -/
def busyRun : Invocation :=
  { records := "r.json", output := some "o.md", strict := true, verbose := true }

/-- A record with a stray name, and one whose markup is refused. -/
def strayAndRefused : Surroundings :=
  oneFile ("[\x7b\"name\":\"f\",\"docDiscussionXML\":\"<r><p:a/><?xmlx?></r>\"\x7d,"
    ++ "\x7b\"name\":\"g\",\"docDiscussionXML\":\"<d>\"\x7d]")

end Runs

end CommandLine

end SymbolDocs
