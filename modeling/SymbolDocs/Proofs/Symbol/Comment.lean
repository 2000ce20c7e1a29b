/-
What is made of records, apart from stray names.

A comment, a section and an introspection are each a text or a value unless the
discussion of the record has a stray name, and the same for a list of records: there the
first stray name counts. This file says which value it is. With that, faults need no
further thought: what holds of the values holds wherever there are any.

The nodes of markup that is read are shown by their shape, which is never a fault
(`render_of_kind`); so a stray name, which leaves a discussion without nodes, is the only
fault there is.
-/
import SymbolDocs.Coverage
import SymbolDocs.Notice
import SymbolDocs.Proofs.Discussion.Dispatch
import SymbolDocs.Proofs.Symbol.Fields

set_option autoImplicit false

namespace SymbolDocs

open Discussion (StrayName)

/-! ## Values unless there is a fault -/

/-- A value, unless there is a fault. -/
def unlessFault {ε α : Type} (fault : Option ε) (value : α) : Except ε α :=
  match fault with
  | some e => .error e
  | none => .ok value

section UnlessFault

variable {ε α β : Type}

/-- A fault is kept by whatever is done to the value. -/
theorem map_unlessFault (fault : Option ε) (value : α) (f : α → β) :
    (unlessFault fault value).map f = unlessFault fault (f value) := by
  cases fault <;> rfl

theorem exists_unlessFault_eq_ok {fault : Option ε} {value : α} :
    (∃ a, unlessFault fault value = .ok a) ↔ fault = none := by
  cases fault with
  | none => exact ⟨fun _ => rfl, fun _ => ⟨value, rfl⟩⟩
  | some e => exact ⟨fun ⟨_, ha⟩ => absurd ha nofun, nofun⟩

/-- Of several values each of which may be at fault, the first fault counts. -/
theorem mapM_unlessFault (fault : α → Option ε) (value : α → β) (xs : List α) :
    xs.mapM (fun x => unlessFault (fault x) (value x))
      = unlessFault (xs.findSome? fault) (xs.map value) := by
  induction xs with
  | nil => rfl
  | cons x rest ih =>
    rw [List.mapM_cons, ih, List.findSome?_cons, List.map_cons]
    cases fault x with
    | some e => rfl
    | none => cases rest.findSome? fault <;> rfl

theorem eq_ok_of_toOption {result : Except ε α} {value : α} (h : result.toOption = some value) :
    result = .ok value := by
  cases result with
  | ok a => exact congrArg Except.ok (Option.some.inj h)
  | error e => cases h

end UnlessFault

/-! ## The discussion -/

namespace Discussion

/-- What is shown of a node, unless it is empty. -/
def Node.shown? (n : Node) : Option String :=
  n.dispatched.filter fun text => !text.isEmpty

theorem fragment?_of_render {n : Node} (h : n.render = .ok n.dispatched) :
    n.fragment? = .ok n.shown? := by
  rw [Node.fragment?, h]
  rfl

/-- The nodes of markup that is read are shown by their shape. -/
theorem render_of_parse {markup : String} {nodes : List Node} (h : parse markup = .ok nodes)
    {n : Node} (hn : n ∈ nodes) : n.render = .ok n.dispatched := by
  obtain ⟨root, -, -, rfl⟩ := parse_eq_ok_iff.mp h
  exact render_of_kind (kind_of_within_content root.tag.declarations root.content (.top hn))

/-- Nodes that are all shown without a fault give the pieces that their shape calls for. -/
theorem fragments_of_render {nodes : List Node}
    (h : ∀ n ∈ nodes, n.render = .ok n.dispatched) :
    fragments nodes = .ok (nodes.filterMap Node.shown?) := by
  induction nodes with
  | nil => rfl
  | cons n rest ih =>
    rw [fragments, fragment?_of_render (h n List.mem_cons_self),
      ih fun other hother => h other (List.mem_cons_of_mem _ hother), List.filterMap_cons]
    cases n.shown? <;> rfl

end Discussion

/-- What became of the discussion is told by its markup. -/
theorem discussed_of_text? {r : Record} {markup : String}
    (hr : r.text? "docDiscussionXML" = some markup) :
    r.discussed = match Discussion.parse markup with
      | .ok nodes => .ok (showNodes nodes)
      | .error (.malformed fault) => .ok (.malformed fault)
      | .error (.stray stray) => .error stray := by
  have hmarkup : r.string? .discussionMarkup = some markup :=
    (Record.string?_eq_text? r .discussionMarkup).trans hr
  rw [Record.discussed]
  generalize r.string? .discussionMarkup = given at hmarkup ⊢
  subst hmarkup
  rfl

/-- Without markup nothing is discussed. -/
theorem discussed_of_no_text {r : Record} (hr : r.text? "docDiscussionXML" = none) :
    r.discussed = .ok .nothing := by
  have hmarkup : r.string? .discussionMarkup = none :=
    (Record.string?_eq_text? r .discussionMarkup).trans hr
  rw [Record.discussed, hmarkup]

/-- Nodes that were read are not refused any more. -/
theorem showNodes_ne_malformed (nodes : List Discussion.Node) (fault : Markup.Fault) :
    showNodes nodes ≠ .malformed fault := by
  rw [showNodes]
  split <;> exact nofun

/-- Markup that is not refused gives rise to no notice. -/
theorem discussionNotices_of_parse {r : Record} {markup : String}
    (hr : r.text? "docDiscussionXML" = some markup)
    (h : ∀ fault, Discussion.parse markup ≠ .error (.malformed fault)) :
    r.discussionNotices = [] := by
  rw [Record.discussionNotices, discussed_of_text? hr]
  cases hparse : Discussion.parse markup with
  | ok nodes =>
    dsimp only
    split
    · rename_i fault hfault
      exact absurd (Except.ok.inj hfault) (showNodes_ne_malformed nodes fault)
    · rfl
  | error fault =>
    cases fault with
    | malformed fault => exact absurd hparse (h fault)
    | stray stray => rfl

namespace Record

/-- The stray name in the discussion markup of a record, if there is one. -/
def stray? (r : Record) : Option StrayName :=
  match r.text? "docDiscussionXML" with
  | none => none
  | some markup =>
    match Discussion.parse markup with
    | .error (.stray stray) => some stray
    | _ => none

/-- The discussion as running text. It is empty where there is no markup, or markup that
is refused. -/
def running (r : Record) : String :=
  match r.text? "docDiscussionXML" with
  | none => ""
  | some markup =>
    match Discussion.parse markup with
    | .ok nodes => String.intercalate "\n\n" (nodes.filterMap Discussion.Node.shown?)
    | .error _ => ""

/-- The text of the comment. -/
def prose (r : Record) : String :=
  Markdown.joinNonEmpty "\n\n" [r.abstract?.getD "", r.running, r.callouts?.getD ""]

/-- The discussion of a record is its running text, unless a name is stray. -/
theorem discussion?_eq (r : Record) :
    r.discussion?.map (·.getD "") = unlessFault r.stray? r.running := by
  rw [discussion?, stray?, running]
  cases hr : r.text? "docDiscussionXML" with
  | none =>
    rw [discussed_of_no_text hr]
    rfl
  | some markup =>
    rw [discussed_of_text? hr]
    simp only
    cases hparse : Discussion.parse markup with
    | error fault => cases fault <;> rfl
    | ok nodes =>
      have hfragments := Discussion.fragments_of_render fun _ hn =>
        Discussion.render_of_parse hparse hn
      simp only [showNodes, hfragments]
      cases nodes.filterMap Discussion.Node.shown? <;> rfl

/-! ## Comments, sections and introspections -/

/-- The comment of a record is its text, unless there is a stray name. -/
theorem comment_eq (r : Record) : r.comment = unlessFault r.stray? r.prose := by
  have hjoin : r.comment = (r.discussion?.map (·.getD "")).map fun discussion =>
      Markdown.joinNonEmpty "\n\n" [r.abstract?.getD "", discussion, r.callouts?.getD ""] := by
    rw [comment]
    cases r.discussion? <;> rfl
  rw [hjoin, discussion?_eq, map_unlessFault, prose]

/-- The section of a record has its prose for a comment, unless a name is stray. -/
theorem showSection_eq (settings : Settings) (level : Int) (r : Record) :
    r.showSection settings level none
      = unlessFault r.stray? (r.sectionWith settings level r.prose) := by
  rw [showSection, commentOr, comment_eq, map_unlessFault]

/-- The introspection of a record has its prose for a comment, unless a name is stray. -/
theorem introspect_eq (settings : Settings) (workingDirectory : String) (r : Record) :
    r.introspect settings workingDirectory none
      = unlessFault r.stray? (r.introspectWith settings workingDirectory r.prose) := by
  rw [introspect, commentOr, comment_eq, map_unlessFault]

end Record

/-! ## Lists of records -/

/-- The first stray name in the discussions of some records. -/
def firstStray? (records : List Record) : Option StrayName :=
  records.findSome? Record.stray?

theorem firstStray?_eq_none_iff {records : List Record} :
    firstStray? records = none ↔ ∀ r ∈ records, r.stray? = none :=
  List.findSome?_eq_none_iff

/-- Comments of a batch: all of them, or the first stray name. -/
theorem mapM_comment (records : List Record) :
    records.mapM Record.comment = unlessFault (firstStray? records) (records.map Record.prose) := by
  rw [funext Record.comment_eq, mapM_unlessFault, firstStray?]

/-- Sections of a batch: all of them, or the first stray name. -/
theorem mapM_showSection (settings : Settings) (level : Int) (records : List Record) :
    records.mapM (Record.showSection settings level none)
      = unlessFault (firstStray? records)
          (records.map fun r => r.sectionWith settings level r.prose) := by
  rw [funext (Record.showSection_eq settings level), mapM_unlessFault, firstStray?]

/-- Introspections of a batch: all of them, or the first stray name. -/
theorem mapM_introspect (settings : Settings) (workingDirectory : String)
    (records : List Record) :
    records.mapM (Record.introspect settings workingDirectory none)
      = unlessFault (firstStray? records)
          (records.map fun r => r.introspectWith settings workingDirectory r.prose) := by
  rw [funext (Record.introspect_eq settings workingDirectory), mapM_unlessFault, firstStray?]

/-- Where the comments are those of the records, so are the sections. -/
theorem sectionsWith_prose (settings : Settings) (level : Int) (records : List Record) :
    sectionsWith settings level (records.map Record.prose) records
      = String.intercalate sectionRule
          (records.map fun r => r.sectionWith settings level r.prose) := by
  rw [sectionsWith, List.zipWith_map_right, List.zipWith_self]

/-- The sections of several records are the sections of each. -/
theorem showSections_eq (settings : Settings) (level : Int) (records : List Record) :
    showSections settings level none records
      = unlessFault (firstStray? records)
          (String.intercalate sectionRule
            (records.map fun r => r.sectionWith settings level r.prose)) := by
  have hzip : (records.zip (records.map fun _ => none)).mapM
      (fun p : Record × Option String => p.1.commentOr p.2) = records.mapM Record.comment := by
    rw [← List.map_prod_left_eq_zip, List.mapM_map]
    rfl
  rw [showSections, Option.getD_none, hzip, mapM_comment, ← sectionsWith_prose]
  cases firstStray? records <;> rfl

/-- The coverage of several records counts the introspections of each. -/
theorem ofRecords_eq (settings : Settings) (workingDirectory : String)
    (records : List Record) :
    Coverage.ofRecords settings workingDirectory records
      = unlessFault (firstStray? records)
          (.ofSymbols (records.map fun r =>
            r.introspectWith settings workingDirectory r.prose)) := by
  rw [Coverage.ofRecords, mapM_introspect, map_unlessFault]

/-! ## A stray name -/

/-- A record with a summary, and with markup in which a prefix is not declared. The markup
is read all the same, since an instruction after the element is remarked on last. -/
def strayRecord : Record :=
  { members := [("name", .string "f"), ("docAbstract", .string "s"),
      ("docDiscussionXML", .string "<r><p:a/><?xmlx?></r>")] }

theorem stray?_strayRecord : strayRecord.stray? = some { name := "p:a" } := by
  decide +kernel

end SymbolDocs
