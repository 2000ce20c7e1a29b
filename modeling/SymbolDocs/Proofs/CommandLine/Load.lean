/-
What loading records comes to, by what the file holds.

Three things can happen. The file holds a list of objects, written as JSON in UTF-8, and
they are loaded. Or the user is told what is wrong: the file cannot be read, its text is
no JSON, its value no list, or an item of the list no object. Or loading fails in a way
that those who load records do not expect, and there are three of these: the path has a
character that no path has, the bytes are those of no text, or the text goes beyond the
limits of the reader. Which of the three happens is said here without the loader: by the
bytes read, the texts they encode, and the values these write. A surrogate without its other
half is no fault; the values have a stand-in for it.

A run ends accordingly. A fault of which the user is told gives one line and the status
one; the others end it without any status.
-/
import SymbolDocs.Proofs.CommandLine.Run
import SymbolDocs.Proofs.Json.Limits
import SymbolDocs.Proofs.Text.Utf8

set_option autoImplicit false

namespace SymbolDocs.CommandLine

open Text (unifyLineEnds)

/-! ## What a file holds -/

section Content

variable (tree : FileTree) (path : Path)

/-- A file holds a text. -/
def HoldsText (text : List Char) : Prop :=
  tree.read path = .ok (Text.Utf8.encode text)

/-- A file holds a value, written as JSON. -/
def HoldsValue (value : Json) : Prop :=
  ∃ text, HoldsText tree path text ∧ Json.parse (unifyLineEnds text) = .ok value

/-- A file holds a list of objects. -/
def HoldsRecords (records : List Record) : Prop :=
  HoldsValue tree path (.array (records.map fun r => .object r.members))

/-- What the user is told about a file. -/
inductive Complaint : String → Prop where
  | unreadable {cause : FileFault} (hread : tree.read path = .error cause)
      (hpath : '\x00' ∉ path.text.toList) :
      Complaint ("Cannot read records from " ++ path.text ++ ": " ++ cause.message path)
  | noJson {text : List Char} {fault : Json.Fault} (htext : HoldsText tree path text)
      (hparse : Json.parse (unifyLineEnds text) = .error fault)
      (hlimit : fault.cause.isLimit = false) :
      Complaint ("Cannot read records from " ++ path.text ++ ": " ++ fault.message)
  | noList {value : Json} (hvalue : HoldsValue tree path value)
      (hlist : ∀ items, value ≠ .array items) :
      Complaint (path.text ++ ": expected a JSON list of records")
  /-- The item that is told about is the first that is no object. -/
  | noObject {before : List Record} {item : Json} {rest : List Json}
      (hvalue : HoldsValue tree path
        (.array ((before.map fun r => .object r.members) ++ item :: rest)))
      (hitem : ∀ members, item ≠ .object members) :
      Complaint (path.text ++ ": record " ++ toString before.length ++ " is not an object")

/-- What the user is not told about. -/
inductive Overlooked : Prop where
  | impossiblePath (hpath : '\x00' ∈ path.text.toList)
  | foreignBytes {bytes : List UInt8} (hread : tree.read path = .ok bytes)
      (hbytes : ∀ text, Text.Utf8.encode text ≠ bytes)
  | beyondLimits {text : List Char} {fault : Json.Fault} (htext : HoldsText tree path text)
      (hparse : Json.parse (unifyLineEnds text) = .error fault)
      (hlimit : fault.cause.isLimit = true)

end Content

/-! ## The items of a list -/

theorem ofJson?_eq_some_iff {item : Json} {record : Record} :
    Record.ofJson? item = some record ↔ item = .object record.members := by
  rw [Record.ofJson?, Option.map_eq_some_iff]
  constructor
  · rintro ⟨members, hmembers, rfl⟩
    cases item with
    | object _ => rw [Option.some.inj hmembers]
    | _ => cases hmembers
  · rintro rfl
    exact ⟨record.members, rfl, rfl⟩

theorem ofJson?_eq_none_iff {item : Json} :
    Record.ofJson? item = none ↔ ∀ members, item ≠ .object members := by
  rw [Option.eq_none_iff_forall_ne_some]
  constructor
  · intro h members hitem
    exact h ⟨members⟩ (ofJson?_eq_some_iff.mpr hitem)
  · intro h record hitem
    exact h record.members (ofJson?_eq_some_iff.mp hitem)

/-- The value of a record. -/
theorem ofJson?_object (record : Record) :
    Record.ofJson? (.object record.members) = some record :=
  rfl

/-- Objects at the front of a list are loaded, and move the index on. -/
theorem recordsFrom_append (path : Path) (before : List Record) (rest : List Json)
    (index : Nat) :
    recordsFrom path index ((before.map fun r => .object r.members) ++ rest)
      = (recordsFrom path (index + before.length) rest).map (before ++ ·) := by
  induction before generalizing index with
  | nil =>
    show recordsFrom path index rest = (recordsFrom path index rest).map fun more => more
    cases recordsFrom path index rest <;> rfl
  | cons record others ih =>
    rw [List.map_cons, List.cons_append, recordsFrom, ofJson?_object]
    show (recordsFrom path (index + 1) _).map (record :: ·) = _
    rw [ih, List.length_cons, show index + (others.length + 1) = index + 1 + others.length by omega]
    cases recordsFrom path (index + 1 + others.length) rest <;> rfl

/-- The items of a list are all objects, or there is a first one that is not. -/
theorem exists_objects (items : List Json) :
    ∃ before : List Record, items = before.map (fun r => .object r.members)
      ∨ ∃ item rest, items = (before.map fun r => .object r.members) ++ item :: rest
        ∧ ∀ members, item ≠ .object members := by
  induction items with
  | nil => exact ⟨[], .inl rfl⟩
  | cons item rest ih =>
    cases hitem : Record.ofJson? item with
    | none => exact ⟨[], .inr ⟨item, rest, rfl, ofJson?_eq_none_iff.mp hitem⟩⟩
    | some record =>
      have hrecord := ofJson?_eq_some_iff.mp hitem
      obtain ⟨before, hall | ⟨other, more, hmore, hother⟩⟩ := ih
      · exact ⟨record :: before, .inl (by rw [List.map_cons, hrecord, hall])⟩
      · refine ⟨record :: before, .inr ⟨other, more, ?_, hother⟩⟩
        rw [List.map_cons, List.cons_append, hrecord, hmore]

/-! ## Loading by what the file holds -/

section Loading

variable {tree : FileTree} {path : Path}

/-- Loading a file that holds a text comes to what the text is as JSON. -/
theorem load_of_text {text : List Char} (h : HoldsText tree path text) :
    load tree path = match Json.parse (unifyLineEnds text) with
      | .error fault => .error (.malformed path fault)
      | .ok (.array items) => recordsFrom path 0 items
      | .ok _ => .error (.notList path) := by
  have hdecode := Text.Utf8.decode_eq_ok_iff.mpr (rfl : Text.Utf8.encode text = _)
  rw [HoldsText] at h
  rw [load, h]
  simp only [recordsOf, recordsWith, bind, Except.bind, Except.mapError, hdecode]
  rw [← Json.parse]
  cases Json.parse (unifyLineEnds text) with
  | error fault => rfl
  | ok value => cases value <;> rfl

/-- Loading a list comes to what its items are. -/
theorem load_of_array {items : List Json} (h : HoldsValue tree path (.array items)) :
    load tree path = recordsFrom path 0 items := by
  obtain ⟨text, htext, hparse⟩ := h
  rw [load_of_text htext, hparse]

/-- A list of objects is loaded as records. -/
theorem load_of_holdsRecords {records : List Record} (h : HoldsRecords tree path records) :
    load tree path = .ok records := by
  have hall := recordsFrom_append path records [] 0
  rw [List.append_nil] at hall
  rw [load_of_array h, hall]
  show Except.ok (records ++ []) = _
  rw [List.append_nil]

/-- A character that no path has is seen before the system is asked. -/
theorem read_of_impossiblePath (h : '\x00' ∈ path.text.toList) :
    tree.read path = .error .nullCharacter := by
  rw [FileTree.read, FileTree.target, if_pos (List.contains_iff_mem.mpr h)]

theorem follow_ne_impossible (place : Option (List String)) (parts : List String) :
    tree.follow place parts ≠ .impossible := by
  fun_induction FileTree.follow tree place parts
  all_goals first | assumption | simp

/-- Every other fault in reading a file comes from the system. -/
theorem isReported_of_possiblePath {cause : FileFault} (hread : tree.read path = .error cause)
    (hpath : '\x00' ∉ path.text.toList) : cause.isReported = true := by
  have htarget : tree.target path ≠ .impossible := by
    rw [FileTree.target, if_neg (mt List.contains_iff_mem.mp hpath)]
    split
    · simp
    · exact follow_ne_impossible _ _
  rw [FileTree.read] at hread
  cases h : tree.target path with
  | impossible => exact absurd h htarget
  | file place bytes =>
    rw [h] at hread
    cases hread
  | _ =>
    rw [h] at hread
    obtain rfl := Except.error.inj hread
    rfl

/-- What calls for a complaint is complained of, in its own words. -/
theorem load_of_complaint {message : String} (h : Complaint tree path message) :
    ∃ fault, load tree path = .error fault ∧ fault.isReported = true
      ∧ fault.message = message := by
  cases h with
  | @unreadable cause hread hpath =>
    have hreported := isReported_of_possiblePath hread hpath
    refine ⟨.unreadable path cause, by rw [load, hread]; rfl, hreported, ?_⟩
    show (if cause.isReported then LoadFault.aboutFile path (cause.message path)
      else cause.message path) = _
    rw [if_pos hreported]
    rfl
  | @noJson text fault htext hparse hlimit =>
    have hreported : (LoadFault.malformed path fault).isReported = true := by
      rw [LoadFault.isReported, hlimit]
      rfl
    refine ⟨.malformed path fault, by rw [load_of_text htext, hparse], hreported, ?_⟩
    show (if (LoadFault.malformed path fault).isReported then
      LoadFault.aboutFile path fault.message else fault.message) = _
    rw [if_pos hreported]
    rfl
  | @noList value hvalue hlist =>
    obtain ⟨text, htext, hparse⟩ := hvalue
    refine ⟨.notList path, ?_, rfl, rfl⟩
    rw [load_of_text htext, hparse]
    cases value with
    | array items => exact absurd rfl (hlist items)
    | _ => rfl
  | @noObject before item rest hvalue hitem =>
    refine ⟨.notObject path before.length, ?_, rfl, rfl⟩
    rw [load_of_array hvalue, recordsFrom_append, recordsFrom, ofJson?_eq_none_iff.mpr hitem,
      Nat.zero_add]
    rfl

/-- What is overlooked ends the loading with a fault that no one is told of. -/
theorem load_of_overlooked (h : Overlooked tree path) :
    ∃ fault, load tree path = .error fault ∧ fault.isReported = false := by
  cases h with
  | impossiblePath hpath =>
    exact ⟨.unreadable path .nullCharacter, by rw [load, read_of_impossiblePath hpath]; rfl, rfl⟩
  | @foreignBytes bytes hread hbytes =>
    cases hdecode : Text.Utf8.decode bytes with
    | ok text => exact absurd (Text.Utf8.decode_eq_ok_iff.mp hdecode) (hbytes text)
    | error fault =>
      refine ⟨.undecodable fault, ?_, rfl⟩
      rw [load, hread]
      simp only [recordsOf, recordsWith, bind, Except.bind, Except.mapError, hdecode]
  | @beyondLimits text fault htext hparse hlimit =>
    refine ⟨.malformed path fault, by rw [load_of_text htext, hparse], ?_⟩
    rw [LoadFault.isReported, hlimit]
    rfl

/-- A file that holds a text within the limits is not overlooked. -/
theorem not_overlooked_of_text {text : List Char} (htext : HoldsText tree path text)
    (hwithin : ¬ Json.Exceeds Json.depthLimit (unifyLineEnds text)) :
    ¬ Overlooked tree path := by
  rintro (hpath | ⟨hread, hbytes⟩ | ⟨hother, hparse, hlimit⟩)
  · exact absurd ((read_of_impossiblePath hpath).symm.trans htext) nofun
  · exact hbytes text (Except.ok.inj (htext.symm.trans hread))
  · -- The bytes of a file are those of one text.
    have hsame := Text.Utf8.decode_eq_ok_iff.mpr (Except.ok.inj (hother.symm.trans htext))
    obtain rfl := Except.ok.inj (hsame.symm.trans (Text.Utf8.decode_eq_ok_iff.mpr rfl))
    exact hwithin (Json.exceeds_of_isLimit hparse hlimit)

/-- One of the three is the case. The cases are the stages of loading. -/
theorem loads_or_complains_or_overlooks (tree : FileTree) (path : Path) :
    (∃ records, HoldsRecords tree path records) ∨ (∃ message, Complaint tree path message)
      ∨ Overlooked tree path := by
  cases hread : tree.read path with
  | error cause =>
    by_cases hpath : '\x00' ∈ path.text.toList
    · exact .inr (.inr (.impossiblePath hpath))
    · exact .inr (.inl ⟨_, .unreadable hread hpath⟩)
  | ok bytes =>
    by_cases hbytes : ∀ text, Text.Utf8.encode text ≠ bytes
    · exact .inr (.inr (.foreignBytes hread hbytes))
    obtain ⟨text, htext⟩ := not_forall_not.mp hbytes
    rw [← htext] at hread
    cases hparse : Json.parse (unifyLineEnds text) with
    | error fault =>
      cases hlimit : fault.cause.isLimit with
      | true => exact .inr (.inr (.beyondLimits hread hparse hlimit))
      | false => exact .inr (.inl ⟨_, .noJson hread hparse hlimit⟩)
    | ok value =>
      have hvalue : HoldsValue tree path value := ⟨text, hread, hparse⟩
      by_cases hlist : ∀ items, value ≠ .array items
      · exact .inr (.inl ⟨_, .noList hvalue hlist⟩)
      obtain ⟨items, rfl⟩ := not_forall_not.mp hlist
      obtain ⟨before, rfl | ⟨item, rest, rfl, hitem⟩⟩ := exists_objects items
      · exact .inl ⟨before, hvalue⟩
      · exact .inr (.inl ⟨_, .noObject hvalue hitem⟩)

/-- Records are loaded just from a list of objects. -/
theorem load_eq_ok_iff {records : List Record} :
    load tree path = .ok records ↔ HoldsRecords tree path records := by
  refine ⟨fun hload => ?_, load_of_holdsRecords⟩
  rcases loads_or_complains_or_overlooks tree path with ⟨others, hholds⟩ | ⟨_, hcomplaint⟩ | hover
  · rw [load_of_holdsRecords hholds] at hload
    exact Except.ok.inj hload ▸ hholds
  · obtain ⟨fault, hfault, -⟩ := load_of_complaint hcomplaint
    exact absurd (hload.symm.trans hfault) nofun
  · obtain ⟨fault, hfault, -⟩ := load_of_overlooked hover
    exact absurd (hload.symm.trans hfault) nofun

/-- A complaint is made just where one is called for. -/
theorem complaint_iff {message : String} :
    (∃ fault, load tree path = .error fault ∧ fault.isReported = true
      ∧ fault.message = message) ↔ Complaint tree path message := by
  refine ⟨?_, load_of_complaint⟩
  rintro ⟨fault, hload, hreported, rfl⟩
  rcases loads_or_complains_or_overlooks tree path with ⟨_, hholds⟩ | ⟨_, hcomplaint⟩ | hover
  · exact absurd (hload.symm.trans (load_of_holdsRecords hholds)) nofun
  · obtain ⟨other, hother, -, hmessage⟩ := load_of_complaint hcomplaint
    obtain rfl := Except.error.inj (hload.symm.trans hother)
    exact hmessage ▸ hcomplaint
  · obtain ⟨other, hother, hnot⟩ := load_of_overlooked hover
    obtain rfl := Except.error.inj (hload.symm.trans hother)
    exact absurd (hreported.symm.trans hnot) nofun

/-- A fault goes untold just where it is overlooked. -/
theorem overlooked_iff :
    (∃ fault, load tree path = .error fault ∧ fault.isReported = false)
      ↔ Overlooked tree path := by
  refine ⟨?_, load_of_overlooked⟩
  rintro ⟨fault, hload, hnot⟩
  rcases loads_or_complains_or_overlooks tree path with ⟨_, hholds⟩ | ⟨_, hcomplaint⟩ | hover
  · exact absurd (hload.symm.trans (load_of_holdsRecords hholds)) nofun
  · obtain ⟨other, hother, hreported, -⟩ := load_of_complaint hcomplaint
    obtain rfl := Except.error.inj (hload.symm.trans hother)
    exact absurd (hreported.symm.trans hnot) nofun
  · exact hover

end Loading

/-! ## Runs -/

section Runs

variable {s : Surroundings} {arguments : List String} {invocation : Invocation}

/-- A run on records that are not loaded ends at once. -/
theorem run_of_fault {fault : LoadFault} (haccepted : start arguments = .ok invocation)
    (hload : load s.files (.ofString invocation.records) = .error fault) :
    run s arguments
      = (if fault.isReported then
          .silent (.exit 1) [.plain (cross ++ fault.message ++ "\n")]
        else .silent (.failure (.load fault)) [], s.files) := by
  rw [load] at hload
  refine run_of_silent haccepted ?_
  simp only [Invocation.report, hload]
  cases fault.isReported <;> rfl

end Runs

/-- **What loading comes to.** The records that are loaded are the objects of the list that
the file holds. What the user is told is a complaint about the file, naming the first item
at fault, if it is one of those. Any other fault is one of the three that are overlooked, and
a file that holds a text within the limits of the reader is not.
Where the records of a run are not loaded, nothing is printed and no file is touched; a
complaint is given in one line, and the status is one, but what is overlooked leaves the
run without a status. -/
theorem load_comes_to (tree : FileTree) (path : Path) :
    (∀ records, load tree path = .ok records ↔ HoldsRecords tree path records)
    ∧ (∀ message, (∃ fault, load tree path = .error fault ∧ fault.isReported = true
        ∧ fault.message = message) ↔ Complaint tree path message)
    ∧ ((∃ fault, load tree path = .error fault ∧ fault.isReported = false)
        ↔ Overlooked tree path)
    ∧ (∀ text, HoldsText tree path text →
      ¬ Json.Exceeds Json.depthLimit (unifyLineEnds text) → ¬ Overlooked tree path)
    ∧ ∀ (s : Surroundings) (arguments : List String) (invocation : Invocation),
      start arguments = .ok invocation → s.files = tree → .ofString invocation.records = path →
      (∀ message, Complaint tree path message →
        run s arguments
          = ({ ending := .exit 1, output := "", remarks := [.plain ("✗ " ++ message ++ "\n")] },
            tree))
      ∧ (Overlooked tree path →
        ∃ fault, load tree path = .error fault
          ∧ run s arguments
            = ({ ending := .failure (.load fault), output := "", remarks := [] }, tree)) := by
  refine ⟨fun records => load_eq_ok_iff, fun message => complaint_iff, overlooked_iff,
    fun text htext hwithin => not_overlooked_of_text htext hwithin, ?_⟩
  rintro s arguments invocation haccepted rfl rfl
  constructor
  · intro message hcomplaint
    obtain ⟨fault, hload, hreported, rfl⟩ := load_of_complaint hcomplaint
    rw [run_of_fault haccepted hload, if_pos hreported]
    rfl
  · intro hover
    obtain ⟨fault, hload, hnot⟩ := load_of_overlooked hover
    refine ⟨fault, hload, ?_⟩
    rw [run_of_fault haccepted hload, hnot]
    rfl

/-- A number among records. -/
def strangeItem : Surroundings :=
  oneFile "[\x7b\x7d,1]"

/-- A file that holds no text. -/
def foreignFile : Surroundings where
  lookup _ := none
  workingDirectory := "/"
  files := [(["r.json"], [0xFF])]

/-- A run that prints to its output. -/
def plainRun : Invocation :=
  { records := "r.json", output := none, strict := false, verbose := false }

/-- The number is told about, by its index. -/
theorem load_comes_to_strangeItem :
    run strangeItem ["r.json"]
      = ({ ending := .exit 1, output := ""
           remarks := [.plain "✗ r.json: record 1 is not an object\n"] }, strangeItem.files) := by
  have haccepted : start ["r.json"] = .ok plainRun := eq_ok_of_toOption (by decide +kernel)
  have hvalue : HoldsValue strangeItem.files (.ofString "r.json")
      (.array ([⟨[]⟩].map (fun r : Record => .object r.members) ++ .integer 1 :: [])) :=
    ⟨"[\x7b\x7d,1]".toList, by rw [HoldsText]; decide +kernel, by rfl⟩
  obtain ⟨-, -, -, -, hruns⟩ := load_comes_to strangeItem.files (.ofString "r.json")
  exact (hruns strangeItem ["r.json"] plainRun haccepted rfl rfl).1 _
    (.noObject hvalue fun members => nofun)

/-- The byte is not told about: loading fails with a fault that is passed on, and so does
the run. -/
theorem run_ended_by_foreign_bytes :
    ¬ (∀ (tree : FileTree) (path : Path), (∃ records, load tree path = .ok records)
        ∨ ∃ fault, load tree path = .error fault ∧ fault.isReported = true)
    ∧ (run foreignFile ["r.json"]).1.ending
      = .failure (.load (.undecodable
          { cause := .startByte, start := 0, count := 1, byte := 0xFF })) := by
  have hload : load foreignFile.files (.ofString "r.json")
      = .error (.undecodable { cause := .startByte, start := 0, count := 1, byte := 0xFF }) := by
    rfl
  refine ⟨fun h => ?_, by decide +kernel⟩
  rcases h foreignFile.files (.ofString "r.json") with
    ⟨records, hrecords⟩ | ⟨fault, hfault, hreported⟩
  · exact absurd (hload.symm.trans hrecords) nofun
  · obtain rfl := Except.error.inj (hload.symm.trans hfault)
    exact absurd hreported (by decide)

end SymbolDocs.CommandLine
