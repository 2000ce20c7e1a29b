/-
What a record shows depends on its well-typed content alone.

Two records are alike if they have the same texts under the six names of text fields and
lists of alike entries as their flattened discussions, where all that counts of an entry
is the name of its first member and the text of that member, if it is one. Everything
that is shown of two alike records is the same (`shownAlike_of_alike`), so nothing else
in a record, of whatever type, leaks into what is shown.

Most of this is the typed lookup of fields, which answers alike for alike records. The
flattened discussion is the part that needs an argument: the searches for the callouts go
through two lists of alike entries in step, and are in the same state after each.

Which members a record has besides, in what order, and what it holds under a name with a
value of the wrong type are all beside the point (`alike_of_perm`).
-/
import Mathlib.Data.List.Forall2
import SymbolDocs.Proofs.Callout.Run
import SymbolDocs.Proofs.Symbol.Comment

set_option autoImplicit false

namespace SymbolDocs

/-! ## Alike values and records -/

/-- Two values are alike as entries: their first members have the same name, and the same
text or both none; or neither of the values has a first member. -/
structure Json.Alike (a b : Json) : Prop where
  key : a.firstMember?.map Prod.fst = b.firstMember?.map Prod.fst
  text : a.firstText? = b.firstText?

/-- The names of the fields that hold texts. -/
def textNames : List String :=
  ["name", "parsedDeclaration", "docDeclaration", "docAbstract", "docDiscussionXML", "filePath"]

/-- Two records are alike: they have the same texts, and alike entries one by one. A record
without a list of entries is like one with an empty list. -/
structure Record.Alike (r other : Record) : Prop where
  texts : ∀ name ∈ textNames, r.text? name = other.text? name
  entries : List.Forall₂ Json.Alike ((r.items? "docDiscussion").getD [])
    ((other.items? "docDiscussion").getD [])

/-- All that is shown of two records is the same, faults included. -/
structure Record.ShownAlike (settings : Settings) (level : Int) (workingDirectory : String)
    (r other : Record) : Prop where
  symbolName : r.symbolName settings = other.symbolName settings
  declaration? : r.declaration? = other.declaration?
  declarationBlock : r.declarationBlock settings = other.declarationBlock settings
  comment : r.comment = other.comment
  introspect : ∀ given, r.introspect settings workingDirectory given
    = other.introspect settings workingDirectory given
  showSection : ∀ given, r.showSection settings level given
    = other.showSection settings level given

/-! ## Searches in step -/

section Entries

variable {a b : Json}

/-- Alike values are the same entry, or both none. -/
theorem ofJson?_of_alike (h : a.Alike b) : Entry.ofJson? a = Entry.ofJson? b := by
  obtain ⟨hkey, htext⟩ := h
  rw [Json.firstText?, Json.firstText?] at htext
  rw [ofJson?_eq_map, ofJson?_eq_map]
  cases ha : a.firstMember? with
  | none =>
    rw [ha, Option.map_none, eq_comm, Option.map_eq_none_iff] at hkey
    rw [hkey]
  | some first =>
    rw [ha, Option.map_some, eq_comm, Option.map_eq_some_iff] at hkey
    obtain ⟨other, hb, hname⟩ := hkey
    rw [ha, hb, Option.bind_some, Option.bind_some] at htext
    rw [hb, Option.map_some, Option.map_some, hname, htext]

/-- A search that meets alike values goes on in the same state. -/
theorem step_of_alike (h : a.Alike b) (key : Discussion.Key) (search : Search) :
    search.step key a = search.step key b := by
  have hentry := ofJson?_of_alike h
  have hkey (k : Discussion.Key) : hasKey k a = hasKey k b := by
    rw [hasKey, hasKey, entryKey?, entryKey?, hentry]
  have htext : entryText? a = entryText? b := by
    rw [entryText?, entryText?, hentry]
  unfold Search.step
  rw [isParagraph, isParagraph, hkey, hkey, htext]

/-- The searches through two lists of alike entries are in the same state at each place,
so at the end as well. -/
theorem foldl_step_of_alike {entries others : List Json}
    (h : List.Forall₂ Json.Alike entries others) (key : Discussion.Key) (search : Search) :
    entries.foldl (Search.step key) search = others.foldl (Search.step key) search := by
  induction h generalizing search with
  | nil => rfl
  | cons hfirst _ ih => rw [List.foldl_cons, List.foldl_cons, step_of_alike hfirst, ih]

theorem calloutSection?_of_alike {entries others : List Json}
    (h : List.Forall₂ Json.Alike entries others) :
    calloutSection? entries = calloutSection? others := by
  funext key
  rw [calloutSection?, calloutSection?, collect?, collect?, foldl_step_of_alike h]

end Entries

/-! ## Alike records -/

namespace Record

section Alike

variable {r other : Record} (h : r.Alike other)
include h

/-- Records that are alike have the same text under a name that counts for its text. -/
theorem string?_of_alike (field : Field) (hfield : field.key ∈ textNames) :
    r.string? field = other.string? field := by
  rw [string?_eq_text?, string?_eq_text?, h.texts field.key hfield]

theorem nonEmpty?_of_alike (field : Field) (hfield : field.key ∈ textNames) :
    r.nonEmpty? field = other.nonEmpty? field := by
  rw [nonEmpty?, nonEmpty?, string?_of_alike h field hfield]

theorem symbolName_of_alike (settings : Settings) :
    r.symbolName settings = other.symbolName settings := by
  rw [symbolName, symbolName, string?_of_alike h .name (by decide)]

theorem declaration?_of_alike : r.declaration? = other.declaration? := by
  rw [declaration?, declaration?, nonEmpty?_of_alike h .shownDeclaration (by decide),
    string?_of_alike h .parsedDeclaration (by decide)]

/-- They have the same declaration, however it is listed. -/
theorem declarationBlock_of_alike (settings : Settings) :
    r.declarationBlock settings = other.declarationBlock settings := by
  rw [declarationBlock, declarationBlock, declaration?_of_alike h]

/-- They have the same callouts: what an entry is read for is its first member. -/
theorem callouts?_of_alike : r.callouts? = other.callouts? := by
  have hsections : calloutSection? r.entries = calloutSection? other.entries := by
    rw [entries, entries, list?_eq_items?, list?_eq_items?]
    exact calloutSection?_of_alike h.entries
  rw [callouts?, callouts?, hsections]

/-- They have the same comment, or the same stray name. -/
theorem comment_of_alike : r.comment = other.comment := by
  have hdiscussion : r.discussion? = other.discussion? := by
    rw [discussion?, discussion?, discussed, discussed,
      string?_of_alike h .discussionMarkup (by decide)]
  rw [comment, comment, hdiscussion, abstract?, abstract?,
    nonEmpty?_of_alike h .abstract (by decide), callouts?_of_alike h]

theorem commentOr_of_alike (given : Option String) :
    r.commentOr given = other.commentOr given := by
  cases given with
  | none => exact comment_of_alike h
  | some comment => rfl

/-- They have the same section around one comment. -/
theorem sectionWith_of_alike (settings : Settings) (level : Int) (comment : String) :
    r.sectionWith settings level comment = other.sectionWith settings level comment := by
  rw [sectionWith, sectionWith, symbolName_of_alike h, declarationBlock_of_alike h]

/-- They have the same introspection around one comment. -/
theorem introspectWith_of_alike (settings : Settings) (workingDirectory comment : String) :
    r.introspectWith settings workingDirectory comment
      = other.introspectWith settings workingDirectory comment := by
  rw [introspectWith, introspectWith, symbolName_of_alike h,
    string?_of_alike h .parsedDeclaration (by decide),
    string?_of_alike h .filePath (by decide)]

/-- All that is shown of them is the same. -/
theorem shownAlike_of_alike (settings : Settings) (level : Int) (workingDirectory : String) :
    ShownAlike settings level workingDirectory r other where
  symbolName := symbolName_of_alike h settings
  declaration? := declaration?_of_alike h
  declarationBlock := declarationBlock_of_alike h settings
  comment := comment_of_alike h
  introspect given := by
    rw [Record.introspect, Record.introspect, commentOr_of_alike h,
      funext (introspectWith_of_alike h settings workingDirectory)]
  showSection given := by
    rw [Record.showSection, Record.showSection, commentOr_of_alike h,
      funext (sectionWith_of_alike h settings level)]

end Alike

/-! ## Members that count -/

/-- Whether a member of a record counts: a text field has a text, the list field a list. -/
def countsMember (member : String × Json) : Bool :=
  (textNames.contains member.1 && member.2.asString?.isSome)
    || (member.1 = "docDiscussion" && member.2.asArray?.isSome)

/-- The members of a record that count, in its order. -/
def counting (r : Record) : List (String × Json) :=
  r.members.filter countsMember

/-- No two members of a record have the same name, as in every object that is read. -/
def HasDistinctNames (r : Record) : Prop :=
  (r.members.map Prod.fst).Nodup

/-- Where names are distinct, a name is looked up to the value that it stands beside. -/
theorem lookup_eq_some_iff {members : List (String × Json)}
    (h : (members.map Prod.fst).Nodup) {name : String} {value : Json} :
    members.lookup name = some value ↔ (name, value) ∈ members := by
  induction members with
  | nil => simp
  | cons member rest ih =>
    rw [List.map_cons, List.nodup_cons] at h
    obtain ⟨hnew, hrest⟩ := h
    rw [List.lookup_cons, List.mem_cons]
    by_cases hname : name = member.1
    · have hnot : (name, value) ∉ rest := fun hmem =>
        hnew (hname ▸ List.mem_map_of_mem (f := Prod.fst) hmem)
      rw [hname, beq_self_eq_true]
      simp only [← hname, hnot, or_false, Option.some.injEq, Prod.ext_iff, true_and]
      exact eq_comm
    · have hne : (name, value) ≠ member := fun heq => hname (congrArg Prod.fst heq)
      rw [beq_false_of_ne hname]
      simp only [hne, false_or]
      exact ih hrest

/-- What a view finds under a name is what it finds in some member of that name that
counts, where it finds nothing in other members. -/
theorem bind_lookup_eq_some_iff {α : Type} {r : Record} (h : r.HasDistinctNames)
    {name : String} {view : Json → Option α}
    (hview : ∀ value a, view value = some a → countsMember (name, value) = true) {a : α} :
    (r.members.lookup name).bind view = some a
      ↔ ∃ value, (name, value) ∈ r.counting ∧ view value = some a := by
  rw [Option.bind_eq_some_iff]
  constructor
  · rintro ⟨value, hvalue, ha⟩
    exact ⟨value, List.mem_filter.mpr ⟨(lookup_eq_some_iff h).mp hvalue, hview value a ha⟩, ha⟩
  · rintro ⟨value, hvalue, ha⟩
    exact ⟨value, (lookup_eq_some_iff h).mpr (List.mem_filter.mp hvalue).1, ha⟩

/-- Where names are distinct, members that count are found whatever their order, and whatever is
beside them that does not count. -/
theorem bind_lookup_of_perm {α : Type} {r other : Record} (hr : r.HasDistinctNames)
    (hother : other.HasDistinctNames) (h : r.counting.Perm other.counting) {name : String}
    {view : Json → Option α}
    (hview : ∀ value a, view value = some a → countsMember (name, value) = true) :
    (r.members.lookup name).bind view = (other.members.lookup name).bind view := by
  apply Option.ext
  intro a
  rw [bind_lookup_eq_some_iff hr hview, bind_lookup_eq_some_iff hother hview]
  simp only [h.mem_iff]

theorem alike_self (value : Json) : value.Alike value :=
  ⟨rfl, rfl⟩

/-- Records that have the same counting members, in whatever order and among whatever other
members, are alike. -/
theorem alike_of_perm {r other : Record} (hr : r.HasDistinctNames)
    (hother : other.HasDistinctNames) (h : r.counting.Perm other.counting) : r.Alike other where
  texts name hname := by
    refine bind_lookup_of_perm hr hother h fun value text hvalue => ?_
    rw [countsMember, List.contains_iff_mem.mpr hname, hvalue]
    rfl
  entries := by
    have hitems : r.items? "docDiscussion" = other.items? "docDiscussion" := by
      refine bind_lookup_of_perm hr hother h fun value items hvalue => ?_
      rw [countsMember, hvalue]
      simp
    rw [hitems]
    exact List.forall₂_same.mpr fun value _ => alike_self value

end Record

/-- **Only well-typed content is shown.** Of alike records everything that is shown is the
same, whatever the settings, the level and the working directory. In particular members of
other names, the order of the members, and values of the wrong type make no difference. -/
theorem shown_by_content (settings : Settings) (level : Int) (workingDirectory : String) :
    (∀ r other : Record, r.Alike other → r.ShownAlike settings level workingDirectory other)
    ∧ ∀ r other : Record, r.HasDistinctNames → other.HasDistinctNames →
        r.counting.Perm other.counting →
        r.ShownAlike settings level workingDirectory other := by
  constructor
  · intro r other h
    exact Record.shownAlike_of_alike h settings level workingDirectory
  · intro r other hr hother h
    exact Record.shownAlike_of_alike (Record.alike_of_perm hr hother h) settings level
      workingDirectory

/-- A record in which a name is missing, and in whose discussion stand an entry with two
members, one whose value is no text and one that is no entry. -/
def tidyRecord : Record :=
  { members := [("docAbstract", .string "s"),
      ("docDiscussion", .array [.object [("Note", .string "n"), ("Para", .string "p")],
        .object [("Para", .null)], .object []])] }

/-- The same with other members, in another order and with other values that do not
count. -/
def untidyRecord : Record :=
  { members := [("name", .integer 1), ("author", .string "a"),
      ("docDiscussion", .array [.object [("Note", .string "n")],
        .object [("Para", .bool true)], .integer 2]),
      ("docAbstract", .string "s"), ("docDiscussionXML", .null)] }

/-- The two records are shown alike, and so is the second one with its members in the
opposite order and only those that count. -/
theorem tidyRecord_shown_as_untidyRecord :
    tidyRecord.Alike untidyRecord
      ∧ tidyRecord.ShownAlike {} 3 "/" untidyRecord
      ∧ untidyRecord.ShownAlike {} 3 "/" { members := untidyRecord.counting.reverse }
      ∧ tidyRecord.comment = .ok
        "s\n\n<details>\n<summary>Note</summary>\n\nn\n\n</details>" := by
  have halike : tidyRecord.Alike untidyRecord := by
    constructor
    · decide +kernel
    · exact .cons ⟨rfl, rfl⟩ (.cons ⟨rfl, rfl⟩ (.cons ⟨rfl, rfl⟩ .nil))
  have hcomment : tidyRecord.comment = .ok
      "s\n\n<details>\n<summary>Note</summary>\n\nn\n\n</details>" := by decide +kernel
  have hnames : untidyRecord.HasDistinctNames := by
    unfold Record.HasDistinctNames
    decide
  refine ⟨halike, (shown_by_content {} 3 "/").1 _ _ halike,
    (shown_by_content {} 3 "/").2 _ _ hnames ?_ ?_, hcomment⟩
  · change ((untidyRecord.members.filter Record.countsMember).reverse.map Prod.fst).Nodup
    decide
  · change (untidyRecord.members.filter Record.countsMember).Perm
      ((untidyRecord.members.filter Record.countsMember).reverse.filter Record.countsMember)
    rw [← List.filter_reverse, List.filter_filter]
    simp only [Bool.and_self]
    exact (List.reverse_perm _).symm.filter _

end SymbolDocs
