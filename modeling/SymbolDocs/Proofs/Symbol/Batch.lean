/-
Markup that is refused costs a record its discussion, and nothing else.

Of a record whose discussion markup is refused everything is shown as if it had no such
markup, and the other records of its batch are shown as ever. The reason is the same for
both: what is shown of a record depends on its own members, and of the markup member only
the running text and a stray name are used. Refused markup gives neither.

A stray name is the one thing in a record that ends a batch. Without one, a batch of any
records has its sections and its coverage (`shows_of_no_stray`); with one it has neither,
even if the other records are in order.
-/
import SymbolDocs.Proofs.Symbol.Comment

set_option autoImplicit false

namespace SymbolDocs

namespace Record

/-- The record has discussion markup, and it is refused. -/
def IsRefused (r : Record) : Prop :=
  ∃ markup fault, r.text? "docDiscussionXML" = some markup
    ∧ Discussion.parse markup = .error (.malformed fault)

instance (r : Record) : Decidable r.IsRefused :=
  match hmarkup : r.text? "docDiscussionXML" with
  | none => .isFalse fun ⟨_, _, hsome, _⟩ => absurd (hmarkup.symm.trans hsome) nofun
  | some markup =>
    match hparse : Discussion.parse markup with
    | .error (.malformed fault) => .isTrue ⟨markup, fault, hmarkup, hparse⟩
    | .error (.stray stray) => .isFalse fun ⟨other, _, hsome, hfault⟩ => by
        obtain rfl := Option.some.inj (hmarkup.symm.trans hsome)
        exact absurd (hparse.symm.trans hfault) nofun
    | .ok nodes => .isFalse fun ⟨other, _, hsome, hfault⟩ => by
        obtain rfl := Option.some.inj (hmarkup.symm.trans hsome)
        exact absurd (hparse.symm.trans hfault) nofun

/-- A record without its discussion markup. -/
def unmarked (r : Record) : Record :=
  r.without "docDiscussionXML"

/-- A record with other discussion markup. -/
def remarked (r : Record) (markup : String) : Record :=
  r.withValue "docDiscussionXML" (.string markup)

/-! ## The markup of a record -/

/-- Markup is refused or has a stray name, but not both: refusal comes first. -/
theorem stray?_of_refused {r : Record} (h : r.IsRefused) : r.stray? = none := by
  obtain ⟨markup, fault, hmarkup, hfault⟩ := h
  rw [stray?, hmarkup]
  simp only [hfault]

/-- Refused markup has no running text. -/
theorem running_of_refused {r : Record} (h : r.IsRefused) : r.running = "" := by
  obtain ⟨markup, fault, hmarkup, hfault⟩ := h
  rw [running, hmarkup]
  simp only [hfault]

/-- Without its markup, a record is the same in everything else. -/
theorem sameBut_unmarked (r : Record) : SameBut "docDiscussionXML" r.unmarked r :=
  sameBut_without r "docDiscussionXML"

/-- Without markup there is no stray name. -/
theorem stray?_unmarked (r : Record) : r.unmarked.stray? = none := by
  rw [stray?, unmarked, text?_without]

/-- Without markup there is no running text. -/
theorem running_unmarked (r : Record) : r.unmarked.running = "" := by
  rw [running, unmarked, text?_without]

/-- Markup that is read has no stray name, whatever was there before. -/
theorem stray?_remarked (r : Record) {markup : String} {nodes : List Discussion.Node}
    (h : Discussion.parse markup = .ok nodes) : (r.remarked markup).stray? = none := by
  rw [stray?, remarked, text?_withValue]
  simp only [h]

/-! ## What does not depend on the markup -/

section SameBut

variable {r other : Record}

/-- Callouts come from the list of entries, not from the markup. -/
theorem callouts?_of_sameBut (h : SameBut "docDiscussionXML" r other) :
    r.callouts? = other.callouts? := by
  have hentries : r.entries = other.entries := by
    rw [entries, entries, list?_of_sameBut h .discussionEntries (by decide)]
  rw [callouts?, callouts?, hentries]

/-- The markup has its part in the prose through the running text only. -/
theorem prose_of_sameBut (h : SameBut "docDiscussionXML" r other)
    (hrunning : r.running = other.running) : r.prose = other.prose := by
  rw [prose, prose, abstract?, abstract?, nonEmpty?_of_sameBut h .abstract (by decide), hrunning,
    callouts?_of_sameBut h]

/-- The markup does not name a symbol. -/
theorem symbolName_of_sameBut (h : SameBut "docDiscussionXML" r other) (settings : Settings) :
    r.symbolName settings = other.symbolName settings := by
  rw [symbolName, symbolName, string?_of_sameBut h .name (by decide)]

/-- Around its comment, a section is made of the name and the declaration. -/
theorem sectionWith_of_sameBut (h : SameBut "docDiscussionXML" r other) (settings : Settings)
    (level : Int) (comment : String) :
    r.sectionWith settings level comment = other.sectionWith settings level comment := by
  have hdeclaration : r.declaration? = other.declaration? := by
    rw [declaration?, declaration?, nonEmpty?_of_sameBut h .shownDeclaration (by decide),
      string?_of_sameBut h .parsedDeclaration (by decide)]
  rw [sectionWith, sectionWith, symbolName_of_sameBut h, declarationBlock, declarationBlock,
    hdeclaration]

/-- Around its comment, an introspection is made of the name, the declaration and the path. -/
theorem introspectWith_of_sameBut (h : SameBut "docDiscussionXML" r other)
    (settings : Settings) (workingDirectory comment : String) :
    r.introspectWith settings workingDirectory comment
      = other.introspectWith settings workingDirectory comment := by
  rw [introspectWith, introspectWith, symbolName_of_sameBut h,
    string?_of_sameBut h .parsedDeclaration (by decide),
    string?_of_sameBut h .filePath (by decide)]

end SameBut

/-! ## A record whose markup is refused -/

/-- The comment of a record whose markup is refused is its prose; the fault goes no further. -/
theorem comment_of_refused {r : Record} (h : r.IsRefused) : r.comment = .ok r.prose := by
  rw [comment_eq, stray?_of_refused h]
  rfl

/-- The comment stays the same when refused markup is taken away. -/
theorem comment_unmarked {r : Record} (h : r.IsRefused) : r.unmarked.comment = .ok r.prose := by
  have hrunning : r.unmarked.running = r.running := by
    rw [running_unmarked, running_of_refused h]
  rw [comment_eq, stray?_unmarked, prose_of_sameBut (sameBut_unmarked r) hrunning]
  rfl

/-- So it does where a comment may be given beforehand. -/
theorem commentOr_unmarked {r : Record} (h : r.IsRefused) (given : Option String) :
    r.unmarked.commentOr given = r.commentOr given := by
  cases given with
  | some comment => rfl
  | none => exact (comment_unmarked h).trans (comment_of_refused h).symm

/-- Taking refused markup away leaves the section of a record as it is. -/
theorem showSection_unmarked {r : Record} (h : r.IsRefused) (settings : Settings) (level : Int)
    (given : Option String) :
    r.unmarked.showSection settings level given = r.showSection settings level given := by
  rw [showSection, showSection, commentOr_unmarked h,
    funext (sectionWith_of_sameBut (sameBut_unmarked r) settings level)]

/-- Taking refused markup away leaves the introspection of a record as it is. -/
theorem introspect_unmarked {r : Record} (h : r.IsRefused) (settings : Settings)
    (workingDirectory : String) (given : Option String) :
    r.unmarked.introspect settings workingDirectory given
      = r.introspect settings workingDirectory given := by
  rw [introspect, introspect, commentOr_unmarked h,
    funext (introspectWith_of_sameBut (sameBut_unmarked r) settings workingDirectory)]

end Record

/-! ## Batches -/

section Batches

variable (settings : Settings) (workingDirectory : String) (level : Int)

/-- A batch of records has these sections and introspections, which are those that each
record has by itself, and is shown and counted accordingly. -/
structure Shows (records : List Record) (sections : List String) (infos : List Introspection) :
    Prop where
  shown : showSections settings level none records
    = .ok (String.intercalate sectionRule sections)
  counted : Coverage.ofRecords settings workingDirectory records = .ok (.ofSymbols infos)
  own_sections : records.mapM (Record.showSection settings level none) = .ok sections
  own_infos : records.mapM (Record.introspect settings workingDirectory none) = .ok infos

variable {settings workingDirectory level}

/-- Without stray names every batch has all its sections and introspections, record by record. -/
theorem shows_of_no_stray {records : List Record} (h : ∀ r ∈ records, r.stray? = none) :
    Shows settings workingDirectory level records
      (records.map fun r => r.sectionWith settings level r.prose)
      (records.map fun r => r.introspectWith settings workingDirectory r.prose) := by
  have hnone : firstStray? records = none := firstStray?_eq_none_iff.mpr h
  constructor
  · rw [showSections_eq, hnone]
    rfl
  · rw [ofRecords_eq, hnone]
    rfl
  · rw [mapM_showSection, hnone]
    rfl
  · rw [mapM_introspect, hnone]
    rfl

/-- Where one record of a batch is replaced by another one, the rest is shown as before. -/
theorem shows_replaced {before after : List Record} {r other : Record}
    (h : ∀ o ∈ before ++ after, o.stray? = none) (hr : r.stray? = none)
    (hother : other.stray? = none) :
    ∃ left right leftInfos rightInfos own owned info informed,
      left.length = before.length ∧ leftInfos.length = before.length
      ∧ Shows settings workingDirectory level (before ++ r :: after)
          (left ++ own :: right) (leftInfos ++ info :: rightInfos)
      ∧ Shows settings workingDirectory level (before ++ other :: after)
          (left ++ owned :: right) (leftInfos ++ informed :: rightInfos) := by
  have hno_stray (one : Record) (hone : one.stray? = none) :
      ∀ o ∈ before ++ one :: after, o.stray? = none := by
    intro o ho
    rcases List.mem_append.mp ho with hbefore | hrest
    · exact h o (List.mem_append_left _ hbefore)
    · rcases List.mem_cons.mp hrest with rfl | hafter
      · exact hone
      · exact h o (List.mem_append_right _ hafter)
  have hshows : Shows settings workingDirectory level (before ++ r :: after) _ _ :=
    shows_of_no_stray (hno_stray r hr)
  have hshows' : Shows settings workingDirectory level (before ++ other :: after) _ _ :=
    shows_of_no_stray (hno_stray other hother)
  rw [List.map_append, List.map_append, List.map_cons, List.map_cons] at hshows hshows'
  exact ⟨_, _, _, _, _, _, _, _, List.length_map _, List.length_map _, hshows, hshows'⟩

end Batches

/-- A record with a summary and the given discussion markup. -/
def summed (name markup : String) : Record :=
  { members := [("name", .string name), ("docAbstract", .string "s"),
      ("docDiscussionXML", .string markup), ("docDiscussion", .integer 1)] }

end SymbolDocs
