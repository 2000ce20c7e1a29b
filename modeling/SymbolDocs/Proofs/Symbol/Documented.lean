/-
When a symbol is documented, said of its record.

A symbol counts as documented if its comment is not empty. The comment has three parts,
with two notions of what is empty: a summary, or a fragment of a discussion, is empty if
it has no characters, a callout if it has nothing but blanks. Joins add nothing to that. A
join of parts that are not empty is empty only without parts (`intercalate_eq_empty_iff`),
and the pieces of a callout are joined by blanks (`allBlank_of_paragraphs`). So it comes
down to the pieces: whether the record has a summary, a node of its discussion shows
something, or an entry of one of its callouts says something.
-/
import Mathlib.Data.List.TakeWhile
import SymbolDocs.Proofs.Callout.Run
import SymbolDocs.Proofs.Symbol.Comment

set_option autoImplicit false

namespace SymbolDocs

/-! ## What documents a symbol -/

/-- Whether an entry has a text with more than blanks. -/
def Json.saysSomething (value : Json) : Bool :=
  value.firstText?.any fun text => text.toList.any fun c => !Text.isBlank c

/-- Whether the first callout of a key says something: its own entry does, or one of the
paragraphs in its run. -/
def calloutSays (key : Discussion.Key) (entries : List Json) : Bool :=
  match entries.dropWhile fun value => !value.leadsWith key.name with
  | [] => false
  | head :: rest =>
    head.saysSomething
      || (runOf key rest).any fun value => value.leadsWith "Para" && value.saysSomething

/-- Whether a node shows something. -/
def Discussion.Node.showsSomething (n : Node) : Bool :=
  match n.render with
  | .ok (some text) => text ≠ ""
  | _ => false

namespace Record

def hasSummary (r : Record) : Bool :=
  (r.text? "docAbstract").any fun text => text ≠ ""

/-- Whether the discussion markup of a record is read and a node of it shows something. -/
def hasFragment (r : Record) : Bool :=
  match r.text? "docDiscussionXML" with
  | none => false
  | some markup =>
    match Discussion.parse markup with
    | .ok nodes => nodes.any Discussion.Node.showsSomething
    | .error _ => false

def hasCallout (r : Record) : Bool :=
  match r.items? "docDiscussion" with
  | none => false
  | some entries => Discussion.Key.callouts.any fun key => calloutSays key entries

/-- Whether anything in a record documents its symbol. -/
def documents (r : Record) : Bool :=
  r.hasSummary || r.hasFragment || r.hasCallout

end Record

/-! ## Joins -/

/-- A join of parts that are not empty is empty only without parts. -/
theorem intercalate_eq_empty_iff {separator : String} {parts : List String}
    (h : ∀ part ∈ parts, part ≠ "") :
    String.intercalate separator parts = "" ↔ parts = [] := by
  constructor
  · intro hempty
    match parts with
    | [] => rfl
    | [part] =>
      rw [String.intercalate_singleton] at hempty
      exact absurd hempty (h part List.mem_cons_self)
    | part :: other :: rest =>
      rw [String.intercalate_cons_cons, String.append_assoc, String.append_eq_empty_iff] at hempty
      exact absurd hempty.1 (h part List.mem_cons_self)
  · rintro rfl
    exact String.intercalate_nil

theorem joinNonEmpty_eq_empty_iff {separator : String} {parts : List String} :
    Markdown.joinNonEmpty separator parts = "" ↔ ∀ part ∈ parts, part = "" := by
  have hkept : ∀ part ∈ parts.filter fun p => !p.isEmpty, part ≠ "" := by
    intro part hpart
    simpa using (List.mem_filter.mp hpart).2
  rw [Markdown.joinNonEmpty, intercalate_eq_empty_iff hkept, List.filter_eq_nil_iff]
  simp

/-! ## Callouts -/

/-- The blank line before a text is blank, so the text decides. -/
theorem allBlank_of_blankLine (text : String) :
    ("\n\n" ++ text).toList.all Text.isBlank = !text.toList.any fun c => !Text.isBlank c := by
  rw [String.toList_append, List.all_append, List.not_any_eq_all_not]
  simp only [Bool.not_not]
  exact Bool.true_and _

theorem allBlank_of_headPiece (value : Json) :
    (headPiece value).toList.all Text.isBlank = !value.saysSomething := by
  rw [headPiece, Json.saysSomething]
  cases value.firstText? with
  | none => rfl
  | some text => exact allBlank_of_blankLine text

theorem allBlank_of_paragraphPiece (value : Json) :
    (paragraphPiece value).toList.all Text.isBlank = !value.saysSomething := by
  rw [paragraphPiece, Json.saysSomething]
  cases value.firstText? with
  | none => rfl
  | some text => exact allBlank_of_blankLine text

/-- The paragraphs among some entries are blank if none of them says something. -/
theorem allBlank_of_paragraphs (entries : List Json) :
    (paragraphs entries).toList.all Text.isBlank
      = !entries.any fun value => value.leadsWith "Para" && value.saysSomething := by
  induction entries with
  | nil => rfl
  | cons value rest ih =>
    rw [List.any_cons]
    cases hpara : value.leadsWith "Para" with
    | false => rw [paragraphs_cons_of_other rest hpara, ih, Bool.false_and, Bool.false_or]
    | true =>
      rw [paragraphs_cons_of_paragraph rest hpara, String.toList_append, List.all_append,
        allBlank_of_paragraphPiece, ih, Bool.true_and, Bool.not_or]

theorem isSome_unlessBlank (text : String) :
    (unlessBlank text).isSome = !text.toList.all Text.isBlank := by
  rw [unlessBlank]
  cases text.toList.all Text.isBlank <;> rfl

/-- A callout is collected if it says something. -/
theorem isSome_collect? (key : Discussion.Key) (entries : List Json) :
    (collect? key entries).isSome = calloutSays key entries := by
  have hsplit := List.takeWhile_append_dropWhile
    (p := fun value : Json => !value.leadsWith key.name) (l := entries)
  have hbefore : ∀ value ∈ entries.takeWhile (fun value => !value.leadsWith key.name),
      value.leadsWith key.name = false := by
    intro value hvalue
    simpa using List.mem_takeWhile_imp hvalue
  rw [calloutSays]
  cases hrest : entries.dropWhile fun value => !value.leadsWith key.name with
  | nil =>
    rw [hrest, List.append_nil] at hsplit
    rw [hsplit] at hbefore
    rw [collect?_of_none hbefore]
    rfl
  | cons head rest =>
    have hhead : head.leadsWith key.name = true := by
      have hfind := List.find?_eq_head?_dropWhile_not (Json.leadsWith key.name) (l := entries)
      rw [hrest, List.head?_cons] at hfind
      exact List.find?_some hfind
    rw [hrest] at hsplit
    rw [← hsplit, collect?_of_first rest hbefore hhead, isSome_unlessBlank,
      String.toList_append, List.all_append, allBlank_of_headPiece, allBlank_of_paragraphs]
    simp

theorem collapsible_ne_empty (summary details : String) :
    Markdown.collapsible summary details ≠ "" := by
  rw [Markdown.collapsible, String.intercalate_cons_cons, String.append_assoc]
  intro hempty
  exact absurd (String.append_eq_empty_iff.mp hempty).1 (by decide)

/-- The callouts of a record are empty if none of them says something. -/
theorem callouts?_eq_empty_iff (r : Record) :
    r.callouts?.getD "" = "" ↔ r.hasCallout = false := by
  have hentries : r.hasCallout
      = Discussion.Key.callouts.any fun key => calloutSays key r.entries := by
    rw [Record.hasCallout, Record.entries, Record.list?_eq_items?, Field.key]
    cases r.items? "docDiscussion" with
    | none => decide
    | some entries => rfl
  have hsections : ∀ part ∈ Discussion.Key.callouts.filterMap (calloutSection? r.entries),
      part ≠ "" := by
    intro part hpart
    obtain ⟨key, -, hkey⟩ := List.mem_filterMap.mp hpart
    obtain ⟨text, -, rfl⟩ := Option.map_eq_some_iff.mp hkey
    exact collapsible_ne_empty key.name text
  have hjoin : r.callouts?.getD "" = String.intercalate blankLine
      (Discussion.Key.callouts.filterMap (calloutSection? r.entries)) := by
    rw [Record.callouts?]
    split
    · rename_i hnone
      rw [hnone, String.intercalate_nil]
      rfl
    · rfl
  rw [hjoin, intercalate_eq_empty_iff hsections, hentries, List.filterMap_eq_nil_iff,
    List.any_eq_false]
  refine forall₂_congr fun key _ => ?_
  rw [← isSome_collect?, calloutSection?, Option.map_eq_none_iff, Bool.not_eq_true,
    Option.isSome_eq_false_iff, Option.isNone_iff_eq_none]

/-! ## Summary and discussion -/

theorem abstract?_eq_empty_iff (r : Record) :
    r.abstract?.getD "" = "" ↔ r.hasSummary = false := by
  rw [Record.abstract?, Record.nonEmpty?, Record.string?_eq_text?, Field.key, Record.hasSummary]
  cases r.text? "docAbstract" with
  | none => simp
  | some text => by_cases htext : text = "" <;> simp [Option.filter, htext]

/-- What is shown of a node that is shown by its shape is its text, unless that is empty. -/
theorem showsSomething_of_render {n : Discussion.Node} (h : n.render = .ok n.dispatched) :
    n.showsSomething = n.shown?.isSome := by
  rw [Discussion.Node.showsSomething, h, Discussion.Node.shown?]
  cases n.dispatched with
  | none => rfl
  | some text => by_cases htext : text = "" <;> simp [Option.filter, htext]

theorem running_eq_empty_iff (r : Record) : r.running = "" ↔ r.hasFragment = false := by
  rw [Record.running, Record.hasFragment]
  cases r.text? "docDiscussionXML" with
  | none => simp
  | some markup =>
    simp only
    cases hparse : Discussion.parse markup with
    | error fault => simp
    | ok nodes =>
      have hshown : ∀ text ∈ nodes.filterMap Discussion.Node.shown?, text ≠ "" := by
        intro text htext
        obtain ⟨n, -, hn⟩ := List.mem_filterMap.mp htext
        simpa using (Option.filter_eq_some_iff.mp hn).2
      simp only
      rw [intercalate_eq_empty_iff hshown, List.filterMap_eq_nil_iff, List.any_eq_false]
      refine forall₂_congr fun n hn => ?_
      rw [showsSomething_of_render (Discussion.render_of_parse hparse hn), Bool.not_eq_true,
        Option.isSome_eq_false_iff, Option.isNone_iff_eq_none]

/-! ## Documented symbols -/

/-- The comment of a record is empty if nothing in it documents the symbol. -/
theorem isEmpty_prose (r : Record) : r.prose.isEmpty = !r.documents := by
  rw [Bool.eq_iff_iff, String.isEmpty_iff, Record.prose, joinNonEmpty_eq_empty_iff,
    Record.documents]
  simp only [List.forall_mem_cons, List.not_mem_nil, false_imp_iff, implies_true, and_true,
    abstract?_eq_empty_iff, running_eq_empty_iff, callouts?_eq_empty_iff, Bool.not_or,
    Bool.and_eq_true, Bool.not_eq_true', and_assoc]

/-- A symbol counts as documented if something in its record documents it. -/
theorem isDocumented_introspectWith (settings : Settings) (workingDirectory : String)
    (r : Record) :
    (r.introspectWith settings workingDirectory r.prose).isDocumented = r.documents := by
  rw [Record.introspectWith, isEmpty_prose, Bool.not_not]

end SymbolDocs
