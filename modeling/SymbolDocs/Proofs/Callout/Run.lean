/-
What the search for a callout collects, said without the search.

The search goes through the entries once, with a state. Said without it: the callout
stands at the first entry with its key, and the run of the callout is the longest
stretch right after that entry in which every entry has the key or is a paragraph. The
text is that of the first entry and of the paragraphs of the run, each after a blank
line; further entries with the key are part of the run and add nothing.

The invariant of the search is that its state is the text so far. What it goes on to
collect from there depends on the rest of the entries alone (`collected_of_collecting`),
and before the first entry with the key it collects nothing (`searching_of_none`). The
key of paragraphs is not excluded: it makes every entry of its run a paragraph.
-/
import SymbolDocs.Callout
import SymbolDocs.Proofs.Discussion.Key

set_option autoImplicit false

namespace SymbolDocs

open Discussion

/-! ## Entries and runs -/

/-- The first member of an object that has members. -/
def Json.firstMember? : Json → Option (String × Json)
  | .object (first :: _) => some first
  | _ => none

/-- Whether a value is an object whose first member has a name. -/
def Json.leadsWith (name : String) (value : Json) : Bool :=
  value.firstMember?.any fun first => first.1 = name

/-- The value of the first member, if that is a text. -/
def Json.firstText? (value : Json) : Option String :=
  value.firstMember?.bind fun first => first.2.asString?

/-- What the first entry of a callout adds: its text after a blank line, or nothing. -/
def headPiece (value : Json) : String :=
  match value.firstText? with
  | some text => "\n\n" ++ text
  | none => ""

/-- What a paragraph adds: a blank line, and its text if it has one. -/
def paragraphPiece (value : Json) : String :=
  "\n\n" ++ value.firstText?.getD ""

/-- What the paragraphs among some entries add. -/
def paragraphs (entries : List Json) : String :=
  String.join ((entries.filter (Json.leadsWith "Para")).map paragraphPiece)

/-- The longest stretch at the head of some entries in which all have the key of the
callout or are paragraphs. -/
def runOf (key : Key) (entries : List Json) : List Json :=
  entries.takeWhile fun value => value.leadsWith key.name || value.leadsWith "Para"

/-- The text of a callout, unless it is blank. -/
def unlessBlank (text : String) : Option String :=
  if text.toList.all Text.isBlank then none else some text

/-- The callout of a key: the text of the first entry that has the key and of the
paragraphs in the run after it. -/
def calloutOf (key : Key) (entries : List Json) : Option String :=
  match entries.findIdx? (Json.leadsWith key.name) with
  | none => none
  | some i =>
    let head := (entries[i]?.map headPiece).getD ""
    unlessBlank (head ++ paragraphs (runOf key (entries.drop (i + 1))))

/-! ## An entry is a first member -/

/-- An entry is the first member of an object. -/
theorem ofJson?_eq_map (value : Json) :
    Entry.ofJson? value
      = value.firstMember?.map fun first => { key := first.1, text := first.2.asString? } := by
  rcases value with _ | _ | _ | _ | _ | _ | (_ | ⟨⟨name, first⟩, rest⟩) <;> rfl

/-- To have a key is to have its name for the first. -/
theorem hasKey_eq_leadsWith (key : Key) (value : Json) :
    hasKey key value = value.leadsWith key.name := by
  rw [hasKey, entryKey?, ofJson?_eq_map, Json.leadsWith]
  cases value.firstMember? with
  | none => rfl
  | some first => simp

theorem isParagraph_eq_leadsWith (value : Json) :
    isParagraph value = value.leadsWith "Para" :=
  hasKey_eq_leadsWith .paragraph value

theorem entryText?_eq_firstText? (value : Json) : entryText? value = value.firstText? := by
  rw [entryText?, ofJson?_eq_map, Json.firstText?]
  cases value.firstMember? with
  | none => rfl
  | some first => rfl

/-! ## One step of the search -/

section Step

variable {key : Key} {value : Json} {text : String}

theorem step_searching_of_not_leads (h : value.leadsWith key.name = false) :
    Search.step key .searching value = .searching := by
  rw [Search.step, hasKey_eq_leadsWith, h]
  rfl

/-- The search ends at an entry that has the key, with the text of that. -/
theorem step_searching_of_leads (h : value.leadsWith key.name = true) :
    Search.step key .searching value = .collecting (headPiece value) := by
  rw [Search.step, hasKey_eq_leadsWith, h, entryText?_eq_firstText?]
  rfl

/-- A paragraph behind it is added. -/
theorem step_collecting_of_paragraph (h : value.leadsWith "Para" = true) :
    Search.step key (.collecting text) value
      = .collecting (text ++ paragraphPiece value) := by
  rw [Search.step, isParagraph_eq_leadsWith, h, entryText?_eq_firstText?, paragraphPiece,
    ← String.append_assoc]
  rfl

/-- An entry that repeats the key is passed over: its text is not taken, and the run goes on. -/
theorem step_collecting_of_leads (hpara : value.leadsWith "Para" = false)
    (h : value.leadsWith key.name = true) :
    Search.step key (.collecting text) value = .collecting text := by
  rw [Search.step, isParagraph_eq_leadsWith, hpara, hasKey_eq_leadsWith, h]
  rfl

/-- Any other entry ends the run. -/
theorem step_collecting_of_other (hpara : value.leadsWith "Para" = false)
    (h : value.leadsWith key.name = false) :
    Search.step key (.collecting text) value = .done text := by
  rw [Search.step, isParagraph_eq_leadsWith, hpara, hasKey_eq_leadsWith, h]
  rfl

end Step

/-! ## The whole search -/

theorem paragraphs_cons_of_paragraph {value : Json} (rest : List Json)
    (h : value.leadsWith "Para" = true) :
    paragraphs (value :: rest) = paragraphPiece value ++ paragraphs rest := by
  rw [paragraphs, List.filter_cons_of_pos h, List.map_cons, String.join_cons, paragraphs]

theorem paragraphs_cons_of_other {value : Json} (rest : List Json)
    (h : value.leadsWith "Para" = false) :
    paragraphs (value :: rest) = paragraphs rest := by
  rw [paragraphs, List.filter_cons_of_neg (by rw [h]; exact Bool.false_ne_true), paragraphs]

/-- A callout that has ended stays as it is. -/
theorem foldl_done (key : Key) (text : String) (entries : List Json) :
    entries.foldl (Search.step key) (.done text) = .done text := by
  induction entries with
  | nil => rfl
  | cons value rest ih =>
    rw [List.foldl_cons, Search.step]
    exact ih

/-- While a callout is collected, the paragraphs of the run that follows are added to
its text. -/
theorem collected_of_collecting (key : Key) (text : String) (entries : List Json) :
    (entries.foldl (Search.step key) (.collecting text)).text
      = text ++ paragraphs (runOf key entries) := by
  -- By induction on the entries, for any text so far: the text grows with the run, and the
  -- run loses the entry that was taken.
  induction entries generalizing text with
  | nil => simp [Search.text, runOf, paragraphs]
  | cons value rest ih =>
    rw [List.foldl_cons, runOf, List.takeWhile_cons]
    -- Paragraphs come first, as in the step: where the key is that of paragraphs, an
    -- entry is both.
    cases hpara : value.leadsWith "Para" with
    | true =>
      rw [step_collecting_of_paragraph hpara, ih, if_pos (Bool.or_true _),
        paragraphs_cons_of_paragraph _ hpara, runOf, String.append_assoc]
    | false =>
      cases hkey : value.leadsWith key.name with
      | true =>
        rw [step_collecting_of_leads hpara hkey, ih, if_pos (Bool.true_or _),
          paragraphs_cons_of_other _ hpara, runOf]
      | false =>
        rw [step_collecting_of_other hpara hkey, foldl_done, if_neg (by decide)]
        simp [Search.text, paragraphs]

/-- Entries without the key leave a search where it began. -/
theorem searching_of_none {key : Key} {entries : List Json}
    (h : ∀ value ∈ entries, value.leadsWith key.name = false) :
    entries.foldl (Search.step key) .searching = .searching := by
  induction entries with
  | nil => rfl
  | cons value rest ih =>
    rw [List.foldl_cons, step_searching_of_not_leads (h value List.mem_cons_self)]
    exact ih fun other hother => h other (List.mem_cons_of_mem _ hother)

/-- A run of blank text counts as none. -/
theorem collect?_eq_unlessBlank (key : Key) (entries : List Json) :
    collect? key entries
      = unlessBlank (entries.foldl (Search.step key) .searching).text :=
  rfl

/-- Without an entry that has the key nothing is collected. -/
theorem collect?_of_none {key : Key} {entries : List Json}
    (h : ∀ value ∈ entries, value.leadsWith key.name = false) :
    collect? key entries = none := by
  rw [collect?_eq_unlessBlank, searching_of_none h]
  rfl

/-- Where the first entry with the key is known, so is what is collected. -/
theorem collect?_of_first {key : Key} {before : List Json} {head : Json} (rest : List Json)
    (hbefore : ∀ value ∈ before, value.leadsWith key.name = false)
    (hhead : head.leadsWith key.name = true) :
    collect? key (before ++ head :: rest)
      = unlessBlank (headPiece head ++ paragraphs (runOf key rest)) := by
  rw [collect?_eq_unlessBlank, List.foldl_append, searching_of_none hbefore,
    List.foldl_cons, step_searching_of_leads hhead, collected_of_collecting]

/-- **The search finds the callout.** For any values as entries and any key, callout or
structure, the search collects exactly the callout of the key. -/
theorem collect?_eq_calloutOf (key : Key) (entries : List Json) :
    collect? key entries = calloutOf key entries := by
  rw [calloutOf]
  cases hfind : entries.findIdx? (Json.leadsWith key.name) with
  | none =>
    exact collect?_of_none (List.findIdx?_eq_none_iff.mp hfind)
  | some i =>
    -- The index cuts the entries into the three parts that the search tells apart.
    obtain ⟨hi, hhead, hbefore⟩ := List.findIdx?_eq_some_iff_getElem.mp hfind
    have hnone : ∀ value ∈ entries.take i, value.leadsWith key.name = false := by
      intro value hvalue
      obtain ⟨j, hj, rfl⟩ := List.mem_take_iff_getElem.mp hvalue
      have hji : j < i := by omega
      exact Bool.eq_false_iff.mpr (hbefore j hji)
    have hcollect := collect?_of_first (entries.drop (i + 1)) hnone hhead
    rw [← List.drop_eq_getElem_cons hi, List.take_append_drop] at hcollect
    simp only [List.getElem?_eq_getElem hi]
    exact hcollect

end SymbolDocs
