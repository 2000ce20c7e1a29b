/-
The order of callouts in a list makes no difference.

A flattened discussion in which every callout occurs once falls into segments: an entry
with the key of a callout, and the entries up to the next such entry. The search for a
callout sees its own segment and nothing else: before the segment no entry has the key,
and the run that is collected ends inside the segment or where the next one begins,
whichever that is, since the first entry of a segment is neither a paragraph nor has the
key (`runOf_segment`). So what is collected for a key is a matter of the segment alone,
and since sections are shown in the order of the keys, the order of the segments is lost.
-/
import Mathlib.Data.List.Nodup
import SymbolDocs.Proofs.Callout.Run

set_option autoImplicit false

namespace SymbolDocs

open Discussion

/-! ## Segments -/

/-- Whether a value is an entry with the key of a callout. -/
def Json.opensCallout (value : Json) : Bool :=
  Key.callouts.any fun key => value.leadsWith key.name

/-- A callout in a flattened discussion: the entry with its key, and the entries after
it up to the next callout. -/
structure Segment where
  key : Key
  head : Json
  rest : List Json
  isCallout : key ∈ Key.callouts
  head_leads : head.leadsWith key.name = true
  rest_free : ∀ value ∈ rest, value.opensCallout = false

namespace Segment

/-- The entries of a segment. -/
def entries (s : Segment) : List Json :=
  s.head :: s.rest

/-- The text of a segment: that of its first entry and of the paragraphs right after
it. -/
def text (s : Segment) : String :=
  headPiece s.head ++ paragraphs (s.rest.takeWhile (Json.leadsWith "Para"))

/-- The section of a segment, unless its text is blank. -/
def section? (s : Segment) : Option String :=
  (unlessBlank s.text).map (Markdown.collapsible s.key.name)

end Segment

/-- The sections of some segments in the order of the keys. -/
def sectionsOf (segments : List Segment) : List String :=
  Key.callouts.filterMap fun key =>
    (segments.find? fun s => s.key = key).bind Segment.section?

/-- Sections with a blank line between them, or nothing without sections. -/
def joinSections : List String → Option String
  | [] => none
  | sections => some (String.intercalate "\n\n" sections)

/-! ## Entries with different keys -/

/-- An entry has one key. -/
theorem leadsWith_unique {value : Json} {a b : String} (ha : value.leadsWith a = true)
    (hb : value.leadsWith b = true) : a = b := by
  rw [Json.leadsWith] at ha hb
  cases hfirst : value.firstMember? with
  | none =>
    rw [hfirst] at ha
    exact absurd ha Bool.false_ne_true
  | some first =>
    rw [hfirst, Option.any_some] at ha hb
    exact (of_decide_eq_true ha).symm.trans (of_decide_eq_true hb)

/-- No callout has the tag of paragraphs. -/
theorem callout_name_ne_para {key : Key} (h : key ∈ Key.callouts) : key.name ≠ "Para" := by
  intro hname
  have hkey : key = .paragraph := Key.name_injective hname
  rw [hkey] at h
  exact absurd h (by decide)

theorem not_leads_of_free {value : Json} {key : Key} (h : key ∈ Key.callouts)
    (hfree : value.opensCallout = false) : value.leadsWith key.name = false :=
  Bool.eq_false_iff.mpr fun hleads =>
    List.any_eq_false.mp hfree key h hleads

namespace Segment

/-- The first entry of a segment has no other key. -/
theorem head_not_leads (s : Segment) {name : String} (h : s.key.name ≠ name) :
    s.head.leadsWith name = false :=
  Bool.eq_false_iff.mpr fun hleads => h (leadsWith_unique s.head_leads hleads)

/-- No entry of a segment has the key of another callout. -/
theorem not_leads_of_mem (s : Segment) {key : Key} (hkey : key ∈ Key.callouts)
    (h : s.key ≠ key) {value : Json} (hvalue : value ∈ s.entries) :
    value.leadsWith key.name = false := by
  rcases List.mem_cons.mp hvalue with rfl | hrest
  · exact s.head_not_leads fun hname => h (Key.name_injective hname)
  · exact not_leads_of_free hkey (s.rest_free value hrest)

end Segment

theorem not_leads_of_mem_flatMap {segments : List Segment} {key : Key}
    (hkey : key ∈ Key.callouts) (h : ∀ s ∈ segments, s.key ≠ key) :
    ∀ value ∈ segments.flatMap Segment.entries, value.leadsWith key.name = false := by
  intro value hvalue
  obtain ⟨s, hs, hmem⟩ := List.mem_flatMap.mp hvalue
  exact s.not_leads_of_mem hkey (h s hs) hmem

/-! ## The run of a segment -/

/-- A run does not reach beyond the segment it begins in. -/
theorem runOf_segment {key : Key} (hkey : key ∈ Key.callouts) {rest : List Json}
    (hrest : ∀ value ∈ rest, value.opensCallout = false) {after : List Segment}
    (hafter : ∀ s ∈ after, s.key ≠ key) :
    runOf key (rest ++ after.flatMap Segment.entries)
      = rest.takeWhile (Json.leadsWith "Para") := by
  induction rest with
  | nil =>
    cases after with
    | nil => rfl
    | cons s others =>
      -- The next segment begins here, and its first entry ends any run.
      have hown : s.head.leadsWith key.name = false :=
        s.head_not_leads fun hname => hafter s List.mem_cons_self (Key.name_injective hname)
      have hpara : s.head.leadsWith "Para" = false :=
        s.head_not_leads (callout_name_ne_para s.isCallout)
      rw [List.nil_append, List.flatMap_cons, Segment.entries, List.cons_append, runOf,
        List.takeWhile_cons, hown, hpara]
      rfl
  | cons value others ih =>
    -- Inside the segment no entry has the key, so only paragraphs carry the run on.
    have hown : value.leadsWith key.name = false :=
      not_leads_of_free hkey (hrest value List.mem_cons_self)
    have htail := ih fun other hother => hrest other (List.mem_cons_of_mem _ hother)
    rw [runOf] at htail
    rw [List.cons_append, runOf, List.takeWhile_cons, List.takeWhile_cons, hown,
      Bool.false_or, htail]

/-! ## What is collected -/

/-- What is collected for a callout is the text of its segment, if it has one. -/
theorem collect?_segments {before : List Json} {segments : List Segment} {key : Key}
    (hkey : key ∈ Key.callouts) (hbefore : ∀ value ∈ before, value.opensCallout = false)
    (hdistinct : (segments.map Segment.key).Nodup) :
    collect? key (before ++ segments.flatMap Segment.entries)
      = (segments.find? fun s => s.key = key).bind fun s => unlessBlank s.text := by
  have hnone : ∀ value ∈ before, value.leadsWith key.name = false :=
    fun value hvalue => not_leads_of_free hkey (hbefore value hvalue)
  cases hfind : segments.find? fun s => s.key = key with
  | none =>
    have hother : ∀ s ∈ segments, s.key ≠ key := by
      intro s hs
      simpa using List.find?_eq_none.mp hfind s hs
    refine collect?_of_none fun value hvalue => ?_
    rcases List.mem_append.mp hvalue with hb | hs
    · exact hnone value hb
    · exact not_leads_of_mem_flatMap hkey hother value hs
  | some s =>
    obtain ⟨hs, first, others, rfl, hfirst⟩ := List.find?_eq_some_iff_append.mp hfind
    have hskey : s.key = key := of_decide_eq_true hs
    subst hskey
    -- The search passes the segments before this one, and those after it are out of reach
    -- of the run: in neither does the key occur.
    have hbefore' : ∀ value ∈ before ++ first.flatMap Segment.entries,
        value.leadsWith s.key.name = false := by
      intro value hvalue
      rcases List.mem_append.mp hvalue with hb | hf
      · exact hnone value hb
      · refine not_leads_of_mem_flatMap hkey (fun t ht => ?_) value hf
        simpa using hfirst t ht
    have hothers : ∀ t ∈ others, t.key ≠ s.key := by
      rw [List.map_append, List.map_cons] at hdistinct
      have htail := (List.nodup_cons.mp hdistinct.of_append_right).1
      intro t ht hsame
      exact htail (hsame ▸ List.mem_map_of_mem ht)
    rw [List.flatMap_append, List.flatMap_cons, Segment.entries, List.cons_append,
      ← List.append_assoc, collect?_of_first _ hbefore' s.head_leads,
      runOf_segment hkey s.rest_free hothers]
    rfl

/-- The sections of a record whose entries are segments. -/
theorem callouts?_segments {before : List Json} {segments : List Segment} {r : Record}
    (hbefore : ∀ value ∈ before, value.opensCallout = false)
    (hdistinct : (segments.map Segment.key).Nodup)
    (hr : r.list? .discussionEntries = some (before ++ segments.flatMap Segment.entries)) :
    r.callouts? = joinSections (sectionsOf segments) := by
  have hsections : Key.callouts.filterMap (calloutSection? r.entries)
      = sectionsOf segments := by
    refine List.filterMap_congr fun key hkey => ?_
    rw [calloutSection?, Record.entries, hr, Option.getD_some,
      collect?_segments hkey hbefore hdistinct]
    cases hfind : segments.find? fun s => s.key = key with
    | none => rfl
    | some s =>
      have hskey : s.key = key := by simpa using List.find?_some hfind
      rw [Option.bind_some, Option.bind_some, Segment.section?, hskey]
  rw [Record.callouts?, hsections]
  rfl

/-! ## Permutations -/

/-- In a list in which every key occurs once, a segment is found by its key. -/
theorem find?_key_eq_some_iff {segments : List Segment}
    (hdistinct : (segments.map Segment.key).Nodup) {key : Key} {s : Segment} :
    (segments.find? fun t => t.key = key) = some s ↔ s ∈ segments ∧ s.key = key := by
  constructor
  · intro h
    exact ⟨List.mem_of_find?_eq_some h, by simpa using List.find?_some h⟩
  · rintro ⟨hmem, hkey⟩
    have hsome : (segments.find? fun t => t.key = key).isSome := by
      rw [List.find?_isSome]
      exact ⟨s, hmem, by simpa using hkey⟩
    obtain ⟨t, ht⟩ := Option.isSome_iff_exists.mp hsome
    have htkey : t.key = key := by simpa using List.find?_some ht
    have hst : t = s :=
      List.inj_on_of_nodup_map hdistinct (List.mem_of_find?_eq_some ht) hmem
        (htkey.trans hkey.symm)
    rw [ht, hst]

theorem find?_key_perm {segments permuted : List Segment} (hperm : segments.Perm permuted)
    (hdistinct : (segments.map Segment.key).Nodup) (key : Key) :
    (segments.find? fun s => s.key = key) = permuted.find? fun s => s.key = key := by
  have hdistinct' : (permuted.map Segment.key).Nodup :=
    (hperm.map Segment.key).nodup_iff.mp hdistinct
  apply Option.ext
  intro s
  rw [find?_key_eq_some_iff hdistinct, find?_key_eq_some_iff hdistinct', hperm.mem_iff]

theorem sectionsOf_perm {segments permuted : List Segment} (hperm : segments.Perm permuted)
    (hdistinct : (segments.map Segment.key).Nodup) :
    sectionsOf segments = sectionsOf permuted := by
  rw [sectionsOf, sectionsOf]
  simp only [find?_key_perm hperm hdistinct]

/-- **The order of callouts is lost.** Where every callout occurs once, a record shows
the sections of its segments in the order of the keys, and a record with the segments in
any other order shows the same. -/
theorem callouts?_perm {before : List Json} {segments permuted : List Segment}
    {r permutedRecord : Record}
    (hbefore : ∀ value ∈ before, value.opensCallout = false)
    (hdistinct : (segments.map Segment.key).Nodup) (hperm : segments.Perm permuted)
    (hr : r.list? .discussionEntries = some (before ++ segments.flatMap Segment.entries))
    (hpermuted : permutedRecord.list? .discussionEntries
      = some (before ++ permuted.flatMap Segment.entries)) :
    permutedRecord.callouts? = r.callouts?
      ∧ r.callouts? = joinSections (sectionsOf segments) := by
  have hdistinct' : (permuted.map Segment.key).Nodup :=
    (hperm.map Segment.key).nodup_iff.mp hdistinct
  have hshown := callouts?_segments hbefore hdistinct hr
  refine ⟨?_, hshown⟩
  rw [callouts?_segments hbefore hdistinct' hpermuted, hshown,
    sectionsOf_perm hperm hdistinct]

/-- A callout whose run is broken off by a value that is no entry. -/
def brokenWarning : Segment where
  key := .warning
  head := .object [("Warning", .string "w")]
  rest := [.object [("Para", .string "x")], .string "junk", .object [("Para", .string "y")]]
  isCallout := by decide
  head_leads := by decide
  rest_free := by decide

/-- A callout with nothing but blanks. -/
def blankBug : Segment where
  key := .bug
  head := .object [("Bug", .string " ")]
  rest := [.object [("Item", .string "i")]]
  isCallout := by decide
  head_leads := by decide
  rest_free := by decide

/-- A callout whose first entry has no text. -/
def textlessNote : Segment where
  key := .note
  head := .object [("Note", .null)]
  rest := [.object [("Para", .string "n")]]
  isCallout := by decide
  head_leads := by decide
  rest_free := by decide

/-- A record with a paragraph and some segments in its flattened discussion. -/
def introduced (segments : List Segment) : Record :=
  { members := [("docDiscussion",
      .array (.object [("Para", .string "p")] :: segments.flatMap Segment.entries))] }

/-- The note comes first in either order, and the blank callout is left out. -/
theorem callouts?_introduced_perm :
    (introduced [textlessNote, brokenWarning, blankBug]).callouts?
        = (introduced [brokenWarning, blankBug, textlessNote]).callouts?
      ∧ (introduced [brokenWarning, blankBug, textlessNote]).callouts?
        = some ("<details>\n<summary>Note</summary>\n\nn\n\n</details>\n\n"
          ++ "<details>\n<summary>Warning</summary>\n\nw\n\nx\n\n</details>") := by
  have hperm : ([brokenWarning, blankBug] ++ [textlessNote]).Perm
      ([textlessNote] ++ [brokenWarning, blankBug]) := List.perm_append_comm
  have hbefore : ∀ value ∈ [Json.object [("Para", .string "p")]],
      value.opensCallout = false := by
    intro value hvalue
    rw [List.mem_singleton.mp hvalue]
    decide
  have hr : (introduced [brokenWarning, blankBug, textlessNote]).list? .discussionEntries
      = some ([.object [("Para", .string "p")]]
        ++ [brokenWarning, blankBug, textlessNote].flatMap Segment.entries) := rfl
  have hpermuted : (introduced [textlessNote, brokenWarning, blankBug]).list?
        .discussionEntries
      = some ([.object [("Para", .string "p")]]
        ++ [textlessNote, brokenWarning, blankBug].flatMap Segment.entries) := rfl
  obtain ⟨hsame, hshown⟩ := callouts?_perm hbefore (by decide) hperm hr hpermuted
  refine ⟨hsame, ?_⟩
  rw [hshown]
  decide +kernel

end SymbolDocs
