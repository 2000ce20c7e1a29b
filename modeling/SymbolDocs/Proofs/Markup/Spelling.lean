/-
Markup as it may be written.

There is more than one way to write a text: a character that could be taken for markup
must be hidden behind a reference, and some others may be. An escaping says which ones
are hidden (`Escaping`). This file writes text, attributes, tags and elements with any
escaping, and shows that what is written of allowed characters holds allowed characters
only.

What is written here is the plain part of markup: names have no qualifier, nothing is
declared, and values hold no references that are kept.
-/
import Mathlib.Tactic.SplitIfs
import SymbolDocs.Markup.Print

set_option autoImplicit false

namespace SymbolDocs.Markup

/-! ## Names -/

/-- What is no character of names differs from all that are. -/
theorem ne_of_isNameChar {c d : Char} (hc : isNameChar c = true)
    (hd : isNameChar d = false) : c ≠ d := by
  rintro rfl
  exact Bool.false_ne_true (hd.symm.trans hc)

/-- A name is written with characters that markup may hold. -/
theorem isAllowed_of_isNameChar {c : Char} (h : isNameChar c = true) :
    isAllowed c = true := by
  simp only [isNameChar, isNameStart, isAllowed, inRanges, List.any_cons, List.any_nil,
    Bool.or_eq_true, Bool.and_eq_true, decide_eq_true_eq, Bool.or_false] at *
  omega

/-- A simple name: a first character, and characters of names after it. -/
theorem isSimpleName_cons {name : List Char} (h : isSimpleName name = true) :
    ∃ c rest, name = c :: rest ∧ isNameStart c = true ∧ ∀ d ∈ name, isNameChar d = true := by
  cases name with
  | nil => exact absurd h Bool.false_ne_true
  | cons c rest =>
    rw [isSimpleName, Bool.and_eq_true, Bool.and_eq_true, List.all_eq_true] at h
    obtain ⟨⟨hstart, hrest⟩, -⟩ := h
    refine ⟨c, rest, rfl, hstart, ?_⟩
    intro d hd
    rcases List.mem_cons.mp hd with rfl | hd
    · rw [isNameChar, hstart, Bool.true_or]
    · exact hrest d hd

theorem isNameChar_of_mem {name : List Char} (h : isSimpleName name = true) {c : Char}
    (hc : c ∈ name) : isNameChar c = true := by
  obtain ⟨_, _, _, _, hall⟩ := isSimpleName_cons h
  exact hall c hc

theorem QName.eq_plain {name : QName} (h : name.qualifier = none) :
    name = .plain name.part := by
  rw [QName.plain, ← h]

theorem QName.print_of_qualifier {name : QName} (h : name.qualifier = none) :
    name.print = name.part := by
  rw [QName.print, h]

/-! ## Plain tags -/

/-- An attribute without qualifier whose value holds no references. -/
structure Attribute.IsPlain (a : Attribute) : Prop where
  qualifier : a.name.qualifier = none
  simple : isSimpleName a.name.part = true
  no_declaration : a.name.part ≠ declarationWord
  space : a.space = none
  value : a.value = a.text.map .char
  allowed : a.text.all isAllowed = true

/-- A tag without qualifiers, declarations and references. -/
structure Tag.IsPlain (tag : Tag) : Prop where
  qualifier : tag.name.qualifier = none
  simple : isSimpleName tag.name.part = true
  declarations : tag.declarations = []
  attributes : ∀ a ∈ tag.attributes, a.IsPlain
  distinct : (tag.attributes.map (·.name)).Nodup

/-! ## Characters -/

/-- The characters that can be hidden, each with the reference that hides it. -/
def references : List (Char × List Char) :=
  [('&', "&amp;".toList), ('<', "&lt;".toList), ('>', "&gt;".toList),
   ('"', "&quot;".toList), ('\x27', "&apos;".toList), ('\t', "&#9;".toList),
   ('\n', "&#10;".toList), ('\r', "&#13;".toList)]

/-- The reference that hides a character, if it is one of those to be hidden. -/
def hidden? (hides : Char → Bool) (c : Char) : Option (List Char) :=
  if hides c then references.lookup c else none

/-- A character, hidden behind a reference if it is one of those to be hidden. -/
def spell (hides : Char → Bool) (c : Char) : List Char :=
  (hidden? hides c).getD [c]

/-- The characters that text must hide. -/
def textSpecials : List Char :=
  ['&', '<', '>', '\r']

/-- The characters that values between double quotes must hide. -/
def valueSpecials : List Char :=
  textSpecials ++ ['"', '\t', '\n']

/-- Which characters are hidden, in text and in values. -/
structure Escaping where
  inText : Char → Bool
  inValues : Char → Bool
  text_hides : ∀ c ∈ textSpecials, inText c = true
  value_hides : ∀ c ∈ valueSpecials, inValues c = true

/-- The escaping that hides no more than it must. -/
def Escaping.least : Escaping where
  inText c := textSpecials.contains c
  inValues c := valueSpecials.contains c
  text_hides _ h := List.contains_iff_mem.mpr h
  value_hides _ h := List.contains_iff_mem.mpr h

theorem mem_references {c : Char} {reference : List Char}
    (h : references.lookup c = some reference) : (c, reference) ∈ references := by
  obtain ⟨before, after, hsplit, -⟩ := List.lookup_eq_some_iff.mp h
  rw [hsplit]
  simp

/-- A character that must be hidden is hidden. -/
theorem hidden?_isSome {hides : Char → Bool} {specials : List Char}
    (hspecials : specials ⊆ valueSpecials) (h : ∀ c ∈ specials, hides c = true) {c : Char}
    (hc : c ∈ specials) : (hidden? hides c).isSome = true := by
  have hall : valueSpecials.all (fun d => (references.lookup d).isSome) = true := by decide
  rw [hidden?, h c hc, if_pos rfl]
  exact List.all_eq_true.mp hall c (hspecials hc)

/-! ## Tags and elements -/

namespace Escaping

variable (e : Escaping)

def text (cs : List Char) : List Char :=
  cs.flatMap (spell e.inText)

def value (cs : List Char) : List Char :=
  cs.flatMap (spell e.inValues)

/-- What stands in an opening tag between the angle brackets. -/
def tag (tag : Tag) : List Char :=
  tag.name.print ++ tag.attributes.flatMap fun a => printPair a.name.print (e.value a.text)

/-- Markup between the two tags of an element. -/
def enclosed (tag : Tag) (inner : List Char) : List Char :=
  '<' :: e.tag tag ++ ['>'] ++ inner ++ ('<' :: '/' :: tag.name.print ++ ['>'])

/-- An element without content, as one tag. -/
def alone (tag : Tag) : List Char :=
  '<' :: e.tag tag ++ ['/', '>']

end Escaping

/-! ## Characters that are allowed -/

/-- A character that may stand in markup may stand there in either spelling. -/
theorem isAllowed_spell (hides : Char → Bool) {c : Char} (h : isAllowed c = true) :
    (spell hides c).all isAllowed = true := by
  -- A character that is not listed stays as it is even if it is to be hidden.
  have hreferences : ∀ entry ∈ references, entry.2.all isAllowed = true := by decide
  unfold spell hidden?
  split_ifs
  · cases hlookup : references.lookup c with
    | none => simp [h]
    | some reference => exact hreferences _ (mem_references hlookup)
  · simp [h]

theorem isAllowed_spelled (hides : Char → Bool) {text : List Char}
    (h : text.all isAllowed = true) : (text.flatMap (spell hides)).all isAllowed = true := by
  rw [List.all_flatMap, List.all_eq_true]
  intro c hc
  exact isAllowed_spell hides (List.all_eq_true.mp h c hc)

theorem isAllowed_name {name : List Char} (h : isSimpleName name = true) :
    name.all isAllowed = true := by
  rw [List.all_eq_true]
  intro c hc
  exact isAllowed_of_isNameChar (isNameChar_of_mem h hc)

/-- A plain tag is written with characters that markup may hold. -/
theorem isAllowed_tag (e : Escaping) {tag : Tag} (h : tag.IsPlain) :
    (e.tag tag).all isAllowed = true := by
  rw [Escaping.tag, QName.print_of_qualifier h.qualifier, List.all_append,
    isAllowed_name h.simple, Bool.true_and, List.all_flatMap, List.all_eq_true]
  intro a ha
  obtain ⟨hqualifier, hsimple, -, -, -, hallowed⟩ := h.attributes a ha
  rw [printPair, QName.print_of_qualifier hqualifier]
  simp only [Escaping.value, List.all_append, List.all_cons, List.all_nil,
    isAllowed_name hsimple, isAllowed_spelled e.inValues hallowed]
  decide

/-- So is a text in a plain tag. -/
theorem isAllowed_enclosed (e : Escaping) {tag : Tag} (h : tag.IsPlain) {inner : List Char}
    (hinner : inner.all isAllowed = true) : (e.enclosed tag inner).all isAllowed = true := by
  rw [Escaping.enclosed, QName.print_of_qualifier h.qualifier]
  simp only [List.all_append, List.all_cons, List.all_nil, isAllowed_tag e h, hinner,
    isAllowed_name h.simple]
  decide

theorem isAllowed_alone (e : Escaping) {tag : Tag} (h : tag.IsPlain) :
    (e.alone tag).all isAllowed = true := by
  rw [Escaping.alone]
  simp only [List.all_append, List.all_cons, List.all_nil, isAllowed_tag e h]
  decide

end SymbolDocs.Markup
