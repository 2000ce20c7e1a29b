/-
The tokens that a scan completes.

Whatever text is scanned, its tokens are sound: they hold characters that are allowed, the
names in tags were read as names, and comments and instructions are completed again from
the form in which they are written (`scan_isSound`). The last point is what printing
relies on, for the body of a comment or an instruction is not escaped when it is written.

The invariant is one of modes. In a comment it says by which characters the scanner came
to where it is; these are the ones collected so far, so scanning them once more leads to
the same place, and one step more to the next. It is the same in an instruction, from its
target on. In all other modes it is enough to know that what was collected is allowed or
was read as a name.
-/
import SymbolDocs.Proofs.Markup.Scanning

set_option autoImplicit false

namespace SymbolDocs.Markup

/-! ## Steps that succeed -/

/-- Two steps in a row succeed only if both do. -/
theorem exists_of_bind {α β : Type} {first : Except Fault α} {next : α → Except Fault β}
    {answer : β} (h : first >>= next = .ok answer) :
    ∃ a, first = .ok a ∧ next a = .ok answer := by
  cases first with
  | error fault => cases h
  | ok a => exact ⟨a, rfl, h⟩

/-! ## Sound tokens -/

/-- Some characters were read as this name. -/
def QName.IsRead (name : QName) : Prop :=
  ∃ cs, QName.ofChars? cs = some name

/-- All characters among some pieces of a value are allowed. -/
def AllowedParts (parts : List ValuePart) : Prop :=
  ∀ c, ValuePart.char c ∈ parts → isAllowed c = true

structure WrittenAttribute.IsSound (a : WrittenAttribute) : Prop where
  name : a.name.IsRead
  value : AllowedParts a.value

structure WrittenTag.IsSound (tag : WrittenTag) : Prop where
  name : tag.name.IsRead
  attributes : ∀ a ∈ tag.attributes, a.IsSound

/-- A written form of allowed characters that is completed as one token, wherever it stands
in character data. -/
structure IsCompletedFrom (text : List Char) (token : Token) : Prop where
  allowed : text.all isAllowed = true
  leads : ∀ brackets, Leads (.content brackets) text (.content 0) [token]

/-- What holds of a token however it was completed. -/
def Token.IsSound : Token → Prop
  | .char c => isAllowed c = true
  | .reference c => isAllowed c = true
  | .cdata text => text.all isAllowed = true
  | .entity _ => True
  | .comment text => IsCompletedFrom (printComment text) (.comment text)
  | .instruction target data =>
    IsCompletedFrom (printInstruction target data) (.instruction target data)
  | .startTag tag => tag.IsSound
  | .emptyTag tag => tag.IsSound
  | .endTag _ => True
  | .doctype _ => True

/-! ## Sound modes -/

/-- A part of a tag that was read soundly. -/
structure PartialTag.IsSound (tag : PartialTag) : Prop where
  name : tag.name.IsRead
  attributes : ∀ a ∈ tag.attributes, a.IsSound

structure PartialValue.IsSound (partly : PartialValue) : Prop where
  tag : partly.tag.IsSound
  name : partly.name.IsRead
  parts : AllowedParts partly.parts

/-- In a comment, the characters so far lead to where the scanner is. -/
structure InComment (text : List Char) (dashes : Nat) : Prop where
  allowed : text.all isAllowed = true
  dashes_le : dashes ≤ 2
  leads : Leads (.comment [] 0) (text.reverse ++ List.replicate dashes '-')
    (.comment text dashes) []

/-- In the target of an instruction, or at its end, the same. -/
structure InTarget (name : List Char) : Prop where
  allowed : name.all isAllowed = true
  leads : Leads (.target []) name.reverse (.target name) []

/-- In the data of an instruction the target was read before, and the data so far lead from
the gap after it to where the scanner is. -/
structure InData (name text : List Char) (question : Bool) : Prop where
  target : InTarget name.reverse
  allowed : text.all isAllowed = true
  head_eq : question = true → text.head? = some '?'
  leads : Leads (.dataGap name.reverse) text.reverse (.data name text question) []

/-- What holds of a mode however it was reached. -/
def Mode.IsSound : Mode → Prop
  | .comment text dashes => InComment text dashes
  | .cdata text _ => text.all isAllowed = true
  | .target name => InTarget name
  | .targetEnd name => InTarget name
  | .dataGap name => InTarget name
  | .data name text question => InData name text question
  | .tagGap tag => tag.IsSound
  | .valueEnd tag => tag.IsSound
  | .slash tag => tag.IsSound
  | .attributeName tag _ => tag.IsSound
  | .attributeGap tag _ => tag.IsSound
  | .equals tag _ => tag.IsSound
  | .value partly => partly.IsSound
  | .valueReference partly _ => partly.IsSound
  | _ => True

/-- An answer of a step with a sound mode and a sound token, where there is any. -/
def Scanned.IsSound (answer : Scanned) : Prop :=
  ∀ mode token, answer = .ok (mode, token) → mode.IsSound ∧ ∀ t ∈ token, t.IsSound

/-- To go on in a sound mode is sound. -/
theorem isSound_goOn {mode : Mode} (h : mode.IsSound) : Scanned.IsSound (goOn mode) := by
  intro next token heq
  obtain ⟨rfl, rfl⟩ := Prod.mk.inj (Except.ok.inj heq)
  exact ⟨h, nofun⟩

/-- So is to complete a sound token. -/
theorem isSound_complete {token : Token} (h : token.IsSound) :
    Scanned.IsSound (complete token) := by
  intro next completed heq
  obtain ⟨rfl, rfl⟩ := Prod.mk.inj (Except.ok.inj heq)
  refine ⟨trivial, ?_⟩
  rintro t ht
  rwa [← Option.some.inj ht]

theorem isSound_error (fault : Fault) : Scanned.IsSound (.error fault) :=
  nofun

theorem isSound_ite {p : Prop} [Decidable p] {yes no : Scanned} (hyes : p → yes.IsSound)
    (hno : ¬ p → no.IsSound) : Scanned.IsSound (if p then yes else no) := by
  split
  · rename_i h
    exact hyes h
  · rename_i h
    exact hno h

/-- An answer may be used for what is known of it. -/
theorem isSound_bind {α : Type} {answer : Except Fault α} {next : α → Scanned}
    (h : ∀ a, answer = .ok a → (next a).IsSound) : Scanned.IsSound (answer >>= next) := by
  cases answer with
  | error fault => exact isSound_error fault
  | ok a => exact h a rfl

/-! ## References and names -/

theorem isAllowed_of_allowedChar? {n : Nat} {c : Char} (h : allowedChar? n = some c) :
    isAllowed c = true := by
  unfold allowedChar? at h
  split at h
  · dsimp only at h
    split at h
    · rename_i hallowed
      rwa [← Option.some.inj h]
    · cases h
  · cases h

theorem isAllowed_of_codePoint {base : Nat} {ds : List Char} {c : Char}
    (h : (codePoint? base ds >>= allowedChar?).map Reference.char = some (.char c)) :
    isAllowed c = true := by
  obtain ⟨d, hd, hchar⟩ := Option.map_eq_some_iff.mp h
  obtain ⟨n, -, hn⟩ := Option.bind_eq_some_iff.mp hd
  rw [← Reference.char.inj hchar]
  exact isAllowed_of_allowedChar? hn

/-- A character that is written by a reference is allowed, be it by number or by name. -/
theorem isAllowed_of_ofChars? {cs : List Char} {c : Char}
    (h : Reference.ofChars? cs = some (.char c)) : isAllowed c = true := by
  unfold Reference.ofChars? at h
  split at h
  · exact isAllowed_of_codePoint h
  · exact isAllowed_of_codePoint h
  · split at h
    · have hall : ∀ entry ∈ predefined, isAllowed entry.2 = true := by decide
      split at h
      · rename_i d hd
        obtain ⟨before, after, hsplit, -⟩ := List.lookup_eq_some_iff.mp hd
        rw [← Reference.char.inj (Option.some.inj h)]
        exact hall (cs, d) (by rw [hsplit]; simp)
      · exact absurd (Option.some.inj h) nofun
    · cases h

/-- A reference stands for a character only if markup may hold that. -/
theorem isAllowed_of_referenceOf {collected : List Char} {c : Char}
    (h : referenceOf collected = .ok (.char c)) : isAllowed c = true := by
  unfold referenceOf at h
  split at h
  · rename_i reference hreference
    rw [Except.ok.inj h] at hreference
    exact isAllowed_of_ofChars? hreference
  · cases h

/-- A name was checked when it was taken. -/
theorem isRead_of_nameOf {collected : List Char} {name : QName}
    (h : nameOf collected = .ok name) : name.IsRead := by
  unfold nameOf at h
  split at h
  · rename_i read hread
    rw [Except.ok.inj h] at hread
    exact ⟨_, hread⟩
  · cases h

theorem eq_of_targetOf {collected target : List Char} (h : targetOf collected = .ok target) :
    target = collected.reverse := by
  obtain ⟨_, -, heq⟩ := exists_of_bind h
  exact (Except.ok.inj heq).symm

/-! ## Comments -/

section Comments

variable {text : List Char} {dashes : Nat} {c : Char}

/-- One character more leads from where a comment is to where the step goes. -/
theorem leads_step {mode middle last : Mode} {cs : List Char} (h : Leads mode cs middle [])
    (hc : c ≠ '\r') (hstep : step middle c = goOn last) : Leads mode (cs ++ [c]) last [] :=
  leads_append h (leads_goOn hc hstep (leads_nil _))

/-- Where the characters of a comment are at its end, its written form is completed. -/
theorem isSound_comment (h : InComment text 2) : Token.IsSound (.comment text.reverse) := by
  obtain ⟨hallowed, -, hleads⟩ := h
  have hend : Leads (.comment text 2) ['>'] (.content 0) [.comment text.reverse] :=
    leads_complete (by decide) rfl
  have hbody := leads_append hleads hend
  have hform : printComment text.reverse
      = ['<', '!', '-', '-'] ++ (text.reverse ++ List.replicate 2 '-' ++ ['>']) := by
    simp [printComment, List.replicate]
  constructor
  · simp only [printComment, List.all_append, List.all_reverse, hallowed]
    decide
  · intro brackets
    rw [hform]
    have hstart : Leads (.content brackets) ['<', '!', '-', '-'] (.comment [] 0) [] := rfl
    exact leads_append hstart hbody

/-- In a comment no two hyphens stand in a row, so its text never has them. -/
theorem isSound_stepComment (h : InComment text dashes) (hc : isAllowed c = true)
    (hreturn : c ≠ '\r') : (stepComment text dashes c).IsSound := by
  obtain ⟨hallowed, hdashes, hleads⟩ := h
  -- A hyphen is only counted; with any other character the hyphens before it become text.
  match dashes, hdashes with
  | 0, _ =>
    refine isSound_ite (fun hdash => isSound_goOn ?_) (fun hdash => isSound_goOn ?_)
    · subst hdash
      have hstep : step (.comment text 0) '-' = goOn (.comment text 1) := rfl
      have hnext := leads_step hleads hreturn hstep
      refine ⟨hallowed, by omega, ?_⟩
      simpa using hnext
    · have hstep : step (.comment text 0) c = goOn (.comment (c :: text) 0) := by
        simp [step, stepComment, hdash]
      have hnext := leads_step hleads hreturn hstep
      refine ⟨by simp [hc, hallowed], by omega, ?_⟩
      simpa using hnext
  | 1, _ =>
    refine isSound_ite (fun hdash => isSound_goOn ?_) (fun hdash => isSound_goOn ?_)
    · subst hdash
      have hstep : step (.comment text 1) '-' = goOn (.comment text 2) := rfl
      have hnext := leads_step hleads hreturn hstep
      refine ⟨hallowed, by omega, ?_⟩
      simpa [List.replicate] using hnext
    · have hstep : step (.comment text 1) c = goOn (.comment (c :: '-' :: text) 0) := by
        simp [step, stepComment, hdash]
      have hnext := leads_step hleads hreturn hstep
      refine ⟨?_, by omega, ?_⟩
      · simp only [List.all_cons, hc, hallowed]
        decide
      · simpa [List.replicate] using hnext
  | 2, _ =>
    refine isSound_ite (fun _ => isSound_complete ?_) (fun _ => isSound_error _)
    exact isSound_comment ⟨hallowed, by omega, hleads⟩

end Comments

/-! ## Instructions -/

section Instructions

variable {name text : List Char} {question : Bool} {c : Char}

theorem inTarget_cons (h : InTarget name) (hc : isAllowed c = true) (hquestion : c ≠ '?')
    (hspace : ¬ isSpace c = true) : InTarget (c :: name) := by
  have hreturn : c ≠ '\r' := by
    rintro rfl
    exact hspace rfl
  have hstep : step (.target name) c = goOn (.target (c :: name)) := by
    simp [step, hquestion, hspace]
  refine ⟨by simp [hc, h.allowed], ?_⟩
  rw [List.reverse_cons]
  exact leads_step h.leads hreturn hstep

/-- The opening of an instruction leads into its target. -/
theorem leads_opening (brackets : Nat) :
    Leads (.content brackets) ['<', '?'] (.target []) [] :=
  rfl

/-- An instruction without data is completed from its written form. -/
theorem isSound_bare (h : InTarget name) {target : List Char}
    (htarget : targetOf name = .ok target) : Token.IsSound (.instruction target none) := by
  obtain rfl := eq_of_targetOf htarget
  have hend : step (.targetEnd name) '>' = complete (.instruction name.reverse none) := by
    simp only [step, htarget]
    rfl
  have hquestion : step (.target name) '?' = goOn (.targetEnd name) := rfl
  have hbody : Leads (.target []) (name.reverse ++ ['?', '>']) (.content 0)
      [.instruction name.reverse none] :=
    leads_append h.leads
      (leads_goOn (by decide) hquestion (leads_complete (by decide) hend))
  constructor
  · simp only [printInstruction, List.all_append, List.all_reverse, h.allowed]
    decide
  · intro brackets
    have hform : printInstruction name.reverse none
        = ['<', '?'] ++ (name.reverse ++ ['?', '>']) := by
      simp [printInstruction]
    rw [hform]
    exact leads_append (leads_opening brackets) hbody

/-- An instruction with data is completed from its written form, in which one space stands
for the gap. -/
theorem isSound_instruction (h : InData name text true) :
    Token.IsSound (.instruction name (some (text.drop 1).reverse)) := by
  obtain ⟨⟨htarget, hname⟩, hallowed, hquestion, hleads⟩ := h
  obtain ⟨rest, rfl⟩ : ∃ rest, text = '?' :: rest := by
    cases text with
    | nil => exact absurd (hquestion rfl) nofun
    | cons d rest => exact ⟨rest, by rw [Option.some.inj (hquestion rfl)]⟩
  rw [List.reverse_reverse] at hname
  rw [List.all_reverse] at htarget
  rw [List.all_cons, Bool.and_eq_true] at hallowed
  have hgap : step (.target name.reverse) ' ' = goOn (.dataGap name.reverse) := rfl
  have hend : Leads (.data name ('?' :: rest) true) ['>'] (.content 0)
      [.instruction name (some rest.reverse)] :=
    leads_complete (by decide) rfl
  have hbody := leads_append hname
    (leads_goOn (by decide) hgap (leads_append hleads hend))
  have hform : printInstruction name (some rest.reverse)
      = ['<', '?'] ++ (name ++ ' ' :: (('?' :: rest).reverse ++ ['>'])) := by
    simp [printInstruction]
  rw [List.drop_one, List.tail_cons]
  constructor
  · simp only [printInstruction, List.all_append, List.all_cons, List.all_reverse, htarget,
      hallowed.2]
    decide
  · intro brackets
    rw [hform]
    exact leads_append (leads_opening brackets) hbody

/-- In an instruction the end mark is seen at once, so its text never has it. -/
theorem isSound_stepData (h : InData name text question) (hc : isAllowed c = true)
    (hreturn : c ≠ '\r') : (stepData name text question c).IsSound := by
  refine isSound_ite (fun hend => isSound_complete ?_) (fun hend => isSound_goOn ?_)
  · rw [Bool.and_eq_true] at hend
    rw [hend.2] at h
    exact isSound_instruction h
  · have hstep : step (.data name text question) c
        = goOn (.data name (c :: text) (decide (c = '?'))) := by
      simp only [step, stepData, if_neg hend]
    refine ⟨h.target, by simp [hc, h.allowed], ?_, ?_⟩
    · intro hquestion
      rw [List.head?_cons, of_decide_eq_true hquestion]
    · rw [List.reverse_cons]
      exact leads_step h.leads hreturn hstep

/-- The first character of the data follows the gap. -/
theorem isSound_firstData (h : InTarget name) {target : List Char}
    (htarget : targetOf name = .ok target) (hc : isAllowed c = true)
    (hspace : ¬ isSpace c = true) : (stepData target [] false c).IsSound := by
  obtain rfl := eq_of_targetOf htarget
  have hreturn : c ≠ '\r' := by
    rintro rfl
    exact hspace rfl
  have hnext : stepData name.reverse [] false c
      = goOn (.data name.reverse [c] (decide (c = '?'))) := by
    simp [stepData]
  have hstep : step (.dataGap name) c = goOn (.data name.reverse [c] (decide (c = '?'))) := by
    rw [← hnext]
    simp only [step, htarget, if_neg hspace]
    rfl
  rw [hnext]
  refine isSound_goOn ⟨?_, by simp [hc], ?_, ?_⟩
  · rwa [List.reverse_reverse]
  · intro hquestion
    rw [List.head?_cons, of_decide_eq_true hquestion]
  · rw [List.reverse_reverse]
    exact leads_goOn hreturn hstep (leads_nil _)

end Instructions

/-! ## Tags and values -/

section Tags

variable {tag : PartialTag} {c : Char}

theorem isSound_finished (h : tag.IsSound) : tag.finished.IsSound :=
  ⟨h.name, fun a ha => h.attributes a (List.mem_reverse.mp ha)⟩

theorem isSound_inTag (h : tag.IsSound) {otherwise : Scanned}
    (hotherwise : otherwise.IsSound) : (inTag tag c otherwise).IsSound := by
  refine isSound_ite (fun _ => isSound_complete (isSound_finished h)) fun _ => ?_
  refine isSound_ite (fun _ => isSound_goOn h) fun _ => ?_
  exact isSound_ite (fun _ => isSound_goOn h) fun _ => hotherwise

theorem allowedParts_cons {part : ValuePart} {parts : List ValuePart} (h : AllowedParts parts)
    (hpart : ∀ d, part = .char d → isAllowed d = true) : AllowedParts (part :: parts) := by
  intro d hd
  rcases List.mem_cons.mp hd with heq | hmem
  · exact hpart d heq.symm
  · exact h d hmem

/-- In a value each part is a character that may stand there, or names an entity. -/
theorem isSound_stepValue {partly : PartialValue} (h : partly.IsSound)
    (hc : isAllowed c = true) : (stepValue partly c).IsSound := by
  obtain ⟨htag, hname, hparts⟩ := h
  refine isSound_ite (fun _ => isSound_goOn ⟨htag.name, ?_⟩) fun _ => ?_
  · intro a ha
    rcases List.mem_cons.mp ha with rfl | hmem
    · exact ⟨hname, fun d hd => hparts d (List.mem_reverse.mp hd)⟩
    · exact htag.attributes a hmem
  refine isSound_ite (fun _ => isSound_error _) fun _ => ?_
  refine isSound_ite (fun _ => isSound_goOn ⟨htag, hname, hparts⟩) fun _ => ?_
  refine isSound_goOn ⟨htag, hname, allowedParts_cons hparts fun d hd => ?_⟩
  rw [← ValuePart.char.inj hd]
  split
  · decide
  · exact hc

/-- In a character section any allowed text may stand. -/
theorem isSound_stepCdata {text : List Char} {brackets : Nat}
    (h : text.all isAllowed = true) (hc : isAllowed c = true) :
    (stepCdata text brackets c).IsSound := by
  have hcons : (c :: text).all isAllowed = true := by simp [hc, h]
  refine isSound_ite (fun _ => isSound_goOn hcons) fun _ => ?_
  refine isSound_ite (fun _ => isSound_complete ?_) fun _ => isSound_goOn hcons
  change (text.drop 2).reverse.all isAllowed = true
  rw [List.all_reverse, List.all_eq_true]
  intro d hd
  exact List.all_eq_true.mp h d (List.mem_of_mem_drop hd)

/-- Between tags a character is by itself, or opens something. -/
theorem isSound_stepContent {brackets : Nat} (hc : isAllowed c = true) :
    (stepContent brackets c).IsSound := by
  refine isSound_ite (fun _ => isSound_goOn trivial) fun _ => ?_
  refine isSound_ite (fun _ => isSound_goOn trivial) fun _ => ?_
  refine isSound_ite (fun _ => isSound_error _) fun _ => ?_
  intro mode token heq
  obtain ⟨rfl, rfl⟩ := Prod.mk.inj (Except.ok.inj heq)
  refine ⟨trivial, ?_⟩
  rintro t ht
  rwa [← Option.some.inj ht]

end Tags

/-! ## Steps -/

/-- A document type is only told apart here, and nothing is said of what is in it. -/
theorem isSound_stepDoctype (text : List Char) (place : DoctypeMode) (c : Char) :
    (stepDoctype text place c).IsSound := by
  unfold stepDoctype
  cases place
  all_goals
    dsimp only
    split_ifs
    all_goals first
      | exact isSound_goOn trivial
      | exact isSound_complete trivial

/-- Every step of the scanner leads from a sound mode to a sound mode, and completes sound
tokens only. The line ends that some modes keep are no matter, since those modes hold
nothing. -/
theorem isSound_step {mode : Mode} (h : mode.IsSound) {c : Char} (hc : isAllowed c = true)
    (hreturn : c = '\r' → mode.keepsLineEnds = true) : (step mode c).IsSound := by
  have hne (hmode : mode.keepsLineEnds = false) : c ≠ '\r' := by
    intro heq
    rw [hreturn heq] at hmode
    cases hmode
  cases mode with
  | content brackets => exact isSound_stepContent hc
  | reference name =>
    refine isSound_ite (fun _ => isSound_bind ?_) fun _ => isSound_goOn trivial
    intro reference href
    cases reference with
    | char d => exact isSound_complete (isAllowed_of_referenceOf href)
    | entity entity => exact isSound_complete trivial
  | angle =>
    refine isSound_ite (fun _ => isSound_goOn trivial) fun _ => ?_
    refine isSound_ite (fun _ => isSound_goOn ⟨rfl, leads_nil _⟩) fun _ => ?_
    exact isSound_ite (fun _ => isSound_goOn trivial) fun _ => isSound_goOn trivial
  | bang =>
    refine isSound_ite (fun _ => isSound_goOn trivial) fun _ => ?_
    refine isSound_ite (fun _ => isSound_goOn trivial) fun _ => ?_
    exact isSound_ite (fun _ => isSound_goOn trivial) fun _ => isSound_error _
  | dash =>
    refine isSound_ite (fun _ => isSound_goOn ?_) fun _ => isSound_error _
    exact ⟨rfl, by omega, leads_nil _⟩
  | comment text dashes => exact isSound_stepComment h hc (hne rfl)
  | cdataOpening awaited =>
    match awaited with
    | [] => exact isSound_error _
    | [d] => exact isSound_ite (fun _ => isSound_goOn rfl) fun _ => isSound_error _
    | d :: e :: more =>
      exact isSound_ite (fun _ => isSound_goOn trivial) fun _ => isSound_error _
  | cdata text brackets => exact isSound_stepCdata h hc
  | doctypeOpening awaited =>
    match awaited with
    | [] => exact isSound_error _
    | [d] => exact isSound_ite (fun _ => isSound_goOn trivial) fun _ => isSound_error _
    | d :: e :: more =>
      exact isSound_ite (fun _ => isSound_goOn trivial) fun _ => isSound_error _
  | doctype text place => exact isSound_stepDoctype text place c
  | target name =>
    refine isSound_ite (fun _ => isSound_goOn h) fun hquestion => ?_
    refine isSound_ite (fun _ => isSound_goOn h) fun hspace => isSound_goOn ?_
    exact inTarget_cons h hc hquestion hspace
  | targetEnd name =>
    refine isSound_bind fun target htarget => ?_
    exact isSound_ite (fun _ => isSound_complete (isSound_bare h htarget)) fun _ =>
      isSound_error _
  | dataGap name =>
    refine isSound_ite (fun _ => isSound_goOn h) fun hspace => ?_
    exact isSound_bind fun target htarget => isSound_firstData h htarget hc hspace
  | data name text question => exact isSound_stepData h hc (hne rfl)
  | tagName name =>
    refine isSound_ite (fun _ => isSound_bind fun read hread => ?_) fun _ =>
      isSound_goOn trivial
    refine isSound_inTag ⟨isRead_of_nameOf hread, fun a ha => ?_⟩ (isSound_error _)
    exact absurd ha List.not_mem_nil
  | tagGap tag => exact isSound_inTag h (isSound_goOn h)
  | valueEnd tag => exact isSound_inTag h (isSound_error _)
  | slash tag =>
    exact isSound_ite (fun _ => isSound_complete (isSound_finished h)) fun _ =>
      isSound_error _
  | attributeName tag name =>
    refine isSound_ite (fun _ => isSound_goOn h) fun _ => ?_
    exact isSound_ite (fun _ => isSound_goOn h) fun _ => isSound_goOn h
  | attributeGap tag name =>
    refine isSound_ite (fun _ => isSound_goOn h) fun _ => ?_
    exact isSound_ite (fun _ => isSound_goOn h) fun _ => isSound_error _
  | equals tag name =>
    refine isSound_ite (fun _ => isSound_goOn h) fun _ => ?_
    refine isSound_ite (fun _ => isSound_bind fun read hread => isSound_goOn ?_) fun _ =>
      isSound_error _
    exact ⟨h, isRead_of_nameOf hread, nofun⟩
  | value partly => exact isSound_stepValue h hc
  | valueReference partly name =>
    refine isSound_ite (fun _ => isSound_bind fun reference href => isSound_goOn ?_) fun _ =>
      isSound_goOn h
    refine ⟨h.tag, h.name, allowedParts_cons h.parts fun d hd => ?_⟩
    cases reference with
    | char e =>
      rw [← ValuePart.char.inj hd]
      exact isAllowed_of_referenceOf href
    | entity entity => cases hd
  | endName name =>
    refine isSound_ite (fun _ => isSound_bind fun _ _ => isSound_complete trivial) fun _ => ?_
    exact isSound_ite (fun _ => isSound_goOn trivial) fun _ => isSound_goOn trivial
  | endGap name =>
    refine isSound_ite (fun _ => isSound_bind fun _ _ => isSound_complete trivial) fun _ => ?_
    exact isSound_ite (fun _ => isSound_goOn trivial) fun _ => isSound_error _

/-! ## Scans -/

/-- A character of a text is taken as it is, as a line feed, or not at all. -/
theorem isSound_advance {place next : Place} {token : Option Token} {c : Char}
    (h : place.mode.IsSound) (hc : isAllowed c = true)
    (hadvance : place.advance c = .ok (next, token)) :
    next.mode.IsSound ∧ ∀ t ∈ token, t.IsSound := by
  have hstep {d : Char} (hd : isAllowed d = true)
      (hreturn : d = '\r' → place.mode.keepsLineEnds = true) {returned : Bool}
      (hnext : (step place.mode d >>= fun p =>
        Except.ok ({ mode := p.1, returned := returned }, p.2)) = .ok (next, token)) :
      next.mode.IsSound ∧ ∀ t ∈ token, t.IsSound := by
    obtain ⟨answer, hanswer, heq⟩ := exists_of_bind hnext
    obtain ⟨rfl, rfl⟩ := Prod.mk.inj (Except.ok.inj heq)
    exact isSound_step h hd hreturn answer.1 answer.2 hanswer
  unfold Place.advance at hadvance
  split at hadvance
  · rename_i hkeeps
    exact hstep hc (fun _ => hkeeps) hadvance
  · split at hadvance
    · have hfeed : '\n' ≠ '\r' := by decide
      exact hstep (by decide) (fun heq => absurd heq hfeed) hadvance
    · rename_i hreturn
      split at hadvance
      · obtain ⟨rfl, rfl⟩ := Prod.mk.inj (Except.ok.inj hadvance)
        exact ⟨h, nofun⟩
      · exact hstep hc (fun heq => absurd heq hreturn) hadvance

/-- **The tokens of a scan are sound.** So is the mode that it ends in, which carries the
induction on the text. -/
theorem scan_isSound {place last : Place} {text : List Char} {tokens : List Token}
    (h : place.mode.IsSound) (htext : text.all isAllowed = true)
    (hscan : scan place text = .ok (last, tokens)) :
    last.mode.IsSound ∧ ∀ t ∈ tokens, t.IsSound := by
  induction text generalizing place tokens with
  | nil =>
    obtain ⟨rfl, rfl⟩ := Prod.mk.inj (Except.ok.inj hscan)
    exact ⟨h, nofun⟩
  | cons c rest ih =>
    rw [List.all_cons, Bool.and_eq_true] at htext
    rw [scan] at hscan
    obtain ⟨⟨next, token⟩, hadvance, hmore⟩ := exists_of_bind hscan
    obtain ⟨⟨last', more⟩, hrest, heq⟩ := exists_of_bind hmore
    obtain ⟨rfl, rfl⟩ := Prod.mk.inj (Except.ok.inj heq)
    obtain ⟨hnext, htoken⟩ := isSound_advance h htext.1 hadvance
    obtain ⟨hlast, htokens⟩ := ih hnext htext.2 hrest
    refine ⟨hlast, fun t ht => ?_⟩
    rcases List.mem_append.mp ht with hfirst | hmore
    · exact htoken t (Option.mem_toList.mp hfirst)
    · exact htokens t hmore

/-- The tokens of a text of allowed characters are sound. -/
theorem isSound_of_tokens {text : List Char} {ts : List Token}
    (htext : text.all isAllowed = true) (h : tokens text = .ok ts) : ∀ t ∈ ts, t.IsSound := by
  rw [tokens] at h
  obtain ⟨⟨last, completed⟩, hscan, hend⟩ := exists_of_bind h
  have hstart : Place.start.mode.IsSound := trivial
  have hsound := (scan_isSound hstart htext hscan).2
  dsimp only at hend
  split at hend
  · rwa [← Except.ok.inj hend]
  · cases hend

end SymbolDocs.Markup
