/-
Documents without qualified names.

Where no name in a document holds a colon and no namespace is declared, every tag that is
read is plain (`fits_plain`). The way there is to read
each check backwards: a name without colon that was read as a name is simple, a value whose
references were all admitted where nothing is declared held no references, and of names
that were not complained of as given twice, none is given twice.
-/
import SymbolDocs.Proofs.Markup.Trees

set_option autoImplicit false

namespace SymbolDocs.Markup

/-! ## Names without colons -/

def WrittenTag.names (tag : WrittenTag) : List QName :=
  tag.name :: tag.attributes.map (·.name)

/-- The names in a token. That of an instruction is its target. -/
def Token.names : Token → List QName
  | .startTag tag => tag.names
  | .emptyTag tag => tag.names
  | .instruction target _ => [QName.split target]
  | _ => []

def WrittenTag.declares (tag : WrittenTag) : Bool :=
  tag.attributes.any fun a => a.name.declares?.isSome

/-- Whether a token declares a namespace. -/
def Token.declares : Token → Bool
  | .startTag tag => tag.declares
  | .emptyTag tag => tag.declares
  | _ => false

/-- Whether a token is no document type, declares no namespace and has no name with a
qualifier. -/
def Token.isUnprefixed (token : Token) : Bool :=
  !token.isDoctype && !token.declares && token.names.all (·.qualifier.isNone)

/-- Whether besides no name in a token holds a colon. -/
def Token.isUnqualified (token : Token) : Bool :=
  token.isUnprefixed && token.names.all (·.isProper)

/-- The form of trees without qualified names. -/
def Form.plain : Form where
  tag := Tag.IsPlain
  target target := ':' ∉ target

theorem not_mem_of_isProper {name : QName} (h : name.isProper = true) : ':' ∉ name.part := by
  rw [QName.isProper, Bool.not_eq_true', ← Bool.not_eq_true, List.contains_iff_mem] at h
  exact h

/-- A name without colon is simple. -/
theorem isSimpleName_of_isName {cs : List Char} (h : isName cs = true) (hcolon : ':' ∉ cs) :
    isSimpleName cs = true := by
  cases cs with
  | nil => exact absurd h Bool.false_ne_true
  | cons c rest =>
    rw [List.mem_cons, not_or] at hcolon
    obtain ⟨hc, hrest⟩ := hcolon
    rw [isName, Bool.and_eq_true, Bool.and_eq_true, List.all_eq_true] at h
    obtain ⟨⟨hstart, hall⟩, hbear⟩ := h
    have hnot (d : Char) (hd : d ≠ ':') : decide (d = ':') = false := decide_eq_false hd
    rw [hnot c (Ne.symm hc), Bool.or_false] at hstart
    rw [isSimpleName, hstart, hbear, Bool.true_and, Bool.and_true, List.all_eq_true]
    intro d hd
    have hchar := hall d hd
    rwa [hnot d (fun heq => hrest (heq ▸ hd)), Bool.or_false] at hchar

theorem isSimple_of_isRead {name : QName} (h : name.IsRead) (hqualifier : name.qualifier = none)
    (hproper : name.isProper = true) : name.IsSimple := by
  obtain ⟨cs, hcs⟩ := h
  unfold QName.ofChars? at hcs
  dsimp only at hcs
  split at hcs
  · rename_i hsimple
    obtain rfl := Option.some.inj hcs
    -- Only a name with a qualifier was read in two parts.
    rw [hqualifier, Bool.and_eq_true] at hsimple
    exact absurd hsimple.1 Bool.false_ne_true
  · split at hcs
    · rename_i hname
      obtain rfl := Option.some.inj hcs
      exact ⟨rfl, isSimpleName_of_isName hname (not_mem_of_isProper hproper)⟩
    · cases hcs

/-- A text that is not cut at a colon, and has none in it, has none at all. -/
theorem not_mem_of_split {cs : List Char} (hqualifier : (QName.split cs).qualifier = none)
    (hproper : (QName.split cs).isProper = true) : ':' ∉ cs := by
  have hwhole : QName.split cs = .plain cs := by
    unfold QName.split at hqualifier ⊢
    split at hqualifier
    · exact absurd hqualifier (Option.some_ne_none _)
    · rfl
  rw [hwhole] at hproper
  exact not_mem_of_isProper hproper

/-! ## Checks that succeed -/

section Readings

variable {ledger next : Ledger} {room : Nat} {standalone : Bool}

/-- Where nothing is declared, a value is admitted only if it holds no references. -/
theorem exists_chars_of_admitParts {parts value : List ValuePart}
    (h : (admitParts (.empty standalone) room parts).run ledger = .ok (value, next)) :
    ∃ text : List Char, parts = text.map .char := by
  induction parts generalizing ledger next value with
  | nil => exact ⟨[], rfl⟩
  | cons part rest ih =>
    cases part with
    | char c =>
      obtain ⟨_, _, hrest, _⟩ := exists_of_run_bind h
      obtain ⟨text, rfl⟩ := ih hrest
      exact ⟨c :: text, rfl⟩
    | entity name =>
      obtain ⟨_, _, hvet, _⟩ := exists_of_run_bind h
      have hunknown : (vet (.empty standalone) room name).run ledger
          = .error .undeclaredEntity := by
        cases room with
        | zero => rfl
        | succ room => rfl
      rw [hunknown] at hvet
      cases hvet

/-- Attributes that are taken where nothing is declared hold no references. -/
theorem exists_chars_of_take {setting : Setting}
    (hs : setting.declarations = .empty standalone) (element : QName)
    {attributes : List WrittenAttribute}
    (hsimple : ∀ a ∈ attributes, a.name.IsSimple ∧ a.name.part ≠ declarationWord)
    {sorted done : Sorted}
    (h : (attributes.foldlM (Sorted.take setting element) sorted).run ledger = .ok (done, next)) :
    ∀ a ∈ attributes, ∃ text : List Char, a.value = text.map .char := by
  induction attributes generalizing sorted ledger with
  | nil => exact nofun
  | cons a rest ih =>
    obtain ⟨hname, hnot⟩ := hsimple a List.mem_cons_self
    rw [List.foldlM_cons, take_eq_admitParts element hs sorted hname hnot] at h
    obtain ⟨_, _, htake, hrest⟩ := exists_of_run_bind h
    obtain ⟨_, _, hadmit, _⟩ := exists_of_run_bind htake
    intro b hb
    rcases List.mem_cons.mp hb with rfl | hb
    · exact exists_chars_of_admitParts hadmit
    · exact ih (fun c hc => hsimple c (List.mem_cons_of_mem _ hc)) hrest b hb

/-- Unqualified names among which none is found to be repeated differ from one another,
and from those before them. -/
theorem nodup_of_repeatedNames {before names others : List QName}
    (hq : ∀ n ∈ before ++ names, n.qualifier = none)
    (h : repeatedNames (unspaced before) (unspaced names) = .ok others) :
    (∀ n ∈ names, n ∉ before) ∧ names.Nodup := by
  induction names generalizing before others with
  | nil => exact ⟨by simp, List.nodup_nil⟩
  | cons name rest ih =>
    have hname : name.qualifier = none := hq name (by simp)
    have hstep : unspaced before ++ [(name, none)] = unspaced (before ++ [name]) := by
      rw [unspaced, unspaced, List.map_append]
      rfl
    rw [unspaced_cons, repeatedNames, hstep] at h
    obtain ⟨more, hmore, hend⟩ := exists_of_bind h
    obtain ⟨hrest, hnodup⟩ := ih (by simpa using hq) hmore
    -- The name itself is not among those before it, or it would have been a fault.
    have hnot : name ∉ before := by
      intro hmem
      have hsome : ((unspaced before).find? (none, name.part)).isSome = true := by
        rw [SpacedNames.find?, Option.isSome_map, List.find?_isSome]
        refine ⟨(name, none), List.mem_map_of_mem hmem, ?_⟩
        simp [isUnresolved, hname]
      obtain ⟨first, hfirst⟩ := Option.isSome_iff_exists.mp hsome
      have hqualifier : first.qualifier = name.qualifier := by
        rw [SpacedNames.find?, Option.map_eq_some_iff] at hfirst
        obtain ⟨spaced, hfound, rfl⟩ := hfirst
        obtain ⟨other, hother, rfl⟩ := List.mem_map.mp (List.mem_of_find?_eq_some hfound)
        rw [hname, hq other (List.mem_append_left _ hother)]
      have hunresolved : isUnresolved name none = false := by
        rw [isUnresolved, hname]
        rfl
      simp only [hunresolved, hfirst, hqualifier] at hend
      cases hend
    constructor
    · intro n hn
      rcases List.mem_cons.mp hn with rfl | hn
      · exact hnot
      · exact fun hmem => hrest n hn (List.mem_append_left _ hmem)
    · refine List.nodup_cons.mpr ⟨fun hmem => ?_, hnodup⟩
      exact hrest name hmem (List.mem_append_right _ List.mem_cons_self)

theorem nodup_of_checkRepeated {names : List QName} (hq : ∀ n ∈ names, n.qualifier = none)
    (h : (checkRepeated (unspaced names)).run ledger = .ok ((), next)) :
    names.Nodup := by
  obtain ⟨others, _, hothers, _⟩ := exists_of_run_bind h
  obtain ⟨_, hrepeated, _⟩ := exists_of_bind hothers
  have hall : ∀ n ∈ [] ++ names, n.qualifier = none := hq
  exact (nodup_of_repeatedNames hall hrepeated).2

end Readings

/-! ## Tags -/

/-- The text of a value, without its references. -/
def charsOf (parts : List ValuePart) : List Char :=
  parts.filterMap fun part =>
    match part with
    | .char c => some c
    | .entity _ => none

theorem charsOf_map_char (text : List Char) : charsOf (text.map .char) = text := by
  rw [charsOf, List.filterMap_map]
  exact List.filterMap_some

/-- An attribute that is in no namespace. -/
def WrittenAttribute.unspaced (a : WrittenAttribute) : Attribute :=
  { name := a.name, space := none, value := a.value, text := charsOf a.value }

/-- A tag that declares nothing. -/
def WrittenTag.undeclaring (tag : WrittenTag) : Tag :=
  { name := tag.name, declarations := []
    attributes := tag.attributes.map WrittenAttribute.unspaced }

theorem written_undeclaring (tag : WrittenTag) : tag.undeclaring.written = tag := by
  have hattributes : tag.attributes.map (Attribute.written ∘ WrittenAttribute.unspaced)
      = tag.attributes := List.map_id _
  rw [WrittenTag.undeclaring, Tag.written, List.map_map, hattributes]

/-- An attribute that was read, whose name holds no colon and declares nothing, and whose
value holds no references. -/
theorem isPlain_unspaced {a : WrittenAttribute} (h : a.IsSound) (hname : a.name.IsSimple)
    (hnot : a.name.part ≠ declarationWord) (hchars : ∃ text : List Char, a.value = text.map .char) :
    a.unspaced.IsPlain := by
  obtain ⟨text, htext⟩ := hchars
  have hvalue : charsOf a.value = text := by
    rw [htext, charsOf_map_char]
  refine ⟨hname.qualifier, hname.simple, hnot, rfl, ?_, ?_⟩
  · change a.value = (charsOf a.value).map .char
    rw [hvalue, htext]
  · change (charsOf a.value).all isAllowed = true
    rw [hvalue, List.all_eq_true]
    intro c hc
    refine h.value c ?_
    rw [htext]
    exact List.mem_map_of_mem hc

/-- **A tag without qualified names is resolved to a plain tag**, where nothing was declared
before. -/
theorem resolves_plain {tag : WrittenTag} (h : tag.IsSound) (hdeclares : tag.declares = false)
    (hnames : ∀ name ∈ tag.names, name.qualifier = none ∧ name.isProper = true) :
    tag.Resolves .plain := by
  intro setting standalone outer ledger next resolved hs hrun
  have hname : tag.name.IsSimple := by
    obtain ⟨hqualifier, hproper⟩ := hnames tag.name List.mem_cons_self
    exact isSimple_of_isRead h.name hqualifier hproper
  have hattributes : ∀ a ∈ tag.attributes, a.name.IsSimple ∧ a.name.part ≠ declarationWord := by
    intro a ha
    obtain ⟨hqualifier, hproper⟩ :=
      hnames a.name (List.mem_cons_of_mem _ (List.mem_map_of_mem ha))
    refine ⟨isSimple_of_isRead (h.attributes a ha).name hqualifier hproper, fun hword => ?_⟩
    have hnot := List.any_eq_false.mp hdeclares a ha
    rw [QName.declares?, hqualifier] at hnot
    exact hnot (by simp [hword])
  -- The attributes were taken, so their values hold no references.
  have hproper : tag.name.isProper = true := by
    rw [QName.eq_plain hname.qualifier]
    exact isProper_plain hname.simple
  have hchars : ∀ a ∈ tag.attributes, ∃ text : List Char, a.value = text.map .char := by
    have htaken := hrun
    rw [WrittenTag.resolve, hproper, expect_true, pure_bind] at htaken
    obtain ⟨_, _, htake, _⟩ := exists_of_run_bind htaken
    exact exists_chars_of_take hs tag.name hattributes htake
  have hplain : ∀ a ∈ tag.undeclaring.attributes, a.IsPlain := by
    intro b hb
    obtain ⟨a, ha, rfl⟩ := List.mem_map.mp hb
    obtain ⟨hsimple, hnot⟩ := hattributes a ha
    exact isPlain_unspaced (h.attributes a ha) hsimple hnot (hchars a ha)
  -- So all that was asked of the tag is whether an attribute is given twice.
  have hresolve := resolve_eq_checkRepeated hs outer hname rfl hplain
  rw [written_undeclaring] at hresolve
  rw [hresolve] at hrun
  obtain ⟨_, _, hcheck, hreturn⟩ := exists_of_run_bind hrun
  obtain ⟨rfl, -⟩ := Prod.mk.inj (Except.ok.inj hreturn)
  refine ⟨hname.qualifier, hname.simple, rfl, hplain, nodup_of_checkRepeated ?_ hcheck⟩
  intro n hn
  obtain ⟨a, ha, rfl⟩ := List.mem_map.mp hn
  exact (hplain a ha).qualifier

/-- A token without qualified names brings only what is plain into a tree. -/
theorem fits_plain {token : Token} (h : token.IsSound) (hunqualified : token.isUnqualified = true) :
    token.Fits .plain := by
  rw [Token.isUnqualified, Token.isUnprefixed, Bool.and_eq_true, Bool.and_eq_true,
    Bool.and_eq_true, Bool.not_eq_true', Bool.not_eq_true', List.all_eq_true,
    List.all_eq_true] at hunqualified
  obtain ⟨⟨⟨hdoctype, hdeclares⟩, hqualifiers⟩, hproper⟩ := hunqualified
  have hnames : ∀ name ∈ token.names, name.qualifier = none ∧ name.isProper = true :=
    fun name hname => ⟨Option.isNone_iff_eq_none.mp (hqualifiers name hname), hproper name hname⟩
  cases token with
  | startTag tag => exact resolves_plain h hdeclares hnames
  | emptyTag tag => exact resolves_plain h hdeclares hnames
  | instruction target data =>
    obtain ⟨hqualifier, hproper⟩ := hnames (QName.split target) List.mem_cons_self
    exact not_mem_of_split hqualifier hproper
  | doctype text => exact Bool.false_ne_true hdoctype.symm
  | _ => trivial

end SymbolDocs.Markup
