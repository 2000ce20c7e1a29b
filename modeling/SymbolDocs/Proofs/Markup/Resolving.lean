/-
Resolving a plain tag.

Where nothing was declared, each step of resolving a plain tag is a reading that answers
without touching the ledger: no name is complained of, no value is changed, no default is
added, and no declaration is looked up. So the tag that was written is the tag that is
read (`resolve_plain`).
-/
import SymbolDocs.Markup.Namespace
import SymbolDocs.Proofs.Markup.Scanning

set_option autoImplicit false

namespace SymbolDocs.Markup

/-! ## Readings -/

/-- What is expected and is so is passed over. -/
theorem expect_true (fault : Fault) : Reading.expect true fault = pure () :=
  rfl

/-- Readings that all answer at once answer together. -/
theorem mapM_eq_pure_map {α β : Type} {f : α → Reading β} {g : α → β} {as : List α}
    (h : ∀ a ∈ as, f a = pure (g a)) : as.mapM f = pure (as.map g) := by
  induction as with
  | nil => rfl
  | cons a rest ih =>
    rw [List.mapM_cons, h a List.mem_cons_self, pure_bind,
      ih fun b hb => h b (List.mem_cons_of_mem _ hb), pure_bind, List.map_cons]

/-- A value of characters only is admitted as it is: it refers to nothing. -/
theorem admitParts_map_char (d : Declarations) (room : Nat) (cs : List Char) :
    admitParts d room (cs.map .char) = pure (cs.map .char) := by
  induction cs with
  | nil => rfl
  | cons c rest ih => rw [List.map_cons, admitParts, ih, pure_bind]

/-- A value of characters only names no entity. -/
theorem entityNames_map_char (cs : List Char) : entityNames (cs.map .char) = [] := by
  rw [entityNames, List.filterMap_map, List.filterMap_eq_nil_iff]
  intro c _
  rfl

/-! ## Attributes -/

/-- A simple name, without qualifier. -/
structure QName.IsSimple (name : QName) : Prop where
  qualifier : name.qualifier = none
  simple : isSimpleName name.part = true

section Attributes

variable {setting : Setting} {standalone : Bool} (element : QName)

/-- An attribute with a simple name that declares nothing keeps the name, and the value
that is admitted. -/
theorem take_eq_admitParts (hs : setting.declarations = .empty standalone) (sorted : Sorted)
    {a : WrittenAttribute} (hname : a.name.IsSimple) (hnot : a.name.part ≠ declarationWord) :
    Sorted.take setting element sorted a = (do
      let value ← admitParts (.empty standalone) setting.room a.value
      return { sorted with others := sorted.others ++ [{ name := a.name, value := value }] }) := by
  -- The questions that are asked of an attribute, each with the answer that leaves it as it
  -- is.
  have hproper : a.name.isProper = true := by
    rw [QName.eq_plain hname.qualifier]
    exact isProper_plain hname.simple
  have hdeclares : a.name.declares? = none := by
    rw [QName.declares?, hname.qualifier]
    exact if_neg hnot
  have hcollapses : (Declarations.empty standalone).collapsesGaps element a.name = false :=
    rfl
  have hspace : ¬ a.name = spaceName := by
    intro h
    have hq : a.name.qualifier = spaceName.qualifier := congrArg QName.qualifier h
    rw [hname.qualifier] at hq
    exact absurd hq (by decide)
  rw [Sorted.take, hproper, expect_true, pure_bind, hdeclares]
  simp only [hs, hcollapses, hspace, decide_false, Bool.false_and]
  rfl

/-- A plain attribute is sorted among those that declare nothing, as it was written. -/
theorem take_plain (hs : setting.declarations = .empty standalone) (sorted : Sorted)
    {a : Attribute} (ha : a.IsPlain) :
    Sorted.take setting element sorted a.written
      = pure { sorted with others := sorted.others ++ [a.written] } := by
  have hvalue : admitParts (.empty standalone) setting.room a.written.value
      = pure a.written.value := by
    rw [Attribute.written, ha.value, admitParts_map_char]
  rw [take_eq_admitParts element hs sorted (a := a.written) ⟨ha.qualifier, ha.simple⟩
    ha.no_declaration, hvalue, pure_bind]

/-- Plain attributes are all sorted there, in their order. -/
theorem foldlM_take_plain (hs : setting.declarations = .empty standalone)
    {as : List Attribute} (has : ∀ a ∈ as, a.IsPlain) (sorted : Sorted) :
    (as.map Attribute.written).foldlM (Sorted.take setting element) sorted
      = pure { sorted with others := sorted.others ++ as.map Attribute.written } := by
  induction as generalizing sorted with
  | nil => simp
  | cons a rest ih =>
    rw [List.map_cons, List.foldlM_cons, take_plain element hs sorted (has a List.mem_cons_self),
      pure_bind, ih fun b hb => has b (List.mem_cons_of_mem _ hb), List.append_assoc,
      List.singleton_append]

/-- A plain attribute is settled as it was written; it identifies nothing. -/
theorem settle_plain (hs : setting.declarations = .empty standalone) {a : Attribute}
    (ha : a.IsPlain) :
    settle setting element a.name none a.value = pure a := by
  have hnames : entityNames a.value = [] := by
    rw [ha.value, entityNames_map_char]
  -- The name of identifiers has a qualifier, and nothing else is declared to be one.
  have hprint : ¬ a.name.print = Declarations.identifierName := by
    rw [QName.print_of_qualifier ha.qualifier]
    intro h
    have hsimple := ha.simple
    rw [h] at hsimple
    exact absurd hsimple (by decide)
  have htext (d : Declarations) (opened : List (List Char × Opened)) :
      valueText d opened a.value = a.text := by
    rw [ha.value, valueText_map_char]
  have hidentifies : (Declarations.empty standalone).identifies element a.name = false :=
    rfl
  rw [settle, hnames, hs]
  simp only [htext, if_neg hprint, hidentifies, Bool.and_false, Bool.false_eq_true, if_false,
    ite_self]
  rw [← ha.space]
  rfl

/-- A plain attribute is in no namespace. -/
theorem attributeSpace_plain (scope : Scope) {a : Attribute} (ha : a.IsPlain) :
    attributeSpace scope a.name = pure none := by
  rw [attributeSpace, ha.qualifier]

end Attributes

/-! ## Names that are given once -/

/-- Names in no namespace. -/
def unspaced (names : List QName) : SpacedNames :=
  names.map fun name => (name, none)

theorem unspaced_cons (name : QName) (rest : List QName) :
    unspaced (name :: rest) = (name, none) :: unspaced rest :=
  rfl

/-- Among names in no namespace a name is found only if it is one of them. -/
theorem find?_unspaced {before : List QName} (hbefore : ∀ n ∈ before, n.qualifier = none)
    {name : QName} (hq : name.qualifier = none) (hname : name ∉ before) :
    (unspaced before).find? (none, name.part) = none := by
  rw [SpacedNames.find?, Option.map_eq_none_iff, List.find?_eq_none]
  intro spaced hmem hfound
  obtain ⟨other, hother, rfl⟩ := List.mem_map.mp hmem
  have hpart : other.part = name.part := by
    simpa [isUnresolved, hbefore other hother] using hfound
  have hsame : other = name := by
    rw [QName.eq_plain (hbefore other hother), QName.eq_plain hq, hpart]
  exact hname (hsame ▸ hother)

/-- Distinct names in no namespace are not repeated. -/
theorem repeatedNames_unspaced {before names : List QName}
    (hq : ∀ n ∈ before ++ names, n.qualifier = none) (hdistinct : (before ++ names).Nodup) :
    repeatedNames (unspaced before) (unspaced names) = .ok [] := by
  induction names generalizing before with
  | nil => rfl
  | cons name rest ih =>
    have hname : name.qualifier = none := hq name (by simp)
    -- A name is looked for among those before it, so these grow along the induction.
    have hnot : name ∉ before := by
      intro hmem
      exact (List.nodup_append.mp hdistinct).2.2 name hmem name List.mem_cons_self rfl
    have hstep : unspaced before ++ [(name, none)] = unspaced (before ++ [name]) := by
      rw [unspaced, unspaced, List.map_append]
      rfl
    have hrest : repeatedNames (unspaced (before ++ [name])) (unspaced rest) = .ok [] :=
      ih (by simpa using hq) (by simpa using hdistinct)
    have hunresolved : isUnresolved name none = false := by
      rw [isUnresolved, hname]
      rfl
    have hfind := find?_unspaced (fun n hn => hq n (List.mem_append_left _ hn)) hname hnot
    rw [unspaced_cons, repeatedNames, hstep, hrest]
    simp only [bind, Except.bind, hunresolved, hfind]
    rfl

/-- So there is nothing to complain of in them. -/
theorem checkRepeated_unspaced {names : List QName} (hq : ∀ n ∈ names, n.qualifier = none)
    (hdistinct : names.Nodup) : checkRepeated (unspaced names) = pure () := by
  have hrepeated : repeatedNames (unspaced []) (unspaced names) = .ok [] :=
    repeatedNames_unspaced hq hdistinct
  rw [checkRepeated]
  change (monadLift (repeatedNames (unspaced []) (unspaced names)) >>= _ : Reading Unit) = _
  rw [hrepeated]
  rfl

/-! ## Whole tags -/

/-- Where nothing was declared, all that is left to ask of a tag with plain attributes is
whether one of them is given twice. -/
theorem resolve_eq_checkRepeated {setting : Setting} {standalone : Bool}
    (hs : setting.declarations = .empty standalone) (outer : Scope) {tag : Tag}
    (hname : tag.name.IsSimple) (hdeclarations : tag.declarations = [])
    (hattributes : ∀ a ∈ tag.attributes, a.IsPlain) :
    tag.written.resolve setting outer = (do
      checkRepeated (unspaced (tag.attributes.map (·.name)))
      return tag) := by
  have hproper : tag.written.name.isProper = true := by
    rw [Tag.written, QName.eq_plain hname.qualifier]
    exact isProper_plain hname.simple
  -- Step by step: no attribute is a declaration, none is qualified, and each is settled as
  -- it stands.
  have hsorted := foldlM_take_plain tag.written.name hs hattributes
    { declarations := [], others := [] }
  have hspaces (scope : Scope) :
      tag.written.attributes.mapM (fun a => attributeSpace scope a.name)
        = pure (tag.attributes.map fun _ => none) := by
    rw [Tag.written, List.mapM_map]
    exact mapM_eq_pure_map fun a ha => attributeSpace_plain scope (hattributes a ha)
  have hzip : tag.written.attributes.zip (tag.attributes.map fun _ => (none : Option (List Char)))
      = tag.attributes.map fun a => (a.written, none) := by
    rw [Tag.written, List.zip_map']
  have hnames :
      (tag.written.attributes.map (·.name)).zip (tag.attributes.map fun _ => none)
        = unspaced (tag.attributes.map (·.name)) := by
    rw [Tag.written, List.map_map, List.zip_map', unspaced, List.map_map]
    rfl
  have hsettled :
      (tag.attributes.map fun a => (a.written, (none : Option (List Char)))).mapM
          (fun a => settle setting tag.written.name a.1.name a.2 a.1.value)
        = pure tag.attributes := by
    have hone := mapM_eq_pure_map (g := id) fun a ha =>
      settle_plain tag.written.name hs (hattributes a ha)
    rw [List.map_id] at hone
    rw [List.mapM_map]
    exact hone
  have hbinds (scope : Scope) : scope.binds tag.written.name = true := by
    rw [Scope.binds, Tag.written, hname.qualifier]
    rfl
  have hdefaults : (Declarations.empty standalone).defaults tag.written.name = [] :=
    rfl
  rw [WrittenTag.resolve, hproper, expect_true, pure_bind]
  have hwritten : tag.written.attributes = tag.attributes.map Attribute.written := rfl
  rw [hwritten, hsorted, pure_bind, hs, hdefaults]
  simp only [List.nil_append, addDefaults, pure_bind, ← hwritten, hspaces, hnames, hzip,
    checkDefaults, hbinds, expect_true, hsettled]
  rw [← hdeclarations]
  rfl

/-- Where nothing was declared, a plain tag is resolved to itself and nothing is noted. -/
theorem resolve_plain {setting : Setting} {standalone : Bool}
    (hs : setting.declarations = .empty standalone) (outer : Scope) {tag : Tag}
    (h : tag.IsPlain) : tag.written.resolve setting outer = pure tag := by
  have hqualifiers : ∀ n ∈ tag.attributes.map (·.name), n.qualifier = none := by
    intro n hn
    obtain ⟨a, ha, rfl⟩ := List.mem_map.mp hn
    exact (h.attributes a ha).qualifier
  rw [resolve_eq_checkRepeated hs outer ⟨h.qualifier, h.simple⟩ h.declarations h.attributes,
    checkRepeated_unspaced hqualifiers h.distinct, pure_bind]

end SymbolDocs.Markup
