/-
Taking an element out of a document.

The tokens of an element, with all that is in it, are read as one item more in the element
around, whatever is inside (`takeAll_spans`). If they are taken out of a document, the rest is
read as before, without that item, and the runs of text on both sides become one
(`read_of_removal`). What is left need not be accepted, because a complaint may have
been forgiven on account of something in the element; it is, if nothing was complained of.

The reading of the larger document is followed beside that of the smaller one. The smaller one
has seen fewer identifiers, so where the larger one had nothing to complain of, it has not
either (`Ledger.Spared`).
-/
import SymbolDocs.Proofs.Markup.Comparing

set_option autoImplicit false

namespace SymbolDocs.Markup

/-! ## The tokens of an element -/

/-- Whether a token neither opens an element for others nor closes one. -/
def Token.isLeaf : Token → Bool
  | .startTag _ => false
  | .endTag _ => false
  | .doctype _ => false
  | _ => true

/-- Tokens that close every element they open, and no other. -/
inductive Nested : List Token → Prop where
  | nil : Nested []
  | leaf {t : Token} {rest : List Token} (is_leaf : t.isLeaf = true) (more : Nested rest) :
    Nested (t :: rest)
  | element (tag : WrittenTag) {inner : List Token} (close : QName) {rest : List Token}
    (inside : Nested inner) (more : Nested rest) :
    Nested ((.startTag tag :: (inner ++ [.endTag close])) ++ rest)

/-- The tokens of one element of a name. -/
inductive Spans (name : QName) : List Token → Prop where
  | empty (tag : WrittenTag) (named : tag.name = name) : Spans name [.emptyTag tag]
  | full (tag : WrittenTag) {inner : List Token} (close : QName) (named : tag.name = name)
    (inside : Nested inner) : Spans name (.startTag tag :: (inner ++ [.endTag close]))

/-- What tokens do that leave all elements open that were open: they change the innermost
one, but not its tag. -/
structure Outline.Fills (g : Frame) (below : List Frame) (o next : Outline) : Prop where
  frames : ∃ g', next.frames = g' :: below ∧ g'.tag = g.tag
  root : next.root = o.root
  depth : next.depth = o.depth
  declarations : next.declarations = o.declarations

/-- What the tokens of an element do: the innermost open element gets the element. -/
structure Outline.Gets (name : QName) (g : Frame) (below : List Frame) (o next : Outline) :
    Prop where
  frames : ∃ tag content, tag.name = name ∧ next.frames = g.add (.element tag content) :: below
  root : next.root = o.root
  depth : next.depth = o.depth
  declarations : next.declarations = o.declarations

namespace Outline

variable {o middle next : Outline} {g : Frame} {below : List Frame} {room : Nat}

theorem fills_of_gets {name : QName} (h : Gets name g below o next) : Fills g below o next := by
  obtain ⟨tag, content, -, hframes⟩ := h.frames
  exact ⟨⟨_, hframes, rfl⟩, h.root, h.depth, h.declarations⟩

theorem fills_trans {g' : Frame} (htag : g'.tag = g.tag) (h : Fills g below o middle)
    (h' : Fills g' below middle next) : Fills g below o next := by
  obtain ⟨g'', hframes, htag'⟩ := h'.frames
  exact ⟨⟨g'', hframes, htag'.trans htag⟩, h'.root.trans h.root, h'.depth.trans h.depth,
    h'.declarations.trans h.declarations⟩

theorem undeclared_of_fills (h : Fills g below o next)
    (hundeclared : ∃ standalone, o.declarations = .empty standalone) :
    ∃ standalone, next.declarations = .empty standalone := by
  rw [h.declarations]
  exact hundeclared

/-- A token that neither opens nor closes an element fills the innermost one. -/
theorem fills_of_step {t : Token} (hleaf : t.isLeaf = true) (hinside : o.frames = g :: below)
    (h : Step room o t next) : Fills g below o next := by
  cases h with
  | skip houtside =>
    rw [houtside] at hinside
    cases hinside
  | write htext hframes =>
    rw [hframes] at hinside
    obtain ⟨rfl, rfl⟩ := List.cons.inj hinside
    exact ⟨⟨_, rfl, rfl⟩, rfl, rfl, rfl⟩
  | comment text =>
    rw [add, hinside]
    exact ⟨⟨_, rfl, rfl⟩, rfl, rfl, rfl⟩
  | instruction data hjudged =>
    rw [add, hinside]
    exact ⟨⟨_, rfl, rfl⟩, rfl, rfl, rfl⟩
  | startTag => exact absurd hleaf Bool.false_ne_true
  | emptyTag hopens =>
    rw [hinside]
    exact ⟨⟨_, rfl, rfl⟩, rfl, rfl, rfl⟩
  | endTag => exact absurd hleaf Bool.false_ne_true

section Elements

variable (hundeclared : ∃ standalone, o.declarations = .empty standalone)
  (hinside : o.frames = g :: below)
include hundeclared hinside

/-- A start tag, what fills the element, and an end tag are an element. -/
theorem gets_of_takeAll {tag : WrittenTag} {inner : List Token} {close : QName}
    (hinner : ∀ {p q : Outline} {f : Frame} {rest : List Frame}, p.takeAll inner = .ok q →
      (∃ standalone, p.declarations = .empty standalone) → p.frames = f :: rest →
        Fills f rest p q)
    (h : o.takeAll (.startTag tag :: (inner ++ [.endTag close])) = .ok next) :
    Gets tag.name g below o next := by
  obtain ⟨opened, hopen, hmore⟩ := (takeAll_cons_eq_ok_iff hundeclared rfl).mp h
  rw [takeAll_append] at hmore
  obtain ⟨filled, hfill, hlast⟩ := exists_of_bind hmore
  cases hopen with
  | write htext => cases htext
  | @startTag _ resolved ledger hopens =>
    have hfills := hinner hfill hundeclared rfl
    obtain ⟨f, hframes, htag⟩ := hfills.frames
    obtain ⟨closed, hclose, hend⟩ :=
      (takeAll_cons_eq_ok_iff (undeclared_of_fills hfills hundeclared) rfl).mp hlast
    obtain rfl := Except.ok.inj hend
    cases hclose with
    | endTag hclosing =>
      rw [hframes] at hclosing
      obtain ⟨rfl, rfl⟩ := List.cons.inj hclosing
      rw [hinside]
      refine ⟨⟨f.tag, f.closed.reverse, ?_, rfl⟩, hfills.root, hfills.depth,
        hfills.declarations⟩
      rw [htag]
      exact name_eq_of_resolve hopens.resolved
    | write htext => cases htext

/-- Tokens that close what they open fill the innermost element. -/
theorem fills_of_nested {ts : List Token} (hnested : Nested ts)
    (huntyped : ∀ t ∈ ts, t.isDoctype = false) (h : o.takeAll ts = .ok next) :
    Fills g below o next := by
  induction hnested generalizing o g below next with
  | nil =>
    obtain rfl := Except.ok.inj h
    exact ⟨⟨g, hinside, rfl⟩, rfl, rfl, rfl⟩
  | leaf hleaf _ ih =>
    obtain ⟨middle, hstep, hmore⟩ :=
      (takeAll_cons_eq_ok_iff hundeclared (huntyped _ List.mem_cons_self)).mp h
    have hfills := fills_of_step hleaf hinside hstep
    obtain ⟨g', hframes, htag⟩ := hfills.frames
    exact fills_trans htag hfills
      (ih (undeclared_of_fills hfills hundeclared) hframes
        (fun t ht => huntyped t (List.mem_cons_of_mem _ ht)) hmore)
  | @element tag inner close rest _ _ ihinner ihrest =>
    rw [takeAll_append] at h
    obtain ⟨middle, helement, hmore⟩ := exists_of_bind h
    have hinner (t : Token) (ht : t ∈ inner) : t.isDoctype = false :=
      huntyped t (List.mem_append_left _ (List.mem_cons_of_mem _ (List.mem_append_left _ ht)))
    have hfills := fills_of_gets (gets_of_takeAll hundeclared hinside
      (fun htaken hundeclared hinside => ihinner hundeclared hinside hinner htaken) helement)
    obtain ⟨g', hframes, htag⟩ := hfills.frames
    exact fills_trans htag hfills
      (ihrest (undeclared_of_fills hfills hundeclared) hframes
        (fun t ht => huntyped t (List.mem_append_right _ ht)) hmore)

/-- **The tokens of an element are one item more in the innermost open element.** -/
theorem takeAll_spans {name : QName} {ts : List Token} (hspans : Spans name ts)
    (huntyped : ∀ t ∈ ts, t.isDoctype = false) (h : o.takeAll ts = .ok next) :
    Gets name g below o next := by
  cases hspans with
  | empty tag named =>
    obtain ⟨placed, hplace, hend⟩ := (takeAll_cons_eq_ok_iff hundeclared rfl).mp h
    obtain rfl := Except.ok.inj hend
    cases hplace with
    | emptyTag hopens =>
      rw [hinside]
      refine ⟨⟨_, _, ?_, rfl⟩, rfl, rfl, rfl⟩
      exact (name_eq_of_resolve hopens.resolved).trans named
    | write htext => cases htext
  | @full tag inner close named hnested =>
    have hinner (t : Token) (ht : t ∈ inner) : t.isDoctype = false :=
      huntyped t (List.mem_cons_of_mem _ (List.mem_append_left _ ht))
    rw [← named]
    exact gets_of_takeAll hundeclared hinside (fun htaken hundeclared hinside =>
      fills_of_nested hundeclared hinside hnested hinner htaken) h

end Elements

end Outline

/-! ## What is written to the ledgers -/

theorem complaints_le_add (notes : Notes) (n : Note) :
    notes.complaints ≤ (notes.add n).complaints := by
  cases n with
  | remark =>
    rw [Notes.add]
    split
    · exact Nat.le_refl _
    · exact Nat.le_refl _
  | complaint fault =>
    rw [Notes.add]
    split
    · exact Nat.le_refl _
    · exact Nat.le_succ _

theorem complaints_add_complaint (notes : Notes) (fault : Fault) :
    (notes.add (.complaint fault)).complaints ≠ 0 := by
  rw [Notes.add]
  split
  · rename_i hfull
    have hlimit : Notes.limit = 100 := rfl
    omega
  · exact Nat.succ_ne_zero _

/-- One ledger has all that the other has: as many complaints at least, and its identifiers. -/
def Ledger.Covers (ledger base : Ledger) : Prop :=
  base.notes.complaints ≤ ledger.notes.complaints ∧ base.identifiers ⊆ ledger.identifiers

/-- What a ledger has it keeps. -/
theorem lasting_covers (base : Ledger) : Ledger.Lasting fun a _ => a.Covers base where
  noted _ _ h n := ⟨h.1.trans (complaints_le_add _ n), h.2⟩
  identified a _ h identifier := by
    rw [Ledger.identified]
    split
    · exact ⟨h.1.trans (complaints_le_add _ _), h.2⟩
    · exact ⟨h.1, List.subset_cons_of_subset _ h.2⟩

/-- If nothing was complained of on the one side, nothing was on the other, and fewer
identifiers are known there. -/
def Ledger.Spared (a b : Ledger) : Prop :=
  a.notes.complaints = 0 →
    b.notes.complaints = 0 ∧ b.notes.verdict = .ok () ∧ b.identifiers ⊆ a.identifiers

theorem spared_before (bytes bytes' : Nat) :
    (Ledger.before bytes).Spared (Ledger.before bytes') :=
  fun _ => ⟨rfl, rfl, List.Subset.refl _⟩

theorem lasting_spared : Ledger.Lasting Ledger.Spared where
  noted a b h n hnone := by
    cases n with
    | complaint fault => exact absurd hnone (complaints_add_complaint _ _)
    | remark =>
      have hsame (notes : Notes) : (notes.add .remark).complaints = notes.complaints := by
        rw [Notes.add]
        split
        · rfl
        · rfl
      obtain ⟨hcomplaints, hverdict, hsubset⟩ := h ((hsame _).symm.trans hnone)
      refine ⟨(hsame _).trans hcomplaints, ?_, hsubset⟩
      rw [Ledger.noted, Notes.add]
      dsimp only
      split
      · exact hverdict
      · rfl
  identified a b h identifier hnone := by
    rw [Ledger.identified] at hnone ⊢
    split at hnone
    · exact absurd hnone (complaints_add_complaint _ _)
    · rename_i hnew
      rw [Ledger.identified, if_neg hnew]
      obtain ⟨hcomplaints, hverdict, hsubset⟩ := h hnone
      rw [Bool.or_eq_true, not_or, List.contains_iff_mem] at hnew
      have hnew' : ¬ (identifier.isEmpty || b.identifiers.contains identifier) = true := by
        rw [Bool.or_eq_true, not_or, List.contains_iff_mem]
        exact ⟨hnew.1, fun hmem => hnew.2 (hsubset hmem)⟩
      rw [if_neg hnew']
      exact ⟨hcomplaints, hverdict, List.cons_subset_cons _ hsubset⟩

theorem spared_of_covers {a b c : Ledger} (h : a.Spared b) (hcovers : c.Covers a) :
    c.Spared b := by
  intro hnone
  obtain ⟨hcomplaints, hverdict, hsubset⟩ := h (by have := hcovers.1; omega)
  exact ⟨hcomplaints, hverdict, fun _ hmem => hcovers.2 (hsubset hmem)⟩

/-! ## An element on one side -/

/-- Two texts can be put together without becoming one where there were two: one of them is
empty, or both are layout. -/
def Seamless (before after : List Char) : Prop :=
  before = [] ∨ after = [] ∨ Text.allBlank (before ++ after) = true

/-- An element with a name of some sort on the left side, between two runs of text that are
one on the right side. -/
def removal (sort : QName → Prop) : Divergence where
  fresh ahead f f' :=
    f'.tag = f.tag ∧ f'.scope = f.scope
      ∧ ∃ tag inner before, sort tag.name
        ∧ f.items = .element tag inner :: Frame.closed { f' with run := before }
        ∧ f'.run.getD [] = f.run.getD [] ++ before.getD []
        ∧ Seamless (before.getD []).reverse ((f.run.getD []).reverse ++ ahead.text)
  content content content' :=
    ∃ tag inner left right before after run, sort tag.name
      ∧ content = left ++ runItems before ++ .element tag inner :: (runItems after ++ right)
      ∧ content' = left ++ runItems run ++ right
      ∧ run.getD [] = before.getD [] ++ after.getD []
      ∧ Seamless (before.getD []) (after.getD [])
  tag h := h.1
  scope h := h.2.1
  write := by
    rintro text ahead f f' ⟨htag, hscope, tag, inner, before, hsort, hitems, hrun, hseam⟩
    refine ⟨htag, hscope, tag, inner, before, hsort, hitems, ?_, ?_⟩
    · change text.reverse ++ f'.run.getD [] = text.reverse ++ f.run.getD [] ++ before.getD []
      rw [hrun, List.append_assoc]
    · change Seamless _ ((text.reverse ++ f.run.getD []).reverse ++ ahead.text)
      rw [List.reverse_append, List.reverse_reverse, List.append_assoc]
      exact hseam
  settle := by
    rintro opens f f' ⟨-, -, tag, inner, before, hsort, hitems, hrun, hseam⟩ right -
    rw [List.append_nil] at hseam
    refine ⟨tag, inner, f'.items.reverse, right, before.map List.reverse,
      f.run.map List.reverse, f'.run.map List.reverse, hsort, ?_, ?_, ?_, ?_⟩
    · rw [closed_reverse_eq, hitems, List.reverse_cons, closed_reverse_eq]
      simp
    · rw [closed_reverse_eq]
    · rw [getD_map_reverse, getD_map_reverse, getD_map_reverse, hrun, List.reverse_append]
    · rw [getD_map_reverse, getD_map_reverse]
      exact hseam

/-! ## Documents -/

/-- What the ledger has before some tokens it has after them. -/
theorem covers_of_takeAll {o next : Outline} {ts : List Token}
    (hundeclared : ∃ standalone, o.declarations = .empty standalone)
    (huntyped : ∀ t ∈ ts, t.isDoctype = false) (h : o.takeAll ts = .ok next) :
    next.ledger.Covers o.ledger := by
  -- The reading is compared with itself, so only what is said of its own ledger counts.
  have hself : o.Differs (removal fun _ => False) [] (fun a _ => a.Covers o.ledger) false
      (prospectOf (ts ++ [])) o :=
    ⟨hundeclared, rfl, rfl, ⟨Nat.le_refl _, List.Subset.refl _⟩, .same⟩
  obtain ⟨_, -, hlast⟩ := Outline.takeAll_differs (lasting_covers o.ledger) [] huntyped hself h
  exact hlast.ledger

/-- How often something in a document is complained of. -/
def complaintsOn (markup : List Char) : Nat :=
  match bodyOf markup >>= fun body =>
      (Outline.empty body.1 (byteCount body.2)).takeAll (tokensOf markup) with
  | .ok o => o.ledger.notes.complaints
  | .error _ => 0

theorem complaintsOn_eq {markup body : List Char} {standalone : Bool} {ts : List Token}
    {o : Outline} (hbody : bodyOf markup = .ok (standalone, body)) (htokens : tokens body = .ok ts)
    (htaken : (Outline.empty standalone (byteCount body)).takeAll ts = .ok o) :
    complaintsOn markup = o.ledger.notes.complaints := by
  have htokensOf : tokensOf markup = ts := by
    rw [tokensOf, hbody]
    simp only [bind, Except.bind, htokens]
  rw [complaintsOn, hbody, htokensOf]
  simp only [bind, Except.bind, htaken]

/-- How one document comes from another by taking out an element that stands directly in the
root element. The gap is the place in the document that is left. What is taken out is the
element as it is written, from its first tag to its last, and no two texts become one. -/
structure Removal (sort : QName → Prop) (markup markup' : List Char) where
  gap : Gap markup'
  root : QName
  around : gap.position.around = [root]
  name : QName
  sorted : sort name
  written : List Char
  span : List Token
  spans : Spans name span
  begins : written.head? = some '<'
  scanned : scan .start written = .ok (⟨.content 0, false⟩, span)
  seamless : Seamless gap.position.text gap.prospect.text
  takes : gap.Takes written markup

/-- The tokens of a document are taken without those of an element as they are taken with
them. -/
theorem takeAll_removal {sort : QName → Prop} {name : QName} {ts span us : List Token}
    (huntyped : ∀ t ∈ ts ++ (span ++ us), t.isDoctype = false) (hspans : Spans name span)
    (hsort : sort name) (hinside : (positionAfter ts).around ≠ [])
    (hseam : Seamless (positionAfter ts).text (prospectOf us).text) {standalone : Bool}
    {bytes : Nat} {o : Outline}
    (htaken : (Outline.empty standalone bytes).takeAll (ts ++ (span ++ us)) = .ok o)
    (bytes' : Nat) :
    ∃ o', (Outline.empty standalone bytes').takeAll (ts ++ us) = .ok o'
      ∧ o.Differs (removal sort) (positionAfter ts).around.reverse Ledger.Spared true
        (prospectOf []) o' := by
  have hts (t : Token) (ht : t ∈ ts) : t.isDoctype = false :=
    huntyped t (List.mem_append_left _ ht)
  have hspan (t : Token) (ht : t ∈ span) : t.isDoctype = false :=
    huntyped t (List.mem_append_right _ (List.mem_append_left _ ht))
  have hus (t : Token) (ht : t ∈ us) : t.isDoctype = false :=
    huntyped t (List.mem_append_right _ (List.mem_append_right _ ht))
  obtain ⟨middle, middle', f, rest, hmore, htaken', hmiddle, hframes, hframes', hat, hpath⟩ :=
    Outline.exists_place lasting_spared (removal sort) hts hinside
      (spared_before bytes bytes') htaken
  -- The element is taken on one side; from there on they differ by it.
  rw [Outline.takeAll_append] at hmore
  obtain ⟨next, helement, hafter⟩ := exists_of_bind hmore
  have hgets := Outline.takeAll_spans hmiddle.undeclared hframes hspans hspan helement
  obtain ⟨tag, inner, hname, hnext⟩ := hgets.frames
  have hfresh : (removal sort).fresh (prospectOf us) (f.add (.element tag inner)) f := by
    refine ⟨rfl, rfl, tag, inner, f.run, hname ▸ hsort, rfl, rfl, ?_⟩
    rw [hat.run, List.reverse_reverse]
    exact hseam
  have hcovers := covers_of_takeAll hmiddle.undeclared hspan helement
  have hdiffers : next.Differs (removal sort) (positionAfter ts).around.reverse
      Ledger.Spared true (prospectOf us) middle' := by
    refine Outline.differs_of_fresh ?_ ?_ ?_ (spared_of_covers hmiddle.ledger hcovers) ?_ hnext
      hframes' hfresh hpath
    · rw [hgets.declarations]
      exact hmiddle.undeclared
    · rw [hgets.declarations]
      exact hmiddle.declarations
    · rw [hgets.depth]
      exact hmiddle.depth
    · rw [hgets.root]
      exact (Outline.same_of_differs hmiddle).2
  obtain ⟨o', hafter', hlast⟩ :=
    Outline.takeAll_differs_to_end lasting_spared hus hdiffers hafter
  refine ⟨o', ?_, hlast⟩
  rw [Outline.takeAll_append, htaken']
  exact hafter'

/-- **What is left of a document, when an element is taken out of its root element, is read
without that element.** It is accepted if nothing was complained of before; and then nothing
is complained of in it. -/
theorem read_of_removal {sort : QName → Prop} {markup markup' : List Char} {root : Element}
    (hread : read markup = .ok root) (huntyped : ∀ t ∈ tokensOf markup, t.isDoctype = false)
    (r : Removal sort markup markup') :
    (∀ t ∈ tokensOf markup', t.isDoctype = false)
    ∧ ∃ root', root'.tag = root.tag ∧ (removal sort).content root.content root'.content
      ∧ (∀ other, read markup' = .ok other → other = root')
      ∧ (complaintsOn markup = 0 → read markup' = .ok root' ∧ complaintsOn markup' = 0) := by
  obtain ⟨standalone, body, hbody, hallowed, htokens, o, htaken, hverdict, hframes, hroot⟩ :=
    exists_of_read hread
  obtain ⟨rfl, rfl⟩ := Prod.mk.inj (Except.ok.inj (hbody.symm.trans r.takes))
  obtain ⟨_, rfl, hfilled⟩ := tokens_fill (· = r.span) r.gap.tokens_before r.gap.tokens_all
    r.gap.line_whole fun brackets returned _ =>
      ⟨false, _, scan_of_begins r.begins r.scanned brackets returned, rfl, nofun⟩
  have hsplit : tokensOf markup = r.gap.passed ++ (r.span ++ r.gap.coming) :=
    Except.ok.inj (htokens.symm.trans hfilled)
  have htokensOf : tokensOf markup' = r.gap.passed ++ r.gap.coming := by
    rw [tokensOf, r.gap.body_eq]
    simp only [bind, Except.bind, r.gap.tokens_all]
  have hcomplaints := complaintsOn_eq hbody htokens htaken
  rw [hsplit] at huntyped htaken
  have hinside : (positionAfter r.gap.passed).around ≠ [] := by
    rw [show (positionAfter r.gap.passed).around = [r.root] from r.around]
    exact List.cons_ne_nil _ _
  obtain ⟨o', htaken', hlast⟩ := takeAll_removal huntyped r.spans r.sorted hinside r.seamless
    htaken (byteCount (r.gap.before ++ r.gap.after))
  obtain ⟨root', path, hframes', hroot', htag, hpath, hcontent⟩ :=
    Outline.exists_root_of_differs hlast hframes hroot
  -- The place is in the root element itself.
  rw [show (positionAfter r.gap.passed).around = [r.root] from r.around] at hpath
  obtain rfl : [] = path := (List.cons.inj hpath).2
  have hallowed' : (r.gap.before ++ r.gap.after).all isAllowed = true := by
    rw [List.all_append, List.all_append, Bool.and_eq_true, Bool.and_eq_true] at hallowed
    rw [List.all_append, hallowed.1, hallowed.2.2]
    rfl
  refine ⟨?_, root', htag, ?_, ?_, ?_⟩
  · intro t ht
    rw [htokensOf, List.mem_append] at ht
    rcases ht with hpassed | hcoming
    · exact huntyped t (List.mem_append_left _ hpassed)
    · exact huntyped t (List.mem_append_right _ (List.mem_append_right _ hcoming))
  · cases hcontent with
    | here differs => exact differs
  · intro other hother
    rw [read_eq, r.gap.body_eq] at hother
    obtain ⟨-, ts, hts, o'', htaken'', -, -, hroot''⟩ := readBody_eq_ok_iff.mp hother
    obtain rfl := Except.ok.inj (hts.symm.trans r.gap.tokens_all)
    obtain rfl := Except.ok.inj (htaken''.symm.trans htaken')
    exact Option.some.inj (hroot''.symm.trans hroot')
  · intro hnone
    rw [hcomplaints] at hnone
    obtain ⟨hnone', hverdict', -⟩ := hlast.ledger hnone
    refine ⟨?_, (complaintsOn_eq r.gap.body_eq r.gap.tokens_all htaken').trans hnone'⟩
    rw [read_eq, r.gap.body_eq]
    exact readBody_eq_ok_iff.mpr
      ⟨hallowed', _, r.gap.tokens_all, o', htaken', hverdict', hframes', hroot'⟩

end SymbolDocs.Markup
