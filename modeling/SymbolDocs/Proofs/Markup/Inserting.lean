/-
Putting a gloss into a document.

A comment or an instruction that is put into a gap of a document, with nothing but layout
around it, leaves the tree of the document as it is, but for one item more in the place
where the gap was (`exists_read_of_takes`): the layout around the gap is divided by the item,
and everything else stays in its place.

The two readings are followed side by side. They differ in one element, which has gained the
item (`insertion`), and one remark may have been made more in the one than in the other.
-/
import SymbolDocs.Proofs.Markup.Comparing

set_option autoImplicit false

namespace SymbolDocs.Markup

/-! ## What a gloss makes of the notes -/

namespace Gloss

theorem isDoctype_token (gloss : Gloss) : gloss.token.isDoctype = false := by
  cases gloss with
  | comment text => rfl
  | instruction target data => rfl

/-- How the notes with a gloss are like those without it. -/
def likeness (gloss : Gloss) : Notes → Notes → Prop :=
  if gloss.isRemarked then Notes.OneRemarkLess else Eq

theorem lasting_likeness (gloss : Gloss) : Notes.Lasting gloss.likeness := by
  rw [likeness]
  split
  · exact lasting_oneRemarkLess
  · exact lasting_eq

/-- The verdict without the gloss is the one with it. -/
theorem verdict_of_likeness {gloss : Gloss} {a b : Notes} (h : gloss.likeness a b)
    (hfew : gloss.isRemarked = true → a.remarks < Notes.limit) (hverdict : a.verdict = .ok ()) :
    b.verdict = .ok () := by
  rw [likeness] at h
  split at h
  · rename_i hremarked
    exact verdict_of_oneRemarkLess h (hfew hremarked) hverdict
  · rwa [← h]

end Gloss

/-! ## Content with an item more -/

/-- Content, and the same content with a gloss more in it. The path leads to the element
that got it. `bare` tells whether only layout stands before the gloss, and only with `opens`
does an element come next. -/
inductive Insertion (gloss : Gloss) (bare opens : Bool) :
    List QName → List Item → List Item → Prop where
  | here {left right : List Item} {run before after : Option (List Char)}
    (layout : Text.allBlank (run.getD []) = true)
    (divided : run.getD [] = before.getD [] ++ after.getD [])
    (bare_iff : left = [] ↔ bare = true)
    (last : ∀ item ∈ left.getLast?, item.run? = none)
    (next : ∀ item ∈ right.head?, item.run? = none ∧ (item.isElement = true → opens = true)) :
    Insertion gloss bare opens [] (left ++ runItems run ++ right)
      (left ++ runItems before ++ gloss.item :: runItems after ++ right)
  | within {path : List QName} {left right content content' : List Item} {tag : Tag}
    (inside : Insertion gloss bare opens path content content') :
    Insertion gloss bare opens (tag.name :: path) (left ++ .element tag content :: right)
      (left ++ .element tag content' :: right)

/-- An open element has just got a gloss, which may still divide the run of text. What comes
next is known as far as it is text, and whether an element comes after that. -/
structure Frame.Fresh (gloss : Gloss) (bare opens : Bool) (ahead : Prospect) (f f' : Frame) :
    Prop where
  tag : f'.tag = f.tag
  scope : f'.scope = f.scope
  divided : ∃ before, f'.items = gloss.item :: Frame.closed { f with run := before }
    ∧ f.run.getD [] = f'.run.getD [] ++ before.getD []
  layout : Text.allBlank (f.run.getD []) = true
  layout_ahead : Text.allBlank ahead.text = true
  announced : ahead.opens = true → opens = true
  bare_iff : f.items = [] ↔ bare = true
  last : ∀ item ∈ f.items.head?, item.run? = none

section Insertions

variable {gloss : Gloss} {bare opens : Bool}

theorem fresh_write {text : List Char} {ahead : Prospect} {f f' : Frame}
    (h : Frame.Fresh gloss bare opens { ahead with text := text ++ ahead.text } f f') :
    Frame.Fresh gloss bare opens ahead (f.write text) (f'.write text) := by
  obtain ⟨before, hitems, hdivided⟩ := h.divided
  obtain ⟨htext, hahead⟩ := Bool.and_eq_true_iff.mp (Text.allBlank_append _ _ ▸ h.layout_ahead)
  refine ⟨h.tag, h.scope, ⟨before, hitems, ?_⟩, ?_, hahead, h.announced, h.bare_iff, h.last⟩
  · change text.reverse ++ f.run.getD [] = text.reverse ++ f'.run.getD [] ++ before.getD []
    rw [hdivided, List.append_assoc]
  · change Text.allBlank (text.reverse ++ f.run.getD []) = true
    rw [Text.allBlank_append, h.layout, Text.allBlank, List.all_reverse, Bool.and_true]
    exact htext

/-- What stands in an element when it is closed, and what is put behind. -/
theorem insertion_of_fresh {ahead : Prospect} {f f' : Frame}
    (h : Frame.Fresh gloss bare opens ahead f f') (right : List Item)
    (hright : Follows ahead.opens right) :
    Insertion gloss bare opens [] (f.closed.reverse ++ right) (f'.closed.reverse ++ right) := by
  obtain ⟨before, hitems, hdivided⟩ := h.divided
  have hleft : f'.closed.reverse
      = f.items.reverse ++ runItems (before.map List.reverse)
        ++ gloss.item :: runItems (f'.run.map List.reverse) := by
    rw [closed_reverse_eq, hitems, List.reverse_cons, closed_reverse_eq]
    simp
  rw [hleft, closed_reverse_eq]
  refine .here ?_ ?_ ?_ ?_ fun item hitem => ?_
  · rw [getD_map_reverse, Text.allBlank, List.all_reverse]
    exact h.layout
  · rw [getD_map_reverse, getD_map_reverse, getD_map_reverse, hdivided, List.reverse_append]
  · rw [List.reverse_eq_nil_iff]
    exact h.bare_iff
  · rw [List.getLast?_reverse]
    exact h.last
  · obtain ⟨hrun, helement⟩ := hright item hitem
    exact ⟨hrun, fun h' => h.announced (helement h')⟩

/-- A gloss on the right side, among layout. -/
def insertion (gloss : Gloss) (bare opens : Bool) : Divergence where
  fresh := Frame.Fresh gloss bare opens
  content := Insertion gloss bare opens []
  tag h := h.tag
  scope h := h.scope
  write := fresh_write
  settle h right := insertion_of_fresh h right

theorem insertion_of_within {path : List QName} {content content' : List Item}
    (h : (insertion gloss bare opens).Within path content content') :
    Insertion gloss bare opens path content content' := by
  induction h with
  | here differs => exact differs
  | inside _ ih => exact .within ih

end Insertions

/-! ## The gloss -/

namespace Outline

variable {gloss : Gloss}

/-- A gloss is taken, and what it makes of the ledger is at most a remark. -/
theorem exists_step_of_gloss (hproper : gloss.isProper = true) (room : Nat) (o : Outline) :
    ∃ ledger, Step room o gloss.token (Outline.add { o with ledger := ledger } gloss.item)
      ∧ o.ledger.Alike gloss.likeness ledger := by
  cases gloss with
  | comment text => exact ⟨o.ledger, .comment text, rfl, rfl, rfl, rfl, rfl⟩
  | instruction target data =>
    have hjudge : (Target.judge target).run o.ledger
        = .ok ((), if Gloss.isRemarked (.instruction target data) then
            { o.ledger with notes := o.ledger.notes.add .remark } else o.ledger) := by
      have hcolon : Reading.expect (!target.contains ':') .name = pure () := if_pos hproper
      rw [Target.judge, hcolon, Gloss.isRemarked]
      split
      · rfl
      · rfl
    refine ⟨_, .instruction data hjudge, ?_⟩
    rw [Gloss.likeness]
    split
    · exact ⟨oneRemarkLess_add _, rfl, rfl, rfl, rfl⟩
    · exact ⟨rfl, rfl, rfl, rfl, rfl⟩

end Outline

/-! ## Documents -/

/-- How often something in a document is remarked on. -/
def remarksOn (markup : List Char) : Nat :=
  match bodyOf markup >>= fun body =>
      (Outline.empty body.1 (byteCount body.2)).takeAll (tokensOf markup) with
  | .ok o => o.ledger.notes.remarks
  | .error _ => 0

/-- The tokens of a document are taken with a gloss among them as they are taken without. -/
theorem takeAll_gloss {ts us : List Token} {gloss : Gloss} (hproper : gloss.isProper = true)
    (huntyped : ∀ t ∈ ts ++ us, t.isDoctype = false)
    (hinside : (positionAfter ts).around ≠ [])
    (hlayout : Text.allBlank ((positionAfter ts).text ++ (prospectOf us).text) = true)
    {standalone : Bool} {bytes : Nat} {o : Outline}
    (htaken : (Outline.empty standalone bytes).takeAll (ts ++ us) = .ok o) (bytes' : Nat) :
    ∃ o', (Outline.empty standalone bytes').takeAll (ts ++ gloss.token :: us) = .ok o'
      ∧ o.Differs (insertion gloss (positionAfter ts).bare (prospectOf us).opens)
        (positionAfter ts).around.reverse (Ledger.Alike gloss.likeness) true (prospectOf [])
        o' := by
  have hts (t : Token) (ht : t ∈ ts) : t.isDoctype = false :=
    huntyped t (List.mem_append_left us ht)
  have hus (t : Token) (ht : t ∈ us) : t.isDoctype = false :=
    huntyped t (List.mem_append_right ts ht)
  obtain ⟨hbefore, hahead⟩ := Bool.and_eq_true_iff.mp (Text.allBlank_append _ _ ▸ hlayout)
  obtain ⟨middle, middle', f, rest, hafter, htaken', hmiddle, hframes, hframes', hat, hpath⟩ :=
    Outline.exists_place (lasting_alike lasting_eq)
      (insertion gloss (positionAfter ts).bare (prospectOf us).opens) hts hinside
      (alike_before bytes bytes') htaken
  -- The gloss is taken on one side; from there on they differ by it.
  obtain ⟨ledger, hstep, halike⟩ :=
    Outline.exists_step_of_gloss hproper entityLevels middle'
  rw [Outline.add] at hstep
  dsimp only at hstep
  rw [hframes'] at hstep
  have hledger : middle.ledger.Alike gloss.likeness ledger :=
    ⟨hmiddle.ledger.notes ▸ halike.notes, halike.vetted.trans hmiddle.ledger.vetted,
      halike.sizes.trans hmiddle.ledger.sizes, halike.opened.trans hmiddle.ledger.opened,
      halike.identifiers.trans hmiddle.ledger.identifiers⟩
  -- All text of the open run stands before the gloss.
  have hfresh : Frame.Fresh gloss (positionAfter ts).bare (prospectOf us).opens (prospectOf us) f
      (f.add gloss.item) := by
    refine ⟨rfl, rfl, ⟨f.run, rfl, rfl⟩, ?_, hahead, id, hat.bare, hat.last⟩
    rw [hat.run, Text.allBlank, List.all_reverse]
    exact hbefore
  have hglossed : middle.Differs (insertion gloss (positionAfter ts).bare (prospectOf us).opens)
      (positionAfter ts).around.reverse (Ledger.Alike gloss.likeness) true (prospectOf us)
      { middle' with ledger := ledger, frames := f.add gloss.item :: rest } :=
    Outline.differs_of_fresh hmiddle.undeclared hmiddle.declarations hmiddle.depth hledger
      (Outline.same_of_differs hmiddle).2 hframes rfl hfresh hpath
  obtain ⟨o', hafter', hlast⟩ :=
    Outline.takeAll_differs_to_end (lasting_alike gloss.lasting_likeness) hus hglossed hafter
  refine ⟨o', ?_, hlast⟩
  rw [Outline.takeAll_append, htaken']
  exact (Outline.takeAll_cons_eq_ok_iff (Outline.undeclared_of_differs hmiddle)
    gloss.isDoctype_token).mpr ⟨_, hstep, hafter'⟩

/-- **A gloss that is put into a document is an item more, and nothing else.** It must have
nothing but layout around it and stand inside the root element. Where it is remarked on, the
remarks on the document must not be so many already that some are left out. -/
theorem exists_read_of_takes {markup markup' text : List Char} {gap : Gap markup}
    {gloss : Gloss} {root : Element} (hread : read markup = .ok root)
    (huntyped : ∀ t ∈ tokensOf markup, t.isDoctype = false)
    (hwritten : IsCompletedFrom text gloss.token) (hproper : gloss.isProper = true)
    (hfew : gloss.isRemarked = true → remarksOn markup < Notes.limit)
    (htakes : gap.Takes text markup') (hinside : gap.position.around ≠ [])
    (hlayout : Text.allBlank gap.text = true) :
    ∃ root' path, read markup' = .ok root' ∧ root'.tag = root.tag
      ∧ gap.position.around.reverse = root.tag.name :: path
      ∧ Insertion gloss gap.position.bare gap.prospect.opens path root.content
        root'.content := by
  obtain ⟨standalone, body, hbody, hallowed, htokens, o, htaken, hverdict, hframes, hroot⟩ :=
    exists_of_read hread
  obtain ⟨rfl, rfl⟩ := Prod.mk.inj (Except.ok.inj (hbody.symm.trans gap.body_eq))
  have hremarks : remarksOn markup = o.ledger.notes.remarks := by
    rw [remarksOn, hbody]
    change (match (Outline.empty _ _).takeAll (tokensOf markup) with
      | .ok o => o.ledger.notes.remarks
      | .error _ => 0) = _
    rw [htaken]
  have hsplit : tokensOf markup = gap.passed ++ gap.coming :=
    Except.ok.inj (htokens.symm.trans gap.tokens_all)
  rw [hsplit] at huntyped htaken
  obtain ⟨o', htaken', hlast⟩ := takeAll_gloss hproper huntyped hinside hlayout htaken
    (byteCount (gap.before ++ (text ++ gap.after)))
  have hverdict' : o'.ledger.notes.verdict = .ok () :=
    Gloss.verdict_of_likeness hlast.ledger.notes (fun h => hremarks ▸ hfew h) hverdict
  have hallowed' : (gap.before ++ (text ++ gap.after)).all isAllowed = true := by
    rw [List.all_append, Bool.and_eq_true] at hallowed
    rw [List.all_append, List.all_append, hallowed.1, hallowed.2, hwritten.allowed]
    rfl
  have htokens' := Gloss.tokens_insert hwritten gap.tokens_before gap.tokens_all gap.line_whole
  obtain ⟨root', path, hframes', hroot', htag, hpath, hcontent⟩ :=
    Outline.exists_root_of_differs hlast hframes hroot
  refine ⟨root', path, ?_, htag, hpath, insertion_of_within hcontent⟩
  rw [read_eq, htakes]
  exact readBody_eq_ok_iff.mpr ⟨hallowed', _, htokens', o', htaken', hverdict', hframes', hroot'⟩

end SymbolDocs.Markup
