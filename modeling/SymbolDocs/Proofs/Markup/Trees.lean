/-
The trees of documents without a document type.

Where nothing is declared, every token of a document leaves the open elements as they
should be: no two runs of text touch in them, no reference is kept, what they hold goes no
deeper than the reader follows, and of the tags and the targets of instructions holds
whatever holds of all that the tokens can be resolved to (`step_isSound`). So it is with
the root element of the document (`isSound_of_read`).

How deep an element may go depends on how many others it stands in. The invariant on the
open elements therefore counts them: the innermost has the fewest levels left.
-/
import Mathlib.Data.List.Chain
import SymbolDocs.Proofs.Markup.Steps

set_option autoImplicit false

namespace SymbolDocs.Markup

/-! ## From a text to its tokens -/

/-- The text of a document after its opening declaration, and whether the document
declares itself to stand alone. -/
def bodyOf (markup : List Char) : Except Fault (Bool × List Char) := do
  let marked := markup.head? = some '\uFEFF'
  let (opening, rest) ← Opening.ofText marked (if marked then markup.tail else markup)
  let charset := opening.charset.getD .utf8
  match charset.reread rest with
  | some body => return (opening.standalone, body)
  | none => .error (.ofCharset charset)

theorem read_eq (markup : List Char) :
    read markup = bodyOf markup >>= fun body => readBody body.1 body.2 := by
  simp only [read, bodyOf, bind_assoc]
  congr 1
  funext opening
  cases (opening.1.charset.getD .utf8).reread opening.2 with
  | none => rfl
  | some body => rfl

/-- The tokens of a document, or none if it is refused before they are known. -/
def tokensOf (markup : List Char) : List Token :=
  match bodyOf markup >>= fun body => tokens body.2 with
  | .ok ts => ts
  | .error _ => []

/-- Tokens make a root element: they are taken into account one after the other, no
complaint is left at the end, and nothing is open. -/
def Builds (standalone : Bool) (bytes : Nat) (ts : List Token) (root : Element) : Prop :=
  ∃ o, (Outline.empty standalone bytes).takeAll ts = .ok o
    ∧ o.ledger.notes.verdict = .ok () ∧ o.frames = [] ∧ o.root = some root

theorem finish_eq_ok_iff {o : Outline} {root : Element} :
    o.finish = .ok root ↔
      o.ledger.notes.verdict = .ok () ∧ o.frames = [] ∧ o.root = some root := by
  constructor
  · intro h
    obtain ⟨_, hverdict, hend⟩ := exists_of_bind h
    split at hend
    · rename_i hframes hroot
      exact ⟨hverdict, hframes, hroot.trans (congrArg some (Except.ok.inj hend))⟩
    · cases hend
    · cases hend
  · rintro ⟨hverdict, hframes, hroot⟩
    rw [Outline.finish, hverdict, hframes, hroot]
    rfl

theorem rootOf_eq_ok_iff {root : Element} {standalone : Bool} {bytes : Nat}
    {ts : List Token} :
    rootOf standalone bytes ts = .ok root ↔ Builds standalone bytes ts root := by
  constructor
  · intro h
    obtain ⟨o, htaken, hfinish⟩ := exists_of_bind h
    exact ⟨o, htaken, finish_eq_ok_iff.mp hfinish⟩
  · rintro ⟨o, htaken, hfinish⟩
    rw [rootOf, htaken]
    exact finish_eq_ok_iff.mpr hfinish

theorem readBody_eq_ok_iff {root : Element} {standalone : Bool} {text : List Char} :
    readBody standalone text = .ok root ↔
      text.all isAllowed = true ∧ ∃ ts, tokens text = .ok ts
        ∧ Builds standalone (byteCount text) ts root := by
  rw [readBody]
  cases hallowed : text.all isAllowed with
  | false => simp
  | true =>
    constructor
    · intro h
      obtain ⟨ts, htokens, hroot⟩ := exists_of_bind h
      exact ⟨rfl, ts, htokens, rootOf_eq_ok_iff.mp hroot⟩
    · rintro ⟨-, ts, htokens, hbuilds⟩
      rw [htokens]
      exact rootOf_eq_ok_iff.mpr hbuilds

/-- A document that is read has a body of allowed characters, whose tokens are the tokens
of the document and make its root element. -/
theorem exists_of_read {markup : List Char} {root : Element} (h : read markup = .ok root) :
    ∃ standalone text, bodyOf markup = .ok (standalone, text) ∧ text.all isAllowed = true
      ∧ tokens text = .ok (tokensOf markup)
      ∧ Builds standalone (byteCount text) (tokensOf markup) root := by
  rw [read_eq] at h
  obtain ⟨⟨standalone, text⟩, hbody, hread⟩ := exists_of_bind h
  obtain ⟨hallowed, ts, htokens, hbuilds⟩ := readBody_eq_ok_iff.mp hread
  have heq : tokensOf markup = ts := by
    have hboth : (bodyOf markup >>= fun body => tokens body.2) = .ok ts := by
      rw [hbody]
      exact htokens
    rw [tokensOf, hboth]
  rw [heq]
  exact ⟨standalone, text, hbody, hallowed, htokens, hbuilds⟩

/-! ## Sound trees -/

/-- What is asked of the tags and of the targets of instructions in a tree. -/
structure Form where
  tag : Tag → Prop
  target : List Char → Prop

/-- The form of every tree. -/
def Form.any : Form where
  tag _ := True
  target _ := True

/-- No two runs of text touch in some content. -/
def Apart (items : List Item) : Prop :=
  items.IsChain fun a b => a.run? = none ∨ b.run? = none

theorem apart_reverse {items : List Item} (h : Apart items) : Apart items.reverse := by
  rw [Apart, List.isChain_reverse]
  exact h.imp fun _ _ => Or.symm

/-- What holds of an item of a document without a document type. Its elements go so many
levels deep at most. -/
inductive Item.IsSound (form : Form) : Nat → Item → Prop where
  | text {levels : Nat} {text : List Char} (allowed : text.all isAllowed = true) :
    IsSound form levels (.text text)
  | comment {levels : Nat} {text : List Char} (completed : (Token.comment text).IsSound) :
    IsSound form levels (.comment text)
  | instruction {levels : Nat} {target : List Char} {data : Option (List Char)}
    (completed : (Token.instruction target data).IsSound) (fits : form.target target) :
    IsSound form levels (.instruction target data)
  | element {levels : Nat} {tag : Tag} {content : List Item} (fits : form.tag tag)
    (apart : Apart content) (sound : ∀ item ∈ content, IsSound form levels item) :
    IsSound form (levels + 1) (.element tag content)

/-- Where nothing was declared, a written tag is only resolved to tags of a form. -/
def WrittenTag.Resolves (written : WrittenTag) (form : Form) : Prop :=
  ∀ ⦃setting : Setting⦄ ⦃standalone : Bool⦄ ⦃outer : Scope⦄ ⦃ledger next : Ledger⦄ ⦃tag : Tag⦄,
    setting.declarations = .empty standalone →
    (written.resolve setting outer).run ledger = .ok (tag, next) → form.tag tag

/-- A token that brings only what is of a form into a tree, and no document type. -/
def Token.Fits (form : Form) : Token → Prop
  | .startTag written => written.Resolves form
  | .emptyTag written => written.Resolves form
  | .instruction target _ => form.target target
  | .doctype _ => False
  | _ => True

theorem not_isDoctype_of_fits {form : Form} {token : Token} (h : token.Fits form) :
    token.isDoctype = false := by
  cases token with
  | doctype text => cases h
  | _ => rfl

theorem fits_any {token : Token} (h : token.isDoctype = false) : token.Fits .any := by
  cases token with
  | startTag written => exact fun _ _ _ _ _ _ _ _ => trivial
  | emptyTag written => exact fun _ _ _ _ _ _ _ _ => trivial
  | doctype text => exact Bool.false_ne_true h.symm
  | _ => trivial

/-! ## Sound outlines -/

/-- What holds of an open element. The item that it got last is no text, since text is
open until something else comes. -/
structure Frame.IsSound (form : Form) (levels : Nat) (f : Frame) : Prop where
  tag : form.tag f.tag
  items : ∀ item ∈ f.items, item.IsSound form levels
  apart : Apart f.items
  last : ∀ item ∈ f.items.head?, item.run? = none
  run : (f.run.getD []).all isAllowed = true

/-- What holds of the open elements, the innermost first. -/
def SoundFrames (form : Form) : List Frame → Prop
  | [] => True
  | f :: rest =>
    (rest.length < Outline.depthLimit
      ∧ f.IsSound form (Outline.depthLimit - (rest.length + 1)))
      ∧ SoundFrames form rest

/-- What holds of an outline of a document without a document type. -/
structure Outline.IsSound (form : Form) (o : Outline) : Prop where
  undeclared : ∃ standalone, o.declarations = .empty standalone
  depth : o.depth = 0
  frames : SoundFrames form o.frames
  root : ∀ e ∈ o.root, (Item.element e.tag e.content).IsSound form Outline.depthLimit

theorem isAllowed_singleton {c : Char} (h : isAllowed c = true) : [c].all isAllowed = true := by
  rw [List.all_cons, h]
  rfl

section Frames

variable {form : Form} {levels : Nat} {f : Frame}

theorem isSound_opened {tag : Tag} (h : form.tag tag) (outer : Scope) :
    (Frame.opened tag outer).IsSound form levels :=
  ⟨h, nofun, List.IsChain.nil, nofun, rfl⟩

theorem isSound_write (h : f.IsSound form levels) {text : List Char}
    (htext : text.all isAllowed = true) : (f.write text).IsSound form levels := by
  refine ⟨h.tag, h.items, h.apart, h.last, ?_⟩
  change (text.reverse ++ f.run.getD []).all isAllowed = true
  rw [List.all_append, List.all_reverse, htext, h.run]
  rfl

/-- Closing the run of text leaves the content sound. -/
theorem isSound_closed (h : f.IsSound form levels) :
    (∀ item ∈ f.closed, item.IsSound form levels) ∧ Apart f.closed := by
  have hrun := h.run
  unfold Frame.closed
  cases hopen : f.run with
  | none => exact ⟨h.items, h.apart⟩
  | some run =>
    rw [hopen] at hrun
    constructor
    · intro item hitem
      rcases List.mem_cons.mp hitem with rfl | hitem
      · refine .text ?_
        rw [List.all_reverse]
        exact hrun
      · exact h.items item hitem
    · refine List.IsChain.cons h.apart fun item hitem => ?_
      exact .inr (h.last item hitem)

theorem isSound_add (h : f.IsSound form levels) {item : Item}
    (hitem : item.IsSound form levels) (hrun : item.run? = none) :
    (f.add item).IsSound form levels := by
  obtain ⟨hclosed, hapart⟩ := isSound_closed h
  refine ⟨h.tag, ?_, ?_, ?_, rfl⟩
  · intro other hother
    rcases List.mem_cons.mp hother with rfl | hother
    · exact hitem
    · exact hclosed other hother
  · exact List.IsChain.cons hapart fun _ _ => .inl hrun
  · intro other hother
    rw [← Option.some.inj hother]
    exact hrun

/-- An open element that is closed is one item more, on the level around it. -/
theorem isSound_element (h : f.IsSound form levels) :
    (Item.element f.element.tag f.element.content).IsSound form (levels + 1) := by
  obtain ⟨hclosed, hapart⟩ := isSound_closed h
  refine .element h.tag (apart_reverse hapart) fun item hitem => ?_
  exact hclosed item (List.mem_reverse.mp hitem)

end Frames

namespace Outline

section Steps

variable {form : Form} {o next : Outline}

theorem isSound_ledger (h : o.IsSound form) (ledger : Ledger) :
    Outline.IsSound form { o with ledger := ledger } :=
  ⟨h.undeclared, h.depth, h.frames, h.root⟩

theorem isSound_writing (h : o.IsSound form) {f : Frame} {rest : List Frame}
    (hframes : o.frames = f :: rest) {text : List Char} (htext : text.all isAllowed = true) :
    Outline.IsSound form { o with frames := f.write text :: rest } := by
  have hsound := h.frames
  rw [hframes] at hsound
  obtain ⟨⟨hlength, hf⟩, hrest⟩ := hsound
  exact ⟨h.undeclared, h.depth, ⟨⟨hlength, isSound_write hf htext⟩, hrest⟩, h.root⟩

theorem isSound_adding (h : o.IsSound form) {item : Item}
    (hitem : ∀ levels, item.IsSound form levels) (hrun : item.run? = none) :
    (o.add item).IsSound form := by
  have hframes := h.frames
  rw [add]
  cases hopen : o.frames with
  | nil => exact h
  | cons f rest =>
    rw [hopen] at hframes
    obtain ⟨⟨hlength, hf⟩, hrest⟩ := hframes
    exact ⟨h.undeclared, h.depth, ⟨⟨hlength, isSound_add hf (hitem _) hrun⟩, hrest⟩, h.root⟩

/-- An element may be placed where it goes as deep as there are levels left. -/
theorem isSound_place (h : o.IsSound form) {rest : List Frame} (hrest : SoundFrames form rest)
    {e : Element}
    (he : (Item.element e.tag e.content).IsSound form (depthLimit - rest.length)) :
    (o.place rest e).IsSound form := by
  cases rest with
  | nil =>
    refine ⟨h.undeclared, h.depth, trivial, fun root hroot => ?_⟩
    rw [← Option.some.inj hroot]
    exact he
  | cons g below =>
    obtain ⟨⟨hbelow, hg⟩, hframes⟩ := hrest
    exact ⟨h.undeclared, h.depth, ⟨⟨hbelow, isSound_add hg he rfl⟩, hframes⟩, h.root⟩

/-- A tag is resolved to one of a form. That there is room for the element is what the
reader has asked. -/
theorem form_of_opens (h : o.IsSound form) {room : Nat} {written : WrittenTag} {tag : Tag}
    {ledger : Ledger} (hresolves : written.Resolves form)
    (hopens : o.Opens room written tag ledger) :
    form.tag tag ∧ o.frames.length < depthLimit := by
  obtain ⟨standalone, hdeclared⟩ := h.undeclared
  have hshallow := hopens.shallow
  rw [h.depth, Nat.zero_add] at hshallow
  exact ⟨hresolves hdeclared hopens.resolved, hshallow⟩

/-- **Every token leaves an outline sound.** -/
theorem step_isSound (h : o.IsSound form) {room : Nat} {token : Token}
    (hsound : token.IsSound) (hfits : token.Fits form) (hstep : Step room o token next) :
    next.IsSound form := by
  cases hstep with
  | skip houtside hspace => exact h
  | write htext hinside =>
    refine isSound_writing h hinside ?_
    cases token with
    | char c => exact Option.some.inj htext ▸ isAllowed_singleton hsound
    | reference c => exact Option.some.inj htext ▸ isAllowed_singleton hsound
    | cdata text => exact Option.some.inj htext ▸ hsound
    | _ => cases htext
  | comment text => exact isSound_adding h (fun _ => .comment hsound) rfl
  | instruction data hjudged =>
    exact isSound_adding (isSound_ledger h _) (fun _ => .instruction hsound hfits) rfl
  | startTag hopens =>
    obtain ⟨htag, hroom⟩ := form_of_opens h hfits hopens
    exact ⟨h.undeclared, h.depth, ⟨⟨hroom, isSound_opened htag _⟩, h.frames⟩, h.root⟩
  | emptyTag hopens =>
    obtain ⟨htag, hroom⟩ := form_of_opens h hfits hopens
    refine isSound_place (isSound_ledger h _) h.frames ?_
    obtain ⟨levels, hlevels⟩ := Nat.exists_eq_succ_of_ne_zero (Nat.sub_ne_zero_of_lt hroom)
    rw [hlevels]
    exact .element htag List.IsChain.nil nofun
  | endTag hinside =>
    have hframes := h.frames
    rw [hinside] at hframes
    obtain ⟨⟨hlength, hf⟩, hrest⟩ := hframes
    refine isSound_place h hrest ?_
    have helement := isSound_element hf
    rwa [Nat.sub_add_eq, Nat.sub_add_cancel (Nat.sub_pos_of_lt hlength)] at helement

/-- So do all tokens of a document, one after the other. -/
theorem takeAll_isSound {ts : List Token} (h : o.IsSound form)
    (hts : ∀ t ∈ ts, t.IsSound ∧ t.Fits form) (hnext : o.takeAll ts = .ok next) :
    next.IsSound form := by
  induction ts generalizing o with
  | nil => rwa [← Except.ok.inj hnext]
  | cons t rest ih =>
    obtain ⟨hsound, hfits⟩ := hts t List.mem_cons_self
    obtain ⟨middle, hstep, hmore⟩ :=
      (takeAll_cons_eq_ok_iff h.undeclared (not_isDoctype_of_fits hfits)).mp hnext
    exact ih (step_isSound h hsound hfits hstep)
      (fun u hu => hts u (List.mem_cons_of_mem _ hu)) hmore

end Steps

theorem isSound_empty (form : Form) (standalone : Bool) (bytes : Nat) :
    (Outline.empty standalone bytes).IsSound form :=
  ⟨⟨standalone, rfl⟩, rfl, trivial, nofun⟩

end Outline

/-- **The tree of a document without a document type is sound.** It is of every form that
all tokens of the document fit. -/
theorem isSound_of_read {form : Form} {markup : List Char} {root : Element}
    (h : read markup = .ok root) (hfits : ∀ t ∈ tokensOf markup, t.Fits form) :
    (Item.element root.tag root.content).IsSound form Outline.depthLimit := by
  obtain ⟨standalone, text, -, hallowed, htokens, ⟨o, htaken, -, -, hroot⟩⟩ := exists_of_read h
  have hsound := isSound_of_tokens hallowed htokens
  have ho := Outline.takeAll_isSound (Outline.isSound_empty form _ _)
    (fun t ht => ⟨hsound t ht, hfits t ht⟩) htaken
  exact ho.root root hroot

/-- What stands in the root element goes one level less deep. -/
theorem content_isSound_of_read {form : Form} {markup : List Char} {root : Element}
    (h : read markup = .ok root) (hfits : ∀ t ∈ tokensOf markup, t.Fits form) :
    ∀ item ∈ root.content, item.IsSound form (Outline.depthLimit - 1) := by
  have hroot : (Item.element root.tag root.content).IsSound form (Outline.depthLimit - 1 + 1) :=
    isSound_of_read h hfits
  cases hroot with
  | element _ _ hcontent => exact hcontent

end SymbolDocs.Markup
