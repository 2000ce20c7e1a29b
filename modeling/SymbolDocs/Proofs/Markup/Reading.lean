/-
Reading what is written.

A piece of markup is read into the items that it adds to the element it stands in
(`Reads`). For pieces without namespaces and entities nothing is complained of on the way,
so reading a piece changes nothing but the frame it is read into, remarks apart, and what is
said of two pieces holds of the two in a row. From the pieces that text, tags and
elements are written as, this gives the root element of every written document
(`read_enclosed`).

The one thing that stands in the way is depth: a piece is read only where its elements do
not go deeper than the reader follows, so it is read together with the number of levels
it takes up.
-/
import SymbolDocs.Markup.Document
import SymbolDocs.Proofs.Markup.Resolving

set_option autoImplicit false

namespace SymbolDocs.Markup

/-! ## Content that touches

Text that is written in several pieces is one run when it is read. -/

/-- The text of an item that is a run of text. -/
def Item.run? : Item → Option (List Char)
  | .text run => some run
  | _ => none

theorem Item.eq_text {item : Item} {run : List Char} (h : item.run? = some run) :
    item = .text run := by
  cases item with
  | text more => rw [Option.some.inj h]
  | _ => exact absurd h.symm (Option.some_ne_none run)

/-- Text before some items: it becomes part of a text they begin with, and vanishes if it
is empty. -/
def joinText (run : List Char) : List Item → List Item
  | .text more :: rest => .text (run ++ more) :: rest
  | items => if run.isEmpty then items else .text run :: items

/-- The content that items make: texts that touch are one, and there are no empty
ones. -/
def settled : List Item → List Item
  | [] => []
  | .text run :: rest => joinText run (settled rest)
  | item :: rest => item :: settled rest

/-- In front of an item that is no text, a run stands for itself, if it is not empty. -/
theorem joinText_of_no_run {item : Item} (h : item.run? = none) (run : List Char)
    (rest : List Item) :
    joinText run (item :: rest)
      = if run.isEmpty then item :: rest else .text run :: item :: rest := by
  cases item with
  | text more => exact absurd h (Option.some_ne_none more)
  | _ => rfl

theorem joinText_nil (items : List Item) : joinText [] items = items := by
  unfold joinText
  split
  · rfl
  · rfl

/-- Joining a text and then another one before it is joining both as one. -/
theorem joinText_append {run more : List Char} (h : more ≠ []) (items : List Item) :
    joinText run (joinText more items) = joinText (run ++ more) items := by
  have hmore : more.isEmpty = false := by simpa using h
  have hboth : (run ++ more).isEmpty = false := by simp [h]
  cases items with
  | nil => simp [joinText, hmore, hboth]
  | cons item rest =>
    cases item with
    | text tail => simp [joinText]
    | _ => simp [joinText, hmore, hboth]

/-- An item that is no text stays where it is. -/
theorem settled_of_no_run {item : Item} (h : item.run? = none) (rest : List Item) :
    settled (item :: rest) = item :: settled rest := by
  cases item with
  | text run => exact absurd h (Option.some_ne_none run)
  | _ => rfl

/-- Items without text are content as they are. -/
theorem settled_of_no_runs {items : List Item} (h : ∀ item ∈ items, item.run? = none) :
    settled items = items := by
  induction items with
  | nil => rfl
  | cons item rest ih =>
    rw [settled_of_no_run (h item List.mem_cons_self),
      ih fun other hother => h other (List.mem_cons_of_mem _ hother)]

/-! ## Frames -/

/-- Takes an item into a frame. Text joins the run that is open. -/
def Frame.hold (f : Frame) : Item → Frame
  | .text run => if run.isEmpty then f else f.write run
  | item => f.add item

/-- Takes items into a frame, one after the other. -/
def Frame.holdAll (f : Frame) (items : List Item) : Frame :=
  items.foldl Frame.hold f

namespace Frame

/-- Items are held one by one. -/
theorem holdAll_append (f : Frame) (as bs : List Item) :
    f.holdAll (as ++ bs) = (f.holdAll as).holdAll bs := by
  rw [holdAll, List.foldl_append]
  rfl

/-- Holding an item that is no text is adding it. -/
theorem hold_of_no_run (f : Frame) {item : Item} (h : item.run? = none) :
    f.hold item = f.add item := by
  cases item with
  | text run => exact absurd h (Option.some_ne_none run)
  | _ => rfl

theorem hold_tag (f : Frame) (item : Item) : (f.hold item).tag = f.tag := by
  cases item with
  | text run =>
    change (if run.isEmpty then f else f.write run).tag = f.tag
    split
    · rfl
    · rfl
  | _ => rfl

theorem holdAll_tag (f : Frame) (items : List Item) : (f.holdAll items).tag = f.tag := by
  induction items generalizing f with
  | nil => rfl
  | cons item rest ih => exact (ih (f.hold item)).trans (f.hold_tag item)

/-- A closed frame has its items in order, and its last run behind them. -/
theorem closed_reverse (f : Frame) (hrun : f.run ≠ some []) :
    f.closed.reverse = f.items.reverse ++ joinText (f.run.getD []).reverse [] := by
  cases h : f.run with
  | none => simp [closed, h, joinText]
  | some run =>
    have hne : run ≠ [] := fun hnil => hrun (by rw [h, hnil])
    simp [closed, h, joinText, hne]

/-- What a frame holds after some items: what it held before and what the items make,
where the open run is joined to a text they begin with. -/
theorem closed_holdAll (f : Frame) (hrun : f.run ≠ some []) (items : List Item) :
    (f.holdAll items).closed.reverse
      = f.items.reverse ++ joinText (f.run.getD []).reverse (settled items) := by
  -- By induction on the items, for any frame: an item that is no text closes the run, and
  -- a text becomes part of it, so the invariant is that no open run is empty.
  induction items generalizing f with
  | nil => exact closed_reverse f hrun
  | cons item rest ih =>
    have hstep : f.holdAll (item :: rest) = (f.hold item).holdAll rest := rfl
    rw [hstep]
    cases hitem : item.run? with
    | none =>
      have hadd : (f.add item).items.reverse = f.closed.reverse ++ [item] := by simp [add]
      have hsplit : joinText (f.run.getD []).reverse (item :: settled rest)
          = joinText (f.run.getD []).reverse [] ++ item :: settled rest := by
        rw [joinText_of_no_run hitem, joinText]
        split
        · rfl
        · rfl
        · exact nofun
      rw [hold_of_no_run f hitem, ih (f.add item) (by simp [add]), hadd,
        closed_reverse f hrun, settled_of_no_run hitem, hsplit]
      simp [add, joinText_nil]
    | some run =>
      obtain rfl := Item.eq_text hitem
      by_cases hempty : run = []
      · have hhold : f.hold (.text run) = f := by simp [hold, hempty]
        rw [hhold, ih f hrun, settled, hempty, joinText_nil]
      · have hhold : f.hold (.text run) = f.write run := by simp [hold, hempty]
        rw [hhold, ih (f.write run) (by simp [write, hempty]), settled]
        simp only [write, Option.getD_some, List.reverse_append, List.reverse_reverse]
        rw [joinText_append hempty]

end Frame

/-! ## Taking tokens -/

/-- An outline with nothing declared and no complaint at the end of its notes, in which so
many more levels can be opened. -/
structure Outline.Admits (o : Outline) (levels : Nat) : Prop where
  undeclared : ∃ standalone, o.declarations = .empty standalone
  room : o.depth + o.frames.length + levels ≤ Outline.depthLimit
  quiet : o.ledger.notes.verdict = .ok ()

/-- Taking some tokens adds some items to the innermost open element, and changes nothing
else, apart from remarks. The elements among them go so many levels deep. -/
def Takes (levels : Nat) (tokens : List Token) (items : List Item) : Prop :=
  ∀ (o : Outline) (f : Frame) (rest : List Frame), o.frames = f :: rest → o.Admits levels →
    ∃ ledger, ledger.notes.verdict = .ok ()
      ∧ o.takeAll tokens = .ok { o with frames := f.holdAll items :: rest, ledger := ledger }

namespace Outline

theorem takeAll_cons (o : Outline) (token : Token) (rest : List Token) :
    o.takeAll (token :: rest)
      = take entityLevels (enter entityLevels) o token >>= fun o => o.takeAll rest := by
  rw [takeAll, List.foldlM_cons]
  rfl

/-- What an outline admits depends on how many frames it has. -/
theorem admits_of_length {o : Outline} {levels more : Nat} (ho : o.Admits levels)
    {frames : List Frame} (hlength : frames.length + more ≤ o.frames.length + levels)
    {ledger : Ledger} (hquiet : ledger.notes.verdict = .ok ()) :
    Outline.Admits { o with frames := frames, ledger := ledger } more := by
  refine ⟨ho.undeclared, ?_, hquiet⟩
  have hroom := ho.room
  change o.depth + frames.length + more ≤ depthLimit
  omega

/-- Inside an element there is nothing to say about the root. -/
theorem inner_of_frames {o : Outline} {f : Frame} {rest : List Frame}
    (h : o.frames = f :: rest) : o.frames = [] → o.root = none := by
  intro hnil
  rw [h] at hnil
  exact absurd hnil (List.cons_ne_nil f rest)

/-- A plain tag opens a frame, and nothing is noted. -/
theorem openTag_plain (room : Nat) {o : Outline} (hroot : o.frames = [] → o.root = none)
    {levels : Nat} (ho : o.Admits (levels + 1)) {tag : Tag} (h : tag.IsPlain) :
    o.openTag room tag.written
      = .ok { o with frames := Frame.opened tag o.scope :: o.frames } := by
  obtain ⟨⟨standalone, hdeclared⟩, hroom, -⟩ := ho
  have hfirst : ¬ (o.frames.isEmpty && o.root.isSome) = true := by
    intro hboth
    rw [Bool.and_eq_true, List.isEmpty_iff] at hboth
    rw [hroot hboth.1] at hboth
    exact Bool.false_ne_true hboth.2
  have hdepth : ¬ depthLimit ≤ o.depth + o.frames.length := by omega
  have hresolve (inEntity : Bool) :
      tag.written.resolve { declarations := o.declarations, room, inEntity } o.scope
        = pure tag :=
    resolve_plain hdeclared o.scope h
  rw [openTag, if_neg hfirst, if_neg hdepth]
  simp only [after, hresolve]
  rfl

end Outline

theorem takes_nil (levels : Nat) : Takes levels [] [] := by
  intro o f rest hframes ho
  refine ⟨o.ledger, ho.quiet, ?_⟩
  change Except.ok o = _
  rw [Frame.holdAll, List.foldl_nil, ← hframes]

/-- Tokens in a row are taken one after the other, and their items held so. -/
theorem takes_append {levels : Nat} {ts us : List Token} {as bs : List Item}
    (has : Takes levels ts as) (hbs : Takes levels us bs) :
    Takes levels (ts ++ us) (as ++ bs) := by
  intro o f rest hframes ho
  obtain ⟨middle, hquiet, hts⟩ := has o f rest hframes ho
  have hadmits : Outline.Admits { o with frames := f.holdAll as :: rest, ledger := middle }
      levels :=
    Outline.admits_of_length ho (by rw [hframes, List.length_cons, List.length_cons]) hquiet
  obtain ⟨last, hlast, hus⟩ := hbs _ _ rest rfl hadmits
  refine ⟨last, hlast, ?_⟩
  rw [Outline.takeAll_append, hts, Frame.holdAll_append]
  exact hus

/-- What is taken where there is room for some levels is taken where there is room for more. -/
theorem takes_mono {levels more : Nat} (h : levels ≤ more) {tokens : List Token}
    {items : List Item} (htakes : Takes levels tokens items) : Takes more tokens items := by
  intro o f rest hframes ho
  refine htakes o f rest hframes ⟨ho.undeclared, ?_, ho.quiet⟩
  have hroom := ho.room
  omega

/-- A token that only adds an item. -/
theorem takes_of_take {levels : Nat} {token : Token} {item : Item}
    (h : ∀ (o : Outline) (f : Frame) (rest : List Frame), o.frames = f :: rest →
      o.Admits levels → ∃ ledger, ledger.notes.verdict = .ok ()
        ∧ Outline.take entityLevels (Outline.enter entityLevels) o token
          = .ok { o with frames := f.hold item :: rest, ledger := ledger }) :
    Takes levels [token] [item] := by
  intro o f rest hframes ho
  obtain ⟨ledger, hquiet, htake⟩ := h o f rest hframes ho
  refine ⟨ledger, hquiet, ?_⟩
  rw [Outline.takeAll_cons, htake]
  rfl

/-- Text is taken character by character and becomes one run. -/
theorem takes_text (levels : Nat) (hides : Char → Bool) (text : List Char) :
    Takes levels (text.map (textToken hides)) [.text text] := by
  -- The run grows by one character at a time, as it would grow by all of them at once.
  have hhold (g : Frame) (c : Char) (more : List Char) :
      (g.write [c]).hold (.text more) = g.hold (.text (c :: more)) := by
    cases more with
    | nil => rfl
    | cons d tail => simp [Frame.hold, Frame.write]
  induction text with
  | nil => exact takes_nil levels
  | cons c more ih =>
    have hone : Takes levels [textToken hides c] [.text [c]] := by
      refine takes_of_take fun o f rest hframes ho => ⟨o.ledger, ho.quiet, ?_⟩
      have hwrite : o.write [c] = .ok { o with frames := f.write [c] :: rest } := by
        rw [Outline.write, hframes]
      unfold textToken
      split_ifs
      · exact hwrite
      · rw [Outline.take, hframes]
        exact hwrite
    intro o f rest hframes ho
    obtain ⟨ledger, hquiet, hall⟩ := takes_append hone ih o f rest hframes ho
    refine ⟨ledger, hquiet, ?_⟩
    rw [List.map_cons]
    change o.takeAll ([textToken hides c] ++ more.map (textToken hides))
      = .ok { o with frames := f.hold (.text (c :: more)) :: rest, ledger := ledger }
    rw [hall, ← hhold]
    rfl

/-- The tokens of an element, from its opening tag to its closing one, put the element
where it belongs: into the innermost open element, or at the root. -/
theorem takeAll_element {o : Outline} (hroot : o.frames = [] → o.root = none) {levels : Nat}
    (ho : o.Admits (levels + 1)) {tag : Tag} (h : tag.IsPlain) {tokens : List Token}
    {items : List Item} (hinner : Takes levels tokens items) :
    ∃ ledger, ledger.notes.verdict = .ok ()
      ∧ o.takeAll (.startTag tag.written :: (tokens ++ [.endTag tag.name]))
        = .ok (Outline.place { o with ledger := ledger } o.frames
            { tag := tag, content := settled items }) := by
  -- The content is taken into the frame that the tag opens, one level further down; the
  -- closing tag finds that frame again, since taking items keeps its tag.
  let opened := Frame.opened tag o.scope
  have hopened : opened.tag = tag := rfl
  have hadmits : Outline.Admits { o with frames := opened :: o.frames, ledger := o.ledger }
      levels :=
    Outline.admits_of_length ho (by rw [List.length_cons]; omega) ho.quiet
  obtain ⟨ledger, hquiet, hitems⟩ := hinner _ opened o.frames rfl hadmits
  refine ⟨ledger, hquiet, ?_⟩
  have hname : (opened.holdAll items).tag = tag := opened.holdAll_tag items
  have hcontent : (opened.holdAll items).closed.reverse = settled items := by
    rw [opened.closed_holdAll (Option.some_ne_none _).symm]
    exact joinText_nil _
  have helement : (opened.holdAll items).element = { tag := tag, content := settled items } := by
    rw [Frame.element, hname, hcontent]
  have hclose :
      Outline.takeAll { o with frames := opened.holdAll items :: o.frames, ledger := ledger }
        [.endTag tag.name]
        = .ok (Outline.place { o with ledger := ledger } o.frames
            (opened.holdAll items).element) := by
    rw [Outline.takeAll_cons, Outline.take]
    simp only [hname, if_true, Outline.close]
    cases o.frames with
    | nil => rfl
    | cons f rest => rfl
  rw [Outline.takeAll_cons, Outline.take, Outline.openTag_plain _ hroot ho h]
  change Outline.takeAll { o with frames := opened :: o.frames } _ = _
  rw [Outline.takeAll_append, hitems, ← helement]
  exact hclose

/-- A tag, what is taken within it, and its end are taken as one element, with a level more. -/
theorem takes_element {levels : Nat} {tag : Tag} (h : tag.IsPlain) {tokens : List Token}
    {items : List Item} (hinner : Takes levels tokens items) :
    Takes (levels + 1) (.startTag tag.written :: (tokens ++ [.endTag tag.name]))
      [.element tag (settled items)] := by
  intro o f rest hframes ho
  have hroot := Outline.inner_of_frames hframes
  obtain ⟨ledger, hquiet, helement⟩ := takeAll_element hroot ho h hinner
  refine ⟨ledger, hquiet, ?_⟩
  rw [helement, hframes]
  rfl

/-- A tag that is an element by itself is taken as its two tags with nothing between. -/
theorem takes_emptyTag (levels : Nat) {tag : Tag} (h : tag.IsPlain) :
    Takes (levels + 1) [.emptyTag tag.written] [.element tag []] := by
  refine takes_of_take fun o f rest hframes ho => ⟨o.ledger, ho.quiet, ?_⟩
  have hroot := Outline.inner_of_frames hframes
  rw [Outline.take, Outline.openTag_plain _ hroot ho h, hframes]
  rfl

/-! ## Reading pieces -/

/-- A piece of markup that is read into some items, wherever it stands in an element. -/
structure Reads (levels : Nat) (text : List Char) (items : List Item) : Prop where
  allowed : text.all isAllowed = true
  taken : ∃ tokens, Scans text tokens ∧ Takes levels tokens items

theorem reads_nil (levels : Nat) : Reads levels [] [] :=
  ⟨rfl, [], scans_nil, takes_nil levels⟩

/-- Texts in a row are read one after the other. -/
theorem reads_append {levels : Nat} {text more : List Char} {as bs : List Item}
    (has : Reads levels text as) (hbs : Reads levels more bs) :
    Reads levels (text ++ more) (as ++ bs) := by
  obtain ⟨hallowed, ts, hscans, htakes⟩ := has
  obtain ⟨hallowed', us, hscans', htakes'⟩ := hbs
  refine ⟨?_, ts ++ us, scans_append hscans hscans', takes_append htakes htakes'⟩
  rw [List.all_append, hallowed, hallowed']
  rfl

theorem reads_mono {levels more : Nat} (h : levels ≤ more) {text : List Char}
    {items : List Item} (hreads : Reads levels text items) : Reads more text items := by
  obtain ⟨hallowed, tokens, hscans, htakes⟩ := hreads
  exact ⟨hallowed, tokens, hscans, takes_mono h htakes⟩

/-- Pieces in a row are read into their items in a row. -/
theorem reads_flatMap {α : Type} {levels : Nat} {text : α → List Char} {item : α → Item}
    {as : List α} (h : ∀ a ∈ as, Reads levels (text a) [item a]) :
    Reads levels (as.flatMap text) (as.map item) := by
  induction as with
  | nil => exact reads_nil levels
  | cons a rest ih =>
    rw [List.flatMap_cons, List.map_cons, ← List.singleton_append]
    exact reads_append (h a List.mem_cons_self)
      (ih fun b hb => h b (List.mem_cons_of_mem _ hb))

/-- Allowed text is read as one run, however it is escaped. -/
theorem reads_text (e : Escaping) {text : List Char} (h : text.all isAllowed = true) :
    Reads 0 (e.text text) [.text text] :=
  ⟨isAllowed_spelled e.inText h, text.map (textToken e.inText), leads_text e text,
    takes_text 0 e.inText text⟩

section Elements

variable (e : Escaping) {tag : Tag} (h : tag.IsPlain)
include h

/-- A tag, a text within it and its end are scanned one after the other. -/
theorem scans_enclosed {inner : List Char} {tokens : List Token} (hinner : Scans inner tokens) :
    Scans (e.enclosed tag inner)
      (.startTag tag.written :: (tokens ++ [.endTag tag.name])) := by
  have hstart : Scans ('<' :: e.tag tag ++ ['>']) [.startTag tag.written] :=
    fun brackets => ⟨0, leads_startTag e h brackets⟩
  have hend : Scans ('<' :: '/' :: tag.name.print ++ ['>']) [.endTag tag.name] :=
    fun brackets => ⟨0, leads_endTag h brackets⟩
  exact scans_append (scans_append hstart hinner) hend

/-- An element is read with what its content is read into. -/
theorem reads_enclosed {levels : Nat} {inner : List Char} {items : List Item}
    (hinner : Reads levels inner items) :
    Reads (levels + 1) (e.enclosed tag inner) [.element tag (settled items)] := by
  obtain ⟨hallowed, tokens, hscans, htakes⟩ := hinner
  exact ⟨isAllowed_enclosed e h hallowed, _, scans_enclosed e h hscans,
    takes_element h htakes⟩

theorem reads_alone : Reads 1 (e.alone tag) [.element tag []] :=
  ⟨isAllowed_alone e h, _, fun brackets => ⟨0, leads_alone e h brackets⟩, takes_emptyTag 0 h⟩

end Elements

/-! ## Whole documents -/

/-- A document that begins with a tag has neither a byte order mark nor an opening
declaration. -/
theorem ofText_enclosed (e : Escaping) (settled : Bool) {tag : Tag} (h : tag.IsPlain)
    (inner : List Char) :
    Opening.ofText settled (e.enclosed tag inner) = .ok (.absent, e.enclosed tag inner) := by
  obtain ⟨c, rest, hname, hstart, hall⟩ := isSimpleName_cons h.simple
  -- A name does not begin with a question mark, as the declaration would.
  have hc : ¬ '?' = c := by
    intro heq
    exact ne_of_isNameChar (hall c (hname ▸ List.mem_cons_self)) (d := '?') (by decide)
      heq.symm
  have hbegin : ∃ more, e.enclosed tag inner = '<' :: c :: more := by
    rw [Escaping.enclosed, Escaping.tag, QName.print_of_qualifier h.qualifier, hname]
    exact ⟨_, rfl⟩
  obtain ⟨more, hmore⟩ := hbegin
  have hafter : after? "<?xml" (e.enclosed tag inner) = none := by
    rw [hmore, after?]
    change (if '?' == c then _ else none) = none
    rw [if_neg]
    simpa using hc
  rw [Opening.ofText, hafter]

theorem head?_enclosed (e : Escaping) (tag : Tag) (inner : List Char) :
    (e.enclosed tag inner).head? = some '<' :=
  rfl

/-- A document is read if its tokens are those of one element with some content. -/
theorem read_of_tokens (e : Escaping) {tag : Tag} (h : tag.IsPlain) {levels : Nat}
    (hlevels : levels + 1 ≤ Outline.depthLimit) {inner : List Char} {ts : List Token}
    {items : List Item} (hallowed : inner.all isAllowed = true)
    (htokens : tokens (e.enclosed tag inner)
      = .ok (.startTag tag.written :: (ts ++ [.endTag tag.name])))
    (htakes : Takes levels ts items) :
    read (e.enclosed tag inner) = .ok { tag := tag, content := settled items } := by
  have hcharacters := isAllowed_enclosed e h hallowed
  -- The tree does not depend on the number of bytes, as no reference is charged.
  have hroot (bytes : Nat) :
      rootOf false bytes (.startTag tag.written :: (ts ++ [.endTag tag.name]))
        = .ok { tag := tag, content := settled items } := by
    obtain ⟨ledger, hquiet, htree⟩ :=
      takeAll_element (o := Outline.empty false bytes) (fun _ => rfl)
        ⟨⟨false, rfl⟩, by simpa [Outline.empty] using hlevels, rfl⟩ h htakes
    rw [rootOf, htree]
    change Outline.finish { Outline.empty false bytes with
      ledger := ledger, root := some { tag := tag, content := settled items } } = _
    rw [Outline.finish, hquiet]
    rfl
  have hbody : readBody false (e.enclosed tag inner)
      = .ok { tag := tag, content := settled items } := by
    rw [readBody, hcharacters, htokens]
    exact hroot _
  have hmark : ¬ (e.enclosed tag inner).head? = some '\uFEFF' := by
    rw [head?_enclosed]
    decide
  rw [read]
  simp only [hmark, if_false, decide_false, ofText_enclosed e false h inner]
  exact hbody

/-- **Reading a written document.** The root element has the tag that was written, and
contains the items that the markup between its two tags is read into, where text that
touches is one. -/
theorem read_enclosed (e : Escaping) {tag : Tag} (h : tag.IsPlain) {levels : Nat}
    (hlevels : levels + 1 ≤ Outline.depthLimit) {inner : List Char} {items : List Item}
    (hinner : Reads levels inner items) :
    read (e.enclosed tag inner) = .ok { tag := tag, content := settled items } := by
  obtain ⟨hallowed, ts, hscans, htakes⟩ := hinner
  obtain ⟨last, hlast⟩ := scans_enclosed e h hscans 0
  refine read_of_tokens e h hlevels hallowed ?_ htakes
  rw [tokens, Place.start, hlast]
  rfl

end SymbolDocs.Markup
