/-
Two documents that differ in one place.

Of two documents that are the same but for what stands at one place, the readings are
followed side by side. What may stand there on the one side and on the other is left open:
a divergence says how an element that is open at the place differs while the run of text
around the place is not finished, how contents differ afterwards, and that the one leads to
the other whatever is written and added. All else is the same for every divergence. Up to the
place the same elements are open. From there on one of the open elements differs, first
directly and, once that element is closed, in an element inside; and in the end it is the
root. Each step of the one reading is a step of the other and leaves them in this relation
(`step_differs`).

What the readings write to their ledgers need not be the same, as long as what is common to
the ledgers lasts.
-/
import SymbolDocs.Proofs.Markup.Gaps

set_option autoImplicit false

namespace SymbolDocs.Markup

/-! ## Differing in one place -/

def Item.isElement : Item → Bool
  | .element _ _ => true
  | _ => false

/-- What comes after a run of text, if anything does: something that is no text, and an element
only if that was announced. -/
def Follows (opens : Bool) (right : List Item) : Prop :=
  ∀ item ∈ right.head?, item.run? = none ∧ (item.isElement = true → opens = true)

/-- How two documents differ at a place: in an open element, with what is directly ahead, and
in the contents of elements. -/
structure Divergence where
  fresh : Prospect → Frame → Frame → Prop
  content : List Item → List Item → Prop
  tag : ∀ {ahead : Prospect} {f f' : Frame}, fresh ahead f f' → f'.tag = f.tag
  scope : ∀ {ahead : Prospect} {f f' : Frame}, fresh ahead f f' → f'.scope = f.scope
  write : ∀ {text : List Char} {ahead : Prospect} {f f' : Frame},
    fresh { ahead with text := text ++ ahead.text } f f' →
      fresh ahead (f.write text) (f'.write text)
  /-- Without text ahead the run of text is finished. -/
  settle : ∀ {opens : Bool} {f f' : Frame}, fresh { text := [], opens := opens } f f' →
    ∀ right, Follows opens right →
      content (f.closed.reverse ++ right) (f'.closed.reverse ++ right)

/-- Contents that differ in one place. The path leads to the element with that place. -/
inductive Divergence.Within (d : Divergence) : List QName → List Item → List Item → Prop where
  | here {content content' : List Item} (differs : d.content content content') :
    d.Within [] content content'
  | inside {path : List QName} {left right content content' : List Item} {tag : Tag}
    (inner : d.Within path content content') :
    d.Within (tag.name :: path) (left ++ .element tag content :: right)
      (left ++ .element tag content' :: right)

/-! ## Open elements -/

/-- Two open elements that are the same but for one place among what was added to them, or in
an element that was. Whatever comes next comes behind the place. -/
structure Frame.Differs (d : Divergence) (path : List QName) (f f' : Frame) : Prop where
  tag : f'.tag = f.tag
  scope : f'.scope = f.scope
  run : f'.run = f.run
  items : ∀ more, d.Within path (f.items.reverse ++ more) (f'.items.reverse ++ more)

section Frames

variable {d : Divergence} {path : List QName} {f f' : Frame}

theorem within_of_differs (h : f.Differs d path f') (right : List Item) :
    d.Within path (f.closed.reverse ++ right) (f'.closed.reverse ++ right) := by
  rw [closed_reverse_eq, closed_reverse_eq, h.run, List.append_assoc, List.append_assoc]
  exact h.items _

theorem differs_write (h : f.Differs d path f') (text : List Char) :
    (f.write text).Differs d path (f'.write text) := by
  refine ⟨h.tag, h.scope, ?_, h.items⟩
  change some (text.reverse ++ f'.run.getD []) = some (text.reverse ++ f.run.getD [])
  rw [h.run]

theorem differs_add_of_within {item : Item} (htag : f'.tag = f.tag) (hscope : f'.scope = f.scope)
    (h : ∀ more, d.Within path (f.closed.reverse ++ item :: more)
      (f'.closed.reverse ++ item :: more)) : (f.add item).Differs d path (f'.add item) := by
  refine ⟨htag, hscope, rfl, fun more => ?_⟩
  change d.Within path ((item :: f.closed).reverse ++ more) ((item :: f'.closed).reverse ++ more)
  rw [List.reverse_cons, List.reverse_cons, List.append_assoc, List.append_assoc]
  exact h _

/-- An element around gets the element with the place in it. -/
theorem differs_add_element {e e' : Element} (htag : e'.tag = e.tag)
    (h : d.Within path e.content e'.content) (g : Frame) :
    (g.add (.element e.tag e.content)).Differs d (e.tag.name :: path)
      (g.add (.element e'.tag e'.content)) := by
  refine ⟨rfl, rfl, rfl, fun more => ?_⟩
  change d.Within _ ((_ :: g.closed).reverse ++ more) ((_ :: g.closed).reverse ++ more)
  rw [List.reverse_cons, List.reverse_cons, List.append_assoc, List.append_assoc, htag]
  exact .inside h

end Frames

/-! ## Stacks of open elements -/

section Stacks

variable (d : Divergence) (full : List QName)

/-- One of some open elements differs. The full path leads there from the outermost one. -/
inductive DifferingFrames : Prospect → List Frame → List Frame → Prop where
  | fresh {ahead : Prospect} {f f' : Frame} {below : List Frame} (top : d.fresh ahead f f')
    (path_eq : full = (below.map (·.tag.name)).reverse ++ [f.tag.name]) :
    DifferingFrames ahead (f :: below) (f' :: below)
  | settled {ahead : Prospect} {path : List QName} {f f' : Frame} {below : List Frame}
    (top : f.Differs d path f')
    (path_eq : full = (below.map (·.tag.name)).reverse ++ f.tag.name :: path) :
    DifferingFrames ahead (f :: below) (f' :: below)
  | above {ahead : Prospect} {f : Frame} {below below' : List Frame}
    (rest : DifferingFrames { text := [], opens := true } below below') :
    DifferingFrames ahead (f :: below) (f :: below')

/-- Two trees in the making: the same up to the place, then differing in it. -/
inductive DifferingTree : Bool → Prospect → List Frame → Option Element →
    List Frame → Option Element → Prop where
  | same {ahead : Prospect} {frames : List Frame} {root : Option Element} :
    DifferingTree false ahead frames root frames root
  | inside {ahead : Prospect} {frames frames' : List Frame} {root : Option Element}
    (stack : DifferingFrames d full ahead frames frames') :
    DifferingTree true ahead frames root frames' root
  | complete {ahead : Prospect} {path : List QName} {e e' : Element} (tag : e'.tag = e.tag)
    (content : d.Within path e.content e'.content) (path_eq : full = e.tag.name :: path) :
    DifferingTree true ahead [] (some e) [] (some e')

variable {d full} {passed : Bool} {ahead : Prospect} {frames frames' below : List Frame}
  {root root' : Option Element} {f : Frame}

/-- Text goes into the innermost element. -/
theorem differingFrames_write {text : List Char}
    (h : DifferingFrames d full { ahead with text := text ++ ahead.text } (f :: below) frames') :
    ∃ f' below', frames' = f' :: below'
      ∧ DifferingFrames d full ahead (f.write text :: below) (f'.write text :: below') := by
  cases h with
  | fresh top path_eq => exact ⟨_, _, rfl, .fresh (d.write top) path_eq⟩
  | settled top path_eq => exact ⟨_, _, rfl, .settled (differs_write top text) path_eq⟩
  | above rest => exact ⟨_, _, rfl, .above rest⟩

/-- So does everything else, and then the run of text around the place is finished. -/
theorem differingFrames_add (item : Item) {opens : Bool} (hrun : item.run? = none)
    (hopens : item.isElement = true → opens = true) (later : Prospect)
    (h : DifferingFrames d full { text := [], opens := opens } (f :: below) frames') :
    ∃ f' below', frames' = f' :: below'
      ∧ DifferingFrames d full later (f.add item :: below) (f'.add item :: below') := by
  cases h with
  | fresh top path_eq =>
    have hfollows (more : List Item) : Follows opens (item :: more) := by
      rintro first hfirst
      rw [← Option.some.inj hfirst]
      exact ⟨hrun, hopens⟩
    have htop := differs_add_of_within (d.tag top) (d.scope top)
      fun more => .here (d.settle top (item :: more) (hfollows more))
    exact ⟨_, _, rfl, .settled htop path_eq⟩
  | settled top path_eq =>
    have htop := differs_add_of_within top.tag top.scope
      fun more => within_of_differs top (item :: more)
    exact ⟨_, _, rfl, .settled htop path_eq⟩
  | above rest => exact ⟨_, _, rfl, .above rest⟩

theorem length_of_differingFrames (h : DifferingFrames d full ahead frames frames') :
    frames'.length = frames.length ∧ frames ≠ [] := by
  induction h with
  | fresh => exact ⟨rfl, List.cons_ne_nil _ _⟩
  | settled => exact ⟨rfl, List.cons_ne_nil _ _⟩
  | above rest ih => exact ⟨congrArg (· + 1) ih.1, List.cons_ne_nil _ _⟩

theorem scope_of_differingFrames (h : DifferingFrames d full ahead frames frames') :
    frames'.head?.map (·.scope) = frames.head?.map (·.scope) := by
  cases h with
  | fresh top => exact congrArg some (d.scope top)
  | settled top => exact congrArg some top.scope
  | above rest => rfl

/-- When an element with the place in it is closed, the one around it has the place in it, or
the tree is complete. -/
theorem differingTree_place {path : List QName} {e e' : Element} (htag : e'.tag = e.tag)
    (hcontent : d.Within path e.content e'.content)
    (hpath : full = (below.map (·.tag.name)).reverse ++ e.tag.name :: path) {o o' : Outline}
    (hroot : o'.root = o.root) :
    DifferingTree d full true ahead (o.place below e).frames (o.place below e).root
      (o'.place below e').frames (o'.place below e').root := by
  cases below with
  | nil => exact .complete htag hcontent hpath
  | cons g rest =>
    change DifferingTree d full true ahead _ o.root _ o'.root
    rw [hroot]
    refine .inside (.settled (differs_add_element htag hcontent g) ?_)
    rw [hpath, List.map_cons, List.reverse_cons, List.append_assoc]
    rfl

end Stacks

/-! ## Outlines side by side -/

/-- Two outlines of documents that differ in one place, which may have been passed. -/
structure Outline.Differs (d : Divergence) (full : List QName)
    (related : Ledger → Ledger → Prop) (passed : Bool) (ahead : Prospect) (o o' : Outline) :
    Prop where
  undeclared : ∃ standalone, o.declarations = .empty standalone
  declarations : o'.declarations = o.declarations
  depth : o'.depth = o.depth
  ledger : related o.ledger o'.ledger
  tree : DifferingTree d full passed ahead o.frames o.root o'.frames o'.root

namespace Outline

variable {d : Divergence} {full : List QName} {related : Ledger → Ledger → Prop}
  {passed opens : Bool} {ahead later : Prospect} {o o' next : Outline} {f : Frame}
  {rest : List Frame}

theorem differs_with_ledger (h : o.Differs d full related passed ahead o')
    {ledger ledger' : Ledger} (hledger : related ledger ledger') :
    Outline.Differs d full related passed ahead { o with ledger := ledger }
      { o' with ledger := ledger' } :=
  ⟨h.undeclared, h.declarations, h.depth, hledger, h.tree⟩

theorem undeclared_of_differs (h : o.Differs d full related passed ahead o') :
    ∃ standalone, o'.declarations = .empty standalone := by
  rw [h.declarations]
  exact h.undeclared

/-- What of the open elements decides whether and how a tag opens another one is the same on
both sides. -/
theorem shape_of_differs (h : o.Differs d full related passed ahead o') :
    o'.frames.length = o.frames.length ∧ o'.scope = o.scope
      ∧ (o.root = none → o'.root = none) := by
  have hscope (o : Outline) : o.scope = (o.frames.head?.map (·.scope)).getD [] := by
    rw [scope]
    cases o.frames with
    | nil => rfl
    | cons f rest => rfl
  obtain ⟨-, -, -, -, htree⟩ := h
  rw [hscope, hscope]
  generalize o.frames = frames, o.root = root, o'.frames = frames', o'.root = root' at htree
  cases htree with
  | same => exact ⟨rfl, rfl, id⟩
  | inside stack =>
    exact ⟨(length_of_differingFrames stack).1, by rw [scope_of_differingFrames stack], id⟩
  | complete => exact ⟨rfl, rfl, fun h => absurd h (Option.some_ne_none _)⟩

/-! ### The beginning and the end -/

theorem differs_empty {standalone : Bool} {bytes bytes' : Nat}
    (h : related (Ledger.before bytes) (Ledger.before bytes')) (ahead : Prospect) :
    (Outline.empty standalone bytes).Differs d full related false ahead
      (Outline.empty standalone bytes') :=
  ⟨⟨standalone, rfl⟩, rfl, rfl, h, .same⟩

/-- Up to the place the trees are the same. -/
theorem same_of_differs (h : o.Differs d full related false ahead o') :
    o'.frames = o.frames ∧ o'.root = o.root := by
  obtain ⟨-, -, -, -, htree⟩ := h
  generalize o.frames = frames, o.root = root, o'.frames = frames', o'.root = root' at htree ⊢
  cases htree with
  | same => exact ⟨rfl, rfl⟩

/-- From a place on, an open element differs. -/
theorem differs_of_fresh {f f' : Frame} {below : List Frame}
    (hundeclared : ∃ standalone, o.declarations = .empty standalone)
    (hdeclarations : o'.declarations = o.declarations) (hdepth : o'.depth = o.depth)
    (hledger : related o.ledger o'.ledger) (hroot : o'.root = o.root)
    (hframes : o.frames = f :: below) (hframes' : o'.frames = f' :: below)
    (hfresh : d.fresh ahead f f')
    (hpath : full = (below.map (·.tag.name)).reverse ++ [f.tag.name]) :
    o.Differs d full related true ahead o' := by
  refine ⟨hundeclared, hdeclarations, hdepth, hledger, ?_⟩
  rw [hframes, hframes', hroot]
  exact .inside (.fresh hfresh hpath)

/-- When all elements are closed, the root elements differ. -/
theorem exists_root_of_differs (h : o.Differs d full related true ahead o')
    (houtside : o.frames = []) {root : Element} (hroot : o.root = some root) :
    ∃ root' path, o'.frames = [] ∧ o'.root = some root' ∧ root'.tag = root.tag
      ∧ full = root.tag.name :: path ∧ d.Within path root.content root'.content := by
  obtain ⟨-, -, -, -, htree⟩ := h
  rw [houtside, hroot] at htree
  generalize o'.frames = frames', o'.root = root' at htree
  cases htree with
  | inside stack => exact absurd rfl (length_of_differingFrames stack).2
  | complete htag hcontent hpath => exact ⟨_, _, rfl, rfl, htag, hpath, hcontent⟩

/-! ### Operations -/

theorem differs_write {text : List Char}
    (h : o.Differs d full related passed { ahead with text := text ++ ahead.text } o')
    (hinside : o.frames = f :: rest) :
    ∃ f' rest', o'.frames = f' :: rest'
      ∧ Outline.Differs d full related passed ahead { o with frames := f.write text :: rest }
        { o' with frames := f'.write text :: rest' } := by
  obtain ⟨hundeclared, hdeclarations, hdepth, hledger, htree⟩ := h
  rw [hinside] at htree
  generalize hframes' : o'.frames = frames' at htree
  generalize o.root = root, o'.root = root' at htree
  cases htree with
  | same => exact ⟨f, rest, rfl, hundeclared, hdeclarations, hdepth, hledger, .same⟩
  | inside stack =>
    obtain ⟨f', rest', rfl, hstack⟩ := differingFrames_write stack
    exact ⟨f', rest', rfl, hundeclared, hdeclarations, hdepth, hledger, .inside hstack⟩

theorem differs_of_outside (h : o.Differs d full related passed ahead o')
    (houtside : o.frames = []) (later : Prospect) :
    o'.frames = [] ∧ o.Differs d full related passed later o' := by
  have hlength := (shape_of_differs h).1
  rw [houtside, List.length_nil, List.length_eq_zero_iff] at hlength
  obtain ⟨hundeclared, hdeclarations, hdepth, hledger, htree⟩ := h
  refine ⟨hlength, hundeclared, hdeclarations, hdepth, hledger, ?_⟩
  rw [houtside, hlength] at htree ⊢
  generalize o.root = root, o'.root = root' at htree
  cases htree with
  | same => exact .same
  | inside stack => exact absurd rfl (length_of_differingFrames stack).2
  | complete htag hcontent hpath => exact .complete htag hcontent hpath

/-- An item is added on both sides. -/
theorem differs_hold (h : o.Differs d full related passed { text := [], opens := opens } o')
    (hinside : o.frames = f :: rest) (item : Item) (hrun : item.run? = none)
    (hopens : item.isElement = true → opens = true) (later : Prospect) :
    ∃ f' rest', o'.frames = f' :: rest'
      ∧ Outline.Differs d full related passed later { o with frames := f.add item :: rest }
        { o' with frames := f'.add item :: rest' } := by
  obtain ⟨hundeclared, hdeclarations, hdepth, hledger, htree⟩ := h
  rw [hinside] at htree
  generalize hframes' : o'.frames = frames' at htree
  generalize o.root = root, o'.root = root' at htree
  cases htree with
  | same => exact ⟨f, rest, rfl, hundeclared, hdeclarations, hdepth, hledger, .same⟩
  | inside stack =>
    obtain ⟨f', rest', rfl, hstack⟩ := differingFrames_add item hrun hopens later stack
    exact ⟨f', rest', rfl, hundeclared, hdeclarations, hdepth, hledger, .inside hstack⟩

theorem differs_add (h : o.Differs d full related passed { text := [], opens := opens } o')
    {item : Item} (hrun : item.run? = none) (helement : item.isElement = false) :
    (o.add item).Differs d full related passed later (o'.add item) := by
  cases hframes : o.frames with
  | nil =>
    obtain ⟨hframes', hlater⟩ := differs_of_outside h hframes later
    rwa [add, add, hframes, hframes']
  | cons f rest =>
    have hopens : item.isElement = true → opens = true := by
      simp [helement]
    obtain ⟨f', rest', hframes', hlater⟩ := differs_hold h hframes item hrun hopens later
    rwa [add, add, hframes, hframes']

/-- An element that is opened and closed at once is placed on both sides. -/
theorem differs_place (h : o.Differs d full related passed { text := [], opens := true } o')
    (hsingle : o.frames = [] → o.root = none) (e : Element) :
    (o.place o.frames e).Differs d full related passed later (o'.place o'.frames e) := by
  cases hframes : o.frames with
  | nil =>
    have hroot := hsingle hframes
    obtain ⟨hframes', hundeclared, hdeclarations, hdepth, hledger, htree⟩ :=
      differs_of_outside h hframes later
    rw [hframes', place, place]
    refine ⟨hundeclared, hdeclarations, hdepth, hledger, ?_⟩
    rw [hframes, hframes', hroot] at htree
    generalize o'.root = root' at htree
    cases htree with
    | same => exact .same
    | inside stack => exact absurd rfl (length_of_differingFrames stack).2
  | cons f rest =>
    obtain ⟨f', rest', hframes', hlater⟩ :=
      differs_hold h hframes (.element e.tag e.content) rfl (fun _ => rfl) later
    rwa [hframes', place, place]

/-- Placing an element only concerns the tree. -/
theorem fields_of_place (o : Outline) (rest : List Frame) (e : Element) :
    (o.place rest e).declarations = o.declarations ∧ (o.place rest e).depth = o.depth
      ∧ (o.place rest e).ledger = o.ledger := by
  cases rest with
  | nil => exact ⟨rfl, rfl, rfl⟩
  | cons g below => exact ⟨rfl, rfl, rfl⟩

theorem differs_of_tree (h : o.Differs d full related passed ahead o') {rest' : List Frame}
    {e e' : Element}
    (htree : DifferingTree d full passed later (o.place rest e).frames (o.place rest e).root
      (o'.place rest' e').frames (o'.place rest' e').root) :
    (o.place rest e).Differs d full related passed later (o'.place rest' e') := by
  obtain ⟨hdeclarations, hdepth, hledger⟩ := fields_of_place o rest e
  obtain ⟨hdeclarations', hdepth', hledger'⟩ := fields_of_place o' rest' e'
  refine ⟨?_, ?_, ?_, ?_, htree⟩
  · rw [hdeclarations]
    exact h.undeclared
  · rw [hdeclarations, hdeclarations']
    exact h.declarations
  · rw [hdepth, hdepth']
    exact h.depth
  · rw [hledger, hledger']
    exact h.ledger

/-- The innermost element is closed on both sides. -/
theorem differs_close (h : o.Differs d full related passed { text := [], opens := opens } o')
    (hinside : o.frames = f :: rest) :
    ∃ f' rest', o'.frames = f' :: rest' ∧ f'.tag = f.tag
      ∧ (o.place rest f.element).Differs d full related passed later
        (o'.place rest' f'.element) := by
  have htree := h.tree
  rw [hinside] at htree
  generalize hframes' : o'.frames = frames', hroot : o.root = root, hroot' : o'.root = root'
    at htree
  cases htree with
  | same =>
    refine ⟨f, rest, rfl, rfl, differs_of_tree h ?_⟩
    cases rest with
    | nil => exact .same
    | cons g below =>
      rw [place, place]
      dsimp only
      rw [hroot, hroot']
      exact .same
  | inside stack =>
    cases stack with
    | @fresh _ _ f' _ top path_eq =>
      have hcontent := d.settle top [] nofun
      rw [List.append_nil, List.append_nil] at hcontent
      refine ⟨f', rest, rfl, d.tag top, differs_of_tree h ?_⟩
      exact differingTree_place (d.tag top) (.here hcontent) path_eq (hroot'.trans hroot.symm)
    | @settled _ path _ f' _ top path_eq =>
      have hcontent := within_of_differs top []
      rw [List.append_nil, List.append_nil] at hcontent
      refine ⟨f', rest, rfl, top.tag, differs_of_tree h ?_⟩
      exact differingTree_place top.tag hcontent path_eq (hroot'.trans hroot.symm)
    | @above _ _ _ rest' below =>
      refine ⟨f, rest', rfl, rfl, differs_of_tree h ?_⟩
      cases rest with
      | nil => exact absurd rfl (length_of_differingFrames below).2
      | cons g deeper =>
        obtain ⟨g', deeper', rfl, hstack⟩ := differingFrames_add
          (.element f.element.tag f.element.content) rfl (fun _ => rfl) later below
        rw [place, place]
        dsimp only
        rw [hroot, hroot']
        exact .inside hstack

/-! ### Steps -/

section Steps

variable (hlasting : Ledger.Lasting related) {room : Nat}
include hlasting

/-- A tag that opens an element on one side opens the same one on the other. -/
theorem opens_of_differs (h : o.Differs d full related passed ahead o')
    {written : WrittenTag} {tag : Tag} {ledger : Ledger}
    (hopens : o.Opens room written tag ledger) :
    ∃ ledger', o'.Opens room written tag ledger' ∧ related ledger ledger' := by
  obtain ⟨hlength, hscope, hroot⟩ := shape_of_differs h
  obtain ⟨standalone, hdeclared⟩ := h.undeclared
  obtain ⟨ledger', hresolved, hrelated⟩ :=
    blind_resolve hlasting hdeclared o.scope written h.ledger hopens.resolved
  refine ⟨ledger', ⟨?_, ?_, ?_⟩, hrelated⟩
  · intro houtside
    rw [houtside, List.length_nil, eq_comm, List.length_eq_zero_iff] at hlength
    exact hroot (hopens.single hlength)
  · rw [hlength, h.depth]
    exact hopens.shallow
  · rw [h.declarations, h.depth, hscope]
    exact hresolved

/-- **What one step does on one side it does on the other.** -/
theorem step_differs {token : Token} {rest : List Token}
    (h : o.Differs d full related passed (prospectOf (token :: rest)) o')
    (hstep : Step room o token next) :
    ∃ next', Step room o' token next'
      ∧ next.Differs d full related passed (prospectOf rest) next' := by
  cases hstep with
  | skip houtside hspace =>
    obtain ⟨houtside', hlater⟩ := differs_of_outside h houtside _
    exact ⟨o', .skip houtside' hspace, hlater⟩
  | write htext hinside =>
    rw [prospectOf_of_text? htext] at h
    obtain ⟨f', rest', hinside', hnext⟩ := differs_write h hinside
    exact ⟨_, .write htext hinside', hnext⟩
  | comment text => exact ⟨_, .comment text, differs_add h rfl rfl⟩
  | @instruction target data ledger hjudged =>
    obtain ⟨ledger', hjudged', hrelated⟩ := blind_judge_target hlasting target h.ledger hjudged
    exact ⟨_, .instruction data hjudged', differs_add (differs_with_ledger h hrelated) rfl rfl⟩
  | @startTag written tag ledger hopens =>
    obtain ⟨ledger', hopens', hrelated⟩ := opens_of_differs hlasting h hopens
    refine ⟨_, .startTag hopens', h.undeclared, h.declarations, h.depth, hrelated, ?_⟩
    have htree := h.tree
    have hsingle := hopens.single
    rw [(shape_of_differs h).2.1]
    dsimp only
    generalize o.frames = frames, o.root = root, o'.frames = frames', o'.root = root'
      at htree hsingle ⊢
    cases htree with
    | same => exact .same
    | inside stack => exact .inside (.above stack)
    | complete => exact absurd (hsingle rfl) (Option.some_ne_none _)
  | @emptyTag written tag ledger hopens =>
    obtain ⟨ledger', hopens', hrelated⟩ := opens_of_differs hlasting h hopens
    exact ⟨_, .emptyTag hopens', differs_place (differs_with_ledger h hrelated) hopens.single _⟩
  | endTag hinside =>
    obtain ⟨f', rest', hinside', htag, hnext⟩ := differs_close h hinside
    rw [← htag]
    exact ⟨_, .endTag hinside', hnext⟩

/-- So it is with all tokens up to a place. -/
theorem takeAll_differs {ts : List Token} (us : List Token)
    (huntyped : ∀ t ∈ ts, t.isDoctype = false)
    (h : o.Differs d full related passed (prospectOf (ts ++ us)) o')
    (hnext : o.takeAll ts = .ok next) :
    ∃ next', o'.takeAll ts = .ok next'
      ∧ next.Differs d full related passed (prospectOf us) next' := by
  induction ts generalizing o o' with
  | nil =>
    obtain rfl := Except.ok.inj hnext
    exact ⟨o', rfl, h⟩
  | cons t rest ih =>
    have ht := huntyped t List.mem_cons_self
    obtain ⟨middle, hstep, hmore⟩ := (takeAll_cons_eq_ok_iff h.undeclared ht).mp hnext
    obtain ⟨middle', hstep', hmiddle⟩ := step_differs hlasting h hstep
    obtain ⟨next', hmore', hlast⟩ :=
      ih (fun u hu => huntyped u (List.mem_cons_of_mem _ hu)) hmiddle hmore
    exact ⟨next', (takeAll_cons_eq_ok_iff (undeclared_of_differs h) ht).mpr
      ⟨middle', hstep', hmore'⟩, hlast⟩

/-- And so with all tokens that are left. -/
theorem takeAll_differs_to_end {us : List Token} (huntyped : ∀ t ∈ us, t.isDoctype = false)
    (h : o.Differs d full related passed (prospectOf us) o') (hnext : o.takeAll us = .ok next) :
    ∃ next', o'.takeAll us = .ok next'
      ∧ next.Differs d full related passed (prospectOf []) next' := by
  rw [← List.append_nil us] at h
  exact takeAll_differs hlasting [] huntyped h hnext

/-- Up to a place inside an element the readings of two documents are the same, and they have
the same innermost element there. -/
theorem exists_place (d : Divergence) {ts us : List Token}
    (huntyped : ∀ t ∈ ts, t.isDoctype = false) (hinside : (positionAfter ts).around ≠ [])
    {standalone : Bool} {bytes bytes' : Nat}
    (hrelated : related (Ledger.before bytes) (Ledger.before bytes'))
    (htaken : (Outline.empty standalone bytes).takeAll (ts ++ us) = .ok o) :
    ∃ (middle middle' : Outline) (f : Frame) (rest : List Frame), middle.takeAll us = .ok o
      ∧ (Outline.empty standalone bytes').takeAll ts = .ok middle'
      ∧ middle.Differs d (positionAfter ts).around.reverse related false (prospectOf us) middle'
      ∧ middle.frames = f :: rest ∧ middle'.frames = f :: rest ∧ f.IsAt (positionAfter ts)
      ∧ (positionAfter ts).around.reverse = (rest.map (·.tag.name)).reverse ++ [f.tag.name] := by
  rw [takeAll_append] at htaken
  obtain ⟨middle, htaken, hafter⟩ := exists_of_bind htaken
  have hat : middle.IsAt (positionAfter ts) :=
    takeAll_isAt ⟨standalone, rfl⟩ (isAt_empty _ _) huntyped htaken
  have hstart : (Outline.empty standalone bytes).Differs d (positionAfter ts).around.reverse
      related false (prospectOf (ts ++ us)) (Outline.empty standalone bytes') :=
    differs_empty hrelated _
  obtain ⟨middle', htaken', hmiddle⟩ := takeAll_differs hlasting us huntyped hstart htaken
  obtain ⟨haround, hinnermost⟩ := hat
  cases hframes : middle.frames with
  | nil =>
    rw [hframes] at haround
    exact absurd haround.symm hinside
  | cons f rest =>
    rw [hframes] at haround hinnermost
    refine ⟨middle, middle', f, rest, hafter, htaken', hmiddle, hframes,
      (same_of_differs hmiddle).1.trans hframes, hinnermost f rfl, ?_⟩
    rw [← haround, List.map_cons, List.reverse_cons]

end Steps

end Outline

end SymbolDocs.Markup
