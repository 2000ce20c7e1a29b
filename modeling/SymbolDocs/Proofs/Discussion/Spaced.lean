/-
Discussions with layout put into their markup.

Layout makes no node, so what nodes there are and how they lie in one another does not depend
on it; nor do their names, their attributes and their kinds, since the first child that
decides the kind of a node is looked for among the nodes. This is the shape of a forest, and
it stays the same wherever layout is put (`shapes_of_within`). The texts of elements do
change, but only in their blanks, and so do the written forms.

A discussion shows texts and written forms, so it may change with the layout. It does not if
the layout stands directly in the root element, which has no node, or directly in a listing
or a list, of which only the texts of the children are shown (`shown_of_within`).
-/
import SymbolDocs.Proofs.Discussion.Glossed
import SymbolDocs.Proofs.Discussion.Texts
import SymbolDocs.Proofs.Markup.Spacing
import Mathlib.Logic.Relation

set_option autoImplicit false

namespace SymbolDocs.Discussion

open Markup (Item Spacing Unfolding spacing)

/-! ## Shapes -/

/-- What of a node is told without its layout: its name, whether it is an element, its
attributes, its kind, its text without blanks, its written form if it is no element, and the
shapes of its children. -/
inductive Shape where
  | node (name : Option String) (isElement : Bool) (attributes : List (String × String))
    (kind : Kind) (text : Option (List Char)) (written : Option String)
    (children : List Shape)

mutual

def Node.shape : Node → Shape
  | ⟨name, description, text, isElement, attributes, children, kind⟩ =>
    .node name isElement attributes kind (text.map fun t => solid t.toList)
      (if isElement then none else some description) (shapes children)

/-- The shapes of some nodes. -/
def shapes : List Node → List Shape
  | [] => []
  | n :: rest => n.shape :: shapes rest

end

theorem shapes_append (as bs : List Node) : shapes (as ++ bs) = shapes as ++ shapes bs := by
  induction as with
  | nil => rfl
  | cons n rest ih => rw [List.cons_append, shapes, shapes, ih, List.cons_append]

/-- Nodes of one shape have the same name and the same attributes, and either both are
elements or none is. -/
theorem face_of_shape {n n' : Node} (h : n'.shape = n.shape) :
    n'.name = n.name ∧ n'.isElement = n.isElement ∧ n'.attributes = n.attributes := by
  obtain ⟨name, description, text, isElement, attributes, children, kind⟩ := n
  obtain ⟨name', description', text', isElement', attributes', children', kind'⟩ := n'
  rw [Node.shape, Node.shape] at h
  injection h with hname helement hattributes
  exact ⟨hname, helement, hattributes⟩

/-- What a node begins with, as far as its kind depends on it. -/
theorem leadingElement?_of_shapes {children children' : List Node}
    (h : shapes children' = shapes children) :
    (leadingElement? children').map (fun n => (n.name, n.attributes))
      = (leadingElement? children).map (fun n => (n.name, n.attributes)) := by
  cases children with
  | nil =>
    cases children' with
    | nil => rfl
    | cons n' rest' => cases h
  | cons n rest =>
    cases children' with
    | nil => cases h
    | cons n' rest' =>
      obtain ⟨hname, helement, hattributes⟩ := face_of_shape (List.cons.inj h).1
      simp only [leadingElement?, firstElement?, List.head?_cons, Option.filter_some, helement]
      split
      · simp only [Option.filter_some, hname]
        split
        · rw [Option.map_some, Option.map_some, hname, hattributes]
        · rfl
      · rfl

/-- The kind of a node depends on the shapes of its children only. -/
theorem classify_of_shapes {children children' : List Node}
    (h : shapes children' = shapes children) (name : Option String) (text text' : String) :
    classify name children' (some text') = classify name children (some text) := by
  have hlead := leadingElement?_of_shapes h
  rw [classify, classify]
  split
  · rfl
  · rfl
  · rfl
  · cases hfirst : leadingElement? children with
    | none =>
      rw [hfirst] at hlead
      rw [Option.map_eq_none_iff.mp hlead]
    | some first =>
      rw [hfirst] at hlead
      obtain ⟨first', hfirst', hface⟩ := Option.map_eq_some_iff.mp hlead
      obtain ⟨hname, hattributes⟩ := Prod.mk.inj hface
      have hlink : linksWith first' (some text') = linksWith first (some text) := by
        simp only [linksWith, Node.attribute?, hname, hattributes, Option.isSome_some]
      have himage : showsImage first' = showsImage first := by
        simp only [showsImage, Node.attribute?, hname, hattributes]
      rw [hfirst']
      dsimp only
      rw [hlink, himage]

/-! ## Items with layout more -/

section Items

variable {content content' : List Item}

/-- Layout in one place makes no node, no text but blanks, and no stray name. -/
theorem nodes_of_spacing (h : spacing.content content content') (scope : Markup.Scope) :
    nodesOfContent scope content' = nodesOfContent scope content
      ∧ solid (contentText content') = solid (contentText content)
      ∧ strayNameIn? scope content' = strayNameIn? scope content := by
  obtain ⟨left, right, run, run', rfl, rfl, hrun, hrun'⟩ := h
  refine ⟨?_, ?_, ?_⟩
  · simp only [nodesOfContent_append, nodesOfContent_runItems scope hrun,
      nodesOfContent_runItems scope hrun']
  · simp only [contentText_append, contentText_runItems, solid_append, solid_of_allBlank hrun,
      solid_of_allBlank hrun']
  · simp only [strayNameIn?_append, strayNameIn?_runItems]

/-- The node of an element. -/
theorem exists_node_of_element (scope : Markup.Scope) (tag : Markup.Tag) (items : List Item) :
    ∃ n, nodesOfItem scope (.element tag items) = [n]
      ∧ n.name = some (String.ofList tag.name.part)
      ∧ n.children = nodesOfContent (tag.declarations ++ scope) items
      ∧ n.shape = .node (some (String.ofList tag.name.part)) true
        (expandedAttributes tag.attributes)
        (classify (some (String.ofList tag.name.part))
          (nodesOfContent (tag.declarations ++ scope) items)
          (some (String.ofList (contentText items))))
        (some (solid (contentText items))) none
        (shapes (nodesOfContent (tag.declarations ++ scope) items)) := by
  rw [nodesOfItem]
  refine ⟨_, rfl, rfl, rfl, ?_⟩
  rw [Node.shape, Option.map_some, String.toList_ofList]
  rfl

/-- **Layout in one place, at any depth, leaves the shape of the forest as it is.** -/
theorem shapes_of_within {path : List Markup.QName}
    (h : spacing.Within path content content') (scope : Markup.Scope) :
    shapes (nodesOfContent scope content') = shapes (nodesOfContent scope content)
      ∧ solid (contentText content') = solid (contentText content)
      ∧ strayNameIn? scope content' = strayNameIn? scope content := by
  induction h generalizing scope with
  | here differs =>
    obtain ⟨hnodes, htext, hstray⟩ := nodes_of_spacing differs scope
    exact ⟨congrArg shapes hnodes, htext, hstray⟩
  | @inside path left right inner inner' tag _ ih =>
    obtain ⟨hshapes, htext, hstray⟩ := ih (tag.declarations ++ scope)
    obtain ⟨n, hn, -, -, hshape⟩ := exists_node_of_element scope tag inner
    obtain ⟨n', hn', -, -, hshape'⟩ := exists_node_of_element scope tag inner'
    have hsame : n'.shape = n.shape := by
      rw [hshape, hshape', hshapes, htext, classify_of_shapes hshapes]
    refine ⟨?_, ?_, ?_⟩
    · rw [nodesOfContent_append, nodesOfContent_append, nodesOfContent, nodesOfContent, hn, hn']
      simp only [shapes_append, shapes, hsame]
    · rw [contentText_append, contentText_append, contentText, contentText, itemText, itemText]
      simp only [solid_append, htext]
    · rw [strayNameIn?_append, strayNameIn?_append, strayNameIn?, strayNameIn?, strayName?,
        strayName?, hstray]

/-- Whether the place a path leads to, from the outermost element below the root on, is in a
block of which only the texts of the children are shown, or in none. -/
def isUnseen (path : List Markup.QName) : Bool :=
  match path with
  | [] => true
  | [block] =>
    String.ofList block.part = Key.codeListing.name
      || String.ofList block.part = Key.listBullet.name
  | _ => false

/-- A listing and a list are shown by the texts of their children. -/
theorem dispatched_of_children {n n' : Node} {block : Markup.QName}
    (hblock : isUnseen [block] = true) (hname : n.name = some (String.ofList block.part))
    (hname' : n'.name = n.name) (hchildren : n'.children = n.children) :
    n'.dispatched = n.dispatched := by
  have hlines : n'.lines = n.lines := by rw [Node.lines, Node.lines, hchildren]
  rw [isUnseen, Bool.or_eq_true, decide_eq_true_iff, decide_eq_true_iff] at hblock
  rcases hblock with hlisting | hlist
  · rw [hlisting] at hname
    rw [dispatched_of_listing (hname'.trans hname), dispatched_of_listing hname]
    simp only [Rule.fence, hlines]
  · rw [hlist] at hname
    rw [dispatched_of_list (hname'.trans hname), dispatched_of_list hname]
    simp only [Rule.dashes, hlines]

/-- **Layout in the root element, in a listing or in a list leaves what is shown as it
is.** -/
theorem shown_of_within {path : List Markup.QName} (h : spacing.Within path content content')
    (hpath : isUnseen path = true) (scope : Markup.Scope) :
    (nodesOfContent scope content').filterMap Node.shown?
      = (nodesOfContent scope content).filterMap Node.shown? := by
  cases h with
  | here differs => rw [(nodes_of_spacing differs scope).1]
  | @inside path left right inner inner' tag within =>
    cases within with
    | inside => exact absurd hpath Bool.false_ne_true
    | here differs =>
      obtain ⟨n, hn, hname, hchildren, -⟩ := exists_node_of_element scope tag inner
      obtain ⟨n', hn', hname', hchildren', -⟩ := exists_node_of_element scope tag inner'
      have hshown : n'.shown? = n.shown? := by
        rw [Node.shown?, Node.shown?, dispatched_of_children hpath hname
          (hname'.trans hname.symm)]
        rw [hchildren, hchildren', (nodes_of_spacing differs _).1]
      rw [nodesOfContent_append, nodesOfContent_append, nodesOfContent, nodesOfContent, hn, hn']
      simp only [List.filterMap_append, List.filterMap_cons, hshown]

end Items

/-! ## Markup with layout more -/

/-- An empty element is written with two tags, so that there is a place in it. -/
def Unfolded (markup markup' : String) : Prop :=
  Nonempty (Unfolding markup.toList markup'.toList)

/-- One markup is another with layout put into it in one place, or with a place made for it. -/
def Spaced (markup markup' : String) : Prop :=
  Nonempty (Spacing markup.toList markup'.toList) ∨ Unfolded markup markup'

/-- The place is in the root element itself, or in a listing or a list there. -/
def SpacedUnseen (markup markup' : String) : Prop :=
  (∃ s : Spacing markup.toList markup'.toList,
    isUnseen s.gap.position.around.reverse.tail = true) ∨ Unfolded markup markup'

/-- Markup that is read and declares nothing. -/
def IsPlain (markup : String) : Prop :=
  (∃ root, Markup.read markup.toList = .ok root)
    ∧ ∀ t ∈ Markup.tokensOf markup.toList, t.isDoctype = false

/-- Two markups agree in what is seen of their nodes: they have the same stray name, or both
have nodes and the same is seen of these. -/
def AgreeIn {α : Type} (view : List Node → α) (markup markup' : String) : Prop :=
  (∃ stray, parse markup = .error (.stray stray) ∧ parse markup' = .error (.stray stray))
    ∨ ∃ nodes nodes', parse markup = .ok nodes ∧ parse markup' = .ok nodes'
      ∧ view nodes' = view nodes

section Agreement

variable {α : Type} {view : List Node → α} {markup markup' markup'' : String}

theorem agreeIn_self (h : IsPlain markup) : AgreeIn view markup markup := by
  obtain ⟨⟨root, hread⟩, -⟩ := h
  have hparse := parse_of_read hread
  cases hstray : strayNameIn? root.tag.declarations root.content with
  | some name =>
    rw [hstray] at hparse
    exact .inl ⟨_, hparse, hparse⟩
  | none =>
    rw [hstray] at hparse
    exact .inr ⟨_, _, hparse, hparse, rfl⟩

theorem agreeIn_trans (h : AgreeIn view markup markup') (h' : AgreeIn view markup' markup'') :
    AgreeIn view markup markup'' := by
  rcases h with ⟨stray, hfirst, hmiddle⟩ | ⟨nodes, nodes', hfirst, hmiddle, hview⟩
  · rcases h' with ⟨stray', hmiddle', hlast⟩ | ⟨_, _, hmiddle', -⟩
    · obtain rfl := ParseFault.stray.inj (Except.error.inj (hmiddle.symm.trans hmiddle'))
      exact .inl ⟨stray, hfirst, hlast⟩
    · exact absurd (hmiddle.symm.trans hmiddle') nofun
  · rcases h' with ⟨_, hmiddle', -⟩ | ⟨others, nodes'', hmiddle', hlast, hview'⟩
    · exact absurd (hmiddle.symm.trans hmiddle') nofun
    · obtain rfl := Except.ok.inj (hmiddle.symm.trans hmiddle')
      exact .inr ⟨nodes, nodes'', hfirst, hlast, hview'.trans hview⟩

/-- Markups agree that come from one another by steps each of which keeps the agreement. -/
theorem agreeIn_of_steps {step : String → String → Prop}
    (hstep : ∀ a b, IsPlain a → step a b → IsPlain b ∧ AgreeIn view a b)
    (h : Relation.ReflTransGen step markup markup') (hplain : IsPlain markup) :
    IsPlain markup' ∧ AgreeIn view markup markup' := by
  induction h with
  | refl => exact ⟨hplain, agreeIn_self hplain⟩
  | tail _ hlast ih =>
    obtain ⟨hmiddle, hagree⟩ := ih
    obtain ⟨hend, hagree'⟩ := hstep _ _ hmiddle hlast
    exact ⟨hend, agreeIn_trans hagree hagree'⟩

/-- What layout in one place leaves of the trees. -/
theorem agreeIn_of_spacing (hplain : IsPlain markup) (s : Spacing markup.toList markup'.toList)
    (hview : ∀ (path : List Markup.QName) (content content' : List Item) (scope : Markup.Scope),
      s.gap.position.around.reverse.tail = path → spacing.Within path content content' →
        view (nodesOfContent scope content') = view (nodesOfContent scope content)) :
    IsPlain markup' ∧ AgreeIn view markup markup' := by
  obtain ⟨⟨root, hread⟩, huntyped⟩ := hplain
  obtain ⟨root', path, hread', huntyped', htag, hpath, hwithin⟩ :=
    Markup.exists_read_of_spacing hread huntyped s
  refine ⟨⟨⟨root', hread'⟩, huntyped'⟩, ?_⟩
  have hparse := parse_of_read hread
  have hparse' := parse_of_read hread'
  rw [htag, (shapes_of_within hwithin _).2.2] at hparse'
  cases hstray : strayNameIn? root.tag.declarations root.content with
  | some name =>
    rw [hstray] at hparse hparse'
    exact .inl ⟨_, hparse, hparse'⟩
  | none =>
    rw [hstray] at hparse hparse'
    refine .inr ⟨_, _, hparse, hparse', ?_⟩
    rw [nodesOf, nodesOf, htag]
    exact hview path _ _ _ (by rw [hpath]; rfl) hwithin

theorem agreeIn_of_unfolded (hplain : IsPlain markup) (h : Unfolded markup markup') :
    IsPlain markup' ∧ AgreeIn view markup markup' := by
  obtain ⟨u⟩ := h
  obtain ⟨root, hread⟩ := hplain.1
  obtain ⟨hread', huntyped'⟩ := Markup.read_of_unfolding hread hplain.2 u
  refine ⟨⟨⟨root, hread'⟩, huntyped'⟩, ?_⟩
  rw [AgreeIn, (parse_of_read hread').trans (parse_of_read hread).symm]
  exact agreeIn_self hplain

end Agreement

end SymbolDocs.Discussion

namespace SymbolDocs

open Discussion (IsPlain AgreeIn Spaced SpacedUnseen discussing)
open Markup (Unfolding)

/-! ## Records with layout more -/

/-- Markups of which the same is shown make the same discussion, and give rise to the same
notices. -/
theorem discussion?_of_agreeIn {r r' : Record} {markup markup' : String}
    (hr : r.text? "docDiscussionXML" = some markup)
    (hr' : r'.text? "docDiscussionXML" = some markup')
    (h : AgreeIn (List.filterMap Discussion.Node.shown?) markup markup') :
    r'.discussion? = r.discussion? ∧ r'.discussionNotices = r.discussionNotices := by
  rw [Record.discussion?, Record.discussion?, discussed_of_text? hr, discussed_of_text? hr']
  rcases h with ⟨stray, hparse, hparse'⟩ | ⟨nodes, nodes', hparse, hparse', hshown⟩
  · rw [discussionNotices_of_parse hr fun _ => by simp [hparse],
      discussionNotices_of_parse hr' fun _ => by simp [hparse'], hparse, hparse']
    exact ⟨rfl, rfl⟩
  · rw [discussionNotices_of_parse hr fun _ => by simp [hparse],
      discussionNotices_of_parse hr' fun _ => by simp [hparse'], hparse, hparse']
    dsimp only
    rw [showNodes_congr hparse hparse' hshown]
    exact ⟨rfl, rfl⟩

/-- **Layout does not change the structure of a discussion.** Blanks may be put into markup in
any places inside the root element, at any depth, where there is nothing but layout, and also
into empty elements, written with two tags for that: the nodes have the same shape, or the same
stray name is found. If all the places are in the root element itself or in listings and lists
there, the discussion stays the same. A parser's limit of ten million bytes for a text is left
out. -/
theorem discussion?_of_spacing {markup markup' : String} (hplain : IsPlain markup) :
    (Relation.ReflTransGen Spaced markup markup' → AgreeIn Discussion.shapes markup markup')
    ∧ (Relation.ReflTransGen SpacedUnseen markup markup' →
      ∀ r r' : Record, r.text? "docDiscussionXML" = some markup →
        r'.text? "docDiscussionXML" = some markup' →
        r'.discussion? = r.discussion? ∧ r'.discussionNotices = r.discussionNotices) := by
  constructor
  · intro h
    refine (Discussion.agreeIn_of_steps ?_ h hplain).2
    rintro a b ha (⟨⟨s⟩⟩ | hunfolded)
    · refine Discussion.agreeIn_of_spacing ha s ?_
      intro path content content' scope _ hwithin
      exact (Discussion.shapes_of_within hwithin scope).1
    · exact Discussion.agreeIn_of_unfolded ha hunfolded
  · intro h r r' hr hr'
    refine discussion?_of_agreeIn hr hr' (Discussion.agreeIn_of_steps ?_ h hplain).2
    rintro a b ha (⟨s, hunseen⟩ | hunfolded)
    · refine Discussion.agreeIn_of_spacing ha s ?_
      rintro path content content' scope rfl hwithin
      exact Discussion.shown_of_within hwithin hunseen scope
    · exact Discussion.agreeIn_of_unfolded ha hunfolded

/-- An empty element two levels down. -/
def unfoldingOfEmpty : Unfolding "<r><Para><b/></Para></r>".toList
    "<r><Para><b></b></Para></r>".toList where
  standalone := false
  before := "<r><Para>".toList
  passed := (Markup.tokens "<r><Para>".toList).toOption.getD []
  tag := { name := .plain "b".toList, attributes := [] }
  folded := "<b/>".toList
  unfolded := "<b></b>".toList
  after := "</Para></r>".toList
  body_eq := by decide +kernel
  body_eq' := by decide +kernel
  tokens_before := by decide +kernel
  begins := by decide +kernel
  begins' := by decide +kernel
  scanned := by decide +kernel
  scanned' := by decide +kernel
  allowed := by decide +kernel

/-- The place inside it. -/
def gapInEmpty : Markup.Gap "<r><Para><b></b></Para></r>".toList where
  standalone := false
  before := "<r><Para><b>".toList
  after := "</b></Para></r>".toList
  passed := (Markup.tokens "<r><Para><b>".toList).toOption.getD []
  coming := [.endTag (.plain "b".toList), .endTag (.plain "Para".toList),
    .endTag (.plain "r".toList)]
  body_eq := by decide +kernel
  tokens_before := by decide +kernel
  tokens_all := by decide +kernel
  line_whole := by decide +kernel

/-- The place at the beginning of a listing. -/
def gapInListing : Markup.Gap "<r><CodeListing><l>x</l></CodeListing></r>".toList where
  standalone := false
  before := "<r><CodeListing>".toList
  after := "<l>x</l></CodeListing></r>".toList
  passed := (Markup.tokens "<r><CodeListing>".toList).toOption.getD []
  coming := ((Markup.tokens "<r><CodeListing><l>x</l></CodeListing></r>".toList).toOption.getD
    []).drop 2
  body_eq := by decide +kernel
  tokens_before := by decide +kernel
  tokens_all := by decide +kernel
  line_whole := by decide +kernel

/-- A no-break space in the empty element leaves the shape as it is, and a new line and a tab
in the listing leave the discussion as it is. -/
theorem discussion?_spacedOut :
    AgreeIn Discussion.shapes "<r><Para><b/></Para></r>"
      "<r><Para><b>\u00a0</b></Para></r>"
    ∧ (discussing "<r><CodeListing>\n\t<l>x</l></CodeListing></r>").discussion?
      = (discussing "<r><CodeListing><l>x</l></CodeListing></r>").discussion? := by
  have hplain (markup : String) (hread : (Markup.read markup.toList).toOption.isSome = true)
      (huntyped : ∀ t ∈ Markup.tokensOf markup.toList, t.isDoctype = false) :
      IsPlain markup := by
    obtain ⟨root, hsome⟩ := Option.isSome_iff_exists.mp hread
    exact ⟨⟨root, eq_ok_of_toOption hsome⟩, huntyped⟩
  have hempty : IsPlain "<r><Para><b/></Para></r>" :=
    hplain _ (by decide +kernel) (by decide +kernel)
  have hlisting : IsPlain "<r><CodeListing><l>x</l></CodeListing></r>" :=
    hplain _ (by decide +kernel) (by decide +kernel)
  have hplace : Spaced "<r><Para><b/></Para></r>" "<r><Para><b></b></Para></r>" :=
    .inr ⟨unfoldingOfEmpty⟩
  have hdeep : Spaced "<r><Para><b></b></Para></r>" "<r><Para><b>\u00a0</b></Para></r>" :=
    .inl ⟨.betweenTags gapInEmpty "\u00a0".toList (by decide +kernel) (by decide +kernel)
      (by decide +kernel) (by decide +kernel) (by decide +kernel) (by decide +kernel)
      (by decide +kernel) (by rw [Markup.Gap.Takes]; decide +kernel)⟩
  have hunseen : SpacedUnseen "<r><CodeListing><l>x</l></CodeListing></r>"
      "<r><CodeListing>\n\t<l>x</l></CodeListing></r>" :=
    .inl ⟨.betweenTags gapInListing "\n\t".toList (by decide +kernel) (by decide +kernel)
      (by decide +kernel) (by decide +kernel) (by decide +kernel) (by decide +kernel)
      (by decide +kernel) (by rw [Markup.Gap.Takes]; decide +kernel), by decide +kernel⟩
  exact ⟨(discussion?_of_spacing hempty).1 ((Relation.ReflTransGen.single hplace).tail hdeep),
    ((discussion?_of_spacing hlisting).2 (.single hunseen) _ _ rfl rfl).1⟩

end SymbolDocs
