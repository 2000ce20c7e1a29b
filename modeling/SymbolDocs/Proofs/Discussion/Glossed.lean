/-
Blocks with a comment or an instruction in them.

A gloss makes a node of its own, whose text is what the gloss says. In most places nobody
looks at it: a block that has a gloss put into it, with only layout around, is shown as
before (`dispatched_of_gains`). There are two exceptions. A listing and a list show the text
of every child as a line, and so that of a gloss (`lines_of_gains`). And the other blocks are
told by what they begin with; where a gloss comes before the element that a block begins
with, the block is shown by its text, be it a link, an image, a callout or a wrapper
(`dispatched_of_gains_ahead`).
-/
import SymbolDocs.Proofs.Markup.Inserting
import SymbolDocs.Proofs.Discussion.Described
import SymbolDocs.Proofs.Discussion.Documents
import SymbolDocs.Proofs.Symbol.Comment

set_option autoImplicit false

namespace SymbolDocs.Discussion

open Markup (Gloss Insertion Item)

/-! ## Nodes with a leaf more -/

/-- The node of a gloss. -/
def leafOf : Gloss → Node
  | .comment text => .leaf (Markup.printComment text) text
  | .instruction target data => .leaf (Markup.printInstruction target data) (data.getD [])

/-- A block, and the same block with a gloss more among its children. `bare` tells whether it
comes first, and only with `opens` does an element come next. -/
structure Node.Gains (gloss : Gloss) (bare opens : Bool) (n n' : Node) : Prop where
  name : n'.name = n.name
  text : n'.text = n.text
  children : ∃ left right, n.children = left ++ right
    ∧ n'.children = left ++ leafOf gloss :: right
    ∧ (left = [] ↔ bare = true)
    ∧ (opens = false → leadingElement? right = none)

section Gains

variable {gloss : Gloss} {bare opens : Bool} {n n' : Node}

theorem text_leafOf (gloss : Gloss) : (leafOf gloss).text = some (String.ofList gloss.body) := by
  cases gloss with
  | comment text => rfl
  | instruction target data => rfl

theorem isElement_leafOf (gloss : Gloss) : (leafOf gloss).isElement = false := by
  cases gloss with
  | comment text => rfl
  | instruction target data => rfl

/-- What a gloss says is a line more, unless it says nothing. -/
theorem lines_of_gains (h : n.Gains gloss bare opens n') :
    ∃ before after, n.lines = before ++ after
      ∧ n'.lines = before ++ (if gloss.body = [] then [] else [String.ofList gloss.body])
        ++ after := by
  obtain ⟨left, right, hchildren, hchildren', -⟩ := h.children
  refine ⟨left.filterMap fun child => child.text.filter (· ≠ ""),
    right.filterMap fun child => child.text.filter (· ≠ ""), ?_, ?_⟩
  · rw [Node.lines, hchildren, List.filterMap_append]
  · rw [Node.lines, hchildren', List.filterMap_append, List.filterMap_cons, text_leafOf,
      List.append_assoc]
    by_cases hbody : gloss.body = []
    · simp [hbody, Option.filter]
    · simp [hbody, Option.filter]

theorem lines_eq_of_gains (h : n.Gains gloss bare opens n') (hbody : gloss.body = []) :
    n'.lines = n.lines := by
  obtain ⟨before, after, hlines, hlines'⟩ := lines_of_gains h
  rw [hlines', hlines, if_pos hbody, List.append_nil]

/-- What does not begin with an element is shown by its text. -/
theorem dispatched_of_leadingElement? {key : Key} (hname : n.name = some key.name)
    (hlisting : key ≠ .codeListing) (hlist : key ≠ .listBullet)
    (hlead : leadingElement? n.children = none) : n.dispatched = n.text := by
  rw [dispatched_of_key hname hlisting hlist, firstOf_of_applies _ (flat_applies_iff.mpr hlead)]
  rfl

theorem leadingElement?_leafOf (gloss : Gloss) (rest : List Node) :
    leadingElement? (leafOf gloss :: rest) = none := by
  simp [leadingElement?, firstElement?, isElement_leafOf]

/-- A block with a gloss before the element it begins with is shown by its text. -/
theorem dispatched_of_gains_ahead (h : n.Gains gloss true opens n') {key : Key}
    (hname : n.name = some key.name) (hlisting : key ≠ .codeListing)
    (hlist : key ≠ .listBullet) : n'.dispatched = n.text := by
  obtain ⟨left, right, -, hchildren', hbare, -⟩ := h.children
  obtain rfl := hbare.mpr rfl
  have hlead : leadingElement? n'.children = none := by
    rw [hchildren']
    exact leadingElement?_leafOf gloss right
  rw [dispatched_of_leadingElement? (h.name.trans hname) hlisting hlist hlead, h.text]

/-- How a block that is neither a listing nor a list is shown depends on its name, its text
and its first child. -/
theorem dispatched_congr {key : Key} (hname : n.name = some key.name)
    (hlisting : key ≠ .codeListing) (hlist : key ≠ .listBullet) (hname' : n'.name = n.name)
    (htext : n'.text = n.text) (hhead : n'.children.head? = n.children.head?) :
    n'.dispatched = n.dispatched := by
  rw [dispatched_of_key (hname'.trans hname) hlisting hlist,
    dispatched_of_key hname hlisting hlist]
  simp [firstOf, Rule.flat, Rule.linked, Rule.pictured, Rule.aside, Rule.wrapped,
    Node.leadsWith, Node.leading?, hname', htext, hhead]

/-- Whether a gloss in a block of a key is noticed: it says something where the text of every
child is shown, or it comes before the element that decides how the block is shown. -/
def isNoticed (key : Key) (bare opens : Bool) (gloss : Gloss) : Bool :=
  if key = .codeListing ∨ key = .listBullet then !gloss.body.isEmpty else bare && opens

/-- **A gloss that is not noticed leaves a block as it is shown.** -/
theorem dispatched_of_gains (h : n.Gains gloss bare opens n') {key : Key}
    (hname : n.name = some key.name) (hunnoticed : isNoticed key bare opens gloss = false) :
    n'.dispatched = n.dispatched := by
  rw [isNoticed] at hunnoticed
  split at hunnoticed
  · -- Both of these blocks are shown by their lines alone.
    rename_i hlined
    have hbody : gloss.body = [] := by simpa using hunnoticed
    have hlines := lines_eq_of_gains h hbody
    rcases hlined with rfl | rfl
    · rw [dispatched_of_listing (h.name.trans hname), dispatched_of_listing hname]
      simp only [Rule.fence, hlines]
    · rw [dispatched_of_list (h.name.trans hname), dispatched_of_list hname]
      simp only [Rule.dashes, hlines]
  · rename_i hother
    rw [not_or] at hother
    obtain ⟨hlisting, hlist⟩ := hother
    obtain ⟨left, right, hchildren, hchildren', hbare, hnext⟩ := h.children
    cases left with
    | cons first rest =>
      refine dispatched_congr hname hlisting hlist h.name h.text ?_
      rw [hchildren, hchildren']
      rfl
    | nil =>
      -- Where the gloss comes first, no element comes next, with the gloss or without.
      rw [hbare.mp rfl, Bool.true_and] at hunnoticed
      have hlead : leadingElement? n.children = none := by
        rw [hchildren]
        exact hnext hunnoticed
      have hlead' : leadingElement? n'.children = none := by
        rw [hchildren']
        exact leadingElement?_leafOf gloss right
      rw [dispatched_of_leadingElement? hname hlisting hlist hlead,
        dispatched_of_leadingElement? (h.name.trans hname) hlisting hlist hlead', h.text]

end Gains

/-! ## Items with a gloss more -/

section Items

variable {gloss : Gloss} {bare opens : Bool} {content content' : List Item}

theorem nodesOfContent_append (scope : Markup.Scope) (as bs : List Item) :
    nodesOfContent scope (as ++ bs) = nodesOfContent scope as ++ nodesOfContent scope bs := by
  simp only [nodesOfContent_eq_flatMap, List.flatMap_append]

theorem contentText_append (as bs : List Item) :
    contentText (as ++ bs) = contentText as ++ contentText bs := by
  induction as with
  | nil => rfl
  | cons item rest ih =>
    rw [List.cons_append, contentText, contentText, ih, List.append_assoc]

theorem strayNameIn?_append (scope : Markup.Scope) (as bs : List Item) :
    strayNameIn? scope (as ++ bs) = (strayNameIn? scope as).or (strayNameIn? scope bs) := by
  induction as with
  | nil => rfl
  | cons item rest ih =>
    rw [List.cons_append, strayNameIn?, strayNameIn?, ih, Option.or_assoc]

/-- A run of layout makes no node and has no stray name. -/
theorem nodesOfContent_runItems (scope : Markup.Scope) {run : Option (List Char)}
    (h : Text.allBlank (run.getD []) = true) :
    nodesOfContent scope (Markup.runItems run) = [] := by
  cases run with
  | none => rfl
  | some text => exact (List.append_nil _).trans (if_pos h)

theorem contentText_runItems (run : Option (List Char)) :
    contentText (Markup.runItems run) = run.getD [] := by
  cases run with
  | none => rfl
  | some text => exact List.append_nil text

theorem strayNameIn?_runItems (scope : Markup.Scope) (run : Option (List Char)) :
    strayNameIn? scope (Markup.runItems run) = none := by
  cases run with
  | none => rfl
  | some text => rfl

/-- An item that is no text makes exactly one node, which is an element where the item is. -/
theorem exists_nodesOfItem (scope : Markup.Scope) {item : Item} (h : item.run? = none) :
    ∃ n, nodesOfItem scope item = [n] ∧ n.isElement = item.isElement := by
  cases item with
  | text text => exact absurd h (Option.some_ne_none text)
  | entity name => exact ⟨_, rfl, rfl⟩
  | comment text => exact ⟨_, rfl, rfl⟩
  | instruction target data => exact ⟨_, rfl, rfl⟩
  | element tag content =>
    rw [nodesOfItem]
    exact ⟨_, rfl, rfl⟩

theorem nodesOfItem_gloss (scope : Markup.Scope) (gloss : Gloss) :
    nodesOfItem scope gloss.item = [leafOf gloss] := by
  cases gloss with
  | comment text => rfl
  | instruction target data => rfl

theorem itemText_gloss (gloss : Gloss) : itemText gloss.item = [] := by
  cases gloss with
  | comment text => rfl
  | instruction target data => rfl

theorem strayName?_gloss (scope : Markup.Scope) (gloss : Gloss) :
    strayName? scope gloss.item = none := by
  cases gloss with
  | comment text => rfl
  | instruction target data => rfl

/-- A gloss has no stray name, wherever it is put. -/
theorem strayNameIn?_of_insertion {path : List Markup.QName}
    (h : Insertion gloss bare opens path content content') (scope : Markup.Scope) :
    strayNameIn? scope content' = strayNameIn? scope content := by
  induction h generalizing scope with
  | here =>
    simp only [strayNameIn?_append, strayNameIn?, strayNameIn?_runItems, strayName?_gloss,
      Option.or_none]
  | within inside ih =>
    rw [strayNameIn?_append, strayNameIn?_append, strayNameIn?, strayNameIn?, strayName?,
      strayName?, ih]

/-- The text of the element that gets a gloss stays the same. -/
theorem contentText_of_insertion (h : Insertion gloss bare opens [] content content') :
    contentText content' = contentText content := by
  cases h with
  | here layout divided =>
    simp only [contentText_append, contentText, contentText_runItems, itemText_gloss, divided,
      List.nil_append, List.append_assoc]

/-- The nodes in it stay the same, but for the one of the gloss. -/
theorem nodes_of_insertion (h : Insertion gloss bare opens [] content content')
    (scope : Markup.Scope) :
    ∃ left right, nodesOfContent scope content = left ++ right
      ∧ nodesOfContent scope content' = left ++ leafOf gloss :: right
      ∧ (left = [] ↔ bare = true) ∧ (opens = false → leadingElement? right = none) := by
  cases h with
  | @here left right run before after layout divided bare_iff last next =>
    have hparts : Text.allBlank (before.getD []) = true
        ∧ Text.allBlank (after.getD []) = true := by
      rwa [divided, Text.allBlank_append, Bool.and_eq_true] at layout
    refine ⟨nodesOfContent scope left, nodesOfContent scope right, ?_, ?_, ?_, ?_⟩
    · rw [nodesOfContent_append, nodesOfContent_append, nodesOfContent_runItems scope layout,
        List.append_nil]
    · rw [nodesOfContent_append, nodesOfContent_append, nodesOfContent_append, nodesOfContent,
        nodesOfContent_runItems scope hparts.1, nodesOfContent_runItems scope hparts.2,
        nodesOfItem_gloss, List.append_nil, List.append_nil, List.append_assoc]
      rfl
    · rw [← bare_iff]
      constructor
      · -- The last item before the gloss is no text, so it makes a node.
        intro hnone
        cases hsplit : left.getLast? with
        | none => exact List.getLast?_eq_none_iff.mp hsplit
        | some item =>
          obtain ⟨others, rfl⟩ := List.getLast?_eq_some_iff.mp hsplit
          obtain ⟨n, hn, -⟩ := exists_nodesOfItem scope (last item hsplit)
          rw [nodesOfContent_append, nodesOfContent, hn] at hnone
          simp at hnone
      · rintro rfl
        rfl
    · intro hopens
      cases right with
      | nil => rfl
      | cons item rest =>
        obtain ⟨hrun, helement⟩ := next item rfl
        obtain ⟨n, hn, hsame⟩ := exists_nodesOfItem scope hrun
        have hleaf : n.isElement = false := by
          rw [hsame, ← Bool.not_eq_true]
          intro hyes
          rw [helement hyes] at hopens
          cases hopens
        rw [nodesOfContent, hn]
        simp [leadingElement?, firstElement?, hleaf]

/-- Of the nodes in the root element, one gains a leaf. -/
theorem exists_gains_of_insertion {name : Markup.QName}
    (h : Insertion gloss bare opens [name] content content') (scope : Markup.Scope) :
    ∃ pre n n' post, nodesOfContent scope content = pre ++ n :: post
      ∧ nodesOfContent scope content' = pre ++ n' :: post
      ∧ n.name = some (String.ofList name.part) ∧ n.Gains gloss bare opens n' := by
  cases h with
  | @within _ left right inner inner' tag inside =>
    have hnode (items : List Item) : ∃ n, nodesOfItem scope (.element tag items) = [n]
        ∧ n.name = some (String.ofList tag.name.part)
        ∧ n.text = some (String.ofList (contentText items))
        ∧ n.children = nodesOfContent (tag.declarations ++ scope) items := by
      rw [nodesOfItem]
      exact ⟨_, rfl, rfl, rfl, rfl⟩
    obtain ⟨n, hn, hname, htext, hchildren⟩ := hnode inner
    obtain ⟨n', hn', hname', htext', hchildren'⟩ := hnode inner'
    refine ⟨nodesOfContent scope left, n, n', nodesOfContent scope right, ?_, ?_, hname, ?_⟩
    · rw [nodesOfContent_append, nodesOfContent, hn]
      rfl
    · rw [nodesOfContent_append, nodesOfContent, hn']
      rfl
    · refine ⟨hname'.trans hname.symm, ?_, ?_⟩
      · rw [htext', htext, contentText_of_insertion inside]
      · rw [hchildren, hchildren']
        exact nodes_of_insertion inside _

end Items

/-! ## Markup with a gloss more -/

/-- How one markup comes from another by putting a gloss into a block of a key, with nothing
but layout around it. The gloss is one that may stand in a document with namespaces, and if
it is remarked on, then among the remarks there is room for one more. -/
structure Glossing (markup markup' : String) (key : Key) where
  gap : Markup.Gap markup.toList
  gloss : Gloss
  written : List Char
  root : Markup.QName
  block : Markup.QName
  around : gap.position.around = [block, root]
  key_eq : String.ofList block.part = key.name
  layout : Text.allBlank gap.text = true
  completed : Markup.IsCompletedFrom written gloss.token
  proper : gloss.isProper = true
  few : gloss.isRemarked = true → Markup.remarksOn markup.toList < Markup.Notes.limit
  takes : gap.Takes written markup'.toList

/-- Whether the gloss is noticed when the discussion is shown. -/
def Glossing.isNoticed {markup markup' : String} {key : Key} (g : Glossing markup markup' key) :
    Bool :=
  Discussion.isNoticed key g.gap.position.bare g.gap.prospect.opens g.gloss

/-- What becomes of markup that is read. -/
theorem parse_of_read {markup : String} {root : Markup.Element}
    (h : Markup.read markup.toList = .ok root) :
    parse markup = match strayNameIn? root.tag.declarations root.content with
      | some name => .error (.stray { name := String.ofList name })
      | none => .ok (nodesOf root) := by
  rw [parse, h]
  rfl

section Glossing

variable {markup markup' : String} {key : Key} {root : Markup.Element}

/-- A gloss that is put into a block is one leaf more in its node, unless there are no nodes
for want of proper names. -/
theorem parse_of_glossing (hread : Markup.read markup.toList = .ok root)
    (huntyped : ∀ t ∈ Markup.tokensOf markup.toList, t.isDoctype = false)
    (g : Glossing markup markup' key) :
    (∃ stray, parse markup = .error (.stray stray) ∧ parse markup' = .error (.stray stray))
    ∨ ∃ pre n n' post, parse markup = .ok (pre ++ n :: post)
      ∧ parse markup' = .ok (pre ++ n' :: post) ∧ n.name = some key.name
      ∧ n.Gains g.gloss g.gap.position.bare g.gap.prospect.opens n' := by
  have hinside : g.gap.position.around ≠ [] := by
    rw [g.around]
    exact List.cons_ne_nil _ _
  obtain ⟨root', path, hread', htag, hpath, hinsertion⟩ :=
    Markup.exists_read_of_takes hread huntyped g.completed g.proper g.few g.takes hinside g.layout
  rw [g.around] at hpath
  obtain rfl : [g.block] = path := (List.cons.inj hpath).2
  rw [parse_of_read hread, parse_of_read hread', htag,
    strayNameIn?_of_insertion hinsertion root.tag.declarations]
  cases strayNameIn? root.tag.declarations root.content with
  | some name => exact .inl ⟨_, rfl, rfl⟩
  | none =>
    obtain ⟨pre, n, n', post, hnodes, hnodes', hname, hgains⟩ :=
      exists_gains_of_insertion hinsertion root.tag.declarations
    refine .inr ⟨pre, n, n', post, ?_, ?_, ?_, hgains⟩
    · exact congrArg Except.ok hnodes
    · rw [nodesOf, htag]
      exact congrArg Except.ok hnodes'
    · rw [hname, g.key_eq]

end Glossing

end SymbolDocs.Discussion

namespace SymbolDocs

open Discussion (discussing)

/-! ## Records with a gloss more -/

/-- Nodes that are shown in the same way make the same discussion. -/
theorem showNodes_congr {markup markup' : String} {nodes nodes' : List Discussion.Node}
    (h : Discussion.parse markup = .ok nodes) (h' : Discussion.parse markup' = .ok nodes')
    (hshown : nodes'.filterMap Discussion.Node.shown? = nodes.filterMap Discussion.Node.shown?) :
    showNodes nodes' = showNodes nodes := by
  rw [showNodes, showNodes,
    Discussion.fragments_of_render fun _ hn => Discussion.render_of_parse h hn,
    Discussion.fragments_of_render fun _ hn => Discussion.render_of_parse h' hn, hshown]

/-- **A comment or an instruction in a block leaves the discussion as it is shown**, unless it
is noticed: in a listing or a list if it says something, in any other block if it stands
before the element that the block begins with. A parser's limit of ten million bytes for a
comment or a text is left out. -/
theorem discussion?_of_glossing {r r' : Record} {markup markup' : String} {root : Markup.Element}
    {key : Discussion.Key} (hr : r.text? "docDiscussionXML" = some markup)
    (hr' : r'.text? "docDiscussionXML" = some markup')
    (hread : Markup.read markup.toList = .ok root)
    (huntyped : ∀ t ∈ Markup.tokensOf markup.toList, t.isDoctype = false)
    (g : Discussion.Glossing markup markup' key) (hunnoticed : g.isNoticed = false) :
    r'.discussion? = r.discussion? ∧ r'.discussionNotices = r.discussionNotices := by
  rw [Record.discussion?, Record.discussion?, discussed_of_text? hr, discussed_of_text? hr']
  rcases Discussion.parse_of_glossing hread huntyped g with
    ⟨stray, hparse, hparse'⟩ | ⟨pre, n, n', post, hparse, hparse', hname, hgains⟩
  · rw [discussionNotices_of_parse hr fun _ => by simp [hparse],
      discussionNotices_of_parse hr' fun _ => by simp [hparse'], hparse, hparse']
    exact ⟨rfl, rfl⟩
  · rw [discussionNotices_of_parse hr fun _ => by simp [hparse],
      discussionNotices_of_parse hr' fun _ => by simp [hparse']]
    have hshown : n'.shown? = n.shown? := by
      rw [Discussion.Node.shown?, Discussion.Node.shown?,
        Discussion.dispatched_of_gains hgains hname hunnoticed]
    have hall : (pre ++ n' :: post).filterMap Discussion.Node.shown?
        = (pre ++ n :: post).filterMap Discussion.Node.shown? := by
      rw [List.filterMap_append, List.filterMap_append, List.filterMap_cons,
        List.filterMap_cons, hshown]
    rw [hparse, hparse']
    dsimp only
    rw [showNodes_congr hparse hparse' hall]
    exact ⟨rfl, rfl⟩

/-! ### A gloss after a link, and glosses that are noticed -/

/-- The place after the link that a paragraph begins with. -/
def gapAfterLink : Markup.Gap "<r><Para><Link href='u'>t</Link>\n</Para></r>".toList where
  standalone := false
  before := "<r><Para><Link href='u'>t</Link>\n".toList
  after := "</Para></r>".toList
  passed := (Markup.tokens "<r><Para><Link href='u'>t</Link>\n".toList).toOption.getD []
  coming := [.endTag (.plain "Para".toList), .endTag (.plain "r".toList)]
  body_eq := by decide +kernel
  tokens_before := by decide +kernel
  tokens_all := by decide +kernel
  line_whole := by decide +kernel

def glossAfterLink : Discussion.Glossing "<r><Para><Link href='u'>t</Link>\n</Para></r>"
    "<r><Para><Link href='u'>t</Link>\n<!--c--></Para></r>" .paragraph where
  gap := gapAfterLink
  gloss := .comment "c".toList
  written := "<!--c-->".toList
  root := .plain "r".toList
  block := .plain "Para".toList
  around := by decide +kernel
  key_eq := by decide +kernel
  layout := by decide +kernel
  completed := ⟨by decide +kernel, fun _ => rfl⟩
  proper := rfl
  few := nofun
  takes := by
    rw [Markup.Gap.Takes]
    decide +kernel

/-- A comment after the link is not noticed. -/
theorem discussion?_glossAfterLink :
    (∃ root, Markup.read "<r><Para><Link href='u'>t</Link>\n</Para></r>".toList = .ok root)
    ∧ (∀ t ∈ Markup.tokensOf "<r><Para><Link href='u'>t</Link>\n</Para></r>".toList,
      t.isDoctype = false)
    ∧ glossAfterLink.isNoticed = false
    ∧ (discussing "<r><Para><Link href='u'>t</Link>\n<!--c--></Para></r>").discussion?
      = .ok (some "[t\n](u)")
    ∧ (discussing "<r><Para><Link href='u'>t</Link>\n<!--c--></Para></r>").discussion?
      = (discussing "<r><Para><Link href='u'>t</Link>\n</Para></r>").discussion? := by
  have huntyped : ∀ t ∈ Markup.tokensOf "<r><Para><Link href='u'>t</Link>\n</Para></r>".toList,
      t.isDoctype = false := by
    decide +kernel
  have hunnoticed : glossAfterLink.isNoticed = false := by decide +kernel
  have hread : (Markup.read
      "<r><Para><Link href='u'>t</Link>\n</Para></r>".toList).toOption.isSome = true := by
    decide +kernel
  obtain ⟨root, hsome⟩ := Option.isSome_iff_exists.mp hread
  have hroot := eq_ok_of_toOption hsome
  have hsame : (discussing "<r><Para><Link href='u'>t</Link>\n<!--c--></Para></r>").discussion?
      = (discussing "<r><Para><Link href='u'>t</Link>\n</Para></r>").discussion? :=
    (discussion?_of_glossing rfl rfl hroot huntyped glossAfterLink hunnoticed).1
  exact ⟨⟨root, hroot⟩, huntyped, hunnoticed, by decide +kernel, hsame⟩

/-- The place before the link. -/
def gapBeforeLink : Markup.Gap "<r><Para><Link href='u'>t</Link></Para></r>".toList where
  standalone := false
  before := "<r><Para>".toList
  after := "<Link href='u'>t</Link></Para></r>".toList
  passed := [.startTag { name := .plain "r".toList, attributes := [] },
    .startTag { name := .plain "Para".toList, attributes := [] }]
  coming := ((Markup.tokens "<r><Para><Link href='u'>t</Link></Para></r>".toList).toOption.getD
    []).drop 2
  body_eq := by decide +kernel
  tokens_before := by decide +kernel
  tokens_all := by decide +kernel
  line_whole := by decide +kernel

def glossBeforeLink : Discussion.Glossing "<r><Para><Link href='u'>t</Link></Para></r>"
    "<r><Para><!--c--><Link href='u'>t</Link></Para></r>" .paragraph where
  gap := gapBeforeLink
  gloss := .comment "c".toList
  written := "<!--c-->".toList
  root := .plain "r".toList
  block := .plain "Para".toList
  around := by decide +kernel
  key_eq := by decide +kernel
  layout := by decide +kernel
  completed := ⟨by decide +kernel, fun _ => rfl⟩
  proper := rfl
  few := nofun
  takes := by
    rw [Markup.Gap.Takes]
    decide +kernel

/-- A comment before the link is noticed, and the link is no longer shown as one. A comment
in a listing is a line of code, an instruction in a list is a bullet, and a callout with a
comment before its paragraph is shown in the running text. -/
theorem discussion?_glossBeforeLink :
    glossBeforeLink.isNoticed = true
    ∧ (discussing "<r><Para><Link href='u'>t</Link></Para></r>").discussion?
      = .ok (some "[t](u)")
    ∧ (discussing "<r><Para><!--c--><Link href='u'>t</Link></Para></r>").discussion?
      = .ok (some "t")
    ∧ (discussing "<r><CodeListing></CodeListing></r>").discussion?
      = .ok (some "```\n\n```")
    ∧ (discussing "<r><CodeListing><!--c--></CodeListing></r>").discussion?
      = .ok (some "```\nc\n```")
    ∧ (discussing "<r><List-Bullet></List-Bullet></r>").discussion? = .ok none
    ∧ (discussing "<r><List-Bullet><?p c?></List-Bullet></r>").discussion?
      = .ok (some "- c")
    ∧ (discussing "<r><Note><Para>x</Para></Note></r>").discussion? = .ok none
    ∧ (discussing "<r><Note><!--c--><Para>x</Para></Note></r>").discussion?
      = .ok (some "x") := by
  decide +kernel

end SymbolDocs
