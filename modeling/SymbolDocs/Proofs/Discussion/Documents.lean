/-
Documents made of blocks.

The discussion of a record with a document of blocks is what the blocks stand for, one
after the other: nothing is refused, blank texts are not lost, and what was hidden in
writing comes back.

The markup of a block is read into its item. From there the way leads to the node that
the item makes, and from the node to its fragment; each block goes this way on its own.
Blank text is where the two part: it makes no node, but it still counts as text of the
element around it.
-/
import SymbolDocs.Notice
import SymbolDocs.Proofs.Discussion.Blocks
import SymbolDocs.Proofs.Discussion.Dispatch

set_option autoImplicit false

namespace SymbolDocs.Discussion

open Markup (Escaping)

/-! ## Nodes -/

/-- The node of an element that stands in no scope. -/
def nodeOf (tag : Markup.Tag) (content : List Markup.Item) : Node :=
  let name := some (String.ofList tag.name.part)
  let children := nodesOfContent [] content
  let text := some (String.ofList (contentText content))
  { name := name
    description := String.ofList ((Markup.Item.element tag content).printAlone [])
    text := text
    isElement := true
    attributes := expandedAttributes tag.attributes
    children := children
    kind := classify name children text }

/-- Some items make some nodes, and none of their names is stray. -/
structure Makes (items : List Markup.Item) (nodes : List Node) : Prop where
  nodes_eq : nodesOfContent [] items = nodes
  no_stray : strayNameIn? [] items = none

theorem makes_nil : Makes [] [] :=
  ⟨rfl, rfl⟩

theorem makes_cons {item : Markup.Item} {rest : List Markup.Item} {nodes others : List Node}
    (hitem : Makes [item] nodes) (hrest : Makes rest others) :
    Makes (item :: rest) (nodes ++ others) := by
  obtain ⟨hnodes, hstray⟩ := hitem
  obtain ⟨hothers, hnone⟩ := hrest
  rw [nodesOfContent, nodesOfContent, List.append_nil] at hnodes
  rw [strayNameIn?, strayNameIn?, Option.or_none] at hstray
  constructor
  · rw [nodesOfContent, hnodes, hothers]
  · rw [strayNameIn?, hstray, hnone]
    rfl

theorem makes_map {α : Type} {item : α → Markup.Item} {node : α → Node} (as : List α)
    (h : ∀ a ∈ as, Makes [item a] [node a]) : Makes (as.map item) (as.map node) := by
  induction as with
  | nil => exact makes_nil
  | cons a rest ih =>
    exact makes_cons (h a List.mem_cons_self) (ih fun b hb => h b (List.mem_cons_of_mem _ hb))

/-- A simple name is no stray one. -/
theorem strayPart?_of_isPlain {tag : Markup.Tag} (h : tag.IsPlain) :
    strayPart? [] tag.name = none := by
  have hbinds : Markup.Scope.binds [] tag.name = true := by
    rw [Markup.Scope.binds, h.qualifier]
    rfl
  have hlocal : localOfExpanded ((Markup.Scope.bound? [] tag.name.qualifier).getD [])
      tag.name.part = tag.name.part := by
    rw [h.qualifier]
    rfl
  have hproper : tag.name.isProper = true := by
    rw [Markup.QName.eq_plain h.qualifier]
    exact Markup.isProper_plain h.simple
  rw [strayPart?, hbinds]
  simp [hlocal, hproper]

/-- An element with a simple name makes its node if nothing in it is stray. -/
theorem makes_element {tag : Markup.Tag} (h : tag.IsPlain) {content : List Markup.Item}
    {nodes : List Node} (hcontent : Makes content nodes) :
    Makes [.element tag content] [nodeOf tag content] := by
  constructor
  · rw [nodesOfContent, nodesOfItem, nodesOfContent, h.declarations]
    rfl
  · rw [strayNameIn?, strayName?, h.declarations, strayNameIn?]
    simp only [List.append_nil, strayPart?_of_isPlain h, hcontent.no_stray]
    rfl

namespace Phrase

variable (phrase : Phrase)

/-- The content of a text has that text, even where it makes no node. -/
theorem contentText_content : contentText phrase.content = phrase.text.toList := by
  rw [content, Markup.settled, Markup.settled]
  cases htext : phrase.text.toList with
  | nil => rfl
  | cons c rest => simp [Markup.joinText, contentText, itemText]

theorem makes_content : ∃ nodes, Makes phrase.content nodes ∧ leadingElement? nodes = none := by
  rw [content, Markup.settled, Markup.settled]
  cases htext : phrase.text.toList with
  | nil => exact ⟨[], makes_nil, rfl⟩
  | cons c rest =>
    -- A blank text makes no node, any other a leaf; neither is an element.
    refine ⟨_, ⟨rfl, rfl⟩, ?_⟩
    change leadingElement? (nodesOfContent [] [.text (c :: rest)]) = none
    rw [nodesOfContent, nodesOfContent, nodesOfItem]
    split
    · rfl
    · rfl

end Phrase

theorem name_nodeOf (name : String) (attributes : List Markup.Attribute)
    (content : List Markup.Item) : (nodeOf (tagOf name attributes) content).name = some name := by
  change some (String.ofList name.toList) = some name
  rw [String.ofList_toList]

theorem expandedAttribute_attributeOf (name : String) (value : Phrase) :
    expandedAttribute (attributeOf name value) = (name, value.text) := by
  change (String.ofList name.toList, String.ofList value.text.toList) = (name, value.text)
  rw [String.ofList_toList, String.ofList_toList]

/-- The node of an element that holds a text has that text. -/
theorem text_nodeOf_phrase (tag : Markup.Tag) (phrase : Phrase) :
    (nodeOf tag phrase.content).text = some phrase.text := by
  rw [nodeOf, phrase.contentText_content, String.ofList_toList]

/-- The node of an element around another one has the text of that one. -/
theorem text_nodeOf_element (outer tag : Markup.Tag) (content : List Markup.Item) :
    (nodeOf outer [.element tag content]).text = (nodeOf tag content).text := by
  simp [nodeOf, contentText, itemText]

/-- The texts of children that are told by what they were made of. -/
theorem lines_of_children {n : Node} {α : Type} {node : α → Node} {phrase : α → Phrase}
    {as : List α} (hchildren : n.children = as.map node)
    (htext : ∀ a ∈ as, (node a).text = some (phrase a).text) :
    n.lines = written (as.map phrase) := by
  rw [Node.lines, written, hchildren]
  clear hchildren
  -- Both sides leave the same texts out, one after the other.
  induction as with
  | nil => rfl
  | cons a rest ih =>
    have hrest := ih fun b hb => htext b (List.mem_cons_of_mem _ hb)
    rw [List.map_cons, List.filterMap_cons, htext a List.mem_cons_self, hrest]
    by_cases hempty : (phrase a).text = ""
    · simp [hempty, Option.filter]
    · simp [hempty, Option.filter]

/-! ## Fragments -/

namespace Block

/-- The node that a block makes. -/
def node (block : Block) : Node :=
  nodeOf (tagOf block.key.name []) block.content

/-- The lines of a listing make a node each. -/
theorem makes_lines (lines : List Line) :
    Makes (listing lines).content
      (lines.map fun line => nodeOf (tagOf line.tag.name []) line.phrase.content) := by
  refine makes_map lines fun line _ => ?_
  obtain ⟨nodes, hnodes, -⟩ := line.phrase.makes_content
  exact makes_element (isPlain_bare line.tag.simple) hnodes

/-- A text between the tags of a paragraph makes one node. -/
theorem makes_inner (phrase : Phrase) :
    Makes [.element (tagOf "Para" []) phrase.content]
      [nodeOf (tagOf "Para" []) phrase.content] := by
  obtain ⟨nodes, hnodes, -⟩ := phrase.makes_content
  exact makes_element (isPlain_bare (by decide)) hnodes

/-- The items of a list make a node each. -/
theorem makes_bullets (phrases : List Phrase) :
    Makes (bullets phrases).content
      (phrases.map fun phrase =>
        nodeOf (tagOf "Item" []) [.element (tagOf "Para" []) phrase.content]) :=
  makes_map phrases fun phrase _ => makes_element (isPlain_bare (by decide)) (makes_inner phrase)

theorem makes_link (phrase target : Phrase) :
    Makes (link phrase target).content
      [nodeOf (tagOf "Link" [attributeOf "href" target]) phrase.content] := by
  obtain ⟨nodes, hnodes, -⟩ := phrase.makes_content
  exact makes_element (isPlain_linkTag target) hnodes

theorem makes_image (source caption : Phrase) :
    Makes (image source caption).content
      [nodeOf (tagOf "img" [attributeOf "src" source, attributeOf "alt" caption]) []] :=
  makes_element (isPlain_imageTag source caption) makes_nil

/-- The content of a block makes nodes, none of them stray. -/
theorem makes_content (block : Block) : ∃ nodes, Makes block.content nodes := by
  cases block with
  | paragraph phrase =>
    obtain ⟨nodes, hnodes, -⟩ := phrase.makes_content
    exact ⟨nodes, hnodes⟩
  | link phrase target => exact ⟨_, makes_link phrase target⟩
  | image source caption => exact ⟨_, makes_image source caption⟩
  | listing lines => exact ⟨_, makes_lines lines⟩
  | bullets phrases => exact ⟨_, makes_bullets phrases⟩
  | callout key h phrase => exact ⟨_, makes_inner phrase⟩

theorem makes_item (block : Block) : Makes [block.item] [block.node] := by
  obtain ⟨nodes, hnodes⟩ := block.makes_content
  exact makes_element (isPlain_bare (isSimpleName_key block.key)) hnodes

theorem children_node {block : Block} {nodes : List Node} (h : Makes block.content nodes) :
    block.node.children = nodes :=
  h.nodes_eq

theorem name_node (block : Block) : block.node.name = some block.key.name :=
  name_nodeOf _ _ _

section Leading

variable {block : Block} {name : String} {attributes : List Markup.Attribute}
variable {content : List Markup.Item}

/-- The only child of a block leads it if it is an element with a name. -/
theorem leading_node (h : block.node.children = [nodeOf (tagOf name attributes) content])
    (hname : name ≠ "") :
    leadingElement? block.node.children = some (nodeOf (tagOf name attributes) content) := by
  rw [leadingElement?_eq_some_iff, h, name_nodeOf]
  exact ⟨rfl, rfl, hname⟩

theorem leading?_node (h : block.node.children = [nodeOf (tagOf name attributes) content])
    (label : String) :
    block.node.leading? label = (expandedAttributes attributes).lookup label := by
  rw [Node.leading?, h]
  rfl

theorem leadsWith_node (h : block.node.children = [nodeOf (tagOf name attributes) content])
    (other label : String) :
    block.node.leadsWith other label
      = (decide (name = other) && ((expandedAttributes attributes).lookup label).isSome) := by
  rw [Node.leadsWith, h, List.head?_cons, Option.any_some, name_nodeOf]
  simp only [Option.some.injEq]
  rfl

/-- What begins with another element is no link. -/
theorem linked_not_applies (h : block.node.children = [nodeOf (tagOf name attributes) content])
    (hname : name ≠ "Link") : Rule.linked.applies block.node = false := by
  have hleads : block.node.leadsWith "Link" "href" = false := by
    rw [leadsWith_node h, decide_eq_false hname, Bool.false_and]
  simp [Rule.linked, hleads]

/-- What begins with another element is no image. -/
theorem pictured_not_applies
    (h : block.node.children = [nodeOf (tagOf name attributes) content])
    (hname : name ≠ "img") : Rule.pictured.applies block.node = false := by
  have hleads : block.node.leadsWith "img" "src" = false := by
    rw [leadsWith_node h, decide_eq_false hname, Bool.false_and]
  simp [Rule.pictured, hleads]

end Leading

/-- What is shown of a paragraph is its text. -/
theorem dispatched_paragraph (phrase : Phrase) :
    (paragraph phrase).node.dispatched = some phrase.text := by
  obtain ⟨nodes, hnodes, hlead⟩ := phrase.makes_content
  have hchildren : (paragraph phrase).node.children = nodes := children_node hnodes
  have hflat : Rule.flat.applies (paragraph phrase).node = true := by
    rw [flat_applies_iff, hchildren, hlead]
  have hname : (paragraph phrase).node.name = some Key.paragraph.name := name_node _
  rw [dispatched_of_key hname (by decide) (by decide), firstOf_of_applies _ hflat]
  exact text_nodeOf_phrase (tagOf "Para" []) phrase

theorem dispatched_link (phrase target : Phrase) :
    (link phrase target).node.dispatched
      = some ("[" ++ phrase.text ++ "](" ++ target.text ++ ")") := by
  have hchildren := children_node (makes_link phrase target)
  have hattributes : expandedAttributes [attributeOf "href" target] = [("href", target.text)] := by
    simp [expandedAttributes, expandedAttribute_attributeOf]
  have htext : (link phrase target).node.text = some phrase.text :=
    (text_nodeOf_element _ _ _).trans (text_nodeOf_phrase _ phrase)
  have htarget : (link phrase target).node.leading? "href" = some target.text := by
    rw [leading?_node hchildren]
    simp [hattributes]
  have happlies : Rule.linked.applies (link phrase target).node = true := by
    have hleads : (link phrase target).node.leadsWith "Link" "href" = true := by
      rw [leadsWith_node hchildren]
      simp [hattributes]
    simp [Rule.linked, htext, hleads]
  have hlead := leading_node hchildren (by decide)
  have hname : (link phrase target).node.name = some Key.paragraph.name := name_node _
  rw [dispatched_of_leading hname (by decide) (by decide) hlead,
    firstOf_of_applies _ happlies]
  simp [Rule.linked, htext, htarget]

theorem dispatched_image (source caption : Phrase) :
    (image source caption).node.dispatched
      = some ("![" ++ caption.text ++ "](" ++ source.text ++ ")") := by
  have hchildren := children_node (makes_image source caption)
  have hattributes :
      expandedAttributes [attributeOf "src" source, attributeOf "alt" caption]
        = [("src", source.text), ("alt", caption.text)] := by
    simp [expandedAttributes, expandedAttribute_attributeOf]
  have hsource : (image source caption).node.leading? "src" = some source.text := by
    rw [leading?_node hchildren]
    simp [hattributes]
  have hcaption : (image source caption).node.leading? "alt" = some caption.text := by
    rw [leading?_node hchildren]
    simp [hattributes, List.lookup_cons]
  -- The rule for links comes before the one for images.
  have hnot : Rule.linked.applies (image source caption).node = false :=
    linked_not_applies hchildren (by decide)
  have happlies : Rule.pictured.applies (image source caption).node = true := by
    have hleads : (image source caption).node.leadsWith "img" "src" = true := by
      rw [leadsWith_node hchildren]
      simp [hattributes]
    simp [Rule.pictured, hleads]
  have hlead := leading_node hchildren (by decide)
  have hname : (image source caption).node.name = some Key.paragraph.name := name_node _
  rw [dispatched_of_leading hname (by decide) (by decide) hlead,
    firstOf_of_not_applies _ hnot, firstOf_of_applies _ happlies]
  simp [Rule.pictured, hsource, hcaption]

theorem dispatched_listing (lines : List Line) :
    (listing lines).node.dispatched
      = some ("```\n" ++ String.intercalate "\n" (written (lines.map (·.phrase))) ++ "\n```") := by
  have hlines : (listing lines).node.lines = written (lines.map (·.phrase)) :=
    lines_of_children (children_node (makes_lines lines)) fun line _ =>
      text_nodeOf_phrase _ line.phrase
  rw [dispatched_of_listing (name_node _)]
  simp only [Rule.fence, hlines]

theorem dispatched_bullets (phrases : List Phrase) :
    (bullets phrases).node.dispatched
      = if written phrases = [] then none
        else some (String.intercalate "\n" ((written phrases).map fun text => "- " ++ text)) := by
  have hlines : (bullets phrases).node.lines = written (phrases.map id) :=
    lines_of_children (children_node (makes_bullets phrases)) fun phrase _ =>
      (text_nodeOf_element _ _ _).trans (text_nodeOf_phrase _ phrase)
  rw [dispatched_of_list (name_node _)]
  simp only [Rule.dashes, hlines, List.map_id, List.isEmpty_iff]

/-- A callout around a paragraph begins with neither a link nor an image. -/
theorem dispatched_callout (key : Key) (h : key ∈ Key.callouts) (phrase : Phrase) :
    (callout key h phrase).node.dispatched = none := by
  have hchildren : (callout key h phrase).node.children = _ :=
    children_node (makes_inner phrase)
  have hlinked : Rule.linked.applies (callout key h phrase).node = false :=
    linked_not_applies hchildren (by decide)
  have hpictured : Rule.pictured.applies (callout key h phrase).node = false :=
    pictured_not_applies hchildren (by decide)
  have hname : (callout key h phrase).node.name = some key.name := name_node _
  have haside : Rule.aside.applies (callout key h phrase).node = true := by
    rw [aside_applies_iff hname]
    exact Key.isCallout_iff.mpr h
  have hlisting : key ≠ .codeListing := by
    rintro rfl
    exact absurd h (by decide)
  have hlist : key ≠ .listBullet := by
    rintro rfl
    exact absurd h (by decide)
  have hlead := leading_node hchildren (by decide)
  rw [dispatched_of_leading hname hlisting hlist hlead,
    firstOf_of_not_applies _ hlinked, firstOf_of_not_applies _ hpictured,
    firstOf_of_applies _ haside]
  rfl

/-- Only an empty text is left out. -/
theorem filter_of_ne {text : String} (h : text ≠ "") :
    (some text).filter (fun t => !t.isEmpty) = some text := by
  simp [Option.filter, h]

theorem append_ne {text : String} (h : text ≠ "") (more : String) : text ++ more ≠ "" := by
  intro hempty
  exact h (String.append_eq_empty_iff.mp hempty).1

/-- Bullets are never empty. -/
theorem intercalate_bullets_ne {texts : List String} (h : texts ≠ []) :
    String.intercalate "\n" (texts.map fun text => "- " ++ text) ≠ "" := by
  obtain ⟨first, rest, rfl⟩ := List.exists_cons_of_ne_nil h
  rw [List.map_cons, String.intercalate_cons_append]
  exact append_ne (by decide) _

/-- The node of a block has the fragment that the block stands for. -/
theorem fragment?_node (block : Block) : block.node.fragment? = .ok block.fragment? := by
  -- The node is classified as it is made, so it is shown by its shape.
  have hrender : block.node.render = .ok block.node.dispatched := render_of_kind rfl
  rw [Node.fragment?, hrender]
  change Except.ok (block.node.dispatched.filter fun t => !t.isEmpty) = _
  congr 1
  cases block with
  | paragraph phrase =>
    rw [dispatched_paragraph, fragment?]
    split
    · rename_i hempty
      rw [hempty]
      rfl
    · rename_i hne
      exact filter_of_ne hne
  | link phrase target =>
    rw [dispatched_link, fragment?]
    exact filter_of_ne (append_ne (append_ne (append_ne (append_ne (by decide) _) _) _) _)
  | image source caption =>
    rw [dispatched_image, fragment?]
    exact filter_of_ne (append_ne (append_ne (append_ne (append_ne (by decide) _) _) _) _)
  | listing lines =>
    rw [dispatched_listing, fragment?]
    exact filter_of_ne (append_ne (append_ne (by decide) _) _)
  | bullets phrases =>
    rw [dispatched_bullets, fragment?]
    split
    · rfl
    · rename_i hne
      exact filter_of_ne (intercalate_bullets_ne hne)
  | callout key h phrase =>
    rw [dispatched_callout]
    rfl

end Block

/-! ## Documents -/

/-- A written document is read into the nodes of its blocks. -/
theorem parse_documentOf (e : Escaping) (root : TagName) (blocks : List Block) :
    parse (documentOf e root blocks) = .ok (blocks.map Block.node) := by
  have hreads := reads_join blocks fun block _ => reads_markup e block
  have hsettled : Markup.settled (blocks.map Block.item) = blocks.map Block.item := by
    refine Markup.settled_of_no_runs ?_
    intro item hitem
    obtain ⟨block, -, rfl⟩ := List.mem_map.mp hitem
    rfl
  have hread : Markup.read (documentOf e root blocks).toList
      = .ok { tag := tagOf root.name [], content := blocks.map Block.item } := by
    rw [documentOf, toList_between e, ← hsettled]
    exact Markup.read_enclosed e (isPlain_bare root.simple) (by decide) hreads
  have hmakes := makes_map blocks fun block _ => block.makes_item
  exact parse_eq_ok_iff.mpr ⟨_, hread, hmakes.no_stray, hmakes.nodes_eq.symm⟩

/-- The fragments of the nodes of blocks are what the blocks stand for. -/
theorem fragments_nodes (blocks : List Block) :
    fragments (blocks.map Block.node) = .ok (blocks.filterMap Block.fragment?) := by
  induction blocks with
  | nil => rfl
  | cons block rest ih =>
    rw [List.map_cons, fragments, block.fragment?_node, ih, List.filterMap_cons]
    cases block.fragment? with
    | none => rfl
    | some text => rfl

/-- **Showing a written document.** Whatever its blocks are and however they are
escaped, the discussion of a record with a document of blocks is what the blocks stand
for, in their order and with a blank line between any two, and nothing is told about its
markup. There is no discussion if no block stands for anything. A parser's limit of ten million
bytes for a text or a value is left out. -/
theorem discussion?_documentOf (e : Escaping) (root : TagName) (blocks : List Block)
    (r : Record) (h : r.string? .discussionMarkup = some (documentOf e root blocks)) :
    r.discussion? = .ok
        (if blocks.filterMap Block.fragment? = [] then none
          else some (String.intercalate "\n\n" (blocks.filterMap Block.fragment?)))
      ∧ r.discussionNotices = [] := by
  have hdiscussed : r.discussed = .ok (showNodes (blocks.map Block.node)) := by
    rw [Record.discussed, h]
    simp only [parse_documentOf]
  rw [Record.discussion?, Record.discussionNotices, hdiscussed, showNodes, fragments_nodes]
  cases blocks.filterMap Block.fragment? with
  | nil => exact ⟨rfl, rfl⟩
  | cons first rest => exact ⟨rfl, rfl⟩

/-- One block of each kind, and empty and blank texts among them. -/
def assortedBlocks : List Block :=
  [.paragraph { text := " \r\n", allowed := rfl },
   .paragraph { text := "", allowed := rfl },
   .link { text := "a & \"b\"", allowed := rfl }
     { text := "<u>\t'v'", allowed := rfl },
   .image { text := "s\n", allowed := rfl } { text := "", allowed := rfl },
   .listing [{ tag := { name := "Swift", simple := rfl }
               phrase := { text := "x ]]> y", allowed := rfl } },
             { tag := { name := "Link", simple := rfl }
               phrase := { text := "", allowed := rfl } }],
   .bullets [{ text := "", allowed := rfl }],
   .bullets [{ text := "&lt;", allowed := rfl }, { text := "", allowed := rfl }],
   .callout .remark (Key.isCallout_iff.mp rfl) { text := "n", allowed := rfl }]

/-- A document with these blocks. -/
def assortedDocument : String :=
  documentOf .least { name := "d", simple := rfl } assortedBlocks

/-- A record with a document as its discussion. -/
def discussing (document : String) : Record :=
  { members := [("docDiscussionXML", .string document)] }

/-- Blank text stays, empty text goes, and nothing of what was hidden is lost. -/
theorem discussion?_assortedBlocks :
    (discussing assortedDocument).string? .discussionMarkup = some assortedDocument
      ∧ (discussing assortedDocument).discussion?
        = .ok (some (" \r\n\n\n[a & \"b\"](<u>\t'v')\n\n![](s\n)\n\n"
          ++ "```\nx ]]> y\n```\n\n- &lt;"))
      ∧ (discussing assortedDocument).discussionNotices = [] := by
  have hmarkup : (discussing assortedDocument).string? .discussionMarkup
      = some assortedDocument := rfl
  obtain ⟨hshown, hnotices⟩ := discussion?_documentOf .least { name := "d", simple := rfl }
    assortedBlocks (discussing assortedDocument) hmarkup
  refine ⟨hmarkup, ?_, hnotices⟩
  rw [hshown]
  decide +kernel

end SymbolDocs.Discussion
