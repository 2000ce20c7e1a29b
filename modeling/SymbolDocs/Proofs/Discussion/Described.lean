/-
Descriptions as markup.

The description of an element is its written form, and that form is read into the element
again: put between the tags of any root element, it has one node, which is the element's
own with everything in it (`parse_description`). This is so in documents without qualified
names, where no declaration from around the element has to go into its description.

What keeps a description from being read again is an element that holds an empty section
and nothing else. It is written as two tags with nothing between them, and an element read
from these holds nothing at all, so it would be written as one tag. Such elements are told
by their nodes (`Node.IsHollow`). An empty section next to something else leaves no trace
that could be missed.
-/
import SymbolDocs.Proofs.Discussion.Documents
import SymbolDocs.Proofs.Discussion.Texts
import SymbolDocs.Proofs.Markup.Printing

set_option autoImplicit false

namespace SymbolDocs.Discussion

open Markup (Item settled tidyItems)

/-! ## Content that is joined -/

theorem nodesOfContent_eq_flatMap (scope : Markup.Scope) (items : List Item) :
    nodesOfContent scope items = items.flatMap (nodesOfItem scope) := by
  induction items with
  | nil => rfl
  | cons item rest ih => rw [nodesOfContent, ih, List.flatMap_cons]

theorem contentText_joinText (run : List Char) (items : List Item) :
    contentText (Markup.joinText run items) = run ++ contentText items := by
  unfold Markup.joinText
  split
  · rw [contentText, contentText, itemText, itemText, List.append_assoc]
  · split
    · rename_i hempty
      rw [List.isEmpty_iff.mp hempty]
      rfl
    · rfl

/-- Joining texts keeps the text of the content. -/
theorem contentText_settled (items : List Item) :
    contentText (settled items) = contentText items := by
  induction items with
  | nil => rfl
  | cons item rest ih =>
    cases hitem : item.run? with
    | none => rw [Markup.settled_of_no_run hitem, contentText, contentText, ih]
    | some run =>
      rw [Item.eq_text hitem, settled, contentText_joinText, ih]
      rfl

/-- Where no two texts touch, joining keeps the nodes of the content, and none of its names
becomes stray. -/
theorem makes_settled {items : List Item} (hapart : Markup.Apart items) {nodes : List Node}
    (h : Makes items nodes) : Makes (settled items) nodes := by
  induction items generalizing nodes with
  | nil => exact h
  | cons item rest ih =>
    obtain ⟨hnodes, hstray⟩ := h
    rw [nodesOfContent] at hnodes
    rw [strayNameIn?, Option.or_eq_none_iff] at hstray
    have hrest := ih (List.IsChain.tail hapart) ⟨rfl, hstray.2⟩
    have hcons : Makes (item :: settled rest) nodes := by
      refine ⟨?_, ?_⟩
      · rw [nodesOfContent, hrest.nodes_eq, hnodes]
      · rw [strayNameIn?, hstray.1, hrest.no_stray]
        rfl
    cases hitem : item.run? with
    | none =>
      rw [Markup.settled_of_no_run hitem]
      exact hcons
    | some run =>
      obtain rfl := Item.eq_text hitem
      rw [Markup.settled_cons_of_apart hapart]
      split
      · -- A text without characters has no node.
        rename_i hempty
        rw [List.isEmpty_iff.mp hempty, nodesOfItem] at hnodes
        exact ⟨hrest.nodes_eq.trans hnodes, hrest.no_stray⟩
      · exact hcons

/-! ## Elements that hold an empty section -/

/-- An element without text and children that is not written as one tag. -/
def Node.IsHollow (n : Node) : Prop :=
  n.isElement = true ∧ n.children = [] ∧ n.text = some ""
    ∧ ¬ ['/', '>'] <:+ n.description.toList

instance (n : Node) : Decidable n.IsHollow :=
  inferInstanceAs (Decidable (_ ∧ _ ∧ _ ∧ ¬ _))

mutual

/-- Whether a node and all nodes in it pass a test. -/
def Node.passes (test : Node → Bool) : Node → Bool
  | ⟨name, description, text, isElement, attributes, children, kind⟩ =>
    test ⟨name, description, text, isElement, attributes, children, kind⟩
      && passAll test children

def passAll (test : Node → Bool) : List Node → Bool
  | [] => true
  | n :: rest => n.passes test && passAll test rest

end

theorem passes_iff {test : Node → Bool} {n : Node} :
    n.passes test = true ↔ test n = true ∧ passAll test n.children = true := by
  cases n
  rw [Node.passes, Bool.and_eq_true]

theorem passes_of_mem {test : Node → Bool} {n : Node} {nodes : List Node}
    (h : passAll test nodes = true) (hn : n ∈ nodes) : n.passes test = true := by
  induction nodes with
  | nil => exact absurd hn List.not_mem_nil
  | cons m rest ih =>
    rw [passAll, Bool.and_eq_true] at h
    rcases List.mem_cons.mp hn with rfl | hn
    · exact h.1
    · exact ih h.2 hn

theorem passes_of_within {test : Node → Bool} {n : Node} {nodes : List Node}
    (hn : n.Within nodes) (h : passAll test nodes = true) : test n = true := by
  induction hn with
  | top hn => exact (passes_iff.mp (passes_of_mem h hn)).1
  | inside hparent _ ih => exact ih (passes_iff.mp (passes_of_mem h hparent)).2

/-- An element that holds an empty text and nothing else is hollow. -/
theorem isHollow_nodeOf {tag : Markup.Tag} (h : tag.IsPlain) :
    (nodeOf tag [.text []]).IsHollow := by
  refine ⟨rfl, rfl, rfl, ?_⟩
  -- It ends in its closing tag, and so in the last character of its name.
  obtain ⟨c, rest, hname, -, hall⟩ := Markup.isSimpleName_cons h.simple
  obtain ⟨init, last, hlast⟩ : ∃ init last, tag.name.part = init ++ [last] := by
    rw [hname]
    exact ⟨_, _, (List.dropLast_append_getLast (List.cons_ne_nil c rest)).symm⟩
  have hchar : Markup.isNameChar last = true := hall last (by rw [hlast]; simp)
  rintro ⟨before, hbefore⟩
  have hdescription : ∃ more, (nodeOf tag [.text []]).description.toList
      = more ++ [last, '>'] := by
    have hform : (nodeOf tag [.text []]).description.toList
        = '<' :: Markup.printTag (tag.selfContained []) ++ '>' :: ([] ++ [])
          ++ '<' :: '/' :: tag.name.print ++ ['>'] := by
      rw [nodeOf, String.toList_ofList]
      rfl
    rw [hform, Markup.QName.print_of_qualifier h.qualifier, hlast]
    exact ⟨'<' :: Markup.printTag (tag.selfContained []) ++ ['>', '<', '/'] ++ init, by simp⟩
  obtain ⟨more, hmore⟩ := hdescription
  rw [hmore] at hbefore
  have hend := (List.append_inj' hbefore rfl).2
  exact Markup.ne_of_isNameChar hchar (by decide) (List.cons.inj hend).1.symm

/-! ## Items that come back -/

/-- An item that is read from its written form makes the same nodes. -/
structure ComesBack (item : Item) : Prop where
  print_eq : item.tidy.print = item.print
  text_eq : itemText item.tidy = itemText item
  makes : Makes [item.tidy] (nodesOfItem [] item)

/-- An item in which nothing has to be joined comes back as it is. -/
theorem comesBack_of_tidy {item : Item} (htidy : item.tidy = item)
    (hstray : strayName? [] item = none) : ComesBack item := by
  refine ⟨by rw [htidy], by rw [htidy], ?_, ?_⟩
  · rw [htidy, nodesOfContent, nodesOfContent, List.append_nil]
  · rw [htidy, strayNameIn?, strayNameIn?, hstray]
    rfl

section Content

variable {items : List Item} (h : ∀ item ∈ items, ComesBack item)
include h

theorem makes_tidyItems : Makes (tidyItems items) (nodesOfContent [] items) := by
  induction items with
  | nil => exact makes_nil
  | cons item rest ih =>
    rw [tidyItems, nodesOfContent]
    exact makes_cons (h item List.mem_cons_self).makes
      (ih fun other hother => h other (List.mem_cons_of_mem _ hother))

theorem contentText_tidyItems : contentText (tidyItems items) = contentText items := by
  induction items with
  | nil => rfl
  | cons item rest ih =>
    rw [tidyItems, contentText, contentText, (h item List.mem_cons_self).text_eq,
      ih fun other hother => h other (List.mem_cons_of_mem _ hother)]

theorem printItems_tidyItems :
    Markup.printItems (tidyItems items) = Markup.printItems items := by
  induction items with
  | nil => rfl
  | cons item rest ih =>
    rw [tidyItems, Markup.printItems, Markup.printItems, (h item List.mem_cons_self).print_eq,
      ih fun other hother => h other (List.mem_cons_of_mem _ hother)]

end Content

/-- Elements with one tag are written alike if their contents are, and have the same node
if they also have the same text and the same nodes. -/
theorem print_element_congr {content other : List Item} (tag : Markup.Tag)
    (hempty : other = [] ↔ content = [])
    (hprint : Markup.printItems other = Markup.printItems content) :
    (Item.element tag other).print = (Item.element tag content).print := by
  have hsame : other.isEmpty = content.isEmpty := by
    rw [Bool.eq_iff_iff, List.isEmpty_iff, List.isEmpty_iff]
    exact hempty
  rw [Item.print, Item.print, hsame, hprint]

theorem nodeOf_congr {content other : List Item} (tag : Markup.Tag)
    (hempty : other = [] ↔ content = [])
    (hprint : Markup.printItems other = Markup.printItems content)
    (htext : contentText other = contentText content)
    (hnodes : nodesOfContent [] other = nodesOfContent [] content) :
    nodeOf tag other = nodeOf tag content := by
  have halone : (Item.element tag other).printAlone []
      = (Item.element tag content).printAlone [] :=
    print_element_congr (tag.selfContained []) hempty hprint
  rw [nodeOf, nodeOf, halone, htext, hnodes]

theorem nodesOfItem_element {tag : Markup.Tag} (h : tag.declarations = []) (content : List Item) :
    nodesOfItem [] (.element tag content) = [nodeOf tag content] := by
  rw [nodesOfItem, h]
  rfl

theorem within_of_subset {n : Node} {nodes more : List Node} (hsubset : nodes ⊆ more)
    (h : n.Within nodes) : n.Within more := by
  cases h with
  | top h => exact .top (hsubset h)
  | inside h hn => exact .inside (hsubset h) hn

/-- **A sound item comes back if none of its nodes is hollow.** The induction follows the
tree; what is joined in the content of an element has neither nodes nor a written form, and
only in a hollow element was it all there is. -/
theorem comesBack_of_isSound {levels : Nat} {item : Item} (h : item.IsSound .plain levels)
    (hfull : ∀ m, Node.Within m (nodesOfItem [] item) → ¬ m.IsHollow) : ComesBack item := by
  induction h with
  | text _ => exact comesBack_of_tidy (by rw [Item.tidy]) rfl
  | comment _ => exact comesBack_of_tidy (by rw [Item.tidy]) rfl
  | instruction _ _ => exact comesBack_of_tidy (by rw [Item.tidy]) rfl
  | @element levels tag content hplain hapart _ ih =>
    have hdeclarations := Markup.Tag.IsPlain.declarations hplain
    rw [nodesOfItem_element hdeclarations] at hfull
    have hback : ∀ item ∈ content, ComesBack item := by
      intro item hitem
      refine ih item hitem fun m hm => hfull m (.inside List.mem_cons_self ?_)
      have hsubset : nodesOfItem [] item ⊆ nodesOfContent [] content := by
        rw [nodesOfContent_eq_flatMap]
        exact fun m hm => List.mem_flatMap.mpr ⟨item, hitem, hm⟩
      exact within_of_subset hsubset hm
    have hempty : settled (tidyItems content) = [] ↔ content = [] := by
      constructor
      · intro hnil
        rcases Markup.eq_of_settled_eq_nil (Markup.apart_tidyItems hapart) hnil with hnone | hone
        · rw [Markup.tidyItems_eq_map, List.map_eq_nil_iff] at hnone
          exact hnone
        · rw [Markup.tidyItems_eq_map, List.map_eq_singleton_iff] at hone
          obtain ⟨item, rfl, hitem⟩ := hone
          have hrun : item.run? = some [] := by
            rw [← Markup.run?_tidy, hitem]
            rfl
          rw [Item.eq_text hrun] at hfull
          exact absurd (isHollow_nodeOf hplain) (hfull _ (.top List.mem_cons_self))
      · rintro rfl
        rfl
    have hprint : Markup.printItems (settled (tidyItems content)) = Markup.printItems content := by
      rw [Markup.printItems_settled, printItems_tidyItems hback]
    have htext : contentText (settled (tidyItems content)) = contentText content := by
      rw [contentText_settled, contentText_tidyItems hback]
    have hmakes := makes_settled (Markup.apart_tidyItems hapart) (makes_tidyItems hback)
    refine ⟨?_, ?_, ?_⟩
    · rw [Item.tidy]
      exact print_element_congr tag hempty hprint
    · rw [Item.tidy, itemText, itemText, htext]
    · rw [Item.tidy, nodesOfItem_element hdeclarations,
        ← nodeOf_congr tag hempty hprint htext hmakes.nodes_eq]
      exact makes_element hplain hmakes

/-! ## Descriptions -/

/-- Where no tag declares anything, no declarations are in force anywhere. -/
theorem inner_of_stands {tag : Markup.Tag} {content items : List Item}
    {inner outer : Markup.Scope} (h : Stands tag content inner outer items)
    (houter : outer = []) {levels : Nat} (hsound : ∀ item ∈ items, item.IsSound .plain levels) :
    inner = [] := by
  induction h generalizing levels with
  | among h => exact houter
  | inside h _ ih =>
    cases hsound _ h with
    | element hplain _ hbetween =>
      refine ih ?_ hbetween
      rw [Markup.Tag.IsPlain.declarations hplain, houter]
      rfl

/-- A plain tag needs no declarations from around it. -/
theorem selfContained_of_isPlain {tag : Markup.Tag} (h : tag.IsPlain) :
    tag.selfContained [] = tag := by
  have hneeded : Markup.neededFrom [] tag = [] := by
    rw [Markup.neededFrom, h.qualifier]
    change [] ++ tag.attributes.flatMap _ = []
    rw [List.nil_append, List.flatMap_eq_nil_iff]
    intro a ha
    rw [(h.attributes a ha).qualifier]
  rw [Markup.Tag.selfContained, hneeded, List.append_nil]
  rfl

/-- The description of an element with a plain tag is its written form. -/
theorem description_nodeOf {tag : Markup.Tag} (h : tag.IsPlain) (content : List Item) :
    (nodeOf tag content).description.toList = (Item.element tag content).print := by
  rw [nodeOf, String.toList_ofList, Item.printAlone, selfContained_of_isPlain h]

/-- **A description is read into the node it describes.** In a document without a document
type, without namespace declarations and without names that hold a colon, the description of
every element node, at any depth, can be put between the tags of any root element: that is
accepted, and all it has is this one node again, equal in every part. The one condition is
that neither the node nor a node in it is hollow. -/
theorem parse_description {markup : String} {nodes : List Node}
    (hparse : parse markup = .ok nodes)
    (hunqualified : ∀ t ∈ Markup.tokensOf markup.toList, t.isUnqualified = true)
    {n : Node} (hn : n.Within nodes) (helement : n.isElement = true)
    (hfull : ∀ m, Node.Within m [n] → ¬ m.IsHollow) (root : TagName) :
    parse (between root.name n.description) = .ok [n] := by
  obtain ⟨document, hread, -, rfl⟩ := parse_eq_ok_iff.mp hparse
  obtain ⟨standalone, text, -, hallowed, htokens, -⟩ := Markup.exists_of_read hread
  have hfits : ∀ t ∈ Markup.tokensOf markup.toList, t.Fits .plain := fun t ht =>
    Markup.fits_plain (Markup.isSound_of_tokens hallowed htokens t ht) (hunqualified t ht)
  have hcontent := Markup.content_isSound_of_read hread hfits
  have houter : document.tag.declarations = [] := by
    cases Markup.isSound_of_read hread hfits with
    | element hplain _ _ => exact Markup.Tag.IsPlain.declarations hplain
  -- The node was made of a sound element, around which nothing is declared.
  obtain ⟨tag, content, inner, hstands, hmade⟩ := stands_of_within_content _ _ hn helement
  obtain rfl := inner_of_stands hstands houter hcontent
  obtain ⟨levels, hlevels, hsound⟩ := isSound_of_stands hstands hcontent
  have hplain : tag.IsPlain := by
    cases hsound with
    | element hplain _ _ => exact hplain
  rw [← hmade] at hfull
  have hback := comesBack_of_isSound hsound hfull
  -- So its description is read as the content of the root element.
  have hreads := Markup.reads_mono hlevels (Markup.reads_print hsound)
  have hnode := hmade
  rw [nodesOfItem_element hplain.declarations, List.cons_eq_cons] at hnode
  rw [← description_nodeOf hplain, hnode.1] at hreads
  have htidy : settled [(Item.element tag content).tidy] = [(Item.element tag content).tidy] :=
    Markup.settled_of_no_run (by rw [Item.tidy]; rfl) []
  have hdocument : Markup.read (between root.name n.description).toList
      = .ok { tag := tagOf root.name [], content := [(Item.element tag content).tidy] } := by
    rw [toList_between .least, ← htidy]
    exact Markup.read_enclosed .least (isPlain_bare root.simple) (by decide) hreads
  refine parse_eq_ok_iff.mpr ⟨_, hdocument, hback.makes.no_stray, ?_⟩
  rw [← hmade]
  exact hback.makes.nodes_eq.symm

/-- A discussion that is hard to write: values and texts with all special characters,
remarks, blank runs, an empty section next to a text, and text after the element. -/
def intricateDiscussion : String :=
  "<r><e b='&quot;&#9;&lt;'>\n<f/><!-- & --><?xmlp q?> x &gt;<![CDATA[]]><f>&#13;<g> </g></f>"
    ++ "</e>tail</r>"

/-- The description of its element is read again, inside another root element. -/
theorem parse_description_of_intricate :
    ∃ (nodes : List Node) (n : Node), parse intricateDiscussion = .ok nodes
      ∧ (∀ t ∈ Markup.tokensOf intricateDiscussion.toList, t.isUnqualified = true)
      ∧ n.Within nodes ∧ n.isElement = true ∧ (∀ m, Node.Within m [n] → ¬ m.IsHollow)
      ∧ n.description
        = "<e b=\"&quot;&#9;&lt;\">\n<f/><!-- & --><?xmlp q?> x &gt;<f>&#13;<g> </g></f></e>"
      ∧ parse (between "D" n.description) = .ok [n] := by
  have hunqualified : ∀ t ∈ Markup.tokensOf intricateDiscussion.toList,
      t.isUnqualified = true := by
    decide +kernel
  have hseen : (true, true,
      "<e b=\"&quot;&#9;&lt;\">\n<f/><!-- & --><?xmlp q?> x &gt;<f>&#13;<g> </g></f></e>")
      ∈ seen (fun n => (n.isElement, n.passes fun m => !m.IsHollow, n.description))
        intricateDiscussion := by
    decide +kernel
  obtain ⟨nodes, n, hparse, hn, hsee⟩ := exists_of_mem_seen hseen
  simp only [Prod.mk.injEq] at hsee
  obtain ⟨helement, hpasses, hdescription⟩ := hsee
  have hwithin : n.Within nodes := .top hn
  have hfull : ∀ m, Node.Within m [n] → ¬ m.IsHollow := by
    intro m hm
    have htest := passes_of_within hm (by rw [passAll, hpasses]; rfl)
    simpa using htest
  exact ⟨nodes, n, hparse, hunqualified, hwithin, helement, hfull, hdescription,
    parse_description hparse hunqualified hwithin helement hfull { name := "D", simple := rfl }⟩

/-- A description need not be read into the node it describes. The element of the first
document holds an empty section: its description is accepted, but has another node. The
name of the attribute in the second one begins with a colon, of which reading the document
complains before it remarks on the instruction; the description is refused. Neither document
has a document type, a declaration or a name with a qualifier. -/
theorem description_not_read_again :
    (∃ (nodes : List Node) (n : Node), parse "<r><e><![CDATA[]]></e></r>" = .ok nodes
      ∧ (∀ t ∈ Markup.tokensOf "<r><e><![CDATA[]]></e></r>".toList, t.isUnprefixed = true)
      ∧ n.Within nodes ∧ n.isElement = true ∧ n.description = "<e></e>"
      ∧ ∃ others other, parse ("<D>" ++ n.description ++ "</D>") = .ok others
        ∧ other ∈ others ∧ other.description = "<e/>")
    ∧ ∃ (nodes : List Node) (n : Node), parse "<r><e :b='1'/><?xmlx?></r>" = .ok nodes
      ∧ (∀ t ∈ Markup.tokensOf "<r><e :b='1'/><?xmlx?></r>".toList, t.isUnprefixed = true)
      ∧ n.Within nodes ∧ n.isElement = true
      ∧ parse ("<D>" ++ n.description ++ "</D>") = .error (.malformed .name) := by
  constructor
  · have hseen : (true, "<e></e>") ∈ seen (fun n => (n.isElement, n.description))
        "<r><e><![CDATA[]]></e></r>" := by
      decide +kernel
    obtain ⟨nodes, n, hparse, hn, hsee⟩ := exists_of_mem_seen hseen
    obtain ⟨helement, hdescription⟩ := Prod.mk.inj hsee
    have hagain : "<e/>" ∈ seen (·.description) "<D><e></e></D>" := by decide +kernel
    refine ⟨nodes, n, hparse, by decide +kernel, .top hn, helement, hdescription, ?_⟩
    rw [hdescription]
    exact exists_of_mem_seen hagain
  · have hseen : (true, "<e :b=\"1\"/>") ∈ seen (fun n => (n.isElement, n.description))
        "<r><e :b='1'/><?xmlx?></r>" := by
      decide +kernel
    obtain ⟨nodes, n, hparse, hn, hsee⟩ := exists_of_mem_seen hseen
    obtain ⟨helement, hdescription⟩ := Prod.mk.inj hsee
    have hseen : (match parse "<D><e :b=\"1\"/></D>" with
        | .error fault => some fault
        | .ok _ => none) = some (.malformed .name) := by
      decide +kernel
    have hrefused : parse "<D><e :b=\"1\"/></D>" = .error (.malformed .name) := by
      cases hagain : parse "<D><e :b=\"1\"/></D>" with
      | ok others =>
        rw [hagain] at hseen
        exact absurd hseen nofun
      | error fault =>
        rw [hagain] at hseen
        rw [Option.some.inj hseen]
    refine ⟨nodes, n, hparse, by decide +kernel, .top hn, helement, ?_⟩
    rw [hdescription]
    exact hrefused

end SymbolDocs.Discussion
