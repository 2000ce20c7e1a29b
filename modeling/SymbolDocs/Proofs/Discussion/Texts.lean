/-
The text of an element and the texts of its children.

The text of an element is collected from the whole tree below it, and its children are
made one by one. Both describe the same content: up to blanks, the text is what the
children that are runs of text or elements have, in their order. Comments and
instructions have a text too, but it is none of the text around them. What is lost on the
way from the text to the children are runs of text that are all blank; where there are
none among the items of the element, nothing is lost.

The two sides are compared item by item, and no induction over the tree is needed, since
an element has the same text as a child and inside its parent. The tree comes in only
where a node at any depth is traced back to the element it was made of.
-/
import SymbolDocs.Proofs.Discussion.Dispatch
import SymbolDocs.Proofs.Markup.Trees

set_option autoImplicit false

namespace SymbolDocs.Discussion

open Markup (Item)

/-! ## What children add -/

/-- The characters of a text that are not blank. -/
def solid (cs : List Char) : List Char :=
  cs.filter fun c => !Text.isBlank c

/-- Whether a node stands for a run of text: it is written as its text is. -/
def Node.isRun (n : Node) : Bool :=
  !n.isElement && n.description = String.ofList (describeText (n.text.getD "").toList)

/-- What a child adds to the text of its parent, if it is a run of text or an element. -/
def Node.share (n : Node) : List Char :=
  if n.isElement || n.isRun then (n.text.getD "").toList else []

/-- A node stands for a comment or an instruction, and has the text of it. -/
def Node.IsRemark (n : Node) : Prop :=
  ∃ text : List Char, n.isElement = false ∧ n.text = some (String.ofList text)
    ∧ (n.description = String.ofList (Markup.printComment text)
      ∨ ∃ target data, text = Option.getD data []
        ∧ n.description = String.ofList (Markup.printInstruction target data))

/-- Texts are written without angle brackets. -/
theorem not_mem_describeText (cs : List Char) : '<' ∉ describeText cs := by
  intro h
  obtain ⟨c, -, hc⟩ := List.mem_flatMap.mp h
  unfold Markup.textChar at hc
  split_ifs at hc with hreturn hamp hless hmore
  · rw [← List.mem_singleton.mp hc] at hreturn
    exact absurd hreturn (by decide)
  · exact absurd hc (by decide)
  · exact absurd hc (by decide)
  · exact absurd hc (by decide)
  · exact hless (List.mem_singleton.mp hc).symm

theorem isRun_leaf_text (text : List Char) :
    (Node.leaf (describeText text) text).isRun = true := by
  simp [Node.isRun, Node.leaf]

/-- A run of text has its text for a share. -/
theorem share_leaf_text (text : List Char) :
    (Node.leaf (describeText text) text).share = text := by
  rw [Node.share, isRun_leaf_text, Bool.or_true, if_pos rfl]
  simp [Node.leaf]

/-- What is written with an angle bracket is no run of text. -/
theorem isRun_leaf_of_mem {description text : List Char} (h : '<' ∈ description) :
    (Node.leaf description text).isRun = false := by
  rw [← Bool.not_eq_true]
  intro hrun
  rw [Node.isRun, Bool.and_eq_true, decide_eq_true_eq] at hrun
  have hsame : description = describeText text := by
    simpa [Node.leaf] using String.ofList_injective hrun.2
  rw [hsame] at h
  exact not_mem_describeText text h

/-- A comment or an instruction has no share, whatever is in it. -/
theorem share_leaf_of_mem {description text : List Char} (h : '<' ∈ description) :
    (Node.leaf description text).share = [] := by
  rw [Node.share, isRun_leaf_of_mem h]
  rfl

theorem mem_printComment (text : List Char) : '<' ∈ Markup.printComment text := by
  simp [Markup.printComment]

theorem mem_printInstruction (target : List Char) (data : Option (List Char)) :
    '<' ∈ Markup.printInstruction target data := by
  cases data with
  | none => simp [Markup.printInstruction]
  | some text => simp [Markup.printInstruction]

/-! ## Items -/

/-- What is left of a text without blanks is left piece by piece. -/
theorem solid_append (as bs : List Char) : solid (as ++ bs) = solid as ++ solid bs :=
  List.filter_append ..

theorem solid_of_allBlank {cs : List Char} (h : Text.allBlank cs = true) : solid cs = [] := by
  rw [solid, List.filter_eq_nil_iff]
  intro c hc
  have hblank := List.all_eq_true.mp h c hc
  simp [hblank]

/-- An item that is no reference. Only a document type makes known what can be referred
to. -/
def IsResolved (item : Item) : Prop :=
  ∀ name, item ≠ .entity name

/-- An item that is no run of blanks. A run without characters is none. -/
def IsVisible (item : Item) : Prop :=
  ∀ run, item.run? = some run → run ≠ [] → Text.allBlank run = false

/-- An item has the text that its nodes add, or it is a run of blanks and has no node. -/
theorem share_nodesOfItem (scope : Markup.Scope) {item : Item} (h : IsResolved item) :
    (nodesOfItem scope item).flatMap Node.share = itemText item
      ∨ ∃ run, item.run? = some run ∧ Text.allBlank run = true
        ∧ nodesOfItem scope item = [] := by
  cases item with
  | text run =>
    rw [nodesOfItem]
    split
    · rename_i hblank
      exact .inr ⟨run, rfl, hblank, rfl⟩
    · refine .inl ?_
      rw [List.flatMap_singleton, share_leaf_text, itemText]
  | entity name => exact absurd rfl (h name)
  | comment text =>
    refine .inl ?_
    rw [nodesOfItem, List.flatMap_singleton, share_leaf_of_mem (mem_printComment text),
      itemText]
  | instruction target data =>
    refine .inl ?_
    rw [nodesOfItem, List.flatMap_singleton,
      share_leaf_of_mem (mem_printInstruction target data), itemText]
  | element tag content =>
    refine .inl ?_
    rw [nodesOfItem, List.flatMap_singleton, itemText]
    simp [Node.share]

/-- The text of an item is what its nodes have for shares, but for blanks. -/
theorem solid_itemText (scope : Markup.Scope) {item : Item} (h : IsResolved item) :
    solid (itemText item) = solid ((nodesOfItem scope item).flatMap Node.share) := by
  rcases share_nodesOfItem scope h with heq | ⟨run, hrun, hblank, hnone⟩
  · rw [heq]
  · rw [hnone, Markup.Item.eq_text hrun, itemText, solid_of_allBlank hblank]
    rfl

/-- Blanks included, if no run of text in it is blank. -/
theorem itemText_of_isVisible (scope : Markup.Scope) {item : Item} (h : IsResolved item)
    (hvisible : IsVisible item) :
    itemText item = (nodesOfItem scope item).flatMap Node.share := by
  rcases share_nodesOfItem scope h with heq | ⟨run, hrun, hblank, hnone⟩
  · exact heq.symm
  · have hempty : run = [] := by
      by_contra hne
      rw [hvisible run hrun hne] at hblank
      exact Bool.false_ne_true hblank
    rw [hnone, Markup.Item.eq_text hrun, itemText, hempty]
    rfl

/-- The text of a content is what its nodes have for shares, but for blanks. -/
theorem solid_contentText (scope : Markup.Scope) {content : List Item}
    (h : ∀ item ∈ content, IsResolved item) :
    solid (contentText content) = solid ((nodesOfContent scope content).flatMap Node.share) := by
  induction content with
  | nil => rfl
  | cons item rest ih =>
    rw [contentText, nodesOfContent, List.flatMap_append, solid_append, solid_append,
      solid_itemText scope (h item List.mem_cons_self),
      ih fun other hother => h other (List.mem_cons_of_mem _ hother)]

/-- Blanks included, if no run of text in it is blank. -/
theorem contentText_of_isVisible (scope : Markup.Scope) {content : List Item}
    (h : ∀ item ∈ content, IsResolved item) (hvisible : ∀ item ∈ content, IsVisible item) :
    contentText content = (nodesOfContent scope content).flatMap Node.share := by
  induction content with
  | nil => rfl
  | cons item rest ih =>
    rw [contentText, nodesOfContent, List.flatMap_append,
      itemText_of_isVisible scope (h item List.mem_cons_self) (hvisible item List.mem_cons_self),
      ih (fun other hother => h other (List.mem_cons_of_mem _ hother))
        fun other hother => hvisible other (List.mem_cons_of_mem _ hother)]

/-- Each node of an item is an element, a run of text or a remark. -/
theorem sort_of_mem_nodesOfItem {scope : Markup.Scope} {item : Item} (h : IsResolved item)
    {n : Node} (hn : n ∈ nodesOfItem scope item) :
    n.isElement = true ∨ n.isRun = true ∨ n.IsRemark ∧ n.share = [] := by
  cases item with
  | text run =>
    rw [nodesOfItem] at hn
    split at hn
    · exact absurd hn List.not_mem_nil
    · rw [List.mem_singleton.mp hn]
      exact .inr (.inl (isRun_leaf_text run))
  | entity name => exact absurd rfl (h name)
  | comment text =>
    rw [nodesOfItem] at hn
    rw [List.mem_singleton.mp hn]
    exact .inr (.inr ⟨⟨text, rfl, rfl, .inl rfl⟩, share_leaf_of_mem (mem_printComment text)⟩)
  | instruction target data =>
    rw [nodesOfItem] at hn
    rw [List.mem_singleton.mp hn]
    exact .inr (.inr ⟨⟨_, rfl, rfl, .inr ⟨target, data, rfl, rfl⟩⟩,
      share_leaf_of_mem (mem_printInstruction target data)⟩)
  | element tag content =>
    rw [nodesOfItem] at hn
    rw [List.mem_singleton.mp hn]
    exact .inl rfl

/-- A node is of an element, a run of text, or a remark without a share. -/
theorem sort_of_mem_nodesOfContent {scope : Markup.Scope} {content : List Item}
    (h : ∀ item ∈ content, IsResolved item) {n : Node}
    (hn : n ∈ nodesOfContent scope content) :
    n.isElement = true ∨ n.isRun = true ∨ n.IsRemark ∧ n.share = [] := by
  induction content with
  | nil => exact absurd hn List.not_mem_nil
  | cons item rest ih =>
    rw [nodesOfContent] at hn
    rcases List.mem_append.mp hn with hitem | hrest
    · exact sort_of_mem_nodesOfItem (h item List.mem_cons_self) hitem
    · exact ih (fun other hother => h other (List.mem_cons_of_mem _ hother)) hrest

/-! ## Nodes and their elements -/

/-- An element stands among some items, at any depth. `inner` are the declarations that
are in force where it stands, and `outer` those around the items. -/
inductive Stands (tag : Markup.Tag) (content : List Item) (inner : Markup.Scope) :
    (outer : Markup.Scope) → List Item → Prop where
  | among {items : List Item} (h : Item.element tag content ∈ items) :
    Stands tag content inner inner items
  | inside {outer : Markup.Scope} {items : List Item} {around : Markup.Tag}
    {between : List Item} (h : Item.element around between ∈ items)
    (hstands : Stands tag content inner (around.declarations ++ outer) between) :
    Stands tag content inner outer items

theorem stands_of_subset {tag : Markup.Tag} {content : List Item} {inner outer : Markup.Scope}
    {items more : List Item} (hsubset : items ⊆ more)
    (h : Stands tag content inner outer items) : Stands tag content inner outer more := by
  cases h with
  | among h => exact .among (hsubset h)
  | inside h hstands => exact .inside (hsubset h) hstands

/-- A node was made of an element with the given content. -/
def Node.MadeOf (n : Node) (content : List Item) (root : Markup.Element) : Prop :=
  ∃ tag inner, Stands tag content inner root.tag.declarations root.content
    ∧ nodesOfItem inner (.element tag content) = [n]

theorem not_isElement_of_within_leaf {n : Node} {description text : List Char}
    (h : n.Within [.leaf description text]) : ¬ n.isElement = true := by
  rcases within_singleton h with rfl | hbelow
  · exact Bool.false_ne_true
  · exact absurd hbelow within_nil

mutual

/-- An element node that an item makes, at any depth, was made of an element of the
item. -/
theorem stands_of_within_item {n : Node} (scope : Markup.Scope) :
    (item : Item) → n.Within (nodesOfItem scope item) → n.isElement = true →
      ∃ tag content inner, Stands tag content inner scope [item]
        ∧ nodesOfItem inner (.element tag content) = [n]
  | .text text, h, helement => by
    rw [nodesOfItem] at h
    split at h
    · exact absurd h within_nil
    · exact absurd helement (not_isElement_of_within_leaf h)
  | .entity name, h, helement => by
    rw [nodesOfItem] at h
    exact absurd helement (not_isElement_of_within_leaf h)
  | .comment text, h, helement => by
    rw [nodesOfItem] at h
    exact absurd helement (not_isElement_of_within_leaf h)
  | .instruction target data, h, helement => by
    rw [nodesOfItem] at h
    exact absurd helement (not_isElement_of_within_leaf h)
  | .element tag content, h, helement => by
    rw [nodesOfItem] at h
    rcases within_singleton h with rfl | hbelow
    · exact ⟨tag, content, scope, .among List.mem_cons_self, by rw [nodesOfItem]⟩
    · obtain ⟨tag', content', inner, hstands, hmade⟩ :=
        stands_of_within_content (tag.declarations ++ scope) content hbelow helement
      exact ⟨tag', content', inner, .inside List.mem_cons_self hstands, hmade⟩

theorem stands_of_within_content {n : Node} (scope : Markup.Scope) :
    (items : List Item) → n.Within (nodesOfContent scope items) → n.isElement = true →
      ∃ tag content inner, Stands tag content inner scope items
        ∧ nodesOfItem inner (.element tag content) = [n]
  | [], h, _ => by
    rw [nodesOfContent] at h
    exact absurd h within_nil
  | item :: rest, h, helement => by
    rw [nodesOfContent] at h
    rcases within_append h with hitem | hrest
    · obtain ⟨tag, content, inner, hstands, hmade⟩ :=
        stands_of_within_item scope item hitem helement
      exact ⟨tag, content, inner, stands_of_subset (by simp) hstands, hmade⟩
    · obtain ⟨tag, content, inner, hstands, hmade⟩ :=
        stands_of_within_content scope rest hrest helement
      exact ⟨tag, content, inner, stands_of_subset (List.subset_cons_self _ _) hstands, hmade⟩

end

/-! ## Documents without a document type -/

/-- A sound item has its references resolved. -/
theorem isResolved_of_isSound {form : Markup.Form} {levels : Nat} {item : Item}
    (h : item.IsSound form levels) : IsResolved item := by
  rintro name rfl
  cases h

/-- What stands in a sound tree is sound, and goes no deeper than the tree. -/
theorem isSound_of_stands {form : Markup.Form} {tag : Markup.Tag} {content items : List Item}
    {inner outer : Markup.Scope} (h : Stands tag content inner outer items) {levels : Nat}
    (hsound : ∀ item ∈ items, item.IsSound form levels) :
    ∃ fewer, fewer ≤ levels ∧ (Item.element tag content).IsSound form fewer := by
  induction h generalizing levels with
  | among h => exact ⟨levels, Nat.le_refl _, hsound _ h⟩
  | inside h _ ih =>
    cases hsound _ h with
    | element _ _ hbetween =>
      obtain ⟨fewer, hfewer, helement⟩ := ih hbetween
      exact ⟨fewer, Nat.le_succ_of_le hfewer, helement⟩

/-- So has what stands in sound items, however deep. -/
theorem isResolved_of_stands {form : Markup.Form} {tag : Markup.Tag} {content items : List Item}
    {inner outer : Markup.Scope} (h : Stands tag content inner outer items) {levels : Nat}
    (hsound : ∀ item ∈ items, item.IsSound form levels) :
    ∀ item ∈ content, IsResolved item := by
  obtain ⟨fewer, -, helement⟩ := isSound_of_stands h hsound
  cases helement with
  | element _ _ hcontent => exact fun item hitem => isResolved_of_isSound (hcontent item hitem)

/-- **The text of an element and its children describe the same content.** In a document
without a document type, every element node at any depth has a text, and up to blanks it is
what its children add, in their order: runs of text and elements add their own text, and
all other children are comments and instructions, which add nothing although they have a
text. Whichever element the node was made of, and it was made of one, if no run of blanks
stands directly in that element, the text is exactly what the children add. -/
theorem text_eq_shares {markup : String} {nodes : List Node}
    (hparse : parse markup = .ok nodes)
    (huntyped : ∀ t ∈ Markup.tokensOf markup.toList, t.isDoctype = false)
    {n : Node} (hn : n.Within nodes) (helement : n.isElement = true) :
    ∃ text, n.text = some text
      ∧ solid text.toList = solid (n.children.flatMap Node.share)
      ∧ (∀ child ∈ n.children,
        child.isElement = true ∨ child.isRun = true ∨ child.IsRemark ∧ child.share = [])
      ∧ ∃ root, Markup.read markup.toList = .ok root
        ∧ (∃ content, n.MadeOf content root)
        ∧ ∀ content, n.MadeOf content root → (∀ item ∈ content, IsVisible item) →
          text.toList = n.children.flatMap Node.share := by
  obtain ⟨root, hread, -, rfl⟩ := parse_eq_ok_iff.mp hparse
  have hsound := Markup.content_isSound_of_read hread fun t ht => Markup.fits_any (huntyped t ht)
  -- Whatever element the node was made of, its text and its children are those of that
  -- element.
  have hmade (content : List Item) (h : n.MadeOf content root) :
      (∀ item ∈ content, IsResolved item)
        ∧ n.text = some (String.ofList (contentText content))
        ∧ ∃ scope, n.children = nodesOfContent scope content := by
    obtain ⟨tag, inner, hstands, hnode⟩ := h
    rw [nodesOfItem] at hnode
    rw [← List.cons_eq_cons.mp hnode |>.1]
    exact ⟨isResolved_of_stands hstands hsound, rfl, _, rfl⟩
  obtain ⟨tag, content, inner, hstands, hnode⟩ :=
    stands_of_within_content root.tag.declarations root.content hn helement
  have hcontent : n.MadeOf content root := ⟨tag, inner, hstands, hnode⟩
  obtain ⟨hresolved, htext, scope, hchildren⟩ := hmade content hcontent
  refine ⟨_, htext, ?_, ?_, root, hread, ⟨content, hcontent⟩, ?_⟩
  · rw [hchildren, String.toList_ofList]
    exact solid_contentText scope hresolved
  · rw [hchildren]
    intro child hchild
    exact sort_of_mem_nodesOfContent hresolved hchild
  · intro other hother hvisible
    obtain ⟨hresolved', htext', scope', hchildren'⟩ := hmade other hother
    rw [htext] at htext'
    rw [Option.some.inj htext', hchildren', String.toList_ofList]
    exact contentText_of_isVisible scope' hresolved' hvisible

/-- What is seen of the top-level nodes of markup, if it is accepted. -/
def seen {α : Type} (see : Node → α) (markup : String) : List α :=
  match parse markup with
  | .ok nodes => nodes.map see
  | .error _ => []

theorem exists_of_mem_seen {α : Type} {see : Node → α} {markup : String} {a : α}
    (h : a ∈ seen see markup) :
    ∃ nodes n, parse markup = .ok nodes ∧ n ∈ nodes ∧ see n = a := by
  rw [seen] at h
  cases hparse : parse markup with
  | error fault =>
    rw [hparse] at h
    exact absurd h List.not_mem_nil
  | ok nodes =>
    rw [hparse] at h
    obtain ⟨n, hn, hsee⟩ := List.mem_map.mp h
    exact ⟨nodes, n, rfl, hn, hsee⟩

/-- Why markup is refused, if it is. -/
def refusal? (markup : String) : Option ParseFault :=
  match parse markup with
  | .ok _ => none
  | .error fault => some fault

theorem parse_of_refusal? {markup : String} {fault : ParseFault}
    (h : refusal? markup = some fault) : parse markup = .error fault := by
  rw [refusal?] at h
  cases hparse : parse markup with
  | ok nodes =>
    rw [hparse] at h
    cases h
  | error cause =>
    rw [hparse] at h
    exact congrArg Except.error (Option.some.inj h)

/-- A paragraph with runs of blanks, a comment and an instruction between its texts. -/
def mixedParagraph : String :=
  "<r><Para>a<!--x--> <b>b</b>\n<?p y?>c</Para></r>"

/-- The blanks are in the text of the paragraph, and its children do not add them; the
comment and the instruction have texts that are in neither. -/
theorem text_mixedParagraph :
    ∃ (nodes : List Node) (n : Node), parse mixedParagraph = .ok nodes
      ∧ (∀ t ∈ Markup.tokensOf mixedParagraph.toList, t.isDoctype = false)
      ∧ n.Within nodes ∧ n.isElement = true
      ∧ n.text = some "a b\nc"
      ∧ n.children.flatMap Node.share = "abc".toList
      ∧ n.children.map (·.text) = ["a", "x", "b", "y", "c"].map some
      ∧ solid "a b\nc".toList = solid "abc".toList := by
  have huntyped : ∀ t ∈ Markup.tokensOf mixedParagraph.toList, t.isDoctype = false := by
    decide +kernel
  have hseen : (true, some "a b\nc", "abc".toList, ["a", "x", "b", "y", "c"].map some)
      ∈ seen (fun n => (n.isElement, n.text, n.children.flatMap Node.share,
        n.children.map (·.text))) mixedParagraph := by
    decide +kernel
  obtain ⟨nodes, n, hparse, hn, hsee⟩ := exists_of_mem_seen hseen
  simp only [Prod.mk.injEq] at hsee
  obtain ⟨helement, htext, hshares, htexts⟩ := hsee
  have hwithin : n.Within nodes := .top hn
  obtain ⟨text, heq, hsolid, -⟩ := text_eq_shares hparse huntyped hwithin helement
  rw [htext] at heq
  rw [← Option.some.inj heq, hshares] at hsolid
  exact ⟨nodes, n, hparse, huntyped, hwithin, helement, htext, hshares, htexts, hsolid⟩

end SymbolDocs.Discussion
