/-
Showing a node by its shape.

A node carries its kind, which was decided when the node was made, and showing it
trusts the kind. This file says what is shown without looking at the kind: eight rules,
each for the nodes of one shape, of which the first that is for a node decides. The two
agree on every node whose kind is the one that its name, its children and its text
call for, and showing such a node is never a fault; nodes read from markup are all of
that sort, at every depth.

The rules repeat no condition of an earlier one. A callout that begins with a link is
shown as a link because the rule for links stands before the one for callouts, and the
rules for links and images need not say that the first child is an element.
-/
import SymbolDocs.Discussion.Fragment
import SymbolDocs.Proofs.Discussion.Key

set_option autoImplicit false

namespace SymbolDocs.Discussion

/-! ## The rules -/

/-- A rule: which nodes it is for, and what it shows of them. -/
structure Rule where
  applies : Node → Bool
  shows : Node → Option String

/-- The texts of the children of a node, without empty and missing ones. -/
def Node.lines (n : Node) : List String :=
  n.children.filterMap fun child => child.text.filter (· ≠ "")

/-- The value of an attribute of the first child of a node. -/
def Node.leading? (n : Node) (label : String) : Option String :=
  n.children.head?.bind fun child => child.attributes.lookup label

/-- Whether the first child of a node has a name and an attribute. -/
def Node.leadsWith (n : Node) (name label : String) : Bool :=
  n.children.head?.any fun child =>
    child.name = some name && (child.attributes.lookup label).isSome

namespace Rule

/-- What is no block of a discussion is shown as it is written. -/
def verbatim : Rule where
  applies n := !(Key.all.any fun key => n.name = some key.name)
  shows n := some n.description

/-- A code listing is a fence, even around nothing. -/
def fence : Rule where
  applies n := n.name = some "CodeListing"
  shows n := some ("```\n" ++ String.intercalate "\n" n.lines ++ "\n```")

/-- A list is a line for each child with text, and nothing without such a child. -/
def dashes : Rule where
  applies n := n.name = some "List-Bullet"
  shows n :=
    if n.lines.isEmpty then none
    else some (String.intercalate "\n" (n.lines.map fun line => "- " ++ line))

/-- What does not begin with an element that has a name is shown by its text. -/
def flat : Rule where
  applies n :=
    !(n.children.head?.any fun child => child.isElement && child.name.getD "" ≠ "")
  shows n := n.text

/-- What has a text and begins with a link that has a target is a link. -/
def linked : Rule where
  applies n := n.text.isSome && n.leadsWith "Link" "href"
  shows n := do
    let text ← n.text
    let target ← n.leading? "href"
    return "[" ++ text ++ "](" ++ target ++ ")"

/-- What begins with an image that has a source is an image. -/
def pictured : Rule where
  applies n := n.leadsWith "img" "src"
  shows n := do
    let source ← n.leading? "src"
    let caption := ((n.leading? "alt").or (n.leading? "atl")).getD ""
    return "![" ++ caption ++ "](" ++ source ++ ")"

/-- Any other callout is not shown here. -/
def aside : Rule where
  applies n := Key.callouts.any fun key => n.name = some key.name
  shows _ := none

/-- Of everything else the first child is shown as it is written. -/
def wrapped : Rule where
  applies _ := true
  shows n := n.children.head?.map (·.description)

/-- The rules in the order in which they are tried. -/
def all : List Rule :=
  [verbatim, fence, dashes, flat, linked, pictured, aside, wrapped]

end Rule

/-- What the first of some rules that is for a node shows of it. -/
def firstOf (n : Node) : List Rule → Option String
  | [] => none
  | rule :: rest => if rule.applies n then rule.shows n else firstOf n rest

/-- What the rules show of a node. -/
def Node.dispatched (n : Node) : Option String :=
  firstOf n Rule.all

theorem firstOf_of_applies {n : Node} {rule : Rule} (rest : List Rule)
    (h : rule.applies n = true) : firstOf n (rule :: rest) = rule.shows n := by
  rw [firstOf, if_pos h]

theorem firstOf_of_not_applies {n : Node} {rule : Rule} (rest : List Rule)
    (h : rule.applies n = false) : firstOf n (rule :: rest) = firstOf n rest := by
  rw [firstOf, h]
  rfl

/-! ## Names and leading children -/

theorem verbatim_applies_iff {n : Node} :
    Rule.verbatim.applies n = true ↔ n.name.bind Key.ofName? = none := by
  rw [Rule.verbatim, Bool.not_eq_true', List.any_eq_false]
  cases hname : n.name with
  | none => simp
  | some name =>
    rw [Option.bind_some, Key.ofName?_eq_none_iff]
    constructor
    · intro h key hkey
      exact h key (Key.mem_all key) (by simp [hkey])
    · intro h key _ hkey
      exact h key (by simpa using (of_decide_eq_true hkey).symm)

/-- The name of a node that is looked up to a key is the tag of that key. -/
theorem name_of_bind_ofName? {name : Option String} {key : Key}
    (h : name.bind Key.ofName? = some key) : name = some key.name := by
  obtain ⟨tag, htag, hkey⟩ := Option.bind_eq_some_iff.mp h
  rw [htag, Key.name_of_ofName? hkey]

theorem aside_applies_iff {n : Node} {key : Key} (h : n.name = some key.name) :
    Rule.aside.applies n = key.isCallout := by
  rw [Bool.eq_iff_iff, Key.isCallout_iff, Rule.aside, List.any_eq_true]
  constructor
  · rintro ⟨other, hmem, hother⟩
    have hsame : some key.name = some other.name := by
      rw [← h]
      exact of_decide_eq_true hother
    rwa [Key.name_injective (Option.some.inj hsame)]
  · intro hmem
    exact ⟨key, hmem, by simp [h]⟩

theorem childTexts_eq_lines (n : Node) : childTexts n = n.lines := by
  rw [childTexts, Node.lines]
  induction n.children with
  | nil => rfl
  | cons child rest ih =>
    rw [List.filterMap_cons, List.filterMap_cons]
    cases child.text with
    | none => exact ih
    | some text =>
      by_cases hempty : text = ""
      · simpa [hempty, Option.filter] using ih
      · simpa [hempty, Option.filter] using ih

/-- The leading element of a node is its first child, where that is an element with a
name. -/
theorem leadingElement?_eq_some_iff {n first : Node} :
    leadingElement? n.children = some first ↔
      n.children.head? = some first ∧ first.isElement = true ∧ first.name.getD "" ≠ "" := by
  have hname : (first.name.any fun name => !name.isEmpty) = true
      ↔ first.name.getD "" ≠ "" := by
    cases first.name with
    | none => simp
    | some name => simp
  rw [leadingElement?, firstElement?, Option.filter_eq_some_iff, Option.filter_eq_some_iff,
    hname, and_assoc]

theorem flat_applies_iff {n : Node} :
    Rule.flat.applies n = true ↔ leadingElement? n.children = none := by
  cases hlead : leadingElement? n.children with
  | some first =>
    obtain ⟨hhead, helem, hname⟩ := leadingElement?_eq_some_iff.mp hlead
    simp [Rule.flat, hhead, helem, hname]
  | none =>
    cases hhead : n.children.head? with
    | none => simp [Rule.flat, hhead]
    | some child =>
      have hnot : ¬ (child.isElement = true ∧ child.name.getD "" ≠ "") := by
        intro h
        have hsome := leadingElement?_eq_some_iff.mpr ⟨hhead, h⟩
        rw [hlead] at hsome
        exact absurd hsome.symm (Option.some_ne_none child)
      simp only [Rule.flat, hhead, Option.any_some, iff_true, Bool.not_eq_true',
        Bool.and_eq_false_imp, decide_eq_false_iff_not]
      intro helem hname
      exact hnot ⟨helem, hname⟩

/-! ## Showing a node by its kind and by its shape -/

/-- A block of a discussion is not shown verbatim. -/
theorem verbatim_applies_of_key {n : Node} {key : Key} (h : n.name = some key.name) :
    Rule.verbatim.applies n = false := by
  rw [← Bool.not_eq_true, verbatim_applies_iff, h, Option.bind_some, Key.ofName?_name]
  exact Option.some_ne_none key

/-- The conditions that make a node a link are those of the rule for links. -/
theorem linked_applies_eq {n first : Node} (h : n.children.head? = some first) :
    Rule.linked.applies n = linksWith first n.text := by
  have hlead : n.leadsWith "Link" "href"
      = (decide (first.name = some linkName) && (first.attribute? targetAttribute).isSome) := by
    rw [Node.leadsWith, h]
    rfl
  have happlies : Rule.linked.applies n = (n.text.isSome && n.leadsWith "Link" "href") := rfl
  rw [happlies, hlead, linksWith, Bool.and_left_comm, Bool.and_assoc]

theorem pictured_applies_eq {n first : Node} (h : n.children.head? = some first) :
    Rule.pictured.applies n = showsImage first := by
  have happlies : Rule.pictured.applies n = n.leadsWith "img" "src" := rfl
  rw [happlies, Node.leadsWith, h]
  rfl

theorem fence_applies_iff {n : Node} :
    Rule.fence.applies n = true ↔ n.name = some Key.codeListing.name :=
  decide_eq_true_iff

theorem dashes_applies_iff {n : Node} :
    Rule.dashes.applies n = true ↔ n.name = some Key.listBullet.name :=
  decide_eq_true_iff

theorem fence_not_applies {n : Node} {key : Key} (h : n.name = some key.name)
    (hkey : key ≠ .codeListing) : Rule.fence.applies n = false := by
  rw [← Bool.not_eq_true, fence_applies_iff, h]
  intro hname
  exact hkey (Key.name_injective (Option.some.inj hname))

theorem dashes_not_applies {n : Node} {key : Key} (h : n.name = some key.name)
    (hkey : key ≠ .listBullet) : Rule.dashes.applies n = false := by
  rw [← Bool.not_eq_true, dashes_applies_iff, h]
  intro hname
  exact hkey (Key.name_injective (Option.some.inj hname))

/-! ### What the rules show -/

section Shown

variable {n first : Node}

theorem shown_of_bullets (n : Node) : bullets? n = Rule.dashes.shows n := by
  rw [bullets?, childTexts_eq_lines]
  cases hlines : n.lines with
  | nil => simp [Rule.dashes, hlines]
  | cons line rest =>
    have hbullet : Markdown.bullet = fun line => "- " ++ line := rfl
    simp [Rule.dashes, hlines, hbullet]

theorem shown_of_listing (n : Node) : some (listing n) = Rule.fence.shows n := by
  simp [Rule.fence, listing, Markdown.codeBlock, childTexts_eq_lines]

theorem requireFirstElement_of_leading (h : leadingElement? n.children = some first) :
    requireFirstElement n = .ok first := by
  obtain ⟨hhead, helem, -⟩ := leadingElement?_eq_some_iff.mp h
  simp [requireFirstElement, Node.firstElement?, firstElement?, hhead, Option.filter, helem]

theorem requireAttribute_of_some {label value : String}
    (h : first.attribute? label = some value) :
    requireAttribute first label = .ok value := by
  rw [requireAttribute, h]

theorem leading?_eq (h : n.children.head? = some first) (label : String) :
    n.leading? label = first.attribute? label := by
  rw [Node.leading?, h]
  rfl

/-- A node with the kind of a link is shown by the rule for links, if it has what makes a
link. -/
theorem render_of_link (hkind : n.kind = .link)
    (hlead : leadingElement? n.children = some first)
    (hlink : linksWith first n.text = true) : n.render = .ok (Rule.linked.shows n) := by
  have hhead := (leadingElement?_eq_some_iff.mp hlead).1
  rw [linksWith, Bool.and_eq_true, Bool.and_eq_true] at hlink
  obtain ⟨⟨-, htext⟩, htarget⟩ := hlink
  obtain ⟨text, htext⟩ := Option.isSome_iff_exists.mp htext
  obtain ⟨url, hurl⟩ := Option.isSome_iff_exists.mp htarget
  have hshows : Rule.linked.shows n = some (Markdown.link text url) := by
    have hleading : n.leading? "href" = some url := (leading?_eq hhead _).trans hurl
    simp [Rule.linked, htext, hleading, Markdown.link]
  rw [hshows, Node.render, hkind]
  simp [requireFirstElement_of_leading hlead, requireAttribute_of_some hurl, htext, bind,
    Except.bind, pure, Except.pure]

/-- A node with the kind of an image is shown by the rule for images, if it has what
makes an image. -/
theorem render_of_image (hkind : n.kind = .image)
    (hlead : leadingElement? n.children = some first)
    (himage : showsImage first = true) : n.render = .ok (Rule.pictured.shows n) := by
  have hhead := (leadingElement?_eq_some_iff.mp hlead).1
  rw [showsImage, Bool.and_eq_true] at himage
  obtain ⟨url, hurl⟩ := Option.isSome_iff_exists.mp himage.2
  have hcaption : alternativeText first
      = ((n.leading? "alt").or (n.leading? "atl")).getD "" := by
    rw [leading?_eq hhead, leading?_eq hhead, alternativeText, alternativeAttributes,
      List.findSome?_cons]
    cases first.attribute? "alt" with
    | some alt => rfl
    | none => simp [List.findSome?]; cases first.attribute? "atl" <;> rfl
  have hshows : Rule.pictured.shows n = some (Markdown.image (alternativeText first) url) := by
    have hleading : n.leading? "src" = some url := (leading?_eq hhead _).trans hurl
    rw [hcaption]
    simp [Rule.pictured, hleading, Markdown.image]
  rw [hshows, Node.render, hkind]
  simp [requireFirstElement_of_leading hlead, requireAttribute_of_some hurl, bind,
    Except.bind, pure, Except.pure]

end Shown

/-! ### All branches together -/

/-- The kind of a block that is neither a listing nor a list depends on what it begins
with. -/
theorem classify_of_key {n : Node} {key : Key} (hkey : n.name.bind Key.ofName? = some key)
    (hlisting : key ≠ .codeListing) (hlist : key ≠ .listBullet) :
    classify n.name n.children n.text =
      match leadingElement? n.children with
      | none => .text
      | some first =>
        if linksWith first n.text then .link
        else if showsImage first then .image
        else if key.isCallout then .callout
        else .wrapper := by
  rw [classify, hkey]
  split
  · rename_i hnone
    exact absurd hnone (Option.some_ne_none key)
  · rename_i hsome
    exact absurd (Option.some.inj hsome) hlisting
  · rename_i hsome
    exact absurd (Option.some.inj hsome) hlist
  · rename_i hsome
    obtain rfl := Option.some.inj hsome
    rfl

/-- The branches of a block that begins with an element: the last four rules in the order
of the conditions that decide the kind. -/
theorem render_of_leading {n first : Node} {key : Key} (hname : n.name = some key.name)
    (hlead : leadingElement? n.children = some first)
    (hkind : n.kind =
      if linksWith first n.text then .link
      else if showsImage first then .image
      else if key.isCallout then .callout
      else .wrapper) :
    n.render
      = .ok (firstOf n [Rule.linked, Rule.pictured, Rule.aside, Rule.wrapped]) := by
  have hhead := (leadingElement?_eq_some_iff.mp hlead).1
  -- The conditions are those of the kind, in the same order, and each is the condition of
  -- one rule; what fails for the kind fails for the rule.
  by_cases hlink : linksWith first n.text = true
  · rw [if_pos hlink] at hkind
    rw [firstOf_of_applies _ ((linked_applies_eq hhead).trans hlink)]
    exact render_of_link hkind hlead hlink
  rw [if_neg hlink] at hkind
  rw [Bool.not_eq_true] at hlink
  rw [firstOf_of_not_applies _ ((linked_applies_eq hhead).trans hlink)]
  by_cases himage : showsImage first = true
  · rw [if_pos himage] at hkind
    rw [firstOf_of_applies _ ((pictured_applies_eq hhead).trans himage)]
    exact render_of_image hkind hlead himage
  rw [if_neg himage] at hkind
  rw [Bool.not_eq_true] at himage
  rw [firstOf_of_not_applies _ ((pictured_applies_eq hhead).trans himage)]
  by_cases hcallout : key.isCallout = true
  · rw [if_pos hcallout] at hkind
    rw [firstOf_of_applies _ ((aside_applies_iff hname).trans hcallout), Node.render, hkind]
    rfl
  rw [if_neg hcallout] at hkind
  rw [Bool.not_eq_true] at hcallout
  rw [firstOf_of_not_applies _ ((aside_applies_iff hname).trans hcallout),
    firstOf_of_applies _ rfl, Node.render, hkind]
  rfl

/-- The rules that remain for a block that is neither a listing nor a list. -/
theorem dispatched_of_key {n : Node} {key : Key} (hname : n.name = some key.name)
    (hlisting : key ≠ .codeListing) (hlist : key ≠ .listBullet) :
    n.dispatched
      = firstOf n [Rule.flat, Rule.linked, Rule.pictured, Rule.aside, Rule.wrapped] := by
  rw [Node.dispatched, Rule.all, firstOf_of_not_applies _ (verbatim_applies_of_key hname),
    firstOf_of_not_applies _ (fence_not_applies hname hlisting),
    firstOf_of_not_applies _ (dashes_not_applies hname hlist)]

/-- The rules that remain where such a block begins with an element. -/
theorem dispatched_of_leading {n first : Node} {key : Key} (hname : n.name = some key.name)
    (hlisting : key ≠ .codeListing) (hlist : key ≠ .listBullet)
    (hlead : leadingElement? n.children = some first) :
    n.dispatched = firstOf n [Rule.linked, Rule.pictured, Rule.aside, Rule.wrapped] := by
  have hflat : Rule.flat.applies n = false := by
    rw [← Bool.not_eq_true, flat_applies_iff, hlead]
    exact Option.some_ne_none first
  rw [dispatched_of_key hname hlisting hlist, firstOf_of_not_applies _ hflat]

/-- A listing is shown by the rule for listings. -/
theorem dispatched_of_listing {n : Node} (hname : n.name = some Key.codeListing.name) :
    n.dispatched = Rule.fence.shows n := by
  rw [Node.dispatched, Rule.all, firstOf_of_not_applies _ (verbatim_applies_of_key hname),
    firstOf_of_applies _ (fence_applies_iff.mpr hname)]

/-- A list is shown by the rule for lists. -/
theorem dispatched_of_list {n : Node} (hname : n.name = some Key.listBullet.name) :
    n.dispatched = Rule.dashes.shows n := by
  rw [Node.dispatched, Rule.all, firstOf_of_not_applies _ (verbatim_applies_of_key hname),
    firstOf_of_not_applies _ (fence_not_applies hname (by decide)),
    firstOf_of_applies _ (dashes_applies_iff.mpr hname)]

/-- Showing a node of the right kind gives what the rules give, and is no fault. The
cases are the branches in which the kind is decided; in each, the rules before the one
that applies are ruled out by the conditions of the branch. -/
theorem render_of_kind {n : Node} (h : n.kind = classify n.name n.children n.text) :
    n.render = .ok n.dispatched := by
  cases hkey : n.name.bind Key.ofName? with
  | none =>
    -- No block: the first rule is for it.
    rw [classify, hkey] at h
    rw [Node.dispatched, Rule.all, firstOf_of_applies _ (verbatim_applies_iff.mpr hkey),
      Node.render, h]
    rfl
  | some key =>
    have hname := name_of_bind_ofName? hkey
    by_cases hlisting : key = .codeListing
    · subst hlisting
      rw [classify, hkey] at h
      rw [dispatched_of_listing hname, ← shown_of_listing, Node.render, h]
    by_cases hlist : key = .listBullet
    · subst hlist
      rw [classify, hkey] at h
      rw [dispatched_of_list hname, ← shown_of_bullets, Node.render, h]
    -- The kind of any other block depends on whether it begins with an element.
    rw [classify_of_key hkey hlisting hlist] at h
    cases hlead : leadingElement? n.children with
    | none =>
      rw [hlead] at h
      rw [dispatched_of_key hname hlisting hlist,
        firstOf_of_applies _ (flat_applies_iff.mpr hlead), Node.render, h]
      rfl
    | some first =>
      rw [hlead] at h
      rw [dispatched_of_leading hname hlisting hlist hlead]
      exact render_of_leading hname hlead h

/-! ## Nodes of markup -/

/-- A node at any depth of a forest. -/
inductive Node.Within (n : Node) : List Node → Prop where
  | top {forest : List Node} (h : n ∈ forest) : n.Within forest
  | inside {forest : List Node} {parent : Node} (h : parent ∈ forest)
      (hn : n.Within parent.children) : n.Within forest

theorem within_nil {n : Node} : ¬ n.Within [] := by
  rintro (h | ⟨h, -⟩)
  · exact absurd h List.not_mem_nil
  · exact absurd h List.not_mem_nil

theorem within_append {n : Node} {as bs : List Node} (h : n.Within (as ++ bs)) :
    n.Within as ∨ n.Within bs := by
  cases h with
  | top h =>
    rcases List.mem_append.mp h with ha | hb
    · exact .inl (.top ha)
    · exact .inr (.top hb)
  | inside h hn =>
    rcases List.mem_append.mp h with ha | hb
    · exact .inl (.inside ha hn)
    · exact .inr (.inside hb hn)

theorem within_singleton {n parent : Node} (h : n.Within [parent]) :
    n = parent ∨ n.Within parent.children := by
  cases h with
  | top h => exact .inl (List.mem_singleton.mp h)
  | inside h hn => exact .inr (List.mem_singleton.mp h ▸ hn)

/-- Every node that stands for no element has the kind its missing name calls for. -/
theorem kind_of_within_leaf {n : Node} {description text : List Char}
    (h : n.Within [.leaf description text]) :
    n.kind = classify n.name n.children n.text := by
  rcases within_singleton h with rfl | hbelow
  · rfl
  · exact absurd hbelow within_nil

mutual

/-- The kind of every node that an item makes, at any depth, is the one its name, its
children and its text call for. The induction is on the item: an element classifies its
node itself, and everything below it is a node of its content. -/
theorem kind_of_within_item {n : Node} (scope : Markup.Scope) :
    (item : Markup.Item) → n.Within (nodesOfItem scope item) →
      n.kind = classify n.name n.children n.text
  | .text text, h => by
    rw [nodesOfItem] at h
    split at h
    · exact absurd h within_nil
    · exact kind_of_within_leaf h
  | .entity name, h => by
    rw [nodesOfItem] at h
    exact kind_of_within_leaf h
  | .comment text, h => by
    rw [nodesOfItem] at h
    exact kind_of_within_leaf h
  | .instruction target data, h => by
    rw [nodesOfItem] at h
    exact kind_of_within_leaf h
  | .element tag content, h => by
    rw [nodesOfItem] at h
    -- Only here do declarations come into force, so the scope is any one.
    rcases within_singleton h with rfl | hbelow
    · rfl
    · exact kind_of_within_content (tag.declarations ++ scope) content hbelow

theorem kind_of_within_content {n : Node} (scope : Markup.Scope) :
    (items : List Markup.Item) → n.Within (nodesOfContent scope items) →
      n.kind = classify n.name n.children n.text
  | [], h => by
    rw [nodesOfContent] at h
    exact absurd h within_nil
  | item :: rest, h => by
    rw [nodesOfContent] at h
    rcases within_append h with hitem | hrest
    · exact kind_of_within_item scope item hitem
    · exact kind_of_within_content scope rest hrest

end

/-- The nodes of markup are those of its root element, where none has a stray name. -/
theorem parse_eq_ok_iff {markup : String} {nodes : List Node} :
    parse markup = .ok nodes ↔
      ∃ root, Markup.read markup.toList = .ok root
        ∧ strayNameIn? root.tag.declarations root.content = none ∧ nodes = nodesOf root := by
  rw [parse]
  cases hread : Markup.read markup.toList with
  | error fault =>
    have hfault : (Except.error fault : Except Markup.Fault Markup.Element).mapError
        ParseFault.malformed = .error (.malformed fault) := rfl
    rw [hfault]
    constructor
    · exact nofun
    · rintro ⟨root, hroot, -⟩
      cases hroot
  | ok root =>
    have hroot : (Except.ok root : Except Markup.Fault Markup.Element).mapError
        ParseFault.malformed = .ok root := rfl
    rw [hroot]
    simp only [bind, Except.bind, Except.ok.injEq, exists_eq_left']
    cases hstray : strayNameIn? root.tag.declarations root.content with
    | none => simp [pure, Except.pure, eq_comm]
    | some name => simp

/-- **Showing goes by shape.** A node whose kind is the one that its name, its children
and its text call for is shown as the first rule says that is for it, and its showing is
never a fault. Every node of markup that is read is of that sort, at any depth. -/
theorem render_eq_dispatched :
    (∀ n : Node, n.kind = classify n.name n.children n.text →
      n.render = .ok n.dispatched)
    ∧ ∀ (markup : String) (nodes : List Node), parse markup = .ok nodes →
      ∀ n : Node, n.Within nodes → n.render = .ok n.dispatched := by
  refine ⟨fun n h => render_of_kind h, ?_⟩
  -- Whatever was read, the nodes of its root element have the right kind at any depth.
  intro markup nodes hparse n hn
  obtain ⟨root, -, -, rfl⟩ := parse_eq_ok_iff.mp hparse
  exact render_of_kind (kind_of_within_content root.tag.declarations root.content hn)

/-- A callout that begins with a link, after a blank line of layout. -/
def linkingNote : String :=
  "<d><Note>\n<Link href='u'>t</Link></Note></d>"

/-- A paragraph put together by hand: it begins with a link but has no text. -/
def silentParagraph : Node :=
  { name := some "Para", description := "", text := none, isElement := true
    attributes := [], kind := .wrapper
    children := [{ name := some "Link", description := "<Link/>", text := none
                   isElement := true, attributes := [("href", "u")], children := []
                   kind := .passthrough }] }

/-- The callout is shown as a link, since that rule comes first; the paragraph is not,
since it has no text. -/
theorem render_linkingNote_and_silentParagraph :
    (∃ (nodes : List Node) (n : Node), parse linkingNote = .ok nodes
      ∧ n.Within nodes ∧ n.render = .ok (some "[\nt](u)"))
    ∧ silentParagraph.kind
        = classify silentParagraph.name silentParagraph.children silentParagraph.text
    ∧ silentParagraph.render = .ok (some "<Link/>") := by
  have hshown : (match parse linkingNote with
      | .ok nodes => nodes.map Node.dispatched
      | .error _ => []) = [some "[\nt](u)"] := by decide +kernel
  have hkind : silentParagraph.kind
      = classify silentParagraph.name silentParagraph.children silentParagraph.text := by
    decide
  have hsilent : silentParagraph.dispatched = some "<Link/>" := by decide
  refine ⟨?_, hkind, ?_⟩
  · cases hparse : parse linkingNote with
    | error fault =>
      rw [hparse] at hshown
      exact absurd hshown (by simp)
    | ok nodes =>
      simp only [hparse] at hshown
      obtain ⟨n, hn, hd⟩ : ∃ n ∈ nodes, n.dispatched = some "[\nt](u)" := by
        have hmem : some "[\nt](u)" ∈ nodes.map Node.dispatched := by
          rw [hshown]
          exact List.mem_singleton.mpr rfl
        exact List.mem_map.mp hmem
      refine ⟨nodes, n, rfl, .top hn, ?_⟩
      rw [render_eq_dispatched.2 linkingNote nodes hparse n (.top hn), hd]
  · rw [render_eq_dispatched.1 silentParagraph hkind, hsilent]

end SymbolDocs.Discussion
