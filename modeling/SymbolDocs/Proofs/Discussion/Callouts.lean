/-
Callouts in the running text.

Callouts have sections of their own, but whether a callout is left out of the running text is
decided late: the rules for plain text, links and images come first. So a callout is silent
only if it begins with an element that is neither a link nor an image, or if it has no text
(`fragment?_of_callout`); any other is shown in the running text as well.

Without a silent callout the same is shown (`shown_of_pruned`). That what is left of the markup
is read as the rest of the tree holds where no two texts become one, nothing is declared, and
nothing was complained of (`pruned_of_cut`).
-/
import SymbolDocs.Proofs.Discussion.Spaced
import SymbolDocs.Proofs.Markup.Removing
import SymbolDocs.Proofs.Symbol.Batch

set_option autoImplicit false

namespace SymbolDocs.Discussion

open Markup (Item Removal Seamless removal)

/-! ## What is shown of a callout -/

/-- Whether a node is none but a callout. -/
def Node.isCallout (n : Node) : Bool :=
  isCalloutName n.name

/-- Whether nothing is shown of a callout: it begins with an element that makes it neither a
link nor an image, or it begins with no element and has no text. -/
def Node.isSilent (n : Node) : Bool :=
  if Rule.flat.applies n then n.text.getD "" = ""
  else !Rule.linked.applies n && !Rule.pictured.applies n

section Shown

variable {n : Node}

theorem exists_key_of_isCallout (h : n.isCallout = true) :
    ∃ key : Key, n.name = some key.name ∧ key.isCallout = true := by
  rw [Node.isCallout, isCalloutName] at h
  cases hkey : n.name.bind Key.ofName? with
  | none =>
    rw [hkey] at h
    exact absurd h Bool.false_ne_true
  | some key =>
    rw [hkey] at h
    exact ⟨key, name_of_bind_ofName? hkey, h⟩

theorem exists_leading_of_leadsWith {name label : String} (h : n.leadsWith name label = true) :
    ∃ value, n.leading? label = some value := by
  rw [Node.leadsWith] at h
  cases hhead : n.children.head? with
  | none =>
    rw [hhead] at h
    exact absurd h Bool.false_ne_true
  | some child =>
    rw [hhead, Option.any_some, Bool.and_eq_true] at h
    obtain ⟨value, hvalue⟩ := Option.isSome_iff_exists.mp h.2
    exact ⟨value, by rw [Node.leading?, hhead]; exact hvalue⟩

/-- What the rules for links and images show is never empty. -/
theorem shown_of_linked (h : Rule.linked.applies n = true) :
    (Rule.linked.shows n).filter (fun text => !text.isEmpty) ≠ none := by
  obtain ⟨htext, hleads⟩ := Bool.and_eq_true_iff.mp h
  obtain ⟨text, htext⟩ := Option.isSome_iff_exists.mp htext
  obtain ⟨target, htarget⟩ := exists_leading_of_leadsWith hleads
  have hshows : Rule.linked.shows n = some ("[" ++ text ++ "](" ++ target ++ ")") := by
    simp [Rule.linked, htext, htarget]
  rw [hshows]
  simp [Option.filter]

theorem shown_of_pictured (h : Rule.pictured.applies n = true) :
    (Rule.pictured.shows n).filter (fun text => !text.isEmpty) ≠ none := by
  obtain ⟨source, hsource⟩ := exists_leading_of_leadsWith h
  have hshows : ∃ caption, Rule.pictured.shows n
      = some ("![" ++ caption ++ "](" ++ source ++ ")") := by
    simp [Rule.pictured, hsource]
  obtain ⟨caption, hcaption⟩ := hshows
  rw [hcaption]
  simp [Option.filter]

/-- Nothing is shown of the silent callouts, and something of all others. -/
theorem shown?_eq_none_iff (h : n.isCallout = true) : n.shown? = none ↔ n.isSilent = true := by
  obtain ⟨key, hname, hcallout⟩ := exists_key_of_isCallout h
  have hlisting : key ≠ .codeListing := by
    rintro rfl
    exact absurd hcallout (by decide)
  have hlist : key ≠ .listBullet := by
    rintro rfl
    exact absurd hcallout (by decide)
  have haside : Rule.aside.applies n = true := (aside_applies_iff hname).trans hcallout
  rw [Node.shown?, dispatched_of_key hname hlisting hlist, Node.isSilent]
  cases hflat : Rule.flat.applies n with
  | true =>
    rw [firstOf_of_applies _ hflat, if_pos rfl]
    show n.text.filter _ = none ↔ _
    cases n.text with
    | none => simp
    | some text => simp [Option.filter]
  | false =>
    rw [firstOf_of_not_applies _ hflat, if_neg Bool.false_ne_true]
    cases hlinked : Rule.linked.applies n with
    | true =>
      rw [firstOf_of_applies _ hlinked]
      exact iff_of_false (shown_of_linked hlinked) Bool.false_ne_true
    | false =>
      rw [firstOf_of_not_applies _ hlinked]
      cases hpictured : Rule.pictured.applies n with
      | true =>
        rw [firstOf_of_applies _ hpictured]
        exact iff_of_false (shown_of_pictured hpictured) Bool.false_ne_true
      | false =>
        rw [firstOf_of_not_applies _ hpictured, firstOf_of_applies _ haside]
        exact iff_of_true rfl rfl

/-- So it is with the fragments of a discussion that is read. -/
theorem fragment?_of_callout {markup : String} {nodes : List Node}
    (hparse : parse markup = .ok nodes) (hn : n ∈ nodes) (h : n.isCallout = true) :
    n.fragment? = .ok none ↔ n.isSilent = true := by
  rw [fragment?_of_render (render_of_parse hparse hn), Except.ok.injEq, shown?_eq_none_iff h]

/-- The fragments are those of the nodes without the silent callouts. -/
theorem fragments_of_silent {markup : String} {nodes : List Node}
    (hparse : parse markup = .ok nodes) :
    fragments (nodes.filter fun n => !(n.isCallout && n.isSilent)) = fragments nodes := by
  have hrender (n : Node) (hn : n ∈ nodes) : n.render = .ok n.dispatched :=
    render_of_parse hparse hn
  rw [fragments_of_render hrender,
    fragments_of_render fun n hn => hrender n (List.mem_of_mem_filter hn), List.filterMap_filter]
  refine congrArg Except.ok (List.filterMap_congr fun n _ => ?_)
  cases hsilent : n.isCallout && n.isSilent with
  | false => rfl
  | true =>
    obtain ⟨hcallout, hsilent⟩ := Bool.and_eq_true_iff.mp hsilent
    exact ((shown?_eq_none_iff hcallout).mpr hsilent).symm

end Shown

/-! ## Content without a callout -/

/-- Whether an element of a name makes the node of a callout. -/
def isCalloutTag (name : Markup.QName) : Prop :=
  isCalloutName (some (String.ofList name.part)) = true

section Content

variable {content content' : List Item}

/-- A run of text makes a node by itself. -/
theorem nodesOfContent_run (scope : Markup.Scope) (run : Option (List Char)) :
    nodesOfContent scope (Markup.runItems run)
      = if Text.allBlank (run.getD []) then []
        else [.leaf (describeText (run.getD [])) (run.getD [])] := by
  cases run with
  | none => rfl
  | some text => exact List.append_nil _

/-- Two runs of text of which no text is made that was not there have the nodes of the one
they become. -/
theorem nodesOfContent_seamless (scope : Markup.Scope) {before after run : Option (List Char)}
    (hrun : run.getD [] = before.getD [] ++ after.getD [])
    (hseam : Seamless (before.getD []) (after.getD [])) :
    nodesOfContent scope (Markup.runItems run)
      = nodesOfContent scope (Markup.runItems before)
        ++ nodesOfContent scope (Markup.runItems after) := by
  have hempty : Text.allBlank [] = true := rfl
  rw [nodesOfContent_run, nodesOfContent_run, nodesOfContent_run, hrun]
  rcases hseam with hbefore | hafter | hblank
  · rw [hbefore, if_pos hempty]
    rfl
  · rw [hafter, if_pos hempty, List.append_nil, List.append_nil]
  · obtain ⟨hbefore, hafter⟩ := Bool.and_eq_true_iff.mp (Text.allBlank_append _ _ ▸ hblank)
    rw [if_pos hblank, if_pos hbefore, if_pos hafter]
    rfl

/-- Content without a callout has the nodes of the content, but for that of the callout. -/
theorem nodes_of_removal (h : (removal isCalloutTag).content content content')
    (scope : Markup.Scope) :
    (∃ pre n post, nodesOfContent scope content = pre ++ n :: post
      ∧ nodesOfContent scope content' = pre ++ post ∧ n.isCallout = true)
    ∧ (strayNameIn? scope content = none → strayNameIn? scope content' = none) := by
  obtain ⟨tag, inner, left, right, before, after, run, hsort, rfl, rfl, hrun, hseam⟩ := h
  obtain ⟨n, hn, hname, -⟩ := exists_node_of_element scope tag inner
  refine ⟨⟨nodesOfContent scope left ++ nodesOfContent scope (Markup.runItems before), n,
    nodesOfContent scope (Markup.runItems after) ++ nodesOfContent scope right, ?_, ?_, ?_⟩, ?_⟩
  · simp only [nodesOfContent_append, nodesOfContent, hn, List.append_assoc, List.cons_append,
      List.nil_append]
  · simp only [nodesOfContent_append, nodesOfContent_seamless scope hrun hseam,
      List.append_assoc]
  · rw [Node.isCallout, hname]
    exact hsort
  · simp only [strayNameIn?_append, strayNameIn?, strayNameIn?_runItems, Option.or_none,
      Option.none_or, Option.or_eq_none_iff]
    rintro ⟨hleft, -, hright⟩
    exact ⟨hleft, hright⟩

end Content

/-! ## Markup without a callout -/

/-- One markup has the nodes of the other, but for one. -/
def Lacks (n : Node) (markup markup' : String) : Prop :=
  ∃ pre post, parse markup = .ok (pre ++ n :: post) ∧ parse markup' = .ok (pre ++ post)

/-- One markup has the nodes of the other, but for a callout of which nothing is shown. -/
def Pruned (markup markup' : String) : Prop :=
  ∃ n : Node, n.isCallout = true ∧ n.isSilent = true ∧ Lacks n markup markup'

/-- One markup is the other after a callout that stands directly in the root element was
taken out as it is written. -/
def Cut (markup markup' : String) : Prop :=
  Nonempty (Removal isCalloutTag markup.toList markup'.toList)

section Markup

variable {markup markup' : String} {nodes : List Node}

/-- What is left of markup is read without the callout, if nothing was complained of, or if it
is accepted after all. -/
theorem lacks_of_cut (hplain : IsPlain markup) (hparse : parse markup = .ok nodes)
    (hcut : Cut markup markup')
    (haccepted : Markup.complaintsOn markup.toList = 0
      ∨ ∃ root, Markup.read markup'.toList = .ok root) :
    ∃ n : Node, n.isCallout = true ∧ Lacks n markup markup' := by
  obtain ⟨r⟩ := hcut
  obtain ⟨root, hread, hstray, rfl⟩ := parse_eq_ok_iff.mp hparse
  obtain ⟨-, root', htag, hcontent, honly, hclean⟩ :=
    Markup.read_of_removal hread hplain.2 r
  have hread' : Markup.read markup'.toList = .ok root' := by
    rcases haccepted with hnone | ⟨other, hother⟩
    · exact (hclean hnone).1
    · rw [hother, honly other hother]
  obtain ⟨⟨pre, n, post, hnodes, hnodes', hcallout⟩, hstray'⟩ :=
    nodes_of_removal hcontent root.tag.declarations
  refine ⟨n, hcallout, pre, post, ?_, parse_eq_ok_iff.mpr ⟨root', hread', ?_, ?_⟩⟩
  · rw [hparse, nodesOf, hnodes]
  · rw [htag]
    exact hstray' hstray
  · rw [nodesOf, htag, hnodes']

/-- What is left of markup declares nothing either, and nothing is complained of. -/
theorem plain_of_cut (hplain : IsPlain markup) (hnone : Markup.complaintsOn markup.toList = 0)
    (hcut : Cut markup markup') :
    IsPlain markup' ∧ Markup.complaintsOn markup'.toList = 0 := by
  obtain ⟨r⟩ := hcut
  obtain ⟨⟨root, hread⟩, huntyped⟩ := hplain
  obtain ⟨huntyped', root', -, -, -, hclean⟩ := Markup.read_of_removal hread huntyped r
  exact ⟨⟨⟨root', (hclean hnone).1⟩, huntyped'⟩, (hclean hnone).2⟩

/-- **Callouts are taken out of markup one after another**, if nothing is shown of any. -/
theorem pruned_of_cut (hplain : IsPlain markup)
    (hnone : Markup.complaintsOn markup.toList = 0) (hparse : parse markup = .ok nodes)
    (hsilent : ∀ n ∈ nodes, n.isCallout = true → n.isSilent = true)
    (h : Relation.ReflTransGen Cut markup markup') :
    Relation.ReflTransGen Pruned markup markup' := by
  -- What carries the induction: the markup reached is as good as the one it started from.
  suffices hreached : Relation.ReflTransGen Pruned markup markup' ∧ IsPlain markup'
      ∧ Markup.complaintsOn markup'.toList = 0
      ∧ ∃ nodes', parse markup' = .ok nodes' ∧ nodes' ⊆ nodes from hreached.1
  induction h with
  | refl => exact ⟨.refl, hplain, hnone, nodes, hparse, List.Subset.refl _⟩
  | @tail middle last _ hcut ih =>
    obtain ⟨hpruned, hplain', hnone', nodes', hparse', hsubset⟩ := ih
    obtain ⟨n, hcallout, hlacks⟩ := lacks_of_cut hplain' hparse' hcut (.inl hnone')
    obtain ⟨hplain'', hnone''⟩ := plain_of_cut hplain' hnone' hcut
    obtain ⟨pre, post, hbefore, hafter⟩ := id hlacks
    obtain rfl := Except.ok.inj (hparse'.symm.trans hbefore)
    have hn : n.isSilent = true :=
      hsilent n (hsubset (List.mem_append_right _ List.mem_cons_self)) hcallout
    refine ⟨hpruned.tail ⟨n, hcallout, hn, hlacks⟩, hplain'', hnone'', _, hafter, ?_⟩
    exact fun other hother =>
      hsubset (((List.sublist_cons_self n post).append_left pre).subset hother)

/-- Without callouts of which nothing is shown the same is shown. -/
theorem shown_of_pruned (hparse : parse markup = .ok nodes)
    (h : Relation.ReflTransGen Pruned markup markup') :
    ∃ nodes', parse markup' = .ok nodes'
      ∧ nodes'.filterMap Node.shown? = nodes.filterMap Node.shown? := by
  induction h with
  | refl => exact ⟨nodes, hparse, rfl⟩
  | tail _ hpruned ih =>
    obtain ⟨nodes', hparse', hshown⟩ := ih
    obtain ⟨n, hcallout, hsilent, pre, post, hbefore, hafter⟩ := hpruned
    obtain rfl := Except.ok.inj (hparse'.symm.trans hbefore)
    refine ⟨_, hafter, Eq.trans ?_ hshown⟩
    rw [List.filterMap_append, List.filterMap_append, List.filterMap_cons,
      (shown?_eq_none_iff hcallout).mpr hsilent]

end Markup

end SymbolDocs.Discussion

namespace SymbolDocs

open Discussion (Node IsPlain Cut Pruned discussing)

/-! ## Records without callouts in their markup -/

theorem comment_of_shown {r r' : Record} {markup markup' : String} {nodes nodes' : List Node}
    (hr : r.text? "docDiscussionXML" = some markup)
    (hr' : r'.text? "docDiscussionXML" = some markup')
    (hparse : Discussion.parse markup = .ok nodes)
    (hparse' : Discussion.parse markup' = .ok nodes')
    (hshown : nodes'.filterMap Node.shown? = nodes.filterMap Node.shown?)
    (hsame : Record.SameBut "docDiscussionXML" r' r) : r'.comment = r.comment := by
  have hstray : r'.stray? = r.stray? := by
    rw [Record.stray?, Record.stray?, hr, hr']
    simp only [hparse, hparse']
  have hrunning : r'.running = r.running := by
    rw [Record.running, Record.running, hr, hr']
    simp only [hparse, hparse', hshown]
  rw [Record.comment_eq, Record.comment_eq, hstray, Record.prose_of_sameBut hsame hrunning]

/-- **Callouts are not inlined, unless they begin like other blocks.** Of a callout there is no
fragment exactly if it is silent. Without the silent callouts there are the same fragments, and
a record has the same discussion, notices and comment. Where markup declares nothing and
nothing is complained of, such callouts may be taken out of it as they are written; and a
callout may be in any case if what is left is accepted. -/
theorem discussion?_of_pruned {markup : String} {nodes : List Node}
    (hparse : Discussion.parse markup = .ok nodes) :
    (∀ n ∈ nodes, n.isCallout = true → (n.fragment? = .ok none ↔ n.isSilent = true))
    ∧ Discussion.fragments (nodes.filter fun n => !(n.isCallout && n.isSilent))
      = Discussion.fragments nodes
    ∧ (∀ markup', Relation.ReflTransGen Pruned markup markup' →
      ∀ r r' : Record, r.text? "docDiscussionXML" = some markup →
        r'.text? "docDiscussionXML" = some markup' →
        r'.discussion? = r.discussion? ∧ r'.discussionNotices = r.discussionNotices
        ∧ (Record.SameBut "docDiscussionXML" r' r → r'.comment = r.comment))
    ∧ (IsPlain markup → Markup.complaintsOn markup.toList = 0 →
      (∀ n ∈ nodes, n.isCallout = true → n.isSilent = true) →
      ∀ markup', Relation.ReflTransGen Cut markup markup' →
        Relation.ReflTransGen Pruned markup markup')
    ∧ (IsPlain markup → ∀ markup', Cut markup markup' →
      (Markup.complaintsOn markup.toList = 0 ∨ ∃ root, Markup.read markup'.toList = .ok root) →
      ∃ n : Node, n.isCallout = true ∧ Discussion.Lacks n markup markup') := by
  refine ⟨fun n hn => Discussion.fragment?_of_callout hparse hn,
    Discussion.fragments_of_silent hparse, ?_, ?_, ?_⟩
  · intro markup' hpruned r r' hr hr'
    obtain ⟨nodes', hparse', hshown⟩ := Discussion.shown_of_pruned hparse hpruned
    obtain ⟨hdiscussion, hnotices⟩ :=
      discussion?_of_agreeIn hr hr' (.inr ⟨nodes, nodes', hparse, hparse', hshown⟩)
    exact ⟨hdiscussion, hnotices, comment_of_shown hr hr' hparse hparse' hshown⟩
  · intro hplain hnone hsilent markup' hcut
    exact Discussion.pruned_of_cut hplain hnone hparse hsilent hcut
  · intro hplain markup' hcut haccepted
    exact Discussion.lacks_of_cut hplain hparse hcut haccepted

/-- The place between two line ends after a paragraph. -/
def gapAfterParagraph : Markup.Gap "<r><Para>a</Para>\n\n</r>".toList where
  standalone := false
  before := "<r><Para>a</Para>\n".toList
  after := "\n</r>".toList
  passed := (Markup.tokens "<r><Para>a</Para>\n".toList).toOption.getD []
  coming := ((Markup.tokens "<r><Para>a</Para>\n\n</r>".toList).toOption.getD []).drop 5
  body_eq := by decide +kernel
  tokens_before := by decide +kernel
  tokens_all := by decide +kernel
  line_whole := by decide +kernel

/-- A note that begins with a paragraph, taken out from between two line ends. -/
def noteAfterParagraph : Markup.Removal Discussion.isCalloutTag
    "<r><Para>a</Para>\n<Note><Para>n</Para></Note>\n</r>".toList
    "<r><Para>a</Para>\n\n</r>".toList where
  gap := gapAfterParagraph
  root := .plain "r".toList
  around := by decide +kernel
  name := .plain "Note".toList
  sorted := by
    rw [Discussion.isCalloutTag]
    decide +kernel
  written := "<Note><Para>n</Para></Note>".toList
  span := [.startTag { name := .plain "Note".toList, attributes := [] },
    .startTag { name := .plain "Para".toList, attributes := [] }, .char 'n',
    .endTag (.plain "Para".toList), .endTag (.plain "Note".toList)]
  spans := .full { name := .plain "Note".toList, attributes := [] } (.plain "Note".toList) rfl
    (.element { name := .plain "Para".toList, attributes := [] } (.plain "Para".toList)
      (.leaf (t := .char 'n') rfl .nil) .nil)
  begins := by decide +kernel
  scanned := by decide +kernel
  seamless := by
    rw [Markup.Seamless]
    decide +kernel
  takes := by
    rw [Markup.Gap.Takes]
    decide +kernel

/-- Without the note the discussion is the paragraph, as it is with it. -/
theorem discussion?_noteAfterParagraph :
    (discussing "<r><Para>a</Para>\n<Note><Para>n</Para></Note>\n</r>").discussion?
      = .ok (some "a")
    ∧ (discussing "<r><Para>a</Para>\n\n</r>").discussion?
      = (discussing "<r><Para>a</Para>\n<Note><Para>n</Para></Note>\n</r>").discussion?
    ∧ ∃ n : Node, n.isCallout = true ∧ n.fragment? = .ok none
      ∧ Discussion.Lacks n "<r><Para>a</Para>\n<Note><Para>n</Para></Note>\n</r>"
        "<r><Para>a</Para>\n\n</r>" := by
  have hread : (Markup.read
      "<r><Para>a</Para>\n<Note><Para>n</Para></Note>\n</r>".toList).toOption.isSome = true := by
    decide +kernel
  obtain ⟨root, hroot⟩ := Option.isSome_iff_exists.mp hread
  have hplain : IsPlain "<r><Para>a</Para>\n<Note><Para>n</Para></Note>\n</r>" :=
    ⟨⟨root, eq_ok_of_toOption hroot⟩, by decide +kernel⟩
  have hnodes : (Discussion.parse
      "<r><Para>a</Para>\n<Note><Para>n</Para></Note>\n</r>").toOption.map
        (fun nodes => nodes.all fun n => !n.isCallout || n.isSilent) = some true := by
    decide +kernel
  obtain ⟨nodes, hsome, hall⟩ := Option.map_eq_some_iff.mp hnodes
  have hparse := eq_ok_of_toOption hsome
  obtain ⟨hfragments, -, hpruned, hcuts, hcut⟩ := discussion?_of_pruned hparse
  have hsilent (n : Node) (hn : n ∈ nodes) (hcallout : n.isCallout = true) :
      n.isSilent = true := by
    have hor := List.all_eq_true.mp hall n hn
    rw [hcallout] at hor
    exact hor
  have hnone : Markup.complaintsOn
      "<r><Para>a</Para>\n<Note><Para>n</Para></Note>\n</r>".toList = 0 := by
    decide +kernel
  have hsteps := hcuts hplain hnone hsilent _ (.single ⟨noteAfterParagraph⟩)
  obtain ⟨n, hcallout, hlacks⟩ := hcut hplain _ ⟨noteAfterParagraph⟩ (.inl hnone)
  obtain ⟨pre, post, hbefore, -⟩ := id hlacks
  have hn : n ∈ nodes := by
    obtain rfl := Except.ok.inj (hparse.symm.trans hbefore)
    exact List.mem_append_right _ List.mem_cons_self
  have hfragment : n.fragment? = .ok none :=
    (hfragments n hn hcallout).mpr (hsilent n hn hcallout)
  have hsame := (hpruned _ hsteps (discussing _) (discussing _) rfl rfl).1
  exact ⟨by decide +kernel, hsame, n, hcallout, hfragment, hlacks⟩

/-- A note with a text or with a link is shown in the running text. And markup without a note
can differ where the note itself is not shown: the texts around it become one, an entity that
was first used in it is first used elsewhere, and a complaint is not forgiven any more. -/
theorem discussion?_shownCallouts :
    (discussing "<r><Note>x</Note></r>").discussion? = .ok (some "x")
    ∧ (discussing "<r></r>").discussion? = .ok none
    ∧ (discussing "<r><Note><Link href='u'>t</Link></Note></r>").discussion?
      = .ok (some "[t](u)")
    ∧ (discussing "<r>a<Note><Para>n</Para></Note>b</r>").discussion? = .ok (some "a\n\nb")
    ∧ (discussing "<r>ab</r>").discussion? = .ok (some "ab")
    ∧ (discussing ("<!DOCTYPE r [<!ENTITY e \"a&#13;b\">]><r><Note><Para>&e;</Para></Note>"
        ++ "<Para><Link href=\"&e;\">t</Link></Para></r>")).discussion?
      = .ok (some "[t](a\nb)")
    ∧ (discussing ("<!DOCTYPE r [<!ENTITY e \"a&#13;b\">]><r>"
        ++ "<Para><Link href=\"&e;\">t</Link></Para></r>")).discussion?
      = .ok (some "[t](a\rb)")
    ∧ (discussing "<r><Para p:a='1'>x</Para><Note><Para/><?xmlx?></Note></r>").discussion?
      = .ok (some "x")
    ∧ (discussing "<r><Para p:a='1'>x</Para></r>").discussion? = .ok none := by
  decide +kernel

end SymbolDocs
