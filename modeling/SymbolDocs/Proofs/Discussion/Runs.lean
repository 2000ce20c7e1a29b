/-
The descriptions of runs of text.

The description of a run of text hides ampersands and angle brackets and leaves everything
else as it is, carriage returns among it. Read again, between the tags of any root element,
it has one node, which is a run again; but a carriage return that stands openly in markup is
a line end, alone or with the line feed after it, and is read as one line feed. So what comes
back is the run with its line ends made one (`parse_describeText`), and it is the run that was
described exactly if that has no carriage return in it (`run_read_again`). A run has one where
the document gives it by a reference; in the description of the element around the run it is
hidden behind a reference again.

The scanner may still hold a pending line end where the description ends. The tag after it
begins with no line feed, so nothing comes of it.
-/
import SymbolDocs.Proofs.Discussion.Blocks
import SymbolDocs.Proofs.Discussion.Texts
import SymbolDocs.Proofs.Markup.Gaps
import SymbolDocs.Proofs.Markup.Printing
import SymbolDocs.Text.Lines

set_option autoImplicit false

namespace SymbolDocs.Discussion

open Markup (Escaping Item Mode Place scan textToken)
open Text (unifyLineEnds)

/-! ## Scanning a description -/

theorem describeText_cons (c : Char) (rest : List Char) :
    describeText (c :: rest)
      = (if c = '\r' then [c] else Markup.spell Escaping.least.inText c) ++ describeText rest := by
  rw [describeText, List.flatMap_cons, Markup.textChar_eq_spell]
  rfl

theorem describeText_return (rest : List Char) :
    describeText ('\r' :: rest) = '\r' :: describeText rest := by
  rw [describeText_cons, if_pos rfl]
  rfl

theorem isAllowed_describeText {text : List Char} (h : text.all Markup.isAllowed = true) :
    (describeText text).all Markup.isAllowed = true := by
  rw [describeText, List.all_flatMap, List.all_eq_true]
  intro c hc
  have hallowed := List.all_eq_true.mp h c hc
  split
  · rw [List.all_cons, hallowed]
    rfl
  · rw [Markup.textChar_eq_spell]
    exact Markup.isAllowed_spell _ hallowed

/-- An open carriage return completes a line feed and leaves a line end pending. -/
theorem scan_return (brackets : Nat) (returned : Bool) (rest : List Char) :
    scan ⟨.content brackets, returned⟩ ('\r' :: rest)
      = (scan ⟨.content 0, true⟩ rest).map fun a => (a.1, .char '\n' :: a.2) := by
  have hadvance : Place.advance ⟨.content brackets, returned⟩ '\r'
      = .ok (⟨.content 0, true⟩, some (.char '\n')) := rfl
  rw [scan, hadvance]
  change scan ⟨.content 0, true⟩ rest >>= _ = _
  cases scan ⟨.content 0, true⟩ rest with
  | error fault => rfl
  | ok answer => rfl

/-- A line feed is nothing more where a line end is pending. -/
theorem scan_feed_of_returned (brackets : Nat) (rest : List Char) :
    scan ⟨.content brackets, true⟩ ('\n' :: rest) = scan ⟨.content brackets, false⟩ rest := by
  have hadvance : Place.advance ⟨.content brackets, true⟩ '\n'
      = .ok (⟨.content brackets, false⟩, none) := rfl
  rw [scan, hadvance]
  change scan ⟨.content brackets, false⟩ rest >>= _ = _
  cases scan ⟨.content brackets, false⟩ rest with
  | error fault => rfl
  | ok answer => rfl

/-- A character other than a carriage return is scanned as it would be with all special
characters hidden, unless it belongs to a line end that is pending. -/
theorem scan_spell {c : Char} (brackets : Nat) (returned : Bool)
    (hpending : returned = true → c ≠ '\n') (rest : List Char) :
    ∃ middle, scan ⟨.content brackets, returned⟩ (Markup.spell Escaping.least.inText c ++ rest)
      = (scan ⟨.content middle, false⟩ rest).map
          fun a => (a.1, textToken Escaping.least.inText c :: a.2) := by
  obtain ⟨middle, hleads⟩ := Markup.leads_textChar .least c brackets
  refine ⟨middle, ?_⟩
  have hsettled : scan ⟨.content brackets, returned⟩
        (Markup.spell Escaping.least.inText c ++ rest)
      = scan ⟨.content brackets, false⟩ (Markup.spell Escaping.least.inText c ++ rest) := by
    cases returned with
    | false => rfl
    | true =>
      -- What is written begins with the character itself or with an ampersand.
      obtain ⟨first, more, hspell, hfirst⟩ : ∃ first more,
          Markup.spell Escaping.least.inText c = first :: more ∧ first ≠ '\n' := by
        cases hhidden : Markup.hidden? Escaping.least.inText c with
        | none => exact ⟨c, [], by rw [Markup.spell, hhidden]; rfl, hpending rfl⟩
        | some reference =>
          have hall : ∀ entry ∈ Markup.references, ∃ more, entry.2 = '&' :: more := by
            simp [Markup.references]
          obtain ⟨more, hmore⟩ := hall _ (Markup.mem_references_of_hidden? hhidden)
          exact ⟨'&', more, by rw [Markup.spell, hhidden]; exact hmore, by decide⟩
      rw [hspell, List.cons_append]
      exact Markup.scan_of_head hfirst true
  rw [hsettled, Markup.scan_append_of_scan hleads]
  rfl

/-- **A description is scanned as the run with its line ends made one.** The induction
follows the line ends; a line feed at the beginning is no part of a line end that is pending. -/
theorem scan_describeText (text : List Char) (brackets : Nat) (returned : Bool)
    (hpending : returned = true → text.head? ≠ some '\n') :
    ∃ last later, scan ⟨.content brackets, returned⟩ (describeText text)
      = .ok (⟨.content last, later⟩,
          (unifyLineEnds text).map (textToken Escaping.least.inText)) := by
  have hfeed : textToken Escaping.least.inText '\n' = .char '\n' := rfl
  fun_induction unifyLineEnds text generalizing brackets returned with
  | case1 rest ih =>
    obtain ⟨last, later, hrest⟩ := ih 0 false fun h => absurd h Bool.false_ne_true
    refine ⟨last, later, ?_⟩
    have hline : describeText ('\n' :: rest) = '\n' :: describeText rest := by
      rw [describeText_cons]
      rfl
    rw [describeText_return, hline, scan_return, scan_feed_of_returned, hrest, List.map_cons,
      hfeed]
    rfl
  | case2 rest hpair ih =>
    have hnext : true = true → rest.head? ≠ some '\n' := by
      intro _ hhead
      cases rest with
      | nil => cases hhead
      | cons d more => exact hpair more (by rw [Option.some.inj hhead])
    obtain ⟨last, later, hrest⟩ := ih 0 true hnext
    refine ⟨last, later, ?_⟩
    rw [describeText_return, scan_return, hrest, List.map_cons, hfeed]
    rfl
  | case3 c rest hpair hreturn ih =>
    have hc (h : returned = true) : c ≠ '\n' := fun heq => hpending h (congrArg some heq)
    obtain ⟨middle, hscan⟩ := scan_spell brackets returned hc (describeText rest)
    obtain ⟨last, later, hrest⟩ := ih middle false fun h => absurd h Bool.false_ne_true
    refine ⟨last, later, ?_⟩
    rw [describeText_cons, if_neg hreturn, hscan, hrest]
    rfl
  | case4 => exact ⟨brackets, returned, rfl⟩

/-! ## Reading a description -/

/-- The tokens of an element, if its content is scanned to its end. A line end that is pending
there is of no consequence before the closing tag. -/
theorem tokens_enclosed (e : Escaping) {tag : Markup.Tag} (h : tag.IsPlain) {inner : List Char}
    {last : Nat} {later : Bool} {ts : List Markup.Token}
    (hscan : scan ⟨.content 0, false⟩ inner = .ok (⟨.content last, later⟩, ts)) :
    Markup.tokens (e.enclosed tag inner)
      = .ok (.startTag tag.written :: (ts ++ [.endTag tag.name])) := by
  have hend : scan ⟨.content last, later⟩ ('<' :: ('/' :: tag.name.print ++ ['>']))
      = .ok (⟨.content 0, false⟩, [.endTag tag.name]) := by
    rw [Markup.scan_of_head (by decide) later]
    exact Markup.leads_endTag h last
  have hstart := Markup.leads_startTag e h 0
  refine Markup.tokens_eq_ok_iff.mpr ⟨0, false, ?_⟩
  rw [Escaping.enclosed, List.append_assoc, Place.start, Markup.scan_append_of_scan hstart,
    Markup.scan_append_of_scan hscan]
  change ((scan _ ('<' :: ('/' :: tag.name.print ++ ['>']))).map _).map _ = _
  rw [hend]
  rfl

/-- The node of a run of text. -/
def Node.ofRun (text : List Char) : Node :=
  .leaf (describeText text) text

/-- A blank is one however its line is ended. -/
theorem allBlank_unifyLineEnds (text : List Char) :
    Text.allBlank (unifyLineEnds text) = Text.allBlank text := by
  have hreturn : Text.isBlank '\r' = true := by decide
  have hfeed : Text.isBlank '\n' = true := by decide
  fun_induction unifyLineEnds text with
  | case1 rest ih => simp only [Text.allBlank_cons, ih, hreturn, hfeed, Bool.true_and]
  | case2 rest hpair ih => simp only [Text.allBlank_cons, ih, hreturn, hfeed]
  | case3 c rest hpair hreturn ih => rw [Text.allBlank_cons, Text.allBlank_cons, ih]
  | case4 => rfl

/-- **The description of a run is read into the run with its line ends made one**, whatever
the root element around it. -/
theorem parse_describeText {text : List Char} (hallowed : text.all Markup.isAllowed = true)
    (hsolid : Text.allBlank text = false) (root : TagName) :
    parse (between root.name (String.ofList (describeText text)))
      = .ok [.ofRun (unifyLineEnds text)] := by
  have hplain := isPlain_bare root.simple
  obtain ⟨last, later, hscan⟩ :=
    scan_describeText text 0 false fun h => absurd h Bool.false_ne_true
  have hunified : Text.allBlank (unifyLineEnds text) = false := by
    rw [allBlank_unifyLineEnds, hsolid]
  have hne : (unifyLineEnds text).isEmpty = false := by
    cases hlines : unifyLineEnds text with
    | nil =>
      rw [hlines] at hunified
      exact hunified
    | cons c rest => rfl
  have hcontent : Markup.settled [.text (unifyLineEnds text)] = [.text (unifyLineEnds text)] := by
    rw [Markup.settled, Markup.settled, Markup.joinText, hne]
    · rfl
    · simp
  have hread : Markup.read (between root.name (String.ofList (describeText text))).toList
      = .ok { tag := tagOf root.name [], content := [.text (unifyLineEnds text)] } := by
    rw [toList_between .least, String.toList_ofList, ← hcontent]
    exact Markup.read_of_tokens .least hplain (by decide) (isAllowed_describeText hallowed)
      (tokens_enclosed .least hplain hscan) (Markup.takes_text 0 _ _)
  refine parse_eq_ok_iff.mpr ⟨_, hread, rfl, ?_⟩
  rw [nodesOf, nodesOfContent, nodesOfItem, hunified]
  rfl

/-! ## Where runs of text come from -/

theorem exists_item_of_within {n : Node} {scope : Markup.Scope} {items : List Item}
    (h : n.Within (nodesOfContent scope items)) :
    ∃ item ∈ items, n.Within (nodesOfItem scope item) := by
  induction items with
  | nil => exact absurd h within_nil
  | cons item rest ih =>
    rw [nodesOfContent] at h
    rcases within_append h with hitem | hrest
    · exact ⟨item, List.mem_cons_self, hitem⟩
    · obtain ⟨other, hother, hwithin⟩ := ih hrest
      exact ⟨other, List.mem_cons_of_mem _ hother, hwithin⟩

/-- What is written with an angle bracket is not a run, and has none in it. -/
theorem not_isRun_of_within_leaf {n : Node} {description text : List Char}
    (hmem : '<' ∈ description) (h : n.Within [.leaf description text]) : ¬ n.isRun = true := by
  rcases within_singleton h with rfl | hbelow
  · rw [isRun_leaf_of_mem hmem]
    exact Bool.false_ne_true
  · exact absurd hbelow within_nil

/-- Every run of text in a sound item, at any depth, is the node of a text of allowed
characters that are not all blank. -/
theorem exists_text_of_isRun {form : Markup.Form} {levels : Nat} {item : Item}
    (h : item.IsSound form levels) {scope : Markup.Scope} {n : Node}
    (hn : n.Within (nodesOfItem scope item)) (hrun : n.isRun = true) :
    ∃ text : List Char, text.all Markup.isAllowed = true ∧ Text.allBlank text = false
      ∧ n = .ofRun text := by
  induction h generalizing scope with
  | @text _ text hallowed =>
    rw [nodesOfItem] at hn
    split at hn
    · exact absurd hn within_nil
    · rename_i hsolid
      rcases within_singleton hn with rfl | hbelow
      · exact ⟨text, hallowed, Bool.not_eq_true _ ▸ hsolid, rfl⟩
      · exact absurd hbelow within_nil
  | comment _ =>
    rw [nodesOfItem] at hn
    exact absurd hrun (not_isRun_of_within_leaf (mem_printComment _) hn)
  | instruction _ _ =>
    rw [nodesOfItem] at hn
    exact absurd hrun (not_isRun_of_within_leaf (mem_printInstruction _ _) hn)
  | element _ _ _ ih =>
    rw [nodesOfItem] at hn
    rcases within_singleton hn with rfl | hbelow
    · exact absurd hrun Bool.false_ne_true
    · obtain ⟨item, hitem, hwithin⟩ := exists_item_of_within hbelow
      exact ih item hitem hwithin

/-- **A run of text is read again up to its line ends.** In a document without a document
type, the description of every run of text, at any depth, can be put between the tags of any
root element: that is accepted, and all it has is the run again with every line end in it
made one line feed. This is the same run, equal in every part, exactly if there is no carriage
return in its text. -/
theorem run_read_again {markup : String} {nodes : List Node} (hparse : parse markup = .ok nodes)
    (huntyped : ∀ t ∈ Markup.tokensOf markup.toList, t.isDoctype = false)
    {n : Node} (hn : n.Within nodes) (hrun : n.isRun = true) (root : TagName) :
    ∃ text : List Char, n = .ofRun text ∧ Text.allBlank text = false
      ∧ parse (between root.name n.description) = .ok [.ofRun (unifyLineEnds text)]
      ∧ (parse (between root.name n.description) = .ok [n] ↔ '\r' ∉ text) := by
  obtain ⟨document, hread, -, rfl⟩ := parse_eq_ok_iff.mp hparse
  have hsound := Markup.content_isSound_of_read hread fun t ht => Markup.fits_any (huntyped t ht)
  obtain ⟨item, hitem, hwithin⟩ := exists_item_of_within hn
  obtain ⟨text, hallowed, hsolid, rfl⟩ := exists_text_of_isRun (hsound item hitem) hwithin hrun
  have hagain : parse (between root.name (Node.ofRun text).description)
      = .ok [.ofRun (unifyLineEnds text)] := parse_describeText hallowed hsolid root
  refine ⟨text, rfl, hsolid, hagain, ?_⟩
  rw [hagain, ← Text.unifyLineEnds_eq_self_iff]
  constructor
  · intro h
    have hnode := (List.cons.inj (Except.ok.inj h)).1
    exact String.ofList_injective (Option.some.inj (congrArg Node.text hnode))
  · intro h
    rw [h]

/-- A paragraph whose text has a line end by references, the end mark of a section, and all
characters that text must hide. -/
def referringParagraph : String :=
  "<r><Para>x&#13;&#10;&lt;&#38;y]]&gt;z</Para></r>"

/-- Its text is read again with the carriage return gone. -/
theorem run_read_again_of_references :
    ∃ (nodes : List Node) (n : Node), parse referringParagraph = .ok nodes
      ∧ (∀ t ∈ Markup.tokensOf referringParagraph.toList, t.isDoctype = false)
      ∧ n.Within nodes ∧ n.isRun = true ∧ n.text = some "x\r\n<&y]]>z"
      ∧ n.description = "x\r\n&lt;&amp;y]]&gt;z"
      ∧ parse (between "D" n.description) = .ok [.ofRun "x\n<&y]]>z".toList]
      ∧ parse (between "D" n.description) ≠ .ok [n] := by
  have huntyped : ∀ t ∈ Markup.tokensOf referringParagraph.toList, t.isDoctype = false := by
    decide +kernel
  have hseen : [(true, some "x\r\n<&y]]>z", "x\r\n&lt;&amp;y]]&gt;z")]
      ∈ seen (fun parent => parent.children.map fun n => (n.isRun, n.text, n.description))
        referringParagraph := by
    decide +kernel
  obtain ⟨nodes, parent, hparse, hparent, hsee⟩ := exists_of_mem_seen hseen
  obtain ⟨n, hchildren, hn⟩ := List.map_eq_singleton_iff.mp hsee
  simp only [Prod.mk.injEq] at hn
  obtain ⟨hrun, htext, hdescription⟩ := hn
  have hwithin : n.Within nodes :=
    .inside hparent (.top (by rw [hchildren]; exact List.mem_singleton_self n))
  obtain ⟨text, hnode, -, hagain, hsame⟩ :=
    run_read_again hparse huntyped hwithin hrun { name := "D", simple := rfl }
  obtain rfl : text = "x\r\n<&y]]>z".toList := by
    rw [hnode] at htext
    rw [← Option.some.inj htext, String.toList_ofList]
  exact ⟨nodes, n, hparse, huntyped, hwithin, hrun, htext, hdescription, hagain,
    fun h => absurd (by decide) (hsame.mp h)⟩

/-- A run of text need not be read again. The one here has a carriage return, and what is read
from its description has a line feed in the place. -/
theorem return_read_as_feed :
    ∃ (nodes : List Node) (n : Node), parse "<r>a&#13;b</r>" = .ok nodes
      ∧ (∀ t ∈ Markup.tokensOf "<r>a&#13;b</r>".toList, t.isDoctype = false)
      ∧ n.Within nodes ∧ n.isRun = true ∧ n.text = some "a\rb"
      ∧ ∃ others other, parse ("<D>" ++ n.description ++ "</D>") = .ok others
        ∧ other ∈ others ∧ other.text = some "a\nb"
        ∧ parse ("<D>" ++ n.description ++ "</D>") ≠ .ok [n] := by
  have hseen : (true, some "a\rb", "a\rb")
      ∈ seen (fun n => (n.isRun, n.text, n.description)) "<r>a&#13;b</r>" := by
    decide +kernel
  have hagain : some "a\nb" ∈ seen (·.text) "<D>a\rb</D>" := by decide +kernel
  obtain ⟨nodes, n, hparse, hn, hsee⟩ := exists_of_mem_seen hseen
  simp only [Prod.mk.injEq] at hsee
  obtain ⟨hrun, htext, hdescription⟩ := hsee
  obtain ⟨others, other, hothers, hother, hfeed⟩ := exists_of_mem_seen hagain
  refine ⟨nodes, n, hparse, by decide +kernel, .top hn, hrun, htext, others, other, ?_⟩
  rw [hdescription]
  refine ⟨hothers, hother, hfeed, fun hsame => ?_⟩
  rw [Except.ok.inj (hothers.symm.trans hsame), List.mem_singleton] at hother
  rw [hother, htext] at hfeed
  exact absurd hfeed (by decide)

end SymbolDocs.Discussion
