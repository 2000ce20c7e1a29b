/-
Putting layout into a document.

Blanks that are put into a document where there is nothing but layout already are read as
text, and as nothing else: the run of layout at the place becomes another one, or there is
one where there was none (`exists_read_of_spacing`). This holds inside the root element, at
any depth, and in particular between two tags. An empty element that is written with one tag
has no place inside; but it may be written with two (`read_of_unfolding`).
-/
import SymbolDocs.Proofs.Markup.Comparing

set_option autoImplicit false

namespace SymbolDocs.Markup

/-! ## Scanning layout -/

/-- A token is a character of layout. -/
def Token.IsLayout (t : Token) : Prop :=
  ∃ c, t = .char c ∧ Text.isBlank c = true

theorem step_content_of_isBlank {c : Char} (h : Text.isBlank c = true) (brackets : Nat) :
    step (.content brackets) c = .ok (.content 0, some (.char c)) := by
  have hne (d : Char) (hd : Text.isBlank d = false) : c ≠ d := by
    rintro rfl
    rw [h] at hd
    exact Bool.false_ne_true hd.symm
  have hangle : c ≠ '<' := hne '<' (by decide)
  have hand : c ≠ '&' := hne '&' (by decide)
  have hclose : c ≠ '>' := hne '>' (by decide)
  have hbracket : c ≠ ']' := hne ']' (by decide)
  simp [step, stepContent, hangle, hand, hclose, hbracket]

/-- Layout is scanned as layout. A line end written with two characters is one, so there may
be fewer tokens than characters. -/
theorem exists_scan_of_allBlank {text : List Char} (h : Text.allBlank text = true)
    (returned : Bool) :
    ∃ later ws, scan ⟨.content 0, returned⟩ text = .ok (⟨.content 0, later⟩, ws)
      ∧ ∀ t ∈ ws, t.IsLayout := by
  induction text generalizing returned with
  | nil => exact ⟨returned, [], rfl, by simp⟩
  | cons c rest ih =>
    rw [Text.allBlank_cons, Bool.and_eq_true] at h
    obtain ⟨hc, hrest⟩ := h
    -- A character is a token, or it belongs to the line end before it.
    obtain ⟨after, token, hadvance, htoken⟩ : ∃ after token,
        Place.advance ⟨.content 0, returned⟩ c = .ok (⟨.content 0, after⟩, token)
          ∧ ∀ t ∈ token.toList, t.IsLayout := by
      have hkeeps : Mode.keepsLineEnds (.content 0) = false := rfl
      simp only [Place.advance, hkeeps, Bool.false_eq_true, if_false]
      split
      · have hfeed : Text.isBlank '\n' = true := by decide
        rw [step_content_of_isBlank hfeed]
        exact ⟨true, _, rfl, fun t ht => ⟨'\n', List.mem_singleton.mp ht, hfeed⟩⟩
      · split
        · exact ⟨false, none, rfl, by simp⟩
        · rw [step_content_of_isBlank hc]
          exact ⟨false, _, rfl, fun t ht => ⟨c, List.mem_singleton.mp ht, hc⟩⟩
    obtain ⟨later, ws, hscan, hws⟩ := ih hrest after
    refine ⟨later, token.toList ++ ws, ?_, ?_⟩
    · rw [scan, hadvance]
      simp only [bind, Except.bind, hscan]
      rfl
    · intro t ht
      exact (List.mem_append.mp ht).elim (htoken t) (hws t)

/-- Layout in a gap is scanned as layout, unless it divides line ends or makes one. -/
theorem exists_tokens_of_fill {before text after : List Char} {ts us : List Token}
    (hbefore : tokens before = .ok ts) (hall : tokens (before ++ after) = .ok (ts ++ us))
    (hline : ¬ (before.getLast? = some '\r' ∧ after.head? = some '\n'))
    (hblank : Text.allBlank text = true) (hfilled : text ≠ [])
    (hfirst : ¬ (before.getLast? = some '\r' ∧ text.head? = some '\n'))
    (hlast : ¬ (text.getLast? = some '\r' ∧ after.head? = some '\n')) :
    ∃ ws, (∀ t ∈ ws, t.IsLayout) ∧ tokens (before ++ (text ++ after)) = .ok (ts ++ (ws ++ us)) := by
  refine tokens_fill (fun ws => ∀ t ∈ ws, t.IsLayout) hbefore hall hline ?_
  intro brackets returned hreturned
  cases text with
  | nil => exact absurd rfl hfilled
  | cons c rest =>
    have hfresh : scan ⟨.content brackets, returned⟩ (c :: rest)
        = scan ⟨.content 0, false⟩ (c :: rest) := by
      have hc : Text.isBlank c = true := (Bool.and_eq_true_iff.mp hblank).1
      have hzero : scan ⟨.content brackets, false⟩ (c :: rest)
          = scan ⟨.content 0, false⟩ (c :: rest) := by
        have hadvance : Place.advance ⟨.content brackets, false⟩ c
            = Place.advance ⟨.content 0, false⟩ c := by
          have hkeeps (brackets : Nat) : Mode.keepsLineEnds (.content brackets) = false := rfl
          have hfeed : Text.isBlank '\n' = true := by decide
          simp only [Place.advance, hkeeps, Bool.false_eq_true, if_false,
            step_content_of_isBlank hc, step_content_of_isBlank hfeed, Bool.and_false]
        rw [scan, scan, hadvance]
      cases returned with
      | false => exact hzero
      | true =>
        have hne : c ≠ '\n' := fun heq => hfirst ⟨hreturned rfl, congrArg some heq⟩
        exact (scan_of_head hne true).trans hzero
    obtain ⟨later, ws, hscan, hws⟩ := exists_scan_of_allBlank hblank false
    refine ⟨later, ws, hfresh.trans hscan, hws, fun hlater hfeed => hlast ⟨?_, hfeed⟩⟩
    subst hlater
    exact getLast?_of_returned rfl hscan rfl

/-! ## Layout on both sides -/

/-- Open elements whose unfinished run of text is layout, and contents with layout in one
place. -/
def spacing : Divergence where
  fresh ahead f f' :=
    f'.tag = f.tag ∧ f'.scope = f.scope ∧ f'.items = f.items
      ∧ Text.allBlank (f.run.getD []) = true ∧ Text.allBlank (f'.run.getD []) = true
      ∧ Text.allBlank ahead.text = true
  content content content' :=
    ∃ left right run run', content = left ++ runItems run ++ right
      ∧ content' = left ++ runItems run' ++ right
      ∧ Text.allBlank (run.getD []) = true ∧ Text.allBlank (run'.getD []) = true
  tag h := h.1
  scope h := h.2.1
  write := by
    rintro text ahead f f' ⟨htag, hscope, hitems, hrun, hrun', hahead⟩
    rw [Text.allBlank_append, Bool.and_eq_true] at hahead
    have htext : Text.allBlank text.reverse = true := by
      rw [Text.allBlank, List.all_reverse]
      exact hahead.1
    refine ⟨htag, hscope, hitems, ?_, ?_, hahead.2⟩
    · change Text.allBlank (text.reverse ++ f.run.getD []) = true
      rw [Text.allBlank_append, htext, hrun]
      rfl
    · change Text.allBlank (text.reverse ++ f'.run.getD []) = true
      rw [Text.allBlank_append, htext, hrun']
      rfl
  settle := by
    rintro opens f f' ⟨-, -, hitems, hrun, hrun', -⟩ right -
    have hblank {run : Option (List Char)} (h : Text.allBlank (run.getD []) = true) :
        Text.allBlank ((run.map List.reverse).getD []) = true := by
      rw [getD_map_reverse, Text.allBlank, List.all_reverse]
      exact h
    refine ⟨f.items.reverse, right, f.run.map List.reverse, f'.run.map List.reverse, ?_, ?_,
      hblank hrun, hblank hrun'⟩
    · rw [closed_reverse_eq]
    · rw [closed_reverse_eq, hitems]

/-- Layout is written into the innermost element. -/
theorem takeAll_of_isLayout {o : Outline} {f : Frame} {rest : List Frame} {ws : List Token}
    (hundeclared : ∃ standalone, o.declarations = .empty standalone)
    (hinside : o.frames = f :: rest) (hws : ∀ t ∈ ws, t.IsLayout)
    (hrun : Text.allBlank (f.run.getD []) = true) :
    ∃ run, o.takeAll ws = .ok { o with frames := { f with run := run } :: rest }
      ∧ Text.allBlank (run.getD []) = true := by
  induction ws generalizing o f with
  | nil => exact ⟨f.run, by rw [← hinside]; rfl, hrun⟩
  | cons t more ih =>
    obtain ⟨c, rfl, hc⟩ := hws t List.mem_cons_self
    have hrun' : Text.allBlank ((f.write [c]).run.getD []) = true := by
      change Text.allBlank ([c] ++ f.run.getD []) = true
      rw [Text.allBlank_append, hrun, Text.allBlank_cons, hc]
      rfl
    obtain ⟨run, hmore, hblank⟩ := ih
      (o := { o with frames := f.write [c] :: rest }) hundeclared rfl
      (fun u hu => hws u (List.mem_cons_of_mem _ hu)) hrun'
    refine ⟨run, (Outline.takeAll_cons_eq_ok_iff hundeclared rfl).mpr ⟨_, ?_, hmore⟩, hblank⟩
    exact .write rfl hinside

/-! ## Documents -/

/-- How one document comes from another by putting layout into a gap inside the root element,
where there is nothing but layout. No line end is divided, and none is made of two that
stand on both sides. -/
structure Spacing (markup markup' : List Char) where
  gap : Gap markup
  written : List Char
  filled : written ≠ []
  blank : Text.allBlank written = true
  allowed : written.all isAllowed = true
  inside : gap.position.around ≠ []
  layout : Text.allBlank gap.text = true
  line_before : ¬ (gap.before.getLast? = some '\r' ∧ written.head? = some '\n')
  line_after : ¬ (written.getLast? = some '\r' ∧ gap.after.head? = some '\n')
  takes : gap.Takes written markup'

/-- Between two tags with nothing between them no line end is near. -/
def Spacing.betweenTags {markup markup' : List Char} (gap : Gap markup) (written : List Char)
    (filled : written ≠ []) (blank : Text.allBlank written = true)
    (allowed : written.all isAllowed = true) (inside : gap.position.around ≠ [])
    (bare : gap.text = []) (tag_before : gap.before.getLast? = some '>')
    (tag_after : gap.after.head? = some '<') (takes : gap.Takes written markup') :
    Spacing markup markup' where
  gap := gap
  written := written
  filled := filled
  blank := blank
  allowed := allowed
  inside := inside
  layout := by rw [bare]; rfl
  line_before := by rw [tag_before]; exact fun h => absurd (Option.some.inj h.1) (by decide)
  line_after := by rw [tag_after]; exact fun h => absurd (Option.some.inj h.2) (by decide)
  takes := takes

/-- The tokens of a document are taken with layout among them as they are taken without. -/
theorem takeAll_spacing {ts ws us : List Token} (huntyped : ∀ t ∈ ts ++ us, t.isDoctype = false)
    (hinside : (positionAfter ts).around ≠ [])
    (hlayout : Text.allBlank ((positionAfter ts).text ++ (prospectOf us).text) = true)
    (hws : ∀ t ∈ ws, t.IsLayout) {standalone : Bool} {bytes : Nat} {o : Outline}
    (htaken : (Outline.empty standalone bytes).takeAll (ts ++ us) = .ok o) (bytes' : Nat) :
    ∃ o', (Outline.empty standalone bytes').takeAll (ts ++ (ws ++ us)) = .ok o'
      ∧ o.Differs spacing (positionAfter ts).around.reverse (Ledger.Alike Eq) true
        (prospectOf []) o' := by
  have hts (t : Token) (ht : t ∈ ts) : t.isDoctype = false :=
    huntyped t (List.mem_append_left us ht)
  have hus (t : Token) (ht : t ∈ us) : t.isDoctype = false :=
    huntyped t (List.mem_append_right ts ht)
  obtain ⟨hbefore, hahead⟩ := Bool.and_eq_true_iff.mp (Text.allBlank_append _ _ ▸ hlayout)
  obtain ⟨middle, middle', f, rest, hafter, htaken', hmiddle, hframes, hframes', hat, hpath⟩ :=
    Outline.exists_place (lasting_alike lasting_eq) spacing hts hinside
      (alike_before bytes bytes') htaken
  have hrun : Text.allBlank (f.run.getD []) = true := by
    rw [hat.run, Text.allBlank, List.all_reverse]
    exact hbefore
  -- Layout is written on one side; from there on they differ by it.
  obtain ⟨run, hspaced, hblank⟩ :=
    takeAll_of_isLayout (Outline.undeclared_of_differs hmiddle) hframes' hws hrun
  have hfresh : spacing.fresh (prospectOf us) f { f with run := run } :=
    ⟨rfl, rfl, rfl, hrun, hblank, hahead⟩
  have hdiffers : middle.Differs spacing (positionAfter ts).around.reverse (Ledger.Alike Eq)
      true (prospectOf us) { middle' with frames := { f with run := run } :: rest } :=
    Outline.differs_of_fresh hmiddle.undeclared hmiddle.declarations hmiddle.depth
      hmiddle.ledger (Outline.same_of_differs hmiddle).2 hframes rfl hfresh hpath
  obtain ⟨o', hafter', hlast⟩ :=
    Outline.takeAll_differs_to_end (lasting_alike lasting_eq) hus hdiffers hafter
  refine ⟨o', ?_, hlast⟩
  rw [Outline.takeAll_append, htaken']
  change middle'.takeAll (ws ++ us) = _
  rw [Outline.takeAll_append, hspaced]
  exact hafter'

/-- **Layout that is put into a document among layout is a run of layout, and nothing
else.** -/
theorem exists_read_of_spacing {markup markup' : List Char} {root : Element}
    (hread : read markup = .ok root) (huntyped : ∀ t ∈ tokensOf markup, t.isDoctype = false)
    (s : Spacing markup markup') :
    ∃ root' path, read markup' = .ok root' ∧ (∀ t ∈ tokensOf markup', t.isDoctype = false)
      ∧ root'.tag = root.tag ∧ s.gap.position.around.reverse = root.tag.name :: path
      ∧ spacing.Within path root.content root'.content := by
  obtain ⟨standalone, body, hbody, hallowed, htokens, o, htaken, hverdict, hframes, hroot⟩ :=
    exists_of_read hread
  obtain ⟨rfl, rfl⟩ := Prod.mk.inj (Except.ok.inj (hbody.symm.trans s.gap.body_eq))
  have hsplit : tokensOf markup = s.gap.passed ++ s.gap.coming :=
    Except.ok.inj (htokens.symm.trans s.gap.tokens_all)
  rw [hsplit] at huntyped htaken
  obtain ⟨ws, hws, htokens'⟩ := exists_tokens_of_fill s.gap.tokens_before s.gap.tokens_all
    s.gap.line_whole s.blank s.filled s.line_before s.line_after
  obtain ⟨o', htaken', hlast⟩ := takeAll_spacing huntyped s.inside s.layout hws htaken
    (byteCount (s.gap.before ++ (s.written ++ s.gap.after)))
  obtain ⟨root', path, hframes', hroot', htag, hpath, hcontent⟩ :=
    Outline.exists_root_of_differs hlast hframes hroot
  have hallowed' : (s.gap.before ++ (s.written ++ s.gap.after)).all isAllowed = true := by
    rw [List.all_append, Bool.and_eq_true] at hallowed
    rw [List.all_append, List.all_append, hallowed.1, hallowed.2, s.allowed]
    rfl
  have hverdict' : o'.ledger.notes.verdict = .ok () := by
    rw [← hlast.ledger.notes]
    exact hverdict
  have htokensOf : tokensOf markup' = s.gap.passed ++ (ws ++ s.gap.coming) := by
    rw [tokensOf, s.takes]
    simp only [bind, Except.bind, htokens']
  refine ⟨root', path, ?_, ?_, htag, hpath, hcontent⟩
  · rw [read_eq, s.takes]
    exact readBody_eq_ok_iff.mpr
      ⟨hallowed', _, htokens', o', htaken', hverdict', hframes', hroot'⟩
  · intro t ht
    rw [htokensOf, List.mem_append, List.mem_append] at ht
    rcases ht with hpassed | hwritten | hcoming
    · exact huntyped t (List.mem_append_left _ hpassed)
    · obtain ⟨c, rfl, -⟩ := hws t hwritten
      rfl
    · exact huntyped t (List.mem_append_right _ hcoming)

/-! ## Empty elements -/

/-- Where nothing is declared, it does not matter how many bytes a document has. -/
theorem builds_of_bytes {standalone : Bool} {bytes : Nat} {ts : List Token} {root : Element}
    (huntyped : ∀ t ∈ ts, t.isDoctype = false) (h : Builds standalone bytes ts root)
    (bytes' : Nat) : Builds standalone bytes' ts root := by
  obtain ⟨o, htaken, hverdict, hframes, hroot⟩ := h
  have hstart : (Outline.empty standalone bytes).Differs spacing [] (Ledger.Alike Eq) false
      (prospectOf (ts ++ [])) (Outline.empty standalone bytes') :=
    Outline.differs_empty (alike_before bytes bytes') _
  obtain ⟨o', htaken', hlast⟩ :=
    Outline.takeAll_differs (lasting_alike lasting_eq) [] huntyped hstart htaken
  obtain ⟨hsame, hroot'⟩ := Outline.same_of_differs hlast
  refine ⟨o', htaken', ?_, hsame.trans hframes, hroot'.trans hroot⟩
  rw [← hlast.ledger.notes]
  exact hverdict

/-- Closing an element that was just opened places an empty element. -/
theorem step_endTag_of_opened (o : Outline) (frames : List Frame) (tag : Tag) (outer : Scope)
    (room : Nat) :
    Outline.Step room { o with frames := Frame.opened tag outer :: frames } (.endTag tag.name)
      (o.place frames { tag := tag, content := [] }) := by
  rw [← Outline.place_of_frames o (Frame.opened tag outer :: frames)]
  exact .endTag (f := Frame.opened tag outer) rfl

/-- An empty element may be written with a start tag and an end tag. -/
theorem takeAll_unfolded {o next : Outline} {tag : WrittenTag} {us : List Token}
    (hundeclared : ∃ standalone, o.declarations = .empty standalone)
    (h : o.takeAll (.emptyTag tag :: us) = .ok next) :
    o.takeAll (.startTag tag :: .endTag tag.name :: us) = .ok next := by
  obtain ⟨placed, hplace, hmore⟩ := (Outline.takeAll_cons_eq_ok_iff hundeclared rfl).mp h
  cases hplace with
  | write htext => cases htext
  | @emptyTag _ resolved ledger hopens =>
    have hstart : (Token.startTag tag).isDoctype = false := rfl
    have hend : (Token.endTag tag.name).isDoctype = false := rfl
    refine (Outline.takeAll_cons_eq_ok_iff hundeclared hstart).mpr ⟨_, .startTag hopens, ?_⟩
    refine (Outline.takeAll_cons_eq_ok_iff (o := { o with
      ledger := ledger, frames := Frame.opened resolved o.scope :: o.frames })
      hundeclared hend).mpr ⟨_, ?_, hmore⟩
    rw [← name_eq_of_resolve hopens.resolved]
    exact step_endTag_of_opened { o with ledger := ledger } o.frames resolved o.scope _

/-- How one document comes from another by writing an empty element with two tags. -/
structure Unfolding (markup markup' : List Char) where
  standalone : Bool
  before : List Char
  passed : List Token
  tag : WrittenTag
  folded : List Char
  unfolded : List Char
  after : List Char
  body_eq : bodyOf markup = .ok (standalone, before ++ (folded ++ after))
  body_eq' : bodyOf markup' = .ok (standalone, before ++ (unfolded ++ after))
  tokens_before : tokens before = .ok passed
  begins : folded.head? = some '<'
  begins' : unfolded.head? = some '<'
  scanned : scan .start folded = .ok (⟨.content 0, false⟩, [.emptyTag tag])
  scanned' : scan .start unfolded
    = .ok (⟨.content 0, false⟩, [.startTag tag, .endTag tag.name])
  allowed : unfolded.all isAllowed = true

/-- **An empty element is read the same whether it is written with one tag or with two.** -/
theorem read_of_unfolding {markup markup' : List Char} {root : Element}
    (hread : read markup = .ok root) (huntyped : ∀ t ∈ tokensOf markup, t.isDoctype = false)
    (u : Unfolding markup markup') :
    read markup' = .ok root ∧ ∀ t ∈ tokensOf markup', t.isDoctype = false := by
  obtain ⟨standalone, body, hbody, hallowed, htokens, hbuilds⟩ := exists_of_read hread
  obtain ⟨rfl, rfl⟩ := Prod.mk.inj (Except.ok.inj (hbody.symm.trans u.body_eq))
  have hfolded := tokens_around u.tokens_before u.begins u.scanned u.after
  have hunfolded := tokens_around u.tokens_before u.begins' u.scanned' u.after
  obtain ⟨us, hafter, hsplit⟩ : ∃ us, tokens u.after = .ok us
      ∧ tokensOf markup = u.passed ++ .emptyTag u.tag :: us := by
    rw [hfolded] at htokens
    cases hafter : tokens u.after with
    | error fault =>
      rw [hafter] at htokens
      cases htokens
    | ok us =>
      rw [hafter] at htokens
      exact ⟨us, rfl, (Except.ok.inj htokens).symm⟩
  rw [hafter] at hunfolded
  have hsplit' : tokensOf markup'
      = u.passed ++ .startTag u.tag :: .endTag u.tag.name :: us := by
    rw [tokensOf, u.body_eq']
    simp only [bind, Except.bind, hunfolded]
    rfl
  have huntyped' : ∀ t ∈ tokensOf markup', t.isDoctype = false := by
    intro t ht
    rw [hsplit'] at ht
    rw [hsplit] at huntyped
    simp only [List.mem_append, List.mem_cons] at ht huntyped
    rcases ht with hpassed | rfl | rfl | hcoming
    · exact huntyped t (.inl hpassed)
    · rfl
    · rfl
    · exact huntyped t (.inr (.inr hcoming))
  refine ⟨?_, huntyped'⟩
  have hallowed' : (u.before ++ (u.unfolded ++ u.after)).all isAllowed = true := by
    rw [List.all_append, List.all_append, Bool.and_eq_true, Bool.and_eq_true] at hallowed
    rw [List.all_append, List.all_append, hallowed.1, hallowed.2.2, u.allowed]
    rfl
  rw [read_eq, u.body_eq']
  refine readBody_eq_ok_iff.mpr ⟨hallowed', _, hunfolded, ?_⟩
  obtain ⟨o, htaken, hended⟩ := builds_of_bytes huntyped hbuilds
    (byteCount (u.before ++ (u.unfolded ++ u.after)))
  refine ⟨o, ?_, hended⟩
  rw [hsplit, Outline.takeAll_append] at htaken
  obtain ⟨middle, hmiddle, hmore⟩ := exists_of_bind htaken
  change (Outline.empty _ _).takeAll (u.passed ++ .startTag u.tag :: .endTag u.tag.name :: us) = _
  rw [Outline.takeAll_append, hmiddle]
  have hpassed (t : Token) (ht : t ∈ u.passed) : t.isDoctype = false := by
    rw [hsplit] at huntyped
    exact huntyped t (List.mem_append_left _ ht)
  exact takeAll_unfolded (Outline.undeclared_of_takeAll ⟨_, rfl⟩ hpassed hmiddle) hmore

end SymbolDocs.Markup
