/-
The written form of an opening declaration.

An opening declaration that names an encoding is written in one way only, up to the gaps in
it and the choice of quotes (`exists_form`). So it makes sense to keep the form and to put
another name in it: what is read is then the encoding of that name, and everything else is
read as before, whatever text follows (`ofText_write`).
-/
import Mathlib.Data.List.Basic
import SymbolDocs.Markup.Opening
import SymbolDocs.Proofs.Markup.Completing

set_option autoImplicit false

namespace SymbolDocs.Markup

/-! ## Gaps and quotes -/

theorem skipSpace_append {gap : List Char} (h : gap.all isSpace = true) (rest : List Char) :
    skipSpace (gap ++ rest) = skipSpace rest :=
  List.dropWhile_append_of_pos (List.all_eq_true.mp h)

/-- A text is a gap, which may be empty, and what is left when gaps are skipped. -/
theorem exists_gap (s : List Char) : ∃ gap, gap.all isSpace = true ∧ s = gap ++ skipSpace s :=
  ⟨s.takeWhile isSpace, List.all_takeWhile, List.takeWhile_append_dropWhile.symm⟩

/-- A value in quotes is read as it stands, if it does not hold the quote. -/
theorem literalAt_quote {fault : Fault} {quote : Char} {value : List Char}
    (hquote : quote = '"' ∨ quote = '\'') (h : quote ∉ value) (rest : List Char) :
    literalAt fault (quote :: (value ++ quote :: rest)) = .ok (value, rest) := by
  have hbefore : ∀ c ∈ value, decide (c ≠ quote) = true := by
    intro c hc
    exact decide_eq_true fun heq => h (heq ▸ hc)
  have hdrop : (value ++ quote :: rest).dropWhile (· ≠ quote) = quote :: rest := by
    rw [List.dropWhile_append_of_pos hbefore, List.dropWhile_cons_of_neg (by simp)]
  have htake : (value ++ quote :: rest).takeWhile (· ≠ quote) = value := by
    rw [List.takeWhile_append_of_pos hbefore, List.takeWhile_cons_of_neg (by simp), List.append_nil]
  simp only [literalAt, Bool.or_eq_true, decide_eq_true_eq, hquote, if_true, hdrop, htake]

/-- What was read as a value stood in quotes, and does not hold them. -/
theorem exists_of_literalAt {fault : Fault} {s value rest : List Char}
    (h : literalAt fault s = .ok (value, rest)) :
    ∃ quote, (quote = '"' ∨ quote = '\'') ∧ quote ∉ value
      ∧ s = quote :: (value ++ quote :: rest) := by
  unfold literalAt at h
  split at h
  · rename_i quote more
    split_ifs at h with hquote
    split at h
    · rename_i last after hdrop
      cases h
      have hlast : last = quote := by
        have hhead := List.head?_dropWhile_not (fun c => decide (c ≠ quote)) more
        rw [hdrop] at hhead
        simpa using hhead
      refine ⟨quote, by simpa using hquote, fun hmem => ?_, ?_⟩
      · simpa using List.mem_takeWhile_imp hmem
      · rw [← hlast, ← hdrop, hlast, List.takeWhile_append_dropWhile]
    · cases h
  · cases h

namespace Opening

/-! ## Settings -/

/-- How a setting is written around its value: the gaps at the equals sign, which may be
empty, and the quotes. -/
structure Quoting where
  before : List Char
  after : List Char
  quote : Char
  before_space : before.all isSpace = true
  after_space : after.all isSpace = true
  quote_eq : quote = '"' ∨ quote = '\''

/-- A setting from its equals sign on, with a value in it. -/
def Quoting.write (q : Quoting) (value : List Char) : List Char :=
  q.before ++ '=' :: (q.after ++ q.quote :: (value ++ [q.quote]))

/-- Any quoting is read, and the value is taken out of it. -/
theorem settingAt_write (q : Quoting) {value : List Char} (h : q.quote ∉ value)
    (rest : List Char) : settingAt (q.write value ++ rest) = .ok (value, rest) := by
  have hshape : q.write value ++ rest
      = q.before ++ '=' :: (q.after ++ q.quote :: (value ++ q.quote :: rest)) := by
    simp [Quoting.write]
  have hquote : isSpace q.quote = false := by
    rcases q.quote_eq with heq | heq <;> rw [heq] <;> decide
  have hafter : skipSpace (q.after ++ q.quote :: (value ++ q.quote :: rest))
      = q.quote :: (value ++ q.quote :: rest) := by
    rw [skipSpace_append q.after_space, skipSpace, List.dropWhile_cons_of_neg (by simp [hquote])]
  rw [hshape, settingAt, skipSpace_append q.before_space]
  change literalAt .declaration (skipSpace _) = _
  rw [hafter, literalAt_quote q.quote_eq h]

/-- A setting that was read had some quoting. -/
theorem exists_quoting {s value rest : List Char} (h : settingAt s = .ok (value, rest)) :
    ∃ q : Quoting, q.quote ∉ value ∧ s = q.write value ++ rest := by
  obtain ⟨before, hbefore, hs⟩ := exists_gap s
  unfold settingAt at h
  split at h
  · rename_i more hmore
    obtain ⟨after, hafter, hrest⟩ := exists_gap more
    obtain ⟨quote, hquote, hvalue, hliteral⟩ := exists_of_literalAt h
    refine ⟨⟨before, after, quote, hbefore, hafter, hquote⟩, hvalue, ?_⟩
    rw [hs, hmore, hrest, hliteral]
    simp [Quoting.write]
  · cases h

/-! ## Clauses -/

/-- How a setting is written that follows others: after a gap, which must not be empty. -/
structure Clause where
  gap : List Char
  gap_ne : gap ≠ []
  gap_space : gap.all isSpace = true
  quoting : Quoting

/-- A setting with its word before it, and the gap before that. -/
def Clause.write (c : Clause) (word : String) (value : List Char) : List Char :=
  c.gap ++ (word.toList ++ c.quoting.write value)

/-- A word that no gap begins. -/
def IsWord (word : String) : Prop :=
  ∀ rest, skipSpace (word.toList ++ rest) = word.toList ++ rest

theorem after?_append (word : String) (rest : List Char) :
    after? word (word.toList ++ rest) = some rest := by
  rw [after?, List.isPrefixOf?_eq_some_iff_append_eq]

theorem eq_append_of_after? {word : String} {s rest : List Char} (h : after? word s = some rest) :
    s = word.toList ++ rest :=
  (List.isPrefixOf?_eq_some_iff_append_eq.mp h).symm

theorem afterGap_append {fault : Fault} {gap rest : List Char} (hne : gap ≠ [])
    (hspace : gap.all isSpace = true) : afterGap fault (gap ++ rest) = .ok (skipSpace rest) := by
  cases gap with
  | nil => exact absurd rfl hne
  | cons c more =>
    rw [List.all_cons, Bool.and_eq_true] at hspace
    rw [List.cons_append, afterGap, if_pos hspace.1, skipSpace_append hspace.2]

/-- Where a gap was asked for and found, there is one, and it was skipped to its end. -/
theorem exists_of_afterGap {fault : Fault} {s rest : List Char} (h : afterGap fault s = .ok rest) :
    ∃ gap, gap ≠ [] ∧ gap.all isSpace = true ∧ s = gap ++ rest ∧ rest = skipSpace s := by
  cases s with
  | nil => cases h
  | cons c more =>
    rw [afterGap] at h
    split_ifs at h with hc
    obtain rfl := Except.ok.inj h
    obtain ⟨gap, hgap, hmore⟩ := exists_gap more
    refine ⟨c :: gap, List.cons_ne_nil c gap, ?_, ?_, ?_⟩
    · rw [List.all_cons, hc, hgap]
      rfl
    · rw [List.cons_append, ← hmore]
    · rw [skipSpace, skipSpace, List.dropWhile_cons_of_pos hc]

/-- Any clause is read as the setting that its word announces. -/
theorem optionalSettingAt_write {word : String} (hword : IsWord word) (c : Clause)
    {value : List Char} (h : c.quoting.quote ∉ value) (rest : List Char) :
    optionalSettingAt word (c.write word value ++ rest) = .ok (some value, rest) := by
  have hshape : c.write word value ++ rest
      = c.gap ++ (word.toList ++ (c.quoting.write value ++ rest)) := by
    simp [Clause.write]
  rw [hshape, optionalSettingAt, skipSpace_append c.gap_space, hword, after?_append,
    afterGap_append c.gap_ne c.gap_space]
  change (settingAt (c.quoting.write value ++ rest) >>= _) = _
  rw [settingAt_write _ h]
  rfl

/-- A setting that was there, though it need not have been, was a clause. -/
theorem exists_clause {word : String} {s value rest : List Char}
    (h : optionalSettingAt word s = .ok (some value, rest)) :
    ∃ c : Clause, c.quoting.quote ∉ value ∧ s = c.write word value ++ rest := by
  unfold optionalSettingAt at h
  split at h
  · cases h
  · rename_i more hmore
    obtain ⟨_, hgap, h⟩ := exists_of_bind h
    obtain ⟨⟨value', rest'⟩, hsetting, heq⟩ := exists_of_bind h
    cases heq
    obtain ⟨gap, hne, hspace, hs, hrest⟩ := exists_of_afterGap hgap
    obtain ⟨q, hq, hquoting⟩ := exists_quoting hsetting
    refine ⟨⟨gap, hne, hspace, q⟩, hq, ?_⟩
    rw [hs, hrest, eq_append_of_after? hmore, hquoting]
    simp [Clause.write]

/-- A setting that is not there leaves the text as it is, the gap before it included. -/
theorem eq_of_optionalSettingAt_none {word : String} {s rest : List Char}
    (h : optionalSettingAt word s = .ok (none, rest)) : rest = s := by
  unfold optionalSettingAt at h
  split at h
  · cases h
    rfl
  · obtain ⟨_, -, h⟩ := exists_of_bind h
    obtain ⟨_, -, heq⟩ := exists_of_bind h
    cases heq

/-! ## Whole declarations -/

/-- The word for whether a document stands alone. -/
def wordOf (standalone : Bool) : String :=
  if standalone then "yes" else "no"

/-- How an opening declaration is written after the encoding: the clause that says whether
the document stands alone, if there is one, with what it says, and a gap. -/
structure Closing where
  alone : Option (Clause × Bool)
  last : List Char
  last_space : last.all isSpace = true

/-- What a closing says of the document; without a clause it does not stand alone. -/
def Closing.standalone (closing : Closing) : Bool :=
  (closing.alone.map Prod.snd).getD false

/-- The rest of a declaration behind the encoding, with its end mark. -/
def Closing.write (closing : Closing) : List Char :=
  ((closing.alone.map fun a => a.1.write "standalone" (wordOf a.2).toList).getD [])
    ++ (closing.last ++ "?>".toList)

/-- How an opening declaration is written, but for the encoding that it names. -/
structure Form where
  version : Clause
  number : List Char
  number_version : isVersion number = true
  encoding : Clause
  closing : Closing

/-- The declaration with a name in it. -/
def Form.write (form : Form) (name : List Char) : List Char :=
  "<?xml".toList ++ (form.version.write "version" form.number
    ++ (form.encoding.write "encoding" name ++ form.closing.write))

section Reading

theorem isWord_version : IsWord "version" := fun _ => rfl

theorem isWord_encoding : IsWord "encoding" := fun _ => rfl

theorem isWord_standalone : IsWord "standalone" := fun _ => rfl

/-- A quote is none of the characters that values are made of. -/
theorem quote_not_mem (q : Quoting) {value : List Char}
    (h : ∀ c ∈ value, c ≠ '"' ∧ c ≠ '\'') : q.quote ∉ value := by
  intro hmem
  rcases q.quote_eq with heq | heq
  · exact (h _ hmem).1 heq
  · exact (h _ hmem).2 heq

/-- A version is a one, a point and digits, so it holds no quote. -/
theorem plain_of_isVersion {number : List Char} (h : isVersion number = true) :
    ∀ c ∈ number, c ≠ '"' ∧ c ≠ '\'' := by
  unfold isVersion at h
  split at h
  · rename_i rest
    have hdigits : ∀ c ∈ rest, c ≠ '"' ∧ c ≠ '\'' := by
      intro c hc
      have hdigit := List.all_eq_true.mp h c hc
      constructor <;> rintro rfl <;> exact absurd hdigit (by decide)
    simpa using hdigits
  · cases h

/-- The name of an encoding is made of letters, digits and three signs, so it holds no quote. -/
theorem plain_of_isEncodingName {name : List Char} (h : isEncodingName name = true) :
    ∀ c ∈ name, c ≠ '"' ∧ c ≠ '\'' := by
  cases name with
  | nil => cases h
  | cons first rest =>
    rw [isEncodingName, Bool.and_eq_true, List.all_eq_true] at h
    rw [List.forall_mem_cons]
    refine ⟨?_, fun c hc => ?_⟩
    · constructor <;> rintro rfl <;> exact absurd h.1 (by decide)
    · have hrest := h.2 c hc
      constructor <;> rintro rfl <;> exact absurd hrest (by decide)

theorem plain_wordOf (standalone : Bool) :
    ∀ c ∈ (wordOf standalone).toList, c ≠ '"' ∧ c ≠ '\'' := by
  cases standalone <;> simp [wordOf]

theorem after?_end (closing : Closing) (body : List Char) :
    after? "?>" (skipSpace (closing.last ++ ("?>".toList ++ body))) = some body := by
  rw [skipSpace_append closing.last_space]
  exact after?_append "?>" body

/-- Any closing is read up to its last gap, and what it says is understood. -/
theorem read_closing (closing : Closing) (body : List Char) :
    ∃ setting, optionalSettingAt "standalone" (closing.write ++ body)
        = .ok (setting, closing.last ++ ("?>".toList ++ body))
      ∧ standaloneOf setting = .ok closing.standalone := by
  obtain ⟨alone, last, hlast⟩ := closing
  cases alone with
  | none =>
    have hskip : skipSpace (last ++ ("?>".toList ++ body)) = "?>".toList ++ body :=
      skipSpace_append hlast _
    refine ⟨none, ?_, rfl⟩
    change optionalSettingAt "standalone" (last ++ "?>".toList ++ body) = _
    rw [List.append_assoc, optionalSettingAt, hskip]
    rfl
  | some a =>
    obtain ⟨c, standalone⟩ := a
    refine ⟨some (wordOf standalone).toList, ?_, ?_⟩
    · change optionalSettingAt "standalone"
        (c.write "standalone" (wordOf standalone).toList ++ (last ++ "?>".toList) ++ body) = _
      rw [List.append_assoc, List.append_assoc]
      exact optionalSettingAt_write isWord_standalone c
        (quote_not_mem c.quoting (plain_wordOf standalone)) _
    · cases standalone <;> rfl

/-- Where no byte order mark settles the encoding, a known name decides on it. -/
theorem charsetOf_name {name : List Char} (hname : isEncodingName name = true)
    {charset : Text.Charset} (hcharset : Text.Charset.ofName? name = some charset) :
    charsetOf false (some name) = .ok (some charset) := by
  simp [charsetOf, hname, hcharset]

/-- The text of a declaration after its first word. -/
theorem read_write (form : Form) {name : List Char} (hname : isEncodingName name = true)
    {charset : Text.Charset} (hcharset : Text.Charset.ofName? name = some charset)
    (body : List Char) :
    Opening.read false (form.version.write "version" form.number
        ++ (form.encoding.write "encoding" name ++ (form.closing.write ++ body)))
      = .ok ({ charset := some charset, standalone := form.closing.standalone }, body) := by
  obtain ⟨setting, hsetting, hstandalone⟩ := read_closing form.closing body
  have hnumber := quote_not_mem form.version.quoting (plain_of_isVersion form.number_version)
  have hquote := quote_not_mem form.encoding.quoting (plain_of_isEncodingName hname)
  rw [Opening.read, Clause.write, List.append_assoc, List.append_assoc,
    afterGap_append form.version.gap_ne form.version.gap_space, isWord_version]
  simp only [after?_append, settingAt_write _ hnumber,
    optionalSettingAt_write isWord_encoding form.encoding hquote, hsetting, hstandalone,
    charsetOf_name hname hcharset, form.number_version, after?_end, Except.bind, bind]
  rfl

/-- **Reading a declaration.** The encoding is that of the name in it, whatever the form,
and the text after it is left. -/
theorem ofText_write (form : Form) {name : List Char} (hname : isEncodingName name = true)
    {charset : Text.Charset} (hcharset : Text.Charset.ofName? name = some charset)
    (body : List Char) :
    Opening.ofText false (form.write name ++ body)
      = .ok ({ charset := some charset, standalone := form.closing.standalone }, body) := by
  have hread := read_write form hname hcharset body
  have hshape : form.write name ++ body
      = "<?xml".toList ++ (form.version.write "version" form.number
        ++ (form.encoding.write "encoding" name ++ (form.closing.write ++ body))) := by
    simp only [Form.write, List.append_assoc]
  rw [hshape, Opening.ofText, after?_append]
  -- The word is followed by the gap before the version.
  obtain ⟨c, gap, hgap⟩ := List.exists_cons_of_ne_nil form.version.gap_ne
  have hspace : isSpace c = true := by
    have hall := form.version.gap_space
    rw [hgap, List.all_cons, Bool.and_eq_true] at hall
    exact hall.1
  rw [Clause.write, hgap, List.cons_append, List.cons_append] at hread ⊢
  simp only [hspace, if_true]
  exact hread

end Reading

/-! ### The form of a declaration -/

/-- What was read behind the encoding, up to the end mark, was a closing. -/
theorem exists_closing {s rest body : List Char} {setting : Option (List Char)}
    {standalone : Bool} (hsetting : optionalSettingAt "standalone" s = .ok (setting, rest))
    (hstandalone : standaloneOf setting = .ok standalone)
    (hend : after? "?>" (skipSpace rest) = some body) :
    ∃ closing : Closing, closing.standalone = standalone ∧ s = closing.write ++ body := by
  obtain ⟨last, hlast, hrest⟩ := exists_gap rest
  rw [eq_append_of_after? hend] at hrest
  cases setting with
  | none =>
    obtain rfl := eq_of_optionalSettingAt_none hsetting
    refine ⟨⟨none, last, hlast⟩, Except.ok.inj hstandalone, ?_⟩
    rw [hrest]
    simp [Closing.write]
  | some value =>
    obtain ⟨c, -, hs⟩ := exists_clause hsetting
    have hvalue : value = (wordOf standalone).toList := by
      simp only [standaloneOf] at hstandalone
      split_ifs at hstandalone with hyes hno
      · cases hstandalone
        exact hyes
      · cases hstandalone
        exact hno
    refine ⟨⟨some (c, standalone), last, hlast⟩, rfl, ?_⟩
    rw [hs, hrest, hvalue]
    simp [Closing.write]

/-- An encoding that was asked for was asked for by one of its names. -/
theorem name_of_charsetOf {setting : Option (List Char)} {charset : Text.Charset}
    (h : charsetOf false setting = .ok (some charset)) :
    ∃ name, setting = some name ∧ isEncodingName name = true
      ∧ Text.Charset.ofName? name = some charset := by
  cases setting with
  | none => cases h
  | some name =>
    simp only [charsetOf, Bool.false_eq_true, if_false, Bool.not_eq_true'] at h
    split_ifs at h with hname
    split at h
    · rename_i charset' hcharset
      cases h
      exact ⟨name, rfl, by simpa using hname, hcharset⟩
    · cases h

/-- What was read of a declaration after its first word. -/
theorem exists_of_read {s body : List Char} {charset : Text.Charset} {standalone : Bool}
    (h : Opening.read false s
      = .ok ({ charset := some charset, standalone := standalone }, body)) :
    ∃ (form : Form) (name : List Char),
      isEncodingName name = true ∧ Text.Charset.ofName? name = some charset
        ∧ form.closing.standalone = standalone
        ∧ "<?xml".toList ++ s = form.write name ++ body := by
  obtain ⟨afterGap, hgap, h⟩ := exists_of_bind h
  obtain ⟨gap, hne, hspace, hs, -⟩ := exists_of_afterGap hgap
  split at h
  · cases h
  rename_i afterWord hword
  obtain ⟨⟨number, afterVersion⟩, hversion, h⟩ := exists_of_bind h
  obtain ⟨quoting, -, hquoting⟩ := exists_quoting hversion
  dsimp only at h
  split_ifs at h with hnumber
  obtain ⟨⟨setting, afterEncoding⟩, hencoding, h⟩ := exists_of_bind h
  obtain ⟨charset', hcharset, h⟩ := exists_of_bind h
  obtain ⟨⟨alone, afterAlone⟩, halone, h⟩ := exists_of_bind h
  obtain ⟨standalone', hstandalone, h⟩ := exists_of_bind h
  dsimp only at hcharset halone hstandalone h
  split at h
  · rename_i body' hend
    cases h
    obtain ⟨name, rfl, hname, hof⟩ := name_of_charsetOf hcharset
    obtain ⟨encoding, -, hclause⟩ := exists_clause hencoding
    obtain ⟨closing, hclosing, hclosed⟩ := exists_closing halone hstandalone hend
    refine ⟨⟨⟨gap, hne, hspace, quoting⟩, number, by simpa using hnumber, encoding, closing⟩,
      name, hname, hof, hclosing, ?_⟩
    rw [hs, eq_append_of_after? hword, hquoting, hclause, hclosed]
    simp only [Form.write, Clause.write, List.append_assoc]
  · cases h

/-- **The form of a declaration.** A text whose opening declaration names an encoding is that
declaration, in some form, with a name of the encoding in it, and then the text that is left. -/
theorem exists_form {text body : List Char} {charset : Text.Charset} {standalone : Bool}
    (h : Opening.ofText false text
      = .ok ({ charset := some charset, standalone := standalone }, body)) :
    ∃ (form : Form) (name : List Char),
      isEncodingName name = true ∧ Text.Charset.ofName? name = some charset
        ∧ form.closing.standalone = standalone ∧ text = form.write name ++ body := by
  unfold Opening.ofText at h
  split at h
  · rename_i c rest hxml
    split_ifs at h
    · rw [eq_append_of_after? hxml]
      exact exists_of_read h
    · cases h
  · cases h

end Opening

end SymbolDocs.Markup
