import AccessorGen.Discovery.SourceFile
import AccessorGen.Proofs.Input.Offsets

/-! Where a syntax error points. The parser counts lines and columns in the text that is left
without a byte order mark and without a line for the loader; the bytes are counted in the text as it
is. Both agree from the second line on, and on the first line unless a byte order mark was taken
off. -/

namespace AccessorGen

open Text

namespace Position

variable {removed front : List Char}

/-- Where nothing was taken off, and from the second line on, the bytes are those in front of the
place in the whole text. -/
theorem byteOffset_removed (hremoved : '\n' ∉ removed) (h : removed = [] ∨ '\n' ∈ front)
    (t : List Char) :
    byteOffset (removed ++ (front ++ t)) (behind (front ++ t) front.length) =
      utf8Length (removed ++ front) := by
  obtain rfl | hfront := h
  · exact byteOffset_behind front t
  obtain ⟨a, b, rfl, ha, hb⟩ := exists_wholeLines front
  have hwhole : WholeLines (removed ++ a) := by
    obtain rfl | ⟨l, rfl⟩ := ha
    · exact absurd hfront hb
    · exact .inr ⟨removed ++ l, (List.append_assoc _ _ _).symm⟩
  have hcount : (removed ++ a).count '\n' = a.count '\n' := by
    rw [List.count_append, List.count_eq_zero.2 hremoved, Nat.zero_add]
  have h := byteOffset_append hwhole hb t
  rw [hcount] at h
  rw [behind_append ha hb]
  simpa only [List.append_assoc] using h

theorem byteOffset_removed_lt (hremoved : '\n' ∉ removed) (hne : removed ≠ [])
    (hfront : '\n' ∉ front) (t : List Char) :
    byteOffset (removed ++ (front ++ t)) (behind (front ++ t) front.length) <
      utf8Length (removed ++ front) := by
  have hline : '\n' ∉ removed ++ front := by simp [hremoved, hfront]
  have hlength : front.length < (removed ++ front).length := by
    rw [List.length_append]
    exact Nat.lt_add_of_pos_left (List.length_pos_iff.2 hne)
  have hbehind {b : List Char} (hb : '\n' ∉ b) : behind (b ++ t) b.length = ⟨1, b.length⟩ :=
    behind_append (.inl rfl) hb t
  rw [← List.append_assoc, hbehind hfront]
  refine byteOffset_lt_utf8Length (List.prefix_append _ t) (Nat.le_refl 1) ?_
  rw [hbehind hline]
  exact lt_iff.2 (.inr ⟨rfl, hlength⟩)

end Position

theorem withoutOrderMark_spec (s : List Char) :
    s = Source.Lexer.byteOrderMark :: withoutOrderMark s ∨
      s.head? ≠ some Source.Lexer.byteOrderMark ∧ withoutOrderMark s = s := by
  unfold withoutOrderMark without
  split
  next h =>
    obtain ⟨r, rfl⟩ := List.isPrefixOf_iff_prefix.1 h
    exact .inl rfl
  next h =>
    refine .inr ⟨fun hhead => h ?_, rfl⟩
    obtain ⟨r, rfl⟩ := List.head?_eq_some_iff.1 hhead
    exact List.isPrefixOf_iff_prefix.2 ⟨r, rfl⟩

theorem withoutLoaderLine_spec (s : List Char) :
    ∃ loader, s = loader ++ withoutLoaderLine s ∧ '\n' ∉ loader ∧
      (loader = [] ∨ ∀ c ∈ (withoutLoaderLine s).head?, c = '\n') := by
  unfold withoutLoaderLine
  split
  · refine ⟨s.takeWhile (· ≠ '\n'), List.takeWhile_append_dropWhile.symm, fun hmem => ?_,
      .inr fun c hc => ?_⟩
    · simpa using List.all_eq_true.1 List.all_takeWhile _ hmem
    · have hhead := s.head?_dropWhile_not (· ≠ '\n')
      rw [Option.mem_def.1 hc] at hhead
      simpa using hhead
  · exact ⟨[], rfl, List.not_mem_nil, .inl rfl⟩

section Label

variable {src : SourceText} {removed front token back : List Char}

/-- What was taken off holds no line end. In front of a token on the first line it is a byte order
mark, if the text begins with one, and else nothing. -/
theorem SourceText.removed_spec (htext : src.text.toList = removed ++ src.parsed) :
    '\n' ∉ removed ∧
      ((removed = [] ↔ src.text.toList.head? ≠ some Source.Lexer.byteOrderMark) ∨
        ∀ c ∈ src.parsed.head?, c = '\n') := by
  obtain ⟨loader, hloader, hline, hrest⟩ :=
    withoutLoaderLine_spec (withoutOrderMark src.text.toList)
  change _ = loader ++ src.parsed at hloader
  obtain hmark | ⟨hnone, hsame⟩ := withoutOrderMark_spec src.text.toList
  · have hremoved : removed = Source.Lexer.byteOrderMark :: loader := by
      refine List.append_cancel_right (htext.symm.trans (hmark.trans ?_))
      rw [hloader, List.cons_append]
    rw [hmark, hremoved]
    refine ⟨List.not_mem_cons_of_ne_of_not_mem (by decide) hline, .inl ?_⟩
    exact iff_of_false (List.cons_ne_nil _ _) fun hne => hne rfl
  · obtain rfl : removed = loader :=
      List.append_cancel_right (htext.symm.trans (hsame.symm.trans hloader))
    exact ⟨hline, hrest.imp_left fun hnil => iff_of_true hnil hnone⟩

/-- The bytes between both ends of a token are those of the token in the whole text, unless
something was taken off in front of it on its line. -/
theorem SourceText.spanBetween_eq_iff (htext : src.text.toList = removed ++ src.parsed)
    (hparsed : src.parsed = front ++ token ++ back) :
    src.spanBetween (.behind src.parsed front.length) (.behind src.parsed (front ++ token).length) =
        ⟨utf8Length (removed ++ front), utf8Length token⟩ ↔
      removed = [] ∨ '\n' ∈ front := by
  obtain ⟨hremoved, -⟩ := removed_spec htext
  have hwhole : src.parsed = front ++ (token ++ back) := by rw [hparsed, List.append_assoc]
  constructor
  · refine fun heq => Classical.not_not.1 fun hneither => ?_
    obtain ⟨hne, hfront⟩ := not_or.1 hneither
    have hlt := Position.byteOffset_removed_lt hremoved hne hfront (token ++ back)
    rw [← hwhole, ← htext] at hlt
    exact Nat.ne_of_lt hlt (congrArg ByteSpan.offset heq)
  · intro h
    have hstart := Position.byteOffset_removed hremoved h (token ++ back)
    have hlater : removed = [] ∨ '\n' ∈ front ++ token := h.imp_right (List.mem_append_left token)
    have hstop := Position.byteOffset_removed hremoved hlater back
    rw [← hwhole, ← htext] at hstart
    rw [← hparsed, ← htext] at hstop
    rw [spanBetween, hstart, hstop, ← List.append_assoc, utf8Length_append _ token,
      Nat.add_sub_cancel_left]

/-- Where the parser refuses a token, the label stands at the token, from its first byte to its
last, exactly when no byte order mark begins the text or the token is not on the first line. -/
theorem SourceText.label_at_token_iff (space : Namespace) (marker : String) {e : Source.SyntaxError}
    (htext : src.text.toList = removed ++ src.parsed)
    (hparsed : src.parsed = front ++ token ++ back)
    (htoken : ∃ c r, token = c :: r ∧ c ≠ '\n')
    (hrefused : Source.readText Source.items src.parsed = .error e)
    (hspan : e.span = ⟨front.length, (front ++ token).length⟩) :
    ∃ fault label, src.declarations space marker = .error fault ∧
      fault.code = "companion::syntax_error" ∧ fault.label = some label ∧
      (label.span = ⟨utf8Length (removed ++ front), utf8Length token⟩ ↔
        src.text.toList.head? ≠ some Source.Lexer.byteOrderMark ∨ '\n' ∈ front) := by
  have hfault : src.declarations space marker = .error (src.syntaxFault
      (.behind src.parsed front.length) (.behind src.parsed (front ++ token).length)
      e.message) := by
    unfold SourceText.declarations SourceText.items
    rw [hrefused]
    simp only [hspan]
    rfl
  refine ⟨_, _, hfault, rfl, rfl, (spanBetween_eq_iff htext hparsed).trans ?_⟩
  obtain ⟨-, hmark | hloader⟩ := removed_spec htext
  · rw [hmark]
  · -- behind a line for the loader the token is on a later line
    have hfront : '\n' ∈ front := by
      obtain ⟨c, r, rfl, hc⟩ := htoken
      rw [hparsed] at hloader
      cases front with
      | nil => exact absurd (hloader c rfl) hc
      | cons d front => exact hloader d rfl ▸ List.mem_cons_self
    exact iff_of_true (.inr hfront) (.inr hfront)

end Label

def Source.refusal? (s : List Char) : Option Span :=
  match readText items s with
  | .ok _ => none
  | .error e => some e.span

theorem Source.refusal?_eq_some {s : List Char} {span : Span} (h : refusal? s = some span) :
    ∃ e, readText items s = .error e ∧ e.span = span := by
  unfold refusal? at h
  split at h
  · cases h
  next e he => exact ⟨e, he, Option.some.inj h⟩

namespace Sample

def laterLine : SourceText := ⟨"// \u00e9\r\nstruct \u00dcber 1;", "lib.rs"⟩

def markedLine : SourceText := ⟨"\ufeffstruct User 1;", "lib.rs"⟩

end Sample

theorem label_at_later_line : ∃ fault label,
    Sample.laterLine.declarations .root "custom_lombok" = .error fault ∧
    fault.label = some label ∧ label.span = ⟨20, 1⟩ := by
  have hrefusal : Source.refusal? Sample.laterLine.parsed = some ⟨18, 19⟩ := by decide +kernel
  obtain ⟨e, hrefused, hspan⟩ := Source.refusal?_eq_some hrefusal
  have htext : Sample.laterLine.text.toList = [] ++ Sample.laterLine.parsed := by decide
  have hparsed : Sample.laterLine.parsed =
      "// \u00e9\r\nstruct \u00dcber ".toList ++ ['1'] ++ [';'] := by decide
  obtain ⟨fault, label, hfault, -, hlabel, hiff⟩ := SourceText.label_at_token_iff .root
    "custom_lombok" htext hparsed ⟨'1', [], rfl, by decide⟩ hrefused hspan
  exact ⟨fault, label, hfault, hlabel, hiff.2 (.inr (by decide))⟩

/-- Behind a byte order mark the label stands a character in front of the token. -/
theorem label_in_front_of_token :
    (∃ fault, Sample.markedLine.declarations .root "custom_lombok" = .error fault ∧
      fault.label = some ⟨"syntax error here", ⟨14, 1⟩⟩) ∧
    Source.refusal? Sample.markedLine.parsed = some ⟨12, 13⟩ ∧
    Sample.markedLine.text.toList =
      Source.Lexer.byteOrderMark :: "struct User ".toList ++ ['1', ';'] ∧
    utf8Length (Source.Lexer.byteOrderMark :: "struct User ".toList) = 15 := by
  have hlabel : (match Sample.markedLine.declarations .root "custom_lombok" with
      | .ok _ => none
      | .error fault => some fault.label) = some (some ⟨"syntax error here", ⟨14, 1⟩⟩) := by
    decide +kernel
  refine ⟨?_, by decide +kernel, by decide, by decide⟩
  split at hlabel
  · cases hlabel
  next fault hfault => exact ⟨fault, hfault, Option.some.inj hlabel⟩

end AccessorGen
