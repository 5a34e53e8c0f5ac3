import AccessorGen.Input.Fault
import AccessorGen.Proofs.Config.ValuePlace
import AccessorGen.Proofs.Input.Offsets

/-! Spans that can be cut out of their text. The bytes in front of a position are those of some
first characters of the text, so the span between two positions begins and ends between characters.
What a search for a value finds is the trimmed text behind the first equals sign of the first line
with the key, up to a comment mark or the end of the line; and it finds nothing only where no line
has the key. -/

namespace AccessorGen

open Text

namespace ByteSpan

/-- The span begins and ends between characters of the text, and the bytes in it are those of the
part. -/
structure Shows (span : ByteSpan) (text part : String) : Prop where
  inside : span.offset + span.length ≤ text.utf8ByteSize
  start : String.Pos.Raw.IsValid text ⟨span.offset⟩
  stop : String.Pos.Raw.IsValid text ⟨span.offset + span.length⟩
  bytes : text.toByteArray.extract span.offset (span.offset + span.length) = part.toByteArray

theorem shows_of_append {text : String} {a b c : List Char} (h : text.toList = a ++ b ++ c) :
    Shows ⟨utf8Length a, utf8Length b⟩ text (.ofList b) := by
  have htext : text = .ofList a ++ .ofList b ++ .ofList c := by
    apply String.toList_injective
    simpa using h
  have hstart : utf8Length a = (String.ofList a).utf8ByteSize := (utf8ByteSize_ofList a).symm
  have hstop : utf8Length a + utf8Length b = (String.ofList a ++ .ofList b).utf8ByteSize := by
    rw [String.utf8ByteSize_append, utf8ByteSize_ofList, utf8ByteSize_ofList]
  constructor
  · change utf8Length a + utf8Length b ≤ _
    rw [htext, hstop, String.utf8ByteSize_append (t := .ofList c)]
    exact Nat.le_add_right _ _
  · refine String.Pos.Raw.isValid_iff_exists_append.2
      ⟨.ofList a, .ofList b ++ .ofList c, ?_, ?_⟩
    · rw [htext, String.append_assoc]
    · rw [hstart]
      rfl
  · refine String.Pos.Raw.isValid_iff_exists_append.2 ⟨_, .ofList c, htext, ?_⟩
    change String.Pos.Raw.mk (utf8Length a + utf8Length b) = _
    rw [hstop]
    rfl
  · change text.toByteArray.extract (utf8Length a) (utf8Length a + utf8Length b) = _
    rw [htext, String.toByteArray_append, hstop, ← String.size_toByteArray,
      ByteArray.extract_append_size_left, String.toByteArray_append, ByteArray.size_append,
      ByteArray.extract_append_eq_right (hstart.trans String.size_toByteArray.symm) rfl]

end ByteSpan

theorem SourceText.spanBetween_stop (src : SourceText) (start stop : Position) :
    (src.spanBetween start stop).offset + (src.spanBetween start stop).length =
      max (start.byteOffset src.text.toList) (stop.byteOffset src.text.toList) := by
  unfold spanBetween
  dsimp only
  omega

theorem SourceText.shows_spanBetween (src : SourceText) (start stop : Position) :
    ∃ part, (src.spanBetween start stop).Shows src.text part := by
  obtain ⟨a, ha, hstart⟩ := start.exists_front src.text.toList
  obtain ⟨b, hb, hstop⟩ := stop.exists_front src.text.toList
  obtain ⟨part, rest, htext, hlength⟩ := exists_between ha hb
  refine ⟨.ofList part, ?_⟩
  rw [spanBetween, hstart, hstop, ← hlength]
  exact ByteSpan.shows_of_append htext

namespace Config

/-- Where a text first has a key in front of the first equals sign of a line: the value goes from
that sign to the next comment mark, or to the end of the line. -/
structure KeyLine (text key : List Char) where
  (front left value behind rest : List Char)
  split : text = front ++ (left ++ '=' :: (value ++ behind)) ++ rest
  wholeLines : WholeLines front
  first : ∀ l ∈ lines front, ¬GivesKey key l
  oneLine : '\n' ∉ left ++ '=' :: (value ++ behind)
  isEnd : rest = [] ∨ ∃ r, rest = '\n' :: r
  noEquals : '=' ∉ left
  isKey : TrimsTo left key
  noMark : ¬commentMark <:+: value
  isComment : behind = [] ∨ commentMark <+: behind

/-- The end of the line, where the value goes on to it. -/
def KeyLine.ending {text key : List Char} (e : KeyLine text key) : List Char :=
  if e.behind = [] then e.rest.take 1 else []

theorem KeyLine.isBlank_ending {text key : List Char} (e : KeyLine text key) :
    ∀ c ∈ e.ending, isBlank c = true := by
  unfold ending
  split
  · obtain hrest | ⟨r, hrest⟩ := e.isEnd
    · simp [hrest]
    · simp [hrest, isBlank]
  · simp

section Found

variable {text key left right line : List Char} {span : ByteSpan}

/-- On a line with the key the span goes over what is left of the value without the white space at
its ends. -/
theorem valueOnLine?_eq_some (hequals : '=' ∉ left) (hkey : trim left = key)
    (right : List Char) {value : List Char} (hvalue : before commentMark right = value) :
    ∃ a b, value = a ++ trim value ++ b ∧ (∀ c ∈ a, isBlank c = true) ∧
      (∀ c ∈ b, isBlank c = true) ∧ (trim value = [] → b = []) ∧
      valueOnLine? key (left ++ '=' :: right) =
        some ⟨utf8Length (left ++ '=' :: a), utf8Length (trim value)⟩ := by
  obtain ⟨a, b, hsplit, hstart, ha, hb, hnil⟩ := exists_padding value
  have hlength : utf8Length value = utf8Length a + utf8Length (trimStart value) := by
    rw [hstart, ← utf8Length_append, ← List.append_assoc, ← hsplit]
  have hequal : '='.utf8Size = 1 := rfl
  refine ⟨a, b, hsplit, ha, hb, hnil, ?_⟩
  unfold valueOnLine?
  rw [cutAtEquals_eq hequals]
  change (if trim left = key then
    some (⟨utf8Length left + 1 +
        (utf8Length (before commentMark right) -
          utf8Length (trimStart (before commentMark right))),
      utf8Length (trim (before commentMark right))⟩ : ByteSpan) else none) = _
  rw [if_pos hkey, hvalue, hlength, Nat.add_sub_cancel, utf8Length_append left, utf8Length,
    hequal, Nat.add_assoc]

theorem valueFrom?_eq_none_iff {n : Nat} {ls : List (List Char)} :
    valueFrom? key n ls = none ↔ ∀ l ∈ ls, ¬GivesKey key l := by
  induction ls generalizing n with
  | nil => simp [valueFrom?]
  | cons l ls ih =>
    rw [List.forall_mem_cons, ← valueOnLine?_eq_none_iff, ← ih (n := n + utf8Length l), valueFrom?]
    cases valueOnLine? key l <;> simp

theorem exists_of_valueFrom? {n : Nat} {ls : List (List Char)}
    (h : valueFrom? key n ls = some span) :
    ∃ ls₁ line ls₂ onLine, ls = ls₁ ++ line :: ls₂ ∧ (∀ l ∈ ls₁, ¬GivesKey key l) ∧
      valueOnLine? key line = some onLine ∧
      span = ⟨n + utf8Length ls₁.flatten + onLine.offset, onLine.length⟩ := by
  induction ls generalizing n with
  | nil => cases h
  | cons l ls ih =>
    rw [valueFrom?] at h
    cases hl : valueOnLine? key l with
    | some onLine =>
      rw [hl] at h
      exact ⟨[], l, ls, onLine, rfl, List.forall_mem_nil _, hl, (Option.some.inj h).symm⟩
    | none =>
      rw [hl] at h
      obtain ⟨ls₁, line, ls₂, onLine, rfl, hnone, hline, rfl⟩ := ih h
      refine ⟨l :: ls₁, line, ls₂, onLine, rfl,
        List.forall_mem_cons.2 ⟨valueOnLine?_eq_none_iff.1 hl, hnone⟩, hline, ?_⟩
      rw [List.flatten_cons, utf8Length_append, Nat.add_assoc n]

theorem before_lineEnd {value behind ending : List Char}
    (hbehind : value = before commentMark value ++ behind)
    (hending : ending = [] ∨ ending = ['\n']) :
    before commentMark (value ++ ending) =
      before commentMark value ++ if behind = [] then ending else [] := by
  by_cases hmark : commentMark <:+: value
  · have hmore : behind ≠ [] := by
      rintro rfl
      rw [List.append_nil] at hbehind
      exact not_infix_before (List.cons_ne_nil _ _) value (hbehind ▸ hmark)
    rw [(before_around hmark ending).1, if_neg hmore, List.append_nil]
  · have hkept (t : List Char) (ht : ∀ v, t ≠ '#' :: v) :
        before commentMark (value ++ t) = value ++ before commentMark t :=
      before_commentMark_append hmark fun _ v _ => ht v
    have hnone := hkept [] nofun
    rw [List.append_nil, before, List.append_nil] at hnone
    rw [hnone] at hbehind
    rw [hnone, if_pos (List.self_eq_append_right.1 hbehind)]
    obtain rfl | rfl := hending
    · exact hkept [] nofun
    · exact hkept ['\n'] fun v hv => absurd (List.cons.inj hv).1 (by decide)

theorem equals_not_mem_of_cutAtEquals (h : cutAtEquals line = some (left, right)) :
    '=' ∉ left := by
  unfold cutAtEquals at h
  split at h
  · obtain ⟨rfl, -⟩ := Prod.mk.inj (Option.some.inj h)
    exact fun hmem => by simpa using List.all_eq_true.1 List.all_takeWhile _ hmem
  · cases h

theorem exists_keyLine {ls ls' : List (List Char)} (hlines : lines text = ls ++ line :: ls')
    (hfirst : ∀ l ∈ ls, ¬GivesKey key l) (hline : cutAtEquals line = some (left, right))
    (hkey : trim left = key) : ∃ e : KeyLine text key, e.front = ls.flatten ∧ e.left = left ∧
      before commentMark right = e.value ++ e.ending := by
  obtain ⟨front, body, rest, rfl, hwhole, rfl, hbody, hend⟩ := split_at_line hlines
  have hequals := equals_not_mem_of_cutAtEquals hline
  have hsplit := append_of_cutAtEquals hline
  -- the value is looked at without the end of the line
  obtain ⟨value, rfl, hrest, hvalue⟩ : ∃ value, body = left ++ '=' :: value ∧
      (rest = [] ∨ ∃ r, rest = '\n' :: r) ∧ right = value ++ rest.take 1 := by
    obtain ⟨rfl, rfl⟩ | ⟨⟨r, rfl⟩, rfl⟩ := hend
    · exact ⟨right, hsplit, .inl rfl, (List.append_nil right).symm⟩
    · obtain ⟨value, rfl⟩ : ∃ value, right = value ++ ['\n'] := by
        have hlast := congrArg List.getLast? hsplit
        rw [List.getLast?_concat, List.getLast?_append_cons] at hlast
        cases right with
        | nil => exact absurd hlast (by decide)
        | cons c r =>
          rw [List.getLast?_cons_cons] at hlast
          obtain ⟨value, hvalue⟩ := List.getLast?_eq_some_iff.1 hlast.symm
          exact ⟨value, hvalue⟩
      exact ⟨value, List.append_cancel_right (hsplit.trans (by simp)), .inr ⟨r, rfl⟩, rfl⟩
  obtain ⟨behind, hbehind, hcomment⟩ := before_spec commentMark value
  refine ⟨⟨front, left, before commentMark value, behind, rest, ?_, hwhole, hfirst, ?_, hrest,
    hequals, trimsTo_iff.2 hkey, not_infix_before (List.cons_ne_nil _ _) value, hcomment⟩,
    (flatten_lines front).symm, rfl, ?_⟩
  · rw [← hbehind]
  · rwa [← hbehind]
  · rw [hvalue]
    refine before_lineEnd hbehind ?_
    obtain rfl | ⟨r, rfl⟩ := hrest
    · exact .inl rfl
    · exact .inr rfl

/-- What a search may give: the place of what is left of the value without the white space at its
ends, on the first line with the key, or nothing where there is no such line. A value that is blank
stands behind all the white space, the end of its line included. -/
def Finds (text key : String) : Option ByteSpan → Prop
  | some span => ∃ e : KeyLine text.toList key.toList, ∃ a part b, TrimsTo e.value part ∧
      e.value ++ e.ending = a ++ part ++ b ∧ (∀ c ∈ a, isBlank c = true) ∧
      (∀ c ∈ b, isBlank c = true) ∧ (part = [] → b = []) ∧
      span = ⟨utf8Length (e.front ++ (e.left ++ '=' :: a)), utf8Length part⟩ ∧
      span.Shows text (.ofList part)
  | none => IsEmpty (KeyLine text.toList key.toList)

theorem finds_of_eq_some {text key : String} (h : valueSpan? text key = some span) :
    Finds text key (some span) := by
  obtain ⟨ls, line, ls', onLine, hlines, hfirst, hline, rfl⟩ := exists_of_valueFrom? h
  obtain ⟨left, right, hcut, hkey⟩ : GivesKey key.toList line := by
    refine Classical.not_not.1 fun hnone => ?_
    rw [valueOnLine?_eq_none_iff.2 hnone] at hline
    cases hline
  obtain ⟨e, hfront, rfl, hvalue⟩ := exists_keyLine hlines hfirst hcut hkey
  obtain ⟨a, b, hpart, ha, hb, hnil, hfound⟩ := valueOnLine?_eq_some
    (equals_not_mem_of_cutAtEquals hcut) hkey right hvalue
  have hsplit := append_of_cutAtEquals hcut
  rw [hsplit, hfound] at hline
  obtain rfl := Option.some.inj hline
  have htrim : trim (e.value ++ e.ending) = trim e.value :=
    trimsTo_iff.1 ((trimsTo_trim e.value).append e.isBlank_ending)
  have hplace : (⟨0 + utf8Length ls.flatten + utf8Length (e.left ++ '=' :: a),
      utf8Length (trim (e.value ++ e.ending))⟩ : ByteSpan) =
        ⟨utf8Length (e.front ++ (e.left ++ '=' :: a)), utf8Length (trim (e.value ++ e.ending))⟩ := by
    rw [hfront, utf8Length_append ls.flatten, Nat.zero_add]
  refine ⟨e, a, trim (e.value ++ e.ending), b, trimsTo_iff.2 htrim.symm, hpart, ha, hb, hnil,
    hplace, ?_⟩
  obtain ⟨behind, hbehind, -⟩ := before_spec commentMark right
  have htext : text.toList = (e.front ++ (e.left ++ '=' :: a)) ++
      trim (e.value ++ e.ending) ++ (b ++ behind ++ ls'.flatten) := by
    have hright : right = a ++ trim (e.value ++ e.ending) ++ b ++ behind := by
      rw [← hpart, ← hvalue, ← hbehind]
    conv_lhs => rw [← flatten_lines text.toList, hlines, hsplit, hright]
    simp [hfront]
  rw [hplace]
  exact ByteSpan.shows_of_append htext

theorem finds_of_eq_none {text key : String} (h : valueSpan? text key = none) :
    Finds text key none := by
  refine ⟨fun e => ?_⟩
  have hlines : lines text.toList =
      lines e.front ++ lines (e.left ++ '=' :: (e.value ++ e.behind) ++ e.rest) := by
    refine (congrArg lines e.split).trans ?_
    rw [List.append_assoc, e.wholeLines.lines_append]
  obtain ⟨ending, hgives⟩ : ∃ ending,
      e.left ++ '=' :: (e.value ++ e.behind ++ ending) ∈ lines text.toList := by
    obtain hrest | ⟨r, hrest⟩ := e.isEnd
    · refine ⟨[], ?_⟩
      rw [hlines, hrest, List.append_nil, lines_of_not_mem e.oneLine (by simp)]
      simp
    · refine ⟨['\n'], ?_⟩
      rw [hlines, hrest, lines_newline e.oneLine]
      simp
  exact valueFrom?_eq_none_iff.1 h _ hgives
    ⟨_, _, cutAtEquals_eq e.noEquals _, trimsTo_iff.1 e.isKey⟩

theorem finds_valueSpan? (text key : String) : Finds text key (valueSpan? text key) := by
  cases h : valueSpan? text key with
  | some span => exact finds_of_eq_some h
  | none => exact finds_of_eq_none h

end Found

end Config

/-- The label of a syntax fault can be cut out of its text, whatever the two positions are, and ends
at the later of them. The span of a value shows the value. -/
theorem spans_sliceable (src : SourceText) (start stop : Position) (cause text key : String) :
    (∃ label, (src.syntaxFault start stop cause).label = some label ∧
      (∃ part, label.span.Shows src.text part) ∧
      label.span.offset = start.byteOffset src.text.toList ∧
      label.span.offset + label.span.length =
        max (start.byteOffset src.text.toList) (stop.byteOffset src.text.toList)) ∧
    Config.Finds text key (Config.valueSpan? text key) := by
  refine ⟨⟨_, rfl, ?_, rfl, ?_⟩, Config.finds_valueSpan? text key⟩
  · exact src.shows_spanBetween start stop
  · exact src.spanBetween_stop start stop

/-- Without a value the span is empty and stands at the beginning of the next line. -/
example : Config.valueSpan? "x = \n\u00e9" "x" = some ⟨5, 0⟩ := by decide

end AccessorGen
