import AccessorGen.Config.Decode
import AccessorGen.Proofs.Config.ValueText
import AccessorGen.Proofs.Text.Cutting
import AccessorGen.Proofs.Text.Lines
import AccessorGen.Proofs.Text.Trimming

/-! Where a fault of the settings points. The value is looked up again in the text, line by line and
without regard to quotes. What is found is the value of the entry, from its first character to its
last, exactly when no earlier line looks like the entry, no hash in the value stands behind a blank,
and a comment behind the value does. -/

namespace AccessorGen

namespace Text

theorem trim_padded {a s b : List Char} (hs : Toml.IsValueText s)
    (ha : ∀ c ∈ a, isBlank c = true) (hb : ∀ c ∈ b, isBlank c = true) :
    trim (a ++ s ++ b) = s := by
  obtain ⟨c, r, hfirst, hc, -⟩ := hs.first
  obtain ⟨r', c', hlast, hc'⟩ := hs.last
  have htrimmed : Trimmed s := ⟨by simp [hfirst, hc], by simp [hlast, hc']⟩
  exact trimsTo_iff.1 ⟨⟨a, b, rfl, ha, hb⟩, htrimmed⟩

end Text

open Text

namespace Config

def commentMark : List Char := [' ', '#']

section Comment

variable {s t : List Char}

theorem before_commentMark_append (hs : ¬commentMark <:+: s)
    (hseam : ∀ u v, s = u ++ [' '] → t ≠ '#' :: v) :
    before commentMark (s ++ t) = s ++ before commentMark t := by
  refine before_append fun u hu hne hp => ?_
  match u, hne with
  | [c], _ =>
    obtain ⟨rfl, hhash⟩ := List.cons_prefix_cons.1 hp
    obtain ⟨w, rfl⟩ := hu
    obtain ⟨v, rfl⟩ := hhash
    exact hseam w v rfl rfl
  | c :: d :: u, _ =>
    refine hs ((List.IsPrefix.isInfix ?_).trans hu.isInfix)
    obtain ⟨rfl, hrest⟩ := List.cons_prefix_cons.1 hp
    obtain ⟨rfl, -⟩ := List.cons_prefix_cons.1 hrest
    exact List.prefix_append [' ', '#'] u

theorem not_commentMark_of_not_mem (hs : '#' ∉ s) : ¬commentMark <:+: s :=
  fun h => hs (h.subset (by decide))

theorem before_commentMark_of_not_mem (hs : '#' ∉ s) : before commentMark s = s := by
  have h := before_commentMark_append (t := []) (not_commentMark_of_not_mem hs) nofun
  rwa [List.append_nil, before, List.append_nil] at h

end Comment

section Search

variable {key line : List Char} {ls ls' : List (List Char)} {n : Nat} {span : ByteSpan}

def GivesKey (key line : List Char) : Prop :=
  ∃ left right, cutAtEquals line = some (left, right) ∧ trim left = key

theorem valueOnLine?_eq_none_iff : valueOnLine? key line = none ↔ ¬GivesKey key line := by
  unfold valueOnLine? GivesKey
  cases hcut : cutAtEquals line with
  | none => simp
  | some halves =>
    obtain ⟨left, right⟩ := halves
    dsimp only
    split
    next hkey => simp [hkey]
    next hkey => simp [hkey]

theorem cutAtEquals_eq {left : List Char} (h : '=' ∉ left) (right : List Char) :
    cutAtEquals (left ++ '=' :: right) = some (left, right) := by
  have htest : ∀ c ∈ left, (fun c => decide (c ≠ '=')) c = true := fun c hc => by
    simpa using fun e : c = '=' => h (e ▸ hc)
  rw [cutAtEquals, List.dropWhile_append_of_pos htest, List.takeWhile_append_of_pos htest]
  simp

theorem append_of_cutAtEquals {left right : List Char}
    (h : cutAtEquals line = some (left, right)) : line = left ++ '=' :: right := by
  unfold cutAtEquals at h
  split at h
  next c value hdrop =>
    obtain ⟨rfl, rfl⟩ := Prod.mk.inj (Option.some.inj h)
    obtain rfl : c = '=' := by simpa using test_of_dropWhile hdrop
    rw [← hdrop, List.takeWhile_append_dropWhile]
  · cases h

theorem offset_le_of_valueOnLine? (h : valueOnLine? key line = some span) :
    span.offset ≤ utf8Length line := by
  unfold valueOnLine? at h
  split at h
  · cases h
  next left right hcut =>
    split at h
    · obtain rfl := Option.some.inj h
      have hvalue := utf8Length_le_of_prefix (before_front [' ', '#'] right)
      rw [append_of_cutAtEquals hcut, utf8Length_append, utf8Length]
      have hsize : 1 ≤ '='.utf8Size := '='.utf8Size_pos
      dsimp only
      omega
    · cases h

theorem valueFrom?_append (h : ∀ l ∈ ls, ¬GivesKey key l) (ls' : List (List Char)) :
    valueFrom? key n (ls ++ ls') = valueFrom? key (n + utf8Length ls.flatten) ls' := by
  induction ls generalizing n with
  | nil => rfl
  | cons l ls ih =>
    obtain ⟨hl, hls⟩ := List.forall_mem_cons.1 h
    rw [List.cons_append, valueFrom?, valueOnLine?_eq_none_iff.2 hl, List.flatten_cons,
      utf8Length_append, ← Nat.add_assoc]
    exact ih hls

theorem offset_le_of_valueFrom? (h : ¬∀ l ∈ ls, ¬GivesKey key l) (ls' : List (List Char)) :
    ∃ span, valueFrom? key n (ls ++ ls') = some span ∧ span.offset ≤ n + utf8Length ls.flatten := by
  induction ls generalizing n with
  | nil => exact absurd (List.forall_mem_nil _) h
  | cons l ls ih =>
    rw [List.cons_append, valueFrom?, List.flatten_cons, utf8Length_append]
    cases hl : valueOnLine? key l with
    | none =>
      have hrest : ¬∀ l ∈ ls, ¬GivesKey key l := fun hnone =>
        h (List.forall_mem_cons.2 ⟨valueOnLine?_eq_none_iff.1 hl, hnone⟩)
      rw [← Nat.add_assoc]
      exact ih hrest
    | some span =>
      have hle := offset_le_of_valueOnLine? hl
      exact ⟨_, rfl, by dsimp only; omega⟩

end Search

end Config

/-- A line `key = value` of a text, perhaps with white space and a comment behind the value. The
value is what the reader of TOML values takes there, and it ends on the line. In which table the
line stands is left open: what holds of every such line holds of the one the settings come from. -/
structure EntryLine (text key : List Char) where
  (front indent left right value gap comment rest : List Char)
  split : text =
    front ++ (indent ++ key ++ left ++ '=' :: (right ++ value ++ (gap ++ comment))) ++ rest
  wholeLines : WholeLines front
  spaces : (indent ++ left ++ right ++ gap).all (fun c => c == ' ' || c == '\t') = true
  reads : ∃ v o o', Toml.value ⟨value ++ (gap ++ comment ++ rest), o⟩ =
    some (v, ⟨gap ++ comment ++ rest, o'⟩)
  oneLine : '\n' ∉ value
  isComment : comment = [] ∨ ∃ r, comment = '#' :: r ∧ '\n' ∉ r
  isEnd : rest = [] ∨ (∃ r, rest = '\n' :: r) ∨ ∃ r, rest = '\r' :: '\n' :: r

namespace EntryLine

open Config

variable {text key : List Char}

/-- Where the value stands, in bytes. -/
def place (e : EntryLine text key) : ByteSpan :=
  ⟨utf8Length (e.front ++ (e.indent ++ key ++ e.left ++ '=' :: e.right)), utf8Length e.value⟩

/-- What makes the search find just the value: no earlier line has the key, no hash in the value
stands behind a blank, and a comment does. -/
structure Findable (e : EntryLine text key) : Prop where
  first : ∀ l ∈ lines e.front, ¬GivesKey key l
  noMark : ¬commentMark <:+: e.value
  apart : e.comment = [] ∨ ∃ g, e.gap = g ++ [' ']

variable (e : EntryLine text key)

theorem isValueText : Toml.IsValueText e.value := by
  obtain ⟨v, o, o', h⟩ := e.reads
  exact Toml.isValueText_of_value h

theorem isBlank_of_mem_spaces {c : Char}
    (h : c ∈ e.indent ∨ c ∈ e.left ∨ c ∈ e.right ∨ c ∈ e.gap) :
    isBlank c = true ∧ c ≠ '#' ∧ c ≠ '=' ∧ c ≠ '\n' := by
  have hmem : c ∈ e.indent ++ e.left ++ e.right ++ e.gap := by
    simpa [or_assoc] using h
  obtain rfl | rfl : c = ' ' ∨ c = '\t' := by
    simpa using List.all_eq_true.1 e.spaces c hmem
  · decide
  · decide

theorem trimEnd_value {t : List Char} (ht : ∀ c ∈ t, isBlank c = true) :
    trimEnd (e.value ++ t) = e.value := by
  obtain ⟨r, c, hvalue, hc⟩ := e.isValueText.last
  rw [trimEnd_append ht, hvalue, trimEnd_of_last hc]

section Found

variable {behind : List Char}

theorem utf8Length_found_lt (h : commentMark <:+: e.value) :
    utf8Length (trimEnd (before commentMark (e.value ++ behind))) < utf8Length e.value := by
  obtain ⟨hsame, hcut⟩ := before_around h behind
  have htrim := utf8Length_le_of_prefix (trimEnd_front (before commentMark e.value))
  have hvalue := utf8Length_le_of_prefix hcut
  rw [utf8Length_append] at hvalue
  have hmark := utf8Length_cons_pos ' ' ['#']
  rw [hsame]
  exact Nat.lt_of_le_of_lt htrim (Nat.lt_of_lt_of_le (Nat.lt_add_of_pos_right hmark) hvalue)

theorem found_eq (h : ¬commentMark <:+: e.value) :
    before commentMark (e.value ++ behind) = e.value ++ before commentMark behind := by
  refine before_commentMark_append h fun u v hblank => ?_
  obtain ⟨r, c, hvalue, hc⟩ := e.isValueText.last
  obtain ⟨-, hlast⟩ := List.append_inj' (hvalue.symm.trans hblank) rfl
  rw [List.cons.inj hlast |>.1] at hc
  cases hc

theorem utf8Length_found_gt {r : List Char} (h : ¬commentMark <:+: e.value)
    (hcomment : e.comment = '#' :: r) (hgap : ¬∃ g, e.gap = g ++ [' ']) :
    utf8Length e.value <
      utf8Length (trimEnd (before commentMark (e.value ++ (e.gap ++ e.comment ++ behind)))) := by
  have hspaces : '#' ∉ e.gap := fun hmem =>
    (e.isBlank_of_mem_spaces (.inr (.inr (.inr hmem)))).2.1 rfl
  have hkept : before commentMark ('#' :: (r ++ behind)) =
      '#' :: before commentMark (r ++ behind) := rfl
  rw [e.found_eq h, hcomment, List.append_assoc, List.cons_append,
    before_commentMark_append (not_commentMark_of_not_mem hspaces)
      fun u v hu => absurd ⟨u, hu⟩ hgap, hkept, ← List.append_assoc]
  have hprefix := utf8Length_le_of_prefix
    (front_trimEnd (c := '#') rfl (e.value ++ e.gap) (before commentMark (r ++ behind)))
  rw [utf8Length_append, utf8Length_append] at hprefix
  have hhash := utf8Length_cons_pos '#' []
  omega

/-- Without a mark in it, the value is found alone in front of what is no comment, and in front of
one behind a blank. -/
theorem found_alone (h : ¬commentMark <:+: e.value)
    (hbehind : ∀ c ∈ behind, isBlank c = true) (hhash : '#' ∉ behind)
    (happart : e.comment = [] ∨ ∃ g, e.gap = g ++ [' ']) :
    trimEnd (before commentMark (e.value ++ (e.gap ++ e.comment ++ behind))) = e.value := by
  have hgap {c : Char} (hc : c ∈ e.gap) : isBlank c = true ∧ c ≠ '#' ∧ c ≠ '=' ∧ c ≠ '\n' :=
    e.isBlank_of_mem_spaces (.inr (.inr (.inr hc)))
  rw [e.found_eq h]
  refine e.trimEnd_value ?_
  obtain hnone | ⟨r, hcomment, -⟩ := e.isComment
  · have hnot : '#' ∉ e.gap ++ behind := fun hmem =>
      (List.mem_append.1 hmem).elim (fun hc => (hgap hc).2.1 rfl) hhash
    rw [hnone, List.append_nil, before_commentMark_of_not_mem hnot]
    exact List.forall_mem_append.2 ⟨fun c hc => (hgap hc).1, hbehind⟩
  · have hsome : e.comment ≠ [] := hcomment ▸ List.cons_ne_nil _ _
    obtain ⟨g, hg⟩ := happart.resolve_left hsome
    have hfront {c : Char} (hc : c ∈ g) : isBlank c = true ∧ c ≠ '#' ∧ c ≠ '=' ∧ c ≠ '\n' :=
      hgap (by rw [hg]; exact List.mem_append_left _ hc)
    have hnot : '#' ∉ g := fun hmem => (hfront hmem).2.1 rfl
    have hseam (u v : List Char) (_ : g = u ++ [' ']) :
        ' ' :: '#' :: (r ++ behind) ≠ '#' :: v := nofun
    have hcut : before commentMark (' ' :: '#' :: (r ++ behind)) = [] := rfl
    rw [hg, hcomment, List.append_assoc, List.append_assoc, List.singleton_append, List.cons_append,
      before_commentMark_append (not_commentMark_of_not_mem hnot) hseam, hcut, List.append_nil]
    exact fun c hc => (hfront hc).1

theorem utf8Length_found_iff (hbehind : ∀ c ∈ behind, isBlank c = true) (hhash : '#' ∉ behind) :
    utf8Length (trimEnd (before commentMark (e.value ++ (e.gap ++ e.comment ++ behind)))) =
        utf8Length e.value ↔
      ¬commentMark <:+: e.value ∧ (e.comment = [] ∨ ∃ g, e.gap = g ++ [' ']) := by
  refine ⟨fun heq => ?_, fun ⟨hmark, happart⟩ => by rw [e.found_alone hmark hbehind hhash happart]⟩
  have hmark : ¬commentMark <:+: e.value := fun hmark =>
    Nat.ne_of_lt (e.utf8Length_found_lt hmark) heq
  refine ⟨hmark, e.isComment.imp_right fun ⟨r, hcomment, _⟩ => ?_⟩
  exact Classical.not_not.1 fun hgap => Nat.ne_of_gt (e.utf8Length_found_gt hmark hcomment hgap) heq

end Found

theorem found_behind_equals (behind : List Char) :
    ∃ c u, before commentMark (e.value ++ behind) = c :: u ∧ isBlank c = false ∧
      before commentMark (e.right ++ (e.value ++ behind)) =
        e.right ++ before commentMark (e.value ++ behind) := by
  obtain ⟨c, r, hvalue, hc, hhash⟩ := e.isValueText.first
  have hright : '#' ∉ e.right := fun hmem =>
    (e.isBlank_of_mem_spaces (.inr (.inr (.inl hmem)))).2.1 rfl
  have hspace : ¬commentMark.isPrefixOf (c :: (r ++ behind)) = true := fun hp => by
    obtain ⟨rfl, -⟩ := List.cons_prefix_cons.1 (List.isPrefixOf_iff_prefix.1 hp)
    cases hc
  refine ⟨c, before commentMark (r ++ behind), ?_, hc, ?_⟩
  · rw [hvalue, List.cons_append, before, if_neg hspace]
  · refine before_commentMark_append (not_commentMark_of_not_mem hright) fun u v _ heq => ?_
    rw [hvalue] at heq
    exact hhash (List.cons.inj heq).1

theorem valueOnLine?_eq (hkey : Toml.IsValueText key) (hequals : '=' ∉ key) (behind : List Char) :
    valueOnLine? key (e.indent ++ key ++ e.left ++ '=' :: (e.right ++ (e.value ++ behind))) =
      some ⟨utf8Length (e.indent ++ key ++ e.left ++ '=' :: e.right),
        utf8Length (trimEnd (before commentMark (e.value ++ behind)))⟩ := by
  have hspaces {c : Char} := e.isBlank_of_mem_spaces (c := c)
  have hnone : '=' ∉ e.indent ++ key ++ e.left := by
    simp only [List.mem_append, not_or]
    exact ⟨⟨fun h => (hspaces (.inl h)).2.2.1 rfl, hequals⟩,
      fun h => (hspaces (.inr (.inl h))).2.2.1 rfl⟩
  have htrim : trim (e.indent ++ key ++ e.left) = key :=
    trim_padded hkey (fun c hc => (hspaces (.inl hc)).1) fun c hc => (hspaces (.inr (.inl hc))).1
  obtain ⟨c, u, hfound, hc, hright⟩ := e.found_behind_equals behind
  have hstart : trimStart (e.right ++ c :: u) = c :: u :=
    trimStart_append (fun c hc => (hspaces (.inr (.inr (.inl hc)))).1) hc
  have hequal : '='.utf8Size = 1 := rfl
  unfold valueOnLine?
  rw [cutAtEquals_eq hnone]
  change (if trim (e.indent ++ key ++ e.left) = key then
    some (⟨utf8Length (e.indent ++ key ++ e.left) + 1 +
        (utf8Length (before commentMark (e.right ++ (e.value ++ behind))) -
          utf8Length (trimStart (before commentMark (e.right ++ (e.value ++ behind))))),
      utf8Length (trim (before commentMark (e.right ++ (e.value ++ behind))))⟩ : ByteSpan)
    else none) = _
  rw [if_pos htrim, hright, hfound, trim, hstart, utf8Length_append e.right,
    utf8Length_append _ ('=' :: e.right), Nat.add_sub_cancel, utf8Length.eq_2 '=', hequal,
    Nat.add_assoc]

theorem newline_not_mem_line (hkey : '\n' ∉ key) :
    '\n' ∉ e.indent ++ key ++ e.left ++ '=' :: (e.right ++ e.value ++ (e.gap ++ e.comment)) := by
  have hspaces {c : Char} := e.isBlank_of_mem_spaces (c := c)
  have hcomment : '\n' ∉ e.comment := by
    obtain h | ⟨r, h, hr⟩ := e.isComment
    · exact h ▸ List.not_mem_nil
    · rw [h]
      exact List.not_mem_cons_of_ne_of_not_mem (by decide) hr
  simp only [List.mem_append, List.mem_cons, not_or]
  exact ⟨⟨⟨fun h => (hspaces (.inl h)).2.2.2 rfl, hkey⟩,
    fun h => (hspaces (.inr (.inl h))).2.2.2 rfl⟩, by decide,
    ⟨fun h => (hspaces (.inr (.inr (.inl h)))).2.2.2 rfl, e.oneLine⟩,
    fun h => (hspaces (.inr (.inr (.inr h)))).2.2.2 rfl, hcomment⟩

theorem lines_eq (hkey : '\n' ∉ key) :
    ∃ ending r, (∀ c ∈ ending, isBlank c = true) ∧ '#' ∉ ending ∧
      lines text = lines e.front ++
        (e.indent ++ key ++ e.left ++
          '=' :: (e.right ++ (e.value ++ (e.gap ++ e.comment ++ ending)))) :: lines r := by
  obtain ⟨l, hl⟩ : ∃ l, l = e.indent ++ key ++ e.left ++
      '=' :: (e.right ++ e.value ++ (e.gap ++ e.comment)) := ⟨_, rfl⟩
  have hline : '\n' ∉ l := hl ▸ e.newline_not_mem_line hkey
  have hend (ending r : List Char) (hlines : lines (l ++ e.rest) = (l ++ ending) :: lines r) :
      lines text = lines e.front ++
        (e.indent ++ key ++ e.left ++
          '=' :: (e.right ++ (e.value ++ (e.gap ++ e.comment ++ ending)))) :: lines r := by
    refine (congrArg lines e.split).trans ?_
    rw [List.append_assoc, ← hl, e.wholeLines.lines_append, hlines, hl]
    simp only [List.append_assoc, List.cons_append]
  obtain h | ⟨r, h⟩ | ⟨r, h⟩ := e.isEnd
  · have hne : l ≠ [] := hl ▸ List.append_ne_nil_of_right_ne_nil _ (List.cons_ne_nil _ _)
    refine ⟨[], [], nofun, List.not_mem_nil, hend [] [] ?_⟩
    rw [h, List.append_nil, lines_of_not_mem hline hne]
    rfl
  · refine ⟨['\n'], r, by simp [isBlank], by decide, hend _ _ ?_⟩
    rw [h, lines_newline hline]
  · have hreturn : '\n' ∉ l ++ ['\r'] := by simp [hline]
    refine ⟨['\r', '\n'], r, by simp [isBlank], by decide, hend _ _ ?_⟩
    have hlines := lines_newline hreturn r
    rw [List.append_assoc, List.append_assoc] at hlines
    rw [h]
    exact hlines

theorem valueFrom?_eq (hkey : Toml.IsValueText key) (hequals : '=' ∉ key) (hline : '\n' ∉ key) :
    ∃ span, valueFrom? key 0 (lines text) = some span ∧ (span = e.place ↔ e.Findable) := by
  obtain ⟨ending, r, hblank, hhash, hlines⟩ := e.lines_eq hline
  rw [hlines]
  by_cases hfirst : ∀ l ∈ lines e.front, ¬GivesKey key l
  · rw [valueFrom?_append hfirst, valueFrom?, e.valueOnLine?_eq hkey hequals, flatten_lines,
      Nat.zero_add]
    refine ⟨_, rfl, ?_⟩
    rw [place, utf8Length_append e.front, ByteSpan.mk.injEq, eq_self, true_and,
      e.utf8Length_found_iff hblank hhash]
    exact ⟨fun ⟨hmark, happart⟩ => ⟨hfirst, hmark, happart⟩, fun h => ⟨h.noMark, h.apart⟩⟩
  · -- what is found instead begins in front of the line
    obtain ⟨span, hspan, hle⟩ := offset_le_of_valueFrom? (n := 0) hfirst _
    refine ⟨span, hspan, fun heq => ?_, fun h => absurd h.first hfirst⟩
    rw [flatten_lines, heq, place, Nat.zero_add, utf8Length_append e.front,
      utf8Length_append _ ('=' :: e.right)] at hle
    have hequal := utf8Length_cons_pos '=' e.right
    dsimp only at hle
    omega

end EntryLine

namespace Config

def checkedKeys : List String := ["annotation", "derives", "tab_spaces", "output"]

theorem mem_checkedKeys {c : Config} {key message : String}
    (h : c.complaint = some (key, message)) : key ∈ checkedKeys := by
  unfold complaint at h
  split at h
  · cases h
    decide
  split at h
  · cases h
    decide
  split at h
  · cases h
    decide
  split at h
  · cases h
    decide
  · cases h

theorem plain_of_mem_checkedKeys {key : String} (h : key ∈ checkedKeys) :
    Toml.IsValueText key.toList ∧ '=' ∉ key.toList ∧ '\n' ∉ key.toList := by
  have hall : ∀ key ∈ checkedKeys, Solid key.toList ∧ key.toList ≠ [] ∧ '#' ∉ key.toList ∧
      '=' ∉ key.toList ∧ '\n' ∉ key.toList := by decide
  obtain ⟨hsolid, hne, hhash, hequals, hline⟩ := hall key h
  exact ⟨.of_solid hsolid hne hhash, hequals, hline⟩

variable {src : SourceText} {entries : Toml.Entries} {c : Config} {key message : String}

theorem parse_of_complaint (hread : Toml.parse src.text = some entries)
    (hconfig : ofEntries entries.sorted = .ok c) (hcomplaint : c.complaint = some (key, message)) :
    parse src = .error (.invalid src (valueSpan? src.text key) message) := by
  have hcheck : c.check src = .error (.invalid src (valueSpan? src.text key) message) := by
    rw [check, hcomplaint]
  unfold parse
  simp only [hread, hconfig, hcheck]
  rfl

/-- Settings that can be read but have a value that is not allowed are refused. Where the value has
a line of its own there is a label, and it stands at the value, from its first byte to its last,
exactly when the search can find just that. -/
theorem label_at_value_iff (hread : Toml.parse src.text = some entries)
    (hconfig : ofEntries entries.sorted = .ok c) (hcomplaint : c.complaint = some (key, message))
    (e : EntryLine src.text.toList key.toList) :
    ∃ fault label, Config.parse src = .error fault ∧ fault.code = "companion::validation_error" ∧
      fault.label = some label ∧ label.text = message ∧ (label.span = e.place ↔ e.Findable) := by
  obtain ⟨hkey, hequals, hline⟩ := plain_of_mem_checkedKeys (mem_checkedKeys hcomplaint)
  obtain ⟨span, hspan, hiff⟩ := e.valueFrom?_eq hkey hequals hline
  refine ⟨.invalid src (some span) message, ⟨message, span⟩, ?_, rfl, rfl, rfl, hiff⟩
  rw [parse_of_complaint hread hconfig hcomplaint, valueSpan?, hspan]

def complaintOf? (text : String) : Option (String × String) :=
  match Toml.parse text with
  | none => none
  | some entries =>
    match ofEntries entries.sorted with
    | .ok c => c.complaint
    | .error _ => none

theorem complaintOf?_eq_some {text : String} (h : complaintOf? text = some (key, message)) :
    ∃ entries c, Toml.parse text = some entries ∧ ofEntries entries.sorted = .ok c ∧
      c.complaint = some (key, message) := by
  unfold complaintOf? at h
  split at h
  · cases h
  next entries hread =>
    split at h
    next c hconfig => exact ⟨entries, c, hread, hconfig, h⟩
    · cases h

end Config

namespace Sample

def oddWidth : SourceText := ⟨"[generator]\n  tab_spaces =  3 # odd\n", "companion.toml"⟩

def oddWidthLine : EntryLine oddWidth.text.toList "tab_spaces".toList where
  front := "[generator]\n".toList
  indent := [' ', ' ']
  left := [' ']
  right := [' ', ' ']
  value := ['3']
  gap := [' ']
  comment := "# odd".toList
  rest := ['\n']
  split := by decide
  wholeLines := .inr ⟨"[generator]".toList, rfl⟩
  spaces := by decide
  reads := ⟨.integer 3, 0, 1, rfl⟩
  oneLine := by decide
  isComment := .inr ⟨" odd".toList, rfl, by decide⟩
  isEnd := .inr (.inl ⟨[], rfl⟩)

def hashedName : SourceText := ⟨"[generator]\nannotation = \"a #b\"\n", "companion.toml"⟩

def hashedNameLine : EntryLine hashedName.text.toList "annotation".toList where
  front := "[generator]\n".toList
  indent := []
  left := [' ']
  right := [' ']
  value := "\"a #b\"".toList
  gap := []
  comment := []
  rest := ['\n']
  split := by decide
  wholeLines := .inr ⟨"[generator]".toList, rfl⟩
  spaces := by decide
  reads := ⟨.text "a #b", 0, 6, rfl⟩
  oneLine := by decide
  isComment := .inl rfl
  isEnd := .inr (.inl ⟨[], rfl⟩)

end Sample

open Sample in
theorem label_at_odd_width : ∃ fault label, Config.parse oddWidth = .error fault ∧
    fault.label = some label ∧ label = ⟨"tab_spaces must be 2, 4 or 8", ⟨28, 1⟩⟩ := by
  have hcomplaint : Config.complaintOf? oddWidth.text =
      some ("tab_spaces", "tab_spaces must be 2, 4 or 8") := by decide +kernel
  obtain ⟨entries, c, hread, hconfig, hcomplaint⟩ := Config.complaintOf?_eq_some hcomplaint
  have hfirst : ∀ l ∈ lines oddWidthLine.front, ¬Config.GivesKey "tab_spaces".toList l := by
    simp only [← Config.valueOnLine?_eq_none_iff]
    decide
  have hfindable : oddWidthLine.Findable := ⟨hfirst, by decide, .inr ⟨[], rfl⟩⟩
  obtain ⟨fault, label, hparse, -, hlabel, htext, hspan⟩ :=
    Config.label_at_value_iff hread hconfig hcomplaint oddWidthLine
  refine ⟨fault, label, hparse, hlabel, ?_⟩
  obtain ⟨text, span⟩ := label
  obtain rfl : text = _ := htext
  rw [show span = _ from hspan.2 hfindable]
  rfl

open Sample in
/-- Of a value with a hash behind a blank the label shows what stands in front of the blank. -/
theorem label_short_of_hash :
    (∃ fault, Config.parse hashedName = .error fault ∧
      fault.label = some ⟨"annotation 'a #b' is not a valid identifier", ⟨25, 2⟩⟩) ∧
    hashedNameLine.place = ⟨25, 6⟩ := by
  have hcomplaint : Config.complaintOf? hashedName.text =
      some ("annotation", "annotation 'a #b' is not a valid identifier") := by decide +kernel
  obtain ⟨entries, c, hread, hconfig, hcomplaint⟩ := Config.complaintOf?_eq_some hcomplaint
  have hspan : Config.valueSpan? hashedName.text "annotation" = some ⟨25, 2⟩ := by decide
  refine ⟨⟨_, Config.parse_of_complaint hread hconfig hcomplaint, ?_⟩, rfl⟩
  rw [hspan]
  rfl

end AccessorGen
