import AccessorGen.Proofs.Source.Reading

/-! Which token stands at the front of a text: a word is read as far as its characters go on, a mark
alone, and a header comment is passed over with its line. -/

namespace AccessorGen.Source

namespace Lexeme

def endsWord : List Char → Bool
  | [] => true
  | c :: _ => !Text.isWordContinue c && !(['"', '#', '\''].contains c)

theorem bareWord_append {w r : List Char} (h : bareWord w = some (w, [])) (hr : endsWord r = true) :
    bareWord (w ++ r) = some (w, r) := by
  cases w with
  | nil => cases h
  | cons c l =>
    rw [bareWord] at h
    split at h
    next hc =>
      have htake := (List.cons.inj (Prod.mk.inj (Option.some.inj h)).1).2
      have hall : ∀ d ∈ l, Text.isWordContinue d = true := by
        rw [← htake]
        exact fun d hd => List.all_eq_true.1 List.all_takeWhile d hd
      have htake : r.takeWhile Text.isWordContinue = [] ∧ r.dropWhile Text.isWordContinue = r := by
        cases r with
        | nil => exact ⟨rfl, rfl⟩
        | cons d r =>
          have hd : Text.isWordContinue d = false := by
            simp only [endsWord, Bool.and_eq_true, Bool.not_eq_true'] at hr
            exact hr.1
          have hno : ¬Text.isWordContinue d = true := by simp [hd]
          exact ⟨List.takeWhile_cons_of_neg hno, List.dropWhile_cons_of_neg hno⟩
      rw [List.cons_append, bareWord, if_pos hc, List.takeWhile_append_of_pos hall,
        List.dropWhile_append_of_pos hall, htake.1, htake.2, List.append_nil]
    · cases h

theorem word_append_ends {w r : List Char} (h : word w = some (w, [])) (hr : endsWord r = true) :
    word (w ++ r) = some (w, r) := by
  unfold word at h
  split at h
  next v =>
    split at h
    next x rest hv =>
      split at h
      · cases h
      next hraw =>
        obtain ⟨hx, rfl⟩ := Prod.mk.inj (Option.some.inj h)
        obtain rfl : x = v := by simpa using hx
        rw [List.cons_append, List.cons_append, word, bareWord_append hv hr]
        exact if_neg hraw
    · cases h
  next hother =>
    unfold word
    split
    next r' heq =>
      exfalso
      obtain _ | ⟨c, _ | ⟨d, w⟩⟩ := w
      · cases h
      · obtain ⟨rfl, rfl⟩ := List.cons.inj heq
        have hhash : endsWord ['#'] = true := hr
        exact absurd hhash (by decide)
      · simp only [List.cons_append, List.cons.injEq] at heq
        exact hother w (by rw [heq.1, heq.2.1])
    · exact bareWord_append h hr

theorem quoteStart_append {w r q : List Char} (hq : q ∈ quoteStarts) (hw : w ≠ [])
    (hr : endsWord r = true) (h : q <+: w ++ r) : q <+: w := by
  by_contra hno
  have hlong : w.length < q.length := by
    by_contra hshort
    exact hno (List.prefix_of_prefix_length_le h (List.prefix_append w r) (by omega))
  obtain ⟨t, rfl⟩ := List.prefix_of_prefix_length_le (List.prefix_append w r) h hlong.le
  match t, w, hw with
  | [], _, _ => simp at hlong
  | d :: t, c :: w, _ =>
    have hall : (quoteStarts.all fun q => q.tail.all fun d => !endsWord [d]) = true := by decide
    have hd := List.all_eq_true.1 (List.all_eq_true.1 hall _ hq) d (by simp)
    rw [Bool.not_eq_true'] at hd
    obtain ⟨u, hu⟩ := h
    rw [List.append_assoc, List.append_cancel_left_eq] at hu
    rw [← hu] at hr
    exact absurd ((hr : endsWord [d] = true).symm.trans hd) (by decide)

theorem plainWord_append_ends {w r : List Char} (h : plainWord w = some (w, []))
    (hr : endsWord r = true) : plainWord (w ++ r) = some (w, r) := by
  unfold plainWord at h ⊢
  split at h
  · cases h
  next hstarts =>
    rw [if_neg, word_append_ends h hr]
    intro hfront
    obtain ⟨q, hq, hprefix⟩ := List.any_eq_true.1 hfront
    have hw : w ≠ [] := by
      rintro rfl
      cases h
    refine hstarts (List.any_eq_true.2 ⟨q, hq, ?_⟩)
    rw [List.isPrefixOf_iff_prefix] at hprefix ⊢
    exact quoteStart_append hq hw hr hprefix

def rawStarts : List (List Char) := [['"'], ['#', '"'], ['#', '#']]

theorem rawStart_of_raw {flavor : Flavor} {t : List Char} (h : raw flavor t ≠ none) :
    ∃ q ∈ rawStarts, q <+: t := by
  have hquote : ∃ u, t.dropWhile (· == '#') = '"' :: u := by
    rw [raw] at h
    split at h
    · contradiction
    · split at h
      next u hu => exact ⟨u, hu⟩
      · contradiction
  obtain ⟨u, hu⟩ := hquote
  obtain _ | ⟨d, t⟩ := t
  · cases hu
  by_cases hd : d = '#'
  · rw [hd, List.dropWhile_cons_of_pos (by simp)] at hu
    obtain _ | ⟨e, t⟩ := t
    · cases hu
    by_cases he : e = '#'
    · exact ⟨['#', '#'], by decide, t, by rw [hd, he]; rfl⟩
    · rw [List.dropWhile_cons_of_neg (by simp [he])] at hu
      exact ⟨['#', '"'], by decide, t, by rw [hd, (List.cons.inj hu).1]; rfl⟩
  · rw [List.dropWhile_cons_of_neg (by simp [hd])] at hu
    exact ⟨['"'], by decide, t, by rw [(List.cons.inj hu).1]; rfl⟩

theorem quoted_eq_none {c : Char} {s : List Char} (hc : isStart c = true)
    (h : ∀ q ∈ quoteStarts, ¬q <+: c :: s) : quoted (c :: s) = none := by
  have hraw : ∀ (front : List Char) (flavor : Flavor) (t : List Char), c :: s = front ++ t →
      (∀ q ∈ rawStarts, ∃ p ∈ quoteStarts, p <+: front ++ q) → raw flavor t = none := by
    intro front flavor t heq hknown
    by_contra hsome
    obtain ⟨q, hq, hprefix⟩ := rawStart_of_raw hsome
    obtain ⟨p, hp, hfront⟩ := hknown q hq
    refine h p hp (hfront.trans ?_)
    rw [heq]
    exact (List.prefix_append_right_inj front).2 hprefix
  unfold quoted
  split
  next r heq =>
    rw [(List.cons.inj heq).1] at hc
    exact absurd hc (by decide)
  next r heq => rw [hraw ['r'] .text r heq (by decide)]; rfl
  next r heq => exact absurd ⟨r, heq.symm⟩ (h ['b', '"'] (by decide))
  next r heq => rw [hraw ['b', 'r'] .bytes r heq (by decide)]; rfl
  next r heq => exact absurd ⟨r, heq.symm⟩ (h ['c', '"'] (by decide))
  next r heq => rw [hraw ['c', 'r'] .foreign r heq (by decide)]; rfl
  next r heq => exact absurd ⟨r, heq.symm⟩ (h ['b', '\''] (by decide))
  next r heq =>
    rw [(List.cons.inj heq).1] at hc
    exact absurd hc (by decide)
  · rfl

theorem not_isDigit_of_isStart {c : Char} (h : isStart c = true) : c.isDigit = false := by
  have hdigits : ∀ n < 10, isStart (Char.ofNat (n + 48)) = false := by decide +kernel
  rw [Bool.eq_false_iff]
  intro hc
  simp only [Char.isDigit, Bool.and_eq_true, decide_eq_true_eq, ge_iff_le,
    UInt32.le_iff_toNat_le] at hc
  have hbounds : ('0').val.toNat = 48 ∧ ('9').val.toNat = 57 := by decide
  have hcode : c.toNat - 48 + 48 = c.toNat := by
    have : c.toNat = c.val.toNat := rfl
    omega
  have hno := hdigits (c.toNat - 48) (by have : c.toNat = c.val.toNat := rfl; omega)
  rw [hcode, Char.ofNat_toNat, h] at hno
  cases hno

theorem number_eq_none {c : Char} (s : List Char) (hc : c.isDigit = false) :
    number (c :: s) = none := by
  have hfloat : floatDigits (c :: s) = none := by simp [floatDigits, hc]
  have hradix : radixDigits 10 true (c :: s) = none := by
    rw [radixDigits]
    split
    · rfl
    · split
      next v hv =>
        rw [if_neg fun hlt => ?_, if_pos (by simp)]
        rw [hexValue?_decimal hv hlt] at hc
        cases hc
      · rfl
  have hint : intDigits (c :: s) = none := by
    unfold intDigits
    split
    next r heq =>
      rw [(List.cons.inj heq).1] at hc
      cases hc
    next r heq =>
      rw [(List.cons.inj heq).1] at hc
      cases hc
    next r heq =>
      rw [(List.cons.inj heq).1] at hc
      cases hc
    · exact hradix
  simp [number, hfloat, hint, withSuffix, wordBreak]

theorem literal_of_plainWord {w r : List Char} (h : plainWord w = some (w, []))
    (hr : endsWord r = true) : literal (w ++ r) = none := by
  obtain ⟨c, l, rfl, hc⟩ := plainWord_starts _ _ _ h
  have hquoted : quoted (c :: l ++ r) = none := by
    refine quoted_eq_none hc fun q hq hprefix => ?_
    have hfront := quoteStart_append hq (List.cons_ne_nil c l) hr hprefix
    rw [plainWord, if_pos] at h
    · cases h
    · exact List.any_eq_true.2 ⟨q, hq, List.isPrefixOf_iff_prefix.2 hfront⟩
  rw [literal, hquoted]
  exact number_eq_none _ (not_isDigit_of_isStart hc)

end Lexeme

namespace Lexer

open Lexeme (plainWord endsWord isStart)

theorem not_mem_of_isStart {c : Char} (h : isStart c = true) : Delimiter.ofOpening? c = none ∧
    Delimiter.ofClosing? c = none ∧ markChars.contains c = false := by
  have hall : (markChars.all fun d => !isStart d) = true := by decide
  refine ⟨?_, ?_, ?_⟩
  · cases hopen : Delimiter.ofOpening? c with
    | none => rfl
    | some d =>
      rw [ofOpening?_eq hopen] at h
      cases d <;> exact absurd h (by decide)
  · cases hclose : Delimiter.ofClosing? c with
    | none => rfl
    | some d =>
      rw [ofClosing?_eq hclose] at h
      cases d <;> exact absurd h (by decide)
  · rw [Bool.eq_false_iff]
    intro hin
    have hno := List.all_eq_true.1 hall c (List.contains_iff_mem.1 hin)
    rw [h] at hno
    cases hno

theorem markChar?_of_isStart {c : Char} (h : isStart c = true) (r : List Char) :
    markChar? (c :: r) = none := by
  rw [markChar?]
  split
  · rfl
  · simp only [(not_mem_of_isStart h).2.2, Bool.false_eq_true, if_false]

theorem lead?_word {w r : List Char} (h : plainWord w = some (w, [])) (hr : endsWord r = true) :
    lead? (w ++ r) = some (.word w, r) := by
  have hliteral := Lexeme.literal_of_plainWord h hr
  have hword := Lexeme.plainWord_append_ends h hr
  obtain ⟨c, l, rfl, hc⟩ := Lexeme.plainWord_starts _ _ _ h
  obtain ⟨hopen, hclose, -⟩ := not_mem_of_isStart hc
  have hmark : mark? (c :: (l ++ r)) = none := by rw [mark?, markChar?_of_isStart hc]
  rw [List.cons_append] at hliteral hword ⊢
  simp only [lead?, hopen, hclose, hliteral, hmark, hword]

theorem lead?_markChar {c : Char} (r : List Char) (hc : markChars.contains c = true)
    (hslash : c ≠ '/') (hquote : c ≠ '\'') :
    lead? (c :: r) = some (.mark c (markChar? r).isSome, r) := by
  have hall : (markChars.all fun d => d == '\'' || ((Delimiter.ofOpening? d).isNone &&
      (Delimiter.ofClosing? d).isNone && !Lexeme.startsLiteral d)) = true := by decide
  have hplain := List.all_eq_true.1 hall c (List.contains_iff_mem.1 hc)
  simp only [beq_eq_false_iff_ne.2 hquote, Bool.false_or, Bool.and_eq_true,
    Option.isNone_iff_eq_none, Bool.not_eq_true'] at hplain
  obtain ⟨⟨hopen, hclose⟩, hliteral⟩ := hplain
  have hcomment : startsComment (c :: r) = false := by
    unfold startsComment
    split <;> simp_all
  have hmark : markChar? (c :: r) = some c := by
    simp only [markChar?, hcomment, Bool.false_eq_true, if_false, hc, if_true]
  have hjoint : mark? (c :: r) = some (c, (markChar? r).isSome) := by
    rw [mark?, hmark]
    split
    · contradiction
    · next h => exact absurd (Option.some.inj h) hquote
    · next d _ h => rw [← Option.some.inj h]; rfl
  simp only [lead?, hopen, hclose, Lexeme.literal_eq_none hliteral, hjoint, Flat.ofMark, hquote,
    if_false]

namespace ReadsPlain

variable {r : List Char} {fs : List Flat}

theorem space {c : Char} (hc : isSpace c = true) (h : ReadsPlain r fs) :
    ReadsPlain (c :: r) fs := by
  have hdrop : (c :: r).dropWhile isSpace = r.dropWhile isSpace := List.dropWhile_cons_of_pos hc
  cases h with
  | done ended => exact .done (hdrop.trans ended)
  | lead front reads => exact .lead (hdrop ▸ front) reads

theorem spaces {s : List Char} (hs : ∀ c ∈ s, isSpace c = true) (h : ReadsPlain r fs) :
    ReadsPlain (s ++ r) fs := by
  induction s with
  | nil => exact h
  | cons c s ih =>
    obtain ⟨hc, hs⟩ := List.forall_mem_cons.1 hs
    exact space hc (ih hs)

theorem front {f : Flat} {s : List Char} (h : lead? s = some (f, r)) (hr : ReadsPlain r fs) :
    ReadsPlain s (f :: fs) := by
  refine .lead ?_ hr
  cases s with
  | nil => cases h
  | cons c s =>
    rw [List.dropWhile_cons_of_neg (by simp [isSpace_of_leads (leads_of_lead? h)])]
    exact h

theorem word {w : List Char} (hw : plainWord w = some (w, [])) (hr : endsWord r = true)
    (h : ReadsPlain r fs) : ReadsPlain (w ++ r) (.word w :: fs) := front (lead?_word hw hr) h

theorem mark {c : Char} (joint : Bool) (hc : (markChars.contains c && c != '/' && c != '\'') = true)
    (hjoint : (markChar? r).isSome = joint) (h : ReadsPlain r fs) :
    ReadsPlain (c :: r) (.mark c joint :: fs) := by
  simp only [Bool.and_eq_true, bne_iff_ne, ne_eq] at hc
  exact front (hjoint ▸ lead?_markChar r hc.1.1 hc.1.2 hc.2) h

theorem opens {c : Char} (d : Delimiter) (hc : c = d.opening) (h : ReadsPlain r fs) :
    ReadsPlain (c :: r) (.opens d :: fs) := by
  subst hc
  exact front (by simp [lead?, Delimiter.ofOpening?_opening]) h

theorem closes {c : Char} (d : Delimiter) (hc : c = d.closing) (h : ReadsPlain r fs) :
    ReadsPlain (c :: r) (.closes d :: fs) := by
  subst hc
  refine front ?_ h
  cases d <;> rfl

end ReadsPlain

theorem skipSpace_lineComment {line : List Char} (hline : '\n' ∉ line) (n : Nat) (r : List Char) :
    skipSpace (n + 1) ('/' :: '/' :: ' ' :: line ++ '\n' :: r) = skipSpace n ('\n' :: r) := by
  have hall : ∀ c ∈ '/' :: ' ' :: line, decide (c ≠ '\n') = true := by
    intro c hc
    refine decide_eq_true fun e => ?_
    simp only [e, List.mem_cons, hline, or_false] at hc
    exact absurd hc (by decide)
  have hkind : commentKind? ('/' :: ('/' :: ' ' :: line ++ '\n' :: r)) = some .plainLine := rfl
  have hdrop : ('/' :: ' ' :: line ++ '\n' :: r).dropWhile (· ≠ '\n') = '\n' :: r := by
    rw [List.dropWhile_append_of_pos hall]
    exact List.dropWhile_cons_of_neg (by simp)
  rw [List.cons_append, skipSpace, hkind]
  exact congrArg (skipSpace n) hdrop

theorem reads_behind_comment {line r : List Char} {fs : List Flat} (hline : '\n' ∉ line)
    (h : ReadsPlain r fs) : Reads ('/' :: '/' :: ' ' :: line ++ '\n' :: r) fs := by
  have hstart : skipSpace ('/' :: '/' :: ' ' :: line ++ '\n' :: r).length
      ('/' :: '/' :: ' ' :: line ++ '\n' :: r) =
        skipSpace ('/' :: ' ' :: line ++ '\n' :: r).length ('\n' :: r) :=
    skipSpace_lineComment hline _ r
  have hfuel : ('\n' :: r).length ≤ ('/' :: ' ' :: line ++ '\n' :: r).length := by
    simp only [List.length_append, List.length_cons]
    omega
  cases h.space (c := '\n') (by decide) with
  | done ended =>
    refine .done ?_
    rw [hstart, skipSpace_of_no_comment hfuel (by rw [ended]; rfl), ended]
  | lead front reads =>
    have hnone := commentKind?_of_lead? front
    have hsame := skipSpace_of_no_comment hfuel hnone
    refine .lead ?_ ?_ reads.reads
    · rw [hstart, hsame]
      exact docComment?_of_no_comment hnone
    · rwa [hstart, hsame]

end Lexer

end AccessorGen.Source
