import AccessorGen.Proofs.Grammar.Items
import AccessorGen.Proofs.Source.Leads

/-! How types that are paths are written, and that their text is read as their tokens. -/

namespace AccessorGen.Source

open Token (nowhere flatAll)
open Lexer (ReadsPlain markChar?)
open Lexeme (endsWord)

section Words

variable {r : List Char} {fs : List Flat}

@[simp] theorem Token.flat_ofWord (w : Word) : (Token.ofWord w).flat = [.word w.text.toList] := by
  rw [ofWord, flat]

theorem Token.flat_mark {c : Char} (hc : c ≠ '\'') (joint : Bool) (s : Span) :
    (Token.mark c joint s).flat = [.mark c joint] := by
  rw [flat, Flat.ofMark, if_neg hc]

theorem Token.flat_group (d : Delimiter) (content : List Token) (s : Span) :
    (Token.group d content s).flat = .opens d :: flatAll content ++ [.closes d] := by rw [flat]

theorem Word.reads (w : Word) (hr : endsWord r = true) (h : ReadsPlain r fs) :
    ReadsPlain (w.text.toList ++ r) (.word w.text.toList :: fs) := .word w.isWord hr h

theorem Word.markChar?_append (w : Word) (r : List Char) :
    markChar? (w.text.toList ++ r) = none := by
  obtain ⟨c, l, hw, hc⟩ := Lexeme.plainWord_starts _ _ _ w.isWord
  rw [hw, List.cons_append, Lexer.markChar?_of_isStart hc]

def colonsText : List Char := [':', ':']

theorem reads_colons (w : Word) (h : ReadsPlain (w.text.toList ++ r) fs) :
    ReadsPlain (colonsText ++ (w.text.toList ++ r)) (flatAll colons ++ fs) := by
  have hjoint : (markChar? (w.text.toList ++ r)).isSome = false := by
    rw [w.markChar?_append]
    rfl
  exact .mark true rfl rfl (.mark false rfl hjoint h)

end Words

def pathText (rooted : Bool) (front : List PathName) (last : Word) : List Char :=
  (if rooted then colonsText else []) ++
    ((front.flatMap fun n => n.word.text.toList ++ colonsText) ++ last.text.toList)

def PlainPath.text (p : PlainPath) : List Char := pathText p.rooted p.front p.last.word

section Paths

variable {r : List Char} {fs : List Flat}

theorem pathText_starts (front : List PathName) (last : Word) (r : List Char) :
    ∃ (w : Word) (r' : List Char), (front.flatMap fun n => n.word.text.toList ++ colonsText) ++
      last.text.toList ++ r = w.text.toList ++ r' := by
  cases front with
  | nil => exact ⟨last, r, rfl⟩
  | cons n front => exact ⟨n.word, _, by simp only [List.flatMap_cons, List.append_assoc]; rfl⟩

theorem markChar?_pathText (rooted : Bool) (front : List PathName) (last : Word) (r : List Char) :
    (markChar? (pathText rooted front last ++ r)).isSome = rooted := by
  cases rooted with
  | true => rfl
  | false =>
    obtain ⟨w, r', hw⟩ := pathText_starts front last r
    simp only [pathText, Bool.false_eq_true, if_false, List.nil_append]
    rw [hw, w.markChar?_append]
    rfl

theorem reads_pathText (rooted : Bool) (front : List PathName) (last : Word)
    (hr : endsWord r = true) (h : ReadsPlain r fs) :
    ReadsPlain (pathText rooted front last ++ r)
      (flatAll (pathFront rooted front ++ [.ofWord last]) ++ fs) := by
  have hnames : ReadsPlain
      ((front.flatMap fun n => n.word.text.toList ++ colonsText) ++ last.text.toList ++ r)
      (flatAll ((front.flatMap fun n => .ofWord n.word :: colons) ++ [.ofWord last]) ++ fs) := by
    induction front with
    | nil => simpa using last.reads hr h
    | cons n front ih =>
      obtain ⟨w, r', hw⟩ := pathText_starts front last r
      have hcolons := n.word.reads (r := colonsText ++ (w.text.toList ++ r')) rfl
        (reads_colons w (hw ▸ ih))
      rw [← hw] at hcolons
      simpa using hcolons
  cases rooted with
  | false => simpa [pathText, pathFront] using hnames
  | true =>
    obtain ⟨w, r', hw⟩ := pathText_starts front last r
    have hcolons := reads_colons w (hw ▸ hnames)
    rw [← hw] at hcolons
    simpa [pathText, pathFront] using hcolons

end Paths

namespace PathType

mutual

def text : PathType → List Char
  | plain r front last => pathText r front last.word
  | applied r front last arg args =>
    pathText r front last.word ++ '<' :: (arg.text ++ (textBehind args ++ ['>']))
  | paren t => '(' :: (t.text ++ [')'])

def textBehind : List PathType → List Char
  | [] => []
  | a :: as => ',' :: ' ' :: (a.text ++ textBehind as)

end

theorem textBehind_eq (ts : List PathType) :
    textBehind ts = ts.flatMap fun t => ',' :: ' ' :: t.text := by
  induction ts with
  | nil => rfl
  | cons t ts ih => rw [textBehind, ih]; rfl

theorem markChar?_text (t : PathType) (r : List Char) :
    (markChar? (t.text ++ r)).isSome = t.rooted := by
  cases t with
  | plain rooted front last => exact markChar?_pathText rooted front last.word r
  | applied rooted front last arg args =>
    rw [text, List.append_assoc]
    exact markChar?_pathText rooted front last.word _
  | paren t => rw [text]; rfl

theorem textBehind_starts (ts : List PathType) (r : List Char) :
    endsWord (textBehind ts ++ '>' :: r) = true ∧
      (markChar? (textBehind ts ++ '>' :: r)).isSome = true := by
  cases ts <;> exact ⟨rfl, rfl⟩

mutual

theorem reads_text (t : PathType) {joint : Bool} {r : List Char} {fs : List Flat}
    (hr : endsWord r = true) (hjoint : (markChar? r).isSome = joint) (h : ReadsPlain r fs) :
    ReadsPlain (t.text ++ r) (flatAll (t.tokens joint) ++ fs) := by
  cases t with
  | plain rooted front last => exact reads_pathText rooted front last.word hr h
  | applied rooted front last arg args =>
    obtain ⟨hends, hmark⟩ := textBehind_starts args r
    have hargs := arg.reads_text hends hmark
      (reads_textBehind args (h.mark (c := '>') joint rfl hjoint))
    have hopen := hargs.mark (c := '<') arg.rooted rfl (arg.markChar?_text _)
    have hall := reads_pathText rooted front last.word rfl hopen
    simpa [text, tokens, Token.flat, Flat.ofMark] using hall
  | paren t =>
    have hinner : ReadsPlain (t.text ++ ')' :: r) (flatAll (t.tokens false) ++ _) :=
      t.reads_text rfl rfl (h.closes .paren rfl)
    have hall := hinner.opens (c := '(') .paren rfl
    simpa [text, tokens, Token.flat_group] using hall

theorem reads_textBehind (ts : List PathType) {r : List Char} {fs : List Flat}
    (h : ReadsPlain ('>' :: r) fs) :
    ReadsPlain (textBehind ts ++ '>' :: r) (flatAll (tokensBehind ts) ++ fs) := by
  match ts with
  | [] => simpa [textBehind, tokensBehind] using h
  | a :: as =>
    obtain ⟨hends, hmark⟩ := textBehind_starts as r
    have harg := a.reads_text hends hmark (reads_textBehind as h)
    have hcomma := (harg.space (c := ' ') (by decide)).mark (c := ',') false rfl rfl
    simpa [textBehind, tokensBehind, Token.flat, Flat.ofMark] using hcomma

end

end PathType

end AccessorGen.Source
