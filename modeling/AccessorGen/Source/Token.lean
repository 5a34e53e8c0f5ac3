import AccessorGen.Source.Lexeme

/-! Tokens of source text as trees: words, marks, literals, and groups between brackets. A mark is
joint when another mark follows it at once, so that the two may form one operator. -/

namespace AccessorGen.Source

/-- Characters from the beginning of the text that was read: the first, and the one after the
last. -/
structure Span where
  start : Nat
  stop : Nat
  deriving DecidableEq, Repr, Inhabited

namespace Span

def first (s : Span) : Span := ⟨s.start, min (s.start + 1) s.stop⟩

def last (s : Span) : Span := ⟨max s.start (s.stop - 1), s.stop⟩

def join (a b : Span) : Span := ⟨min a.start b.start, max a.stop b.stop⟩

end Span

inductive Delimiter
  | paren | bracket | brace
  deriving DecidableEq, Repr

namespace Delimiter

def opening : Delimiter → Char
  | .paren => '('
  | .bracket => '['
  | .brace => '\x7b'

def closing : Delimiter → Char
  | .paren => ')'
  | .bracket => ']'
  | .brace => '\x7d'

def ofOpening? : Char → Option Delimiter
  | '(' => some .paren
  | '[' => some .bracket
  | '\x7b' => some .brace
  | _ => none

def ofClosing? : Char → Option Delimiter
  | ')' => some .paren
  | ']' => some .bracket
  | '\x7d' => some .brace
  | _ => none

theorem ofOpening?_opening (d : Delimiter) : ofOpening? d.opening = some d := by cases d <;> rfl

end Delimiter

/-- A word of source text, a raw mark included. -/
structure Word where
  text : String
  isWord : Lexeme.plainWord text.toList = some (text.toList, [])
  deriving DecidableEq, Repr

instance : Coe Word String := ⟨Word.text⟩

inductive Token
  | word (text : Word) (span : Span)
  | mark (char : Char) (joint : Bool) (span : Span)
  | literal (text : String) (span : Span)
  | group (delimiter : Delimiter) (content : List Token) (span : Span)
  deriving Repr, Inhabited

namespace Token

def span : Token → Span
  | .word _ s => s
  | .mark _ _ s => s
  | .literal _ s => s
  | .group _ _ s => s

def place : Token → Span
  | .group _ _ s => s.first
  | t => t.span

mutual

def size : Token → Nat
  | .group _ content _ => sizeAll content + 1
  | _ => 1

def sizeAll : List Token → Nat
  | [] => 0
  | t :: ts => t.size + sizeAll ts

end

end Token

/-- A place where the source cannot be read on, and what was expected there. -/
structure SyntaxError where
  message : String
  span : Span
  deriving DecidableEq, Repr

end AccessorGen.Source
