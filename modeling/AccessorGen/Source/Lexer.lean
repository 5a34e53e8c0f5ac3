import AccessorGen.Source.Lexeme
import AccessorGen.Source.Token
import AccessorGen.Text.Pieces
import AccessorGen.Text.Quoted

/-! From text to token trees. Space and comments separate tokens and are dropped; documentation
comments become the attributes they stand for. Brackets have to match. -/

namespace AccessorGen.Source.Lexer

def markChars : List Char :=
  ['~', '!', '@', '#', '$', '%', '^', '&', '*', '-', '=', '+', '|', ';', ':', ',', '<', '.', '>',
   '/', '?', '\'']

def startsComment : List Char → Bool
  | '/' :: '/' :: _ => true
  | '/' :: '*' :: _ => true
  | _ => false

def markChar? (s : List Char) : Option Char :=
  if startsComment s then none else
  match s with
  | c :: _ => if markChars.contains c then some c else none
  | [] => none

def startsLifetime (s : List Char) : Bool :=
  match Lexeme.word s with
  | none => false
  | some (w, rest) =>
    match rest with
    | '\'' :: _ => false
    | '#' :: _ => ['r', '#'].isPrefixOf w
    | _ => true

def mark? (s : List Char) : Option (Char × Bool) :=
  match markChar? s with
  | none => none
  | some '\'' => if startsLifetime (s.drop 1) then some ('\'', true) else none
  | some c => some (c, (markChar? (s.drop 1)).isSome)

/-- A comment between slash and star; such comments nest. -/
def blockComment (depth : Nat) : List Char → Lexeme.Cut
  | '/' :: '*' :: r => Lexeme.prepend ['/', '*'] (blockComment (depth + 1) r)
  | '*' :: '/' :: r =>
    if depth ≤ 1 then some (['*', '/'], r)
    else Lexeme.prepend ['*', '/'] (blockComment (depth - 1) r)
  | c :: r => Lexeme.prepend [c] (blockComment depth r)
  | [] => none

def lineRest : List Char → List Char × List Char
  | [] => ([], [])
  | '\n' :: r => ([], '\n' :: r)
  | '\r' :: '\n' :: r => ([], '\n' :: r)
  | c :: r =>
    let (text, rest) := lineRest r
    (c :: text, rest)

inductive CommentKind
  | plainLine | plainBlock | docLine (inner : Bool) | docBlock (inner : Bool)
  deriving DecidableEq, Repr

/-- Three slashes are documentation and four are not; likewise with stars, where two stars closed
at once are not documentation either. -/
def commentKind? : List Char → Option CommentKind
  | '/' :: '/' :: '/' :: '/' :: _ => some .plainLine
  | '/' :: '/' :: '/' :: _ => some (.docLine false)
  | '/' :: '/' :: '!' :: _ => some (.docLine true)
  | '/' :: '/' :: _ => some .plainLine
  | '/' :: '*' :: '*' :: '/' :: _ => some .plainBlock
  | '/' :: '*' :: '*' :: '*' :: _ => some .plainBlock
  | '/' :: '*' :: '*' :: _ => some (.docBlock false)
  | '/' :: '*' :: '!' :: _ => some (.docBlock true)
  | '/' :: '*' :: _ => some .plainBlock
  | _ => none

/-- Space between tokens; the two direction marks count as space. -/
def isSpace (c : Char) : Bool := Text.isBlank c || c == '\u200e' || c == '\u200f'

/-- Drops space and plain comments. A comment that is not closed stays. -/
def skipSpace : Nat → List Char → List Char
  | 0, s => s
  | _ + 1, [] => []
  | n + 1, c :: r =>
    match commentKind? (c :: r) with
    | some .plainLine => skipSpace n (r.dropWhile (· ≠ '\n'))
    | some .plainBlock =>
      match blockComment 0 (c :: r) with
      | some (_, rest) => skipSpace n rest
      | none => c :: r
    | some _ => c :: r
    | none => if isSpace c then skipSpace n r else c :: r

def hasBareReturn : List Char → Bool
  | [] => false
  | '\r' :: '\n' :: r => hasBareReturn r
  | '\r' :: _ => true
  | _ :: r => hasBareReturn r

def docComment? (s : List Char) : Option (List Char × Bool × List Char) :=
  let found :=
    match commentKind? s with
    | some (.docLine inner) =>
      let (text, rest) := lineRest (s.drop 3)
      some (text, inner, rest)
    | some (.docBlock inner) =>
      match blockComment 0 s with
      | some (comment, rest) => some ((comment.drop 3).take (comment.length - 5), inner, rest)
      | none => none
    | _ => none
  match found with
  | some (text, inner, rest) => if hasBareReturn text then none else some (text, inner, rest)
  | none => none

def textLiteral (s : List Char) : String := .ofList (Text.quotedWith true s)

/-- The attribute a documentation comment stands for; every token has the span of the comment. -/
def docTokens (text : List Char) (inner : Bool) (span : Span) : List Token :=
  [.mark '#' false span] ++ (if inner then [.mark '!' false span] else []) ++
    [.group .bracket
      [.word ⟨"doc", by decide⟩ span, .mark '=' false span, .literal (textLiteral text) span] span]

def word? (s : List Char) : Option (Word × List Char) :=
  match h : Lexeme.plainWord s with
  | some (lexeme, rest) =>
    some (⟨.ofList lexeme, by simpa using Lexeme.plainWord_self h⟩, rest)
  | none => none

def leaf? (s : List Char) (span : Nat → Span) : Option (Token × List Char) :=
  match Lexeme.literal s with
  | some (lexeme, rest) => some (.literal (.ofList lexeme) (span lexeme.length), rest)
  | none =>
    match mark? s with
    | some (c, joint) => some (.mark c joint (span 1), s.drop 1)
    | none =>
      match word? s with
      | some (w, rest) => some (.word w (span w.text.length), rest)
      | none => none

/-- A group whose closing bracket is still to come, with the tokens before it, last first. -/
structure Frame where
  delimiter : Delimiter
  start : Nat
  before : List Token

def unreadable (span : Span) : SyntaxError := ⟨"cannot parse string into token stream", span⟩

/-- Reads on at a position with the open groups and the tokens of the innermost, last first. Every
turn but the last uses up a character. -/
def readFrom : Nat → Nat → List Char → List Frame → List Token → Except SyntaxError (List Token)
  | 0, at_, _, _, _ => .error (unreadable ⟨at_, at_⟩)
  | n + 1, at_, s, frames, tokens =>
    let t := skipSpace s.length s
    let lo := at_ + (s.length - t.length)
    match docComment? t with
    | some (text, inner, rest) =>
      let hi := lo + (t.length - rest.length)
      readFrom n hi rest frames ((docTokens text inner ⟨lo, hi⟩).reverse ++ tokens)
    | none =>
      match t with
      | [] =>
        match frames with
        | [] => .ok tokens.reverse
        | f :: _ => .error (unreadable ⟨f.start, f.start⟩)
      | c :: r =>
        match Delimiter.ofOpening? c with
        | some d => readFrom n (lo + 1) r (⟨d, lo, tokens⟩ :: frames) []
        | none =>
          match Delimiter.ofClosing? c with
          | some d =>
            match frames with
            | f :: outer =>
              if f.delimiter = d then
                readFrom n (lo + 1) r outer
                  (.group d tokens.reverse ⟨f.start, lo + 1⟩ :: f.before)
              else .error (unreadable ⟨lo, lo⟩)
            | [] => .error (unreadable ⟨lo, lo⟩)
          | none =>
            match leaf? t fun length => ⟨lo, lo + length⟩ with
            | some (token, rest) =>
              readFrom n (lo + (t.length - rest.length)) rest frames (token :: tokens)
            | none => .error (unreadable ⟨lo, lo⟩)

def byteOrderMark : Char := '\ufeff'

/-- The tokens of a text. A byte order mark in front is passed over but counted as a character. -/
def tokens : List Char → Except SyntaxError (List Token)
  | [] => .ok []
  | c :: r =>
    if c = byteOrderMark then readFrom (r.length + 1) 1 r [] []
    else readFrom (r.length + 2) 0 (c :: r) [] []

end AccessorGen.Source.Lexer
