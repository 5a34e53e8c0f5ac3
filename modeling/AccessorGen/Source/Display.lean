import AccessorGen.Source.Token

/-! The text of tokens one by one: a space between any two, except behind a joint mark. Braces are
set off from what is in them. -/

namespace AccessorGen.Source.Display

def isJoint : Token → Bool
  | .mark _ joint _ => joint
  | _ => false

mutual

def token : Token → List Char
  | .word w _ => w.text.toList
  | .literal s _ => s.toList
  | .mark c _ _ => [c]
  | .group .brace content _ =>
    '\x7b' :: ' ' :: tokens content ++ (if content.isEmpty then [] else [' ']) ++ ['\x7d']
  | .group .paren content _ => '(' :: tokens content ++ [')']
  | .group .bracket content _ => '[' :: tokens content ++ [']']

def tokens : List Token → List Char
  | [] => []
  | [t] => token t
  | t :: ts => token t ++ (if isJoint t then [] else [' ']) ++ tokens ts

end

def text (ts : List Token) : String := .ofList (tokens ts)

end AccessorGen.Source.Display
