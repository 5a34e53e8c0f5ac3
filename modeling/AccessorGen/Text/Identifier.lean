import AccessorGen.Text.Pieces

/-! Identifiers: which words are identifiers, how a word is capitalised or put into snake case,
and the mark of a raw identifier. -/

namespace AccessorGen.Text

def isIdentifierChars : List Char → Bool
  | [] => false
  | c :: r =>
    (isLetter c || c == '_') && (c :: r) != ['_'] && r.all fun d => isLetterOrNumber d || d == '_'

/-- A letter or underscore, then letters, digits and underscores, and more than one underscore.
Keywords count as identifiers. -/
def isIdentifier (s : String) : Bool := isIdentifierChars s.toList

def capitalizeChars : List Char → List Char
  | [] => []
  | c :: r => upper c ++ r

def capitalize (s : String) : String := .ofList (capitalizeChars s.toList)

def snakeStep (c : Char) : List Char :=
  if isCapital c then '_' :: lower c else lower c

def dashToUnderscore (c : Char) : Char := if c = '-' then '_' else c

def snakeCaseChars : List Char → List Char
  | [] => []
  | c :: r => (lower c ++ r.flatMap snakeStep).map dashToUnderscore

def snakeCase (s : String) : String := .ofList (snakeCaseChars s.toList)

/-- The word without one raw mark `r#`. -/
def plainWord (s : String) : String := .ofList (without ['r', '#'] s.toList)

@[simp] theorem toList_capitalize (s : String) :
    (capitalize s).toList = capitalizeChars s.toList := by simp [capitalize]

@[simp] theorem toList_snakeCase (s : String) :
    (snakeCase s).toList = snakeCaseChars s.toList := by simp [snakeCase]

@[simp] theorem toList_plainWord (s : String) :
    (plainWord s).toList = without ['r', '#'] s.toList := by simp [plainWord]

example : capitalize "age" = "Age" ∧ capitalize "_id" = "_id" ∧ capitalize "été" = "Été" := by
  decide

example : snakeCase "FooBar" = "foo_bar" ∧ snakeCase "hello-world" = "hello_world" := by decide

example : isIdentifier "_id" = true ∧ isIdentifier "_" = false ∧ isIdentifier "2a" = false := by
  decide

end AccessorGen.Text
