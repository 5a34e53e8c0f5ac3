import AccessorGen.Namespace

/-! Names in the output: which words are reserved, when a word is escaped, and what modules,
files and directories are called. -/

namespace AccessorGen.Names

def reserved : List String :=
  ["as", "async", "await", "break", "const", "continue", "crate", "dyn", "else", "enum",
   "extern", "false", "fn", "for", "gen", "if", "impl", "in", "let", "loop", "match", "mod",
   "move", "mut", "pub", "ref", "return", "self", "Self", "static", "struct", "super", "trait",
   "true", "type", "unsafe", "use", "where", "while", "abstract", "become", "box", "do",
   "final", "macro", "override", "priv", "try", "typeof", "unsized", "virtual", "yield"]

def unescapable : List String := ["crate", "self", "Self", "super"]

def isReserved (word : String) : Bool := reserved.contains word

/-- Escapes a reserved word with `r#` where that helps. -/
def safe (word : String) : String :=
  if isReserved word && !unescapable.contains word then "r#" ++ word else word

def moduleOf (companion : String) : String := Text.snakeCase companion

def fileOf (companion : String) : String := moduleOf companion ++ ".rs"

def cratePath (ns : Namespace) : String := "::".intercalate ("crate" :: ns.segments.map safe)

def directories (ns : Namespace) : List String := ns.segments.map Text.plainWord

example : safe "type" = "r#type" ∧ safe "self" = "self" ∧ fileOf "UserData" = "user_data.rs" := by
  decide

end AccessorGen.Names
