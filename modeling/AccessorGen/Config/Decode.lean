import AccessorGen.Config.Basic
import AccessorGen.Text.Quoted
import AccessorGen.Toml.Document

/-! From a TOML document to settings. Keys are taken in the order of their names; the first that is
unknown or has a value of the wrong type ends the reading. -/

namespace AccessorGen

open Toml

inductive DecodeFault
  | unknownField (name : String) (known : List String)
  | wrongType (found expected : String)
  | outOfRange (found expected : String)
  | tooLarge (kind : String)
  deriving DecidableEq, Repr

namespace DecodeFault

def backquoted (s : String) : String := "`" ++ s ++ "`"

/-- One name alone, two with `or`, more in a list. -/
def choice : List String → String
  | [] => "there are no fields"
  | [a] => "expected " ++ backquoted a
  | [a, b] => "expected " ++ backquoted a ++ " or " ++ backquoted b
  | names => "expected one of " ++ ", ".intercalate (names.map backquoted)

def message : DecodeFault → String
  | .unknownField name known => "unknown field " ++ backquoted name ++ ", " ++ choice known
  | .wrongType found expected => "invalid type: " ++ found ++ ", expected " ++ expected
  | .outOfRange found expected => "invalid value: " ++ found ++ ", expected " ++ expected
  | .tooLarge kind => kind ++ " number overflowed"

end DecodeFault

abbrev Decode := Except (DecodeFault × ByteSpan)

namespace Config

def fits (bits : Nat) (n : Int) : Bool :=
  -Int.ofNat (Nat.pow 2 (bits - 1)) ≤ n && n < Int.ofNat (Nat.pow 2 bits)

def describeInteger (n : Int) : String :=
  "integer " ++ DecodeFault.backquoted (toString n) ++
    if fits 64 n then ""
    else if n < Int.ofNat (Nat.pow 2 127) then " as i128"
    else " as u128"

def describe : Value → String
  | .text s => "string " ++ Text.quoted s
  | .integer n => describeInteger n
  | .float x => "floating point " ++ DecodeFault.backquoted x.display
  | .boolean b => "boolean " ++ DecodeFault.backquoted (if b then "true" else "false")
  | .moment => "map"
  | .array .. => "sequence"
  | .table .. => "map"

def excess? : Value → Option DecodeFault
  | .integer n => if fits 128 n then none else some (.tooLarge "integer")
  | .float (.finite _ digits exponent) =>
    if (Number.ofDecimal digits exponent).isNone then some (.tooLarge "floating-point") else none
  | _ => none

def mismatch {α : Type} (expected : String) (e : Element) : Decode α :=
  .error ((excess? e.2).getD (.wrongType (describe e.2) expected), e.1)

def text (e : Element) : Decode String :=
  match e.2 with
  | .text s => .ok s
  | _ => mismatch "a string" e

def flag (e : Element) : Decode Bool :=
  match e.2 with
  | .boolean b => .ok b
  | _ => mismatch "a boolean" e

def small (e : Element) : Decode Nat :=
  match e.2 with
  | .integer n =>
    if 0 ≤ n ∧ n < 256 then .ok n.toNat
    else if fits 64 n then .error (.outOfRange (describeInteger n) "u8", e.1)
    else mismatch "u8" e
  | _ => mismatch "u8" e

def texts (e : Element) : Decode (List String) :=
  match e.2 with
  | .array _ elements => elements.mapM text
  | _ => mismatch "a sequence" e

def setters : List (String × (Config → Element → Decode Config)) :=
  [("source", fun c e => do return { c with source := ← text e }),
   ("output", fun c e => do return { c with output := ← text e }),
   ("annotation", fun c e => do return { c with marker := ← text e }),
   ("derives", fun c e => do return { c with derives := ← texts e }),
   ("hard_tabs", fun c e => do return { c with hardTabs := ← flag e }),
   ("tab_spaces", fun c e => do return { c with tabSpaces := ← small e })]

def known : List String := setters.map Prod.fst

def setEntry (c : Config) (entry : Key × Element) : Decode Config :=
  match setters.lookup entry.1.name with
  | some set => set c entry.2
  | none => .error (.unknownField entry.1.name known, entry.1.span)

def setInOrder (c : Config) : List (String × (Config → Element → Decode Config)) → List Element →
    Decode Config
  | (_, set) :: setters, e :: rest => do setInOrder (← set c e) setters rest
  | _, _ => .ok c

def momentKey : String := "$__toml_private_datetime"

def ofSection (e : Element) : Decode Config :=
  match e.2 with
  | .table _ entries => (Entries.sorted entries).foldlM setEntry {}
  | .array _ elements => setInOrder {} setters elements
  | .moment => .error (.unknownField momentKey known, e.1)
  | _ => mismatch "struct GeneratorConfig" e

def ofEntries : Entries → Decode Config
  | [] => .ok {}
  | (k, e) :: rest =>
    if k.name = "generator" then do
      let c ← ofSection e
      match rest with
      | [] => .ok c
      | (other, _) :: _ => .error (.unknownField other.name ["generator"], other.span)
    else .error (.unknownField k.name ["generator"], k.span)

def parse (src : SourceText) : Except InputFault Config :=
  match Toml.parse src.text with
  | none => .error (.malformed src none "the text is not a TOML document")
  | some entries =>
    match ofEntries entries.sorted with
    | .error (fault, span) => .error (.malformed src (some span) fault.message)
    | .ok c => do
      c.check src
      return c

end Config

end AccessorGen
