import AccessorGen.Config.File

/-! The words of a command line. Words are taken one by one; the first that cannot stand where it
stands, or that asks for help or the version, ends the reading. -/

namespace AccessorGen

inductive Shell
  | bash | elvish | fish | powershell | zsh
  deriving DecidableEq, Repr

namespace Shell

def name : Shell → String
  | .bash => "bash"
  | .elvish => "elvish"
  | .fish => "fish"
  | .powershell => "powershell"
  | .zsh => "zsh"

def all : List Shell := [.bash, .elvish, .fish, .powershell, .zsh]

def ofName? (s : String) : Option Shell := all.find? (·.name == s)

end Shell

inductive Flag
  | config | source | output | dryRun | json | verbose | help | version
  deriving DecidableEq, Repr

namespace Flag

def long : Flag → String
  | .config => "config"
  | .source => "source"
  | .output => "output"
  | .dryRun => "dry-run"
  | .json => "json"
  | .verbose => "verbose"
  | .help => "help"
  | .version => "version"

def letter : Flag → Option Char
  | .config => some 'c'
  | .source => some 's'
  | .output => some 'o'
  | .verbose => some 'v'
  | .help => some 'h'
  | .version => some 'V'
  | .dryRun => none
  | .json => none

def takesValue : Flag → Bool
  | .config => true
  | .source => true
  | .output => true
  | _ => false

def display (f : Flag) : String := "--" ++ f.long

end Flag

inductive Command
  | generate | check | completions
  deriving DecidableEq, Repr

namespace Command

def name : Command → String
  | .generate => "generate"
  | .check => "check"
  | .completions => "completions"

def all : List Command := [.generate, .check, .completions]

def ofName? (s : String) : Option Command := all.find? (·.name == s)

def flags : Command → List Flag
  | .generate => [.config, .source, .output, .dryRun, .verbose, .help]
  | .check => [.config, .source, .json, .verbose, .help]
  | .completions => [.verbose, .help]

end Command

def leadingFlags : List Flag := [.verbose, .help, .version]

inductive Misuse
  | missingCommand
  | unknownCommand (word : String)
  | unknownFlag (text : String)
  | unexpectedWord (word : String)
  | missingValue (flag : Flag)
  | emptyValue (flag : Flag)
  | unexpectedValue (flag : Flag)
  | repeated (flag : Flag)
  | missingShell
  | unknownShell (word : String)
  deriving DecidableEq, Repr

namespace Misuse

def message : Misuse → String
  | .missingCommand => "a command is required"
  | .unknownCommand word => "unknown command '" ++ word ++ "'"
  | .unknownFlag text => "unknown option '" ++ text ++ "'"
  | .unexpectedWord word => "unexpected argument '" ++ word ++ "'"
  | .missingValue flag => "option '" ++ flag.display ++ "' needs a value"
  | .emptyValue flag => "the value of option '" ++ flag.display ++ "' is empty"
  | .unexpectedValue flag => "option '" ++ flag.display ++ "' takes no value"
  | .repeated flag => "option '" ++ flag.display ++ "' is given twice"
  | .missingShell => "a shell is required"
  | .unknownShell word =>
    "unknown shell '" ++ word ++ "', known are " ++ ", ".intercalate (Shell.all.map Shell.name)

end Misuse

/-- What ends the reading before the last word. -/
inductive Stop
  | misuse (m : Misuse)
  | help
  | version
  deriving DecidableEq, Repr

/-- What the words have given so far: the flags with their values, and the shell. -/
structure Given where
  flags : List (Flag × String) := []
  shell : Option Shell := none
  deriving DecidableEq, Repr

namespace Given

def has (g : Given) (f : Flag) : Bool := (g.flags.lookup f).isSome

def path (g : Given) (f : Flag) : Option Path := (g.flags.lookup f).map Path.mk

/-- Takes a flag, with an empty value where it takes none. Only `verbose` may stand twice. -/
def take (g : Given) (f : Flag) (value : String) : Except Stop Given :=
  match f with
  | .help => .error .help
  | .version => .error .version
  | .verbose => .ok g
  | f =>
    if g.has f then .error (.misuse (.repeated f))
    else if f.takesValue && value.isEmpty then .error (.misuse (.emptyValue f))
    else .ok { g with flags := g.flags ++ [(f, value)] }

/-- Takes a word that is no flag. Only `completions` has a place for one. -/
def takeWord (command : Command) (g : Given) (word : String) : Except Stop Given :=
  match command, g.shell with
  | .completions, none =>
    match Shell.ofName? word with
    | some shell => .ok { g with shell := some shell }
    | none => .error (.misuse (.unknownShell word))
  | _, _ => .error (.misuse (.unexpectedWord word))

/-- Letters behind one dash. The first that takes a value has the rest for it, without an equals
sign in front; a flag whose value is still to come is given back. -/
def takeLetters (known : List Flag) (g : Given) : List Char → Except Stop (Given × Option Flag)
  | [] => .ok (g, none)
  | c :: cs =>
    match known.find? (·.letter == some c) with
    | none => .error (.misuse (.unknownFlag (.ofList ['-', c])))
    | some f =>
      if f.takesValue then
        match cs with
        | [] => .ok (g, some f)
        | '=' :: value => return (← g.take f (.ofList value), none)
        | value => return (← g.take f (.ofList value), none)
      else do (← g.take f "").takeLetters known cs

def takeLong (known : List Flag) (g : Given) (body : List Char) :
    Except Stop (Given × Option Flag) :=
  let name := String.ofList (body.takeWhile (· ≠ '='))
  match known.find? (·.long == name), body.dropWhile (· ≠ '=') with
  | none, _ => .error (.misuse (.unknownFlag ("--" ++ name)))
  | some f, [] =>
    if f.takesValue then .ok (g, some f) else do return (← g.take f "", none)
  | some f, _ :: value =>
    if f.takesValue then do return (← g.take f (.ofList value), none)
    else .error (.misuse (.unexpectedValue f))

end Given

/-- Words by their dashes. A dash alone is a plain word. -/
inductive WordForm
  | dashes
  | long (body : List Char)
  | letters (body : List Char)
  | plain
  deriving DecidableEq, Repr

def WordForm.ofChars : List Char → WordForm
  | ['-', '-'] => .dashes
  | '-' :: '-' :: body => .long body
  | '-' :: c :: body => .letters (c :: body)
  | _ => .plain

/-- The words behind a command. `pending` is a flag whose value is the next word; behind two dashes
every word is plain. -/
def Given.scan (command : Command) (pending : Option Flag) (plain : Bool) (g : Given) :
    List String → Except Stop Given
  | [] =>
    match pending with
    | some f => .error (.misuse (.missingValue f))
    | none => .ok g
  | word :: rest =>
    match pending with
    | some f =>
      match WordForm.ofChars word.toList with
      | .plain => do (← g.take f word).scan command none plain rest
      | _ => .error (.misuse (.missingValue f))
    | none =>
      match if plain then .plain else WordForm.ofChars word.toList with
      | .dashes => g.scan command none true rest
      | .long body => do
        let (g', next) ← g.takeLong command.flags body
        g'.scan command next plain rest
      | .letters body => do
        let (g', next) ← g.takeLetters command.flags body
        g'.scan command next plain rest
      | .plain => do (← g.takeWord command word).scan command none plain rest

def scanCommand : List String → Except Stop (Command × List String)
  | [] => .error (.misuse .missingCommand)
  | word :: rest =>
    match WordForm.ofChars word.toList with
    | .dashes =>
      match rest with
      | [] => .error (.misuse .missingCommand)
      | next :: _ => .error (.misuse (.unexpectedWord next))
    | .long body => do
      let _ ← Given.takeLong leadingFlags {} body
      scanCommand rest
    | .letters body => do
      let _ ← Given.takeLetters leadingFlags {} body
      scanCommand rest
    | .plain =>
      match Command.ofName? word with
      | some command => .ok (command, rest)
      | none =>
        if word = "help" then
          match rest with
          | [] => .error .help
          | [topic] =>
            if topic = "help" ∨ (Command.ofName? topic).isSome then .error .help
            else .error (.misuse (.unknownCommand topic))
          | topic :: next :: _ =>
            .error (.misuse (.unknownCommand
              (if topic = "help" ∨ (Command.ofName? topic).isSome then next else topic)))
        else .error (.misuse (.unknownCommand word))

structure SourceChoice where
  config : Path := ⟨Config.fileName⟩
  source : Option Path := none
  deriving DecidableEq, Repr

inductive Invocation
  | generate (input : SourceChoice) (output : Option Path) (dryRun : Bool)
  | check (input : SourceChoice) (json : Bool)
  | completions (shell : Shell)
  deriving DecidableEq, Repr

namespace Invocation

def choice (g : Given) : SourceChoice :=
  ⟨(g.path .config).getD ⟨Config.fileName⟩, g.path .source⟩

def ofGiven (command : Command) (g : Given) : Except Stop Invocation :=
  match command with
  | .generate => .ok (.generate (choice g) (g.path .output) (g.has .dryRun))
  | .check => .ok (.check (choice g) (g.has .json))
  | .completions =>
    match g.shell with
    | some shell => .ok (.completions shell)
    | none => .error (.misuse .missingShell)

def parse (words : List String) : Except Stop Invocation := do
  let (command, rest) ← scanCommand words
  ofGiven command (← Given.scan command none false {} rest)

end Invocation

end AccessorGen
