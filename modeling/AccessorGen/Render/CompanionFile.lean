import AccessorGen.Companion.Build
import AccessorGen.File.Write
import AccessorGen.Render.Names
import AccessorGen.Render.SourceFile

/-! The module that holds one companion: its place below the output directory and its text. The
module imports everything from the source module, since field types stand as they were written. -/

namespace AccessorGen

structure RenderOptions where
  derives : List String := ["Debug", "Clone", "Default"]
  indent : Indent := .four
  deriving DecidableEq, Repr

namespace Render

def companionPath (ns : Namespace) (c : Companion) : Path :=
  (Path.ofSegments (Names.directories ns)).push (Names.fileOf c.name)

def companionHeader (c : Companion) : String :=
  generatedMark ++ " from `" ++ c.sourceName ++ "`. Do not edit by hand."

def sourceImport (ns : Namespace) : ImportItem :=
  { ImportItem.glob (Names.cratePath ns) with attributes := ["allow(unused_imports)"] }

def fieldItem (f : Field) : FieldItem :=
  { name := Names.safe f.name, type := f.type.source, visibility := f.visibility }

def companionStruct (c : Companion) (derives : List String) : StructItem :=
  { name := c.name, derives := derives, fields := c.fields.map fieldItem,
    visibility := c.visibility }

def accessorFunction (a : Accessor) : FunctionItem :=
  let blank : FunctionItem := { name := a.method, visibility := a.visibility }
  match a.body with
  | .returnField field =>
    { blank with
      receiver := some .shared
      returns := some a.field.type.source
      body := ["self." ++ Names.safe field ++ ".clone()"] }
  | .assignField field param =>
    { blank with
      receiver := some .exclusive
      params := [(Names.safe param, a.field.type.source)]
      body := ["self." ++ Names.safe field ++ " = " ++ Names.safe param ++ ";"] }

/-- Method names are not in snake case; without fields there is none to excuse. -/
def accessorImpl (c : Companion) : ImplItem :=
  { name := c.name
    attributes := if c.hasFields then ["allow(non_snake_case)"] else []
    methods := c.accessors.map accessorFunction }

def companionSource (ns : Namespace) (c : Companion) (derives : List String) : SourceFile :=
  ⟨[(sourceImport ns).fragments, (companionStruct c derives).fragments,
    (accessorImpl c).fragments]⟩

def companionText (ns : Namespace) (c : Companion) (options : RenderOptions) : String :=
  (companionSource ns c options.derives).renderUnder (companionHeader c) options.indent

def companionFile (ns : Namespace) (c : Companion) (options : RenderOptions) : OutputFile :=
  ⟨companionPath ns c, companionText ns c options⟩

end Render

end AccessorGen
