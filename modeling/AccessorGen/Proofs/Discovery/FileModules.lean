import AccessorGen.Discovery.ModulePath
import AccessorGen.Proofs.File.Relative

/-! The namespaces of source files. A file that is reached from a root by names has its directories
as namespace, and its stem behind them unless it stands for its directory, however the root is
spelled. So files that share a namespace differ at most in whether they stand for a directory and in
the name by which they do. -/

namespace AccessorGen

/-- The names on the way from a root to a source file: directories, and the file by what stands in
front of its ending. -/
structure SourceNames where
  dirs : List String
  stem : String
  isEntry : ∀ s ∈ dirs, isEntryName s = true
  isFile : isEntryName (stem ++ ".rs") = true
  hasStem : stem ≠ ""

namespace SourceNames

def fileName (f : SourceNames) : String := f.stem ++ ".rs"

def names (f : SourceNames) : List String := f.dirs ++ [f.fileName]

/-- The path of the file below a root. -/
def below (root : Path) (f : SourceNames) : Path := f.names.foldl Path.push root

/-- The names without a last one that stands for its directory, and else without the ending. -/
def shortened (f : SourceNames) : List String :=
  if f.fileName ∈ ["lib.rs", "main.rs", "mod.rs"] then f.dirs else f.dirs ++ [f.stem]

variable (f g : SourceNames)

theorem isEntryName_names : ∀ s ∈ f.names, isEntryName s = true := by
  intro s hs
  rcases List.mem_append.1 hs with hs | hs
  · exact f.isEntry s hs
  · rw [List.mem_singleton.1 hs]
    exact f.isFile

theorem components_below (root : Path) : (f.below root).components =
    root.components ++ (f.dirs.map fun s => .name s.toList) ++ [.name f.fileName.toList] := by
  rw [below, Path.components_pushAll f.isEntryName_names, names, List.map_append,
    ← List.append_assoc]
  rfl

theorem exists_relativeTo (root : Path) : ∃ below, (f.below root).relativeTo root = some below ∧
    below.components = (f.dirs.map fun s => .name s.toList) ++ [.name f.fileName.toList] := by
  have hcomponents := f.components_below root
  have hprefix : root.components.isPrefixOf (f.below root).components = true := by
    rw [hcomponents, List.append_assoc]
    exact List.isPrefixOf_iff_prefix.2 (List.prefix_append _ _)
  obtain ⟨below, hbelow⟩ : ∃ below, (f.below root).relativeTo root = some below := by
    unfold Path.relativeTo
    dsimp only
    rw [if_pos hprefix]
    exact ⟨_, rfl⟩
  refine ⟨below, hbelow, ?_⟩
  have hsplit := Path.components_relativeTo hbelow
  rw [hcomponents, List.append_assoc] at hsplit
  exact (List.append_cancel_left hsplit).symm

theorem mem_directoryStems_iff :
    f.stem.toList ∈ directoryStems ↔ f.stem ∈ ["lib", "main", "mod"] := by
  have hstems : directoryStems = ["lib", "main", "mod"].map String.toList := rfl
  have hinj : Function.Injective String.toList := fun _ _ => String.toList_injective
  rw [hstems, List.mem_map_of_injective hinj]

theorem fileName_mem_iff :
    f.fileName ∈ ["lib.rs", "main.rs", "mod.rs"] ↔ f.stem ∈ ["lib", "main", "mod"] := by
  have hfiles : ["lib.rs", "main.rs", "mod.rs"] = ["lib", "main", "mod"].map (· ++ ".rs") := rfl
  have hinj : Function.Injective fun s : String => s ++ ".rs" := fun s t h => by
    apply String.toList_injective
    have hchars := congrArg String.toList h
    rw [String.toList_append, String.toList_append] at hchars
    exact List.append_cancel_right hchars
  rw [hfiles]
  exact List.mem_map_of_injective hinj

theorem stemSegments_eq {p : Path}
    (h : p.components.getLast? = some (.name f.fileName.toList)) :
    stemSegments p = if f.stem ∈ ["lib", "main", "mod"] then [] else [f.stem] := by
  have hne : f.stem.toList ≠ [] := fun hnil => f.hasStem (String.toList_eq_nil_iff.1 hnil)
  have hstem : p.stem = some f.stem.toList := by
    rw [Path.stem, Path.fileName, h, Option.map_some, fileName, String.toList_append]
    exact congrArg (some ·.1) (cutName_source hne)
  rw [stemSegments, hstem]
  simp only [List.contains_iff_mem, mem_directoryStems_iff, String.ofList_toList]

theorem segments_moduleNamespace (root : Path) :
    (moduleNamespace root (f.below root)).segments =
      if f.stem ∈ ["lib", "main", "mod"] then f.dirs else f.dirs ++ [f.stem] := by
  obtain ⟨below, hbelow, hcomponents⟩ := f.exists_relativeTo root
  have hlast : below.components.getLast? = some (.name f.fileName.toList) := by
    rw [hcomponents, List.getLast?_concat]
  obtain ⟨dir, hdir⟩ := Path.exists_parent hlast
  obtain ⟨c, hparent⟩ := Path.components_parent hdir
  have hdirs : dir.components = f.dirs.map fun s => .name s.toList :=
    (List.append_inj' (hparent.symm.trans hcomponents) rfl).1
  have htexts : (dir.components.map fun c => String.ofList c.text) = f.dirs := by
    rw [hdirs, List.map_map]
    exact List.map_id'' (fun s => String.ofList_toList) f.dirs
  rw [moduleNamespace, hbelow, Option.getD_some, hdir]
  dsimp only
  rw [f.stemSegments_eq hlast, htexts]
  split
  · exact List.append_nil f.dirs
  · rfl

theorem shortened_eq (root : Path) :
    f.shortened = (moduleNamespace root (f.below root)).segments := by
  rw [segments_moduleNamespace, shortened]
  simp only [fileName_mem_iff]

end SourceNames

/-- A file has its directories and its stem as namespace, or its directories alone; and two files
share a namespace exactly when their names agree but for the ways to stand for a directory. -/
theorem moduleNamespace_below (root : Path) (f g : SourceNames) :
    (moduleNamespace root (f.below root)).segments =
        (if f.stem ∈ ["lib", "main", "mod"] then f.dirs else f.dirs ++ [f.stem]) ∧
      (moduleNamespace root (f.below root) = moduleNamespace root (g.below root) ↔
        f.shortened = g.shortened) := by
  refine ⟨f.segments_moduleNamespace root, ?_⟩
  rw [f.shortened_eq root, g.shortened_eq root, Namespace.mk.injEq]

example : moduleNamespace ⟨"./src//"⟩ ⟨"./src//a/mod.rs"⟩ =
    moduleNamespace ⟨"./src//"⟩ ⟨"./src//a.rs"⟩ := by decide

end AccessorGen
