import AccessorGen.Proofs.Discovery.Names

/-! Whether a round writes outside its output directory. The directories of a namespace are walked
from the output directory; two dots among them go up, and where they go up further than the names
before them went down, the module file of that directory lies outside. -/

namespace AccessorGen

/-- Whether a walk goes up further than it has come down, from a given number of steps below. -/
def climbs : Nat → List String → Bool
  | _, [] => false
  | depth, s :: ss =>
    if s = "" ∨ s = "." then climbs depth ss
    else if s = ".." then
      match depth with
      | 0 => true
      | above + 1 => climbs above ss
    else climbs (depth + 1) ss

theorem along_idle_piece {s : String} (h : s = "" ∨ s = ".") (place : Place) :
    along place [s.toList] = place := by
  rcases h with rfl | rfl <;> rfl

theorem along_dots (place : Place) : along place ["..".toList] = place.dropLast := rfl

theorem along_other {s : String} (hidle : ¬(s = "" ∨ s = ".")) (hdots : s ≠ "..")
    (place : Place) : along place [s.toList] = place ++ [s] := by
  rw [not_or] at hidle
  have hname : IsName s.toList := by
    refine ⟨fun e => hidle.1 ?_, fun e => hidle.2 ?_, fun e => hdots ?_⟩ <;>
      exact String.toList_injective e
  rw [along_name hname, String.ofList_toList]

section Walks

variable {place below : Place} {ss : List String}

theorem along_stays (h : climbs below.length ss = false) :
    place <+: along (place ++ below) (ss.map String.toList) := by
  induction ss generalizing below with
  | nil => exact List.prefix_append place below
  | cons s ss ih =>
    rw [List.map_cons, along_cons]
    unfold climbs at h
    split at h
    next hidle =>
      rw [along_idle_piece hidle]
      exact ih h
    next hidle =>
      split at h
      next hdots =>
        subst hdots
        rw [along_dots]
        cases hbelow : below.reverse with
        | nil =>
          obtain rfl := List.reverse_eq_nil_iff.1 hbelow
          cases h
        | cons last r =>
          obtain rfl := List.reverse_eq_cons_iff.1 hbelow
          rw [← List.append_assoc, List.dropLast_concat]
          refine ih ?_
          simpa using h
      next hdots =>
        rw [along_other hidle hdots, List.append_assoc]
        refine ih ?_
        simpa using h

theorem along_leaves (h : climbs below.length ss = true) :
    ∃ p, p <+: ss ∧ along (place ++ below) (p.map String.toList) = place.dropLast := by
  induction ss generalizing below with
  | nil => cases h
  | cons s ss ih =>
    have step : ∀ next, along (place ++ below) [s.toList] = place ++ next →
        climbs next.length ss = true →
        ∃ p, p <+: s :: ss ∧ along (place ++ below) (p.map String.toList) = place.dropLast := by
      intro next hnext hclimbs
      obtain ⟨p, hp, hplace⟩ := ih hclimbs
      refine ⟨s :: p, List.cons_prefix_cons.2 ⟨rfl, hp⟩, ?_⟩
      rw [List.map_cons, along_cons, hnext, hplace]
    unfold climbs at h
    split at h
    next hidle => exact step below (along_idle_piece hidle _) h
    next hidle =>
      split at h
      next hdots =>
        subst hdots
        cases hbelow : below.reverse with
        | nil =>
          obtain rfl := List.reverse_eq_nil_iff.1 hbelow
          refine ⟨[".."], by simp, ?_⟩
          rw [List.append_nil]
          exact along_dots place
        | cons last r =>
          obtain rfl := List.reverse_eq_cons_iff.1 hbelow
          refine step r.reverse ?_ (by simpa using h)
          rw [along_dots, ← List.append_assoc, List.dropLast_concat]
      next hdots =>
        refine step (below ++ [s]) ?_ (by simpa using h)
        rw [along_other hidle hdots, List.append_assoc]

end Walks

/-- No directory of an accepted declaration leads out of where it starts. -/
def StaysBelow (ds : List Declaration) : Prop :=
  ∀ a ∈ accepted ds, climbs 0 (Names.directories a.1) = false

instance (ds : List Declaration) : Decidable (StaysBelow ds) :=
  inferInstanceAs (Decidable (∀ _ ∈ _, _))

/-- Every path of a round leads to a place below the place of the output directory. -/
def WritesInside (options : RenderOptions) (output : Path) (ds : List Declaration)
    (t : FileTree) : Prop :=
  ∀ p ∈ (generateRound options output ds t).1.written ++
      (generateRound options output ds t).1.unchanged,
    output.place t.here <+: p.place t.here

instance (options : RenderOptions) (output : Path) (ds : List Declaration) (t : FileTree) :
    Decidable (WritesInside options output ds t) :=
  inferInstanceAs (Decidable (∀ _ ∈ _, _))

section Round

variable {options : RenderOptions} {output : Path} {ds : List Declaration} {t : FileTree}

theorem slashFree_accepted (h : ∀ d ∈ ds, d.SlashFree) : ∀ a ∈ accepted ds, SlashFree a := by
  intro a ha
  obtain ⟨d, hd, hc, hspace⟩ := mem_accepted.1 ha
  obtain ⟨hcompanion, hclass, -⟩ := companion_eq_ok hc
  obtain ⟨hsegments, hname⟩ := h d hd
  rw [SlashFree, ← hspace, hcompanion]
  exact ⟨hsegments, hname hclass⟩

theorem climbs_front {n : Nat} {p ss : List String} (hp : p <+: ss)
    (h : climbs n ss = false) : climbs n p = false := by
  induction p generalizing n ss with
  | nil => cases n <;> rfl
  | cons s p ih =>
    obtain ⟨rest, rfl⟩ := hp
    rw [List.cons_append] at h
    unfold climbs at h ⊢
    by_cases hidle : s = "" ∨ s = "."
    · rw [if_pos hidle] at h ⊢
      exact ih ⟨rest, rfl⟩ h
    · rw [if_neg hidle] at h ⊢
      by_cases hdots : s = ".."
      · rw [if_pos hdots] at h ⊢
        cases n with
        | zero => cases h
        | succ above => exact ih ⟨rest, rfl⟩ h
      · rw [if_neg hdots] at h ⊢
        exact ih ⟨rest, rfl⟩ h

theorem place_front {a : Namespace × Companion} (ha : climbs 0 (Names.directories a.1) = false)
    {p : List String} (hp : p <+: Names.directories a.1) (place : Place) :
    place <+: along place (p.map String.toList) := by
  have hwalk : place <+: along (place ++ []) (p.map String.toList) :=
    along_stays (climbs_front hp ha)
  rwa [List.append_nil] at hwalk

theorem writesInside_of_staysBelow (h : ∀ d ∈ ds, d.SlashFree)
    (hstay : output.place t.here = [] ∨ StaysBelow ds) : WritesInside options output ds t := by
  intro q hq
  rcases hstay with hroot | hstay
  · rw [hroot]
    exact List.nil_prefix
  obtain ⟨done, hsub, f, hf, rfl⟩ := mem_generateRound_paths hq
  have hslash : ∀ a ∈ done, SlashFree a := fun a ha => slashFree_accepted h a (hsub.subset ha)
  rcases List.mem_append.1 hf with hf | hf
  · obtain ⟨a, ha, rfl⟩ := List.mem_map.1 hf
    change _ <+: (output.join (Render.companionPath a.1 a.2)).place t.here
    rw [place_companionPath (hslash a ha), companionPlace]
    exact (place_front (hstay a (hsub.subset ha)) (List.prefix_refl _) _).trans
      (List.prefix_append _ _)
  · obtain ⟨a, ha, p, hp, hplace⟩ := place_of_mem_files hslash output t.here hf
    rw [hplace, modulePlace]
    exact (place_front (hstay a (hsub.subset ha)) hp _).trans (List.prefix_append _ _)

theorem output_ne_file (h : ∀ d ∈ ds, d.SlashFree) (hwrites : RoundSucceeds options output ds t)
    {a : Namespace × Companion} (ha : a ∈ accepted ds) {f : OutputFile}
    (hf : f ∈ roundFiles options (accepted ds)) :
    (output.join f.path).place t.here ≠ output.place t.here := by
  have hround := generateRound_writes hwrites
  have hfile : ∀ g ∈ roundFiles options (accepted ds), ∃ c,
      (generateRound options output ds t).2.look ((output.join g.path).place t.here) =
        some (.file c) :=
    fun g hg => hround.look_file (f := g.below output) (List.mem_map_of_mem hg)
  obtain ⟨g, hg, hplace⟩ :=
    exists_mem_files (slashFree_accepted h) output t.here ha (List.nil_prefix)
  obtain ⟨c, hc⟩ := hfile g (List.mem_append_right _ hg)
  obtain ⟨e, he⟩ := hfile f hf
  have hdir : (generateRound options output ds t).2.look (output.place t.here) = some .dir := by
    rw [hplace, modulePlace, List.map_nil, along_nil] at hc
    exact Node.look_eq_dir_of_append (by simp) hc
  intro hsame
  rw [hsame, hdir] at he
  cases he

theorem staysBelow_of_writesInside (h : ∀ d ∈ ds, d.SlashFree)
    (hwrites : RoundSucceeds options output ds t) (hinside : WritesInside options output ds t) :
    output.place t.here = [] ∨ StaysBelow ds := by
  by_contra hout
  obtain ⟨hroot, hclimb⟩ := not_or.1 hout
  obtain ⟨a, ha, hclimbs⟩ : ∃ a ∈ accepted ds, climbs 0 (Names.directories a.1) = true := by
    simpa [StaysBelow] using hclimb
  obtain ⟨p, hp, hplace⟩ : ∃ p, p <+: Names.directories a.1 ∧
      along (output.place t.here ++ []) (p.map String.toList) =
        (output.place t.here).dropLast :=
    along_leaves hclimbs
  rw [List.append_nil] at hplace
  obtain ⟨f, hf, hfile⟩ := exists_mem_files (slashFree_accepted h) output t.here ha hp
  rw [modulePlace, hplace] at hfile
  have hmem := List.mem_append_right (companionFiles options (accepted ds)) hf
  have hfront := hinside _ (generateRound_paths hwrites hmem)
  rw [hfile] at hfront
  -- both are as long, so the output directory would be that module file
  have hlength : (output.place t.here).length =
      ((output.place t.here).dropLast ++ ["mod.rs"]).length := by
    have hpos := List.length_pos_iff.2 hroot
    rw [List.length_append, List.length_dropLast, List.length_singleton]
    omega
  exact output_ne_file h hwrites ha hmem (by rw [hfile, ← hfront.eq_of_length hlength])

end Round

/-- Of what is discovered in a tree of well-named entries, a round writes inside its output
directory when that is the root or no accepted declaration has directories that lead out of it; a
round without a failing write does so only then. -/
theorem writesInside_iff {t : FileTree} (ht : t.root.wellNamed = true) {source : Path}
    {marker : String} {ds : List Declaration} (hds : discover t source marker = .ok ds)
    (options : RenderOptions) (output : Path) :
    (output.place t.here = [] ∨ StaysBelow ds → WritesInside options output ds t) ∧
    (RoundSucceeds options output ds t →
      (WritesInside options output ds t ↔ output.place t.here = [] ∨ StaysBelow ds)) := by
  have hslash := slashFree_discover ht hds
  exact ⟨writesInside_of_staysBelow hslash, fun hwrites =>
    ⟨staysBelow_of_writesInside hslash hwrites, writesInside_of_staysBelow hslash⟩⟩

section Runs

def sourceTree (file : String) : FileTree :=
  ⟨.dir [("src", .dir [(file, .file (.text "#[custom_lombok] struct User \x7b\x7d"))])], []⟩

def userIn (segment : String) : Declaration := ⟨"User", ⟨[segment]⟩, .class, []⟩

theorem writes_inside_user :
    RoundSucceeds {} ⟨"src/generated"⟩ [userIn "user"] (sourceTree "user.rs") ∧
    WritesInside {} ⟨"src/generated"⟩ [userIn "user"] (sourceTree "user.rs") := by
  have hds : discover (sourceTree "user.rs") ⟨"src"⟩ "custom_lombok" = .ok [userIn "user"] := by
    decide +kernel
  have hwrites : RoundSucceeds {} ⟨"src/generated"⟩ [userIn "user"] (sourceTree "user.rs") := by
    decide +kernel
  exact ⟨hwrites, ((writesInside_iff (by decide) hds {} ⟨"src/generated"⟩).2 hwrites).2
    (by decide)⟩

/-- A file name of dots: the companion and a module file land beside the output directory. -/
theorem writes_outside_dots :
    (sourceTree "...rs").root.wellNamed = true ∧
    discover (sourceTree "...rs") ⟨"src"⟩ "custom_lombok" = .ok [userIn ".."] ∧
    RoundSucceeds {} ⟨"src/generated"⟩ [userIn ".."] (sourceTree "...rs") ∧
    ¬WritesInside {} ⟨"src/generated"⟩ [userIn ".."] (sourceTree "...rs") := by
  decide +kernel

end Runs

end AccessorGen
