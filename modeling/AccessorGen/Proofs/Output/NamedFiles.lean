import AccessorGen.Proofs.Output.Resolution

/-! The paths of a round's files. Each is put together from proper names, so its text is what a
preview shows, and below an output directory two of them lead to one place only when they are one
path. -/

namespace AccessorGen

namespace Path

def Named (p : Path) : Prop :=
  ∃ dirs file, (∀ s ∈ dirs, isEntryName s = true) ∧ isEntryName file = true ∧
    p = (ofSegments dirs).push file

theorem text_push {dirs : List String} (hdirs : ∀ s ∈ dirs, isEntryName s = true) {file : String}
    (hfile : isEntryName file = true) : ((ofSegments dirs).push file).text = dirText dirs ++ file := by
  induction dirs using List.reverseRecOn generalizing file with
  | nil =>
    have hempty : (ofSegments []).push file = ⟨file⟩ := empty_join ⟨file⟩
    rw [hempty, dirText, String.empty_append]
  | append_singleton dirs d ih =>
    have hd : isEntryName d = true := hdirs d (by simp)
    have hslash := slash_not_mem_of_isEntryName hd
    have hhead : file.toList.head? ≠ some '/' := fun e =>
      slash_not_mem_of_isEntryName hfile (List.mem_of_mem_head? e)
    obtain ⟨c, r, hdchars⟩ : ∃ c r, d.toList.reverse = c :: r :=
      List.exists_cons_of_ne_nil (by simpa using (isName_of_isEntryName hd).1)
    have hc : c ≠ '/' := by
      rintro rfl
      exact hslash (List.mem_reverse.1 (by simp [hdchars]))
    have hfront := ih (fun s hs => hdirs s (by simp [hs])) hd
    -- the text so far ends in the last directory, so a slash goes between it and the file
    have hopen : ¬((dirText dirs ++ d).toList = [] ∨
        (dirText dirs ++ d).toList.getLast? = some '/') := by
      rw [String.toList_append, ← List.reverse_reverse d.toList, hdchars]
      simpa using hc
    apply String.toList_injective
    rw [ofSegments_append, push, toList_join, hfront, joinChars, if_neg hhead, if_neg hopen,
      dirText_concat]
    simp

variable {p q : Path}

theorem Named.slashed (h : p.Named) : (⟨p.slashed⟩ : Path) = p := by
  obtain ⟨dirs, file, hdirs, hfile, rfl⟩ := h
  rw [slashed_push hdirs hfile, ← text_push hdirs hfile]

theorem Named.place (h : p.Named) : ∃ dirs file, p = (ofSegments dirs).push file ∧
    ∀ (output : Path) (start : Place),
      (output.join p).place start = output.place start ++ (dirs ++ [file]) := by
  obtain ⟨dirs, file, hdirs, hfile, rfl⟩ := h
  have hnames : ∀ s ∈ dirs.map String.toList, IsName s := by
    intro s hs
    obtain ⟨d, hd, rfl⟩ := List.mem_map.1 hs
    exact isName_of_isEntryName (hdirs d hd)
  refine ⟨dirs, file, rfl, fun output start => ?_⟩
  rw [place_below (fun s hs => slash_not_mem_of_isEntryName (hdirs s hs))
    (slash_not_mem_of_isEntryName hfile) (isName_of_isEntryName hfile), along_names hnames,
    List.append_assoc, List.map_map]
  congr 2
  exact List.map_id'' (fun s => String.ofList_toList) dirs

theorem Named.eq_of_place (hp : p.Named) (hq : q.Named) {output : Path} {start : Place}
    (h : (output.join p).place start = (output.join q).place start) : p = q := by
  obtain ⟨dirs, file, rfl, hplace⟩ := hp.place
  obtain ⟨dirs', file', rfl, hplace'⟩ := hq.place
  rw [hplace, hplace', List.append_cancel_left_eq] at h
  obtain ⟨rfl, rfl⟩ := List.append_singleton_inj.1 h
  rfl

end Path

section Round

variable {options : RenderOptions} {as : List (Namespace × Companion)}
  (h : ∀ a ∈ as, OwnFiles.Proper a)

include h

theorem named_companionPath {a : Namespace × Companion} (ha : a ∈ as) :
    (Render.companionPath a.1 a.2).Named :=
  ⟨_, _, isEntryName_directories h ha (List.prefix_refl _), isEntryName_fileOf h ha, rfl⟩

theorem named_of_mem_files {f : OutputFile} (hf : f ∈ (modulesOf as .empty).files) :
    f.path.Named := by
  obtain ⟨⟨dir, names⟩, he, rfl⟩ := List.mem_map.1 hf
  have hdir : dir ∈ (modulesOf as .empty).paths := List.mem_map_of_mem he
  obtain ⟨a, ha, p, hp, rfl⟩ := ModuleTree.exists_of_mem_modulesOf hdir
  exact ⟨p, "mod.rs", isEntryName_directories h ha hp, by decide, rfl⟩

theorem named_of_mem_roundFiles {f : OutputFile} (hf : f ∈ roundFiles options as) :
    f.path.Named := by
  rcases List.mem_append.1 hf with hf | hf
  · obtain ⟨a, ha, rfl⟩ := List.mem_map.1 hf
    exact named_companionPath h ha
  · exact named_of_mem_files h hf

end Round

/-- After a round in which no write fails, a file that no later one of its path replaces holds its
text. -/
theorem readText_of_last {options : RenderOptions} {output : Path} {ds : List Declaration}
    {t : FileTree} (hproper : ∀ a ∈ accepted ds, OwnFiles.Proper a)
    (hwrites : RoundSucceeds options output ds t) {before after : List OutputFile}
    {f : OutputFile} (hsplit : roundFiles options (accepted ds) = before ++ f :: after)
    (hlast : ∀ g ∈ after, g.path ≠ f.path) :
    (generateRound options output ds t).2.readText (output.join f.path) = some f.content := by
  have hnamed : ∀ g ∈ roundFiles options (accepted ds), g.path.Named := fun _ =>
    named_of_mem_roundFiles hproper
  rw [hsplit] at hnamed
  have hwritten := generateRound_writes hwrites
  rw [hsplit, List.map_append, List.map_cons] at hwritten
  refine hwritten.readText fun later hlater hmeet => ?_
  obtain ⟨g, hg, rfl⟩ := List.mem_map.1 hlater
  exact hlast g hg ((hnamed g (by simp [hg])).eq_of_place (hnamed f (by simp)) hmeet)

end AccessorGen
