import AccessorGen.Proofs.File.Components
import AccessorGen.Proofs.File.Writing

/-! Writing files again. A file that has been written can be written once more, since its directory
is there; and when the same files are written in the same order, the tree comes out as it was, down
to the order of its entries. -/

namespace AccessorGen

namespace Node

theorem setEntry_self {s : String} {n : Node} {entries : List (String × Node)}
    (h : entries.lookup s = some n) : setEntry s n entries = entries := by
  induction entries with
  | nil => cases h
  | cons e entries ih =>
    obtain ⟨u, m⟩ := e
    unfold setEntry
    split
    next hu =>
      subst hu
      obtain rfl : m = n := by simpa using h
      rfl
    next hu =>
      rw [List.lookup_cons, beq_false_of_ne (Ne.symm hu)] at h
      rw [ih h]

theorem setEntry_setEntry (s : String) (n m : Node) (entries : List (String × Node)) :
    setEntry s n (setEntry s m entries) = setEntry s n entries := by
  induction entries with
  | nil => simp [setEntry]
  | cons e entries ih =>
    obtain ⟨u, k⟩ := e
    by_cases hu : u = s
    · simp [setEntry, hu]
    · simp [setEntry, hu, ih]

theorem setEntry_comm {s u : String} (hne : s ≠ u) {k l : Node}
    {entries : List (String × Node)} (hs : entries.lookup s = some k)
    (hu : entries.lookup u = some l) (n m : Node) :
    setEntry s n (setEntry u m entries) = setEntry u m (setEntry s n entries) := by
  induction entries with
  | nil => cases hs
  | cons e entries ih =>
    obtain ⟨v, j⟩ := e
    by_cases hvs : v = s
    · subst hvs
      simp [setEntry, hne]
    · by_cases hvu : v = u
      · subst hvu
        simp [setEntry, hvs]
      · rw [List.lookup_cons, beq_false_of_ne (Ne.symm hvs)] at hs
        rw [List.lookup_cons, beq_false_of_ne (Ne.symm hvu)] at hu
        simp [setEntry, hvs, hvu, ih hs hu]

theorem set_dir_cons {s : String} {n : Node} {entries : List (String × Node)}
    (h : entries.lookup s = some n) (new : Node) (place : Place) :
    set new (.dir entries) (s :: place) = .dir (setEntry s (set new n place) entries) := by
  cases place with
  | nil => simp [set]
  | cons u place => simp [set, h]

theorem get_cons_eq_some {s : String} {place : Place} {root m : Node}
    (h : root.get (s :: place) = some m) :
    ∃ entries n, root = .dir entries ∧ entries.lookup s = some n ∧ n.get place = some m := by
  cases root with
  | file c => cases h
  | dir entries =>
    obtain ⟨n, hn, hm⟩ := Option.bind_eq_some_iff.1 h
    exact ⟨entries, n, rfl, hn, hm⟩

theorem set_self {n root : Node} {place : Place} (h : root.get place = some n) :
    set n root place = root := by
  induction place generalizing root with
  | nil =>
    obtain rfl := Option.some.inj h
    simp [set]
  | cons s place ih =>
    obtain ⟨entries, m, rfl, hm, hn⟩ := get_cons_eq_some h
    rw [set_dir_cons hm, ih hn, setEntry_self hm]

theorem get_set_self {m root : Node} {place : Place} (h : root.get place = some m) (new : Node) :
    (set new root place).get place = some new := by
  induction place generalizing root with
  | nil => simp [set, get]
  | cons s place ih =>
    obtain ⟨entries, n, rfl, hn, hm⟩ := get_cons_eq_some h
    rw [set_dir_cons hn, get, lookup_setEntry, if_pos rfl]
    exact ih hm

theorem set_set {m root : Node} {place : Place} (h : root.get place = some m) (new old : Node) :
    set new (set old root place) place = set new root place := by
  induction place generalizing root with
  | nil => simp [set]
  | cons s place ih =>
    obtain ⟨entries, n, rfl, hn, hm⟩ := get_cons_eq_some h
    have hat : (setEntry s (set old n place) entries).lookup s = some (set old n place) := by
      rw [lookup_setEntry, if_pos rfl]
    rw [set_dir_cons hn, set_dir_cons hat, setEntry_setEntry, ih hm, set_dir_cons hn]

section Files

variable {root : Node} {p q : Place} {c d : Content} (hp : root.get p = some (.file c))
  (hq : root.get q = some (.file d)) (hne : p ≠ q)

include hp hq hne

theorem get_set_of_ne (new : Node) : (set new root p).get q = root.get q := by
  induction p generalizing root q with
  | nil =>
    obtain rfl := Option.some.inj hp
    cases q with
    | nil => exact absurd rfl hne
    | cons u q => cases hq
  | cons s p ih =>
    obtain ⟨entries, n, rfl, hn, hnp⟩ := get_cons_eq_some hp
    cases q with
    | nil => cases hq
    | cons u q =>
      rw [set_dir_cons hn, get, get, lookup_setEntry]
      split
      next hu =>
        subst hu
        rw [get, hn, Option.bind_some] at hq
        rw [hn, Option.bind_some, Option.bind_some]
        exact ih hnp hq fun e => hne (e ▸ rfl)
      · rfl

theorem set_comm (a b : Node) : set a (set b root p) q = set b (set a root q) p := by
  induction p generalizing root q with
  | nil =>
    obtain rfl := Option.some.inj hp
    cases q with
    | nil => exact absurd rfl hne
    | cons u q => cases hq
  | cons s p ih =>
    obtain ⟨entries, n, rfl, hn, hnp⟩ := get_cons_eq_some hp
    cases q with
    | nil => cases hq
    | cons u q =>
      by_cases hu : u = s
      · subst hu
        rw [get, hn, Option.bind_some] at hq
        have hat : ∀ x, (setEntry u x entries).lookup u = some x := fun x => by
          rw [lookup_setEntry, if_pos rfl]
        rw [set_dir_cons hn, set_dir_cons (hat _), set_dir_cons hn, set_dir_cons (hat _),
          setEntry_setEntry, setEntry_setEntry, ih hnp hq fun e => hne (e ▸ rfl)]
      · obtain ⟨_, m, heq, hm, -⟩ := get_cons_eq_some hq
        obtain rfl := Node.dir.inj heq
        have hat : ∀ x, (setEntry s x entries).lookup u = some m := fun x => by
          rw [lookup_setEntry, if_neg hu, hm]
        have hat' : ∀ x, (setEntry u x entries).lookup s = some n := fun x => by
          rw [lookup_setEntry, if_neg (Ne.symm hu), hn]
        rw [set_dir_cons hn, set_dir_cons (hat _), set_dir_cons hm, set_dir_cons (hat' _),
          setEntry_comm hu hm hn]

end Files

end Node

namespace Path

def frontComponents : Option (List Char) → List Component
  | none => []
  | some l => if l = ['.'] then [.here] else [.top]

/-- Parts that `lead` can give: a slash, a dot, or nothing before a body that begins with neither an
empty piece nor a dot. -/
structure IsLead (front : Option (List Char)) (body : List (List Char)) : Prop where
  shape : front = none ∨ front = some ['/'] ∨ front = some ['.']
  pieces : ∀ q ∈ body, '/' ∉ q
  first : front = none → ∀ q ∈ body.head?, q ≠ [] ∧ q ≠ ['.']

theorem isLead_lead (s : List Char) : IsLead (lead s).1 (lead s).2 := by
  have hpieces := slash_not_mem_lead s
  cases hcut : Text.cutAt '/' s with
  | nil => exact absurd hcut (Text.cutAt_ne_nil '/' s)
  | cons first rest =>
    unfold lead at hpieces ⊢
    rw [hcut] at hpieces ⊢
    by_cases hfirst : first = []
    · by_cases hrest : rest = []
      · exact ⟨by simp [hfirst, hrest], hpieces, by simp [hfirst, hrest]⟩
      · exact ⟨by simp [hfirst, hrest], hpieces, by simp [hfirst, hrest]⟩
    · by_cases hdot : first = ['.']
      · exact ⟨by simp [hdot], hpieces, by simp [hdot]⟩
      · exact ⟨by simp [hfirst, hdot], hpieces, by simp [hfirst, hdot]⟩

theorem IsLead.of_front {front : Option (List Char)} {body part : List (List Char)}
    (h : IsLead front body) (hpart : part <+: body) : IsLead front part := by
  refine ⟨h.shape, fun q hq => h.pieces q (hpart.subset hq), fun hnone q hq => ?_⟩
  cases part with
  | nil => cases hq
  | cons p part =>
    obtain ⟨rest, rfl⟩ := hpart
    exact h.first hnone q hq

theorem components_lead (s : List Char) : componentsOf s =
    frontComponents (lead s).1 ++ (lead s).2.filterMap Component.ofPiece? := by
  unfold componentsOf lead
  cases hcut : Text.cutAt '/' s with
  | nil => exact absurd hcut (Text.cutAt_ne_nil '/' s)
  | cons first rest =>
    dsimp only
    split
    · split <;> simp [frontComponents]
    · split
      · simp [frontComponents]
      · cases ho : Component.ofPiece? first <;> simp [frontComponents, ho]

theorem components_glue {front : Option (List Char)} {body : List (List Char)}
    (h : IsLead front body) : componentsOf (glue front body) =
      frontComponents front ++ body.filterMap Component.ofPiece? := by
  have hcut : body ≠ [] → Text.cutAt '/' (Text.joinWith ['/'] body) = body := fun hne =>
    Text.cutAt_joinWith hne h.pieces
  unfold componentsOf
  rcases h.shape with rfl | rfl | rfl
  · cases body with
    | nil => simp [glue, Text.joinWith, Text.cutAt, frontComponents]
    | cons q qs =>
      obtain ⟨hq, hdot⟩ := h.first rfl q rfl
      rw [glue, hcut (by simp)]
      cases ho : Component.ofPiece? q <;> simp [frontComponents, hq, hdot, ho]
  · cases body with
    | nil => simp [glue, Text.cutAt, frontComponents, Component.ofPiece?]
    | cons q qs =>
      have htext : Text.cutAt '/' (glue (some ['/']) (q :: qs)) = [] :: q :: qs := by
        rw [glue, Text.cutAt, if_pos rfl, hcut (by simp)]
        simp
      rw [htext]
      simp [frontComponents]
  · cases body with
    | nil => simp [glue, Text.cutAt, Text.consFirst, frontComponents]
    | cons q qs =>
      have htext : Text.cutAt '/' (glue (some ['.']) (q :: qs)) = ['.'] :: q :: qs := by
        rw [glue, Text.cutAt_append_cons, Text.cutAt_of_not_mem (by decide), hcut (by simp)]
        · rfl
        · simp
        · simp
      rw [htext]
      simp [frontComponents]

theorem ofPiece?_of_idle {piece : List Char} :
    Component.ofPiece? piece = none ↔ idle piece = true := by
  unfold Component.ofPiece? idle
  split
  · simp [*]
  next h => split <;> simp [h]

theorem filterMap_dropWhile_idle (body : List (List Char)) :
    (body.dropWhile idle).filterMap Component.ofPiece? = body.filterMap Component.ofPiece? := by
  induction body with
  | nil => rfl
  | cons q body ih =>
    cases hq : idle q with
    | true => rw [List.dropWhile_cons_of_pos hq, ih, List.filterMap_cons, ofPiece?_of_idle.2 hq]
    | false => rw [List.dropWhile_cons_of_neg (by simp [hq])]

theorem filterMap_trimIdleEnd (body : List (List Char)) :
    (trimIdleEnd body).filterMap Component.ofPiece? = body.filterMap Component.ofPiece? := by
  rw [trimIdleEnd, List.filterMap_reverse, filterMap_dropWhile_idle, List.filterMap_reverse,
    List.reverse_reverse]

theorem trimIdleEnd_eq {body rest : List (List Char)} {last : List Char}
    (h : (trimIdleEnd body).reverse = last :: rest) :
    trimIdleEnd body = rest.reverse ++ [last] ∧ ∃ c, Component.ofPiece? last = some c := by
  have hlast : idle last = false := by
    have hhead := List.head?_dropWhile_not idle body.reverse
    rw [trimIdleEnd, List.reverse_reverse] at h
    rw [h] at hhead
    simpa using hhead
  refine ⟨List.reverse_eq_cons_iff.1 h, ?_⟩
  rw [← Option.ne_none_iff_exists', ne_eq, ofPiece?_of_idle, hlast]
  exact Bool.false_ne_true

theorem components_parent {p q : Path} (h : p.parent = some q) :
    ∃ c, p.components = q.components ++ [c] := by
  -- The parent is the text without its last piece that is a component, and a path of `.` alone has
  -- the empty one.
  have hlead := isLead_lead p.text.toList
  have hcomponents := components_lead p.text.toList
  unfold parent at h
  cases hl : lead p.text.toList with
  | mk front body =>
    rw [hl] at h hlead hcomponents
    dsimp only at h hlead hcomponents
    split at h
    next last rest hrev =>
      obtain rfl := Option.some.inj h
      obtain ⟨hbody, c, hc⟩ := trimIdleEnd_eq hrev
      have hrest : rest.reverse <+: body :=
        (List.prefix_append _ _).trans (hbody ▸ trimIdleEnd_front body)
      have hglue : IsLead front (trimIdleEnd rest.reverse) :=
        hlead.of_front ((trimIdleEnd_front _).trans hrest)
      refine ⟨c, ?_⟩
      rw [components, hcomponents, ← filterMap_trimIdleEnd body, hbody, List.filterMap_append,
        components, String.toList_ofList, components_glue hglue, filterMap_trimIdleEnd]
      simp [hc]
    next hrev =>
      split at h
      next hdot =>
        obtain rfl := Option.some.inj h
        have hbody : trimIdleEnd body = [] := List.reverse_eq_nil_iff.1 hrev
        refine ⟨.here, ?_⟩
        rw [components, hcomponents, ← filterMap_trimIdleEnd body, hbody, hdot]
        rfl
      · cases h

end Path

namespace FileTree

theorem walk_append (t : FileTree) (start : Place) (cs ds : List Component) :
    t.walk start (cs ++ ds) = (t.walk start cs >>= fun place => t.walk place ds) := by
  induction cs generalizing start with
  | nil => rfl
  | cons c cs ih =>
    simp only [List.cons_append, walk, bind, Except.bind] at ih ⊢
    split
    · rfl
    · exact ih _

theorem walk_front {t : FileTree} {start place : Place} {cs ds : List Component} {c : Component}
    (h : t.walk start (cs ++ c :: ds) = .ok place) :
    ∃ dir, t.walk start cs = .ok dir ∧ t.look dir = some .dir := by
  rw [walk_append] at h
  cases hdir : t.walk start cs with
  | error e =>
    rw [hdir] at h
    cases h
  | ok dir =>
    simp only [hdir, bind, Except.bind, walk] at h
    split at h
    · cases h
    next he => exact ⟨dir, rfl, enter_eq_ok_iff.1 he⟩

theorem walk_lastStep {t : FileTree} {start dir : Place} {cs : List Component} {p : Path}
    (h : t.walk start cs = .ok dir) (hdir : t.look dir = some .dir) :
    t.walk start (cs ++ lastStep p) = .ok dir := by
  rw [walk_append, h]
  unfold lastStep
  split
  · simp [bind, Except.bind, walk, enter_eq_ok_iff.2 hdir, step]
  · rfl

theorem resolve_above {t : FileTree} {p q : Path} {place : Place} {c : Component}
    (h : t.resolve p = .ok place) (hc : p.components = q.components ++ [c])
    (hq : q.text.toList ≠ []) : ∃ dir, t.resolve q = .ok dir ∧ t.look dir = some .dir := by
  have hne : q.components ≠ [] := fun e => hq (Path.text_of_components_nil e)
  unfold resolve at h ⊢
  rw [hc] at h
  cases hcs : q.components with
  | nil => exact absurd hcs hne
  | cons d cs =>
    rw [hcs] at h
    have hwalk : ∀ start es, t.walk start (es ++ [c] ++ lastStep p) = .ok place →
        ∃ dir, t.walk start (es ++ lastStep q) = .ok dir ∧ t.look dir = some .dir := by
      intro start es hw
      rw [List.append_assoc, List.singleton_append] at hw
      obtain ⟨dir, hdir, hlook⟩ := walk_front hw
      exact ⟨dir, walk_lastStep hdir hlook, hlook⟩
    cases d with
    | top => exact hwalk [] cs h
    | here => exact hwalk t.here (.here :: cs) h
    | up => exact hwalk t.here (.up :: cs) h
    | name s => exact hwalk t.here (.name s :: cs) h

theorem makeDirs_of_look {t : FileTree} {p : Path} {dir : Place} (h : t.resolve p = .ok dir)
    (hdir : t.look dir = some .dir) : t.makeDirs p = (.ok (), t) := by
  obtain ⟨n, hn, hview⟩ := Option.map_eq_some_iff.1 hdir
  obtain ⟨entries, rfl⟩ := Node.view_eq_dir hview
  have hmake : t.makeDir p = .error .exists := by
    simp [makeDir, h, bind, Except.bind, hn]
  have hisDir : t.isDir p = true := by
    simp [isDir, find, h, bind, Except.bind, hn, Node.isDir]
  rw [makeDirs]
  cases ha : ancestors p with
  | nil => rfl
  | cons q above =>
    obtain rfl : q = p := by
      rw [ancestors, ancestors.go] at ha
      split at ha
      · cases ha
      · exact (List.cons.inj ha).1.symm
    simp [makeFrom, hmake, ensureDir, hisDir]

end FileTree

namespace OutputFile

open FileTree

theorem makeParent_of_resolve {f : OutputFile} {t : FileTree} {place : Place}
    (h : t.resolve f.path = .ok place) : f.makeParent t = (.ok (), t) := by
  unfold makeParent
  split
  · rfl
  next dir hparent =>
    obtain ⟨c, hc⟩ := Path.components_parent hparent
    have hmake : t.makeDirs dir = (.ok (), t) := by
      by_cases hempty : dir.text.toList = []
      · have htext : dir.text.isEmpty = true := by
          rw [String.isEmpty_iff, ← String.toList_eq_nil_iff, hempty]
        have hnone : ancestors dir = [] := by
          rw [ancestors, ancestors.go, if_pos htext]
        rw [makeDirs, hnone]
        rfl
      · obtain ⟨above, hresolve, hlook⟩ := resolve_above h hc hempty
        exact makeDirs_of_look hresolve hlook
    rw [hmake]

structure Targets (t : FileTree) (f : OutputFile) : Prop where
  resolve : t.resolve f.path = .ok (f.path.place t.here)
  slash : endsInSlash f.path = false
  file : ∃ c, t.root.get (f.path.place t.here) = some (.file c)

def overwrite (f : OutputFile) (t : FileTree) : FileTree :=
  { t with root := .set (.file (.text f.content)) t.root (f.path.place t.here) }

theorem Targets.write {t : FileTree} {f : OutputFile} (h : Targets t f) :
    ∃ o, f.write t = (.ok o, f.overwrite t) := by
  obtain ⟨c, hc⟩ := h.file
  unfold OutputFile.write
  split
  next hcurrent =>
    have hread : t.readText f.path = some f.content := by simpa [isCurrent] using hcurrent
    obtain ⟨-, place, hplace, hlook⟩ := readText_eq_some_iff.1 hread
    obtain rfl := resolve_eq_ok hplace
    obtain rfl : c = .text f.content := by
      simpa [look, Node.look, hc, Node.view] using hlook
    exact ⟨.unchanged, by rw [overwrite, Node.set_self hc]⟩
  · rw [makeParent_of_resolve h.resolve]
    simp only [writeText, h.resolve, bind, Except.bind, hc, h.slash]
    exact ⟨.written, rfl⟩

theorem Targets.overwrite {t : FileTree} {f g : OutputFile} (hf : Targets t f)
    (hg : Targets t g) : Targets (f.overwrite t) g := by
  obtain ⟨o, hw⟩ := hf.write
  have hkeep := (write_ok hw).2.1
  obtain ⟨c, hc⟩ := hf.file
  obtain ⟨d, hd⟩ := hg.file
  refine ⟨resolve_keeps hkeep hg.resolve, hg.slash, ?_⟩
  by_cases he : f.path.place t.here = g.path.place t.here
  · exact ⟨_, by rw [OutputFile.overwrite, ← he]; exact Node.get_set_self hc _⟩
  · exact ⟨d, (Node.get_set_of_ne hc hd he _).trans hd⟩

def overwriteAll (fs : List OutputFile) (t : FileTree) : FileTree :=
  fs.foldl (fun t f => f.overwrite t) t

theorem writesAll_overwriteAll {fs : List OutputFile} {t : FileTree}
    (h : ∀ f ∈ fs, Targets t f) : WritesAll fs t (overwriteAll fs t) := by
  induction fs generalizing t with
  | nil => exact .nil t
  | cons f fs ih =>
    obtain ⟨hf, hrest⟩ := List.forall_mem_cons.1 h
    obtain ⟨o, hw⟩ := hf.write
    exact .cons hw (ih fun g hg => hf.overwrite (hrest g hg))

theorem overwriteAll_overwrite {fs : List OutputFile} {f : OutputFile} {t : FileTree}
    (hf : Targets t f) (h : ∀ g ∈ fs, Targets t g)
    (hlater : ∃ g ∈ fs, g.path.place t.here = f.path.place t.here) :
    overwriteAll fs (f.overwrite t) = overwriteAll fs t := by
  induction fs generalizing t with
  | nil => simp at hlater
  | cons g fs ih =>
    obtain ⟨hg, hrest⟩ := List.forall_mem_cons.1 h
    obtain ⟨c, hc⟩ := hf.file
    obtain ⟨d, hd⟩ := hg.file
    change overwriteAll fs (g.overwrite (f.overwrite t)) = overwriteAll fs (g.overwrite t)
    by_cases he : g.path.place t.here = f.path.place t.here
    · have hsame : g.overwrite (f.overwrite t) = g.overwrite t := by
        simp only [OutputFile.overwrite, he, Node.set_set hc]
      rw [hsame]
    · have hcomm : g.overwrite (f.overwrite t) = f.overwrite (g.overwrite t) := by
        simp only [OutputFile.overwrite, Node.set_comm hc hd (Ne.symm he)]
      rw [hcomm]
      refine ih (hg.overwrite hf) (fun k hk => hg.overwrite (hrest k hk)) ?_
      obtain ⟨k, hk, hplace⟩ := hlater
      rcases List.mem_cons.1 hk with rfl | hk
      · exact absurd hplace he
      · exact ⟨k, hk, hplace⟩

theorem overwriteAll_eq {fs : List OutputFile} {t : FileTree} (h : ∀ f ∈ fs, Targets t f)
    (hlast : ∀ before f after, fs = before ++ f :: after →
      (∀ g ∈ after, g.path.place t.here ≠ f.path.place t.here) →
      t.readText f.path = some f.content) : overwriteAll fs t = t := by
  induction fs with
  | nil => rfl
  | cons f fs ih =>
    obtain ⟨hf, hrest⟩ := List.forall_mem_cons.1 h
    have hstay : overwriteAll fs t = t := ih hrest fun before g after hsplit =>
      hlast (f :: before) g after (by rw [hsplit]; rfl)
    by_cases hlater : ∃ g ∈ fs, g.path.place t.here = f.path.place t.here
    · exact (overwriteAll_overwrite hf hrest hlater).trans hstay
    · have hread := hlast [] f fs rfl fun g hg he => hlater ⟨g, hg, he⟩
      obtain ⟨-, place, hplace, hlook⟩ := readText_eq_some_iff.1 hread
      obtain rfl := resolve_eq_ok hplace
      obtain ⟨c, hc⟩ := hf.file
      obtain rfl : c = .text f.content := by
        simpa [look, Node.look, hc, Node.view] using hlook
      have hsame : f.overwrite t = t := by rw [OutputFile.overwrite, Node.set_self hc]
      change overwriteAll fs (f.overwrite t) = t
      rw [hsame, hstay]

theorem WritesAll.targets {fs : List OutputFile} {t u : FileTree} (h : WritesAll fs t u)
    {f : OutputFile} (hf : f ∈ fs) : Targets u f := by
  obtain ⟨c, hlook⟩ := h.look_file hf
  have hresolved : u.resolve f.path = .ok (f.path.place t.here) ∧ endsInSlash f.path = false := by
    clear hlook
    induction h with
    | nil => cases hf
    | @cons g fs t u v o first rest ih =>
      obtain ⟨hread, hkeep⟩ := write_ok first
      rcases List.mem_cons.1 hf with rfl | hf
      · obtain ⟨hslash, place, hplace, -⟩ := readText_eq_some_iff.1 hread
        rw [← hkeep.1.1, ← resolve_eq_ok hplace]
        exact ⟨resolve_keeps rest.keeps.1 hplace, hslash⟩
      · rw [← hkeep.1.1]
        exact ih hf
  have hhere : u.here = t.here := h.keeps.1.1
  obtain ⟨n, hn, hview⟩ := Option.map_eq_some_iff.1 hlook
  refine ⟨?_, hresolved.2, ?_⟩
  · rw [hhere]
    exact hresolved.1
  · rw [hhere]
    cases n with
    | file c => exact ⟨c, hn⟩
    | dir entries => cases hview

theorem WritesAll.again {fs : List OutputFile} {t u : FileTree} (h : WritesAll fs t u) :
    WritesAll fs u u := by
  have htargets : ∀ f ∈ fs, Targets u f := fun f hf => h.targets hf
  have hsame : overwriteAll fs u = u := by
    refine overwriteAll_eq htargets fun before f after hsplit hlast => ?_
    rw [h.keeps.1.1] at hlast
    rw [hsplit] at h
    exact h.readText hlast
  have hwrites := writesAll_overwriteAll htargets
  rwa [hsame] at hwrites

end OutputFile

end AccessorGen
