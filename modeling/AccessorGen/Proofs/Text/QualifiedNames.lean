import AccessorGen.Declaration
import AccessorGen.Proofs.Text.Cutting
import AccessorGen.Proofs.Text.Trimming
import AccessorGen.Proofs.Text.Words

/-! Reading namespaces back from text. Segments without separators and without white space at their
ends are the words of every text they are joined to, whether at double colons, at dots or behind the
name of the crate; so a namespace is read back from its display, and a declaration's namespace and
name from its qualified name. -/

namespace AccessorGen

open Text

namespace Namespace

/-- A word that stands for itself in the text of a namespace. -/
structure IsSegment (s : String) : Prop where
  nonempty : s ≠ ""
  noColon : ':' ∉ s.toList
  noDot : '.' ∉ s.toList
  trimmed : Trimmed s.toList

instance (s : String) : Decidable (IsSegment s) :=
  decidable_of_iff (s ≠ "" ∧ ':' ∉ s.toList ∧ '.' ∉ s.toList ∧ Trimmed s.toList)
    ⟨fun ⟨h1, h2, h3, h4⟩ => ⟨h1, h2, h3, h4⟩,
      fun h => ⟨h.nonempty, h.noColon, h.noDot, h.trimmed⟩⟩

/-- Every segment stands for itself, and the first is not the name of the crate. -/
structure Plain (ns : Namespace) : Prop where
  segments : ∀ s ∈ ns.segments, IsSegment s
  first : ns.segments.head? ≠ some "crate"

instance (ns : Namespace) : Decidable ns.Plain :=
  decidable_of_iff ((∀ s ∈ ns.segments, IsSegment s) ∧ ns.segments.head? ≠ some "crate")
    ⟨fun ⟨h1, h2⟩ => ⟨h1, h2⟩, fun h => ⟨h.segments, h.first⟩⟩

section Words

variable {p r : List Char} {s : String} {ss : List String}

theorem pathWords_colons (h : ':' ∉ p) (r : List Char) :
    pathWords (p ++ ':' :: ':' :: r) = pathWords p ++ pathWords r := by
  simp only [pathWords, cutColons_append h, cutColons_of_not_mem h, List.flatMap_cons,
    List.flatMap_nil, List.append_nil, List.map_append, List.filter_append]

theorem pathWords_dot (hp : ':' ∉ p) (hr : ':' ∉ r) :
    pathWords (p ++ '.' :: r) = pathWords p ++ pathWords r := by
  have hwhole : ':' ∉ p ++ '.' :: r := by simp [hp, hr]
  simp only [pathWords, cutColons_of_not_mem hwhole, cutColons_of_not_mem hp,
    cutColons_of_not_mem hr, List.flatMap_cons, List.flatMap_nil, List.append_nil,
    cutAt_append_cons, List.map_append, List.filter_append]

theorem IsSegment.pathWords (h : IsSegment s) : pathWords s.toList = [s.toList] := by
  have hne : s.toList.isEmpty = false := by
    simpa using fun hnil => h.nonempty (String.toList_eq_nil_iff.1 hnil)
  rw [Namespace.pathWords, cutColons_of_not_mem h.noColon, List.flatMap_singleton,
    cutAt_of_not_mem h.noDot, List.map_singleton, trim_of_trimmed h.trimmed]
  simp [hne]

/-- Segments are the words of the text they are joined to, at every separator that parts a segment
from the joined rest. -/
theorem pathWords_intercalate {sep : String}
    (hseam : ∀ s ts, IsSegment s → (∀ t ∈ ts, IsSegment t) →
      pathWords (s ++ sep ++ sep.intercalate ts).toList =
        pathWords s.toList ++ pathWords (sep.intercalate ts).toList)
    (h : ∀ s ∈ ss, IsSegment s) : pathWords (sep.intercalate ss).toList = ss.map String.toList := by
  induction ss with
  | nil => rw [String.intercalate_nil, List.map_nil]; decide
  | cons s ss ih =>
    obtain ⟨hs, hss⟩ := List.forall_mem_cons.1 h
    cases ss with
    | nil => rw [String.intercalate_singleton, hs.pathWords]; rfl
    | cons t ss =>
      rw [String.intercalate_cons_cons, hseam s (t :: ss) hs hss, hs.pathWords, ih hss]
      rfl

theorem pathWords_joined (h : ∀ s ∈ ss, IsSegment s) :
    pathWords ("::".intercalate ss).toList = ss.map String.toList := by
  refine pathWords_intercalate (fun s ts hs _ => ?_) h
  have htext : (s ++ "::" ++ "::".intercalate ts).toList =
      s.toList ++ ':' :: ':' :: ("::".intercalate ts).toList := by
    simp
  rw [htext, pathWords_colons hs.noColon]

theorem colon_not_mem_dotted (h : ∀ s ∈ ss, IsSegment s) :
    ':' ∉ (".".intercalate ss).toList := fun hmem => by
  obtain hdot | ⟨s, hs, hcolon⟩ := mem_intercalate hmem
  · exact absurd hdot (by decide)
  · exact (h s hs).noColon hcolon

theorem pathWords_dotted (h : ∀ s ∈ ss, IsSegment s) :
    pathWords (".".intercalate ss).toList = ss.map String.toList := by
  refine pathWords_intercalate (fun s ts hs hts => ?_) h
  have htext : (s ++ "." ++ ".".intercalate ts).toList =
      s.toList ++ '.' :: (".".intercalate ts).toList := by
    simp
  rw [htext, pathWords_dot hs.noColon (colon_not_mem_dotted hts)]

theorem pathWords_crate (s : String) :
    pathWords ("crate::" ++ s).toList = "crate".toList :: pathWords s.toList := by
  have htext : ("crate::" ++ s).toList = "crate".toList ++ ':' :: ':' :: s.toList := by
    simp
  rw [htext, pathWords_colons (by decide)]
  rfl

end Words

section Reading

variable {ns : Namespace} {s : String}

/-- A text whose words are the segments is read as the namespace, also with the name of the crate in
front. -/
theorem Plain.parse_eq (h : ns.Plain) (hwords : pathWords s.toList = ns.segments.map String.toList) :
    parse s = ns ∧ parse ("crate::" ++ s) = ns := by
  have hback : (ns.segments.map String.toList).map .ofList = ns.segments := by
    rw [List.map_map]
    exact List.map_id'' (fun s => String.ofList_toList) ns.segments
  constructor
  · have hkept : dropCrate (ns.segments.map String.toList) = ns.segments.map String.toList := by
      cases hss : ns.segments with
      | nil => rfl
      | cons t ts =>
        have hcrate : t.toList ≠ "crate".toList := fun he =>
          h.first (by rw [hss, List.head?_cons, String.toList_injective he])
        exact if_neg hcrate
    rw [parse, hwords, hkept, hback]
  · have hcut : dropCrate ("crate".toList :: ns.segments.map String.toList) =
        ns.segments.map String.toList := by
      rw [dropCrate, if_pos (by decide)]
    rw [parse, pathWords_crate, hwords, hcut, hback]

theorem display_of_ne_root (h : ns ≠ root) : ns.display = "::".intercalate ns.segments :=
  if_neg (mt isRoot_iff.1 h)

theorem qualify_eq (ns : Namespace) (name : String) :
    ns.qualify name = (ns.child name).display := by
  have hchild : (ns.child name).display = "::".intercalate (ns.segments ++ [name]) := by
    rw [display, if_neg (by simp [isRoot]), segments_child]
  rw [hchild]
  by_cases h : ns = root
  · subst h
    exact String.intercalate_singleton.symm
  · have hne : ns.segments ≠ [] := fun hnil => h (congrArg Namespace.mk hnil)
    rw [qualify, if_neg (mt isRoot_iff.1 h), display_of_ne_root h,
      String.intercalate_append_of_ne_nil hne (List.cons_ne_nil name []),
      String.intercalate_singleton]

theorem Plain.parse_display (h : ns.Plain) : parse ns.display = ns := by
  by_cases hroot : ns = root
  · subst hroot
    decide
  · rw [display_of_ne_root hroot]
    exact (h.parse_eq (pathWords_joined h.segments)).1

end Reading

end Namespace

open Namespace

theorem Declaration.parse_qualifiedName {d : Declaration} (h : (d.space.child d.name).Plain) :
    parse d.qualifiedName = d.space.child d.name := by
  rw [qualifiedName, qualify_eq]
  exact h.parse_display

theorem Declaration.qualifiedName_eq_iff {d e : Declaration} (hd : (d.space.child d.name).Plain)
    (he : (e.space.child e.name).Plain) :
    d.qualifiedName = e.qualifiedName ↔ d.space = e.space ∧ d.name = e.name := by
  constructor
  · intro h
    have hchild := congrArg parse h
    rw [parse_qualifiedName hd, parse_qualifiedName he] at hchild
    obtain ⟨hspace, hname⟩ := List.append_inj' (congrArg segments hchild) rfl
    exact ⟨congrArg Namespace.mk hspace, (List.cons.inj hname).1⟩
  · rintro ⟨hspace, hname⟩
    rw [qualifiedName, qualifiedName, hspace, hname]

/-- A namespace is read back from its display and from its segments joined at dots, in either case
also with the name of the crate in front; and so is a namespace and a name from a qualified name,
which no declaration with another namespace or another name has. -/
theorem namespace_reads_back {ns : Namespace} (hns : ns.Plain) {d e : Declaration}
    (hd : (d.space.child d.name).Plain) (he : (e.space.child e.name).Plain) :
    parse ns.display = ns ∧ parse (".".intercalate ns.segments) = ns ∧
      (ns ≠ root → parse ("crate::" ++ ns.display) = ns ∧
        parse ("crate::" ++ ".".intercalate ns.segments) = ns) ∧
      parse d.qualifiedName = d.space.child d.name ∧
      (d.qualifiedName = e.qualifiedName ↔ d.space = e.space ∧ d.name = e.name) := by
  have hdotted := hns.parse_eq (pathWords_dotted hns.segments)
  refine ⟨hns.parse_display, hdotted.1, fun hroot => ⟨?_, hdotted.2⟩,
    d.parse_qualifiedName hd, Declaration.qualifiedName_eq_iff hd he⟩
  rw [display_of_ne_root hroot]
  exact (hns.parse_eq (pathWords_joined hns.segments)).2

namespace Sample

def innerCrate : Namespace := ⟨["com", "crate", "\u00fc ber"]⟩

def innerUser : Declaration := { name := "User", space := innerCrate, kind := .class }

def outerUser : Declaration := { name := "User", space := .root, kind := .class }

end Sample

open Sample in
theorem reads_back_inner_crate :
    parse "com::crate::\u00fc ber" = innerCrate ∧
      parse "crate::com.crate.\u00fc ber" = innerCrate ∧
      parse "com::crate::\u00fc ber::User" = innerCrate.child "User" ∧
      innerUser.qualifiedName ≠ outerUser.qualifiedName := by
  have hplain : innerCrate.Plain := by decide
  have hinner : (innerUser.space.child innerUser.name).Plain := by decide
  have houter : (outerUser.space.child outerUser.name).Plain := by decide
  obtain ⟨hdisplay, -, hcrate, hname, hiff⟩ := namespace_reads_back hplain hinner houter
  have hdotted := (hcrate (by decide)).2
  have hspaces : ¬(innerUser.space = outerUser.space ∧ innerUser.name = outerUser.name) := by
    decide
  exact ⟨hdisplay, hdotted, hname, mt hiff.1 hspaces⟩

end AccessorGen
