import AccessorGen.Proofs.File.Rewriting

/-! The rest of a path below a base, and the path above one, by their components: the components of
the base and of the rest are those of the path, and a path that ends in a name has a path above it
with all components but that name. -/

namespace AccessorGen.Path

variable {p base below : Path} {front : Option (List Char)} {body : List (List Char)}

theorem filterMap_dropComponents (n : Nat) (body : List (List Char)) :
    (dropComponents n body).filterMap Component.ofPiece? =
      (body.filterMap Component.ofPiece?).drop n := by
  induction body generalizing n with
  | nil => cases n <;> rfl
  | cons piece body ih =>
    cases n with
    | zero => exact filterMap_dropWhile_idle (piece :: body)
    | succ n =>
      unfold dropComponents
      split
      next hidle => rw [ih, List.filterMap_cons_none (ofPiece?_of_idle.2 hidle)]
      next hidle =>
        obtain ⟨c, hc⟩ : ∃ c, Component.ofPiece? piece = some c :=
          Option.ne_none_iff_exists'.1 (mt ofPiece?_of_idle.1 hidle)
        rw [ih, List.filterMap_cons_some hc, List.drop_succ_cons]

theorem dropComponents_back (n : Nat) (body : List (List Char)) :
    dropComponents n body <:+ body := by
  induction body generalizing n with
  | nil => cases n <;> exact List.suffix_rfl
  | cons piece body ih =>
    cases n with
    | zero => exact List.dropWhile_suffix _
    | succ n =>
      unfold dropComponents
      split
      · exact (ih (n + 1)).trans (List.suffix_cons piece body)
      · exact (ih n).trans (List.suffix_cons piece body)

theorem idle_of_head_dropComponents {n : Nat} {q : List Char}
    (h : q ∈ (dropComponents n body).head?) : idle q = false := by
  induction body generalizing n with
  | nil => cases n <;> cases h
  | cons piece body ih =>
    cases n with
    | zero =>
      have hhead := List.head?_dropWhile_not idle (piece :: body)
      rw [show ((piece :: body).dropWhile idle).head? = some q from h] at hhead
      simpa using hhead
    | succ n =>
      unfold dropComponents at h
      split at h
      · exact ih h
      · exact ih h

theorem isLead_dropComponents (h : IsLead front body) (n : Nat) :
    IsLead none (dropComponents n body) := by
  refine ⟨.inl rfl, fun q hq => h.pieces q ((dropComponents_back n body).subset hq), ?_⟩
  intro _ q hq
  have hidle := idle_of_head_dropComponents hq
  simpa [idle] using hidle

theorem length_frontComponents (front : Option (List Char)) :
    (frontComponents front).length = front.toList.length := by
  unfold frontComponents
  split
  · rfl
  · split <;> rfl

theorem components_relativeTo (h : p.relativeTo base = some below) :
    p.components = base.components ++ below.components := by
  have hlead := isLead_lead p.text.toList
  have hcomponents : p.components = _ := components_lead p.text.toList
  unfold relativeTo at h
  cases hl : lead p.text.toList with
  | mk front body =>
    rw [hl] at h hlead hcomponents
    dsimp only at h hlead hcomponents
    split at h
    next hprefix =>
      obtain ⟨rest, hrest⟩ := List.isPrefixOf_iff_prefix.1 hprefix
      obtain rfl := Option.some.inj h
      rw [← hrest, List.append_cancel_left_eq, components, String.toList_ofList]
      split
      next hzero =>
        rw [List.length_eq_zero_iff.1 hzero, List.nil_append] at hrest
        rw [hrest, hcomponents, components_glue (hlead.of_front (trimIdleEnd_front body)),
          filterMap_trimIdleEnd]
      next hpos =>
        -- the base takes up the front, so only pieces are dropped
        have hfront : (frontComponents front).length ≤ base.components.length := by
          have hone : (frontComponents front).length ≤ 1 := by
            rw [length_frontComponents]
            cases front <;> simp
          exact Nat.le_trans hone (Nat.pos_of_ne_zero hpos)
        have hdrop := isLead_dropComponents hlead (base.components.length - front.toList.length)
        rw [components_glue (hdrop.of_front (trimIdleEnd_front _)), filterMap_trimIdleEnd,
          filterMap_dropComponents, ← length_frontComponents]
        have hrest' := congrArg (List.drop base.components.length) (hrest.trans hcomponents)
        rw [List.drop_append_length, List.drop_append, List.drop_eq_nil_of_le hfront] at hrest'
        exact hrest'
    · cases h

theorem exists_parent {s : List Char} (h : p.components.getLast? = some (.name s)) :
    ∃ q, p.parent = some q := by
  have hcomponents : p.components = _ := components_lead p.text.toList
  have hlead := isLead_lead p.text.toList
  unfold parent
  cases hl : lead p.text.toList with
  | mk front body =>
    rw [hl] at hlead hcomponents
    dsimp only at hlead hcomponents ⊢
    split
    · exact ⟨_, rfl⟩
    next hnil =>
      -- without a body there is no name
      have hbody : trimIdleEnd body = [] := List.reverse_eq_nil_iff.1 hnil
      rw [← filterMap_trimIdleEnd, hbody, List.filterMap_nil, List.append_nil] at hcomponents
      rw [hcomponents] at h
      rcases hlead.shape with rfl | rfl | rfl
      · cases h
      · cases Option.some.inj h
      · cases Option.some.inj h

end AccessorGen.Path
