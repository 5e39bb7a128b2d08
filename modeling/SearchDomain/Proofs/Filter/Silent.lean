/-
  SearchDomain.Proofs.Filter.Silent

  Filters that say nothing. A value says nothing when it is missing, an empty
  text, or a range without two finite bounds; a filter says nothing when all of
  its conditions do, however deep they stand. Such a filter leaves no text where
  it stands, and no other filter does.
-/
import SearchDomain.Proofs.Filter.Text

namespace SearchDomain

/-! ## Values -/

/-- The numbers that are not finite: those that are no number, and the two infinities. -/
inductive Binary64.IsSpecial : Binary64 → Prop
  | nan {x : Binary64} (h : x.isNaN = true) : IsSpecial x
  | infinity (negative : Bool) : IsSpecial (Binary64.infinity negative)

theorem Binary64.isFinite_eq_false_iff {x : Binary64} : x.isFinite = false ↔ x.IsSpecial := by
  rw [isFinite, decide_eq_false_iff_not]
  constructor
  · intro h
    -- of the magnitudes that are not finite, the least is infinity and all others are NaN
    by_cases hinfinite : x.magnitude = infinityMagnitude
    · have hx : x = Binary64.infinity x.negative := by
        rw [Binary64.infinity, ← hinfinite]
      rw [hx]
      exact .infinity x.negative
    · exact .nan (decide_eq_true (by omega))
  · rintro (h | negative)
    · have hlt : infinityMagnitude < x.magnitude := of_decide_eq_true h
      omega
    · exact Nat.lt_irrefl _

/-- The values that say nothing. -/
inductive FilterValue.SaysNothing : FilterValue → Prop
  | empty : SaysNothing .empty
  | scalar : SaysNothing (.scalar "")
  | rangeLiteral : SaysNothing (.rangeLiteral "")
  | least {least : Binary64} (greatest : Binary64) (h : least.IsSpecial) :
    SaysNothing (.numericRange least greatest)
  | greatest (least : Binary64) {greatest : Binary64} (h : greatest.IsSpecial) :
    SaysNothing (.numericRange least greatest)

theorem FilterValue.isEmpty_iff {value : FilterValue} :
    value.isEmpty = true ↔ value.SaysNothing := by
  constructor
  · intro h
    cases value with
    | integer n => cases h
    | dateRange first last => cases h
    | empty => exact .empty
    | scalar text =>
      obtain rfl : text = "" := String.isEmpty_iff.1 h
      exact .scalar
    | rangeLiteral text =>
      obtain rfl : text = "" := String.isEmpty_iff.1 h
      exact .rangeLiteral
    | numericRange least greatest =>
      rw [isEmpty, Bool.or_eq_true, Bool.not_eq_true', Bool.not_eq_true'] at h
      rcases h with h | h
      · exact .least greatest (Binary64.isFinite_eq_false_iff.1 h)
      · exact .greatest least (Binary64.isFinite_eq_false_iff.1 h)
  · rintro (_ | _ | _ | ⟨greatest, h⟩ | ⟨least, h⟩)
    · rfl
    · rfl
    · rfl
    · rw [isEmpty, Binary64.isFinite_eq_false_iff.2 h]
      rfl
    · rw [isEmpty, Binary64.isFinite_eq_false_iff.2 h, Bool.not_false, Bool.or_true]

theorem FilterValue.printed?_eq_none_iff {value : FilterValue} :
    value.printed? = none ↔ value.isEmpty = true := by
  rw [← render_eq_none_iff, ← Option.map_eq_none_iff (f := PrintedValue.chars),
    ← map_toList_render, Option.map_eq_none_iff]

namespace Filter

/-! ## What stands in a filter -/

/-- Whether a filter is another one or stands in it, at any depth. -/
inductive Within (part : Filter) : Filter → Prop
  | self : Within part part
  | inside {whole child : Filter} (hchild : child ∈ whole.children) (h : Within part child) :
    Within part whole

/-- Whether every condition in a filter says nothing. -/
def EachSaysNothing (filter : Filter) : Prop :=
  ∀ field value, Within (condition field value) filter → value.SaysNothing

theorem allSayNothing_iff {filters : List Filter} :
    allSayNothing filters = true ↔ ∀ filter ∈ filters, filter.saysNothing = true := by
  induction filters with
  | nil => simp [allSayNothing]
  | cons filter filters ih => rw [allSayNothing, Bool.and_eq_true, ih, List.forall_mem_cons]

/-- What stands directly in a filter that says nothing says nothing. -/
theorem saysNothing_of_mem_children {filter child : Filter} (h : filter.saysNothing = true)
    (hchild : child ∈ filter.children) : child.saysNothing = true := by
  cases filter with
  | logic op children => exact allSayNothing_iff.1 h child hchild
  | condition field value => cases hchild
  | sequence members => exact allSayNothing_iff.1 h child hchild

theorem saysNothing_of_within {part whole : Filter} (hpart : Within part whole)
    (h : whole.saysNothing = true) : part.saysNothing = true := by
  induction hpart with
  | self => exact h
  | inside hchild _ ih => exact ih (saysNothing_of_mem_children h hchild)

theorem EachSaysNothing.of_mem_children {filter child : Filter} (h : filter.EachSaysNothing)
    (hchild : child ∈ filter.children) : child.EachSaysNothing :=
  fun field value hwithin => h field value (.inside hchild hwithin)

theorem saysNothing_of_each (filter : Filter) (h : filter.EachSaysNothing) :
    filter.saysNothing = true := by
  -- what stands in a child stands in the filter, so the hypothesis goes down with the recursion
  match filter with
  | logic op children =>
    exact allSayNothing_iff.2 fun child hchild =>
      saysNothing_of_each child (h.of_mem_children hchild)
  | condition field value => exact FilterValue.isEmpty_iff.2 (h field value .self)
  | sequence members =>
    exact allSayNothing_iff.2 fun member hmember =>
      saysNothing_of_each member (h.of_mem_children hmember)

theorem saysNothing_iff {filter : Filter} :
    filter.saysNothing = true ↔ filter.EachSaysNothing :=
  ⟨fun h _ _ hwithin => FilterValue.isEmpty_iff.1 (saysNothing_of_within hwithin h),
    saysNothing_of_each filter⟩

/-! ## What leaves no text -/

mutual

theorem canonical_eq_nil_iff (filter : Filter) :
    filter.canonical = [] ↔ filter.saysNothing = true := by
  match filter with
  | logic op children =>
    rw [canonical, saysNothing, ← canonicalAll_eq_nil_iff children]
    -- a node is there as soon as one of its children is
    cases canonicalAll children with
    | nil => exact ⟨fun _ => rfl, fun _ => rfl⟩
    | cons first rest => exact ⟨nofun, nofun⟩
  | condition field value =>
    rw [canonical, saysNothing, ← FilterValue.printed?_eq_none_iff]
    cases value.printed? with
    | none => exact ⟨fun _ => rfl, fun _ => rfl⟩
    | some printed => exact ⟨nofun, nofun⟩
  | sequence members => exact canonicalAll_eq_nil_iff members

theorem canonicalAll_eq_nil_iff (filters : List Filter) :
    canonicalAll filters = [] ↔ allSayNothing filters = true := by
  match filters with
  | [] => exact ⟨fun _ => rfl, fun _ => rfl⟩
  | filter :: rest =>
    rw [canonicalAll, allSayNothing, List.append_eq_nil_iff, Bool.and_eq_true,
      canonical_eq_nil_iff filter, canonicalAll_eq_nil_iff rest]

end

theorem renderSiblings_append (filters more : List Filter) :
    renderSiblings (filters ++ more) = renderSiblings filters ++ renderSiblings more := by
  induction filters with
  | nil => rw [List.nil_append, renderSiblings, String.empty_append]
  | cons filter filters ih =>
    rw [List.cons_append, renderSiblings, renderSiblings, ih, String.append_assoc]

/-- Among siblings, a filter leaves no text exactly when each of its conditions says nothing. -/
theorem renderSibling_eq_empty_iff_each {filter : Filter} :
    filter.renderSibling = "" ↔ filter.EachSaysNothing := by
  rw [renderSibling_eq_empty_iff, canonical_eq_nil_iff, saysNothing_iff]

/-- On its own, a filter leaves no text exactly when each of its conditions says nothing. -/
theorem compile_eq_empty_iff_each {filter : Filter} :
    filter.compile = "" ↔ filter.EachSaysNothing := by
  rw [compile_eq_empty_iff, canonical_eq_nil_iff, saysNothing_iff]

/-- Siblings have the same text with and without one exactly when it says nothing. -/
theorem renderSiblings_eq_iff_each (before after : List Filter) {part : Filter} :
    renderSiblings (before ++ part :: after) = renderSiblings (before ++ after) ↔
      part.EachSaysNothing := by
  rw [renderSiblings_append, renderSiblings_append, String.append_right_inj, renderSiblings,
    String.append_eq_right_iff, renderSibling_eq_empty_iff_each]

end Filter

end SearchDomain
