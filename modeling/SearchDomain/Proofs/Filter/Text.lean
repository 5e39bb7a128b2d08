/-
  SearchDomain.Proofs.Filter.Text

  The text of a filter is the text of its canonical form. What is compiled says
  nothing about how a filter was put together: sequences, empty conditions and
  nodes without children leave no trace.

  The text of a canonical form is written here as a function of its own, on
  characters: a condition begins with a space, a node stands in parentheses, and
  a whole filter drops the white space in front.
-/
import Mathlib.Data.List.TakeWhile
import SearchDomain.Filter.Canonical
import SearchDomain.Filter.Compile

namespace SearchDomain

open Text (Quoted.literal isBlank)

/-! ## The text of a canonical form -/

/-- The value as it stands behind the colon. -/
def PrintedValue.chars : PrintedValue → List Char
  | integer text => text.toList
  | rangeLiteral text => text.toList
  | dateRange first last =>
    '[' :: (Quoted.literal first.toList ++ ',' :: (Quoted.literal last.toList ++ [']']))
  | numericRange least greatest =>
    '[' :: (least.toList ++ ',' :: (greatest.toList ++ [']']))
  | scalar text => Quoted.literal text.toList

namespace CanonicalFilter

mutual

/-- A canonical filter among its siblings. -/
def chars : CanonicalFilter → List Char
  | node op children => '(' :: (op.keyword.toList ++ (allChars children ++ [')']))
  | leaf field value => ' ' :: (field.toList ++ ':' :: value.chars)

/-- Canonical siblings back to back. -/
def allChars : List CanonicalFilter → List Char
  | [] => []
  | filter :: rest => chars filter ++ allChars rest

end

/-- Canonical siblings that are a whole filter. -/
def wholeChars (filters : List CanonicalFilter) : List Char :=
  (allChars filters).dropWhile isBlank

@[simp] theorem allChars_nil : allChars [] = [] := rfl

theorem allChars_append (filters more : List CanonicalFilter) :
    allChars (filters ++ more) = allChars filters ++ allChars more := by
  induction filters with
  | nil => rfl
  | cons filter filters ih => simp only [List.cons_append, allChars, ih, List.append_assoc]

@[simp] theorem allChars_singleton (filter : CanonicalFilter) :
    allChars [filter] = filter.chars := by
  simp only [allChars, List.append_nil]

/-- Whatever a canonical filter says, its text has a character that trimming leaves. -/
theorem exists_mem_chars (filter : CanonicalFilter) : ∃ c ∈ filter.chars, isBlank c = false := by
  cases filter with
  | node op children => exact ⟨'(', by simp [chars], by decide⟩
  | leaf field value => exact ⟨':', by simp [chars], by decide⟩

theorem wholeChars_eq_nil_iff {filters : List CanonicalFilter} :
    wholeChars filters = [] ↔ filters = [] := by
  constructor
  · intro h
    cases filters with
    | nil => rfl
    | cons filter filters =>
      obtain ⟨c, hmem, hc⟩ := exists_mem_chars filter
      have hblank := List.dropWhile_eq_nil_iff.1 h c
        (by rw [allChars]; exact List.mem_append_left _ hmem)
      rw [hc] at hblank
      exact absurd hblank Bool.false_ne_true
  · rintro rfl
    rfl

theorem allChars_eq_nil_iff {filters : List CanonicalFilter} :
    allChars filters = [] ↔ filters = [] := by
  constructor
  · intro h
    exact wholeChars_eq_nil_iff.1 (by rw [wholeChars, h]; rfl)
  · rintro rfl
    rfl

/-- A node in front is set off by its parenthesis. -/
theorem wholeChars_node (op : Connective) (children rest : List CanonicalFilter) :
    wholeChars (node op children :: rest) = allChars (node op children :: rest) := by
  simp only [wholeChars, allChars, chars, List.cons_append]
  rw [List.dropWhile_cons_of_neg (by decide)]

end CanonicalFilter

open CanonicalFilter (allChars wholeChars)

/-! ## Siblings -/

/-- A value is rendered as its kind and its printed texts say. -/
theorem FilterValue.map_toList_render (value : FilterValue) :
    value.render.map String.toList = value.printed?.map PrintedValue.chars := by
  unfold render printed?
  split
  · rfl
  · cases value <;> simp [PrintedValue.chars, Text.toList_quote]

namespace Filter

theorem map_toList_conditionText (field : String) (value : FilterValue) :
    (conditionText field value).map String.toList =
      value.printed?.map fun printed => field.toList ++ ':' :: printed.chars := by
  calc (conditionText field value).map String.toList
      = (value.render.map String.toList).map fun cs => field.toList ++ ':' :: cs := by
        simp [conditionText, Option.map_map, Function.comp_def]
    _ = (value.printed?.map PrintedValue.chars).map fun cs => field.toList ++ ':' :: cs := by
        rw [value.map_toList_render]
    _ = value.printed?.map fun printed => field.toList ++ ':' :: printed.chars := by
        rw [Option.map_map, Function.comp_def]

/-- A condition has a text exactly when its value prints, and then the field stands in front. -/
theorem conditionText_cases (field : String) (value : FilterValue) :
    value.printed? = none ∧ conditionText field value = none ∨
      ∃ printed text, value.printed? = some printed ∧ conditionText field value = some text ∧
        text.toList = field.toList ++ ':' :: printed.chars := by
  have hcondition := map_toList_conditionText field value
  cases hprinted : value.printed? with
  | none =>
    rw [hprinted, Option.map_none, Option.map_eq_none_iff] at hcondition
    exact .inl ⟨rfl, hcondition⟩
  | some printed =>
    rw [hprinted, Option.map_some] at hcondition
    obtain ⟨text, htext, hchars⟩ := Option.map_eq_some_iff.1 hcondition
    exact .inr ⟨printed, text, rfl, htext, hchars⟩

mutual

/-- A filter among its siblings has the text of its canonical form. -/
theorem toList_renderSibling (filter : Filter) :
    filter.renderSibling.toList = allChars filter.canonical := by
  match filter with
  | logic op children =>
    have ih := toList_renderSiblings children
    simp only [renderSibling, canonical]
    cases hchildren : canonicalAll children with
    | nil =>
      -- a node whose children say nothing says nothing
      rw [hchildren, allChars] at ih
      have hempty : renderSiblings children = "" := String.toList_inj.1 ih
      rw [if_pos hempty]
      rfl
    | cons first rest =>
      have hne : renderSiblings children ≠ "" := by
        intro hempty
        rw [hempty, hchildren] at ih
        exact List.cons_ne_nil _ _ (CanonicalFilter.allChars_eq_nil_iff.1 ih.symm)
      rw [if_neg hne]
      simp [CanonicalFilter.chars, ih, hchildren]
  | condition field value =>
    rw [renderSibling, canonical]
    obtain ⟨hprinted, hnone⟩ | ⟨printed, text, hprinted, htext, hchars⟩ :=
      conditionText_cases field value
    · rw [hprinted, hnone]
      rfl
    · rw [hprinted, htext]
      simp [CanonicalFilter.chars, hchars]
  | sequence members => exact toList_renderSiblings members

/-- Filters back to back have the text of their canonical form. -/
theorem toList_renderSiblings (filters : List Filter) :
    (renderSiblings filters).toList = allChars (canonicalAll filters) := by
  match filters with
  | [] => rfl
  | filter :: rest =>
    rw [renderSiblings, canonicalAll, String.toList_append, toList_renderSibling filter,
      toList_renderSiblings rest, CanonicalFilter.allChars_append]

end

/-! ## Nothing at all -/

/-- A filter leaves no text among its siblings exactly when its canonical form is empty. -/
theorem renderSibling_eq_empty_iff {filter : Filter} :
    filter.renderSibling = "" ↔ filter.canonical = [] := by
  rw [← String.toList_eq_nil_iff, toList_renderSibling, CanonicalFilter.allChars_eq_nil_iff]

/-- A filter compiles to nothing exactly when its canonical form is empty. -/
theorem compile_eq_empty_iff {filter : Filter} : filter.compile = "" ↔ filter.canonical = [] := by
  cases filter with
  | logic op children => exact renderSibling_eq_empty_iff
  | condition field value =>
    rw [compile, canonical]
    obtain ⟨hprinted, hnone⟩ | ⟨printed, text, hprinted, htext, hchars⟩ :=
      conditionText_cases field value
    · rw [hprinted, hnone]
      exact ⟨fun _ => rfl, fun _ => rfl⟩
    · -- the colon behind the field is there whatever the field is
      have hne : text ≠ "" := by
        rintro rfl
        exact absurd hchars.symm (by simp)
      rw [hprinted, htext]
      exact ⟨fun h => absurd h hne, fun h => absurd h (List.cons_ne_nil _ _)⟩
  | sequence members =>
    rw [← String.toList_eq_nil_iff, compile, Text.toList_trimStart, toList_renderSiblings, canonical]
    exact CanonicalFilter.wholeChars_eq_nil_iff

end Filter

end SearchDomain
