/-
  SearchDomain.Proofs.Filter.Rearrangement

  Rearranging a filter without changing what it says. A sequence may be put around
  a filter or spliced into what it stands in, and a part that says nothing may be
  added or taken away, at any depth. None of this changes the text of the filter
  among siblings.

  Main statement: rearranged filters compile to the same text up to white space in
  front, and to the very same text exactly when both or none of them is a condition
  on a field that begins with white space.
-/
import Mathlib.Logic.Relation
import SearchDomain.Proofs.Filter.Place

namespace SearchDomain

/-- Whether a JSON value is one for nothing: null, or an empty text. -/
inductive Json.IsVoid : Json → Prop
  | null : IsVoid .null
  | emptyText : IsVoid (.string "")

theorem Json.IsVoid.standsFor_empty {json : Json} (h : json.IsVoid) : json.StandsFor .empty := by
  cases h with
  | null => exact .null
  | emptyText => exact .string ""

namespace Filter

open Text (trimStart)
open Relation (EqvGen)

/-! ## Rearranging -/

/-- Filters under an operator, or side by side under none. -/
def group : Option Connective → List Filter → Filter
  | some op, children => logic op children
  | none, members => sequence members

/-- One step of rearranging a filter. -/
inductive Rearranges : Filter → Filter → Prop
  /-- A sequence is put around the whole. -/
  | wrap (filter : Filter) : Rearranges filter (sequence [filter])
  /-- A sequence is spliced into what it stands in. -/
  | splice (op : Option Connective) (before members after : List Filter) :
    Rearranges (group op (before ++ sequence members :: after))
      (group op (before ++ (members ++ after)))
  /-- A part that says nothing is added. -/
  | add (op : Option Connective) (before after : List Filter) {part : Filter}
    (h : part.EachSaysNothing) :
    Rearranges (group op (before ++ after)) (group op (before ++ part :: after))
  /-- A child is rearranged. -/
  | inside (op : Option Connective) (before after : List Filter) {child child' : Filter}
    (h : Rearranges child child') :
    Rearranges (group op (before ++ child :: after)) (group op (before ++ child' :: after))

/-- A group has the text that those of its members make up. -/
theorem renderSibling_group_congr (op : Option Connective) {filters others : List Filter}
    (h : renderSiblings filters = renderSiblings others) :
    (group op filters).renderSibling = (group op others).renderSibling := by
  cases op with
  | none => exact h
  | some op => rw [group, group, renderSibling, renderSibling, h]

/-- Among siblings, one step of rearranging leaves the text as it is. -/
theorem renderSibling_eq_of_rearranges {filter other : Filter} (h : Rearranges filter other) :
    filter.renderSibling = other.renderSibling := by
  induction h with
  | wrap filter => rw [renderSibling, renderSiblings, renderSiblings, String.append_empty]
  | splice op before members after =>
    apply renderSibling_group_congr
    rw [renderSiblings_append, renderSiblings_append, renderSiblings_append, renderSiblings,
      renderSibling]
  | add op before after hpart =>
    exact renderSibling_group_congr op ((renderSiblings_eq_iff_each before after).2 hpart).symm
  | inside op before after _ ih =>
    apply renderSibling_group_congr
    rw [renderSiblings_append, renderSiblings_append, renderSiblings, renderSiblings, ih]

/-- Among siblings, any number of steps in both directions leaves the text as it is. -/
theorem renderSibling_eq_of_eqvGen {filter other : Filter}
    (h : EqvGen Rearranges filter other) : filter.renderSibling = other.renderSibling := by
  induction h with
  | rel _ _ h => exact renderSibling_eq_of_rearranges h
  | refl _ => rfl
  | symm _ _ _ ih => exact ih.symm
  | trans _ _ _ _ _ ih ih' => exact ih.trans ih'

/-! ## Whole filters -/

/-- Rearranged filters compile to the same text up to white space in front, and to the same text
exactly when both or none of them is a condition that begins with white space. So does a document
with a member for nothing added, wherever it is added: it is read if the document is, and compiles
to the same text exactly when the document is no such condition. -/
theorem compile_rearranged (filter : Filter) :
    (∀ other, EqvGen Rearranges filter other →
      trimStart filter.compile = trimStart other.compile ∧
      (filter.compile = other.compile ↔ (filter.BeginsBlank ↔ other.BeginsBlank))) ∧
    ∀ (place : Place (String × Json)) name json, json.IsVoid →
      ofJson (.object (place.fillMembers [])) = .ok filter →
      ∃ filter', ofJson (.object (place.fillMembers [(name, json)])) = .ok filter' ∧
        trimStart filter'.compile = trimStart filter.compile ∧
        (filter'.compile = filter.compile ↔ ¬filter.BeginsBlank) := by
  constructor
  · intro other h
    exact compile_of_renderSibling_eq (renderSibling_eq_of_eqvGen h)
  · intro place name json hvoid hfilter
    obtain ⟨place', inner, hinner, hjoined, hread⟩ := exists_ofJson_fillMembers hfilter
    cases hinner
    obtain ⟨filter', hfilter', hjoined'⟩ :=
      hread [(name, json)] [condition name .empty] (.cons (.condition hvoid.standsFor_empty) .nil)
    have hsilent : (condition name .empty).EachSaysNothing := saysNothing_iff.1 rfl
    have hsiblings : renderSiblings [condition name .empty] = renderSiblings [] :=
      (renderSiblings_eq_iff_each [] []).2 hsilent
    have hrender : filter'.renderSibling = filter.renderSibling := by
      rw [hjoined'.renderSibling_eq, hjoined.renderSibling_eq,
        renderSiblings_fillFilters_congr hsiblings]
    have hnotBlank : ¬filter'.BeginsBlank := by
      rw [hjoined'.beginsBlank_iff]
      rintro ⟨-, hvalue, -, -⟩
      exact hvalue .empty
    obtain ⟨htrimmed, hsame⟩ := compile_of_renderSibling_eq hrender
    refine ⟨filter', hfilter', htrimmed, hsame.trans ?_⟩
    exact ⟨fun h hblank => hnotBlank (h.2 hblank), iff_of_false hnotBlank⟩

/-- A nested sequence is spliced and an empty node put in its place, and the text is the same,
although fields begin with white space; so is that of a document whose operator gets one more
member. -/
theorem compile_rearranged_of_nested :
    EqvGen Rearranges
      (logic .all [condition " a" (.integer 1), sequence [condition " b" (.scalar "x")]])
      (logic .all [condition " a" (.integer 1), condition " b" (.scalar "x"), logic .any []]) ∧
    (logic .all [condition " a" (.integer 1), sequence [condition " b" (.scalar "x")]]).compile =
      (logic .all [condition " a" (.integer 1), condition " b" (.scalar "x"),
        logic .any []]).compile ∧
    Json.IsVoid .null ∧
    ofJson (.object [("not", .object [(" a", .bool true)])]) =
      .ok (logic .negation [condition " a" (.ofBool true)]) ∧
    ∃ filter',
      ofJson (.object [("not", .object [("b", .null), (" a", .bool true)])]) = .ok filter' ∧
      filter'.compile = (logic .negation [condition " a" (.ofBool true)]).compile := by
  have hsteps : EqvGen Rearranges
      (logic .all [condition " a" (.integer 1), sequence [condition " b" (.scalar "x")]])
      (logic .all [condition " a" (.integer 1), condition " b" (.scalar "x"), logic .any []]) :=
    .trans _ _ _
      (.rel _ _
        (.splice (some .all) [condition " a" (.integer 1)] [condition " b" (.scalar "x")] []))
      (.rel _ _ (.add (some .all) [condition " a" (.integer 1), condition " b" (.scalar "x")] []
        (saysNothing_iff.1 rfl)))
  have hplain : ofJson (.object [("not", .object [(" a", .bool true)])]) =
      .ok (logic .negation [condition " a" (.ofBool true)]) := rfl
  obtain ⟨filter', hfilter', -, hsame⟩ := (compile_rearranged _).2
    (.behind [] [] .negation (.among [] [(" a", .bool true)])) "b" .null .null hplain
  exact ⟨hsteps, ((compile_rearranged _).1 _ hsteps).2.2 (iff_of_false nofun nofun), .null, hplain,
    filter', hfilter', hsame.2 nofun⟩

/-- A condition on a field that begins with white space does not compile to the same text with a
sequence around it, nor does the document that describes it with a member for nothing added. -/
theorem wrapped_blankField_ne :
    (sequence [condition " a" (.scalar "x")]).compile ≠ (condition " a" (.scalar "x")).compile ∧
    ofJson (.object [(" a", .string "x")]) = .ok (condition " a" (.scalar "x")) ∧
    ofJson (.object [(" a", .string "x"), ("b", .null)]) =
      .ok (sequence [condition " a" (.scalar "x"), condition "b" .empty]) ∧
    (sequence [condition " a" (.scalar "x"), condition "b" .empty]).compile ≠
      (condition " a" (.scalar "x")).compile := by
  have htext : FilterValue.ofText "x" = .scalar "x" := by decide
  have hfield : MemberDescribes " a" (.string "x") (condition " a" (.scalar "x")) :=
    .condition (htext ▸ .string "x")
  refine ⟨by decide, ?_, ?_, by decide⟩
  · exact ofJson_of_describes (.single (.cons hfield .nil))
  · exact ofJson_of_describes (.several (by decide) (.cons hfield (.cons (.condition .null) .nil)))

end Filter

end SearchDomain
