/-
  SearchDomain.Proofs.Filter.Unambiguous

  The text of a compiled filter can be read in one way only. Main statement: two
  plain filters compile to the same text exactly when they have the same
  canonical form.
-/
import SearchDomain.Proofs.Filter.Delimited

namespace SearchDomain

open CanonicalFilter (AreReadable wholeChars)

namespace Filter

/-- A plain filter compiles to the text of its canonical form. -/
theorem toList_compile {filter : Filter} (hplain : filter.isPlain = true) :
    filter.compile.toList = wholeChars filter.canonical := by
  cases filter with
  | logic op children =>
    rw [compile, toList_renderSibling, canonical]
    split
    next => rfl
    next first rest _ => rw [CanonicalFilter.wholeChars_node]
  | condition field value =>
    rw [isPlain, Bool.and_eq_true] at hplain
    rw [compile, canonical]
    obtain ⟨hprinted, hnone⟩ | ⟨printed, text, hprinted, htext, hchars⟩ :=
      conditionText_cases field value
    · rw [hprinted, hnone]
      rfl
    · rw [hprinted, htext, Option.getD_some, hchars,
        CanonicalFilter.wholeChars_leaf hplain.1 printed [], CanonicalFilter.allChars_nil,
        List.append_nil]
  | sequence members =>
    rw [compile, Text.toList_trimStart, toList_renderSiblings, canonical, wholeChars]

/-- The compiled text of a plain filter determines its canonical form. -/
theorem canonical_eq_of_compile_eq {f g : Filter} (hf : f.isPlain = true)
    (hg : g.isPlain = true) (h : f.compile = g.compile) : f.canonical = g.canonical := by
  apply CanonicalFilter.wholeChars_inj (areReadable_canonical f hf) (areReadable_canonical g hg)
  rw [← toList_compile hf, ← toList_compile hg, h]

/-- The canonical form of a plain filter determines its compiled text. -/
theorem compile_eq_of_canonical_eq {f g : Filter} (hf : f.isPlain = true)
    (hg : g.isPlain = true) (h : f.canonical = g.canonical) : f.compile = g.compile := by
  rw [← String.toList_inj, toList_compile hf, toList_compile hg, h]

/-- Two filters compile to the same text exactly when they have the same canonical form. -/
theorem compile_eq_compile_iff {f g : Filter} (hf : f.isPlain = true) (hg : g.isPlain = true) :
    f.compile = g.compile ↔ f.canonical = g.canonical :=
  ⟨canonical_eq_of_compile_eq hf hg, compile_eq_of_canonical_eq hf hg⟩

/-- Splicing a sequence and dropping an empty condition leave the text as it is, and a scalar that
looks like a condition is still a scalar. -/
theorem compile_eq_compile_iff_of_spliced :
    (sequence [logic .any [condition "name" (.scalar "it's (a:1)"), condition "x" .empty],
      sequence [condition "count" (.rangeLiteral "5..")]]).isPlain = true ∧
    (sequence [logic .any [sequence [condition "name" (.scalar "it's (a:1)")]],
      condition "count" (.rangeLiteral "5..")]).isPlain = true ∧
    (sequence [logic .any [condition "name" (.scalar "it's (a:1)"), condition "x" .empty],
      sequence [condition "count" (.rangeLiteral "5..")]]).compile =
    (sequence [logic .any [sequence [condition "name" (.scalar "it's (a:1)")]],
      condition "count" (.rangeLiteral "5..")]).compile :=
  ⟨by decide, by decide, (compile_eq_compile_iff (by decide) (by decide)).2 rfl⟩

end Filter

end SearchDomain
