/-
  SearchDomain.Proofs.Filter.Delimited

  Values, conditions, nodes and runs of siblings mark their own end: two texts
  that begin with one of them agree only if it and what follows it agree.

  This needs field names that cannot be taken for anything else, and range
  literals that are numeric ranges; filters with these are called plain, and
  their canonical forms readable. Scalars may hold any text.
-/
import SearchDomain.Proofs.Filter.Text
import SearchDomain.Proofs.Number.Text
import SearchDomain.Proofs.Text.Quoted
import SearchDomain.Proofs.Text.Split

namespace SearchDomain

open Text (Quoted.literal Quoted.literal_append_inj StopsAt isBlank append_inj_of_stopsAt
  takeWhile_append_of_stopsAt)

/-! ## Plain filters -/

/-- Whether a field name has no white space, parenthesis, colon or single quote. -/
def isPlainField (field : String) : Bool :=
  field.toList.all fun c => !(isBlank c || c = '(' || c = ')' || c = ':' || c = '\'')

/-- Whether a value is no range literal or one that is a numeric range. -/
def FilterValue.isPlain : FilterValue → Bool
  | rangeLiteral text => isRangeLiteral text
  | _ => true

theorem of_mem_plainField {field : String} (hfield : isPlainField field = true) {c : Char}
    (hc : c ∈ field.toList) :
    isBlank c = false ∧ c ≠ '(' ∧ c ≠ ')' ∧ c ≠ ':' ∧ c ≠ '\'' := by
  have h := List.all_eq_true.1 hfield c hc
  simpa [not_or, and_assoc] using h

namespace Filter

mutual

/-- Whether the field and the value of every condition of a filter are plain. -/
def isPlain : Filter → Bool
  | logic _ children => arePlain children
  | condition field value => isPlainField field && value.isPlain
  | sequence members => arePlain members

/-- Whether the field and the value of every condition of some filters are plain. -/
def arePlain : List Filter → Bool
  | [] => true
  | filter :: rest => isPlain filter && arePlain rest

end

end Filter

/-! ## Plain canonical forms -/

/-- Whether the texts of a value are such as values of its kind print. -/
def PrintedValue.IsReadable : PrintedValue → Prop
  | integer text => text ≠ "" ∧ ∀ c ∈ text.toList, isNumberChar c = true ∧ c ≠ '.'
  | rangeLiteral text => FilterValue.isRangeLiteral text = true
  | dateRange _ _ => True
  | numericRange least greatest =>
    (∀ c ∈ least.toList, isNumberChar c = true) ∧ ∀ c ∈ greatest.toList, isNumberChar c = true
  | scalar _ => True

namespace CanonicalFilter

mutual

/-- Whether every field is plain and every value has texts of its kind. -/
def IsReadable : CanonicalFilter → Prop
  | node _ children => AreReadable children
  | leaf field value => isPlainField field = true ∧ value.IsReadable

/-- Whether siblings are readable. -/
def AreReadable : List CanonicalFilter → Prop
  | [] => True
  | filter :: rest => IsReadable filter ∧ AreReadable rest

end

theorem areReadable_append {filters more : List CanonicalFilter} (hfilters : AreReadable filters)
    (hmore : AreReadable more) : AreReadable (filters ++ more) := by
  induction filters with
  | nil => exact hmore
  | cons filter filters ih => exact ⟨hfilters.1, ih hfilters.2⟩

end CanonicalFilter

open CanonicalFilter (AreReadable allChars wholeChars)

/-- What a plain value prints is of its kind. -/
theorem FilterValue.isReadable_of_printed? {value : FilterValue} {printed : PrintedValue}
    (hplain : value.isPlain = true) (h : value.printed? = some printed) :
    printed.IsReadable := by
  unfold printed? at h
  split at h
  next => cases h
  next hempty =>
    cases value with
    | integer n =>
      obtain rfl := Option.some.inj h
      exact ⟨toString_int_ne_empty _, fun c hc => isNumberChar_of_mem_toString_int hc⟩
    | rangeLiteral text =>
      obtain rfl := Option.some.inj h
      exact hplain
    | dateRange first last =>
      obtain rfl := Option.some.inj h
      trivial
    | numericRange least greatest =>
      obtain rfl := Option.some.inj h
      have hfinite : least.isFinite = true ∧ greatest.isFinite = true := by
        simpa [isEmpty] using hempty
      exact ⟨fun c hc => Binary64.isNumberChar_of_mem_plainText hfinite.1 hc,
        fun c hc => Binary64.isNumberChar_of_mem_plainText hfinite.2 hc⟩
    | scalar text =>
      obtain rfl := Option.some.inj h
      trivial
    | empty => cases h

namespace Filter

mutual

/-- The canonical form of a plain filter is readable. -/
theorem areReadable_canonical (filter : Filter) (h : filter.isPlain = true) :
    AreReadable filter.canonical := by
  match filter with
  | logic op children =>
    have ih := areReadable_canonicalAll children h
    rw [canonical]
    split
    next => trivial
    next first rest hchildren =>
      rw [hchildren] at ih
      exact ⟨ih, trivial⟩
  | condition field value =>
    rw [isPlain, Bool.and_eq_true] at h
    rw [canonical]
    split
    next printed hp => exact ⟨⟨h.1, FilterValue.isReadable_of_printed? h.2 hp⟩, trivial⟩
    next => trivial
  | sequence members => exact areReadable_canonicalAll members h

theorem areReadable_canonicalAll (filters : List Filter) (h : arePlain filters = true) :
    AreReadable (canonicalAll filters) := by
  match filters with
  | [] => trivial
  | filter :: rest =>
    rw [arePlain, Bool.and_eq_true] at h
    exact CanonicalFilter.areReadable_append (areReadable_canonical filter h.1)
      (areReadable_canonicalAll rest h.2)

end

end Filter

/-! ## Values -/

/-- Whether a character ends a value: what follows is a condition, a node, or the end of one. -/
def isBorder (c : Char) : Bool :=
  c = ' ' || c = '(' || c = ')'

theorem isBorder_of_isNumberChar {c : Char} (h : isNumberChar c = true) : isBorder c = false := by
  have hspace : c ≠ ' ' := ne_of_isNumberChar h (by decide)
  have hopen : c ≠ '(' := ne_of_isNumberChar h (by decide)
  have hclose : c ≠ ')' := ne_of_isNumberChar h (by decide)
  simp [isBorder, hspace, hopen, hclose]

namespace PrintedValue

/-- The kinds of values. -/
inductive Kind where
  | integer
  | rangeLiteral
  | dateRange
  | numericRange
  | scalar

def kind : PrintedValue → Kind
  | integer _ => .integer
  | rangeLiteral _ => .rangeLiteral
  | dateRange _ _ => .dateRange
  | numericRange _ _ => .numericRange
  | scalar _ => .scalar

/-- The kind of the value that a text begins with. -/
def kindOfChars : List Char → Kind
  | '\'' :: _ => .scalar
  | '[' :: '\'' :: _ => .dateRange
  | '[' :: _ => .numericRange
  | cs => if '.' ∈ cs.takeWhile (fun c => !isBorder c) then .rangeLiteral else .integer

/-- Without a bracket or a quote in front, the point tells a range literal from a whole number. -/
theorem kindOfChars_number {cs rest : List Char} (hne : cs ≠ [])
    (hcs : ∀ c ∈ cs, isNumberChar c = true) (hrest : StopsAt isBorder rest) :
    kindOfChars (cs ++ rest) = if '.' ∈ cs then .rangeLiteral else .integer := by
  have htake :=
    takeWhile_append_of_stopsAt (fun c hc => isBorder_of_isNumberChar (hcs c hc)) hrest
  cases cs with
  | nil => exact absurd rfl hne
  | cons c cs =>
    have hc := hcs c List.mem_cons_self
    have hquote : c ≠ '\'' := ne_of_isNumberChar hc (by decide)
    have hbracket : c ≠ '[' := ne_of_isNumberChar hc (by decide)
    rw [List.cons_append] at htake ⊢
    rw [kindOfChars, htake]
    · intro _ h
      exact hquote (List.cons.inj h).1
    · intro _ h
      exact hbracket (List.cons.inj h).1
    · intro _ h
      exact hbracket (List.cons.inj h).1

/-- The kind of a value shows in its text. -/
theorem kindOfChars_chars_append {value : PrintedValue} {rest : List Char}
    (hvalue : value.IsReadable) (hrest : StopsAt isBorder rest) :
    kindOfChars (value.chars ++ rest) = value.kind := by
  cases value with
  | integer text =>
    have hne : text.toList ≠ [] := by simpa using hvalue.1
    have hpoint : '.' ∉ text.toList := fun h => (hvalue.2 _ h).2 rfl
    rw [chars, kindOfChars_number hne (fun c hc => (hvalue.2 c hc).1) hrest, if_neg hpoint, kind]
  | rangeLiteral text =>
    obtain ⟨hpoint, hnumber⟩ := isNumberChar_of_isRangeLiteral hvalue
    rw [chars, kindOfChars_number (List.ne_nil_of_mem hpoint) hnumber hrest, if_pos hpoint, kind]
  | dateRange first last => simp [chars, Quoted.literal, kindOfChars, kind]
  | numericRange least greatest =>
    have hquote : ∀ cs,
        least.toList ++ ',' :: (greatest.toList ++ ']' :: rest) ≠ '\'' :: cs := by
      intro cs h
      cases hleast : least.toList with
      | nil => simp [hleast] at h
      | cons c ls =>
        have hc := hvalue.1 c (by simp [hleast])
        rw [hleast, List.cons_append] at h
        exact ne_of_isNumberChar hc (by decide) (List.cons.inj h).1
    simp only [chars, List.cons_append, List.append_assoc, List.nil_append]
    rw [kindOfChars]
    · rfl
    · intro cs h
      exact hquote cs h
  | scalar text => simp [chars, Quoted.literal, kindOfChars, kind]

/-- Whole numbers and range literals end where a border begins. -/
theorem bare_append_inj {s t : String} {rest rest' : List Char}
    (hs : ∀ c ∈ s.toList, isNumberChar c = true) (ht : ∀ c ∈ t.toList, isNumberChar c = true)
    (hrest : StopsAt isBorder rest) (hrest' : StopsAt isBorder rest')
    (h : s.toList ++ rest = t.toList ++ rest') : s = t ∧ rest = rest' := by
  obtain ⟨htext, hmore⟩ := append_inj_of_stopsAt
    (fun c hc => isBorder_of_isNumberChar (hs c hc))
    (fun c hc => isBorder_of_isNumberChar (ht c hc)) hrest hrest' h
  exact ⟨String.toList_inj.1 htext, hmore⟩

/-- The bounds of a numeric range end at their marks. -/
theorem bound_append_inj {s t : String} {mark : Char} {rest rest' : List Char}
    (hmark : isNumberChar mark = false) (hs : ∀ c ∈ s.toList, isNumberChar c = true)
    (ht : ∀ c ∈ t.toList, isNumberChar c = true)
    (h : s.toList ++ mark :: rest = t.toList ++ mark :: rest') : s = t ∧ rest = rest' := by
  obtain ⟨htext, hmore⟩ := append_inj_of_stopsAt (p := (· == mark))
    (fun c hc => beq_eq_false_iff_ne.2 (ne_of_isNumberChar (hs c hc) hmark))
    (fun c hc => beq_eq_false_iff_ne.2 (ne_of_isNumberChar (ht c hc) hmark))
    (by simp) (by simp) h
  exact ⟨String.toList_inj.1 htext, (List.cons.inj hmore).2⟩

/-- A value marks its own end. -/
theorem chars_append_inj {v w : PrintedValue} {rest rest' : List Char} (hv : v.IsReadable)
    (hw : w.IsReadable) (hrest : StopsAt isBorder rest) (hrest' : StopsAt isBorder rest')
    (h : v.chars ++ rest = w.chars ++ rest') : v = w ∧ rest = rest' := by
  have hkind : v.kind = w.kind := by
    rw [← kindOfChars_chars_append hv hrest, ← kindOfChars_chars_append hw hrest', h]
  -- texts that agree are of one kind, so only values of the same kind are left to compare
  cases v <;> cases w <;> simp only [kind, reduceCtorEq] at hkind
  case integer.integer s t =>
    obtain ⟨rfl, hmore⟩ := bare_append_inj (fun c hc => (hv.2 c hc).1)
      (fun c hc => (hw.2 c hc).1) hrest hrest' h
    exact ⟨rfl, hmore⟩
  case rangeLiteral.rangeLiteral s t =>
    obtain ⟨rfl, hmore⟩ := bare_append_inj (isNumberChar_of_isRangeLiteral hv).2
      (isNumberChar_of_isRangeLiteral hw).2 hrest hrest' h
    exact ⟨rfl, hmore⟩
  case dateRange.dateRange first last first' last' =>
    simp only [chars, List.cons_append, List.append_assoc, List.nil_append,
      List.cons.injEq, true_and] at h
    obtain ⟨hfirst, hmore⟩ := Quoted.literal_append_inj h
    obtain ⟨hlast, hmore⟩ := Quoted.literal_append_inj (List.cons.inj hmore).2
    rw [String.toList_inj.1 hfirst, String.toList_inj.1 hlast]
    exact ⟨rfl, (List.cons.inj hmore).2⟩
  case numericRange.numericRange least greatest least' greatest' =>
    simp only [chars, List.cons_append, List.append_assoc, List.nil_append,
      List.cons.injEq, true_and] at h
    obtain ⟨rfl, hmore⟩ := bound_append_inj (by decide) hv.1 hw.1 h
    obtain ⟨rfl, hend⟩ := bound_append_inj (by decide) hv.2 hw.2 hmore
    exact ⟨rfl, hend⟩
  case scalar.scalar s t =>
    obtain ⟨htext, hmore⟩ := Quoted.literal_append_inj h
    rw [String.toList_inj.1 htext]
    exact ⟨rfl, hmore⟩

end PrintedValue

/-! ## Filters -/

namespace CanonicalFilter

/-- Behind a value among siblings stands a border. -/
theorem stopsAt_allChars_append (filters : List CanonicalFilter) {rest : List Char}
    (hrest : StopsAt (· == ')') rest) : StopsAt isBorder (allChars filters ++ rest) := by
  cases filters with
  | nil =>
    intro c hc
    simp [isBorder, beq_iff_eq.1 (hrest c hc)]
  | cons filter filters => cases filter <;> simp [allChars, chars, isBorder]

/-- No sibling begins with a closing parenthesis. -/
theorem not_stopsAt_allChars_cons (filter : CanonicalFilter) (filters : List CanonicalFilter)
    (rest : List Char) : ¬ StopsAt (· == ')') (allChars (filter :: filters) ++ rest) := by
  cases filter <;> simp [allChars, chars]

/-- A keyword is followed by something other than a letter, and so marks its own end. -/
theorem keyword_append_inj {op op' : Connective} {rest rest' : List Char}
    (h : op.keyword.toList ++ rest = op'.keyword.toList ++ rest') : op = op' ∧ rest = rest' := by
  have hop : op = op' := by
    cases op <;> cases op' <;> first | rfl | simp [Connective.keyword] at h
  subst hop
  exact ⟨rfl, List.append_cancel_left h⟩

/-- A condition marks its own end. -/
theorem leaf_append_inj {field field' : String} {value value' : PrintedValue}
    {rest rest' : List Char} (hfield : isPlainField field = true)
    (hfield' : isPlainField field' = true) (hvalue : value.IsReadable)
    (hvalue' : value'.IsReadable) (hrest : StopsAt isBorder rest)
    (hrest' : StopsAt isBorder rest')
    (h : (leaf field value).chars ++ rest = (leaf field' value').chars ++ rest') :
    leaf field value = leaf field' value' ∧ rest = rest' := by
  have hcolon : ∀ {name : String}, isPlainField name = true →
      ∀ c ∈ name.toList, (c == ':') = false :=
    fun hname c hc => beq_eq_false_iff_ne.2 (of_mem_plainField hname hc).2.2.2.1
  simp only [chars, List.cons_append, List.append_assoc, List.cons.injEq, true_and] at h
  obtain ⟨hname, hmore⟩ := append_inj_of_stopsAt (p := (· == ':')) (hcolon hfield)
    (hcolon hfield') (by simp) (by simp) h
  obtain ⟨hval, hmore⟩ := PrintedValue.chars_append_inj hvalue hvalue' hrest hrest'
    (List.cons.inj hmore).2
  rw [String.toList_inj.1 hname, hval]
  exact ⟨rfl, hmore⟩

mutual

/-- A filter among siblings marks its own end. -/
theorem chars_append_inj (f g : CanonicalFilter) {rest rest' : List Char} (hf : f.IsReadable)
    (hg : g.IsReadable) (hrest : StopsAt isBorder rest) (hrest' : StopsAt isBorder rest')
    (h : f.chars ++ rest = g.chars ++ rest') : f = g ∧ rest = rest' := by
  match f, g with
  | node op children, node op' children' =>
    simp only [chars, List.cons_append, List.append_assoc, List.nil_append, List.cons.injEq,
      true_and] at h
    obtain ⟨rfl, hmore⟩ := keyword_append_inj h
    -- the children end at the closing parenthesis of their node
    obtain ⟨hchildren, hmore⟩ :=
      allChars_append_inj children children' hf hg (by simp) (by simp) hmore
    rw [hchildren]
    exact ⟨rfl, (List.cons.inj hmore).2⟩
  | leaf field value, leaf field' value' =>
    exact leaf_append_inj hf.1 hg.1 hf.2 hg.2 hrest hrest' h
  | node _ _, leaf _ _ => simp [chars] at h
  | leaf _ _, node _ _ => simp [chars] at h

/-- Siblings end at a closing parenthesis or at the end of the text. -/
theorem allChars_append_inj (fs gs : List CanonicalFilter) {rest rest' : List Char}
    (hfs : AreReadable fs) (hgs : AreReadable gs) (hrest : StopsAt (· == ')') rest)
    (hrest' : StopsAt (· == ')') rest') (h : allChars fs ++ rest = allChars gs ++ rest') :
    fs = gs ∧ rest = rest' := by
  match fs, gs with
  | [], [] => exact ⟨rfl, h⟩
  | [], g :: gs =>
    rw [allChars_nil, List.nil_append] at h
    exact absurd (h ▸ hrest) (not_stopsAt_allChars_cons g gs rest')
  | f :: fs, [] =>
    rw [allChars_nil, List.nil_append] at h
    exact absurd (h ▸ hrest') (not_stopsAt_allChars_cons f fs rest)
  | f :: fs, g :: gs =>
    simp only [allChars, List.append_assoc] at h
    obtain ⟨hfilter, hmore⟩ := chars_append_inj f g hfs.1 hgs.1
      (stopsAt_allChars_append fs hrest) (stopsAt_allChars_append gs hrest') h
    obtain ⟨hfilters, hmore⟩ := allChars_append_inj fs gs hfs.2 hgs.2 hrest hrest' hmore
    rw [hfilter, hfilters]
    exact ⟨rfl, hmore⟩

end

/-- Siblings are known by their text. -/
theorem allChars_inj {fs gs : List CanonicalFilter} (hfs : AreReadable fs)
    (hgs : AreReadable gs) (h : allChars fs = allChars gs) : fs = gs := by
  have hend : allChars fs ++ [] = allChars gs ++ [] := by rw [h]
  exact (allChars_append_inj fs gs hfs hgs (Text.stopsAt_nil _) (Text.stopsAt_nil _) hend).1

/-- A whole filter with a condition in front begins with the field. -/
theorem wholeChars_leaf {field : String} (hfield : isPlainField field = true)
    (value : PrintedValue) (rest : List CanonicalFilter) :
    wholeChars (leaf field value :: rest) =
      field.toList ++ ':' :: (value.chars ++ allChars rest) := by
  simp only [wholeChars, allChars, chars, List.cons_append, List.append_assoc]
  rw [List.dropWhile_cons_of_pos (by decide)]
  -- no more than the space is trimmed, since a plain field holds no white space
  cases hchars : field.toList with
  | nil => rw [List.nil_append, List.dropWhile_cons_of_neg (by decide)]
  | cons c cs =>
    have hc := of_mem_plainField hfield (c := c) (by simp [hchars])
    rw [List.cons_append, List.dropWhile_cons_of_neg (by simp [hc.1])]

theorem allChars_leaf {field : String} (hfield : isPlainField field = true)
    (value : PrintedValue) (rest : List CanonicalFilter) :
    allChars (leaf field value :: rest) = ' ' :: wholeChars (leaf field value :: rest) := by
  rw [wholeChars_leaf hfield]
  simp [allChars, chars]

/-- A condition in front of a whole filter cannot be taken for a node. -/
theorem exists_wholeChars_leaf {field : String} (hfield : isPlainField field = true)
    (value : PrintedValue) (rest : List CanonicalFilter) :
    ∃ c cs, wholeChars (leaf field value :: rest) = c :: cs ∧ c ≠ '(' := by
  rw [wholeChars_leaf hfield]
  cases hchars : field.toList with
  | nil => exact ⟨':', _, rfl, by decide⟩
  | cons c cs =>
    have hc := of_mem_plainField hfield (c := c) (by simp [hchars])
    exact ⟨c, _, rfl, hc.2.1⟩

/-- A whole filter is known by its text. -/
theorem wholeChars_inj {fs gs : List CanonicalFilter} (hfs : AreReadable fs)
    (hgs : AreReadable gs) (h : wholeChars fs = wholeChars gs) : fs = gs := by
  match fs, gs with
  | [], gs => exact (wholeChars_eq_nil_iff.1 h.symm).symm
  | fs, [] => exact wholeChars_eq_nil_iff.1 h
  | node op children :: fs, node op' children' :: gs =>
    rw [wholeChars_node, wholeChars_node] at h
    exact allChars_inj hfs hgs h
  | leaf field value :: fs, leaf field' value' :: gs =>
    have hf := allChars_leaf hfs.1.1 value fs
    have hg := allChars_leaf hgs.1.1 value' gs
    exact allChars_inj hfs hgs (by rw [hf, hg, h])
  | node op children :: fs, leaf field value :: gs =>
    obtain ⟨c, cs, hchars, hc⟩ := exists_wholeChars_leaf hgs.1.1 value gs
    rw [hchars, wholeChars_node, allChars, chars] at h
    exact absurd (List.cons.inj h).1.symm hc
  | leaf field value :: fs, node op children :: gs =>
    obtain ⟨c, cs, hchars, hc⟩ := exists_wholeChars_leaf hfs.1.1 value fs
    rw [hchars, wholeChars_node, allChars, chars] at h
    exact absurd (List.cons.inj h).1 hc

end CanonicalFilter

end SearchDomain
