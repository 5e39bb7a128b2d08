/-
  SearchDomain.Proofs.Json.Within

  Values within reach of the reader: readable ones with so many containers inside
  one another at most. What is inside a container is within one level less, and a
  container is within one level more than what is put into it, so that parts of a
  value that was read can be put together to one that is read again.
-/
import SearchDomain.Proofs.Json.Decode

namespace SearchDomain.Json

/-- Whether a value is readable and has at most so many containers inside one another. -/
structure IsWithin (levels : Nat) (json : Json) : Prop where
  isReadable : json.isReadable = true
  depth_le : json.depth ≤ levels

variable {levels : Nat} {json : Json} {items : List Json} {members : Entries Json}

/-- A value within the levels that the reader keeps open is read back from each of its texts. -/
theorem IsTextOf.read {text : String} (h : json.IsTextOf text)
    (hwithin : json.IsWithin Reader.maxDepth) : Json.read text = some json :=
  read_of_isTextOf h hwithin.isReadable hwithin.depth_le

/-! ## Parts of values -/

theorem depth_le_itemsDepth {item : Json} (h : item ∈ items) : item.depth ≤ itemsDepth items := by
  induction items with
  | nil => cases h
  | cons first rest ih =>
    rw [itemsDepth]
    rcases List.mem_cons.1 h with rfl | hrest
    · exact Nat.le_max_left _ _
    · exact Nat.le_trans (ih hrest) (Nat.le_max_right _ _)

theorem depth_le_membersDepth {member : String × Json} (h : member ∈ members) :
    member.2.depth ≤ membersDepth members := by
  induction members with
  | nil => cases h
  | cons first rest ih =>
    rw [membersDepth]
    rcases List.mem_cons.1 h with rfl | hrest
    · exact Nat.le_max_left _ _
    · exact Nat.le_trans (ih hrest) (Nat.le_max_right _ _)

namespace IsWithin

theorem mono {more : Nat} (h : json.IsWithin levels) (hle : levels ≤ more) :
    json.IsWithin more :=
  ⟨h.isReadable, Nat.le_trans h.depth_le hle⟩

/-- An item is within one level less than its array. -/
theorem of_mem {item : Json} (h : (array items).IsWithin (levels + 1)) (hmem : item ∈ items) :
    item.IsWithin levels := by
  obtain ⟨hread, hdepth⟩ := h
  rw [depth] at hdepth
  have hitem := depth_le_itemsDepth hmem
  exact ⟨isProper_of_mem hread hmem, by omega⟩

/-- A member is within one level less than its object. -/
theorem of_member? {name : String} {value : Json} (h : json.IsWithin (levels + 1))
    (hmember : json.member? name = some value) : value.IsWithin levels := by
  cases json with
  | object members =>
    obtain ⟨hread, hdepth⟩ := h
    rw [depth] at hdepth
    have hmem : (name, value) ∈ members := mem_of_find? hmember
    have hvalue : value.depth ≤ membersDepth members := depth_le_membersDepth hmem
    have hparts := Bool.and_eq_true_iff.1 hread
    exact ⟨isProper_of_mem_members hparts.2 hmem, by omega⟩
  | null | bool | number | string | array => cases hmember

end IsWithin

/-! ## Values put together -/

theorem isWithin_string (s : String) : (string s).IsWithin levels :=
  ⟨rfl, Nat.zero_le _⟩

theorem isWithin_optionalString (s : Option String) : (optionalString s).IsWithin levels := by
  cases s with
  | none => exact ⟨rfl, Nat.zero_le _⟩
  | some s => exact isWithin_string s

/-- A count in 64 bits is read back. -/
theorem isWithin_whole {n : Nat} (h : n < 0x10000000000000000) : (whole n).IsWithin levels := by
  have hrange : -0x8000000000000000 ≤ (n : Int) ∧ (n : Int) < 0x10000000000000000 := by omega
  refine ⟨?_, Nat.zero_le _⟩
  show (decide (-0x8000000000000000 ≤ (n : Int)) && decide ((n : Int) < 0x10000000000000000)) = true
  rw [Bool.and_eq_true, decide_eq_true_eq, decide_eq_true_eq]
  exact hrange

theorem isWithin_array (h : ∀ item ∈ items, item.IsWithin levels) :
    (array items).IsWithin (levels + 1) := by
  suffices hall : allProper (fun x => decide x.ReadsBack) items = true ∧
      itemsDepth items ≤ levels by
    exact ⟨hall.1, Nat.succ_le_succ hall.2⟩
  induction items with
  | nil => exact ⟨rfl, Nat.zero_le _⟩
  | cons item rest ih =>
    obtain ⟨hitem, hrest⟩ := List.forall_mem_cons.1 h
    obtain ⟨hproper, hdepth⟩ := ih hrest
    rw [allProper, Bool.and_eq_true, itemsDepth]
    exact ⟨⟨hitem.isReadable, hproper⟩, Nat.max_le.2 ⟨hitem.depth_le, hdepth⟩⟩

theorem isWithin_object (hnames : members.names.Nodup)
    (h : ∀ member ∈ members, member.2.IsWithin levels) :
    (object members).IsWithin (levels + 1) := by
  suffices hall : allMembersProper (fun x => decide x.ReadsBack) members = true ∧
      membersDepth members ≤ levels by
    refine ⟨?_, Nat.succ_le_succ hall.2⟩
    rw [isReadable, isProper, Bool.and_eq_true, decide_eq_true_eq]
    exact ⟨hnames, hall.1⟩
  -- distinct names are asked of the whole object, not of what is left of it
  clear hnames
  induction members with
  | nil => exact ⟨rfl, Nat.zero_le _⟩
  | cons member rest ih =>
    obtain ⟨hmember, hrest⟩ := List.forall_mem_cons.1 h
    obtain ⟨hproper, hdepth⟩ := ih hrest
    rw [allMembersProper, Bool.and_eq_true, membersDepth]
    exact ⟨⟨hmember.isReadable, hproper⟩, Nat.max_le.2 ⟨hmember.depth_le, hdepth⟩⟩

end SearchDomain.Json
