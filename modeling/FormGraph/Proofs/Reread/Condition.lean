import FormGraph.Proofs.Reread.Readable

/-!
# Reading a condition back

A condition that tests a field, and looks for a text where it looks into one, is read back from what
it is written as, without a warning. The three regular expressions are told apart by what stands at
their ends.
-/

namespace FormGraph

namespace Condition

/-! ## Regular expressions -/

theorem between?_append (front s back : String) :
    between? front back (front ++ s ++ back).toList = some s := by
  have hchars : (front ++ s ++ back).toList = front.toList ++ (s.toList ++ back.toList) := by
    rw [String.toList_append, String.toList_append, List.append_assoc]
  have hfront : front.toList.isPrefixOf (front.toList ++ (s.toList ++ back.toList)) = true :=
    List.isPrefixOf_iff_prefix.2 (List.prefix_append _ _)
  have hback : back.toList.isSuffixOf (front.toList ++ (s.toList ++ back.toList)) = true :=
    List.isSuffixOf_iff_suffix.2 ⟨front.toList ++ s.toList, List.append_assoc _ _ _⟩
  have hlength : (front.toList ++ (s.toList ++ back.toList)).length - front.length - back.length =
      s.toList.length := by
    rw [List.length_append, List.length_append, String.length_toList, String.length_toList,
      String.length_toList]
    omega
  unfold between?
  rw [hchars, hfront, hback, hlength]
  rw [if_pos]
  · rw [← String.length_toList, List.drop_left, List.take_left, String.ofList_toList]
  · rw [List.length_append, List.length_append, String.length_toList, String.length_toList,
      String.length_toList]
    simp

theorem between?_eq_none_of_front {front back : String} {c d : Char} {cs ds : List Char}
    (hf : front.toList = c :: cs) (h : c ≠ d) : between? front back (d :: ds) = none := by
  unfold between?
  rw [hf, List.isPrefixOf, beq_false_of_ne h]
  rfl

theorem between?_eq_none_of_back {front back s : String} {c d : Char}
    (hb : back.toList.getLast? = some c) (hs : s.toList.getLast? = some d) (h : c ≠ d)
    (more : String) :
    between? front back (more ++ s).toList = none := by
  unfold between?
  rw [if_neg]
  intro hall
  simp only [Bool.and_eq_true, List.isSuffixOf_iff_suffix] at hall
  obtain ⟨⟨_, hsuffix⟩, _⟩ := hall
  obtain ⟨t, ht⟩ := hsuffix
  have hlast := congrArg List.getLast? ht
  rw [String.toList_append, List.getLast?_append, List.getLast?_append, hb, hs] at hlast
  exact h (Option.some.inj hlast)

theorem readPattern_startsWith (s : String) :
    readPattern ("^" ++ s ++ ".*") = (.startsWith, .str s) := by
  unfold readPattern
  dsimp only
  rw [between?_append]

theorem readPattern_endsWith (s : String) :
    readPattern (".*" ++ s ++ "$") = (.endsWith, .str s) := by
  have hchars : (".*" ++ s ++ "$").toList = '.' :: '*' :: (s.toList ++ ['$']) := by
    rw [String.toList_append, String.toList_append]
    rfl
  have hstart : between? "^" ".*" (".*" ++ s ++ "$").toList = none := by
    rw [hchars]
    exact between?_eq_none_of_front rfl (by decide)
  unfold readPattern
  dsimp only
  rw [hstart, between?_append]

theorem readPattern_contains (s : String) :
    readPattern (".*" ++ s ++ ".*") = (.contains, .str s) := by
  have hchars : (".*" ++ s ++ ".*").toList = '.' :: '*' :: (s.toList ++ ['.', '*']) := by
    rw [String.toList_append, String.toList_append]
    rfl
  have hstart : between? "^" ".*" (".*" ++ s ++ ".*").toList = none := by
    rw [hchars]
    exact between?_eq_none_of_front rfl (by decide)
  have hend : between? ".*" "$" (".*" ++ s ++ ".*").toList = none :=
    between?_eq_none_of_back rfl rfl (by decide) _
  unfold readPattern
  dsimp only
  rw [hstart, hend, between?_append]

/-! ## Comparisons -/

theorem readComparison?_pattern (pattern : String) :
    readComparison? (.obj [("pattern", .str pattern)]) = some (readPattern pattern) := by
  have hbound : readBound? [("pattern", .str pattern)] = none := by
    simp [readBound?, bounds, Entries.find?]
  simp [readComparison?, negatedConst?, hbound, Value.member, Entries.find?, Value.same,
    Value.sameMembers, emptyComparison, notEmptyComparison]

theorem readComparison?_empty :
    readComparison? (.obj emptyComparison) = some (.empty, .null) := by
  have hconst : Entries.find? emptyComparison "const" = none := rfl
  have hnot : negatedConst? emptyComparison = none := rfl
  have hbound : readBound? emptyComparison = none := rfl
  have hsame : (Value.obj emptyComparison).same (.obj emptyComparison) = true := by
    simp [emptyComparison, Value.same, Value.sameMembers, Value.sameItems, Entries.find?,
      Value.str?]
  unfold readComparison?
  dsimp only
  rw [hconst, hnot, hbound, hsame]
  rfl

theorem readComparison?_notEmpty :
    readComparison? (.obj notEmptyComparison) = some (.notEmpty, .null) := by
  have hconst : Entries.find? notEmptyComparison "const" = none := rfl
  have hnot : negatedConst? notEmptyComparison = none := rfl
  have hbound : readBound? notEmptyComparison = none := rfl
  have hempty : (Value.obj notEmptyComparison).same (.obj emptyComparison) = false := by
    simp [emptyComparison, notEmptyComparison, Value.same, Value.sameMembers, Entries.find?]
  have hsame : (Value.obj notEmptyComparison).same (.obj notEmptyComparison) = true := by
    simp [notEmptyComparison, Value.same, Value.sameMembers, Value.sameItems, Entries.find?,
      Value.str?]
  unfold readComparison?
  dsimp only
  rw [hconst, hnot, hbound, hempty, hsame]
  rfl

/-- A comparison that is written is read back with its operand, when what is looked for in a text is
a text. -/
theorem readComparison?_comparison {c : Condition} (h : c.Reads) :
    readComparison? (.obj c.comparison) = some (c.operator, c.operand) := by
  obtain ⟨field, operator, operand, hnull⟩ := c
  have hoperand := h.operand
  dsimp only [comparison] at hoperand ⊢
  cases operator with
  | equals => rfl
  | notEquals => rfl
  | greaterThan | lessThan | greaterEqual | lessEqual => rfl
  | contains =>
    obtain ⟨s, rfl⟩ := hoperand rfl
    exact (readComparison?_pattern _).trans (congrArg some (readPattern_contains s))
  | startsWith =>
    obtain ⟨s, rfl⟩ := hoperand rfl
    exact (readComparison?_pattern _).trans (congrArg some (readPattern_startsWith s))
  | endsWith =>
    obtain ⟨s, rfl⟩ := hoperand rfl
    exact (readComparison?_pattern _).trans (congrArg some (readPattern_endsWith s))
  | empty =>
    obtain rfl := hnull rfl
    exact readComparison?_empty
  | notEmpty =>
    obtain rfl := hnull rfl
    exact readComparison?_notEmpty

/-! ## Fragments -/

theorem testedProperties?_written {c : Condition} {key : String} (h : c.field = .str key) :
    testedProperties? (.obj c.written) = some [(key, .obj c.comparison)] := by
  unfold written
  rw [h]
  rfl

theorem isFragment_written (c : Condition) : isFragment (.obj c.written) = true := rfl

theorem of_eq (c : Condition) : of c.field c.operator c.operand = c := by
  refine Condition.ext rfl rfl ?_
  unfold of
  dsimp only
  split
  · rfl
  · next h => exact (c.operand_eq_null (Bool.not_eq_true _ ▸ h)).symm

/-- A condition is read back from what it is written as. -/
theorem parse_written {c : Condition} (h : c.Reads) (path : String) :
    parse (.obj c.written) path = (some c, []) := by
  obtain ⟨key, hkey⟩ := h.field
  unfold parse
  rw [testedProperties?_written hkey]
  dsimp only
  unfold read
  rw [readComparison?_comparison h]
  dsimp only
  rw [← hkey, of_eq]
  rfl

end Condition

namespace Decompile

open Noted

theorem conditionOf_yields {c : Condition} (h : c.Reads) (path : String) :
    (conditionOf (.obj c.written) path).Yields (some c) := by
  unfold conditionOf
  rw [Condition.parse_written h]
  exact .pure _

end Decompile

end FormGraph
