import FormGraph.Proofs.Reread.Condition

/-!
# What is lost of a condition

A condition that is written and read back is the same condition, but for one thing: what is looked for
in a text has become a text (`parse_fragment_of`).

The other way round, of a fragment that is read without a warning one property is tested, which is the
field of the condition, and the comparison that the condition makes is the one of the fragment exactly
where that is undivided: one keyword, with nothing beside what it is read for
(`parse_keeps_iff`). Of any other comparison only one keyword is read, or a regular expression is
taken for a text to be equal to, and no warning says so.
-/

namespace FormGraph

/-! ## Values that say the same as themselves -/

namespace Value

mutual

theorem Proper.same_self : ∀ {v : Value}, v.Proper → v.same v = true
  | .null, _ => rfl
  | .bool _, _ | .int _, _ | .float _, _ | .str _, _ => by
    unfold same
    exact beq_self_eq_true _
  | .list items, h => by
    unfold same
    exact sameItems_self items h.items
  | .obj members, h => by
    unfold same
    rw [Bool.and_eq_true]
    exact ⟨beq_self_eq_true _, sameMembers_of_find? members members (fun m => h.of_mem)
      fun m hm => Entries.find?_of_mem h.names hm⟩

theorem sameItems_self : ∀ items : List Value, (∀ v ∈ items, v.Proper) →
    sameItems items items = true
  | [], _ => rfl
  | v :: items, h => by
    unfold sameItems
    rw [Bool.and_eq_true]
    exact ⟨(h v List.mem_cons_self).same_self,
      sameItems_self items fun w hw => h w (List.mem_cons_of_mem _ hw)⟩

theorem sameMembers_of_find? : ∀ members others : Members, (∀ m ∈ members, m.2.Proper) →
    (∀ m ∈ members, Entries.find? others m.1 = some m.2) → sameMembers members others = true
  | [], _, _, _ => rfl
  | (n, v) :: members, others, h, hfind => by
    have hv : Entries.find? others n = some v := hfind (n, v) List.mem_cons_self
    unfold sameMembers
    rw [hv, Bool.and_eq_true]
    exact ⟨(h (n, v) List.mem_cons_self).same_self, sameMembers_of_find? members others
      (fun m hm => h m (List.mem_cons_of_mem _ hm)) fun m hm => hfind m (List.mem_cons_of_mem _ hm)⟩

end

/-- Of objects that say the same, each has as many members as the other one. -/
theorem length_of_same {as bs : Members} (h : (obj as).same (obj bs) = true) :
    as.length = bs.length := by
  unfold same at h
  rw [Bool.and_eq_true] at h
  exact eq_of_beq h.1

end Value

namespace Condition

/-! ## Writing and reading back -/

/-- What is looked for in a text becomes a text when it is written. -/
def writtenOperand (operator : Operator) (operand : Value) : Value :=
  if operator.isPattern then .str operand.plain else operand

theorem comparisonOf_writtenOperand (operator : Operator) (operand : Value) :
    comparisonOf operator (writtenOperand operator operand) = comparisonOf operator operand := by
  cases operator <;> rfl

theorem takesOperand_of_isPattern {operator : Operator} (h : operator.isPattern = true) :
    operator.takesOperand = true := by
  cases operator <;> first | rfl | cases h

theorem operand_of {operator : Operator} (h : operator.takesOperand = true) (field operand : Value) :
    (of field operator operand).operand = operand := if_pos h

/-- The tests for emptiness compare with nothing, so it does not matter that they drop the operand. -/
theorem comparison_of (field : Value) (operator : Operator) (operand : Value) :
    (of field operator operand).comparison = comparisonOf operator operand := by
  cases operator <;> rfl

/-- A condition is written as it is with the operand that is written. -/
theorem written_of (key : String) (operator : Operator) (operand : Value) :
    (of (.str key) operator (writtenOperand operator operand)).written =
      (of (.str key) operator operand).written := by
  unfold written
  rw [comparison_of, comparison_of, comparisonOf_writtenOperand]
  rfl

theorem reads_of_writtenOperand (key : String) (operator : Operator) (operand : Value) :
    (of (.str key) operator (writtenOperand operator operand)).Reads where
  field := ⟨key, rfl⟩
  operand h := by
    refine ⟨operand.plain, ?_⟩
    have hpattern : operator.isPattern = true := h
    rw [operand_of (takesOperand_of_isPattern hpattern), writtenOperand, if_pos hpattern]

/-- Every condition on a key (and every such condition is of this form: `of_eq`) is read back from what
it is written as without a warning, with its operator and its operand, where what is looked for in a
text is now a text; so it is the same condition exactly when that was a text before. -/
theorem parse_fragment_of (key : String) (operator : Operator) (operand : Value) (path : String) :
    (∃ members, (of (.str key) operator operand).fragment = .ok members ∧
      parse (.obj members) path =
        (some (of (.str key) operator (writtenOperand operator operand)), [])) ∧
    (of (.str key) operator (writtenOperand operator operand) = of (.str key) operator operand ↔
      (operator.isPattern = true → operand.isStr = true)) := by
  refine ⟨⟨_, rfl, ?_⟩, ?_⟩
  · show parse (.obj (of (.str key) operator operand).written) path = _
    rw [← written_of]
    exact parse_written (reads_of_writtenOperand key operator operand) path
  · cases hpattern : operator.isPattern with
    | false =>
      rw [writtenOperand, if_neg (by simp [hpattern])]
      exact iff_of_true rfl fun h => by cases h
    | true =>
      have htakes := takesOperand_of_isPattern hpattern
      have hsame : of (.str key) operator (.str operand.plain) = of (.str key) operator operand ↔
          Value.str operand.plain = operand := by
        refine ⟨fun h => ?_, fun h => by rw [h]⟩
        have hoperand := congrArg Condition.operand h
        rwa [operand_of htakes, operand_of htakes] at hoperand
      rw [writtenOperand, if_pos hpattern, hsame]
      cases operand with
      | str s => exact iff_of_true rfl fun _ => rfl
      | null | bool | int | float | list | obj =>
        exact iff_of_false (fun h => by cases h) fun h => absurd (h rfl) Bool.false_ne_true

/-! ## Reading regular expressions -/

/-- A text between a text at the front and one at the end. -/
theorem eq_append_of_between? {front back p s : String}
    (h : between? front back p.toList = some s) : p = front ++ s ++ back := by
  unfold between? at h
  split_ifs at h with hall
  rw [Bool.and_eq_true, Bool.and_eq_true, List.isPrefixOf_iff_prefix, List.isSuffixOf_iff_suffix,
    decide_eq_true_eq] at hall
  obtain ⟨⟨⟨rest, hrest⟩, hback⟩, hlength⟩ := hall
  have hlen : p.toList.length = front.length + rest.length := by
    rw [← hrest, List.length_append, String.length_toList]
  have hsuffix : back.toList <:+ rest := by
    refine List.suffix_of_suffix_length_le hback (hrest ▸ List.suffix_append _ _) ?_
    rw [String.length_toList]
    omega
  obtain ⟨inner, rfl⟩ := hsuffix
  obtain rfl : String.ofList inner = s := by
    rw [← Option.some.inj h, ← hrest, ← String.length_toList, List.drop_left,
      List.length_append, List.length_append, String.length_toList, String.length_toList]
    congr 1
    rw [show front.length + (inner.length + back.length) - front.length - back.length =
      inner.length by omega, List.take_left]
  apply String.toList_injective
  rw [String.toList_append, String.toList_append, String.toList_ofList, List.append_assoc, hrest]

/-- The regular expression is one that is written: a text with the marks of an operator around it. -/
def IsMarked (pattern : String) : Prop :=
  ∃ s, pattern = "^" ++ s ++ ".*" ∨ pattern = ".*" ++ s ++ "$" ∨ pattern = ".*" ++ s ++ ".*"

/-- What a regular expression is read as: a text that is looked for where there are marks, and
otherwise a text to be equal to. -/
theorem readPattern_cases (pattern : String) :
    (∃ operator s, readPattern pattern = (operator, .str s) ∧ operator.isPattern = true ∧
      comparisonOf operator (.str s) = [("pattern", .str pattern)] ∧ IsMarked pattern) ∨
    readPattern pattern = (.equals, .str pattern) ∧ ¬ IsMarked pattern := by
  unfold readPattern
  dsimp only
  cases hstart : between? "^" ".*" pattern.toList with
  | some s =>
    obtain rfl := eq_append_of_between? hstart
    exact Or.inl ⟨.startsWith, s, rfl, rfl, rfl, s, Or.inl rfl⟩
  | none =>
    cases hend : between? ".*" "$" pattern.toList with
    | some s =>
      obtain rfl := eq_append_of_between? hend
      exact Or.inl ⟨.endsWith, s, rfl, rfl, rfl, s, Or.inr (Or.inl rfl)⟩
    | none =>
      cases hwithin : between? ".*" ".*" pattern.toList with
      | some s =>
        obtain rfl := eq_append_of_between? hwithin
        exact Or.inl ⟨.contains, s, rfl, rfl, rfl, s, Or.inr (Or.inr rfl)⟩
      | none =>
        refine Or.inr ⟨rfl, ?_⟩
        rintro ⟨s, rfl | rfl | rfl⟩
        · exact absurd ((between?_append _ _ _).symm.trans hstart) (by simp)
        · exact absurd ((between?_append _ _ _).symm.trans hend) (by simp)
        · exact absurd ((between?_append _ _ _).symm.trans hwithin) (by simp)

/-! ## Undivided comparisons -/

/-- A comparison with nothing in it but what it is read for: one keyword; where that negates, one
keyword below it; and a regular expression that is one of those written. -/
structure Undivided (comparison : Members) : Prop where
  /-- There is one keyword. -/
  alone : comparison.length = 1
  /-- There is one below a negation. -/
  negated : ∀ below, Entries.find? comparison "not" = some (.obj below) → below.length = 1
  /-- A regular expression is one of those written. -/
  marked : ∀ pattern, Entries.find? comparison "pattern" = some (.str pattern) → IsMarked pattern

/-- The comparison is all that it is read for. -/
def IsUndivided (comparison : Value) : Prop := ∃ members, comparison = .obj members ∧ Undivided members

variable {members : Members} {operator : Operator} {operand : Value}

/-- The keyword and the value of an object with one member that is found. -/
theorem eq_singleton {name : String} {v : Value} (h : members.length = 1)
    (hv : Entries.find? members name = some v) : members = [(name, v)] := by
  obtain ⟨⟨n, w⟩, rfl⟩ := List.length_eq_one_iff.1 h
  rw [Entries.find?_cons] at hv
  split_ifs at hv with hn
  · rw [hn, Option.some.inj hv]
  · cases hv

/-- What a comparison is read as, by the shape that is recognised first. -/
inductive Recognised (members : Members) : Operator → Value → Prop where
  /-- A value to be equal to, -/
  | const {v : Value} (h : Entries.find? members "const" = some v) : Recognised members .equals v
  /-- a value not to be equal to, -/
  | negated {below : Members} {v : Value} (h : Entries.find? members "not" = some (.obj below))
    (hv : Entries.find? below "const" = some v) : Recognised members .notEquals v
  /-- a bound, -/
  | bound {operator : Operator} {keyword : String} {v : Value} (hb : (operator, keyword) ∈ bounds)
    (h : Entries.find? members keyword = some v) : Recognised members operator v
  /-- the tests for emptiness, -/
  | empty (h : (Value.obj members).same (.obj emptyComparison) = true) :
    Recognised members .empty .null
  | notEmpty (h : (Value.obj members).same (.obj notEmptyComparison) = true) :
    Recognised members .notEmpty .null
  /-- and a regular expression. -/
  | pattern {pattern : String} (h : Entries.find? members "pattern" = some (.str pattern)) :
    Recognised members (readPattern pattern).1 (readPattern pattern).2

theorem recognised_of_read (h : readComparison? (.obj members) = some (operator, operand)) :
    Recognised members operator operand := by
  unfold readComparison? at h
  dsimp only at h
  cases hconst : Entries.find? members "const" with
  | some v =>
    rw [hconst] at h
    obtain ⟨rfl, rfl⟩ := Prod.mk.inj (Option.some.inj h)
    exact .const hconst
  | none =>
    rw [hconst] at h
    dsimp only at h
    cases hnegated : negatedConst? members with
    | some v =>
      rw [hnegated] at h
      obtain ⟨rfl, rfl⟩ := Prod.mk.inj (Option.some.inj h)
      unfold negatedConst? Value.member at hnegated
      cases hnot : Entries.find? members "not" with
      | none => simp [hnot] at hnegated
      | some w =>
        rw [hnot] at hnegated
        cases w with
        | obj below => exact .negated hnot hnegated
        | null | bool | int | float | str | list => cases hnegated
    | none =>
      rw [hnegated] at h
      dsimp only at h
      cases hbound : readBound? members with
      | some r =>
        rw [hbound] at h
        obtain rfl := Option.some.inj h
        obtain ⟨⟨op, keyword⟩, hb, hv⟩ := List.exists_of_findSome?_eq_some hbound
        obtain ⟨v, hfind, heq⟩ := Option.map_eq_some_iff.1 hv
        obtain ⟨rfl, rfl⟩ := Prod.mk.inj heq
        exact .bound hb hfind
      | none =>
        rw [hbound] at h
        dsimp only at h
        split_ifs at h with hempty hnotEmpty
        · obtain ⟨rfl, rfl⟩ := Prod.mk.inj (Option.some.inj h)
          exact .empty hempty
        · obtain ⟨rfl, rfl⟩ := Prod.mk.inj (Option.some.inj h)
          exact .notEmpty hnotEmpty
        · unfold Value.member at h
          cases hpattern : Entries.find? members "pattern" with
          | none => simp [hpattern] at h
          | some w =>
            rw [hpattern] at h
            cases w with
            | str pattern =>
              have hread := Prod.mk.inj (Option.some.inj h)
              rw [← hread.1, ← hread.2]
              exact .pattern hpattern
            | null | bool | int | float | list | obj => cases h

/-- A comparison with an operand that is undivided is the one that is written of what it is read as. -/
theorem Recognised.eq_of_undivided (h : Recognised members operator operand)
    (htakes : operator.takesOperand = true) (hu : Undivided members) :
    members = comparisonOf operator operand := by
  cases h with
  | const h => exact eq_singleton hu.alone h
  | negated h hv =>
    rw [eq_singleton hu.alone h, eq_singleton (hu.negated _ h) hv]
    rfl
  | bound hb h =>
    rw [eq_singleton hu.alone h]
    simp only [bounds, List.mem_cons, Prod.mk.injEq, List.not_mem_nil, or_false] at hb
    obtain ⟨rfl, rfl⟩ | ⟨rfl, rfl⟩ | ⟨rfl, rfl⟩ | ⟨rfl, rfl⟩ := hb <;> rfl
  | empty | notEmpty => cases htakes
  | @pattern pattern h =>
    obtain ⟨op, s, hread, -, hwritten, -⟩ | ⟨-, hnot⟩ := readPattern_cases pattern
    · rw [hread, eq_singleton hu.alone h]
      exact hwritten.symm
    · exact absurd (hu.marked pattern h) hnot

/-- A comparison that says the same as what is written of what it is read as is undivided. -/
theorem Recognised.undivided_of_same (h : Recognised members operator operand)
    (hsame : (Value.obj members).same (.obj (comparisonOf operator operand)) = true) :
    Undivided members := by
  have hone : (comparisonOf operator operand).length = 1 := by cases operator <;> rfl
  have hlength := (Value.length_of_same hsame).trans hone
  -- the one keyword of what is written is the one keyword of the comparison
  have hname : ∀ {keyword : String} {v : Value}, Entries.find? members keyword = some v →
      ∃ w, Entries.find? (comparisonOf operator operand) keyword = some w ∧ v.same w = true := by
    intro keyword v hv
    rw [eq_singleton hlength hv] at hsame
    unfold Value.same Value.sameMembers at hsame
    rw [Bool.and_eq_true, Bool.and_eq_true] at hsame
    have hfound := hsame.2.1
    cases hw : Entries.find? (comparisonOf operator operand) keyword with
    | none => simp [hw] at hfound
    | some w =>
      rw [hw] at hfound
      exact ⟨w, rfl, hfound⟩
  refine ⟨hlength, fun below hbelow => ?_, fun pattern hpattern => ?_⟩
  · obtain ⟨w, hw, hsame⟩ := hname hbelow
    cases operator with
    | notEquals =>
      obtain rfl := Option.some.inj hw
      exact Value.length_of_same hsame
    | equals | greaterThan | lessThan | greaterEqual | lessEqual | contains | startsWith | endsWith |
      empty | notEmpty => simp [comparisonOf, emptyComparison, notEmptyComparison] at hw
  · obtain ⟨w, hw, -⟩ := hname hpattern
    have hmembers := eq_singleton hlength hpattern
    cases h with
    | pattern h =>
      rw [h] at hpattern
      obtain rfl := Value.str.inj (Option.some.inj hpattern)
      obtain ⟨_, _, _, _, _, hmarked⟩ | ⟨hread, -⟩ := readPattern_cases _
      · exact hmarked
      · rw [hread] at hw
        simp [comparisonOf] at hw
    | const h => simp [comparisonOf] at hw
    | negated => simp [comparisonOf] at hw
    | bound hb h =>
      simp only [bounds, List.mem_cons, Prod.mk.injEq, List.not_mem_nil, or_false] at hb
      obtain ⟨rfl, rfl⟩ | ⟨rfl, rfl⟩ | ⟨rfl, rfl⟩ | ⟨rfl, rfl⟩ := hb <;> simp [comparisonOf] at hw
    | empty | notEmpty => simp [comparisonOf, emptyComparison, notEmptyComparison] at hw

/-- What is read of a comparison makes the same comparison exactly when that is undivided. -/
theorem Recognised.same_iff (h : Recognised members operator operand)
    (hp : (Value.obj members).Proper) {field : Value} :
    (Value.obj members).same (.obj (of field operator operand).comparison) = true ↔
      Undivided members := by
  rw [comparison_of]
  refine ⟨h.undivided_of_same, fun hu => ?_⟩
  cases htakes : operator.takesOperand with
  | true =>
    rw [← h.eq_of_undivided htakes hu]
    exact hp.same_self
  | false =>
    cases h with
    | empty h => exact h
    | notEmpty h => exact h
    | const | negated => cases htakes
    | bound hb =>
      simp only [bounds, List.mem_cons, Prod.mk.injEq, List.not_mem_nil, or_false] at hb
      obtain ⟨rfl, -⟩ | ⟨rfl, -⟩ | ⟨rfl, -⟩ | ⟨rfl, -⟩ := hb <;> cases htakes
    | @pattern pattern =>
      obtain ⟨_, _, hread, hpattern, -⟩ | ⟨hread, -⟩ := readPattern_cases pattern
      · rw [hread, takesOperand_of_isPattern hpattern] at htakes
        cases htakes
      · rw [hread] at htakes
        cases htakes

/-- What a fragment is read as without a warning: it tests one property, and the comparison of that
is recognised. -/
theorem parse_without_warning {f : Value} {path : String} {c : Condition}
    (h : parse f path = (some c, [])) : ∃ key members operator operand,
      testedProperties? f = some [(key, .obj members)] ∧ Recognised members operator operand ∧
        c = of (.str key) operator operand := by
  unfold parse at h
  cases htested : testedProperties? f with
  | none => simp [htested] at h
  | some tested =>
    rw [htested] at h
    match tested, h with
    | [], h => simp at h
    | (key, comparison) :: others, h =>
      obtain ⟨hc, hwarnings⟩ := Prod.mk.inj h
      obtain ⟨hignored, hread⟩ := List.append_eq_nil_iff.1 hwarnings
      obtain rfl : others = [] := by
        unfold ignoredWarnings Entries.names at hignored
        cases others with
        | nil => rfl
        | cons other others => simp at hignored
      cases hrecognised : readComparison? comparison with
      | none => simp [hrecognised] at hread
      | some r =>
        rw [hrecognised] at hc
        cases comparison with
        | obj members =>
          exact ⟨key, members, r.1, r.2, rfl, recognised_of_read hrecognised,
            (Option.some.inj hc).symm⟩
        | null | bool | int | float | str | list => cases hrecognised

/-- A fragment that is read without a warning tests one property, the field of the condition, and
gives it the comparison that the condition makes exactly when that is undivided: beside what is read
of a comparison everything else in it is lost, and a regular expression without the marks of an
operator becomes a text to be equal to. -/
theorem parse_keeps_iff {f : Value} (hf : f.Proper) {path : String} {c : Condition}
    (h : parse f path = (some c, [])) : ∃ key comparison,
      testedProperties? f = some [(key, comparison)] ∧ c.field = .str key ∧
        (comparison.same (.obj c.comparison) = true ↔ IsUndivided comparison) := by
  obtain ⟨key, members, operator, operand, htested, hrecognised, rfl⟩ := parse_without_warning h
  have hp : (Value.obj members).Proper := by
    unfold testedProperties? at htested
    cases f with
    | obj all =>
      have hproperties := hf.member "properties"
      dsimp only at htested
      cases hmember : Value.member all "properties" with
      | obj tested =>
        rw [hmember] at htested hproperties
        cases tested with
        | nil => cases htested
        | cons p ps =>
          rw [Option.some.inj htested] at hproperties
          exact hproperties.of_mem (List.mem_singleton.2 rfl)
      | null | bool | int | float | str | list => simp [hmember] at htested
    | null | bool | int | float | str | list => cases htested
  refine ⟨key, .obj members, htested, rfl, ?_⟩
  rw [hrecognised.same_iff hp]
  constructor
  · exact fun hu => ⟨members, rfl, hu⟩
  · rintro ⟨_, heq, hu⟩
    rwa [Value.obj.inj heq]

/-- Of a comparison with a value and with a bound the bound is lost without a warning. -/
theorem parse_loses_bound :
    ∃ comparison c,
      parse (.obj [("properties", .obj [("a", comparison)])]) "#/if" = (some c, []) ∧
        comparison = .obj [("const", .int 1), ("minimum", .int 3)] ∧ c.field = .str "a" ∧
        comparison.same (.obj c.comparison) = false := by
  have hproper : (Value.obj [("properties", .obj [("a", .obj [("const", .int 1),
      ("minimum", .int 3)])])]).Proper := Value.proper_of_everywhere (by decide)
  obtain ⟨key, comparison, htested, hfield, hiff⟩ := parse_keeps_iff hproper
    (show parse _ "#/if" = (some (of (.str "a") .equals (.int 1)), []) from rfl)
  obtain ⟨rfl, rfl⟩ := Prod.mk.inj (List.singleton_inj.1 (Option.some.inj htested))
  refine ⟨_, _, rfl, rfl, hfield, Bool.eq_false_iff.2 fun hsame => ?_⟩
  obtain ⟨members, heq, hu⟩ := hiff.1 hsame
  rw [← Value.obj.inj heq] at hu
  exact absurd hu.alone (by decide)

end Condition

end FormGraph
