import FormGraph.Value.Order
import Mathlib.Data.String.Basic
import Mathlib.Data.Sum.Order

/-!
# Sorted values

Values by which can be looked up have an order wherever they can be compared: a text by its
characters, a number by what it is worth, a sequence by the first items that differ. What
`Value.ascending?` gives are therefore the values it was given, from the least on and each once
(`ascending?_sorted`).
-/

namespace FormGraph

namespace Value

/-! ## Scalars -/

/-- What a scalar is sorted by: a text by itself and a number by what it is worth; the two do not
mix. -/
def rank? : Value → Option (String ⊕ Int)
  | .str s => some (.inl s)
  | v => v.worth?.map .inr

/-- A scalar does not come after another one where its rank does not. -/
theorem scalarLe?_eq_true_iff {a b : Value} : scalarLe? a b = some true ↔
    ∃ r s, a.rank? = some r ∧ b.rank? = some s ∧ r ≤ s := by
  cases a <;> cases b <;> simp [scalarLe?, rank?, worth?]

/-- A scalar comes after another one where its rank does. -/
theorem scalarLe?_eq_false_iff {a b : Value} : scalarLe? a b = some false ↔
    ∃ r s, a.rank? = some r ∧ b.rank? = some s ∧ s < r := by
  cases a <;> cases b <;> simp [scalarLe?, rank?, worth?]

/-- Scalars say the same where they have the same rank, or none. -/
theorem same_iff_of_isScalar {a b : Value} (ha : a.isScalar = true) (hb : b.isScalar = true) :
    a.same b = true ↔ a.rank? = b.rank? := by
  cases a <;> cases b <;>
    simp [same, rank?, isNull, worth?, str?, isScalar] at ha hb ⊢ <;> exact eq_comm

theorem same_comm_of_isScalar {a b : Value} (ha : a.isScalar = true) (hb : b.isScalar = true) :
    a.same b = b.same a := by
  rw [Bool.eq_iff_iff, same_iff_of_isScalar ha hb, same_iff_of_isScalar hb ha, eq_comm]

theorem scalarLe?_isSome_iff {a b : Value} : (scalarLe? a b).isSome = true ↔
    ∃ r s, a.rank? = some r ∧ b.rank? = some s ∧ (r ≤ s ∨ s < r) := by
  rw [Option.isSome_iff_exists, Bool.exists_bool, scalarLe?_eq_true_iff, scalarLe?_eq_false_iff]
  constructor
  · rintro (⟨r, s, hr, hs, h⟩ | ⟨r, s, hr, hs, h⟩)
    · exact ⟨r, s, hr, hs, Or.inr h⟩
    · exact ⟨r, s, hr, hs, Or.inl h⟩
  · rintro ⟨r, s, hr, hs, h | h⟩
    · exact Or.inr ⟨r, s, hr, hs, h⟩
    · exact Or.inl ⟨r, s, hr, hs, h⟩

/-- Of two scalars that are different one comes after the other, whichever way they are compared. -/
theorem scalarLe?_flip {a b : Value} {c : Bool} (ha : a.isScalar = true) (hb : b.isScalar = true)
    (hne : a.same b = false) (h : scalarLe? a b = some c) : scalarLe? b a = some !c := by
  rw [← Bool.not_eq_true, same_iff_of_isScalar ha hb] at hne
  cases c with
  | true =>
    obtain ⟨r, s, hr, hs, hle⟩ := scalarLe?_eq_true_iff.1 h
    refine scalarLe?_eq_false_iff.2 ⟨s, r, hs, hr, lt_of_le_of_ne hle ?_⟩
    rintro rfl
    exact hne (hr.trans hs.symm)
  | false =>
    obtain ⟨r, s, hr, hs, hlt⟩ := scalarLe?_eq_false_iff.1 h
    exact scalarLe?_eq_true_iff.2 ⟨s, r, hs, hr, hlt.le⟩

theorem scalarLe?_trans {a b c : Value} (hab : scalarLe? a b = some true)
    (hbc : scalarLe? b c = some true) : scalarLe? a c = some true := by
  obtain ⟨r, s, hr, hs, hrs⟩ := scalarLe?_eq_true_iff.1 hab
  obtain ⟨s', t, hs', ht, hst⟩ := scalarLe?_eq_true_iff.1 hbc
  obtain rfl := Option.some.inj (hs.symm.trans hs')
  exact scalarLe?_eq_true_iff.2 ⟨r, t, hr, ht, hrs.trans hst⟩

theorem scalarLe?_antisymm {a b : Value} (ha : a.isScalar = true) (hb : b.isScalar = true)
    (hab : scalarLe? a b = some true) (hba : scalarLe? b a = some true) : a.same b = true := by
  by_contra hne
  have h := scalarLe?_flip ha hb (Bool.not_eq_true _ ▸ hne) hab
  rw [hba] at h
  cases h

/-- What says the same has the same order. -/
theorem scalarLe?_congr {a b c d : Value} (ha : a.isScalar = true) (hb : b.isScalar = true)
    (hc : c.isScalar = true) (hd : d.isScalar = true) (hab : a.same b = true)
    (hcd : c.same d = true) : scalarLe? a c = scalarLe? b d := by
  rw [same_iff_of_isScalar ha hb] at hab
  rw [same_iff_of_isScalar hc hd] at hcd
  refine Option.ext fun r => ?_
  cases r with
  | true => rw [scalarLe?_eq_true_iff, scalarLe?_eq_true_iff, hab, hcd]
  | false => rw [scalarLe?_eq_false_iff, scalarLe?_eq_false_iff, hab, hcd]

/-! ## Sequences -/

/-- The items of a sequence that can be looked up by. -/
abbrev Scalars (vs : List Value) : Prop := ∀ v ∈ vs, v.isScalar = true

theorem same_refl_of_isScalar {a : Value} (ha : a.isScalar = true) : a.same a = true :=
  (same_iff_of_isScalar ha ha).2 rfl

theorem sameItems_comm {as : List Value} : ∀ {bs : List Value}, Scalars as → Scalars bs →
    sameItems as bs = sameItems bs as := by
  induction as with
  | nil => intro bs _ _; cases bs <;> rfl
  | cons a as ih =>
    intro bs ha hb
    cases bs with
    | nil => rfl
    | cons b bs =>
      obtain ⟨ha, has⟩ := List.forall_mem_cons.1 ha
      obtain ⟨hb, hbs⟩ := List.forall_mem_cons.1 hb
      show (a.same b && sameItems as bs) = (b.same a && sameItems bs as)
      rw [same_comm_of_isScalar ha hb, ih has hbs]

theorem itemsLe?_self {as : List Value} (h : Scalars as) : itemsLe? as as = some true := by
  induction as with
  | nil => rfl
  | cons a as ih =>
    obtain ⟨ha, has⟩ := List.forall_mem_cons.1 h
    rw [itemsLe?, if_pos (same_refl_of_isScalar ha), ih has]

/-- Of two sequences one does not come after the other, where the two have an order. -/
theorem itemsLe?_flip {as : List Value} : ∀ {bs : List Value} {c : Bool}, Scalars as → Scalars bs →
    itemsLe? as bs = some c →
      ∃ d, itemsLe? bs as = some d ∧ (c = false → d = true) := by
  induction as with
  | nil =>
    intro bs c _ _ h
    cases bs with
    | nil => exact ⟨true, rfl, fun _ => rfl⟩
    | cons b bs => exact ⟨false, rfl, fun hc => by rw [itemsLe?] at h; cases h; cases hc⟩
  | cons a as ih =>
    intro bs c ha hb h
    cases bs with
    | nil => exact ⟨true, rfl, fun _ => rfl⟩
    | cons b bs =>
      obtain ⟨ha, has⟩ := List.forall_mem_cons.1 ha
      obtain ⟨hb, hbs⟩ := List.forall_mem_cons.1 hb
      rw [itemsLe?] at h ⊢
      rw [same_comm_of_isScalar hb ha]
      split_ifs at h ⊢ with hsame
      · exact ih has hbs h
      · exact ⟨!c, scalarLe?_flip ha hb (Bool.not_eq_true _ ▸ hsame) h, fun hc => by rw [hc]; rfl⟩

theorem itemsLe?_trans {as : List Value} : ∀ {bs cs : List Value}, Scalars as → Scalars bs →
    Scalars cs → itemsLe? as bs = some true → itemsLe? bs cs = some true →
      itemsLe? as cs = some true := by
  induction as with
  | nil => exact fun _ _ _ _ _ => rfl
  | cons a as ih =>
    intro bs cs ha hb hc hab hbc
    cases bs with
    | nil => cases hab
    | cons b bs =>
      cases cs with
      | nil => cases hbc
      | cons c cs =>
        obtain ⟨ha, has⟩ := List.forall_mem_cons.1 ha
        obtain ⟨hb, hbs⟩ := List.forall_mem_cons.1 hb
        obtain ⟨hc, hcs⟩ := List.forall_mem_cons.1 hc
        have hself := fun {v : Value} => same_refl_of_isScalar (a := v)
        have hsame : a.same b = true → b.same c = true → a.same c = true := by
          rw [same_iff_of_isScalar ha hb, same_iff_of_isScalar hb hc, same_iff_of_isScalar ha hc]
          exact Eq.trans
        rw [itemsLe?] at hab hbc ⊢
        split_ifs at hab hbc with h₁ h₂ h₂
        · rw [if_pos (hsame h₁ h₂)]
          exact ih has hbs hcs hab hbc
        · rw [if_neg fun h => h₂ ?_, scalarLe?_congr ha hb hc hc h₁ (hself hc)]
          · exact hbc
          · rw [same_iff_of_isScalar hb hc, ← (same_iff_of_isScalar ha hb).1 h₁,
              (same_iff_of_isScalar ha hc).1 h]
        · rw [if_neg fun h => h₁ ?_, ← scalarLe?_congr ha ha hb hc (hself ha) h₂]
          · exact hab
          · rw [same_iff_of_isScalar ha hb, (same_iff_of_isScalar ha hc).1 h,
              (same_iff_of_isScalar hb hc).1 h₂]
        · rw [if_neg fun h => h₁ ?_]
          · exact scalarLe?_trans hab hbc
          · rw [← scalarLe?_congr hb hb ha hc (hself hb) h] at hbc
            exact scalarLe?_antisymm ha hb hab hbc

/-! ## Values that can be looked up by -/

/-- A value by which can be looked up is a scalar or a sequence of scalars. -/
theorem isLookup_cases {v : Value} (h : v.isLookup = true) :
    v.isScalar = true ∨ ∃ items, v = .list items ∧ Scalars items := by
  cases v with
  | list items => exact Or.inr ⟨items, rfl, List.all_eq_true.1 h⟩
  | null | bool | int | float | str | obj => exact Or.inl h

/-- With a value that is no sequence another one is compared as scalars are. -/
theorem le?_of_isScalar {a b : Value} (h : a.isScalar = true ∨ b.isScalar = true) :
    a.le? b = scalarLe? a b := by
  cases a <;> cases b <;> first | rfl | simp [isScalar] at h

theorem same_of_isScalar_of_list {a : Value} {items : List Value} (ha : a.isScalar = true) :
    a.same (.list items) = false ∧ (Value.list items).same a = false := by
  cases a <;> simp [same, isNull, worth?, str?, isScalar] at ha ⊢

/-- A sequence has no order with a value that is none. -/
theorem scalarLe?_list {a : Value} {items : List Value} :
    scalarLe? a (.list items) = none ∧ scalarLe? (.list items) a = none := by
  cases a <;> exact ⟨rfl, rfl⟩

theorem same_comm {a b : Value} (ha : a.isLookup = true) (hb : b.isLookup = true) :
    a.same b = b.same a := by
  rcases isLookup_cases ha with ha | ⟨as, rfl, has⟩ <;>
    rcases isLookup_cases hb with hb | ⟨bs, rfl, hbs⟩
  · exact same_comm_of_isScalar ha hb
  · rw [(same_of_isScalar_of_list ha).1, (same_of_isScalar_of_list ha).2]
  · rw [(same_of_isScalar_of_list hb).1, (same_of_isScalar_of_list hb).2]
  · exact sameItems_comm has hbs

theorem same_refl {a : Value} (h : a.isLookup = true) : a.same a = true := by
  rcases isLookup_cases h with ha | ⟨as, rfl, has⟩
  · exact same_refl_of_isScalar ha
  · induction as with
    | nil => rfl
    | cons a as ih =>
      obtain ⟨ha, has⟩ := List.forall_mem_cons.1 has
      exact Bool.and_eq_true_iff.2 ⟨same_refl_of_isScalar ha, ih has (List.all_eq_true.2 has)⟩

theorem le?_trans {a b c : Value} (ha : a.isLookup = true) (hb : b.isLookup = true)
    (hc : c.isLookup = true) (hab : a.le? b = some true) (hbc : b.le? c = some true) :
    a.le? c = some true := by
  rcases isLookup_cases hb with hb | ⟨bs, rfl, hbs⟩
  · rw [le?_of_isScalar (Or.inr hb)] at hab
    rw [le?_of_isScalar (Or.inl hb)] at hbc
    have hac := scalarLe?_trans hab hbc
    rcases isLookup_cases ha with ha | ⟨as, rfl, -⟩
    · rwa [le?_of_isScalar (Or.inl ha)]
    · rw [scalarLe?_list.2] at hab
      cases hab
  · rcases isLookup_cases ha with ha | ⟨as, rfl, has⟩
    · rw [le?_of_isScalar (Or.inl ha), scalarLe?_list.1] at hab
      cases hab
    · rcases isLookup_cases hc with hc | ⟨cs, rfl, hcs⟩
      · rw [le?_of_isScalar (Or.inr hc), scalarLe?_list.2] at hbc
        cases hbc
      · exact itemsLe?_trans has hbs hcs hab hbc

/-- Of two different values one does not come after the other, where the two have an order. -/
theorem le?_flip {a b : Value} {c : Bool} (ha : a.isLookup = true) (hb : b.isLookup = true)
    (hne : a.same b = false) (h : a.le? b = some c) :
    ∃ d, b.le? a = some d ∧ (c = false → d = true) := by
  rcases isLookup_cases ha with ha | ⟨as, rfl, has⟩ <;>
    rcases isLookup_cases hb with hb | ⟨bs, rfl, hbs⟩
  · rw [le?_of_isScalar (Or.inl ha)] at h
    exact ⟨!c, (le?_of_isScalar (Or.inl hb)).trans (scalarLe?_flip ha hb hne h),
      fun hc => by rw [hc]; rfl⟩
  · rw [le?_of_isScalar (Or.inl ha), scalarLe?_list.1] at h
    cases h
  · rw [le?_of_isScalar (Or.inr hb), scalarLe?_list.2] at h
    cases h
  · exact itemsLe?_flip has hbs h

/-- A value that has an order with some value has one with itself. -/
theorem le?_self {a b : Value} {c : Bool} (ha : a.isLookup = true) (h : a.le? b = some c) :
    a.le? a = some true := by
  rcases isLookup_cases ha with ha | ⟨as, rfl, has⟩
  · rw [le?_of_isScalar (Or.inl ha)] at h ⊢
    obtain ⟨r, s, hr, -, -⟩ := scalarLe?_isSome_iff.1 (Option.isSome_of_eq_some h)
    exact scalarLe?_eq_true_iff.2 ⟨r, r, hr, hr, le_refl r⟩
  · exact itemsLe?_self has

/-! ## Lists of values -/

/-- Of the values that say the same, the first is kept. -/
theorem distinct_ok (vs : List Value) :
    (distinct vs).Pairwise (fun a b => b.same a = false) ∧ (∀ v ∈ distinct vs, v ∈ vs) ∧
      ∀ v ∈ vs, v ∈ distinct vs ∨ ∃ w ∈ distinct vs, v.same w = true := by
  suffices h : ∀ seen : List Value, seen.Pairwise (fun a b => b.same a = false) →
      let all := vs.foldl (fun seen v => if seen.any v.same then seen else seen ++ [v]) seen
      all.Pairwise (fun a b => b.same a = false) ∧ (∀ v ∈ all, v ∈ seen ∨ v ∈ vs) ∧
        (∀ v ∈ seen, v ∈ all) ∧ ∀ v ∈ vs, v ∈ all ∨ ∃ w ∈ all, v.same w = true by
    obtain ⟨hpair, hsub, -, hall⟩ := h [] .nil
    exact ⟨hpair, fun v hv => (hsub v hv).resolve_left List.not_mem_nil, hall⟩
  induction vs with
  | nil => exact fun seen h => ⟨h, fun v hv => Or.inl hv, fun v hv => hv, by simp⟩
  | cons v vs ih =>
    intro seen hseen
    rw [List.foldl_cons]
    by_cases hany : seen.any v.same = true
    · rw [if_pos hany]
      obtain ⟨hpair, hsub, hkept, hall⟩ := ih seen hseen
      refine ⟨hpair, fun w hw => (hsub w hw).imp_right (List.mem_cons_of_mem _), hkept,
        List.forall_mem_cons.2 ⟨Or.inr ?_, hall⟩⟩
      obtain ⟨w, hw, hsame⟩ := List.any_eq_true.1 hany
      exact ⟨w, hkept w hw, hsame⟩
    · rw [if_neg hany]
      have hnew : ∀ w ∈ seen, v.same w = false := by simpa using hany
      obtain ⟨hpair, hsub, hkept, hall⟩ := ih (seen ++ [v]) <| List.pairwise_append.2
        ⟨hseen, List.pairwise_singleton _ _, fun a ha b hb => List.mem_singleton.1 hb ▸ hnew a ha⟩
      refine ⟨hpair, fun w hw => ?_, fun w hw => hkept w (List.mem_append_left _ hw),
        List.forall_mem_cons.2 ⟨Or.inl (hkept v (List.mem_append_right _ List.mem_cons_self)),
          hall⟩⟩
      rcases hsub w hw with hw | hw
      · rcases List.mem_append.1 hw with hw | hw
        · exact Or.inl hw
        · exact Or.inr (List.mem_cons.2 (Or.inl (List.mem_singleton.1 hw)))
      · exact Or.inr (List.mem_cons_of_mem _ hw)

theorem pairwise_of_areComparable {vs : List Value} (h : areComparable vs = true) :
    vs.Pairwise fun a b => (a.le? b).isSome = true := by
  induction vs with
  | nil => exact .nil
  | cons v vs ih =>
    rw [areComparable, Bool.and_eq_true, List.all_eq_true] at h
    exact .cons h.1 (ih h.2)

theorem getD_false_eq_true_iff {o : Option Bool} : o.getD false = true ↔ o = some true := by
  cases o <;> simp

/-- Sorting needs an order of the items of the list only. -/
theorem pairwise_mergeSort_of_mem {α : Type} {le : α → α → Bool} {l : List α}
    (trans : ∀ a ∈ l, ∀ b ∈ l, ∀ c ∈ l, le a b = true → le b c = true → le a c = true)
    (total : ∀ a ∈ l, ∀ b ∈ l, (le a b || le b a) = true) :
    (l.mergeSort le).Pairwise fun a b => le a b = true := by
  have hmap := List.map_mergeSort (r := fun a b : {a // a ∈ l} => le a b) (s := le)
    (f := Subtype.val) (l := l.attach) fun _ _ _ _ => rfl
  rw [List.attach_map_subtype_val] at hmap
  rw [← hmap, List.pairwise_map]
  refine List.pairwise_mergeSort ?_ ?_ _
  · exact fun ⟨a, ha⟩ ⟨b, hb⟩ ⟨c, hc⟩ => trans a ha b hb c hc
  · exact fun ⟨a, ha⟩ ⟨b, hb⟩ => total a ha b hb

/-- Of values that can be sorted, any two that are different have an order. -/
theorem exists_le?_of_areComparable {vs : List Value} (hlookup : ∀ v ∈ vs, v.isLookup = true)
    (hdistinct : vs.Pairwise fun a b => b.same a = false) (h : areComparable vs = true) :
    ∀ ⦃a⦄, a ∈ vs → ∀ ⦃b⦄, b ∈ vs → a ≠ b → a.same b = false ∧ ∃ c, a.le? b = some c := by
  have hpair := hdistinct.and (pairwise_of_areComparable h)
  refine List.Pairwise.forall_of_forall_of_flip (fun a _ hne => absurd rfl hne) ?_ ?_
  · refine hpair.imp_of_mem fun {a b} ha hb ⟨hne, hsome⟩ _ => ?_
    exact ⟨(same_comm (hlookup a ha) (hlookup b hb)).trans hne, Option.isSome_iff_exists.1 hsome⟩
  · refine hpair.imp_of_mem fun {a b} ha hb ⟨hne, hsome⟩ _ => ⟨hne, ?_⟩
    obtain ⟨c, hc⟩ := Option.isSome_iff_exists.1 hsome
    obtain ⟨d, hd, -⟩ := le?_flip (hlookup a ha) (hlookup b hb)
      ((same_comm (hlookup a ha) (hlookup b hb)).trans hne) hc
    exact ⟨d, hd⟩

theorem nodup_of_distinct {vs : List Value} (hlookup : ∀ v ∈ vs, v.isLookup = true)
    (hdistinct : vs.Pairwise fun a b => b.same a = false) : vs.Nodup := by
  refine hdistinct.imp_of_mem fun {a b} ha _ hne heq => ?_
  rw [← heq, same_refl (hlookup a ha)] at hne
  cases hne

/-- Different values that can be sorted are sorted from the least on. -/
theorem pairwise_le?_mergeSort {vs : List Value} (hlookup : ∀ v ∈ vs, v.isLookup = true)
    (hdistinct : vs.Pairwise fun a b => b.same a = false) (h : areComparable vs = true) :
    (vs.mergeSort fun a b => (a.le? b).getD false).Pairwise fun a b => a.le? b = some true := by
  have hdiffer := exists_le?_of_areComparable hlookup hdistinct h
  by_cases hself : ∀ v ∈ vs, v.le? v = some true
  · refine (pairwise_mergeSort_of_mem (fun a ha b hb c hc => ?_) fun a ha b hb => ?_).imp
      getD_false_eq_true_iff.1
    · simp only [getD_false_eq_true_iff]
      exact le?_trans (hlookup a ha) (hlookup b hb) (hlookup c hc)
    · rw [Bool.or_eq_true, getD_false_eq_true_iff, getD_false_eq_true_iff]
      by_cases heq : a = b
      · exact Or.inl (heq ▸ hself a ha)
      · obtain ⟨hne, c, hc⟩ := hdiffer ha hb heq
        obtain ⟨d, hd, himp⟩ := le?_flip (hlookup a ha) (hlookup b hb) hne hc
        cases c with
        | true => exact Or.inl hc
        | false => exact Or.inr (himp rfl ▸ hd)
  · -- a value that has no order with itself has none with another one, so it is alone
    push Not at hself
    obtain ⟨v, hv, hself⟩ := hself
    have halone : ∀ w ∈ vs, w = v := by
      intro w hw
      by_contra hne
      obtain ⟨-, c, hc⟩ := hdiffer hv hw (Ne.symm hne)
      exact hself (le?_self (hlookup v hv) hc)
    have hrep := List.eq_replicate_of_mem halone
    have hlength : vs.length ≤ 1 := List.nodup_replicate.1 (hrep ▸ nodup_of_distinct hlookup hdistinct)
    have hpos : 0 < vs.length := List.length_pos_of_mem hv
    have hone : vs = [v] := by rw [hrep, show vs.length = 1 by omega]; rfl
    rw [hone, List.mergeSort_singleton]
    exact List.pairwise_singleton _ _

/-- The first comes before the second. -/
def Before (a b : Value) : Prop := a.le? b = some true ∧ a.same b = false

/-- Values by which can be looked up are sorted from the least on, and no two of them say the same. -/
theorem ascending?_sorted {vs sorted : List Value} (hlookup : ∀ v ∈ vs, v.isLookup = true)
    (h : ascending? vs = some sorted) :
    sorted.Pairwise Before ∧ (∀ v ∈ sorted, v ∈ vs) ∧ ∀ v ∈ vs, ∃ w ∈ sorted, v.same w = true := by
  unfold ascending? at h
  dsimp only at h
  split_ifs at h with hcomparable
  obtain rfl := Option.some.inj h
  obtain ⟨hdistinct, hsub, hall⟩ := distinct_ok vs
  have hlookups : ∀ v ∈ distinct vs, v.isLookup = true := fun v hv => hlookup v (hsub v hv)
  have hdiffer := exists_le?_of_areComparable hlookups hdistinct hcomparable
  have hperm := List.mergeSort_perm (distinct vs) fun a b => (a.le? b).getD false
  have hnodup := hperm.nodup_iff.2 (nodup_of_distinct hlookups hdistinct)
  have hsorted := pairwise_le?_mergeSort hlookups hdistinct hcomparable
  refine ⟨(hsorted.and hnodup).imp_of_mem ?_, fun v hv => hsub v (hperm.mem_iff.1 hv),
    fun v hv => ?_⟩
  · intro a b ha hb ⟨hle, hne⟩
    exact ⟨hle, (hdiffer (hperm.mem_iff.1 ha) (hperm.mem_iff.1 hb) hne).1⟩
  · rcases hall v hv with hv' | ⟨w, hw, hsame⟩
    · exact ⟨v, hperm.mem_iff.2 hv', same_refl (hlookup v hv)⟩
    · exact ⟨w, hperm.mem_iff.2 hw, hsame⟩

end Value

end FormGraph
