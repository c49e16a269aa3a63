import FormGraph.Proofs.Tables
import FormGraph.Value.Basic

/-!
# Values within values

A value stands inside another one when a path of members and items leads to it. What stands inside is
less deep, and in a document with different names at every level everything that stands inside is
such a value.
-/

namespace FormGraph

/-- A value as it is read from a text: the members of an object have different names. -/
inductive Value.Proper : Value → Prop where
  | null : Proper .null
  | bool (b : Bool) : Proper (.bool b)
  | int (n : Int) : Proper (.int n)
  | float (x : Double) : Proper (.float x)
  | str (s : String) : Proper (.str s)
  | list {items : List Value} (items_proper : ∀ v ∈ items, Proper v) : Proper (.list items)
  | obj {members : Members} (names_nodup : (Entries.names members).Nodup)
    (members_proper : ∀ m ∈ members, Proper m.2) : Proper (.obj members)

namespace Value

theorem Proper.names {members : Members} (h : Proper (.obj members)) :
    (Entries.names members).Nodup := by
  cases h with
  | obj names_nodup _ => exact names_nodup

theorem Proper.of_mem {members : Members} (h : Proper (.obj members)) {m : String × Value}
    (hm : m ∈ members) : m.2.Proper := by
  cases h with
  | obj _ members_proper => exact members_proper m hm

theorem Proper.of_find? {members : Members} (h : Proper (.obj members)) {name : String} {v : Value}
    (hv : Entries.find? members name = some v) : v.Proper :=
  h.of_mem (Entries.mem_of_find? hv)

theorem Proper.member {members : Members} (h : Proper (.obj members)) (name : String) :
    (Value.member members name).Proper := by
  unfold Value.member
  cases hv : Entries.find? members name with
  | none => exact .null
  | some v => exact h.of_find? hv

theorem Proper.items {items : List Value} (h : Proper (.list items)) : ∀ v ∈ items, v.Proper := by
  cases h with
  | list items_proper => exact items_proper

/-- The entries of a list that stands under a name. -/
theorem Proper.entries {members : Members} (h : Proper (.obj members)) (name : String) :
    ∀ v ∈ (Value.member members name).list?.getD [], v.Proper := by
  intro v hv
  have hmember := h.member name
  cases hlist : Value.member members name with
  | list items =>
    rw [hlist] at hv hmember
    exact hmember.items v hv
  | null | bool _ | int _ | float _ | str _ | obj _ => simp [hlist, Value.list?] at hv

/-- The object that stands under a name. -/
theorem Proper.fields {members : Members} (h : Proper (.obj members)) (name : String) :
    (Value.obj ((Value.member members name).obj?.getD [])).Proper := by
  have hmember := h.member name
  cases hobj : Value.member members name with
  | obj fields =>
    rw [hobj] at hmember
    exact hmember
  | null | bool _ | int _ | float _ | str _ | list _ =>
    exact .obj List.nodup_nil fun m hm => absurd hm List.not_mem_nil

/-- The first value stands inside the second one. -/
inductive Inside : Value → Value → Prop where
  | member {members : Members} {name : String} {v : Value}
    (h : Entries.find? members name = some v) : Inside v (.obj members)
  | item {items : List Value} {v : Value} (h : v ∈ items) : Inside v (.list items)
  | trans {u v w : Value} (inner : Inside u v) (outer : Inside v w) : Inside u w

theorem depth_le_depthMembers {members : Members} {m : String × Value} (h : m ∈ members) :
    m.2.depth ≤ depthMembers members := by
  induction members with
  | nil => simp at h
  | cons e members ih =>
    obtain ⟨n, v⟩ := e
    rw [depthMembers]
    rcases List.mem_cons.1 h with rfl | h
    · exact Nat.le_max_left _ _
    · exact Nat.le_trans (ih h) (Nat.le_max_right _ _)

theorem depthMembers_le {members : Members} {n : Nat} (h : ∀ m ∈ members, m.2.depth ≤ n) :
    depthMembers members ≤ n := by
  induction members with
  | nil => exact Nat.zero_le _
  | cons e members ih =>
    obtain ⟨name, v⟩ := e
    rw [depthMembers]
    exact Nat.max_le.2 ⟨h (name, v) List.mem_cons_self, ih fun m hm => h m (List.mem_cons_of_mem _ hm)⟩

theorem depth_le_depthItems {items : List Value} {v : Value} (h : v ∈ items) :
    v.depth ≤ depthItems items := by
  induction items with
  | nil => simp at h
  | cons w items ih =>
    rw [depthItems]
    rcases List.mem_cons.1 h with rfl | h
    · exact Nat.le_max_left _ _
    · exact Nat.le_trans (ih h) (Nat.le_max_right _ _)

theorem depthMembers_le_append (members more : Members) :
    depthMembers members ≤ depthMembers (members ++ more) := by
  induction members with
  | nil => exact Nat.zero_le _
  | cons e members ih =>
    obtain ⟨n, v⟩ := e
    rw [List.cons_append, depthMembers, depthMembers]
    exact Nat.max_le.2 ⟨Nat.le_max_left _ _, Nat.le_trans ih (Nat.le_max_right _ _)⟩

theorem Inside.depth_lt {v w : Value} (h : Inside v w) : v.depth < w.depth := by
  induction h with
  | member h =>
    rw [Value.depth]
    exact Nat.lt_succ_of_le (depth_le_depthMembers (Entries.mem_of_find? h))
  | item h =>
    rw [Value.depth]
    exact Nat.lt_succ_of_le (depth_le_depthItems h)
  | trans _ _ ih₁ ih₂ => exact Nat.lt_trans ih₁ ih₂

theorem Inside.proper {v w : Value} (h : Inside v w) (hw : w.Proper) : v.Proper := by
  induction h with
  | member h => exact hw.of_find? h
  | item h => exact hw.items _ h
  | trans _ _ ih₁ ih₂ => exact ih₁ (ih₂ hw)

/-- What stands inside an object is a member of it, or stands inside one. -/
theorem Inside.of_obj {w : Value} {members : Members} (h : Inside w (.obj members)) :
    ∃ m ∈ members, w = m.2 ∨ Inside w m.2 := by
  generalize hv : Value.obj members = v at h
  induction h with
  | member hfind =>
    cases hv
    exact ⟨_, Entries.mem_of_find? hfind, Or.inl rfl⟩
  | item _ => cases hv
  | trans inner _ _ ih =>
    obtain ⟨m, hm, rfl | hin⟩ := ih hv
    · exact ⟨m, hm, Or.inr inner⟩
    · exact ⟨m, hm, Or.inr (inner.trans hin)⟩

/-! ## Testing everything in a value -/

mutual

/-- Whether a value and everything that stands inside it passes a test. -/
def everywhere (p : Value → Bool) : Value → Bool
  | .list items => p (.list items) && everywhereItems p items
  | .obj members => p (.obj members) && everywhereMembers p members
  | v => p v

/-- Whether everything in the items of a list passes a test. -/
def everywhereItems (p : Value → Bool) : List Value → Bool
  | [] => true
  | v :: items => everywhere p v && everywhereItems p items

/-- Whether everything in the members of an object passes a test. -/
def everywhereMembers (p : Value → Bool) : List (String × Value) → Bool
  | [] => true
  | (_, v) :: members => everywhere p v && everywhereMembers p members

end

variable {p : Value → Bool}

theorem everywhere_self {v : Value} (h : v.everywhere p = true) : p v = true := by
  cases v with
  | list items =>
    rw [everywhere, Bool.and_eq_true] at h
    exact h.1
  | obj members =>
    rw [everywhere, Bool.and_eq_true] at h
    exact h.1
  | null | bool _ | int _ | float _ | str _ => exact h

theorem everywhere_of_mem_items {items : List Value} (h : everywhereItems p items = true) :
    ∀ v ∈ items, v.everywhere p = true := by
  induction items with
  | nil => simp
  | cons w items ih =>
    rw [everywhereItems, Bool.and_eq_true] at h
    exact List.forall_mem_cons.2 ⟨h.1, ih h.2⟩

theorem everywhere_of_mem_members {members : Members} (h : everywhereMembers p members = true) :
    ∀ m ∈ members, m.2.everywhere p = true := by
  induction members with
  | nil => simp
  | cons m members ih =>
    rw [everywhereMembers, Bool.and_eq_true] at h
    exact List.forall_mem_cons.2 ⟨h.1, ih h.2⟩

theorem Inside.everywhere {v w : Value} (h : Inside v w) (hw : w.everywhere p = true) :
    v.everywhere p = true := by
  induction h with
  | member h =>
    rw [Value.everywhere, Bool.and_eq_true] at hw
    exact everywhere_of_mem_members hw.2 _ (Entries.mem_of_find? h)
  | item h =>
    rw [Value.everywhere, Bool.and_eq_true] at hw
    exact everywhere_of_mem_items hw.2 _ h
  | trans _ _ ih₁ ih₂ => exact ih₁ (ih₂ hw)

/-- Whether the members of an object have different names. -/
def hasDistinctNames : Value → Bool
  | .obj members => (Entries.names members).Nodup
  | _ => true

/-- To be proper can be tested. -/
theorem proper_of_everywhere {v : Value} (h : v.everywhere hasDistinctNames = true) : v.Proper := by
  induction hd : v.depth using Nat.strongRecOn generalizing v with
  | ind d ih =>
    subst hd
    cases v with
    | list items =>
      refine .list fun w hw => ?_
      have hin : Inside w (.list items) := .item hw
      exact ih _ hin.depth_lt (hin.everywhere h) rfl
    | obj members =>
      have hnames : (Entries.names members).Nodup := of_decide_eq_true (everywhere_self h)
      refine .obj hnames fun m hm => ?_
      have hin : Inside m.2 (.obj members) := .member (Entries.find?_of_mem hnames hm)
      exact ih _ hin.depth_lt (hin.everywhere h) rfl
    | null => exact .null
    | bool b => exact .bool b
    | int n => exact .int n
    | float x => exact .float x
    | str s => exact .str s

end Value

end FormGraph
