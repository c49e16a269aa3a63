import FormGraph.Json.Writer
import FormGraph.Proofs.Tables

/-!
# Documents that say the same

Two values are alike when they are the same JSON value: the members of an object in any order, the
kinds of numbers kept. Objects are compared through the look-up of a name, so that members put
together from several parts are compared part by part (`Members.Alike.append`).
-/

namespace FormGraph

namespace Value

/-- The two values are the same JSON value, but for the order of members. -/
inductive Alike : Value → Value → Prop where
  | null : Alike .null .null
  | bool (b : Bool) : Alike (.bool b) (.bool b)
  | int (n : Int) : Alike (.int n) (.int n)
  | float {x y : Double} (h : jsonDouble x = jsonDouble y) : Alike (.float x) (.float y)
  | str (s : String) : Alike (.str s) (.str s)
  | list {as bs : List Value} (length : as.length = bs.length)
    (items : ∀ (i : Nat) (a b : Value), as[i]? = some a → bs[i]? = some b → Alike a b) :
    Alike (.list as) (.list bs)
  | obj {as bs : Members}
    (names : ∀ name, (Entries.find? as name).isSome = (Entries.find? bs name).isSome)
    (members : ∀ (name : String) (a b : Value), Entries.find? as name = some a →
      Entries.find? bs name = some b → Alike a b) : Alike (.obj as) (.obj bs)

mutual

theorem Alike.refl : ∀ v : Value, Alike v v
  | .null => .null
  | .bool b => .bool b
  | .int n => .int n
  | .float _ => .float rfl
  | .str s => .str s
  | .list items => .list rfl fun i a b ha hb => by
    obtain rfl := Option.some.inj (ha.symm.trans hb)
    exact Alike.refl_items items a (List.mem_of_getElem? ha)
  | .obj members => .obj (fun _ => rfl) fun name a b ha hb => by
    obtain rfl := Option.some.inj (ha.symm.trans hb)
    exact Alike.refl_members members _ (Entries.mem_of_find? ha)

theorem Alike.refl_items : ∀ (items : List Value), ∀ v ∈ items, Alike v v
  | [], _, h => by simp at h
  | v :: items, w, h => by
    rcases List.mem_cons.1 h with h | h
    · rw [h]
      exact Alike.refl v
    · exact Alike.refl_items items w h

theorem Alike.refl_members : ∀ (members : Members), ∀ m ∈ members, Alike m.2 m.2
  | [], _, h => by simp at h
  | (n, v) :: members, m, h => by
    rcases List.mem_cons.1 h with h | h
    · rw [h]
      exact Alike.refl v
    · exact Alike.refl_members members m h

end

theorem Alike.symm {v w : Value} (h : Alike v w) : Alike w v := by
  induction h with
  | null => exact .null
  | bool b => exact .bool b
  | int n => exact .int n
  | float h => exact .float h.symm
  | str s => exact .str s
  | list length _ ih => exact .list length.symm fun i a b ha hb => ih i b a hb ha
  | obj names _ ih => exact .obj (fun n => (names n).symm) fun n a b ha hb => ih n b a hb ha

theorem Alike.trans {u v w : Value} (h : Alike u v) (h' : Alike v w) : Alike u w := by
  induction h generalizing w with
  | null => exact h'
  | bool b => exact h'
  | int n => exact h'
  | float h =>
    cases h' with
    | float h' => exact .float (h.trans h')
  | str s => exact h'
  | @list as bs length _ ih =>
    cases h' with
    | @list _ cs length' items' =>
      refine .list (length.trans length') fun i a c ha hc => ?_
      have hi : i < bs.length := length ▸ (List.getElem?_eq_some_iff.1 ha).1
      exact ih i a bs[i] ha (List.getElem?_eq_getElem hi)
        (items' i _ c (List.getElem?_eq_getElem hi) hc)
  | @obj as bs names _ ih =>
    cases h' with
    | @obj _ cs names' members' =>
      refine .obj (fun n => (names n).trans (names' n)) fun n a c ha hc => ?_
      obtain ⟨b, hb⟩ := Option.isSome_iff_exists.1
        ((names n).symm.trans (by rw [ha]; rfl) : (Entries.find? bs n).isSome = true)
      exact ih n a b ha hb (members' n b c hb hc)

/-! ## Members -/

/-- What stands under a name in two objects is alike, or is in neither. -/
def AlikeAt : Option Value → Option Value → Prop
  | none, none => True
  | some a, some b => Alike a b
  | _, _ => False

theorem AlikeAt.refl : ∀ a : Option Value, AlikeAt a a
  | none => trivial
  | some a => Alike.refl a

theorem AlikeAt.or {a b c d : Option Value} (h : AlikeAt a b) (h' : AlikeAt c d) :
    AlikeAt (a.or c) (b.or d) := by
  cases a <;> cases b
  · exact h'
  · exact h.elim
  · exact h.elim
  · exact h

theorem AlikeAt.trans {a b c : Option Value} (h : AlikeAt a b) (h' : AlikeAt b c) :
    AlikeAt a c := by
  cases a with
  | none =>
    cases b with
    | none => exact h'
    | some b => exact h.elim
  | some a =>
    cases b with
    | none => exact h.elim
    | some b =>
      cases c with
      | none => exact h'.elim
      | some c => exact Alike.trans h h'

/-- Objects are alike when the look-up of every name is. -/
theorem alike_obj_iff {as bs : Members} : Alike (.obj as) (.obj bs) ↔
    ∀ name, AlikeAt (Entries.find? as name) (Entries.find? bs name) := by
  constructor
  · intro h name
    cases h with
    | obj names members =>
      have hname := names name
      cases ha : Entries.find? as name with
      | none =>
        rw [ha] at hname
        cases hb : Entries.find? bs name with
        | none => trivial
        | some b =>
          rw [hb] at hname
          simp at hname
      | some a =>
        rw [ha] at hname
        cases hb : Entries.find? bs name with
        | none =>
          rw [hb] at hname
          simp at hname
        | some b => exact members name a b ha hb
  · intro h
    refine .obj (fun name => ?_) fun name a b ha hb => ?_
    · have hname := h name
      cases ha : Entries.find? as name with
      | none =>
        cases hb : Entries.find? bs name with
        | none => rfl
        | some b =>
          rw [ha, hb] at hname
          exact hname.elim
      | some a =>
        cases hb : Entries.find? bs name with
        | none =>
          rw [ha, hb] at hname
          exact hname.elim
        | some b => rfl
    · have hname := h name
      rw [ha, hb] at hname
      exact hname

theorem alike_list_iff {as bs : List Value} :
    Alike (.list as) (.list bs) ↔ List.Forall₂ Alike as bs := by
  constructor
  · intro h
    cases h with
    | list length items =>
      refine List.forall₂_iff_get.2 ⟨length, fun i h₁ h₂ => ?_⟩
      exact items i _ _ (List.getElem?_eq_getElem h₁) (List.getElem?_eq_getElem h₂)
  · intro h
    refine .list h.length_eq fun i a b ha hb => ?_
    obtain ⟨h₁, rfl⟩ := List.getElem?_eq_some_iff.1 ha
    obtain ⟨h₂, rfl⟩ := List.getElem?_eq_some_iff.1 hb
    exact (List.forall₂_iff_get.1 h).2 i h₁ h₂

end Value

end FormGraph
