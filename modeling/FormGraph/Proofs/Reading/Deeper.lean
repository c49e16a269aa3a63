import FormGraph.Proofs.Reading.Usable

/-!
# A deeper reader reads the same

A reader that may go deeper reads everything that a shallower one can deal with, as it is read there
and with the same notes (`persists_reader`). So documents of different depths that have a schema in
common read it alike.
-/

namespace FormGraph

namespace Noted

variable {α β : Type}

/-- If the first reading is usable, the second one is the same, with the same notes. -/
def Persists (x x' : Reading α) : Prop := x.Usable → x' = x

namespace Persists

variable {x x' : Reading α}

theorem refl (x : Reading α) : Persists x x := fun _ => rfl

theorem bind {f f' : α → Reading β} (hx : Persists x x') (hf : ∀ a, Persists (f a) (f' a)) :
    Persists (x >>= f) (x' >>= f') := by
  intro hu
  rw [usable_bind_iff] at hu
  rw [hx hu.1]
  apply Noted.ext
  · rw [value_bind, value_bind, hf _ hu.2]
  · rw [notes_bind, notes_bind, hf _ hu.2]

theorem mapM {f f' : α → Reading β} {as : List α} (h : ∀ a, Persists (f a) (f' a)) :
    Persists (as.mapM f) (as.mapM f') := by
  induction as with
  | nil => exact .refl _
  | cons a as ih =>
    rw [List.mapM_cons, List.mapM_cons]
    exact (h a).bind fun _ => ih.bind fun _ => .refl _

theorem foldlM {f f' : β → α → Reading β} {as : List α} (h : ∀ b a, Persists (f b a) (f' b a)) :
    ∀ b, Persists (as.foldlM f b) (as.foldlM f' b) := by
  induction as with
  | nil => exact fun b => .refl _
  | cons a as ih =>
    intro b
    rw [List.foldlM_cons, List.foldlM_cons]
    exact (h b a).bind ih

end Persists

end Noted

namespace Decompile

open Reading Noted

/-- Whatever the first reader can deal with, the second one reads alike. -/
def Reader.Persists (below below' : Reader) : Prop :=
  ∀ inner, Noted.Persists (below inner) (below' inner)

section

variable {below below' : Reader} (hb : below.Persists below')

include hb

/-! ## Groups -/

theorem persists_branch (schema : Value) (kind : EdgeKind) (path : String) :
    Noted.Persists (branch below schema kind path) (branch below' schema kind path) := by
  cases schema with
  | obj members => exact hb _
  | null | bool _ | int _ | float _ | str _ | list _ => exact .refl _

theorem persists_sharedBranch (kind : EdgeKind) (path : String) (schema : Option Value)
    (parts : GroupParts) :
    Noted.Persists (sharedBranch below kind path schema parts)
      (sharedBranch below' kind path schema parts) := by
  unfold sharedBranch
  cases schema with
  | none => exact .refl _
  | some v =>
    dsimp only
    split
    · exact .refl _
    · exact (persists_branch hb v kind path).bind fun _ => .refl _

theorem persists_clauseOf (kind : GroupKind) (path : String) (parts : GroupParts)
    (entry : Members) :
    Noted.Persists (clauseOf below kind path parts entry) (clauseOf below' kind path parts entry) := by
  unfold clauseOf
  refine (Persists.refl _).bind fun _ => (Persists.refl _).bind fun _ => ?_
  refine (persists_sharedBranch hb _ _ _ _).bind fun _ => ?_
  exact (persists_sharedBranch hb _ _ _ _).bind fun _ => .refl _

theorem persists_clausesOf (kind : GroupKind) (entries : List Value) (path : String) :
    Noted.Persists (clausesOf below kind entries path) (clausesOf below' kind entries path) := by
  rw [clausesOf_eq, clausesOf_eq]
  refine .foldlM (fun parts p => ?_) _
  obtain ⟨v, i⟩ := p
  cases v with
  | obj entry => exact persists_clauseOf hb kind _ parts entry
  | null | bool _ | int _ | float _ | str _ | list _ => exact .refl _

theorem persists_blockBranch (block : Members) (keyword : String) (kind : EdgeKind)
    (path : String) :
    Noted.Persists (blockBranch below block keyword kind path)
      (blockBranch below' block keyword kind path) := by
  unfold blockBranch
  split
  · exact .refl _
  · exact persists_branch hb _ kind _

theorem persists_groupParts (kind : GroupKind) (schema : Members) (path : String) :
    Noted.Persists (groupParts below kind schema path) (groupParts below' kind schema path) := by
  unfold groupParts
  cases kind with
  | ifBlock =>
    dsimp only
    rw [blockOf_eq, blockOf_eq]
    refine (Persists.refl _).bind fun _ => ?_
    refine (persists_blockBranch hb _ _ _ _).bind fun _ => ?_
    exact (persists_blockBranch hb _ _ _ _).bind fun _ => .refl _
  | allOf | anyOf | oneOf => exact persists_clausesOf hb _ _ _

theorem persists_group (kind : GroupKind) (schema : Members) (taken : List String)
    (path : String) :
    Noted.Persists (group below kind schema taken path) (group below' kind schema taken path) := by
  rw [group_eq, group_eq]
  exact (persists_groupParts hb kind schema path).bind fun _ => .refl _

/-! ## Objects and arrays -/

theorem persists_childGroup (kind : GroupKind) (schema : Members) (path : String)
    (consumed : List String) (parts : ObjectParts) :
    Noted.Persists (childGroup below kind schema path consumed parts)
      (childGroup below' kind schema path consumed parts) :=
  (persists_group hb kind schema parts.keys path).bind fun _ => .refl _

theorem persists_property (required : List String) (path : String) (p : String × Value) :
    Noted.Persists (property below required path p) (property below' required path p) :=
  (Persists.refl _).bind fun _ => hb _

theorem persists_ownBlock (schema : Members) (path : String) (parts : ObjectParts) :
    Noted.Persists (ownBlock below schema path parts) (ownBlock below' schema path parts) := by
  unfold ownBlock
  dsimp only
  split_ifs
  · exact persists_childGroup hb _ _ _ _ _
  · exact .refl _
  · exact .refl _

theorem persists_allOfEntry (path : String) (acc : ObjectParts × List Value) (p : Value × Nat) :
    Noted.Persists (allOfEntry below path acc p) (allOfEntry below' path acc p) := by
  unfold allOfEntry
  split
  · exact (persists_childGroup hb _ _ _ _ _).bind fun _ => .refl _
  · exact .refl _

theorem persists_ownAllOf (schema : Members) (path : String) (parts : ObjectParts) :
    Noted.Persists (ownAllOf below schema path parts) (ownAllOf below' schema path parts) := by
  rw [ownAllOf_eq, ownAllOf_eq]
  split
  · exact (Persists.foldlM (persists_allOfEntry hb path) _).bind fun _ => .refl _
  · exact .refl _
  · exact .refl _

theorem persists_ownListGroup (schema : Members) (path : String) (parts : ObjectParts)
    (kind : GroupKind) :
    Noted.Persists (ownListGroup below schema path parts kind)
      (ownListGroup below' schema path parts kind) := by
  unfold ownListGroup
  split
  · exact .refl _
  · dsimp only
    split_ifs
    · exact persists_childGroup hb _ _ _ _ _
    · exact .refl _

theorem persists_objectParts (schema : Members) (path : String) :
    Noted.Persists (objectParts below schema path) (objectParts below' schema path) := by
  unfold objectParts
  refine (Persists.refl _).bind fun _ => (Persists.refl _).bind fun _ => ?_
  refine (Persists.mapM (persists_property hb _ path)).bind fun _ => (Persists.refl _).bind fun _ => ?_
  refine (persists_ownBlock hb schema path _).bind fun _ => ?_
  refine (persists_ownAllOf hb schema path _).bind fun _ => ?_
  refine (persists_ownListGroup hb schema path _ _).bind fun _ => ?_
  exact persists_ownListGroup hb schema path _ _

theorem persists_arrayItem (tupleItems : TupleItems) (schema : Members) (path : String) :
    Noted.Persists (arrayItem below tupleItems schema path)
      (arrayItem below' tupleItems schema path) := by
  unfold arrayItem
  split
  · exact .refl _
  · refine (Persists.refl _).bind fun item => ?_
    split
    · exact .refl _
    · exact hb _
    · exact .refl _

theorem persists_partsOf (tupleItems : TupleItems) (kind : NodeKind) (schema : Members)
    (path : String) :
    Noted.Persists (partsOf below tupleItems kind schema path)
      (partsOf below' tupleItems kind schema path) := by
  unfold partsOf
  split
  · exact persists_objectParts hb schema path
  · exact (persists_arrayItem hb tupleItems schema path).bind fun _ => .refl _
  · exact .refl _

/-! ## Whole schemas -/

theorem persists_typed (tupleItems : TupleItems) (inner : Inner) (schema : Members) :
    Noted.Persists (typed below tupleItems inner schema) (typed below' tupleItems inner schema) := by
  rw [typed_eq, typed_eq]
  refine (Persists.refl _).bind fun kind => (Persists.refl _).bind fun _ => ?_
  exact (persists_partsOf hb tupleItems kind schema _).bind fun _ => .refl _

theorem persists_schema (tupleItems : TupleItems) (names : List String) :
    (schema below tupleItems names).Persists (schema below' tupleItems names) := by
  intro inner
  unfold schema
  split
  · split
    · exact (persists_group hb _ _ _ _).bind fun _ => .refl _
    · split
      · exact .refl _
      · exact (persists_typed hb tupleItems inner _).bind fun _ => .refl _
  · exact .refl _

theorem persists_definitionOf (entry : String × Value) :
    Noted.Persists (definitionOf below entry) (definitionOf below' entry) := by
  rw [definitionOf_eq, definitionOf_eq]
  refine Persists.bind ?_ fun _ => .refl _
  unfold definitionContent
  split_ifs
  · exact .refl _
  · exact hb _

end

/-- Whatever a reader can deal with, a reader that may go deeper reads alike. -/
theorem persists_reader (tupleItems : TupleItems) (names : List String) :
    ∀ {depth depth' : Nat}, depth ≤ depth' →
      (reader tupleItems names depth).Persists (reader tupleItems names depth')
  | 0, _, _ => fun _ hu => absurd rfl (hu .unusable List.mem_cons_self)
  | _ + 1, _ + 1, h =>
    persists_schema (persists_reader tupleItems names (Nat.le_of_succ_le_succ h)) tupleItems names

end Decompile

end FormGraph
