import FormGraph.Proofs.Reading.Calm

/-!
# What is read does not depend on the place

A reader is told where a schema stands, which goes into its notes, and how deep it may go. Neither
changes what it reads: two calm readings of one schema come to the same outline (`agree_reader`).
-/

namespace FormGraph

open Noted

namespace Noted

variable {α β : Type}

/-- Two readings come to the same where both are calm. -/
def Agree (x x' : Reading α) : Prop := x.Calm → x'.Calm → x.value = x'.value

namespace Agree

variable {x x' : Reading α}

theorem of_value (h : x.value = x'.value) : Agree x x' := fun _ _ => h

theorem refl (x : Reading α) : Agree x x := fun _ _ => rfl

/-- Where nothing is read but notes are taken. -/
theorem unit (x x' : Reading Unit) : Agree x x' := fun _ _ => rfl

theorem bind {f f' : α → Reading β} (hx : Agree x x') (hf : ∀ a, Agree (f a) (f' a)) :
    Agree (x >>= f) (x' >>= f') := by
  intro hc hc'
  rw [calm_bind_iff] at hc hc'
  rw [value_bind, value_bind, ← hx hc.1 hc'.1]
  exact hf _ hc.2 (hx hc.1 hc'.1 ▸ hc'.2)

/-- A chain in which an issue is noted agrees with any. -/
theorem issue_bind (text : String) (f : Unit → Reading α) (x : Reading α) :
    Agree (Reading.issue text >>= f) x := fun hc => absurd hc (not_calm_issue_bind text f)

theorem mapM {f f' : α → Reading β} {as : List α} (h : ∀ a, Agree (f a) (f' a)) :
    Agree (as.mapM f) (as.mapM f') := by
  intro hc hc'
  rw [calm_mapM_iff] at hc hc'
  rw [value_mapM, value_mapM]
  exact List.map_congr_left fun a ha => h a (hc a ha) (hc' a ha)

theorem foldlM {f f' : β → α → Reading β} {as : List α} (h : ∀ b a, Agree (f b a) (f' b a)) :
    ∀ b, Agree (as.foldlM f b) (as.foldlM f' b) := by
  induction as with
  | nil => exact fun b => .refl _
  | cons a as ih =>
    intro b
    rw [List.foldlM_cons, List.foldlM_cons]
    exact (h b a).bind ih

end Agree

end Noted

namespace Decompile

open Reading

/-- The two schemas differ only in where they stand. -/
structure Inner.Same (inner inner' : Inner) : Prop where
  /-- They may be read as the same. -/
  role : inner.role = inner'.role
  /-- The schema is the same. -/
  schema : inner.schema = inner'.schema
  /-- So is the key. -/
  key : inner.key = inner'.key
  /-- So is the required mark. -/
  required : inner.required = inner'.required

/-- Two readers agree on every schema, wherever it stands. -/
def Reader.Agree (below below' : Reader) : Prop :=
  ∀ inner inner' : Inner, inner.Same inner' → Noted.Agree (below inner) (below' inner')

variable {below below' : Reader}

/-! ## Groups -/

theorem branchInner_same (schema : Members) (kind : EdgeKind) (path path' : String) :
    (branchInner schema kind path).Same (branchInner schema kind path') := by
  unfold branchInner
  dsimp only
  split
  · split
    · split
      · exact ⟨rfl, rfl, rfl, rfl⟩
      · exact ⟨rfl, rfl, rfl, rfl⟩
    · exact ⟨rfl, rfl, rfl, rfl⟩
  · exact ⟨rfl, rfl, rfl, rfl⟩

theorem agree_branch (hb : below.Agree below') (schema : Value) (kind : EdgeKind)
    (path path' : String) :
    Noted.Agree (branch below schema kind path) (branch below' schema kind path') := by
  cases schema with
  | obj members => exact hb _ _ (branchInner_same members kind path path')
  | null | bool _ | int _ | float _ | str _ | list _ => exact .issue_bind _ _ _

theorem agree_sharedBranch (hb : below.Agree below') (kind : EdgeKind) (path path' : String)
    (schema : Option Value) (parts : GroupParts) :
    Noted.Agree (sharedBranch below kind path schema parts)
      (sharedBranch below' kind path' schema parts) := by
  unfold sharedBranch
  cases schema with
  | none => exact .refl _
  | some v =>
    dsimp only
    split
    · exact .refl _
    · exact (agree_branch hb v kind path path').bind fun _ => .refl _

theorem agree_conditionOf (test : Value) (path path' : String) :
    Noted.Agree (conditionOf test path) (conditionOf test path') := by
  refine .of_value ?_
  show (Condition.parse test path).1 = (Condition.parse test path').1
  unfold Condition.parse
  cases Condition.testedProperties? test with
  | none => rfl
  | some properties =>
    cases properties with
    | nil => rfl
    | cons p properties =>
      show some (Condition.read _ p.2 path).1 = some (Condition.read _ p.2 path').1
      unfold Condition.read
      split <;> rfl

theorem agree_clauseOf (hb : below.Agree below') (kind : GroupKind) (path path' : String)
    (parts : GroupParts) (entry : Members) :
    Noted.Agree (clauseOf below kind path parts entry)
      (clauseOf below' kind path' parts entry) := by
  unfold clauseOf
  refine (agree_conditionOf _ _ _).bind fun _ => ?_
  refine (Agree.unit _ _).bind fun _ => ?_
  refine (agree_sharedBranch hb _ _ _ _ _).bind fun _ => ?_
  exact (agree_sharedBranch hb _ _ _ _ _).bind fun _ => .refl _

theorem agree_clausesOf (hb : below.Agree below') (kind : GroupKind) (entries : List Value)
    (path path' : String) :
    Noted.Agree (clausesOf below kind entries path) (clausesOf below' kind entries path') := by
  rw [clausesOf_eq, clausesOf_eq]
  refine .foldlM (fun parts p => ?_) _
  obtain ⟨v, i⟩ := p
  cases v with
  | obj entry => exact agree_clauseOf hb kind _ _ parts entry
  | null | bool _ | int _ | float _ | str _ | list _ => exact .refl _

theorem agree_testsOf (test : Members) (path path' : String) :
    Noted.Agree (testsOf test path) (testsOf test path') := by
  have hread : ∀ tests : List Value, Noted.Agree
      (tests.mapM fun t => conditionOf t (path ++ "/if"))
      (tests.mapM fun t => conditionOf t (path' ++ "/if")) :=
    fun tests => .mapM fun t => agree_conditionOf t _ _
  unfold testsOf
  dsimp only
  split
  · exact (Agree.refl _).bind fun _ => (hread _).bind fun _ => .refl _
  · exact (Agree.refl _).bind fun _ => (hread _).bind fun _ => .refl _
  · exact (Agree.refl _).bind fun _ => (hread _).bind fun _ => .refl _
  · exact (Agree.refl _).bind fun _ => (hread _).bind fun _ => .refl _
  · exact (Agree.unit _ _).bind fun _ => (Agree.refl _).bind fun _ => (hread _).bind fun _ => .refl _

theorem agree_blockBranch (hb : below.Agree below') (block : Members) (keyword : String)
    (kind : EdgeKind) (path path' : String) :
    Noted.Agree (blockBranch below block keyword kind path)
      (blockBranch below' block keyword kind path') := by
  unfold blockBranch
  split
  · exact .refl _
  · exact agree_branch hb _ kind _ _

theorem agree_groupParts (hb : below.Agree below') (kind : GroupKind) (schema : Members)
    (path path' : String) :
    Noted.Agree (groupParts below kind schema path) (groupParts below' kind schema path') := by
  unfold groupParts
  cases kind with
  | ifBlock =>
    dsimp only
    rw [blockOf_eq, blockOf_eq]
    refine (agree_testsOf _ _ _).bind fun _ => ?_
    refine (agree_blockBranch hb _ _ _ _ _).bind fun _ => ?_
    exact (agree_blockBranch hb _ _ _ _ _).bind fun _ => .refl _
  | allOf | anyOf | oneOf => exact agree_clausesOf hb _ _ _ _

/-! ## Nodes -/

theorem agree_textOf (schema : Members) (keyword path path' : String) :
    Noted.Agree (textOf schema keyword path) (textOf schema keyword path') := by
  unfold textOf
  split
  · exact .refl _
  · exact .refl _
  · exact .issue_bind _ _ _

theorem agree_nodeOf (key : String) (body : Body Nat) (schema : Members) (consumed : List String)
    (kept : Members) (required : Bool) (path path' : String) :
    Noted.Agree (nodeOf key body schema consumed kept required path)
      (nodeOf key body schema consumed kept required path') := by
  have hleft : Noted.Agree (leftovers body.kind schema consumed path)
      (leftovers body.kind schema consumed path') := .of_value rfl
  unfold nodeOf
  refine hleft.bind fun _ => ?_
  refine (agree_textOf _ _ _ _).bind fun _ => ?_
  exact (agree_textOf _ _ _ _).bind fun _ => .refl _

theorem agree_group (hb : below.Agree below') (kind : GroupKind) (schema : Members)
    (taken : List String) (path path' : String) :
    Noted.Agree (group below kind schema taken path) (group below' kind schema taken path') := by
  rw [group_eq, group_eq]
  refine (agree_groupParts hb kind schema path path').bind fun _ => ?_
  exact (agree_nodeOf _ _ _ _ _ _ _ _).bind fun _ => .refl _

/-! ## Objects and arrays -/

theorem agree_childGroup (hb : below.Agree below') (kind : GroupKind) (schema : Members)
    (path path' : String) (consumed : List String) (parts : ObjectParts) :
    Noted.Agree (childGroup below kind schema path consumed parts)
      (childGroup below' kind schema path' consumed parts) :=
  (agree_group hb kind schema parts.keys path path').bind fun _ => .refl _

theorem agree_requiredOf (schema : Members) (path path' : String) :
    Noted.Agree (requiredOf schema path) (requiredOf schema path') := by
  unfold requiredOf
  split
  · exact .refl _
  · split
    · exact .refl _
    · exact .issue_bind _ _ _
  · exact .issue_bind _ _ _

theorem agree_propertiesOf (schema : Members) (path path' : String) :
    Noted.Agree (propertiesOf schema path) (propertiesOf schema path') := by
  unfold propertiesOf
  split
  · exact .refl _
  · exact .refl _
  · exact .issue_bind _ _ _

theorem agree_property (hb : below.Agree below') (required : List String) (path path' : String)
    (p : String × Value) :
    Noted.Agree (property below required path p) (property below' required path' p) := by
  unfold property
  exact (Agree.unit _ _).bind fun _ => hb _ _ ⟨rfl, rfl, rfl, rfl⟩

theorem agree_ownBlock (hb : below.Agree below') (schema : Members) (path path' : String)
    (parts : ObjectParts) :
    Noted.Agree (ownBlock below schema path parts) (ownBlock below' schema path' parts) := by
  unfold ownBlock
  split
  · dsimp only
    split
    · exact agree_childGroup hb _ _ _ _ _ _
    · exact .of_value rfl
  · exact .refl _

theorem agree_allOfEntry (hb : below.Agree below') (path path' : String)
    (acc : ObjectParts × List Value) (p : Value × Nat) :
    Noted.Agree (allOfEntry below path acc p) (allOfEntry below' path' acc p) := by
  unfold allOfEntry
  split
  · exact (agree_childGroup hb _ _ _ _ _ _).bind fun _ => .refl _
  · exact .refl _

theorem agree_ownAllOf (hb : below.Agree below') (schema : Members) (path path' : String)
    (parts : ObjectParts) :
    Noted.Agree (ownAllOf below schema path parts) (ownAllOf below' schema path' parts) := by
  rw [ownAllOf_eq, ownAllOf_eq]
  split
  · refine (Agree.foldlM (fun acc p => agree_allOfEntry hb path path' acc p) _).bind fun acc => ?_
    unfold keepOthers
    split
    · exact .refl _
    · exact .of_value rfl
  · exact .refl _
  · exact .of_value rfl

theorem agree_ownListGroup (hb : below.Agree below') (schema : Members) (path path' : String)
    (parts : ObjectParts) (kind : GroupKind) :
    Noted.Agree (ownListGroup below schema path parts kind)
      (ownListGroup below' schema path' parts kind) := by
  unfold ownListGroup
  split
  · exact .refl _
  · dsimp only
    split
    · exact agree_childGroup hb _ _ _ _ _ _
    · exact .of_value rfl

theorem agree_objectParts (hb : below.Agree below') (schema : Members) (path path' : String) :
    Noted.Agree (objectParts below schema path) (objectParts below' schema path') := by
  unfold objectParts
  refine (agree_requiredOf schema path path').bind fun _ => ?_
  refine (agree_propertiesOf schema path path').bind fun _ => ?_
  refine (Agree.mapM fun p => agree_property hb _ path path' p).bind fun _ => ?_
  refine (Agree.unit _ _).bind fun _ => ?_
  refine (agree_ownBlock hb schema path path' _).bind fun _ => ?_
  refine (agree_ownAllOf hb schema path path' _).bind fun _ => ?_
  refine (agree_ownListGroup hb schema path path' _ _).bind fun _ => ?_
  exact agree_ownListGroup hb schema path path' _ _

theorem agree_itemSchema (tupleItems : TupleItems) (items : Value) (path path' : String) :
    Noted.Agree (itemSchema tupleItems items path) (itemSchema tupleItems items path') := by
  unfold itemSchema
  split
  · split
    · exact .issue_bind _ _ _
    · exact .of_value rfl
  · exact .refl _

theorem agree_arrayItem (hb : below.Agree below') (tupleItems : TupleItems) (schema : Members)
    (path path' : String) :
    Noted.Agree (arrayItem below tupleItems schema path)
      (arrayItem below' tupleItems schema path') := by
  unfold arrayItem
  split
  · exact .refl _
  · dsimp only
    refine (agree_itemSchema tupleItems _ _ _).bind fun item => ?_
    split
    · exact .refl _
    · exact hb _ _ ⟨rfl, rfl, rfl, rfl⟩
    · exact .issue_bind _ _ _

theorem agree_partsOf (hb : below.Agree below') (tupleItems : TupleItems) (kind : NodeKind)
    (schema : Members) (path path' : String) :
    Noted.Agree (partsOf below tupleItems kind schema path)
      (partsOf below' tupleItems kind schema path') := by
  unfold partsOf
  split
  · exact agree_objectParts hb schema path path'
  · exact (agree_arrayItem hb tupleItems schema path path').bind fun _ => .refl _
  · exact .refl _

/-! ## Whole schemas -/

theorem agree_inferKind (schema : Members) (path path' : String) :
    Noted.Agree (inferKind schema path) (inferKind schema path') := by
  rw [inferKind_eq, inferKind_eq]
  split
  · exact .refl _
  · have hdeclared : Noted.Agree (declaredType schema path) (declaredType schema path') := by
      unfold declaredType
      split <;> exact .of_value rfl
    refine hdeclared.bind fun declared => ?_
    unfold kindOfDeclared
    split
    · exact .refl _
    · split
      · exact .refl _
      · exact .of_value rfl
    · exact .issue_bind _ _ _

theorem agree_typed (hb : below.Agree below') (tupleItems : TupleItems) {inner inner' : Inner}
    (h : inner.Same inner') (schema : Members) :
    Noted.Agree (typed below tupleItems inner schema) (typed below' tupleItems inner' schema) := by
  rw [typed_eq, typed_eq, h.key, h.required]
  refine (agree_inferKind schema _ _).bind fun kind => ?_
  refine (Agree.unit _ _).bind fun _ => ?_
  refine (agree_partsOf hb tupleItems kind schema _ _).bind fun _ => ?_
  exact (agree_nodeOf _ _ _ _ _ _ _ _).bind fun _ => .refl _

theorem agree_targetOf (names : List String) (pointer : Value) (path path' : String) :
    Noted.Agree (targetOf names pointer path) (targetOf names pointer path') := by
  unfold targetOf
  split
  · split
    · dsimp only
      split
      · exact .refl _
      · exact .issue_bind _ _ _
    · exact .issue_bind _ _ _
  · exact .issue_bind _ _ _

theorem agree_pointing (names : List String) {inner inner' : Inner} (h : inner.Same inner')
    (schema : Members) :
    Noted.Agree (pointing names inner schema) (pointing names inner' schema) := by
  unfold pointing
  rw [h.key, h.required]
  refine (agree_targetOf names _ _ _).bind fun _ => ?_
  exact (agree_nodeOf _ _ _ _ _ _ _ _).bind fun _ => .refl _

theorem agree_schema (hb : below.Agree below') (tupleItems : TupleItems) (names : List String) :
    (schema below tupleItems names).Agree (schema below' tupleItems names) := by
  intro inner inner' h
  unfold schema
  rw [h.role, h.schema]
  split
  · split
    · exact (agree_group hb _ _ _ _ _).bind fun _ => .refl _
    · split
      · exact (agree_pointing names h _).bind fun _ => .refl _
      · exact (agree_typed hb tupleItems h _).bind fun _ => .refl _
  · exact .issue_bind _ _ _

/-- What is read calmly of a schema depends neither on where it stands nor on how deep the reader may
go. -/
theorem agree_reader (tupleItems : TupleItems) (names : List String) :
    ∀ depth depth' : Nat,
      (reader tupleItems names depth).Agree (reader tupleItems names depth')
  | 0, _ => fun _ _ _ hc => absurd hc not_calm_unusable
  | _, 0 => fun _ _ _ _ hc => absurd hc not_calm_unusable
  | depth + 1, depth' + 1 =>
    agree_schema (agree_reader tupleItems names depth depth') tupleItems names

end Decompile

end FormGraph
