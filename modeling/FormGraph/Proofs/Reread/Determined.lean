import FormGraph.Proofs.Reread.Document

/-!
# What is written tells what is pointed at

Outlines that can be read back and are written alike are of one kind, field for field and branch for
branch, so their pointers point at the same definitions. Only what is written counts: branches that
are written the same may be shared or not.
-/

namespace FormGraph

namespace Value

variable {v w : Value} {ms ms' : Members}

theorem AlikeAt.exists_of_some {a : Value} {b : Option Value} (h : AlikeAt (some a) b) :
    ∃ w, b = some w ∧ Alike a w := by
  cases b with
  | none => exact h.elim
  | some w => exact ⟨w, rfl, h⟩

theorem Alike.find? (h : Alike (.obj ms) (.obj ms')) {k : String} {a : Value}
    (ha : Entries.find? ms k = some a) : ∃ w, Entries.find? ms' k = some w ∧ Alike a w := by
  have hk := alike_obj_iff.1 h k
  rw [ha] at hk
  exact hk.exists_of_some

theorem Alike.has (h : Alike (.obj ms) (.obj ms')) (k : String) :
    Entries.has ms k = Entries.has ms' k := by
  cases h with
  | obj names _ => exact names k

theorem Alike.hasAny (h : Alike (.obj ms) (.obj ms')) (keywords : List String) :
    Decompile.hasAny ms keywords = Decompile.hasAny ms' keywords := by
  unfold Decompile.hasAny
  rw [show Entries.has ms = Entries.has ms' from funext h.has]

theorem Alike.mem_names (h : Alike (.obj ms) (.obj ms')) {k : String}
    (hk : k ∈ Entries.names ms) : k ∈ Entries.names ms' := by
  rw [Entries.mem_names_iff, ← Entries.has] at hk ⊢
  rwa [← h.has]

theorem Alike.member (h : Alike (.obj ms) (.obj ms')) (k : String) :
    Alike (Value.member ms k) (Value.member ms' k) := by
  have hk := alike_obj_iff.1 h k
  unfold Value.member
  cases ha : Entries.find? ms k with
  | none =>
    rw [ha] at hk
    cases hb : Entries.find? ms' k with
    | none => exact .refl _
    | some b =>
      rw [hb] at hk
      exact hk.elim
  | some a =>
    rw [ha] at hk
    obtain ⟨b, hb, hab⟩ := hk.exists_of_some
    rw [hb]
    exact hab

theorem Alike.eq_nil (h : Alike (.obj []) (.obj ms)) : ms = [] := by
  cases ms with
  | nil => rfl
  | cons m ms => exact absurd (h.symm.mem_names (k := m.1) List.mem_cons_self) List.not_mem_nil

/-- Objects of different names that are alike have one member together. -/
theorem Alike.eq_singleton {k : String} {a : Value} (h : Alike (.obj [(k, a)]) (.obj ms))
    (hn : (Entries.names ms).Nodup) : ∃ b, ms = [(k, b)] ∧ Alike a b := by
  have hnames : ∀ n ∈ Entries.names ms, n = k :=
    fun n hmem => List.mem_singleton.1 (h.symm.mem_names hmem)
  cases ms with
  | nil =>
    exact absurd (h.mem_names (k := k) List.mem_cons_self) List.not_mem_nil
  | cons m rest =>
    obtain ⟨n, b⟩ := m
    obtain rfl := hnames n List.mem_cons_self
    obtain ⟨w, hw, hab⟩ := h.find? (k := n) (by rw [Entries.find?_cons, if_pos rfl])
    rw [Entries.find?_cons, if_pos rfl] at hw
    cases rest with
    | nil => exact ⟨b, rfl, Option.some.inj hw ▸ hab⟩
    | cons m' rest =>
      refine absurd (hnames m'.1 (List.mem_cons_of_mem _ List.mem_cons_self)) fun heq => ?_
      exact (List.nodup_cons.1 hn).1 (heq ▸ List.mem_cons_self)

theorem Alike.str_inj {s t : String} (h : Alike (.str s) (.str t)) : s = t := by
  cases h
  rfl

/-! ## The form of groups -/

theorem Alike.isFragment (h : Alike v w) (hv : Condition.isFragment v = true) :
    Condition.isFragment w = true := by
  unfold Condition.isFragment Condition.testedProperties? at hv ⊢
  cases h with
  | @obj as bs names members =>
    have hmember : Alike (Value.member as "properties") (Value.member bs "properties") :=
      (Alike.obj names members).member _
    dsimp only at hv ⊢
    generalize Value.member as "properties" = p at hv hmember
    generalize Value.member bs "properties" = q at hmember ⊢
    cases hmember with
    | @obj ps qs names members =>
      cases qs with
      | nil =>
        rw [(Alike.obj names members).symm.eq_nil] at hv
        exact hv
      | cons => rfl
    | null | bool _ | int _ | float _ | str _ | list _ _ => exact absurd hv Bool.false_ne_true
  | null | bool _ | int _ | float _ | str _ | list _ _ => exact absurd hv Bool.false_ne_true

theorem Alike.isTest (h : Alike v w) (hw : w.Proper) (hv : Decompile.isTest v = true) :
    Decompile.isTest w = true := by
  cases h with
  | @obj as bs names members =>
    have h : Alike (.obj as) (.obj bs) := .obj names members
    unfold Decompile.isTest at hv ⊢
    dsimp only at hv ⊢
    rw [Bool.or_eq_true, Bool.or_eq_true] at hv ⊢
    rcases hv with (hempty | hfragment) | hlist
    · rw [List.isEmpty_iff.1 hempty] at h
      exact .inl (.inl (List.isEmpty_iff.2 h.eq_nil))
    · exact .inl (.inr (h.isFragment hfragment))
    · refine .inr ?_
      split at hlist
      · next c cs =>
        obtain ⟨b, rfl, hb⟩ := h.eq_singleton hw.names
        cases b with
        | list ds =>
          have hall := alike_list_iff.1 hb
          cases hall with
          | cons hd hds =>
            rw [List.all_cons, Bool.and_eq_true, List.all_eq_true] at hlist
            refine Bool.and_eq_true_iff.2 ⟨hd.isFragment hlist.1, List.all_eq_true.2 fun x hx => ?_⟩
            obtain ⟨y, hy, hyx⟩ := Outline.exists_left_of_mem hds hx
            exact hyx.isFragment (hlist.2 y hy)
        | null | bool _ | int _ | float _ | str _ | obj _ => cases hb
      · cases hlist
  | null | bool _ | int _ | float _ | str _ | list _ _ => exact absurd hv Bool.false_ne_true

theorem Alike.isClause (h : Alike v w) (hv : Decompile.isClause v = true) :
    Decompile.isClause w = true := by
  cases h with
  | @obj as bs names members =>
    have h : Alike (.obj as) (.obj bs) := .obj names members
    unfold Decompile.isClause at hv ⊢
    dsimp only at hv ⊢
    cases hif : Entries.find? as "if" with
    | none => simp [hif] at hv
    | some test =>
      rw [hif] at hv
      obtain ⟨test', hif', htest⟩ := h.find? hif
      rw [hif']
      exact htest.isFragment hv
  | null | bool _ | int _ | float _ | str _ | list _ _ => exact absurd hv Bool.false_ne_true

/-- What is like a schema of the form of a group has this form. -/
theorem Alike.groupKind? (h : Alike v w) (hw : w.Proper) {kind : GroupKind}
    (hv : Decompile.groupKind? v = some kind) : Decompile.groupKind? w = some kind := by
  cases h with
  | @obj as bs names members =>
    have h : Alike (.obj as) (.obj bs) := .obj names members
    have hlists : (Decompile.listGroups.filter fun k => Entries.has as k.name) =
        Decompile.listGroups.filter fun k => Entries.has bs k.name :=
      List.filter_congr fun k _ => h.has k.name
    unfold Decompile.groupKind? at hv ⊢
    dsimp only at hv ⊢
    rw [h.hasAny, hlists] at hv
    cases hif : Entries.find? as "if" with
    | some test =>
      obtain ⟨test', hif', htest⟩ := h.find? hif
      rw [hif] at hv
      rw [hif']
      dsimp only at hv ⊢
      split_ifs at hv with hread
      rw [if_pos (htest.isTest (hw.of_find? hif') hread)]
      exact hv
    | none =>
      have hif' : Entries.find? bs "if" = none := by
        have hhas := h.has "if"
        unfold Entries.has at hhas
        rw [hif] at hhas
        exact Option.not_isSome_iff_eq_none.1 (hhas ▸ Bool.false_ne_true)
      rw [hif] at hv
      rw [hif']
      dsimp only at hv ⊢
      generalize (Decompile.listGroups.filter fun k => Entries.has bs k.name) = groups at hv ⊢
      split at hv
      · next kind' =>
        split_ifs at hv with hany
        rw [if_neg hany]
        have hmember := h.member kind'.name
        generalize Value.member as kind'.name = entries at hv hmember
        generalize Value.member bs kind'.name = entries' at hmember ⊢
        cases hmember with
        | @list cs ds length items =>
          have hall : List.Forall₂ Alike cs ds := alike_list_iff.1 (.list length items)
          dsimp only at hv ⊢
          split_ifs at hv with hclauses
          rw [if_pos]
          · exact hv
          · rw [List.all_eq_true] at hclauses ⊢
            intro x hx
            obtain ⟨y, hy, hyx⟩ := Outline.exists_left_of_mem hall hx
            exact hyx.isClause (hclauses y hy)
        | null | bool _ | int _ | float _ | str _ | obj _ _ => cases hv
      · cases hv
  | null | bool _ | int _ | float _ | str _ | list _ _ => cases hv

end Value

namespace Outline

open Compile Decompile

variable {cfg : DocumentConfig} {n m : Node Nat} {bs cs : List (EdgeKind × Outline)}
  {names names' : List String} {o p : Outline}

/-! ## Kinds -/

theorem has_keyword_iff_not_isGroup (cfg : DocumentConfig) (ho : o.Readable names)
    (hbare : o.Bare) :
    hasAny (members cfg o.node (parts cfg o.hanging))
      ["type", "$ref", "enum", "properties", "items"] = true ↔ o.node.kind.isGroup = false := by
  have hd := ho.kind_ne_definition
  obtain ⟨n, bs⟩ := o
  obtain ⟨hl, ht, _, _⟩ := ho
  refine ⟨fun hany => Bool.eq_false_iff.2 fun hg => ?_, fun hg => hasAny_members hl hg hd ht⟩
  obtain ⟨kind, clauses, hb⟩ := exists_group hg
  have hkind : bareGroupKind? (written cfg (mk n bs)) = some kind :=
    bareGroupKind?_written hl hbare hb
  rw [written] at hkind
  unfold bareGroupKind? at hkind
  dsimp only at hkind
  split_ifs at hkind with hnot
  exact hnot hany

/-- Of outlines that can stand alone, what is like a group is a group. -/
theorem isGroup_eq_of_alike (ho : o.Readable names) (hp : p.Readable names') (hbo : o.Bare)
    (hbp : p.Bare) (h : Value.Alike (o.written cfg) (p.written cfg)) :
    p.node.kind.isGroup = o.node.kind.isGroup := by
  rw [written_eq, written_eq] at h
  have hfalse : p.node.kind.isGroup = false ↔ o.node.kind.isGroup = false := by
    rw [← has_keyword_iff_not_isGroup cfg ho hbo, ← has_keyword_iff_not_isGroup cfg hp hbp,
      h.hasAny]
  cases hg : o.node.kind.isGroup with
  | false => exact hfalse.2 hg
  | true =>
    rw [← Bool.not_eq_false, hfalse, hg]
    decide

variable {ps : List Part}

theorem has_pointer_iff (hl : Labelled n (reserved n.kind)) (hg : n.kind.isGroup = false) :
    Entries.has (members cfg n ps) "$ref" = true ↔ n.kind = .reference := by
  refine ⟨fun hhas => by_contra fun hne => ?_, fun hr => ?_⟩
  · rw [Entries.has, find?_members_ref hl hg hne] at hhas
    cases hhas
  · unfold Node.kind at hr
    cases hb : n.body with
    | reference target =>
      rw [Entries.has, find?_members_pointer hl hb]
      rfl
    | string _ | number _ | boolean | enum _ | object _ | array _ | group _ _ | definition _ =>
      rw [hb] at hr
      cases hr

theorem has_values_iff (hl : Labelled n (reserved n.kind)) (hg : n.kind.isGroup = false)
    (hr : n.kind ≠ .reference) (ht : Check.attributeTypes n.body = []) :
    Entries.has (members cfg n ps) "enum" = true ↔ n.kind = .enum := by
  refine ⟨fun hhas => by_contra fun hne => ?_, fun he => has_members_enum hl he ht⟩
  rw [Entries.has, find?_members_enum hl hg hr hne] at hhas
  cases hhas

/-- A node that is no group, reference or enumeration is told by its type. -/
theorem kindOfType?_of_typed {kind : NodeKind} (hg : kind.isGroup = false) (hr : kind ≠ .reference)
    (he : kind ≠ .enum) (hd : kind ≠ .definition) :
    kind.isTyped = true ∧ kindOfType? kind.name = some kind := by
  cases kind with
  | string | number | boolean | object | array => exact ⟨rfl, rfl⟩
  | enum => exact absurd rfl he
  | group _ => cases hg
  | definition => exact absurd rfl hd
  | reference => exact absurd rfl hr

/-- What is like an outline that is no group is of its kind. -/
theorem kind_eq_of_alike_field (ho : o.Readable names) (hp : p.Readable names')
    (hgo : o.node.kind.isGroup = false) (hgp : p.node.kind.isGroup = false)
    (h : Value.Alike (o.written cfg) (p.written cfg)) : p.node.kind = o.node.kind := by
  have hdo := ho.kind_ne_definition
  have hdp := hp.kind_ne_definition
  obtain ⟨n, bs⟩ := o
  obtain ⟨m, cs⟩ := p
  obtain ⟨hln, htn, _, _⟩ := ho
  obtain ⟨hlm, htm, _, _⟩ := hp
  rw [written, written] at h
  simp only [node] at hgo hgp hdo hdp ⊢
  -- A pointer tells a reference, a list of values an enumeration, and the type any other kind.
  have hreference : m.kind = .reference ↔ n.kind = .reference := by
    rw [← has_pointer_iff hln hgo, ← has_pointer_iff hlm hgp, h.has]
  by_cases hr : n.kind = .reference
  · rw [hr, hreference.2 hr]
  have hr' : m.kind ≠ .reference := fun hm => hr (hreference.1 hm)
  have henum : m.kind = .enum ↔ n.kind = .enum := by
    rw [← has_values_iff hln hgo hr htn, ← has_values_iff hlm hgp hr' htm, h.has]
  by_cases he : n.kind = .enum
  · rw [he, henum.2 he]
  obtain ⟨hn, hname⟩ := kindOfType?_of_typed hgo hr he hdo
  obtain ⟨hm, hname'⟩ := kindOfType?_of_typed hgp hr' (fun hm => he (henum.1 hm)) hdp
  obtain ⟨w, hw, halike⟩ := h.find? (find?_members_type (hln.free_type hn) hn)
  rw [find?_members_type (hlm.free_type hm) hm] at hw
  obtain rfl := Option.some.inj hw
  rw [halike.str_inj, hname'] at hname
  exact Option.some.inj hname

/-- What is like a group is of its kind. -/
theorem kind_eq_of_alike_group (ho : o.Readable names) (hp : p.Readable names')
    (hgo : o.node.kind.isGroup = true) (hgp : p.node.kind.isGroup = true)
    (hproper : (p.written cfg).Proper) (h : Value.Alike (o.written cfg) (p.written cfg)) :
    p.node.kind = o.node.kind := by
  obtain ⟨n, bs⟩ := o
  obtain ⟨m, cs⟩ := p
  obtain ⟨hln, _, _, _⟩ := ho
  obtain ⟨hlm, _, _, _⟩ := hp
  simp only [node] at hgo hgp ⊢
  obtain ⟨kind, clauses, hb⟩ := exists_group hgo
  obtain ⟨kind', clauses', hb'⟩ := exists_group hgp
  have hkind := h.groupKind? hproper (groupKind?_written hln hb)
  rw [groupKind?_written hlm hb'] at hkind
  rw [Node.kind, Node.kind, hb, hb', Option.some.inj hkind]
  rfl

/-- What is like an outline is of its kind, if both or none are groups. -/
theorem kind_eq_of_alike (ho : o.Readable names) (hp : p.Readable names')
    (hg : p.node.kind.isGroup = o.node.kind.isGroup) (hproper : (p.written cfg).Proper)
    (h : Value.Alike (o.written cfg) (p.written cfg)) : p.node.kind = o.node.kind := by
  cases hgo : o.node.kind.isGroup with
  | false => exact kind_eq_of_alike_field ho hp hgo (hg.trans hgo) h
  | true => exact kind_eq_of_alike_group ho hp hgo (hg.trans hgo) hproper h

/-! ## What hangs below -/

/-- Objects that are written alike have fields of the same keys, which are written alike. -/
theorem exists_field_of_alike {a a' : ObjectAttributes} (hb : n.body = .object a)
    (hb' : m.body = .object a') (hm : ObjectReads m cs)
    (h : Value.Alike (written cfg (mk n bs)) (written cfg (mk m cs))) (hn : ObjectReads n bs)
    (ho : o ∈ fieldsOf bs) :
    ∃ p ∈ fieldsOf cs, p.node.key = o.node.key ∧
      Value.Alike (o.written cfg) (p.written cfg) := by
  rw [written, written] at h
  obtain ⟨w, hw, halike⟩ := h.find? (find?_properties hb ho)
  rw [find?_object hb' (by decide) (by decide), find?_objectMembers] at hw
  by_cases hcs : fieldsOf cs = []
  · -- Properties that are kept are no object.
    rw [if_neg (fun hp => hp.2 hcs), if_neg (by simp), if_neg (by simp), Option.none_or] at hw
    rw [(hm.properties w hw).1] at halike
    cases halike
  · rw [if_pos ⟨rfl, hcs⟩] at hw
    obtain rfl := Option.some.inj hw
    obtain ⟨v, hv, hov⟩ := halike.find? (Entries.find?_of_mem (keys_nodup cfg hn)
      (List.mem_map_of_mem (f := asProperty cfg) ho))
    obtain ⟨p, hp, heq⟩ := List.mem_map.1 (Entries.mem_of_find? hv)
    obtain ⟨hkey, hvalue⟩ := Prod.mk.inj heq
    exact ⟨p, hp, hkey, hvalue ▸ hov⟩

/-- Objects that are written alike have groups that are written alike. -/
theorem exists_group_of_alike {a a' : ObjectAttributes} (hb : n.body = .object a)
    (hb' : m.body = .object a') (hm : ObjectReads m cs)
    (h : Value.Alike (written cfg (mk n bs)) (written cfg (mk m cs)))
    (hproper : (written cfg (mk m cs)).Proper) {kind : GroupKind} (ho : o ∈ groupsOf bs)
    (hkind : groupKind? (o.written cfg) = some kind) :
    ∃ p ∈ groupsOf cs, Value.Alike (o.written cfg) (p.written cfg) := by
  rw [written] at hproper
  rw [written, written] at h
  obtain ⟨w, hw, halike⟩ := h.find? (find?_groups hb ho)
  have hwproper := hproper.of_find? hw
  obtain ⟨items, rfl⟩ : ∃ items, w = .list items := by
    cases halike
    exact ⟨_, rfl⟩
  obtain ⟨v, hv, hov⟩ := exists_left_of_mem (Value.alike_list_iff.1 halike).flip
    (List.mem_append_left _ (List.mem_map_of_mem (f := fun o => written cfg o) ho))
  have hvkind := hov.groupKind? (hwproper.items v hv) hkind
  -- Entries that are kept are no groups.
  rw [find?_object hb' (by decide) (by decide), find?_objectMembers, if_neg (by simp),
    if_neg (by simp)] at hw
  by_cases hcs : groupsOf cs = []
  · rw [if_neg (fun hp => hp.2 hcs), Option.none_or] at hw
    rw [(hm.allOf items hw).2 v hv] at hvkind
    cases hvkind
  · rw [if_pos ⟨rfl, hcs⟩] at hw
    obtain rfl := Value.list.inj (Option.some.inj hw)
    rcases List.mem_append.1 hv with hv | hv
    · obtain ⟨p, hp, rfl⟩ := List.mem_map.1 hv
      exact ⟨p, hp, hov⟩
    · rw [groupKind?_keptEntries hm v hv] at hvkind
      cases hvkind

/-- Arrays that are written alike have items that are written alike. -/
theorem exists_item_of_alike {a a' : ArrayAttributes} (hn : Labelled n (reserved n.kind))
    (hb : n.body = .array a) (hm : Labelled m (reserved m.kind)) (hb' : m.body = .array a')
    (h : Value.Alike (written cfg (mk n bs)) (written cfg (mk m cs))) {b : EdgeKind × Outline}
    (hhead : bs.head? = some b) :
    ∃ c, cs.head? = some c ∧ Value.Alike (b.2.written cfg) (c.2.written cfg) := by
  rw [written, written] at h
  obtain ⟨w, hw, halike⟩ := h.find? ((find?_items hn hb).trans (congrArg _ hhead))
  rw [find?_items hm hb'] at hw
  obtain ⟨c, hc, rfl⟩ := Option.map_eq_some_iff.1 hw
  exact ⟨c, hc, halike⟩

/-! ## Branches -/

/-- A field is listed as a property, and nothing else that stands as a branch is. -/
theorem isAddressable_eq_of_alike (ho : o.Readable names) (hp : p.Readable names')
    (h : Value.Alike (o.asBranch cfg) (p.asBranch cfg)) :
    p.node.isAddressable = o.node.isAddressable := by
  have hboth : ∀ {o p : Outline} {names : List String}, o.Readable names →
      Value.Alike (o.asBranch cfg) (p.asBranch cfg) → p.node.isAddressable = true →
      o.node.isAddressable = true := by
    intro o p names ho h hp
    by_contra ha
    have hd := ho.kind_ne_definition
    obtain ⟨n, bs⟩ := o
    obtain ⟨hl, _, _, _⟩ := ho
    obtain ⟨k, hk, hproperties, hrequired, _⟩ :=
      @exists_name_of_not_isAddressable cfg n (parts cfg bs) hl hd ha
    unfold asBranch wrapped at h
    rw [if_neg ha, if_pos hp, written] at h
    have hmem := h.mem_names hk
    split at hmem
    · simp [Entries.names, hproperties, hrequired] at hmem
    · simp [Entries.names, hproperties] at hmem
  cases ha : o.node.isAddressable with
  | false => exact Bool.eq_false_iff.2 fun hp' => by simp [hboth ho h hp'] at ha
  | true => exact hboth hp h.symm ha

/-- Branches that are written alike are outlines that are written alike. -/
theorem alike_of_asBranch (ho : o.Readable names) (hp : p.Readable names')
    (h : Value.Alike (o.asBranch cfg) (p.asBranch cfg)) :
    Value.Alike (o.written cfg) (p.written cfg) := by
  have haddressable := isAddressable_eq_of_alike ho hp h
  unfold asBranch wrapped at h
  by_cases ha : o.node.isAddressable = true
  · rw [if_pos ha, if_pos (haddressable.trans ha)] at h
    obtain ⟨w, hw, halike⟩ := h.find? (Entries.find?_cons _ _ _ _ ▸ if_pos rfl)
    rw [Entries.find?_cons, if_pos rfl] at hw
    obtain rfl := Option.some.inj hw
    obtain ⟨w, hw, halike⟩ := halike.find? (Entries.find?_cons _ _ _ _ ▸ if_pos rfl)
    rw [Entries.find?_cons] at hw
    split at hw
    · rwa [Option.some.inj hw]
    · cases hw
  · rwa [if_neg ha, if_neg (haddressable ▸ ha)] at h

/-- Nothing that is read as a branch is like the branch that no value satisfies. -/
theorem not_alike_failingBranch (ho : o.Readable names) :
    ¬ Value.Alike (o.asBranch cfg) failingBranch := by
  intro h
  have hd := ho.kind_ne_definition
  obtain ⟨n, bs⟩ := o
  obtain ⟨hl, _, _, _⟩ := ho
  unfold asBranch wrapped failingBranch at h
  by_cases ha : n.isAddressable = true
  · rw [node, if_pos ha] at h
    exact absurd (h.mem_names (k := "properties") List.mem_cons_self) (by decide)
  · obtain ⟨k, hk, _, _, hnot⟩ :=
      @exists_name_of_not_isAddressable cfg n (parts cfg bs) hl hd ha
    rw [node, if_neg ha, written] at h
    exact hnot (List.mem_singleton.1 (h.mem_names hk))

/-! ## What is pointed at -/

theorem mem_referencesAt {i : Option Nat} {t : Value} :
    t ∈ referencesAt (referencesBelow bs) i ↔
      ∃ b, (i.bind fun i => bs[i]?) = some b ∧ t ∈ b.2.references := by
  unfold referencesAt
  rw [referencesBelow_eq]
  cases i with
  | none => simp
  | some i =>
    rw [Option.bind_some, Option.bind_some, List.getElem?_map]
    cases bs[i]? <;> simp

/-- An outline points at nothing that those that are written like it do not point at. -/
def PointsWithin (cfg : DocumentConfig) (names : List String) (o : Outline) : Prop :=
  ∀ p : Outline, p.Readable names → (p.written cfg).Proper →
    p.node.kind.isGroup = o.node.kind.isGroup → Value.Alike (o.written cfg) (p.written cfg) →
    o.references ⊆ p.references

/-- Branches that are written alike point at the same. -/
theorem referencesAt_subset (hbs : ∀ b ∈ bs, b.2.Readable names)
    (hcs : ∀ c ∈ cs, c.2.Readable names') (hwithin : ∀ b ∈ bs, PointsWithin cfg names' b.2)
    {i j : Option Nat} (hi : ∀ b, (i.bind fun i => bs[i]?) = some b → b.2.Bare)
    (hj : ∀ c, (j.bind fun j => cs[j]?) = some c → c.2.Bare)
    (hproper : ∀ v, branchAt (parts cfg cs) j = some v → v.Proper) {r s : Option Value}
    (hs : ∀ v, s = some v → v = failingBranch)
    (h : Value.AlikeAt ((branchAt (parts cfg bs) i).or r) ((branchAt (parts cfg cs) j).or s)) :
    referencesAt (referencesBelow bs) i ⊆ referencesAt (referencesBelow cs) j := by
  intro t ht
  obtain ⟨b, hb, ht⟩ := mem_referencesAt.1 ht
  have hmem : b ∈ bs := by
    obtain ⟨_, _, hget⟩ := Option.bind_eq_some_iff.1 hb
    exact List.mem_of_getElem? hget
  rw [branchAt_eq, branchAt_eq, hb, Option.map_some, Option.some_or] at h
  rw [branchAt_eq] at hproper
  cases hc : (j.bind fun j => cs[j]?) with
  | none =>
    rw [hc, Option.map_none, Option.none_or] at h
    obtain ⟨w, hw, halike⟩ := h.exists_of_some
    rw [hs w hw] at halike
    exact absurd halike (not_alike_failingBranch (hbs b hmem))
  | some c =>
    rw [hc, Option.map_some, Option.some_or] at h
    have hmem' : c ∈ cs := by
      obtain ⟨_, _, hget⟩ := Option.bind_eq_some_iff.1 hc
      exact List.mem_of_getElem? hget
    have hcproper : (c.2.written cfg).Proper := by
      have hbranch := hproper _ (by rw [hc]; rfl)
      rcases @written_inside_asBranch cfg c.2 with heq | hinside
      · exact heq ▸ hbranch
      · exact hinside.proper hbranch
    have hwritten := alike_of_asBranch (hbs b hmem) (hcs c hmem') h
    exact mem_referencesAt.2 ⟨c, hc, hwithin b hmem c.2 (hcs c hmem') hcproper
      (isGroup_eq_of_alike (hbs b hmem) (hcs c hmem') (hi b hb) (hj c hc) hwritten) hwritten ht⟩

theorem ClauseReads.bare {c : Clause Nat} (h : ClauseReads bs c) (k : EdgeKind)
    {b : EdgeKind × Outline} (hb : ((c.target k).bind fun i => bs[i]?) = some b) : b.2.Bare := by
  obtain ⟨i, hi, hget⟩ := Option.bind_eq_some_iff.1 hb
  obtain ⟨o, ho, hbare⟩ := h.target k i hi
  obtain rfl := Option.some.inj (hget.symm.trans ho)
  exact hbare

theorem bare_of_head {clauses : List (Clause Nat)} (h : ∀ c ∈ clauses, ClauseReads bs c)
    (k : EdgeKind) {b : EdgeKind × Outline}
    (hb : ((clauses.head?.bind fun c => c.target k).bind fun i => bs[i]?) = some b) :
    b.2.Bare := by
  cases clauses with
  | nil => cases hb
  | cons c rest => exact (h c List.mem_cons_self).bare k hb

theorem references_block {clauses : List (Clause Nat)} (hb : n.body = .group .ifBlock clauses) :
    (mk n bs).references = referencesAt (referencesBelow bs) (clauses.head?.bind (·.onTrue)) ++
      referencesAt (referencesBelow bs) (clauses.head?.bind (·.onFalse)) := by
  rw [references, nodeReferences, hb]
  cases clauses with
  | nil => rfl
  | cons c rest => exact List.append_nil _

/-- The keywords of an `if` block are found as they are written. -/
theorem find?_block {clauses : List (Clause Nat)} (hl : Labelled n (reserved n.kind))
    (hb : n.body = .group .ifBlock clauses) {k : String} (hk : k ∈ clauseKeywords) :
    Entries.find? (members cfg n ps) k = Entries.find? (blockMembers ps clauses) k := by
  have hn : n.kind = .group .ifBlock := by
    rw [Node.kind, hb]
    rfl
  have hfree : Entries.find? n.extras k = none :=
    hl.free.find? (List.mem_append_right _ (hn ▸ hk))
  have hfixed : Entries.find? (fixed n) k = none := by
    unfold fixed
    rw [hb]
    refine find?_annotations_eq_none ?_
    clear hfree
    revert k
    decide
  rw [find?_members, hfree, hfixed, inner_group hb, Option.or_none, Option.or_none]
  rfl

theorem references_subset_of_block {clauses clauses' : List (Clause Nat)}
    (hb : n.body = .group .ifBlock clauses) (hb' : m.body = .group .ifBlock clauses')
    (hn : (mk n bs).Readable names) (hm : (mk m cs).Readable names')
    (hproper : (written cfg (mk m cs)).Proper)
    (hwithin : ∀ b ∈ bs, PointsWithin cfg names' b.2)
    (h : Value.Alike (written cfg (mk n bs)) (written cfg (mk m cs))) :
    (mk n bs).references ⊆ (mk m cs).references := by
  obtain ⟨hln, _, hown, hbelow⟩ := hn
  obtain ⟨hlm, _, hown', hbelow'⟩ := hm
  unfold OwnReads at hown hown'
  rw [hb] at hown
  rw [hb'] at hown'
  rw [written] at hproper
  rw [written, written, Value.alike_obj_iff] at h
  have hside : ∀ k keyword, keyword ∈ clauseKeywords →
      (∀ (ps : List Part) (clauses : List (Clause Nat)), Entries.find? (blockMembers ps clauses)
        keyword = branchAt ps (clauses.head?.bind fun c => c.target k)) →
      referencesAt (referencesBelow bs) (clauses.head?.bind fun c => c.target k) ⊆
        referencesAt (referencesBelow cs) (clauses'.head?.bind fun c => c.target k) := by
    intro k keyword hkeyword hfind
    have hside := h keyword
    rw [find?_block hln hb hkeyword, find?_block hlm hb' hkeyword, hfind, hfind] at hside
    refine referencesAt_subset (r := none) (s := none) hbelow hbelow' hwithin
      (fun b => bare_of_head hown k) (fun c => bare_of_head hown' k) (fun v hv => ?_)
      (fun v hv => by cases hv) (by rwa [Option.or_none, Option.or_none])
    have hfound : Entries.find? (members cfg m (parts cfg cs)) keyword = some v := by
      rw [find?_block hlm hb' hkeyword, hfind, hv]
    exact hproper.of_find? hfound
  rw [references_block hb, references_block hb']
  intro t ht
  rcases List.mem_append.1 ht with ht | ht
  · exact List.mem_append_left _ (hside .thenBranch "then" (by decide)
      (fun ps clauses => find?_blockMembers ps clauses "then") ht)
  · exact List.mem_append_right _ (hside .elseBranch "else" (by decide)
      (fun ps clauses => find?_blockMembers ps clauses "else") ht)

/-- Clauses that are written alike point at the same. -/
theorem clauseReferences_subset {kind : GroupKind} {c c' : Clause Nat} (hc : ClauseReads bs c)
    (hc' : ClauseReads cs c') (hbs : ∀ b ∈ bs, b.2.Readable names)
    (hcs : ∀ c ∈ cs, c.2.Readable names') (hwithin : ∀ b ∈ bs, PointsWithin cfg names' b.2)
    (hproper : (Value.obj (clauseMembers cfg kind (parts cfg cs) c')).Proper)
    (h : Value.Alike (.obj (clauseMembers cfg kind (parts cfg bs) c))
      (.obj (clauseMembers cfg kind (parts cfg cs) c'))) :
    clauseReferences (referencesBelow bs) c ⊆ clauseReferences (referencesBelow cs) c' := by
  have hthen : ∀ (ps : List Part) (c : Clause Nat),
      Entries.find? (clauseMembers cfg kind ps c) "then" = (branchAt ps c.onTrue).or none :=
    fun ps c => (find?_clauseMembers kind ps c "then").trans (Option.or_none).symm
  have helse : ∀ (ps : List Part) (c : Clause Nat),
      Entries.find? (clauseMembers cfg kind ps c) "else" =
        (branchAt ps c.onFalse).or (Entries.find? (failing cfg kind c) "else") :=
    fun ps c => find?_clauseMembers kind ps c "else"
  rw [Value.alike_obj_iff] at h
  intro t ht
  rcases List.mem_append.1 ht with ht | ht
  · have hboth := h "then"
    rw [hthen, hthen] at hboth
    refine List.mem_append_left _ (referencesAt_subset (i := c.onTrue) (j := c'.onTrue) hbs hcs
      hwithin (fun b => hc.bare .thenBranch) (fun c => hc'.bare .thenBranch) (fun v hv => ?_)
      (fun v hv => by cases hv) hboth ht)
    have hfound : Entries.find? (clauseMembers cfg kind (parts cfg cs) c') "then" = some v := by
      rw [hthen, hv, Option.some_or]
    exact hproper.of_find? hfound
  · have hboth := h "else"
    rw [helse, helse] at hboth
    refine List.mem_append_right _ (referencesAt_subset (i := c.onFalse) (j := c'.onFalse) hbs hcs
      hwithin (fun b => hc.bare .elseBranch) (fun c => hc'.bare .elseBranch) (fun v hv => ?_)
      (fun v hv => ?_) hboth ht)
    · have hfound : Entries.find? (clauseMembers cfg kind (parts cfg cs) c') "else" = some v := by
        rw [helse, hv, Option.some_or]
      exact hproper.of_find? hfound
    · unfold failing at hv
      split at hv
      · rw [Entries.find?_cons, if_pos rfl] at hv
        exact (Option.some.inj hv).symm
      · cases hv

theorem references_list {kind : GroupKind} (hk : kind ≠ .ifBlock) {clauses : List (Clause Nat)}
    (hb : n.body = .group kind clauses) :
    (mk n bs).references = clauses.flatMap (clauseReferences (referencesBelow bs)) := by
  rw [references, nodeReferences, hb]
  cases kind with
  | ifBlock => exact absurd rfl hk
  | allOf | anyOf | oneOf => rfl

theorem references_subset_of_list {kind : GroupKind} (hk : kind ≠ .ifBlock)
    {clauses clauses' : List (Clause Nat)} (hb : n.body = .group kind clauses)
    (hb' : m.body = .group kind clauses') (hn : (mk n bs).Readable names)
    (hm : (mk m cs).Readable names') (hproper : (written cfg (mk m cs)).Proper)
    (hwithin : ∀ b ∈ bs, PointsWithin cfg names' b.2)
    (h : Value.Alike (written cfg (mk n bs)) (written cfg (mk m cs))) :
    (mk n bs).references ⊆ (mk m cs).references := by
  obtain ⟨_, _, hown, hbelow⟩ := hn
  obtain ⟨_, _, hown', hbelow'⟩ := hm
  unfold OwnReads at hown hown'
  rw [hb] at hown
  rw [hb'] at hown'
  rw [written] at hproper
  rw [written, written] at h
  obtain ⟨w, hw, halike⟩ := h.find? (find?_clauses cfg hk hb (parts cfg bs))
  have hwproper := hproper.of_find? hw
  rw [find?_clauses cfg hk hb'] at hw
  obtain rfl := Option.some.inj hw
  rw [references_list hk hb, references_list hk hb']
  intro t ht
  obtain ⟨c, hc, ht⟩ := List.mem_flatMap.1 ht
  obtain ⟨v, hv, hcv⟩ := exists_left_of_mem (Value.alike_list_iff.1 halike).flip
    (List.mem_map_of_mem (f := fun c => Value.obj (clauseMembers cfg kind (parts cfg bs) c)) hc)
  have hvproper := hwproper.items v hv
  obtain ⟨c', hc', rfl⟩ := List.mem_map.1 hv
  exact List.mem_flatMap.2 ⟨c', hc', clauseReferences_subset (hown c hc) (hown' c' hc') hbelow
    hbelow' hwithin hvproper hcv ht⟩

/-! ## Whole outlines -/

theorem references_subset_of_object_alike {a a' : ObjectAttributes} (hb : n.body = .object a)
    (hb' : m.body = .object a') (hn : ObjectReads n bs) (hm : ObjectReads m cs)
    (hbelow : ∀ b ∈ bs, b.2.Readable names) (hbelow' : ∀ c ∈ cs, c.2.Readable names')
    (hproper : (written cfg (mk m cs)).Proper) (hwithin : ∀ b ∈ bs, PointsWithin cfg names' b.2)
    (h : Value.Alike (written cfg (mk n bs)) (written cfg (mk m cs))) :
    (mk n bs).references ⊆ (mk m cs).references := by
  intro t ht
  rw [references, referencesBelow_eq, nodeReferences, hb] at ht
  obtain ⟨ts, hts, ht⟩ := List.mem_flatten.1 ht
  obtain ⟨b, hmem, rfl⟩ := List.mem_map.1 hts
  cases hg : b.2.node.kind.isGroup with
  | false =>
    have ho : b.2 ∈ fieldsOf bs :=
      List.mem_map_of_mem (List.mem_filter.2 ⟨hmem, by rw [hg]; rfl⟩)
    obtain ⟨p, hp, -, halike⟩ := exists_field_of_alike hb hb' hm h hn ho
    have hpart := (field_partOf hb' hm hp).inside.proper hproper
    obtain ⟨c, hc, rfl, hgp⟩ := mem_fieldsOf hp
    exact references_subset_of_object hb' hc
      (hwithin b hmem c.2 (hbelow' c hc) hpart (hgp.trans hg.symm) halike ht)
  | true =>
    have ho : b.2 ∈ groupsOf bs := List.mem_map_of_mem (List.mem_filter.2 ⟨hmem, hg⟩)
    obtain ⟨kind, clauses, hbody⟩ := exists_group hg
    have hkind : groupKind? (b.2.written cfg) = some kind := by
      have hr := hbelow b hmem
      generalize b.2 = o at hr hbody
      obtain ⟨hl, _, _, _⟩ := hr
      exact groupKind?_written hl hbody
    obtain ⟨p, hp, halike⟩ := exists_group_of_alike hb hb' hm h hproper ho hkind
    have hpart := (group_partOf hb' hp).inside.proper hproper
    obtain ⟨c, hc, rfl, hgp⟩ := mem_groupsOf hp
    exact references_subset_of_object hb' hc
      (hwithin b hmem c.2 (hbelow' c hc) hpart (hgp.trans hg.symm) halike ht)

/-- Outlines that are written alike point at the same definitions. -/
theorem pointsWithin {o : Outline} (ho : o.Readable names) (cfg : DocumentConfig)
    (names' : List String) : PointsWithin cfg names' o := by
  induction ho with
  | @mk n bs labelled types own below ih =>
    intro p hp hproper hg h
    have hn : Readable names (mk n bs) := .mk labelled types own below
    have hkind := kind_eq_of_alike hn hp hg hproper h
    obtain ⟨m, cs⟩ := p
    have hm := hp
    obtain ⟨labelled', types', own', below'⟩ := hp
    simp only [node, Node.kind] at hkind
    unfold OwnReads at own own'
    cases hb : n.body with
    | object a =>
      cases hb' : m.body with
      | object a' =>
        rw [hb] at own
        rw [hb'] at own'
        exact references_subset_of_object_alike hb hb' own own' below below' hproper ih h
      | string _ | number _ | boolean | enum _ | array _ | group _ _ | definition _ | reference _ =>
        rw [hb, hb'] at hkind
        cases hkind
    | array a =>
      cases hb' : m.body with
      | array a' =>
        rw [hb] at own
        rw [hb'] at own'
        intro t ht
        rw [references, referencesBelow_eq, nodeReferences, hb, List.head?_map] at ht
        cases hhead : bs.head? with
        | none => simp [hhead] at ht
        | some b =>
          rw [hhead] at ht
          have hmem := List.mem_of_mem_head? hhead
          obtain ⟨c, hc, halike⟩ := exists_item_of_alike labelled hb labelled' hb' h hhead
          have hmem' := List.mem_of_mem_head? hc
          have hpart : PartOf cfg c.2 (mk m cs) := item_partOf labelled' hb' hc
          exact hpart.references (ih b hmem c.2 (below' c hmem') (hpart.inside.proper hproper)
            (isGroup_eq_of_alike (below b hmem) (below' c hmem') (own b hmem) (own' c hmem') halike)
            halike ht)
      | string _ | number _ | boolean | enum _ | object _ | group _ _ | definition _ | reference _ =>
        rw [hb, hb'] at hkind
        cases hkind
    | group kind clauses =>
      cases hb' : m.body with
      | group kind' clauses' =>
        rw [hb, hb'] at hkind
        cases hkind
        by_cases hk : kind = .ifBlock
        · subst hk
          exact references_subset_of_block hb hb' hn hm hproper ih h
        · exact references_subset_of_list hk hb hb' hn hm hproper ih h
      | string _ | number _ | boolean | enum _ | object _ | array _ | definition _ | reference _ =>
        rw [hb, hb'] at hkind
        cases hkind
    | reference target =>
      cases hb' : m.body with
      | reference target' =>
        rw [written, written] at h
        obtain ⟨w, hw, halike⟩ := h.find? (find?_members_pointer labelled hb)
        rw [find?_members_pointer labelled' hb'] at hw
        obtain rfl := Option.some.inj hw
        rw [hb] at own
        rw [hb'] at own'
        obtain ⟨name, _, rfl⟩ := own
        obtain ⟨name', _, rfl⟩ := own'
        have hname : name = name' := (String.append_right_inj _).1 halike.str_inj
        rw [references, nodeReferences, hb, references, nodeReferences, hb', hname]
        exact List.Subset.refl _
      | string _ | number _ | boolean | enum _ | object _ | array _ | group _ _ | definition _ =>
        rw [hb, hb'] at hkind
        cases hkind
    | string _ | number _ | boolean | enum _ | definition _ =>
      rw [references, nodeReferences, hb]
      exact List.nil_subset _

end Outline

end FormGraph
