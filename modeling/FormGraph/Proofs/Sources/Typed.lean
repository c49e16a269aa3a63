import FormGraph.Proofs.RoundTrip.Conditions
import FormGraph.Proofs.Sources.Graph

/-!
# The attributes of what is read

A node that is read has the attributes that the schema gives which it stands for
(`body_of_standsFor`). Wherever a schema below the root is read, an attribute of a wrong type is an
issue, so the attributes of all nodes but the root have the types that they should have
(`attributeTypes_of_readable`). The attributes of the root are taken over as they are.
-/

namespace FormGraph

namespace Check

variable {name wanted : String} {ok : Value → Bool} {v : Value}

theorem ifSet_eq_nil_iff : ifSet name wanted ok v = [] ↔ v.isNull = true ∨ ok v = true := by
  unfold ifSet
  rw [← Bool.or_eq_true]
  cases v.isNull || ok v with
  | false => exact iff_of_false (List.cons_ne_nil _ _) Bool.false_ne_true
  | true => exact iff_of_true rfl rfl

/-- The attributes of an object are of the right types if its counts are counts where they are set. -/
theorem attributeTypes_object_iff {ρ : Type} {schema : Members} :
    attributeTypes (Body.ofFragment .object schema : Body ρ) = [] ↔
      ∀ keyword ∈ ["minProperties", "maxProperties"],
        (Value.member schema keyword).isNull = true ∨ isCount (Value.member schema keyword) = true := by
  show count "min_properties" (ObjectAttributes.set.ofFragment schema).minProperties ++
    count "max_properties" (ObjectAttributes.set.ofFragment schema).maxProperties = [] ↔ _
  rw [ObjectAttributes.ofFragment_eq, List.append_eq_nil_iff, List.forall_mem_cons,
    List.forall_mem_singleton]
  exact and_congr ifSet_eq_nil_iff ifSet_eq_nil_iff

end Check

theorem Body.mapClauses_ofFragment {ρ τ : Type} (kind : NodeKind) (fragment : Members)
    (f : Clause ρ → Clause τ) :
    (ofFragment kind fragment : Body ρ).mapClauses f = ofFragment kind fragment := by
  cases kind <;> rfl

/-- Whether the attributes of a node of this kind are read from its schema. -/
def NodeKind.readsAttributes (kind : NodeKind) : Bool := kind.isTyped || kind = .enum

theorem NodeKind.ne_definition_of_readsAttributes {kind : NodeKind} (h : kind.readsAttributes = true) :
    kind ≠ .definition := by
  rintro rfl
  cases h

namespace Decompile

variable {tupleItems : TupleItems} {names : List String} {schema : Members} {o : Outline}

/-- What is read as a node with attributes has those of the schema. -/
theorem body_of_readFrom (h : ReadFrom tupleItems names (.obj schema) o)
    (hk : o.node.kind.readsAttributes = true) :
    o.node.body = Body.ofFragment o.node.kind schema := by
  generalize hv : Value.obj schema = v at h
  cases h with
  | @schema depth inner o h =>
    obtain ⟨depth, members, -, hschema, ⟨kind, hkind, hgroup⟩ | hpointing | htyped⟩ :=
      cases_of_reader h
    · rw [(hanging_of_group hkind hgroup).1] at hk
      cases hk
    · rw [kind_of_pointing hpointing] at hk
      cases hk
    · obtain rfl := Value.obj.inj (hv.trans hschema)
      rw [kind_of_typed htyped, ← htyped.value_eq, typed_eq]
      rfl
  | group hkind h =>
    rw [(hanging_of_group hkind h).1] at hk
    cases hk
  | document _ h =>
    obtain rfl := Value.obj.inj hv
    rw [kind_of_outline h, ← h.value_eq, outline_eq]
    rfl

end Decompile

namespace Graph

variable {document : Members} {cfg : DocumentConfig} {d : DocumentOutline} {used : Nat}
  {id : NodeId} {n : Node NodeId}

/-- A node with attributes has those of the schema that it stands for. -/
theorem body_of_standsFor (hd : d.ReadAs document cfg) {schema : Members}
    (hv : StandsFor document (d.toGraph used) (.obj schema) id)
    (hn : (d.toGraph used).node? id = some n) (hk : n.kind.readsAttributes = true) :
    n.body = Body.ofFragment n.kind schema := by
  obtain ⟨o, ho⟩ := reads_of_standsFor hd hv
  obtain ⟨f, hnode⟩ := ho.shows.node?
  obtain rfl := Option.some.inj (hnode.symm.trans hn)
  rw [Node.kind_mapClauses] at hk ⊢
  exact (congrArg (Body.mapClauses _) (Decompile.body_of_readFrom ho.read hk)).trans
    (Body.mapClauses_ofFragment _ _ _)

/-- The attributes of whatever hangs below the root or a definition are of the right types. -/
theorem attributeTypes_of_readable (hd : d.Readable) (hn : (d.toGraph used).node? id = some n)
    (hid : id ≠ (d.toGraph used).rootId) : Check.attributeTypes n.body = [] := by
  obtain ⟨s, hs, rfl, rfl⟩ := (d.laidOut used).node.1 hn
  rcases DocumentOutline.spot_cases_of_hanging (fun _ h => h.hanging) hd.below
    (fun e he o ho => (hd.content e he o ho).1) hs with rfl | ⟨i, e, u, _, rfl⟩ | ⟨p, rfl, hp⟩
  · exact absurd rfl hid
  · rfl
  · exact (Node.attributeTypes_mapClauses _ _).trans hp.types

/-- The attributes of a graph that was read are those of the schemas of the document. All but those of
the root are of the right types, so a schema below the root that has an attribute of a wrong type makes
the reading fail; those of the root are of the right types exactly if its counts are counts. -/
theorem attributeTypes_of_decompile (hp : (Value.obj document).Proper) {s : IdSupply}
    {read : Imported × IdSupply} (h : (decompile (.obj document) cfg).run s = .ok read) :
    (∀ id n, read.1.graph.node? id = some n → n.kind.readsAttributes = true →
        (∃ schema, StandsFor document read.1.graph (.obj schema) id) ∧
          ∀ schema, StandsFor document read.1.graph (.obj schema) id →
            n.body = Body.ofFragment n.kind schema) ∧
      (∀ id n, read.1.graph.node? id = some n → id ≠ read.1.graph.rootId →
        Check.attributeTypes n.body = []) ∧
      ∃ root, read.1.graph.node? read.1.graph.rootId = some root ∧
        (Check.attributeTypes root.body = [] ↔
          ∀ keyword ∈ ["minProperties", "maxProperties"],
            (Value.member document keyword).isNull = true ∨
              Check.isCount (Value.member document keyword) = true) := by
  obtain ⟨d, hd, hgraph⟩ := laidOut_of_decompile hp h
  rw [hgraph]
  refine ⟨fun id n hn hk => ⟨?_, fun schema hv => body_of_standsFor hd hv hn hk⟩,
    fun id n hn hid => attributeTypes_of_readable hd.readable hn hid, ?_⟩
  · exact exists_standsFor_object hd hn (NodeKind.ne_definition_of_readsAttributes hk)
  · obtain ⟨f, hroot⟩ := (DocumentOutline.shows_toGraph hd.fits s.used).root.node?
    have hkind : (d.root.node.mapClauses (Clause.bindTargets f)).kind = .object :=
      (Node.kind_mapClauses _ _).trans hd.readable.kind
    have hbody := body_of_standsFor hd .root hroot (by rw [hkind]; rfl)
    rw [hkind] at hbody
    exact ⟨_, hroot, hbody ▸ Check.attributeTypes_object_iff⟩

/-- A document with a text for a count, and a field with a proper count. -/
def textForCount : Members :=
  [("minProperties", .str "x"),
    ("properties", .obj [("a", .obj [("type", .str "string"), ("minLength", .int 1)])])]

/-- The document is read; the attributes of its field are of the right types, those of the root are
not. -/
theorem attributeTypes_of_textForCount :
    ∃ read root field, (decompile (.obj textForCount) {}).run {} = .ok read ∧
      read.1.graph.node? (IdSupply.nameOf 1) = some field ∧
      field.body =
        Body.ofFragment field.kind [("type", .str "string"), ("minLength", .int 1)] ∧
      Check.attributeTypes field.body = [] ∧
      read.1.graph.node? read.1.graph.rootId = some root ∧ Check.attributeTypes root.body ≠ [] := by
  have hproper : (Value.obj textForCount).Proper := Value.proper_of_everywhere (by decide)
  obtain ⟨read, hread, field, hfield, hkind, hne, hstands⟩ : ∃ read,
      (decompile (.obj textForCount) {}).run {} = .ok read ∧ ∃ field,
        read.1.graph.node? (IdSupply.nameOf 1) = some field ∧ field.kind = .string ∧
        IdSupply.nameOf 1 ≠ read.1.graph.rootId ∧
        StandsFor textForCount read.1.graph
          (.obj [("type", .str "string"), ("minLength", .int 1)]) (IdSupply.nameOf 1) :=
    ⟨_, by with_unfolding_all rfl, _, by with_unfolding_all rfl, by with_unfolding_all rfl,
      by decide, .hanging (i := 0) .root (by with_unfolding_all rfl) (by with_unfolding_all rfl)
        (by with_unfolding_all rfl)⟩
  obtain ⟨hbody, htypes, root, hroot, hcounts⟩ := attributeTypes_of_decompile hproper hread
  refine ⟨read, root, field, hread, hfield, (hbody _ _ hfield (by rw [hkind]; rfl)).2 _ hstands,
    htypes _ _ hfield hne, hroot, fun h => ?_⟩
  have hcount := hcounts.1 h "minProperties" (by simp)
  revert hcount
  decide

end Graph

end FormGraph
