import FormGraph.Document.Screening
import FormGraph.Proofs.RoundTrip.Conditions

/-!
# What is written is admitted

Screening finds no error in the document that is written of a graph that is as asked for a round trip,
nor in a bundle with it: the document has a type, its tables are objects, and its groups are lists of
objects.
-/

namespace FormGraph

namespace Screening

variable {ms : Members}

theorem errors_ofMember {name : String} {screen : Value → Screening}
    (h : ∀ v, Entries.find? ms name = some v → (screen v).errors = []) :
    (ofMember ms name screen).errors = [] := by
  unfold ofMember
  cases hv : Entries.find? ms name with
  | none => rfl
  | some v => exact h v hv

theorem errors_members {keywords : List String} {screen : String → Value → Screening}
    (h : ∀ k ∈ keywords, ∀ v, Entries.find? ms k = some v → (screen k v).errors = []) :
    (members ms keywords screen).errors = [] := by
  have hfold : ∀ s : Screening, s.errors = [] →
      (keywords.foldl (fun s k => s ++ ofMember ms k (screen k)) s).errors = [] := by
    induction keywords with
    | nil => exact fun s hs => hs
    | cons k keywords ih =>
      intro s hs
      refine ih (fun k' hk' => h k' (List.mem_cons_of_mem _ hk')) _ ?_
      rw [errors_append, hs, errors_ofMember (h k List.mem_cons_self)]
      rfl
  exact hfold none rfl

theorem errors_declaredType (v : Value) : (declaredType v).errors = [] := by
  unfold declaredType
  split
  · split_ifs <;> rfl
  · split <;> rfl
  · rfl

theorem errors_objectMember (keyword : String) {v : Value} (h : v.isObj = true) :
    (objectMember keyword v).errors = [] := by
  unfold objectMember
  rw [if_pos h]
  rfl

theorem errors_schemaList (keyword : String) {items : List Value}
    (h : ∀ v ∈ items, v.isObj = true) : (schemaList keyword (.list items)).errors = [] := by
  cases items with
  | nil => rfl
  | cons v items =>
    show List.map _ (List.filter _ _) = []
    rw [List.map_eq_nil_iff, List.filter_eq_nil_iff]
    intro p hp
    have hobj := h p.1 (List.fst_mem_of_mem_zipIdx hp)
    simp [hobj]

theorem errors_companion (keyword : String) (v : Value) : (companion keyword v).errors = [] := by
  unfold companion
  split_ifs <;> rfl

/-- A document is admitted when it has a type, its tables are objects, its groups are lists of objects
and it has no block of its own. -/
theorem errors_document (htype : Entries.has ms "type" = true)
    (hobjects : ∀ k ∈ ["properties", "definitions"], ∀ v, Entries.find? ms k = some v →
      v.isObj = true)
    (hlists : ∀ k ∈ ["allOf", "anyOf", "oneOf"], ∀ v, Entries.find? ms k = some v →
      ∃ items, v = .list items ∧ ∀ i ∈ items, i.isObj = true)
    (hblock : Entries.has ms "if" = false) : (document (.obj ms)).errors = [] := by
  have hcontent : contentKeywords.any (Entries.has ms) = true :=
    List.any_eq_true.2 ⟨"type", by decide, htype⟩
  show (ofMembers ms).errors = []
  unfold ofMembers
  rw [if_pos hcontent, if_neg (by simp [hblock])]
  simp only [errors_append]
  rw [errors_ofMember fun v _ => errors_declaredType v,
    errors_members fun k hk v hv => errors_objectMember k (hobjects k hk v hv),
    errors_members fun k hk v hv => ?_]
  · rfl
  · obtain ⟨items, rfl, hitems⟩ := hlists k hk v hv
    exact errors_schemaList k hitems

/-- A bundle is admitted when the document in it is. -/
theorem errors_bundle {v : Value} (hv : Entries.find? ms "schema" = some v)
    (h : (document v).errors = []) : (bundle (.obj ms)).errors = [] := by
  unfold bundle
  dsimp only
  rw [hv]
  dsimp only
  rw [errors_append, h, errors_members fun k _ v _ => errors_companion k v]
  rfl

end Screening

namespace DocumentOutline

open Outline

variable {cfg : DocumentConfig} {keep : String → Bool} {d : DocumentOutline}

/-- The written document is admitted. -/
theorem Readable.errors_written (hr : d.Readable) (hfree : d.root.node.Free structuralKeywords) :
    (Screening.document (d.written cfg keep)).errors = [] := by
  obtain ⟨own, hb⟩ := hr.body
  have hfind : ∀ k ∈ ["properties", "allOf", "anyOf", "oneOf", "if"],
      Entries.find? (d.members cfg keep) k =
        Entries.find? (objectMembers d.root.node (parts cfg d.root.hanging)) k := by
    intro k hk
    have hextra : Entries.find? d.root.node.extras k = none :=
      hfree.find? (by revert k; decide)
    rw [find?_members (by clear hextra; revert k; decide), rootMembers_eq,
      find?_object hb (by clear hextra; revert k; decide) (by clear hextra; revert k; decide), hextra,
      Option.or_none]
  rw [written_eq]
  refine Screening.errors_document ?_ (fun k hk v hv => ?_) (fun k hk v hv => ?_) ?_
  · rw [Entries.has, find?_members (by decide), rootMembers_eq,
      find?_members_type (hr.labelled.free_of_mem (by decide)) (by rw [hr.kind]; rfl)]
    rfl
  · rcases List.mem_cons.1 hk with rfl | hk
    · rw [hfind _ (by decide), find?_objectMembers] at hv
      by_cases hfields : "properties" = "properties" ∧ fieldsOf d.root.hanging ≠ []
      · rw [if_pos hfields] at hv
        rw [← Option.some.inj hv]
        rfl
      · rw [if_neg hfields, if_neg (by simp), if_neg (by simp)] at hv
        cases hv
    · obtain rfl := List.mem_singleton.1 hk
      have htable := @find?_members_table cfg keep d (hr.find?_table cfg)
      rw [Compile.definitionsKeyword, hv] at htable
      split_ifs at htable
      rw [Option.some.inj htable]
      rfl
  · have hlists : k = "allOf" ∨ ∀ name ∈ ["properties", "required", "allOf"], name ≠ k := by
      clear hv
      revert k
      decide
    rw [hfind k (by clear hv hlists; revert k; decide), find?_objectMembers] at hv
    rcases hlists with rfl | hother
    · rw [if_neg (by simp), if_neg (by simp)] at hv
      split_ifs at hv
      refine ⟨_, (Option.some.inj hv).symm, fun i hi => ?_⟩
      rcases List.mem_append.1 hi with hi | hi
      · obtain ⟨o, _, rfl⟩ := List.mem_map.1 hi
        rw [Outline.written_eq]
        rfl
      · unfold keptEntries at hi
        rw [hfree.find? (by decide)] at hi
        exact absurd hi List.not_mem_nil
    · rw [if_neg fun h => hother _ (by simp) h.1, if_neg fun h => hother _ (by simp) h.1,
        if_neg fun h => hother _ (by simp) h.1] at hv
      cases hv
  · rw [Entries.has, hfind _ (by decide), find?_objectMembers, if_neg (by simp), if_neg (by simp),
      if_neg (by simp)]
    rfl

end DocumentOutline

end FormGraph
