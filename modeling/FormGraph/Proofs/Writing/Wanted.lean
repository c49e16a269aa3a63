import FormGraph.Proofs.Writing.WorkList

/-!
# The definitions that are wanted

Of the definitions of a graph those are written that are wanted: all of them where that is asked for,
and otherwise those that can be reached from the root along what is pointed at. This is so whether
the references lead anywhere or not, and whatever order the table has: a run of the writer that
succeeds has written the wanted definitions, each as it is written on its own (`document_ok`), and
where references point at texts it succeeds exactly when the root and the wanted definitions can be
written (`Graph.compile_isOk_iff`).
-/

namespace FormGraph

namespace Compile

open Graph Compiling

variable {g : Graph} {cfg : DocumentConfig}

/-- Writing the root. -/
def rootWriting (g : Graph) (cfg : DocumentConfig) : Compiling Value := do
  let n ← Compiling.ofExcept g.root
  node g cfg (depth g) g.rootId n

/-- The definitions of the graph that are written. -/
inductive Wanted (g : Graph) (cfg : DocumentConfig) : String → Prop where
  /-- All are, where that is asked for. -/
  | all {name : String} (emit : cfg.emitUnreferenced = true) (known : name ∈ g.definitions.names) :
    Wanted g cfg name
  /-- Those are that the root points at, -/
  | root {name : String} (known : name ∈ g.definitions.names)
    (pointed : .str name ∈ (rootWriting g cfg).references) : Wanted g cfg name
  /-- and those that a definition points at which is written. -/
  | definition {name target : String} (wanted : Wanted g cfg name)
    (known : target ∈ g.definitions.names)
    (pointed : .str target ∈ (definition g cfg name).references) : Wanted g cfg target

theorem Wanted.known {name : String} (h : Wanted g cfg name) : name ∈ g.definitions.names := by
  cases h <;> assumption

/-- A name that is no definition's is written as an empty object, and points at nothing. -/
theorem gives_unknown {name : String} (h : name ∉ g.definitions.names) :
    (definition g cfg name).Gives (.obj []) [] := by
  have hnone : g.definitions.find? name = none := by
    rw [Table.mem_names_iff] at h
    simpa using h
  have hcontent : g.content name = .ok none := by
    rw [content, contentId?, hnone]
    rfl
  unfold definition
  rw [hcontent]
  exact (Gives.ofExcept rfl).after (.pure _)

theorem rootWriting_eq {n : Node NodeId} (h : g.root = .ok n) :
    rootWriting g cfg = node g cfg (depth g) g.rootId n := by
  unfold rootWriting
  rw [h]
  exact ofExcept_ok_bind _ _

/-! ## What every turn keeps -/

/-- Where the loop stands that began with the root: what it has pointed at is what the root and the
definitions written point at, and what it has written or has to write are, of the definitions, those
that are wanted. -/
structure Standing (g : Graph) (cfg : DocumentConfig) (w : WorkList) : Prop where
  /-- What is written is what the definition is written as. -/
  value_eq : ∀ n v, Entries.find? w.written n = some v → (definition g cfg n).run.value = .ok v
  /-- The root and what is written point at what was pointed at, and nothing else does. -/
  pointedAt_iff : ∀ t, t ∈ w.pointedAt ↔ t ∈ (rootWriting g cfg).references ∨
    ∃ n ∈ Entries.names w.written, t ∈ (definition g cfg n).references
  /-- All definitions, if that is asked for, and those that were pointed at are written or wait. -/
  covers : ∀ n ∈ g.definitions.names, cfg.emitUnreferenced = true ∨ .str n ∈ w.pointedAt →
    n ∈ Entries.names w.written ∨ n ∈ w.waiting
  /-- Where something is written or waits, some definition is wanted; and so is this one, if it is a
  definition. -/
  wanted : ∀ n, n ∈ Entries.names w.written ∨ n ∈ w.waiting →
    (n ∈ g.definitions.names → Wanted g cfg n) ∧ ∃ m, Wanted g cfg m

/-- What a definition points at that is wanted, if it is one, is wanted, if it is one. -/
theorem wanted_of_pointed {name n : String} (h : name ∈ g.definitions.names → Wanted g cfg name)
    (hn : .str n ∈ (definition g cfg name).references) (hknown : n ∈ g.definitions.names) :
    Wanted g cfg n := by
  by_cases hname : name ∈ g.definitions.names
  · exact .definition (h hname) hknown hn
  · rw [references, (gives_unknown hname).2] at hn
    exact absurd hn List.not_mem_nil

theorem Standing.turn {w w' : WorkList} (h : Standing g cfg w) (hw : Turn g cfg w w') :
    Standing g cfg w' := by
  cases hw with
  | @skip pointedAt written name waiting again =>
    refine ⟨h.value_eq, h.pointedAt_iff, fun n hn hp => ?_, fun n hn => h.wanted n ?_⟩
    · rcases h.covers n hn hp with hn | hn
      · exact Or.inl hn
      · rcases List.mem_cons.1 hn with rfl | hn
        · exact Or.inl again
        · exact Or.inr hn
    · exact hn.imp_right (List.mem_cons_of_mem _)
  | @write pointedAt written name waiting v new first value joins =>
    obtain ⟨-, hmem⟩ := joined joins
    have hname := h.wanted name (Or.inr List.mem_cons_self)
    constructor
    case value_eq =>
      intro n u hu
      rw [Entries.find?_put] at hu
      split_ifs at hu with heq
      · rw [← heq, value, Option.some.inj hu]
      · exact h.value_eq n u hu
    case pointedAt_iff =>
      intro t
      have hold := h.pointedAt_iff t
      simp only [List.mem_append, Entries.mem_names_put, or_and_right, exists_or, exists_eq_left]
      rw [hold, or_assoc]
    case covers =>
      intro n hn hp
      have hold := h.covers n hn
      simp only [List.mem_append, Entries.mem_names_put, hmem, List.mem_cons] at hp hold ⊢
      tauto
    case wanted =>
      intro n hn
      rw [Entries.mem_names_put, List.mem_append] at hn
      rcases hn with (hn | rfl) | hn | hn
      · exact h.wanted n (Or.inl hn)
      · exact hname
      · exact h.wanted n (Or.inr (List.mem_cons_of_mem _ hn))
      · exact ⟨wanted_of_pointed hname.1 ((hmem n).1 hn).1, hname.2⟩

theorem Standing.run {w w' : WorkList} (h : Standing g cfg w)
    (hw : Relation.ReflTransGen (Turn g cfg) w w') : Standing g cfg w' := by
  induction hw with
  | refl => exact h
  | tail _ hturn ih => exact ih.turn hturn

/-- The definitions with which the loop begins. -/
theorem starting_iff {found : List Value} {n : String} :
    n ∈ g.definitions.names.filter (fun n => cfg.emitUnreferenced || found.contains (.str n)) ↔
      n ∈ g.definitions.names ∧ (cfg.emitUnreferenced = true ∨ .str n ∈ found) := by
  rw [List.mem_filter, Bool.or_eq_true, List.contains_iff_mem]

/-- Where the loop begins when the root is written. -/
def WorkList.start (g : Graph) (cfg : DocumentConfig) : WorkList where
  pointedAt := (rootWriting g cfg).references
  written := []
  waiting := g.definitions.names.filter fun n =>
    cfg.emitUnreferenced || (rootWriting g cfg).references.contains (.str n)

theorem Standing.start : Standing g cfg (.start g cfg) where
  value_eq n v hv := by cases hv
  pointedAt_iff t := (or_iff_left fun ⟨_, hn, _⟩ => List.not_mem_nil hn).symm
  covers n hn hp := Or.inr (starting_iff.2 ⟨hn, hp⟩)
  wanted n hn := by
    obtain ⟨hknown, hstart⟩ := starting_iff.1 (hn.resolve_left List.not_mem_nil)
    have hwanted : Wanted g cfg n := hstart.elim (.all · hknown) (.root hknown)
    exact ⟨fun _ => hwanted, n, hwanted⟩

/-- The turns that the writer is given are enough. -/
theorem WorkList.budget_start_lt (g : Graph) (cfg : DocumentConfig) :
    (WorkList.start g cfg).budget g < g.definitions.size + g.nodes.size + 1 := by
  refine Nat.lt_succ_of_le (Nat.add_le_add ?_ ?_)
  · exact (List.length_filter_le _ _).trans (List.length_map _).le
  · exact (List.length_filter_le _ _).trans (length_targetTexts_le g)

/-- When nothing waits any more, what is written are, of the definitions, those that are wanted. -/
theorem Standing.wanted_iff {pointedAt : List Value} {written : Members}
    (h : Standing g cfg ⟨pointedAt, written, []⟩) (n : String) :
    n ∈ Entries.names written ∧ n ∈ g.definitions.names ↔ Wanted g cfg n := by
  refine ⟨fun ⟨hn, hknown⟩ => (h.wanted n (Or.inl hn)).1 hknown, fun hwanted => ⟨?_, hwanted.known⟩⟩
  have hcovers : ∀ n ∈ g.definitions.names, cfg.emitUnreferenced = true ∨ .str n ∈ pointedAt →
      n ∈ Entries.names written :=
    fun n hn hp => (h.covers n hn hp).resolve_right List.not_mem_nil
  induction hwanted with
  | all emit known => exact hcovers _ known (Or.inl emit)
  | root known pointed =>
    exact hcovers _ known (Or.inr ((h.pointedAt_iff _).2 (Or.inl pointed)))
  | definition _ known pointed ih =>
    exact hcovers _ known (Or.inr ((h.pointedAt_iff _).2 (Or.inr ⟨_, ih, pointed⟩)))

/-! ## The document -/

/-- What a definition is written as, when it can be. -/
def definitionValue (g : Graph) (cfg : DocumentConfig) (name : String) : Value :=
  (definition g cfg name).run.value.toOption.getD .null

/-- The table of the definitions to keep. -/
def table (g : Graph) (cfg : DocumentConfig) (keep : String → Bool) : Members :=
  (g.definitions.names.filter keep).map fun n => (n, definitionValue g cfg n)

/-- What is read off the definitions written, in the order of the table, are those to keep. -/
theorem table_of_standing {w : WorkList} (h : Standing g cfg w) {names : List String} :
    (names.filterMap fun n => (Entries.find? w.written n).map fun fragment => (n, fragment)) =
      (names.filter fun n => Entries.has w.written n).map fun n => (n, definitionValue g cfg n) := by
  induction names with
  | nil => rfl
  | cons n names ih =>
    rw [List.filterMap_cons, List.filter_cons, ih, Entries.has]
    cases hfind : Entries.find? w.written n with
    | none => rfl
    | some v =>
      have hv : definitionValue g cfg n = v := by
        rw [definitionValue, h.value_eq n v hfind]
        rfl
      rw [← hv]
      rfl

/-- A document that was written is the root with the definitions that the turns of the loop have
written when nothing waits any more, and what was pointed at in it is what was then pointed at. -/
theorem document_run {doc : Value} (h : (document g cfg).run.value = .ok doc) :
    ∃ (root : Value) (written : Members),
      (rootWriting g cfg).run.value = .ok root ∧
      Relation.ReflTransGen (Turn g cfg) (.start g cfg)
        ⟨(document g cfg).references, written, []⟩ ∧
      doc = .obj (if written.isEmpty then root.obj?.getD []
        else Entries.put (root.obj?.getD []) definitionsKeyword (.obj <|
          g.definitions.names.filterMap fun n =>
            (Entries.find? written n).map fun fragment => (n, fragment))) := by
  obtain ⟨refs, hrefs⟩ : ∃ refs, (document g cfg).references = refs := ⟨_, rfl⟩
  have hgives : (document g cfg).Gives doc refs := ⟨h, hrefs⟩
  rw [hrefs]
  unfold document at hgives
  obtain ⟨rootNode, _, hnode, hgives', rfl⟩ := gives_bind_iff.1 hgives
  rw [← rootWriting_eq (show g.root = .ok rootNode from hnode)] at hgives'
  obtain ⟨⟨root, notes⟩, _, hlisten, hloop, rfl⟩ := gives_bind_iff.1 hgives'
  obtain ⟨hroot, rfl⟩ := value_listen_eq_ok_iff.1 hlisten
  obtain ⟨written, _, hwritten, hend, rfl⟩ := gives_bind_iff.1 hloop
  obtain ⟨rfl, rfl⟩ := gives_pure_iff.1 hend
  refine ⟨root, written, hroot, ?_, rfl⟩
  rw [List.append_nil]
  exact (gives_definitions_iff _ (WorkList.budget_start_lt g cfg)).1 ⟨hwritten, rfl⟩

/-- What is pointed at in a document is what the root and the definitions that are wanted point at. -/
theorem mem_references_document_iff {doc : Value} (h : (document g cfg).run.value = .ok doc)
    {t : Value} : t ∈ (document g cfg).references ↔ t ∈ (rootWriting g cfg).references ∨
      ∃ n, Wanted g cfg n ∧ t ∈ (definition g cfg n).references := by
  obtain ⟨root, written, -, hrun, -⟩ := document_run h
  have hs := Standing.start.run hrun
  refine (hs.pointedAt_iff t).trans (or_congr_right (exists_congr fun n => ?_))
  rw [← hs.wanted_iff n]
  refine ⟨fun ⟨hn, ht⟩ => ⟨⟨hn, ?_⟩, ht⟩, fun ⟨⟨hn, _⟩, ht⟩ => ⟨hn, ht⟩⟩
  by_contra hknown
  rw [references, (gives_unknown hknown).2] at ht
  exact List.not_mem_nil ht

/-- A document that was written is the root with the table of the definitions that are wanted. -/
theorem document_ok {doc : Value} (h : (document g cfg).run.value = .ok doc) :
    ∃ (root : Value) (keep : String → Bool),
      (rootWriting g cfg).run.value = .ok root ∧
      (∀ n, keep n = true ↔ Wanted g cfg n) ∧
      (∀ n, Wanted g cfg n → (definition g cfg n).run.value = .ok (definitionValue g cfg n)) ∧
      doc = .obj (if (table g cfg keep).isEmpty then root.obj?.getD []
        else Entries.put (root.obj?.getD []) definitionsKeyword (.obj (table g cfg keep))) := by
  obtain ⟨root, written, hroot, hrun, rfl⟩ := document_run h
  have hs := Standing.start.run hrun
  have hwanted := hs.wanted_iff
  have hkeep : ∀ n, (Entries.has written n && decide (n ∈ g.definitions.names)) = true ↔
      Wanted g cfg n := by
    intro n
    rw [Bool.and_eq_true, Entries.has_eq_true_iff, decide_eq_true_eq]
    exact hwanted n
  have htable : (g.definitions.names.filterMap fun n =>
      (Entries.find? written n).map fun fragment => (n, fragment)) =
      table g cfg fun n => Entries.has written n && decide (n ∈ g.definitions.names) := by
    rw [table_of_standing hs, table]
    congr 1
    refine List.filter_congr fun n hn => ?_
    rw [decide_eq_true hn, Bool.and_true]
  -- the names that are no definitions' are pointed at by definitions, so some definition is written
  have hempty : written.isEmpty = (table g cfg fun n =>
      Entries.has written n && decide (n ∈ g.definitions.names)).isEmpty := by
    rw [Bool.eq_iff_iff, List.isEmpty_iff, List.isEmpty_iff, table, List.map_eq_nil_iff,
      List.filter_eq_nil_iff]
    constructor
    · rintro rfl n _ hn
      simp [Entries.has] at hn
    · intro hnone
      refine List.eq_nil_iff_forall_not_mem.2 fun m hm => ?_
      obtain ⟨n, hn⟩ := (hs.wanted m.1 (Or.inl (List.mem_map_of_mem hm))).2
      exact hnone n hn.known ((hkeep n).2 hn)
  refine ⟨root, _, hroot, hkeep, fun n hn => ?_, ?_⟩
  · obtain ⟨v, hv⟩ := Option.isSome_iff_exists.1
      (Entries.has_eq_true_iff.2 ((hwanted n).2 hn).1 : (Entries.find? written n).isSome = true)
    rw [definitionValue, hs.value_eq n v hv]
    rfl
  · rw [← hempty, ← htable]

end Compile

namespace Graph

open Compile

variable {g : Graph} {cfg : DocumentConfig}

theorem compile_document {r : Compile.Result} (h : g.compile cfg = .ok r) :
    (document g cfg).run.value = .ok r.document := by
  unfold Graph.compile at h
  obtain ⟨doc, hdoc, h⟩ := bind_eq_ok_iff.1 h
  obtain ⟨missing, -, h⟩ := bind_eq_ok_iff.1 h
  obtain rfl := pure_eq_ok_iff.1 h
  exact hdoc

/-- A graph whose references point at texts can be written exactly when its root and the definitions
that are wanted can. -/
theorem compile_isOk_iff (ht : g.PointsAtTexts) :
    (∃ r, g.compile cfg = .ok r) ↔ (∃ v, (rootWriting g cfg).run.value = .ok v) ∧
      ∀ n, Wanted g cfg n → ∃ v, (definition g cfg n).run.value = .ok v := by
  constructor
  · rintro ⟨r, hr⟩
    obtain ⟨root, _, hroot, _, hwanted, _⟩ := document_ok (compile_document hr)
    exact ⟨⟨root, hroot⟩, fun n hn => ⟨_, hwanted n hn⟩⟩
  · rintro ⟨⟨v, hv⟩, hwanted⟩
    obtain ⟨rootNode, hnode, -⟩ := Compiling.value_bind_eq_ok_iff.1 hv
    have hroot : rootWriting g cfg = node g cfg (depth g) g.rootId rootNode :=
      rootWriting_eq hnode
    rw [hroot] at hv
    refine compile_of_closed (fun n => n ∈ g.definitions.names → Wanted g cfg n) ht
      (pointedAt_eq_ok_iff.1 hnode) hv (fun n hn hstart _ => ?_)
      (fun n hn => ?_) fun n hn r hr hknown => ?_
    · rw [← hroot] at hstart
      exact hstart.elim (fun h => .all h hn) (.root hn)
    · by_cases hknown : n ∈ g.definitions.names
      · exact hwanted n (hn hknown)
      · exact ⟨_, (gives_unknown hknown).1⟩
    · by_cases hname : n ∈ g.definitions.names
      · exact .definition (hn hname) hknown hr
      · rw [Compiling.references, (gives_unknown hname).2] at hr
        exact absurd hr List.not_mem_nil

end Graph

end FormGraph
