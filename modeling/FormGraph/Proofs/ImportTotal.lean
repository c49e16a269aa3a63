import FormGraph.Document.Bundle
import FormGraph.Proofs.Outcome
import FormGraph.Proofs.Reading.Usable

/-!
# Reading a document ends in a graph or a refusal

Whatever document is read, by itself, screened or within a bundle, the answer is a graph or a refusal
of the document as malformed, unless the document holds a broken block. Where the only broken block
there can be is the document itself, the statement is exact (`settles_import_iff`).
-/

namespace FormGraph

/-- Something was made, or a document was refused as malformed. -/
def Settles {α : Type} (x : Except Fault α) : Prop :=
  (∃ a, x = .ok a) ∨ ∃ issues warnings, x = refuse (.malformed issues warnings)

theorem settles_ok {α : Type} (a : α) : Settles (.ok a : Except Fault α) := Or.inl ⟨a, rfl⟩

theorem settles_malformed {α : Type} (issues warnings : List String) :
    Settles (refuse (.malformed issues warnings) : Except Fault α) := Or.inr ⟨issues, warnings, rfl⟩

theorem not_settles_breakDown {α : Type} (b : Breakdown) :
    ¬ Settles (breakDown b : Except Fault α) := by
  rintro (⟨a, h⟩ | ⟨issues, warnings, h⟩)
  · cases h
  · cases h

/-- What only passes on a result settles as that does. -/
theorem settles_map_iff {α β : Type} {x : Except Fault α} {f : α → β} :
    Settles (f <$> x) ↔ Settles x := by
  cases x with
  | ok a => exact iff_of_true (settles_ok _) (settles_ok a)
  | error e =>
    constructor
    · rintro (⟨b, h⟩ | ⟨issues, warnings, h⟩)
      · cases h
      · cases h
        exact settles_malformed issues warnings
    · rintro (⟨a, h⟩ | ⟨issues, warnings, h⟩)
      · cases h
      · cases h
        exact settles_malformed issues warnings

namespace Graph

theorem settles_outlineOf_iff (members : Members) (cfg : DocumentConfig) :
    Settles (outlineOf (.obj members) cfg) ↔
      (Decompile.outline cfg.tupleItems members).Usable := by
  have husable : (Decompile.outline cfg.tupleItems members).notes.contains .unusable = true ↔
      ¬ (Decompile.outline cfg.tupleItems members).Usable := by
    rw [List.contains_iff_mem]
    unfold Noted.Usable Noted.All
    push Not
    exact ⟨fun h => ⟨_, h, rfl⟩, fun ⟨_, h, heq⟩ => heq ▸ h⟩
  unfold outlineOf
  dsimp only
  split
  · next h => exact iff_of_false (not_settles_breakDown _) (husable.1 h)
  · next h =>
    rw [husable, not_not] at h
    refine iff_of_true ?_ h
    split
    · exact settles_ok _
    · exact settles_malformed _ _

/-- What is read of a document is laid out; laying it out never fails. -/
theorem run_decompile (document : Value) (cfg : DocumentConfig) (s : IdSupply) :
    (decompile document cfg).run s =
      (fun r => (⟨r.1.toGraph s.used, r.2⟩, ⟨s.used + r.1.size⟩)) <$> outlineOf document cfg := by
  unfold decompile
  cases outlineOf document cfg <;> rfl

/-- Reading a document settles exactly when its outline can be read. -/
theorem settles_decompile_iff (document : Value) (cfg : DocumentConfig) (s : IdSupply) :
    Settles ((decompile document cfg).run s) ↔ Settles (outlineOf document cfg) := by
  rw [run_decompile, settles_map_iff]

/-- Reading a document settles unless a broken block stands in it. -/
theorem settles_decompile {document : Value} (hp : document.Proper) (hu : document.Unbroken)
    (cfg : DocumentConfig) (s : IdSupply) : Settles ((decompile document cfg).run s) := by
  rw [settles_decompile_iff]
  cases document with
  | obj members =>
    rw [settles_outlineOf_iff]
    exact Decompile.usable_outline cfg.tupleItems hp hu
  | null | bool _ | int _ | float _ | str _ | list _ => exact settles_malformed _ _

/-- Reading a document that is a broken block breaks down. -/
theorem not_settles_decompile {document : Value} (hbroken : BrokenBlock document)
    (cfg : DocumentConfig) (s : IdSupply) : ¬ Settles ((decompile document cfg).run s) := by
  obtain ⟨members, test, conditions, rfl, hrest⟩ := hbroken
  rw [settles_decompile_iff, settles_outlineOf_iff]
  exact Decompile.not_usable_outline cfg.tupleItems ⟨members, test, conditions, rfl, hrest⟩

/-- A document that is screened is refused for what screening found, or read. -/
theorem run_importDocument (document : Value) (cfg : DocumentConfig) (s : IdSupply) :
    (importDocument document cfg).run s =
      Screening.admit (Screening.document document) >>= fun _ =>
        (fun r => (⟨r.1.graph, (Screening.document document).warnings ++ r.1.warnings⟩, r.2)) <$>
          (decompile document cfg).run s := by
  unfold importDocument
  dsimp only
  cases Screening.admit (Screening.document document) with
  | error e => rfl
  | ok u =>
    show (decompile document cfg).run s >>= _ = _
    cases (decompile document cfg).run s <;> rfl

/-- A screened document settles when it is refused, or read and settles. -/
theorem settles_importDocument_iff (document : Value) (cfg : DocumentConfig) (s : IdSupply) :
    Settles ((importDocument document cfg).run s) ↔
      ((Screening.document document).isValid = true →
        Settles ((decompile document cfg).run s)) := by
  rw [run_importDocument]
  unfold Screening.admit
  by_cases hvalid : (Screening.document document).isValid = true
  · rw [if_pos hvalid]
    refine settles_map_iff.trans ⟨fun h _ => h, fun h => h hvalid⟩
  · rw [if_neg hvalid]
    exact iff_of_true (settles_malformed _ _) fun h => absurd h hvalid

/-- A bundle of a document and nothing else is read as the screened document is. -/
theorem importBundle_schema (document : Value) (cfg : DocumentConfig) (registry : Registry)
    (s : IdSupply) :
    (importBundle (.obj [("schema", document)]) cfg registry).run s =
      (fun r => (⟨r.1, none⟩, r.2)) <$> (importDocument document cfg).run s := by
  have hscreening : Screening.bundle (.obj [("schema", document)]) =
      Screening.document document := by
    show Screening.mk ((Screening.document document).errors ++ [])
      ((Screening.document document).warnings ++ []) = _
    rw [List.append_nil, List.append_nil]
  rw [run_importDocument]
  unfold importBundle
  rw [hscreening]
  dsimp only
  cases Screening.admit (Screening.document document) with
  | error e => rfl
  | ok u =>
    show (decompile document cfg).run s >>= _ = _ <$> _ <$> (decompile document cfg).run s
    cases (decompile document cfg).run s <;> rfl

/-- When no broken block stands inside a document, reading it settles exactly if it is not one itself;
so does reading it screened or from a bundle, except that screening may refuse it before. -/
theorem settles_import_iff {document : Value} (hp : document.Proper)
    (hinside : ∀ w, Value.Inside w document → ¬ BrokenBlock w) (cfg : DocumentConfig)
    (registry : Registry) (s : IdSupply) :
    (Settles ((decompile document cfg).run s) ↔ ¬ BrokenBlock document) ∧
    (Settles ((importDocument document cfg).run s) ↔
      ((Screening.document document).isValid = true → ¬ BrokenBlock document)) ∧
    (Settles ((importBundle (.obj [("schema", document)]) cfg registry).run s) ↔
      ((Screening.document document).isValid = true → ¬ BrokenBlock document)) := by
  have hdecompile : Settles ((decompile document cfg).run s) ↔ ¬ BrokenBlock document := by
    constructor
    · exact fun h hbroken => not_settles_decompile hbroken cfg s h
    · intro hnot
      refine settles_decompile hp (fun w hw => ?_) cfg s
      rcases hw with rfl | hw
      · exact hnot
      · exact hinside w hw
  have hscreened : Settles ((importDocument document cfg).run s) ↔
      ((Screening.document document).isValid = true → ¬ BrokenBlock document) := by
    rw [settles_importDocument_iff, hdecompile]
  refine ⟨hdecompile, hscreened, ?_⟩
  rw [importBundle_schema, settles_map_iff]
  exact hscreened

/-- A test that has a number in the place of its list of conditions ends no import. -/
theorem not_settles_of_number_of_conditions :
    ∃ document, document = .obj [("if", .obj [("properties", .obj [("a", .obj [("const", .int 1)])]),
        ("allOf", .int 5)])] ∧
      ¬ Settles ((decompile document {}).run {}) ∧ ¬ Settles ((importDocument document {}).run {}) ∧
      ¬ Settles ((importBundle (.obj [("schema", document)]) {} Registry.standard).run {}) := by
  refine ⟨_, rfl, ?_⟩
  have hproper : Value.Proper (.obj [("if", .obj [("properties",
      .obj [("a", .obj [("const", .int 1)])]), ("allOf", .int 5)])]) :=
    Value.proper_of_everywhere (by decide)
  have hbroken : BrokenBlock (.obj [("if", .obj [("properties",
      .obj [("a", .obj [("const", .int 1)])]), ("allOf", .int 5)])]) :=
    ⟨_, _, _, rfl, rfl, rfl, rfl, rfl⟩
  have hinside : ∀ w, Value.Inside w (.obj [("if", .obj [("properties",
      .obj [("a", .obj [("const", .int 1)])]), ("allOf", .int 5)])]) → ¬ BrokenBlock w := by
    intro w hw hbrokenInside
    obtain ⟨m, hm, hw⟩ := hw.of_obj
    rw [List.mem_singleton.1 hm] at hw
    have htest : Value.everywhere (fun v => !isBrokenBlock v) (.obj [("properties",
      .obj [("a", .obj [("const", .int 1)])]), ("allOf", .int 5)]) = true := by decide
    have hnot : (!isBrokenBlock w) = true := by
      rcases hw with rfl | hw
      · exact Value.everywhere_self htest
      · exact Value.everywhere_self (hw.everywhere htest)
    rw [isBrokenBlock_of_brokenBlock hbrokenInside] at hnot
    cases hnot
  obtain ⟨hdecompile, hdocument, hbundle⟩ :=
    settles_import_iff hproper hinside {} Registry.standard {}
  exact ⟨fun h => hdecompile.1 h hbroken, fun h => hdocument.1 h (by decide) hbroken,
    fun h => hbundle.1 h (by decide) hbroken⟩

end Graph

end FormGraph
