import FormGraph.Proofs.Exporting.Drawn

/-!
# The fields that are found in branches

From an object the UI document takes in the fields within the branches of its groups: `Finds` says
which these are. Gathering their entries adds just their keys to what is there, and under each new name
stands the entry of a field that was found (`gathers_children`). A deeper walk gives what a walk gives
that does not run out of depth (`refines_of_le`), so the entry of a field does not depend on where the
walk comes to it.
-/

namespace FormGraph

namespace UiSchema

open Graph

variable {g : Graph} {registry : Registry} {walk deeper : Walk} {target entries : Members}

/-! ## Deeper walks -/

/-- What the first walk gives, the second one gives too. -/
structure Walk.Refines (walk deeper : Walk) : Prop where
  /-- The entries of fields, -/
  field : ∀ {x n entry}, walk.field x n = .ok entry → deeper.field x n = .ok entry
  /-- and those of branches. -/
  branches : ∀ {x target entries},
    walk.branches x target = .ok entries → deeper.branches x target = .ok entries

theorem foldlM_of_refines {α β : Type} {step step' : β → α → Except Fault β} {as : List α}
    (h : ∀ a ∈ as, ∀ {b c}, step b a = .ok c → step' b a = .ok c) {b c : β}
    (hfold : as.foldlM step b = .ok c) : as.foldlM step' b = .ok c := by
  induction as generalizing b with
  | nil => exact hfold
  | cons a as ih =>
    rw [List.foldlM_cons, bind_eq_ok_iff] at hfold ⊢
    obtain ⟨next, hnext, hrest⟩ := hfold
    exact ⟨next, h a List.mem_cons_self hnext,
      ih (fun x hx => h x (List.mem_cons_of_mem _ hx)) hrest⟩

/-- What is added for a node of an object, where an entry is put in some way. -/
theorem added_of_refines (hw : walk.Refines deeper) {c : NodeId × Node NodeId}
    {put : Members → Members}
    (h : (if c.2.kind.isGroup then walk.branches c.1 target
      else return put (← walk.field c.1 c.2)) = Except.ok entries) :
    (if c.2.kind.isGroup then deeper.branches c.1 target
      else return put (← deeper.field c.1 c.2)) = Except.ok entries := by
  split_ifs at h ⊢
  · exact hw.branches h
  · simp only [bind_eq_ok_iff, pure_eq_ok_iff] at h ⊢
    obtain ⟨entry, hentry, rfl⟩ := h
    exact ⟨entry, hw.field hentry, rfl⟩

theorem objectEntries_of_refines (hw : walk.Refines deeper) {x : NodeId}
    (h : objectEntries g walk x target = .ok entries) :
    objectEntries g deeper x target = .ok entries := by
  unfold objectEntries at h ⊢
  rw [bind_eq_ok_iff] at h ⊢
  obtain ⟨cs, hcs, h⟩ := h
  rw [bind_eq_ok_iff] at h
  obtain ⟨next, hnext, h⟩ := h
  refine ⟨cs, hcs, bind_eq_ok_iff.2 ⟨next, foldlM_of_refines (fun c _ b _ hadd => ?_) hnext, h⟩⟩
  exact added_of_refines hw hadd

theorem field_of_refines (hw : walk.Refines deeper) {x : NodeId} {n : Node NodeId}
    {entry : Members} (h : field g registry walk x n = .ok entry) :
    field g registry deeper x n = .ok entry := by
  unfold field at h ⊢
  rw [bind_eq_ok_iff] at h ⊢
  obtain ⟨own, hown, h⟩ := h
  refine ⟨own, hown, ?_⟩
  cases hbody : n.body with
  | object a =>
    rw [hbody] at h
    exact objectEntries_of_refines hw h
  | array a =>
    rw [hbody] at h
    dsimp only at h ⊢
    rw [bind_eq_ok_iff] at h ⊢
    obtain ⟨cs, hcs, h⟩ := h
    refine ⟨cs, hcs, ?_⟩
    cases cs with
    | nil => exact h
    | cons c cs =>
      dsimp only at h ⊢
      rw [bind_eq_ok_iff] at h ⊢
      obtain ⟨item, hitem, h⟩ := h
      exact ⟨item, hw.field hitem, h⟩
  | string | number | boolean | enum | group | definition | reference =>
    rw [hbody] at h
    exact h

theorem branchEntries_of_refines (hw : walk.Refines deeper) {e : Edge}
    (h : branchEntries g walk target e = .ok entries) :
    branchEntries g deeper target e = .ok entries := by
  unfold branchEntries at h ⊢
  split_ifs at h ⊢
  · exact h
  · rw [bind_eq_ok_iff] at h ⊢
    obtain ⟨n, hn, h⟩ := h
    refine ⟨n, hn, ?_⟩
    split_ifs at h ⊢
    · exact hw.branches h
    · exact added_of_refines hw h
    · rw [bind_eq_ok_iff] at h ⊢
      obtain ⟨cs, hcs, h⟩ := h
      exact ⟨cs, hcs, foldlM_of_refines (fun c _ b _ hadd => added_of_refines hw hadd) h⟩
    · exact h

theorem refines_succ (g : Graph) (registry : Registry) (depth : Nat) :
    (UiSchema.walk g registry depth).Refines (UiSchema.walk g registry (depth + 1)) := by
  induction depth with
  | zero => exact ⟨fun h => (nomatch h), fun h => (nomatch h)⟩
  | succ depth ih =>
    exact ⟨field_of_refines ih, foldlM_of_refines fun e _ _ _ => branchEntries_of_refines ih⟩

/-- What a walk gives, a deeper one does. -/
theorem refines_of_le {depth depth' : Nat} (h : depth ≤ depth') :
    (UiSchema.walk g registry depth).Refines (UiSchema.walk g registry depth') := by
  induction h with
  | refl => exact ⟨id, id⟩
  | @step depth' _ ih =>
    have hnext := refines_succ g registry depth'
    exact ⟨fun h => hnext.field (ih.field h), fun h => hnext.branches (ih.branches h)⟩

/-! ## What is found -/

/-- The fields that are found from a stop: the field itself, and those that the walk comes to from a
group without going through another field. -/
inductive Finds (g : Graph) : Stop → NodeId → Prop where
  /-- A field is found at itself, -/
  | field (x : NodeId) : Finds g (.field x) x
  /-- and from a group what is found wherever the walk goes on to. -/
  | group {p x : NodeId} {s : Stop} (onward : Goes g (.group p) s) (rest : Finds g s x) :
    Finds g (.group p) x

theorem finds_field_iff {x y : NodeId} : Finds g (.field x) y ↔ y = x := by
  constructor
  · intro h
    cases h
    rfl
  · rintro rfl
    exact .field y

theorem finds_group_iff {p x : NodeId} :
    Finds g (.group p) x ↔ ∃ e ∈ g.edgesFrom p, ∃ s, GoesOver g e s ∧ Finds g s x := by
  constructor
  · intro h
    cases h with
    | group onward rest =>
      cases onward with
      | branch edge goes => exact ⟨_, edge, _, goes, rest⟩
  · rintro ⟨e, he, s, hs, hx⟩
    exact .group (.branch he hs) hx

/-- The second members are the first ones and those of some fields: what is new is named by their
keys, and what stands there is the entry of one of them. -/
structure Gathers (g : Graph) (walk : Walk) (found : NodeId → Prop) (target entries : Members) :
    Prop where
  /-- The names are those that were there and the keys of the fields. -/
  mem_names_iff : ∀ k, k ∈ Entries.names entries ↔
    k ∈ Entries.names target ∨ ∃ x n, found x ∧ g.node? x = some n ∧ n.key = k
  /-- What stands under a name was there or is the entry of a field with that key. -/
  made : ∀ k v, Entries.find? entries k = some v → Entries.find? target k = some v ∨
    ∃ x n entry, found x ∧ g.node? x = some n ∧ n.key = k ∧ v = .obj entry ∧
      walk.field x n = .ok entry

namespace Gathers

variable {found more : NodeId → Prop}

theorem congr (h : Gathers g walk found target entries) (hiff : ∀ x, found x ↔ more x) :
    Gathers g walk more target entries := by
  simpa only [funext fun x => propext (hiff x)] using h

theorem refl : Gathers g walk (fun _ => False) target target :=
  ⟨fun _ => (or_iff_left fun ⟨_, _, h, _⟩ => h).symm, fun _ _ h => Or.inl h⟩

theorem trans {next : Members} (h : Gathers g walk found target next)
    (h' : Gathers g walk more next entries) :
    Gathers g walk (fun x => found x ∨ more x) target entries := by
  refine ⟨fun k => ?_, fun k v hv => ?_⟩
  · rw [h'.mem_names_iff, h.mem_names_iff, or_assoc]
    simp only [or_and_right, exists_or]
  · rcases h'.made k v hv with hv | ⟨x, n, entry, hx, h⟩
    · rcases h.made k v hv with hv | ⟨x, n, entry, hx, h⟩
      · exact Or.inl hv
      · exact Or.inr ⟨x, n, entry, Or.inl hx, h⟩
    · exact Or.inr ⟨x, n, entry, Or.inr hx, h⟩

/-- A walk that goes deeper gathers the same. -/
theorem of_refines (h : Gathers g walk found target entries) (hw : walk.Refines deeper) :
    Gathers g deeper found target entries :=
  ⟨h.mem_names_iff, fun k v hv => (h.made k v hv).imp_right
    fun ⟨x, n, entry, hx, hn, hk, hv, hentry⟩ => ⟨x, n, entry, hx, hn, hk, hv, hw.field hentry⟩⟩

/-- The entry of one field is put under its key, or under it if the name is free. -/
theorem single {x : NodeId} {n : Node NodeId} {entry : Members} (hn : g.node? x = some n)
    (hentry : walk.field x n = .ok entry)
    (hnames : ∀ k, k ∈ Entries.names entries ↔ k ∈ Entries.names target ∨ n.key = k)
    (hfind : ∀ k v, Entries.find? entries k = some v →
      Entries.find? target k = some v ∨ n.key = k ∧ v = .obj entry) :
    Gathers g walk (fun y => y = x) target entries := by
  refine ⟨fun k => ?_, fun k v hv => ?_⟩
  · rw [hnames]
    refine or_congr_right ⟨fun hk => ⟨x, n, rfl, hn, hk⟩, ?_⟩
    rintro ⟨_, m, rfl, hm, hk⟩
    exact Option.some.inj (hn.symm.trans hm) ▸ hk
  · refine (hfind k v hv).imp_right fun ⟨hk, hv⟩ => ⟨x, n, entry, rfl, hn, hk, hv, hentry⟩

theorem put {x : NodeId} {n : Node NodeId} {entry : Members} (hn : g.node? x = some n)
    (hentry : walk.field x n = .ok entry) :
    Gathers g walk (fun y => y = x) target (Entries.put target n.key (.obj entry)) := by
  refine .single hn hentry (fun k => ?_) fun k v hv => ?_
  · rw [Entries.mem_names_put, eq_comm (a := k)]
  · rw [Entries.find?_put] at hv
    split_ifs at hv with hk
    · exact Or.inr ⟨hk, (Option.some.inj hv).symm⟩
    · exact Or.inl hv

theorem putNew {x : NodeId} {n : Node NodeId} {entry : Members} (hn : g.node? x = some n)
    (hentry : walk.field x n = .ok entry) :
    Gathers g walk (fun y => y = x) target (Entries.putNew target n.key (.obj entry)) := by
  refine .single hn hentry (fun k => ?_) fun k v hv => ?_
  · rw [Entries.names_putNew]
    split_ifs with hmem
    · exact (or_iff_left_of_imp fun h => h ▸ hmem).symm
    · rw [List.mem_append, List.mem_singleton, eq_comm (a := k)]
  · rw [Entries.find?_putNew, Entries.find?_cons, Entries.find?_nil] at hv
    rcases Option.or_eq_some_iff.1 hv with hv | ⟨-, hv⟩
    · exact Or.inl hv
    · split_ifs at hv with hk
      exact Or.inr ⟨hk, (Option.some.inj hv).symm⟩

/-- What is gathered one after the other. -/
theorem foldlM {α : Type} {step : Members → α → Except Fault Members} {found : α → NodeId → Prop}
    {as : List α}
    (hstep : ∀ a ∈ as, ∀ {target entries}, step target a = .ok entries →
      Gathers g walk (found a) target entries)
    (h : as.foldlM step target = .ok entries) :
    Gathers g walk (fun x => ∃ a ∈ as, found a x) target entries := by
  induction as generalizing target with
  | nil =>
    cases h
    exact refl.congr fun x => iff_of_false id fun ⟨_, ha, _⟩ => List.not_mem_nil ha
  | cons a as ih =>
    rw [List.foldlM_cons, bind_eq_ok_iff] at h
    obtain ⟨next, hnext, h⟩ := h
    refine ((hstep a List.mem_cons_self hnext).trans
      (ih (fun b hb => hstep b (List.mem_cons_of_mem _ hb)) h)).congr fun x => ?_
    simp only [List.mem_cons, exists_eq_or_imp]

end Gathers

/-! ## What a walk gathers -/

/-- A walk gathers from a group the fields that are found there. -/
def Walk.Gathering (g : Graph) (walk : Walk) : Prop :=
  ∀ {p target entries}, walk.branches p target = .ok entries →
    Gathers g walk (Finds g (.group p)) target entries

/-- What is gathered for a node of an object, where the entry of a field is gathered. -/
theorem gathers_added (hw : walk.Gathering g) {c : NodeId × Node NodeId}
    {put : Members → Members}
    (hput : ∀ entry, walk.field c.1 c.2 = .ok entry →
      Gathers g walk (fun y => y = c.1) target (put entry))
    (h : (if c.2.kind.isGroup then walk.branches c.1 target
      else return put (← walk.field c.1 c.2)) = Except.ok entries) :
    Gathers g walk (Finds g (.ofKind c.1 c.2.kind)) target entries := by
  unfold Stop.ofKind
  split_ifs at h ⊢
  · exact hw h
  · simp only [bind_eq_ok_iff, pure_eq_ok_iff] at h
    obtain ⟨entry, hentry, rfl⟩ := h
    exact (hput entry hentry).congr fun x => finds_field_iff.symm

theorem gathers_addField (hw : walk.Gathering g) {c : NodeId × Node NodeId}
    (hc : g.node? c.1 = some c.2) (h : addField walk target c = .ok entries) :
    Gathers g walk (Finds g (.ofKind c.1 c.2.kind)) target entries :=
  gathers_added hw (fun _ hentry => .putNew hc hentry) h

/-- Over an edge to a group, or to a field with a name of its own, the fields are found that are found
there. -/
theorem exists_goesOver_named_iff {e : Edge} {k : NodeKind} {x : NodeId} (hbranch : e.kind ≠ .child)
    (hk : g.kind? e.target = some k) (hnamed : k.isGroup = true ∨ k.isAddressable = true) :
    (∃ s, GoesOver g e s ∧ Finds g s x) ↔ Finds g (.ofKind e.target k) x := by
  have h := forall_goesOver_named_iff (P := fun s => ¬ Finds g s x) hbranch hk hnamed
  simpa only [not_forall, not_not, exists_prop] using not_congr h

/-- Over an edge to an object the fields are found that are found at what the object holds. -/
theorem exists_goesOver_object_iff (hf : Forest g) {e : Edge} {x : NodeId}
    {cs : List (NodeId × Node NodeId)} (hbranch : e.kind ≠ .child)
    (hk : g.kind? e.target = some .object) (hcs : g.children e.target = .ok cs) :
    (∃ s, GoesOver g e s ∧ Finds g s x) ↔ ∃ c ∈ cs, Finds g (.ofKind c.1 c.2.kind) x := by
  have h := forall_goesOver_object_iff (P := fun s => ¬ Finds g s x) hbranch hk
  rw [← forall_children_iff hf hcs (Q := fun y k => ¬ Finds g (.ofKind y k) x)] at h
  simpa only [not_forall, not_not, exists_prop] using not_congr h

theorem gathers_branchEntries (hf : Forest g) (hw : walk.Gathering g) {e : Edge}
    (h : branchEntries g walk target e = .ok entries) :
    Gathers g walk (fun x => ∃ s, GoesOver g e s ∧ Finds g s x) target entries := by
  unfold branchEntries at h
  split_ifs at h with hchild
  · cases h
    refine Gathers.refl.congr fun x => iff_of_false id ?_
    rintro ⟨s, hs, -⟩
    cases hs with
    | branch isBranch | within isBranch => exact isBranch hchild
  rw [bind_eq_ok_iff] at h
  obtain ⟨n, hn, h⟩ := h
  have hn : g.node? e.target = some n := pointedAt_eq_ok_iff.1 hn
  have hkind : g.kind? e.target = some n.kind := g.kind?_eq_some_iff.2 ⟨n, hn, rfl⟩
  split_ifs at h with hgroup haddressable hobject
  · refine (hw h).congr fun x => ?_
    rw [exists_goesOver_named_iff hchild hkind (Or.inl hgroup), Stop.ofKind, if_pos hgroup]
  · refine (gathers_addField hw hn h).congr fun x => ?_
    rw [exists_goesOver_named_iff hchild hkind (Or.inr haddressable)]
  · rw [bind_eq_ok_iff] at h
    obtain ⟨cs, hcs, h⟩ := h
    have hnodes := (children_ok hcs).2
    refine (Gathers.foldlM (fun c hc _ _ hadd => gathers_addField hw (hnodes c hc) hadd) h).congr
      fun x => ?_
    rw [exists_goesOver_object_iff hf hchild (hkind.trans (congrArg some hobject)) hcs]
  · cases h
    refine Gathers.refl.congr fun x => iff_of_false id ?_
    rintro ⟨s, hs, -⟩
    cases hs with
    | branch _ kind named =>
      obtain rfl := Option.some.inj (hkind.symm.trans kind)
      exact named.elim hgroup haddressable
    | within _ object => exact hobject (Option.some.inj (hkind.symm.trans object))

/-- At every depth the walk gathers from a group the fields that are found there. -/
theorem gathering_walk (hf : Forest g) (depth : Nat) :
    (UiSchema.walk g registry depth).Gathering g := by
  induction depth with
  | zero => exact fun h => (nomatch h)
  | succ depth ih =>
    intro p target entries h
    have hall := Gathers.foldlM (fun e _ _ _ hstep => gathers_branchEntries hf ih hstep) h
    exact (hall.congr fun x => finds_group_iff.symm).of_refines (refines_succ g registry depth)

/-- The children of an object are gathered: each field itself, and the fields that are found from the
groups. -/
theorem gathers_children (hf : Forest g) {depth : Nat} {cs : List (NodeId × Node NodeId)}
    (hcs : ∀ c ∈ cs, g.node? c.1 = some c.2)
    (h : cs.foldlM (childEntries (UiSchema.walk g registry depth)) target = .ok entries) :
    Gathers g (UiSchema.walk g registry depth)
      (fun x => ∃ c ∈ cs, Finds g (.ofKind c.1 c.2.kind) x) target entries :=
  .foldlM (fun c hc _ _ hstep => gathers_added (gathering_walk hf depth)
    (fun _ hentry => .put (hcs c hc) hentry) hstep) h

end UiSchema

end FormGraph
