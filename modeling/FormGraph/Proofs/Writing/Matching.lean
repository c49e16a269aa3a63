import FormGraph.Proofs.Inversion
import FormGraph.Proofs.Ownership.Import
import FormGraph.Proofs.Writing.Shown

/-!
# Writings that match

Two nodes, of one graph or of two, are written alike when they say the same and what hangs below
them is written alike. `Compiling.Matches same x y` compares two writings: both fail or both succeed,
and where `same` holds they come to the same. With `same` true it is equality of what is written; with
`same` false it says no more than that one writing fails when the other does, whatever is written.
-/

namespace FormGraph

namespace Compiling

variable {α β γ δ : Type} {same : Prop}

/-- Both writings fail or both succeed, and where `same` holds they come to the same. -/
def Matches (same : Prop) (x y : Compiling α) : Prop :=
  x.run.value.isOk = y.run.value.isOk ∧ (same → x.run.value = y.run.value)

namespace Matches

theorem refl (x : Compiling α) : x.Matches same x := ⟨rfl, fun _ => rfl⟩

theorem trans {x y z : Compiling α} (h : x.Matches same y) (h' : y.Matches same z) :
    x.Matches same z := ⟨h.1.trans h'.1, fun hs => (h.2 hs).trans (h'.2 hs)⟩

theorem of_eq {x y : Compiling α} (h : x.run.value = y.run.value) : x.Matches same y :=
  ⟨congrArg _ h, fun _ => h⟩

theorem value_eq {x y : Compiling α} (h : x.Matches True y) : x.run.value = y.run.value :=
  h.2 trivial

theorem isOk_eq {x y : Compiling α} (h : x.Matches same y) :
    x.run.value.isOk = y.run.value.isOk := h.1

/-- What comes to something matches another that comes to it. -/
theorem of_gives {x y : Compiling α} {a b : α} {refs more : List Value} (hx : x.Gives a refs)
    (hy : y.Gives b more) (h : same → a = b) : x.Matches same y := by
  refine ⟨?_, fun hs => ?_⟩
  · rw [hx.1, hy.1]
    rfl
  · rw [hx.1, hy.1, h hs]

end Matches

theorem value_bind (x : Compiling α) (f : α → Compiling β) :
    (x >>= f).run.value = x.run.value.bind fun a => (f a).run.value := by
  have hrun : (x >>= f).run.value = (ExceptT.bindCont f x.run.value : Noted CompileNote _).value :=
    rfl
  rw [hrun]
  cases x.run.value <;> rfl

theorem value_map (x : Compiling α) (f : α → β) :
    (f <$> x).run.value = x.run.value.map f := by
  rw [← bind_pure_comp, value_bind]
  cases x.run.value <;> rfl

theorem value_bind_eq_ok_iff {x : Compiling α} {f : α → Compiling β} {b : β} :
    (x >>= f).run.value = .ok b ↔ ∃ a, x.run.value = .ok a ∧ (f a).run.value = .ok b := by
  rw [value_bind]
  exact bind_eq_ok_iff

theorem value_pure_eq_ok_iff {a b : α} : (pure a : Compiling α).run.value = .ok b ↔ a = b :=
  FormGraph.pure_eq_ok_iff

theorem value_listen_eq_ok_iff {x : Compiling α} {r : α × List CompileNote} :
    x.listen.run.value = .ok r ↔ x.run.value = .ok r.1 ∧ r.2 = x.run.notes := by
  have hvalue : x.listen.run.value = x.run.value.map fun a => (a, x.run.notes) := rfl
  rw [hvalue]
  obtain ⟨a, notes⟩ := r
  cases x.run.value with
  | error e => simp [Except.map]
  | ok b => simp [Except.map, eq_comm]

/-- Something that was found is what the chain goes on with. -/
theorem ofExcept_ok_bind (a : α) (f : α → Compiling β) : (ofExcept (.ok a) >>= f) = f a := by
  have hrun : (ofExcept (.ok a) >>= f).run = (⟨(f a).run.value, [] ++ (f a).run.notes⟩ : Noted _ _) :=
    rfl
  rw [List.nil_append] at hrun
  exact hrun

theorem value_ofExcept_error_bind (e : Fault) (f : α → Compiling β) :
    (ofExcept (.error e) >>= f).run.value = .error e := by
  rw [value_bind]
  rfl

namespace Matches

theorem bind {x y : Compiling α} {f f' : α → Compiling β} (h : x.Matches same y)
    (hf : ∀ a b, (same → a = b) → (f a).Matches same (f' b)) :
    (x >>= f).Matches same (y >>= f') := by
  obtain ⟨hok, heq⟩ := h
  unfold Matches
  rw [value_bind, value_bind]
  cases hx : x.run.value with
  | error e =>
    cases hy : y.run.value with
    | error e' =>
      refine ⟨rfl, fun hs => ?_⟩
      have h := heq hs
      rw [hx, hy] at h
      exact congrArg Except.error (Except.error.inj h)
    | ok b => simp [hx, hy, Except.isOk, Except.toBool] at hok
  | ok a =>
    cases hy : y.run.value with
    | error e' => simp [hx, hy, Except.isOk, Except.toBool] at hok
    | ok b =>
      refine hf a b fun hs => ?_
      have h := heq hs
      rw [hx, hy] at h
      exact Except.ok.inj h

theorem map {x y : Compiling α} (f : α → β) (h : x.Matches same y) :
    (f <$> x).Matches same (f <$> y) := by
  rw [← bind_pure_comp, ← bind_pure_comp]
  exact h.bind fun a b hab => ⟨rfl, fun hs => by rw [hab hs]⟩

/-- What comes last may be anything that succeeds, as long as it is the same where it has to be. -/
theorem pure {a b : α} (h : same → a = b) :
    (Pure.pure a : Compiling α).Matches same (Pure.pure b) :=
  of_gives (.pure a) (.pure b) h

theorem mapM {f : α → Compiling γ} {f' : β → Compiling γ} {as : List α} {bs : List β}
    (h : List.Forall₂ (fun a b => (f a).Matches same (f' b)) as bs) :
    (as.mapM f).Matches same (bs.mapM f') := by
  induction h with
  | nil => exact refl _
  | cons hab _ ih =>
    rw [List.mapM_cons, List.mapM_cons]
    exact hab.bind fun c d hcd => ih.bind fun cs ds hcs =>
      pure fun hs => by rw [hcd hs, hcs hs]

theorem foldlM {f : γ → α → Compiling γ} {f' : γ → β → Compiling γ} {as : List α} {bs : List β}
    (h : List.Forall₂ (fun a b => ∀ c d, (same → c = d) → (f c a).Matches same (f' d b)) as bs)
    {c d : γ} (hcd : same → c = d) : (as.foldlM f c).Matches same (bs.foldlM f' d) := by
  induction h generalizing c d with
  | nil => exact pure hcd
  | cons hab _ ih =>
    rw [List.foldlM_cons, List.foldlM_cons]
    exact (hab c d hcd).bind fun c' d' h' => ih h'

end Matches

end Compiling

/-- Where the branches of clauses hang does not count for what the clauses test. -/
theorem Clause.mapM_tests_bindTargets {ρ τ : Type} (cs : List (Clause ρ)) (f : ρ → Option τ) :
    (cs.map (Clause.bindTargets f)).mapM (fun c => Value.obj <$> c.condition.fragment) =
      cs.mapM fun c => Value.obj <$> c.condition.fragment := by
  rw [List.mapM_map]
  rfl

namespace Compile

open Graph Compiling

variable {g g' : Graph} {cfg : DocumentConfig} {same : Prop} {f : NodeId → NodeId}
  {below below' : NodeId → Node NodeId → Compiling Value}

/-- What hangs below the node `id` of `g` is written as what hangs below `id'` of `g'`, one for one:
`f` says which is which. -/
structure Parallel (same : Prop) (f : NodeId → NodeId) (g g' : Graph)
    (below below' : NodeId → Node NodeId → Compiling Value) (id id' : NodeId) (n : Node NodeId) :
    Prop where
  /-- The children are those that correspond, in order. -/
  childIds : g'.childIds id' = (g.childIds id).map f
  /-- What hangs below the first node is there. -/
  present : ∀ e ∈ g.edgesFrom id, (g.node? e.target).isSome
  /-- What hangs below the second node is there. -/
  present' : ∀ e ∈ g'.edgesFrom id', (g'.node? e.target).isSome
  /-- Children look alike from above and are written alike. -/
  child : ∀ c ∈ g.childIds id, ∀ m, g.node? c = some m → ∃ m', g'.node? (f c) = some m' ∧
    m'.key = m.key ∧ m'.required = m.required ∧ m'.kind.isGroup = m.kind.isGroup ∧
    (below c m).Matches same (below' (f c) m')
  /-- Branches are written alike. -/
  branch : ∀ c ∈ n.clauses, ∀ (k : EdgeKind) (t : NodeId), c.target k = some t →
    (branch g below t).Matches same (branch g' below' (f t))

variable {id id' : NodeId} {n : Node NodeId}

/-- A branch is written as its node is, wrapped. -/
theorem branch_eq {t : NodeId} {m : Node NodeId} (hm : g.node? t = some m) :
    branch g below t = Outline.wrapped m <$> below t m := by
  unfold branch
  rw [hm, ← bind_pure_comp]
  dsimp only
  congr 1
  funext v
  unfold Outline.wrapped
  cases m.isAddressable <;> rfl

namespace Parallel

theorem child_present (h : Parallel same f g g' below below' id id' n) {c : NodeId}
    (hc : c ∈ g.childIds id) : ∃ m, g.node? c = some m := by
  obtain ⟨e, he, rfl, _⟩ := mem_edgesFrom_of_mem_childIds hc
  exact Option.isSome_iff_exists.1 (h.present e he)

theorem branchUnder (h : Parallel same f g g' below below' id id' n) {c : Clause NodeId}
    (hc : c ∈ n.clauses) (k : EdgeKind) (keyword : String) :
    (branchUnder g below keyword (c.target k)).Matches same
      (branchUnder g' below' keyword ((c.target k).bind fun t => some (f t))) := by
  cases ht : c.target k with
  | none => exact .refl _
  | some t =>
    exact (h.branch c hc k t ht).bind fun a b hab => .pure fun hs => by rw [hab hs]

theorem clause (h : Parallel same f g g' below below' id id' n) (kind : GroupKind)
    {c : Clause NodeId} (hc : c ∈ n.clauses) :
    (clause g cfg below kind c).Matches same
      (clause g' cfg below' kind (c.bindTargets fun t => some (f t))) := by
  have hnone : (c.onFalse.bind fun t => some (f t)).isNone = c.onFalse.isNone := by
    cases c.onFalse <;> rfl
  refine (Matches.refl (Compiling.ofExcept c.condition.fragment)).bind fun a b hab =>
    (h.branchUnder hc .thenBranch "then").bind fun a₁ b₁ h₁ =>
      (h.branchUnder hc .elseBranch "else").bind fun a₂ b₂ h₂ => .pure fun hs => ?_
  rw [hab hs, h₁ hs, h₂ hs, ← hnone]
  rfl

theorem ifBlock (h : Parallel same f g g' below below' id id' n) {cs : List (Clause NodeId)}
    (hcs : n.clauses = cs) :
    (ifBlock g below cs).Matches same
      (ifBlock g' below' (cs.map (Clause.bindTargets fun t => some (f t)))) := by
  cases cs with
  | nil => exact .refl _
  | cons first rest =>
    have hfirst : first ∈ n.clauses := hcs ▸ List.mem_cons_self
    unfold Compile.ifBlock
    rw [← Clause.mapM_tests_bindTargets (first :: rest) fun t => some (f t)]
    refine (Matches.refl _).bind fun a b hab =>
      (h.branchUnder hfirst .thenBranch "then").bind fun a₁ b₁ h₁ =>
        (h.branchUnder hfirst .elseBranch "else").bind fun a₂ b₂ h₂ => .pure fun hs => ?_
    rw [hab hs, h₁ hs, h₂ hs]

theorem group (h : Parallel same f g g' below below' id id' n) {n' : Node NodeId}
    {kind : GroupKind} {cs : List (Clause NodeId)} (hcs : n.clauses = cs)
    (hannotations : annotations n' = annotations n) (hextras : n'.extras = n.extras) :
    (group g cfg below id n kind cs).Matches same
      (group g' cfg below' id' n' kind (cs.map (Clause.bindTargets fun t => some (f t)))) := by
  have hlist : ∀ k : GroupKind, (cs.mapM (Compile.clause g cfg below k)).Matches same
      ((cs.map (Clause.bindTargets fun t => some (f t))).mapM
        (Compile.clause g' cfg below' k)) := by
    intro k
    refine .mapM ?_
    rw [List.forall₂_map_right_iff, List.forall₂_same]
    exact fun c hc => h.clause k (hcs ▸ hc)
  have hlast : ∀ body body', (same → body = body') →
      (Pure.pure (.obj (withExtras n (Entries.putAll (annotations n) body))) :
        Compiling Value).Matches same
        (Pure.pure (.obj (withExtras n' (Entries.putAll (annotations n') body')))) :=
    fun body body' hbody => .pure fun hs => by
      rw [hbody hs, hannotations, withExtras_congr hextras]
  unfold Compile.group
  refine (Matches.of_gives (gives_noteUnused h.present) (gives_noteUnused h.present')
    fun _ => rfl).bind fun _ _ _ => ?_
  cases kind with
  | ifBlock => exact (h.ifBlock hcs).bind hlast
  | allOf | anyOf | oneOf =>
    exact (hlist _).bind fun a b hab => (Matches.pure fun hs => by rw [hab hs]).bind hlast

theorem children (h : Parallel same f g g' below below' id id' n) :
    ∃ cs cs', g.children id = .ok cs ∧ g'.children id' = .ok cs' ∧
      List.Forall₂ (fun c c' : NodeId × Node NodeId => c'.2.key = c.2.key ∧
        c'.2.required = c.2.required ∧ c'.2.kind.isGroup = c.2.kind.isGroup ∧
        (below c.1 c.2).Matches same (below' c'.1 c'.2)) cs cs' := by
  have hchild : ∀ c ∈ g.childIds id, ∃ m m', g.node? c = some m ∧ g'.node? (f c) = some m' ∧
      m'.key = m.key ∧ m'.required = m.required ∧ m'.kind.isGroup = m.kind.isGroup ∧
      (below c m).Matches same (below' (f c) m') := by
    intro c hc
    obtain ⟨m, hm⟩ := h.child_present hc
    obtain ⟨m', hm'⟩ := h.child c hc m hm
    exact ⟨m, m', hm, hm'⟩
  unfold Graph.children
  rw [h.childIds]
  clear h
  generalize g.childIds id = ids at hchild
  induction ids with
  | nil => exact ⟨[], [], rfl, rfl, .nil⟩
  | cons c cs ih =>
    obtain ⟨ms, ms', hms, hms', hall⟩ := ih fun x hx => hchild x (List.mem_cons_of_mem _ hx)
    obtain ⟨m, m', hm, hm', halike⟩ := hchild c List.mem_cons_self
    refine ⟨(c, m) :: ms, (f c, m') :: ms', ?_, ?_, .cons halike hall⟩
    · rw [List.mapM_cons, pointedAt_eq_ok_iff.2 hm, hms]
      rfl
    · rw [List.map_cons, List.mapM_cons, pointedAt_eq_ok_iff.2 hm', hms']
      rfl

/-- The list of groups is written whatever the groups are. -/
theorem groupList {n' : Node NodeId} (hextras : n'.extras = n.extras) {gs gs' : List Value}
    (hg : same → gs = gs') : (groupList n gs).Matches same (groupList n' gs') := by
  have hgives : ∀ (m : Node NodeId) (vs : List Value), ∃ ms, (Compile.groupList m vs).Gives ms [] ∧
      ∀ m', m'.extras = m.extras → (Compile.groupList m' vs).Gives ms [] := by
    intro m vs
    unfold Compile.groupList
    by_cases hvs : vs.isEmpty = true
    · simp only [hvs, if_true]
      exact ⟨[], .pure _, fun _ _ => .pure _⟩
    · simp only [hvs, Bool.false_eq_true, if_false]
      cases hkept : (Entries.find? m.extras "allOf").getD (.list []) with
      | list kept =>
        refine ⟨_, .pure _, fun m' hm' => ?_⟩
        simp only [hm', hkept]
        exact .pure _
      | null | bool _ | int _ | float _ | str _ | obj _ =>
        refine ⟨_, (Gives.warning _).after (.pure _), fun m' hm' => ?_⟩
        simp only [hm', hkept]
        exact (Gives.warning _).after (.pure _)
  obtain ⟨ms, hms, hsame⟩ := hgives n gs
  obtain ⟨ms', hms', _⟩ := hgives n' gs'
  refine .of_gives hms hms' fun hs => ?_
  have h := (hsame n' hextras).1
  rw [hg hs, hms'.1] at h
  exact (Except.ok.inj h).symm

theorem objectBody (h : Parallel same f g g' below below' id id' n) {n' : Node NodeId}
    (hextras : n'.extras = n.extras) :
    (objectBody g below id n).Matches same (objectBody g' below' id' n') := by
  obtain ⟨cs, cs', hcs, hcs', hall⟩ := h.children
  have hstep : List.Forall₂ (fun c c' => ∀ parts parts', (same → parts = parts') →
      (objectChild below parts c).Matches same (objectChild below' parts' c')) cs cs' := by
    refine hall.imp fun c c' hc parts parts' hparts => ?_
    obtain ⟨hkey, hrequired, hgroup, hbelow⟩ := hc
    unfold objectChild
    rw [hkey, hrequired, hgroup]
    refine hbelow.bind fun a b hab => ?_
    split
    · exact .pure fun hs => by rw [hab hs, hparts hs]
    · exact .pure fun hs => by rw [hab hs, hparts hs]
  unfold Compile.objectBody
  rw [hcs, hcs', ofExcept_ok_bind, ofExcept_ok_bind]
  exact (Matches.foldlM hstep fun _ => rfl).bind fun parts parts' hparts =>
    (groupList hextras fun hs => by rw [hparts hs]).bind fun gs gs' hgs =>
      .pure fun hs => by rw [hparts hs, hgs hs]

theorem arrayBody (h : Parallel same f g g' below below' id id' n) :
    (arrayBody g below id).Matches same (arrayBody g' below' id') := by
  unfold Compile.arrayBody
  rw [h.childIds]
  cases hids : g.childIds id with
  | nil => exact .refl _
  | cons item rest =>
    have hitem : item ∈ g.childIds id := hids ▸ List.mem_cons_self
    obtain ⟨m, hm⟩ := h.child_present hitem
    obtain ⟨m', hm', _, _, _, hbelow⟩ := h.child item hitem m hm
    rw [List.map_cons]
    dsimp only
    rw [pointedAt_eq_ok_iff.2 hm, pointedAt_eq_ok_iff.2 hm', ofExcept_ok_bind, ofExcept_ok_bind]
    exact hbelow.bind fun a b hab => .pure fun hs => by rw [hab hs]

/-- The nodes are written alike. -/
theorem fragment (h : Parallel same f g g' below below' id id' n) {n' : Node NodeId} {r : Bool}
    (hn : n' = { n.mapClauses (Clause.bindTargets fun t => some (f t)) with required := r }) :
    (fragment g cfg below id n).Matches same (fragment g' cfg below' id' n') := by
  have hbody : n'.body = n.body.mapClauses (Clause.bindTargets fun t => some (f t)) := by
    rw [hn]
    rfl
  have hkind : n'.kind = n.kind := by
    rw [Node.kind, hbody, Body.kind_mapClauses]
    rfl
  have hannotations : annotations n' = annotations n := by
    rw [hn]
    rfl
  have hextras : n'.extras = n.extras := by
    rw [hn]
    rfl
  have hlast : ∀ (b : Body NodeId) (b' : Body NodeId) (ms ms' : Members), b'.keywords = b.keywords →
      (same → ms = ms') →
      (Pure.pure (.obj (withExtras n (Entries.putAll (Entries.putAll
        ((if n.kind.isTyped then [("type", Value.str n.kind.name)] else []) ++ annotations n)
        b.keywords) ms))) : Compiling Value).Matches same
      (Pure.pure (.obj (withExtras n' (Entries.putAll (Entries.putAll
        ((if n'.kind.isTyped then [("type", Value.str n'.kind.name)] else []) ++ annotations n')
        b'.keywords) ms')))) :=
    fun b b' ms ms' hb hms => .pure fun hs => by
      rw [hms hs, hb, hkind, hannotations, withExtras_congr hextras]
  unfold Compile.fragment
  rw [hbody]
  cases hb : n.body with
  | group kind cs =>
    exact h.group (by rw [Node.clauses, hb, Body.clauses]) hannotations hextras
  | reference target =>
    dsimp only [Body.mapClauses]
    rw [hannotations, withExtras_congr hextras]
    exact .refl _
  | object a => exact (h.objectBody hextras).bind fun ms ms' hms => hlast _ _ ms ms' rfl hms
  | array a => exact h.arrayBody.bind fun ms ms' hms => hlast _ _ ms ms' rfl hms
  | string _ | number _ | boolean | enum _ | definition _ =>
    exact (Matches.refl _).bind fun ms ms' hms => hlast _ _ ms ms' rfl hms

end Parallel

end Compile

end FormGraph
