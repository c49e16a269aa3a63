import FormGraph.Proofs.Homogeneous.Edit
import FormGraph.Proofs.References.Removal
import FormGraph.Proofs.SiblingKeys.Change

/-!
# Arrays after references were inlined

Inlining puts a node of the kind of the content in the place of each reference outside of the
definition, and leaves all other children where they are; below the copies there are items like those
of the originals (`Replaced`). So the arrays stay homogeneous unless an array holds both references
that are inlined and ones that are not, and the content is no reference itself
(`Homogeneous.removeDefinition_iff`).
-/

namespace FormGraph

namespace Graph

variable {g g' old src : Graph} {s : IdSupply} {content : Option NodeId}

/-- What became of the children when the references in `done` were replaced by copies of `content`, a
node of `src`. -/
structure Replaced (src g : Graph) (done : NodeId → Prop) (content : Option NodeId) (g' : Graph) :
    Prop where
  /-- The references were there. -/
  there : ∀ {x}, done x → (g.node? x).isSome
  /-- They are gone. -/
  gone : ∀ {x}, done x → g'.node? x = none
  /-- Everything else is where it was. -/
  kept : ∀ {x}, (g.node? x).isSome → ¬ done x →
    g'.kind? x = g.kind? x ∧ ∀ p, g'.IsChild x p ↔ g.IsChild x p
  /-- The names of new nodes are new to the source. -/
  made : ∀ {x}, g.node? x = none → (g'.node? x).isSome → src.node? x = none
  /-- A new child of an old node stands for a reference. -/
  stands : ∀ {x p}, g.node? x = none → g'.IsChild x p → (g.node? p).isSome →
    ∃ ref, done ref ∧ g.IsChild ref p ∧ ∃ c ∈ content, g'.kind? x = src.kind? c
  /-- There is a new child for every reference. -/
  stood : ∀ {ref p c}, done ref → g.IsChild ref p → c ∈ content →
    ∃ x, g.node? x = none ∧ g'.IsChild x p ∧ g'.kind? x = src.kind? c
  /-- Below a new node there are children like those of its original. -/
  copied : ∀ {p}, g.node? p = none → (g'.node? p).isSome → ∃ q, g'.kind? p = src.kind? q ∧
    ∀ {x}, g'.IsChild x p → g.node? x = none ∧ ∃ y, src.IsChild y q ∧ g'.kind? x = src.kind? y

namespace Replaced

variable {done more : NodeId → Prop}

theorem refl (src : Graph) (hf : Forest g) (content : Option NodeId) :
    Replaced src g (fun _ => False) content g where
  there h := h.elim
  gone h := h.elim
  kept _ _ := ⟨rfl, fun _ => Iff.rfl⟩
  made h h' := by simp [h] at h'
  stands hx hchild _ := by simpa [hx] using (hchild.present hf).1
  stood h := h.elim
  copied h h' := by simp [h] at h'

/-- More references are replaced. -/
theorem trans {mid : Graph} (h : Replaced g g done content mid)
    (h' : Replaced g mid more content g') (hg : ∀ {x}, more x → (g.node? x).isSome)
    (hm : Forest mid) (hf' : Forest g') :
    Replaced g g (fun x => done x ∨ more x) content g' := by
  have hfresh : ∀ {x}, mid.node? x = none → (g'.node? x).isSome → g.node? x = none := h'.made
  have hold : ∀ {x}, (g.node? x).isSome → ¬ done x → (mid.node? x).isSome := by
    intro x hx hnot
    rw [← isSome_kind?, (h.kept hx hnot).1, isSome_kind?]
    exact hx
  have hgone : ∀ {x}, done x → g'.node? x = none := by
    intro x hx
    by_contra hsome
    have hfree := hfresh (h.gone hx) (Option.isSome_iff_ne_none.2 hsome)
    simpa [hfree] using h.there hx
  have hnotMore : ∀ {x}, g.node? x = none → ¬ more x := by
    intro x hx hmore
    simpa [hx] using hg hmore
  have hstay : ∀ {x}, (mid.node? x).isSome → (g'.node? x).isSome → ¬ more x := by
    intro x _ hx hmore
    simp [h'.gone hmore] at hx
  refine
    { there := fun hx => hx.elim h.there hg
      gone := fun hx => hx.elim hgone h'.gone
      kept := ?_
      made := ?_
      stands := ?_
      stood := ?_
      copied := ?_ }
  · intro x hx hnot
    rw [not_or] at hnot
    obtain ⟨hk, hc⟩ := h.kept hx hnot.1
    obtain ⟨hk', hc'⟩ := h'.kept (hold hx hnot.1) hnot.2
    exact ⟨hk'.trans hk, fun p => (hc' p).trans (hc p)⟩
  · exact fun hx _ => hx
  · intro x p hx hchild hp
    obtain ⟨hxthere, hpthere⟩ := hchild.present hf'
    have hpmid : (mid.node? p).isSome := hold hp fun hd => by
      simp [hgone hd] at hpthere
    cases hmid : mid.node? x with
    | none =>
      obtain ⟨ref, hmore, href, hkind⟩ := h'.stands hmid hchild hpmid
      have hnot : ¬ done ref := fun hd => by
        have hpresent := (href.present hm).1
        simp [h.gone hd] at hpresent
      exact ⟨ref, Or.inr hmore, ((h.kept (hg hmore) hnot).2 p).1 href, hkind⟩
    | some n =>
      have hsome : (mid.node? x).isSome := by simp [hmid]
      obtain ⟨hk, hc⟩ := h'.kept hsome (hstay hsome hxthere)
      obtain ⟨ref, hdone, href, c, hc₀, hkind⟩ := h.stands hx ((hc p).1 hchild) hp
      exact ⟨ref, Or.inl hdone, href, c, hc₀, hk.trans hkind⟩
  · intro ref p c hdone href hc
    by_cases hd : done ref
    · obtain ⟨x, hx, hchild, hkind⟩ := h.stood hd href hc
      obtain ⟨hk, hc'⟩ := h'.kept (hchild.present hm).1 (hnotMore hx)
      exact ⟨x, hx, (hc' p).2 hchild, hk.trans hkind⟩
    · have hmore := hdone.resolve_left hd
      obtain ⟨x, hx, hchild, hkind⟩ :=
        h'.stood hmore (((h.kept (hg hmore) hd).2 p).2 href) hc
      exact ⟨x, hfresh hx (hchild.present hf').1, hchild, hkind⟩
  · intro p hp hthere
    cases hmid : mid.node? p with
    | none =>
      obtain ⟨q, hk, hall⟩ := h'.copied hmid hthere
      refine ⟨q, hk, fun {x} hx => ?_⟩
      obtain ⟨hxmid, hy⟩ := hall hx
      exact ⟨hfresh hxmid (hx.present hf').1, hy⟩
    | some n =>
      have hsome : (mid.node? p).isSome := by simp [hmid]
      obtain ⟨q, hk, hall⟩ := h.copied hp hsome
      refine ⟨q, (h'.kept hsome (hstay hsome hthere)).1.trans hk, fun {x} hx => ?_⟩
      cases hxmid : mid.node? x with
      | none =>
        obtain ⟨ref, hmore, href, _⟩ := h'.stands hxmid hx hsome
        exact absurd hmore (hnotMore (hall href).1)
      | some m =>
        have hxsome : (mid.node? x).isSome := by simp [hxmid]
        obtain ⟨hkx, hcx⟩ := h'.kept hxsome (hstay hxsome (hx.present hf').1)
        obtain ⟨hfree, y, hy, hkind⟩ := hall ((hcx p).1 hx)
        exact ⟨hfree, y, hy, hkx.trans hkind⟩

/-- A reference goes without a copy. -/
theorem removeReference (hs : Sound g) (hold : Sound old) {ref : NodeId}
    (hkind : g.kind? ref = some .reference) (hkind' : old.kind? ref = some .reference) :
    Replaced old g (fun x => x = ref) none (g.removeSubtree old ref) := by
  have honly : ∀ x, x ∈ old.subtreeIds ref ↔ x = ref :=
    fun x => hold.mem_subtreeIds_of_reference hkind'
  have hkinds : ∀ x, (g.removeSubtree old ref).kind? x = if x = ref then none else g.kind? x := by
    intro x
    rw [kind?_removeSubtree]
    simp only [honly]
  have howner : ∀ x, (g.removeSubtree old ref).owningEdge x =
      if x = ref then none else g.owningEdge x := by
    intro x
    rw [owningEdge_removeSubtree]
    simp only [honly, eq_comm (a := ref)]
    split <;> rfl
  refine
    { there := ?_
      gone := ?_
      kept := ?_
      made := ?_
      stands := ?_
      stood := fun _ _ hc => by simp at hc
      copied := ?_ }
  · rintro x rfl
    exact present_of_kind? hkind
  · rintro x rfl
    rw [← kind?_eq_none_iff, hkinds, if_pos rfl]
  · intro x _ hne
    exact ⟨by rw [hkinds, if_neg hne], fun p => by rw [IsChild, howner, if_neg hne, IsChild]⟩
  · intro x hx hthere
    rw [← isSome_kind?, hkinds, kind?_eq_none_iff.2 hx, ite_self] at hthere
    cases hthere
  · intro x p hx hchild _
    rw [IsChild, howner] at hchild
    split_ifs at hchild
    simpa [hx] using (IsChild.present hs.toForest hchild).1
  · intro p hp hthere
    rw [← isSome_kind?, hkinds, kind?_eq_none_iff.2 hp, ite_self] at hthere
    cases hthere

/-- A reference gives way to a copy of the content. -/
theorem copyInPlace (hs : Sound g) (hold : Sound old) (hsup : Supplied g s)
    (hsupOld : Supplied old s) {ref c : NodeId} {r : Graph × IdSupply}
    (i : CopyInPlace old g s ref c r) : Replaced old g (fun x => x = ref) (some c) r.1 := by
  have hthere : (g.node? ref).isSome := (hs.present i.owner).1
  have hfresh : ∀ p ∈ i.pairs, g.node? p.2 = none := i.fresh hsup
  have hout : ∀ {x}, (g.node? x).isSome → ∀ p ∈ i.pairs, p.2 ≠ x := i.ne_of_present hsup
  have htop : ∀ {p}, r.1.IsChild i.copyId p ↔ g.IsChild ref p := by
    intro p
    rw [IsChild, i.owningEdge, if_pos rfl, IsChild, i.owningEdge_ref hs]
    simp only [Option.some.injEq, Edge.mk.injEq, true_and]
  have hparent : ∀ p ∈ i.pairs, p.2 ≠ i.edge.source := hout (hs.present i.owner).2
  refine
    { there := ?_
      gone := ?_
      kept := ?_
      made := ?_
      stands := ?_
      stood := ?_
      copied := ?_ }
  · rintro x rfl
    exact hthere
  · rintro x rfl
    rw [← kind?_eq_none_iff, i.kind?_outside (hout hthere), if_pos rfl]
  · intro x hx hne
    have hk := i.kind?_outside (hout hx)
    have ho := i.owningEdge_outside (hout hx)
    rw [if_neg (Ne.symm hne)] at hk ho
    exact ⟨hk, fun p => by rw [IsChild, ho, IsChild]⟩
  · intro x hx hxthere
    rcases Copied.name_or_outside i.pairs x with ⟨q, hq, rfl⟩ | hxout
    · exact i.fresh hsupOld q hq
    · rw [← isSome_kind?, i.kind?_outside hxout, kind?_eq_none_iff.2 hx, ite_self] at hxthere
      cases hxthere
  · intro x p hx hchild hp
    by_cases htopmost : x = i.copyId
    · subst htopmost
      exact ⟨ref, rfl, htop.1 hchild, c, rfl, by rw [i.kind?, i.copies.kind? i.mem_pairs]⟩
    · rcases Copied.name_or_outside i.pairs x with ⟨q, hq, rfl⟩ | hxout
      · rw [IsChild, i.owningEdge, if_neg (Ne.symm htopmost)] at hchild
        obtain ⟨t, ht, rfl, _⟩ := Keyed.isChild_copied hold.toForest i.copies hq hchild
        exact absurd rfl (hout hp t ht)
      · rw [IsChild, i.owningEdge_outside hxout] at hchild
        split_ifs at hchild
        simpa [hx] using (IsChild.present hs.toForest hchild).1
  · rintro x p c' rfl href hcontent
    obtain rfl := Option.some.inj hcontent
    exact ⟨i.copyId, hfresh _ i.mem_pairs, htop.2 href,
      by rw [i.kind?, i.copies.kind? i.mem_pairs]⟩
  · intro p hp hpthere
    rcases Copied.name_or_outside i.pairs p with ⟨q, hq, rfl⟩ | hpout
    · refine ⟨q.1, by rw [i.kind?, i.copies.kind? hq], fun {x} hchild => ?_⟩
      have hne : i.copyId ≠ x := by
        rintro rfl
        rw [IsChild, i.owningEdge, if_pos rfl] at hchild
        obtain ⟨hsource, -, -⟩ := Edge.mk.inj (Option.some.inj hchild)
        exact hparent q hq hsource.symm
      rcases Copied.name_or_outside i.pairs x with ⟨t, ht, rfl⟩ | hxout
      · rw [IsChild, i.owningEdge, if_neg hne] at hchild
        obtain ⟨q', hq', hsame, horiginal⟩ := Keyed.isChild_copied hold.toForest i.copies ht hchild
        rw [i.copies.same_original q' hq' q hq hsame] at horiginal
        exact ⟨hfresh t ht, t.1, horiginal, by rw [i.kind?, i.copies.kind? ht]⟩
      · rw [IsChild, i.owningEdge_outside hxout] at hchild
        split_ifs at hchild
        have hpresent := (IsChild.present hs.toForest hchild).2
        simp [hfresh q hq] at hpresent
    · rw [← isSome_kind?, i.kind?_outside hpout, kind?_eq_none_iff.2 hp, ite_self] at hpthere
      cases hpthere

/-- One reference is inlined, or goes. -/
theorem inlineReference (hs : Sound g) (hold : Sound old) (hsup : Supplied g s)
    (hsupOld : Supplied old s) {ref : NodeId}
    (hkind : g.kind? ref = some .reference) (hkind' : old.kind? ref = some .reference)
    {r : Graph × IdSupply} (h : (g.inlineReference old ref content).run s = .ok r) :
    Replaced old g (fun x => x = ref) content r.1 := by
  rcases hs.inPlace_of_inlineReference hold hsup hkind h with ⟨hwhy, rfl⟩ | ⟨_, rfl, ⟨i⟩⟩
  · have howned := owned_of_reference hs hkind
    obtain rfl : content = none := hwhy.resolve_right fun hnone => by simp [hnone] at howned
    exact removeReference hs hold hkind hkind'
  · exact copyInPlace hs hold hsup hsupOld i

/-- All references are inlined, one after another. -/
theorem inlineAll (hold : Sound old) {own : List NodeId}
    (hown : ∀ x ∈ own, (old.node? x).isSome)
    (hcontent : ∀ c, content = some c → (old.owningEdge c).isSome) (refs : List NodeId)
    (hn : refs.Nodup) (hout : ∀ ref ∈ refs, ref ∉ own) {r : Graph × IdSupply} :
    ∀ {g : Graph} {s : IdSupply} {done : NodeId → Prop}, Replaced old old done content g →
      Inlining old own refs g → Supplied g s → Supplied old s →
      (refs.foldlM (fun (h : Graph) ref => h.inlineReference old ref content) g : Edit Graph).run s =
        .ok r → Replaced old old (fun x => done x ∨ x ∈ refs) content r.1 := by
  induction refs with
  | nil =>
    intro g s done hd _ _ _ h
    rw [List.foldlM_nil, Edit.pure_eq_ok_iff] at h
    subst h
    simpa using hd
  | cons ref refs ih =>
    intro g s done hd hi hsup hsupOld h
    rw [List.nodup_cons] at hn
    rw [List.foldlM_cons, Edit.bind_eq_ok_iff] at h
    obtain ⟨g₁, s₁, h₁, h⟩ := h
    obtain ⟨hi₁, hsup₁, hle⟩ := hi.inlineReference hold hsup hsupOld hown
      (hout ref List.mem_cons_self) hn.1 hcontent h₁
    obtain ⟨hkind, hkind'⟩ := hi.refs ref List.mem_cons_self
    have hthere : ∀ {x}, x = ref → (old.node? x).isSome := by
      rintro x rfl
      exact present_of_kind? hkind'
    have hone := inlineReference hi.sound hold hsup hsupOld hkind hkind' h₁
    have hstep := hd.trans hone hthere hi.sound.toForest hi₁.sound.toForest
    have hall := ih hn.2 (fun x hx => hout x (List.mem_cons_of_mem _ hx)) hstep hi₁ hsup₁
      (hsupOld.step hle fun x hx => Or.inl hx) h
    simpa [List.mem_cons, or_assoc] using hall

end Replaced

/-! ## Removing a definition -/

/-- Inlining the references to a definition would put its content next to references that stay. -/
def splitsArray (g : Graph) (name : String) : Bool :=
  (g.contentId? name).any fun c => g.kind? c ≠ some .reference &&
    (g.outerReferences name).any fun ref =>
      (g.fellowItems ref).any fun x => !(g.outerReferences name).contains x

theorem splitsArray_eq_true_iff (hs : Sound g) {name : String} :
    g.splitsArray name = true ↔ ∃ c, g.contentId? name = some c ∧ g.kind? c ≠ some .reference ∧
      ∃ ref ∈ g.outerReferences name, ∃ p x, g.kind? p = some .array ∧ g.IsChild ref p ∧
        g.IsChild x p ∧ x ∉ g.outerReferences name := by
  unfold splitsArray
  simp only [Option.any_eq_true, Bool.and_eq_true, decide_eq_true_eq, List.any_eq_true,
    hs.mem_fellowItems_iff, Bool.not_eq_true', ← Bool.not_eq_true, List.contains_iff_mem]
  constructor
  · rintro ⟨c, hc, hk, ref, href, x, ⟨p, hp, hrefp, hx⟩, hout⟩
    exact ⟨c, hc, hk, ref, href, p, x, hp, hrefp, hx, hout⟩
  · rintro ⟨c, hc, hk, ref, href, p, x, hp, hrefp, hx, hout⟩
    exact ⟨c, hc, hk, ref, href, x, ⟨p, hp, hrefp, hx⟩, hout⟩

namespace Homogeneous

section Settled

variable {name : String} {defId : NodeId} {settled : Graph} {x y p : NodeId}

theorem isChild_dropAll (ids : List NodeId) :
    (settled.dropAll ids).IsChild x p ↔ x ∉ ids ∧ settled.IsChild x p := by
  rw [IsChild, owningEdge_dropAll, IsChild]
  by_cases hx : x ∈ ids <;> simp [hx]

/-- What points at a definition is a reference. -/
theorem kind?_of_outerReference (hfind : g.definitions.find? name = some defId)
    (hx : x ∈ g.outerReferences name) : g.kind? x = some .reference := by
  obtain ⟨n, hn, hv⟩ := targetAt_eq_some_iff.1 ((mem_outerReferences_iff hfind).1 hx).1
  rw [g.kind?_of_node? hn, Node.kind_of_target? hv]

/-- An array with a reference to a definition from outside is no part of the definition, and neither
is what is in it. -/
theorem apart_of_definition (hs : Sound g) (hfind : g.definitions.find? name = some defId)
    {ref : NodeId} (href : ref ∈ g.outerReferences name) (hrefp : g.IsChild ref p)
    (hx : g.IsChild x p) : p ∉ g.subtreeIds defId ∧ x ∉ g.subtreeIds defId := by
  obtain ⟨-, hout⟩ := (mem_outerReferences_iff hfind).1 href
  rw [hs.toForest.mem_subtreeIds_iff] at hout ⊢
  rw [hs.toForest.mem_subtreeIds_iff]
  have hp : ¬ Below g defId p := fun hb => hout (.step hrefp hb)
  refine ⟨hp, fun hb => ?_⟩
  rcases below_iff.1 hb with rfl | ⟨e, he, hup⟩
  · simp [IsChild, hs.ownerless_of_definition hfind] at hx
  · rw [hx] at he
    obtain rfl := Option.some.inj he
    exact hp hup

variable (hh : Homogeneous g) (hs : Sound g) (hfind : g.definitions.find? name = some defId)
  (hf : Forest settled)
  (hr : Replaced g g (fun x => x ∈ g.outerReferences name) (g.contentId? name) settled)

include hh hs hfind hr

/-- Where inlining puts the content next to a reference that stays, the array is not homogeneous. -/
theorem splitsArray_eq_false (hh' : Homogeneous (settled.dropAll (g.subtreeIds defId))) :
    g.splitsArray name = false := by
  rw [← Bool.not_eq_true, splitsArray_eq_true_iff hs]
  rintro ⟨c, hc, hck, ref, href, p, x, hp, hrefp, hx, hxout⟩
  have hxref : g.kind? x = some .reference :=
    (hh hp hx hrefp).trans (kind?_of_outerReference hfind href)
  obtain ⟨y, hy, hyp, hyk⟩ := hr.stood href hrefp hc
  obtain ⟨hxk, hxp⟩ := hr.kept (hx.present hs.toForest).1 hxout
  have hpout : p ∉ g.outerReferences name := fun hmem => by
    rw [kind?_of_outerReference hfind hmem] at hp
    cases hp
  have hyin : y ∉ g.subtreeIds defId := fun hmem => by
    simpa [hy] using hs.own_present hfind y hmem
  obtain ⟨hpin, hxin⟩ := apart_of_definition hs hfind href hrefp hx
  have hpk : settled.kind? p = some .array :=
    (hr.kept (hx.present hs.toForest).2 hpout).1.trans hp
  have hsame := hh' (by rw [kind?_dropAll, if_neg hpin, hpk])
    ((isChild_dropAll _).2 ⟨hxin, (hxp p).2 hx⟩) ((isChild_dropAll _).2 ⟨hyin, hyp⟩)
  rw [kind?_dropAll, if_neg hxin, kind?_dropAll, if_neg hyin, hxk, hyk, hxref] at hsame
  exact hck hsame.symm

omit hh hs hfind

include hf

/-- What was there and is still a child was the same child. -/
theorem kept_of_isChild (hx : settled.IsChild x p) (hxg : (g.node? x).isSome) :
    x ∉ g.outerReferences name ∧ settled.kind? x = g.kind? x ∧ g.IsChild x p := by
  have hout : x ∉ g.outerReferences name := fun hmem => by
    simpa [hr.gone hmem] using (hx.present hf).1
  obtain ⟨hk, hc⟩ := hr.kept hxg hout
  exact ⟨hout, hk, (hc p).1 hx⟩

include hh hs hfind

/-- Unless inlining splits an array, the content stands next to an item that stays only if both are
references. -/
theorem kind?_eq_of_beside (hsplit : g.splitsArray name = false) (hp : g.kind? p = some .array)
    (hx : settled.IsChild x p) (hxg : (g.node? x).isSome) (hy : settled.IsChild y p)
    (hyg : g.node? y = none) : settled.kind? x = settled.kind? y := by
  rw [← Bool.not_eq_true, splitsArray_eq_true_iff hs] at hsplit
  obtain ⟨hxout, hxk, hxp⟩ := kept_of_isChild hf hr hx hxg
  obtain ⟨ref, href, hrefp, c, hc, hyk⟩ := hr.stands hyg hy (hxp.present hs.toForest).2
  have hck : g.kind? c = some .reference := by
    by_contra hck
    exact hsplit ⟨c, hc, hck, ref, href, p, x, hp, hrefp, hxp, hxout⟩
  rw [hxk, hyk, hck, hh hp hxp hrefp, kind?_of_outerReference hfind href]

/-- Unless inlining splits an array, all arrays are homogeneous after it. -/
theorem of_splitsArray_eq_false (hsplit : g.splitsArray name = false) : Homogeneous settled := by
  intro x y p hp hx hy
  cases hpg : g.node? p with
  | none =>
    -- the array is a copy, and its items are copies of those of its original
    obtain ⟨q, hk, hall⟩ := hr.copied hpg (hx.present hf).2
    obtain ⟨_, a, ha, hka⟩ := hall hx
    obtain ⟨_, b, hb, hkb⟩ := hall hy
    rw [hka, hkb]
    exact hh (hk ▸ hp) ha hb
  | some n =>
    have hpold : (g.node? p).isSome := by simp [hpg]
    have hpa : g.kind? p = some .array := by
      rwa [← (hr.kept hpold fun hmem => by simpa [hr.gone hmem] using (hx.present hf).2).1]
    cases hxg : g.node? x with
    | some m =>
      cases hyg : g.node? y with
      | some n =>
        obtain ⟨-, hxk, hxp⟩ := kept_of_isChild hf hr hx (by simp [hxg])
        obtain ⟨-, hyk, hyp⟩ := kept_of_isChild hf hr hy (by simp [hyg])
        rw [hxk, hyk]
        exact hh hpa hxp hyp
      | none => exact kind?_eq_of_beside hh hs hfind hf hr hsplit hpa hx (by simp [hxg]) hy hyg
    | none =>
      cases hyg : g.node? y with
      | some n =>
        exact (kind?_eq_of_beside hh hs hfind hf hr hsplit hpa hy (by simp [hyg]) hx hxg).symm
      | none =>
        obtain ⟨_, _, _, c, hc, hxk⟩ := hr.stands hxg hx hpold
        obtain ⟨_, _, _, d, hd, hyk⟩ := hr.stands hyg hy hpold
        rw [hxk, hyk, Option.some.inj (hc.symm.trans hd)]

/-- After all references outside of a definition were inlined and the definition is gone, the arrays
are homogeneous exactly when none holds both references that were inlined and other items. -/
theorem of_replaced_iff :
    Homogeneous (settled.dropAll (g.subtreeIds defId)) ↔ g.splitsArray name = false :=
  ⟨splitsArray_eq_false hh hs hfind hr, fun hsplit =>
    (of_splitsArray_eq_false hh hs hfind hf hr hsplit).dropAll _⟩

end Settled

/-- Removing a definition keeps arrays homogeneous, unless it inlines references of an array that has
other items. -/
theorem removeDefinition_iff (hh : Homogeneous g) (hs : Sound g) (hsup : Supplied g s)
    {name : String} {policy : RemovalPolicy} {r : (Graph × List String) × IdSupply}
    (h : (g.removeDefinition name policy).run s = .ok r) :
    Homogeneous r.1.1 ↔ ¬ (policy = .inlined ∧ g.splitsArray name = true) := by
  obtain ⟨defId, settled, warnings, hfind, hsettle, hr⟩ := removeDefinition_ok h
  have hsame : Homogeneous r.1.1 ↔ Homogeneous (settled.dropAll (g.subtreeIds defId)) := by
    rw [hr]
    exact Iff.rfl
  rw [hsame]
  have hrefs : (g.referencesTo name).filter (fun ref => !(g.subtreeIds defId).contains ref) =
      g.outerReferences name := by
    rw [outerReferences, hfind]
    rfl
  rcases settleReferences_ok hsettle with ⟨hwhy, hset, _⟩ | ⟨rfl, hset, _⟩ | ⟨rfl, hset⟩
  · dsimp only at hset
    rw [hset]
    refine iff_of_true (hh.dropAll _) ?_
    rintro ⟨rfl, hsplit⟩
    have hnil : g.outerReferences name = [] := by
      rw [outerReferences, hwhy.resolve_left (by simp), List.filter_nil]
    obtain ⟨_, _, _, ref, href, _⟩ := (splitsArray_eq_true_iff hs).1 hsplit
    simp [hnil] at href
  · dsimp only at hset
    rw [hset]
    exact iff_of_true ((hh.removeAll g _).dropAll _) (by simp)
  · have hfilter := (nodup_referencesTo g name).filter
      fun ref => !(g.subtreeIds defId).contains ref
    have hout : ∀ ref ∈ (g.referencesTo name).filter
        (fun ref => !(g.subtreeIds defId).contains ref), ref ∉ g.subtreeIds defId :=
      fun ref href => by simpa using (List.mem_filter.1 href).2
    have hsound := (Inlining.inlineAll hs (hs.own_present hfind) hs.content_owned _ hfilter hout
      (hs.inlining hfind) hsup hsup hset).1.sound
    have hreplaced := Replaced.inlineAll hs (hs.own_present hfind) hs.content_owned _ hfilter hout
      (Replaced.refl g hs.toForest _) (hs.inlining hfind) hsup hsup hset
    have hcontent : g.contentId? name = (g.childIds defId).head? := by
      rw [contentId?, hfind, Option.bind_some]
    rw [hrefs, ← hcontent] at hreplaced
    simp only [false_or] at hreplaced
    rw [hh.of_replaced_iff hs hfind hsound.toForest hreplaced]
    simp

end Homogeneous

end Graph

end FormGraph
