import FormGraph.Node.Key
import FormGraph.Kind
import Mathlib.Data.List.Nodup
import Mathlib.Order.Bounds.Basic
import Std.Data.String.ToNat

/-!
# Which keys are identifiers, and which are generated

An identifier begins with a letter or an underscore and goes on with letters, digits and underscores.
A key that is derived from a title is one, whatever the title says, and stays one when a number is
added to it. Of the keys that a caller may choose, those are identifiers that do not end in a line
break (`isIdentifier_iff_of_isValid`).

With a token as the fallback, a derived key is a token as well, so that deriving a key from it changes
nothing, and the number that a taken key gets is the least that makes it free (`keyLaws_of_isToken`).
-/

namespace FormGraph

namespace Key

/-- The text is an identifier: a letter or underscore and then letters, digits and underscores. -/
def isIdentifier (key : String) : Bool :=
  match key.toList with
  | [] => false
  | c :: cs => isStart c && cs.all isPart

/-- The text ends in a line break. -/
def endsLine (key : String) : Bool := key.toList.getLast? = some '\n'

theorem isIdentifier_iff {key : String} :
    isIdentifier key = true ↔
      ∃ c cs, key.toList = c :: cs ∧ isStart c = true ∧ ∀ d ∈ cs, isPart d = true := by
  unfold isIdentifier
  split
  · next h => simp [h]
  · next c cs h => simp [h]

theorem isPart_of_mem_underscore {c : Char} (h : c ∈ "_".toList) : isPart c = true := by
  obtain rfl : c = '_' := by simpa using h
  rfl

theorem isPart_of_isStart {c : Char} (h : isStart c = true) : isPart c = true := by
  unfold isStart at h
  unfold isPart Char.isAlphanum
  cases hc : c.isAlpha <;> simp_all

theorem isStart_of_isPart {c : Char} (h : isPart c = true) (hd : c.isDigit = false) :
    isStart c = true := by
  unfold isPart Char.isAlphanum at h
  unfold isStart
  rwa [hd, Bool.or_false] at h

theorem isPart_of_isWordChar {c : Char} (h : isWordChar c = true) : isPart c = true := by
  unfold isWordChar at h
  unfold isPart Char.isAlphanum Char.isAlpha
  cases hd : c.isDigit <;> simp_all

theorem isPart_of_isIdentifier {key : String} (h : isIdentifier key = true) {d : Char}
    (hd : d ∈ key.toList) : isPart d = true := by
  obtain ⟨c, cs, hkey, hstart, hpart⟩ := isIdentifier_iff.1 h
  rw [hkey] at hd
  rcases List.mem_cons.1 hd with rfl | hd
  · exact isPart_of_isStart hstart
  · exact hpart d hd

/-- An identifier with something added that could stand in one. -/
theorem isIdentifier_append {base rest : String} (hbase : isIdentifier base = true)
    (hrest : ∀ c ∈ rest.toList, isPart c = true) : isIdentifier (base ++ rest) = true := by
  obtain ⟨c, cs, hchars, hstart, hpart⟩ := isIdentifier_iff.1 hbase
  refine isIdentifier_iff.2 ⟨c, cs ++ rest.toList, ?_, hstart, fun d hd => ?_⟩
  · rw [String.toList_append, hchars, List.cons_append]
  · rcases List.mem_append.1 hd with hd | hd
    · exact hpart d hd
    · exact hrest d hd

/-! ## Blanks -/

/-- No character of an identifier is blank. -/
theorem isBlank_of_isPart {c : Char} (h : isPart c = true) : Character.isBlank c = false := by
  have hrange : 0x30 ≤ c.toNat ∧ c.toNat ≤ 0x7A := by
    unfold isPart Char.isAlphanum Char.isAlpha Char.isUpper Char.isLower Char.isDigit at h
    simp only [Bool.or_eq_true, Bool.and_eq_true, decide_eq_true_eq, ge_iff_le,
      UInt32.le_iff_toNat_le] at h
    rcases h with (((h | h) | h) | rfl)
    · change 65 ≤ c.toNat ∧ c.toNat ≤ 90 at h
      omega
    · change 97 ≤ c.toNat ∧ c.toNat ≤ 122 at h
      omega
    · change 48 ≤ c.toNat ∧ c.toNat ≤ 57 at h
      omega
    · decide
  -- the first range that does not end before the character begins behind it
  have hfind : Character.blankRanges.find? (fun r => decide (c.toNat ≤ r.2)) =
      some (0x85, 0x85) := by
    simp only [Character.blankRanges, List.find?_cons]
    rw [decide_eq_false (by omega), decide_eq_false (by omega), decide_eq_true (by omega)]
  rw [Character.isBlank, Character.inRanges, hfind]
  exact decide_eq_false (by omega)

/-- There are no blanks to drop from an identifier. -/
theorem trimBlanks_of_isIdentifier {key : String} (h : isIdentifier key = true) :
    trimBlanks key = key := by
  have hdrop : ∀ cs : List Char, (∀ c ∈ cs, isPart c = true) →
      cs.dropWhile Character.isBlank = cs := by
    intro cs hcs
    cases cs with
    | nil => rfl
    | cons c cs =>
      rw [List.dropWhile_cons, if_neg (by simp [isBlank_of_isPart (hcs c List.mem_cons_self)])]
  have hall : ∀ c ∈ key.toList, isPart c = true := fun c hc => isPart_of_isIdentifier h hc
  rw [trimBlanks, trimEnds, hdrop _ hall,
    hdrop _ fun c hc => hall c (List.mem_reverse.1 hc), List.reverse_reverse, String.ofList_toList]

/-! ## Chosen keys -/

/-- No line break stands in an identifier. -/
theorem endsLine_of_isIdentifier {key : String} (h : isIdentifier key = true) :
    endsLine key = false := by
  unfold endsLine
  rw [decide_eq_false_iff_not]
  intro hlast
  exact absurd (isPart_of_isIdentifier h (List.mem_of_getLast? hlast)) (by decide)

/-- Of the keys that are taken as valid, those that end in a line break are no identifiers. -/
theorem isIdentifier_iff_of_isValid {key : String} (h : isValid key = true) :
    isIdentifier key = true ↔ endsLine key = false := by
  refine ⟨endsLine_of_isIdentifier, fun hends => ?_⟩
  unfold isValid at h
  unfold isIdentifier
  unfold endsLine at hends
  generalize key.toList = cs at h hends ⊢
  cases cs with
  | nil => cases h
  | cons c cs =>
    dsimp only at h ⊢
    unfold dropLineBreak at h
    split_ifs at h with hlast
    · simp [List.getLast?_cons, hlast] at hends
    · exact h

/-! ## The words of a title -/

/-- A run of letters and digits holds nothing else. -/
theorem isWordChar_of_mem_words {cs w : List Char} (hw : w ∈ words cs) {c : Char} (hc : c ∈ w) :
    isWordChar c = true := by
  have hruns : ∀ cs : List Char, (∀ c ∈ (wordsWithFirst cs).1, isWordChar c = true) ∧
      ∀ w ∈ (wordsWithFirst cs).2, ∀ c ∈ w, isWordChar c = true := by
    intro cs
    induction cs with
    | nil => simp [wordsWithFirst]
    | cons d cs ih =>
      obtain ⟨hfirst, hmore⟩ := ih
      unfold wordsWithFirst
      dsimp only
      split_ifs with hd hempty
      · refine ⟨fun c hc => ?_, hmore⟩
        rcases List.mem_cons.1 hc with rfl | hc
        · exact hd
        · exact hfirst c hc
      · exact ⟨by simp, hmore⟩
      · refine ⟨by simp, fun w hw => ?_⟩
        rcases List.mem_cons.1 hw with rfl | hw
        · exact hfirst
        · exact hmore w hw
  obtain ⟨hfirst, hmore⟩ := hruns cs
  unfold words at hw
  dsimp only at hw
  split_ifs at hw with hempty
  · exact hmore w hw c hc
  · rcases List.mem_cons.1 hw with rfl | hw
    · exact hfirst c hc
    · exact hmore w hw c hc

/-- A run of letters and digits is not empty. -/
theorem ne_nil_of_mem_words {cs w : List Char} (hw : w ∈ words cs) : w ≠ [] := by
  have hmore : ∀ cs : List Char, [] ∉ (wordsWithFirst cs).2 := by
    intro cs
    induction cs with
    | nil => simp [wordsWithFirst]
    | cons d cs ih =>
      unfold wordsWithFirst
      dsimp only
      split_ifs with hd hempty
      · exact ih
      · exact ih
      · exact fun hmem => (List.mem_cons.1 hmem).elim (fun h => hempty (by simp [← h])) ih
  unfold words at hw
  dsimp only at hw
  split_ifs at hw with hempty
  · exact ne_of_mem_of_not_mem hw (hmore cs)
  · rcases List.mem_cons.1 hw with rfl | hw
    · simpa using hempty
    · exact ne_of_mem_of_not_mem hw (hmore cs)

/-! ## Lower-casing -/

theorem toNat_of_isWordChar {c : Char} (h : isWordChar c = true) :
    97 ≤ c.toNat ∧ c.toNat ≤ 122 ∨ 48 ≤ c.toNat ∧ c.toNat ≤ 57 := by
  unfold isWordChar Char.isLower Char.isDigit at h
  simp only [Bool.or_eq_true, Bool.and_eq_true, decide_eq_true_eq, ge_iff_le,
    UInt32.le_iff_toNat_le] at h
  exact h

theorem isDigit_of_isLower {c : Char} (h : c.isLower = true) : c.isDigit = false := by
  unfold Char.isLower at h
  unfold Char.isDigit
  simp only [Bool.and_eq_true, decide_eq_true_eq, ge_iff_le, UInt32.le_iff_toNat_le] at h
  simp only [Bool.and_eq_false_iff, decide_eq_false_iff_not, ge_iff_le, UInt32.le_iff_toNat_le]
  change 97 ≤ c.toNat ∧ c.toNat ≤ 122 at h
  change ¬ 48 ≤ c.toNat ∨ ¬ c.toNat ≤ 57
  omega

theorem toLower_of_isWordChar {c : Char} (h : isWordChar c = true) : c.toLower = c := by
  have hrange := toNat_of_isWordChar h
  refine dif_neg fun hcapital => ?_
  have hcapital : 65 ≤ c.toNat ∧ c.toNat ≤ 90 := hcapital
  omega

/-- Of an ASCII text every letter is made small, and the rest of it stays. -/
def LowersAscii (lower : String → String) : Prop :=
  ∀ s : String, (∀ c ∈ s.toList, c.toNat < 128) → lower s = String.ofList (s.toList.map Char.toLower)

theorem lowersAscii_lowerCase : LowersAscii lowerCase := by
  intro s hs
  have hone : ∀ c ∈ s.toList, Character.lower c = [c.toLower] := by
    intro c hc
    have hsmall := hs c hc
    rw [Character.lower, if_neg (by omega), if_neg (by omega)]
  rw [lowerCase, List.flatMap_congr hone, List.map_eq_flatMap]

/-! ## Tokens -/

/-- Small letters and digits, with single underscores between them. -/
inductive Spelled : List Char → Prop where
  /-- One letter or digit. -/
  | single {c : Char} (h : isWordChar c = true) : Spelled [c]
  /-- A letter or digit in front. -/
  | cons {c : Char} {cs : List Char} (h : isWordChar c = true) (rest : Spelled cs) : Spelled (c :: cs)
  /-- A letter or digit and an underscore in front. -/
  | underscore {c : Char} {cs : List Char} (h : isWordChar c = true) (rest : Spelled cs) :
    Spelled (c :: '_' :: cs)

/-- A token: small letters, digits and single underscores between them, with a letter in front. -/
structure IsToken (token : String) : Prop where
  /-- It is spelled with small letters, digits and single underscores between them. -/
  spelled : Spelled token.toList
  /-- It begins with a letter. -/
  starts : ∃ c ∈ token.toList.head?, c.isLower = true

theorem Spelled.of_word {w : List Char} (hne : w ≠ []) (h : ∀ c ∈ w, isWordChar c = true) :
    Spelled w := by
  induction w with
  | nil => exact absurd rfl hne
  | cons c cs ih =>
    have hc := h c List.mem_cons_self
    cases cs with
    | nil => exact .single hc
    | cons d ds => exact .cons hc (ih (List.cons_ne_nil _ _) fun x hx => h x (List.mem_cons_of_mem _ hx))

/-- Two such texts can be joined by an underscore. -/
theorem Spelled.join {as bs : List Char} (ha : Spelled as) (hb : Spelled bs) :
    Spelled (as ++ '_' :: bs) := by
  induction ha with
  | single h => exact .underscore h hb
  | cons h _ ih => exact .cons h ih
  | underscore h _ ih => exact .underscore h ih

theorem Spelled.intercalate {ws : List (List Char)} (hne : ws ≠ []) (h : ∀ w ∈ ws, Spelled w) :
    Spelled (['_'].intercalate ws) := by
  induction ws with
  | nil => exact absurd rfl hne
  | cons w ws ih =>
    have hw := h w List.mem_cons_self
    cases ws with
    | nil => rwa [List.intercalate_singleton]
    | cons v vs =>
      rw [List.intercalate_cons_cons, List.append_assoc]
      exact hw.join (ih (List.cons_ne_nil _ _) fun x hx => h x (List.mem_cons_of_mem _ hx))

theorem wordsWithFirst_cons_of_word {c : Char} (h : isWordChar c = true) (cs : List Char) :
    wordsWithFirst (c :: cs) = (c :: (wordsWithFirst cs).1, (wordsWithFirst cs).2) :=
  if_pos h

theorem wordsWithFirst_underscore (cs : List Char) : wordsWithFirst ('_' :: cs) = ([], words cs) :=
  rfl

/-- Where a text begins with a word, that is the first of its words. -/
theorem words_of_first_ne_nil {cs : List Char} (h : (wordsWithFirst cs).1 ≠ []) :
    words cs = (wordsWithFirst cs).1 :: (wordsWithFirst cs).2 :=
  if_neg (by simpa using h)

/-- The words of such a text, joined by underscores, are the text. -/
theorem Spelled.intercalate_words {cs : List Char} (h : Spelled cs) :
    ['_'].intercalate (words cs) = cs := by
  -- a text that is spelled so begins with a word
  suffices hfirst : (wordsWithFirst cs).1 ≠ [] ∧
      ['_'].intercalate ((wordsWithFirst cs).1 :: (wordsWithFirst cs).2) = cs by
    rw [words_of_first_ne_nil hfirst.1]
    exact hfirst.2
  induction h with
  | single h =>
    rw [wordsWithFirst_cons_of_word h]
    exact ⟨List.cons_ne_nil _ _, rfl⟩
  | cons h _ ih =>
    rw [wordsWithFirst_cons_of_word h]
    exact ⟨List.cons_ne_nil _ _, by rw [List.intercalate_cons_cons_left, ih.2]⟩
  | underscore h _ ih =>
    rw [wordsWithFirst_cons_of_word h, wordsWithFirst_underscore, words_of_first_ne_nil ih.1]
    exact ⟨List.cons_ne_nil _ _, by rw [List.intercalate_cons_cons, ih.2]; rfl⟩

theorem Spelled.of_mem {cs : List Char} (h : Spelled cs) :
    ∀ c ∈ cs, isWordChar c = true ∨ c = '_' := by
  induction h with
  | single h => exact List.forall_mem_singleton.2 (Or.inl h)
  | cons h _ ih => exact List.forall_mem_cons.2 ⟨Or.inl h, ih⟩
  | underscore h _ ih =>
    exact List.forall_mem_cons.2 ⟨Or.inl h, List.forall_mem_cons.2 ⟨Or.inr rfl, ih⟩⟩

theorem Spelled.isWordChar_of_head? {cs : List Char} (h : Spelled cs) {c : Char}
    (hc : c ∈ cs.head?) : isWordChar c = true := by
  cases h with
  | single h | cons h _ | underscore h _ => exact Option.some.inj hc ▸ h

theorem Spelled.ne_nil {cs : List Char} (h : Spelled cs) : cs ≠ [] := by
  cases h with
  | single | cons | underscore => exact List.cons_ne_nil _ _

theorem Spelled.isPart {cs : List Char} (h : Spelled cs) {c : Char} (hc : c ∈ cs) :
    isPart c = true := by
  rcases h.of_mem c hc with hword | rfl
  · exact isPart_of_isWordChar hword
  · rfl

/-- There is nothing to make small in such a text. -/
theorem Spelled.lower_eq {s : String} (h : Spelled s.toList) {lower : String → String}
    (hl : LowersAscii lower) : lower s = s := by
  have hchar : ∀ c ∈ s.toList, c.toNat < 128 ∧ c.toLower = c := by
    intro c hc
    rcases h.of_mem c hc with hword | rfl
    · have hrange := toNat_of_isWordChar hword
      exact ⟨by omega, toLower_of_isWordChar hword⟩
    · decide
  rw [hl s fun c hc => (hchar c hc).1, List.map_congr_left fun c hc => (hchar c hc).2, List.map_id',
    String.ofList_toList]

theorem isIdentifier_of_isToken {token : String} (h : IsToken token) : isIdentifier token = true := by
  obtain ⟨c, hc, hletter⟩ := h.starts
  obtain ⟨d, cs, hchars⟩ := List.exists_cons_of_ne_nil h.spelled.ne_nil
  obtain rfl : d = c := by simpa [hchars] using hc
  refine isIdentifier_iff.2 ⟨d, cs, hchars, isStart_of_isPart ?_ (isDigit_of_isLower hletter), ?_⟩
  · exact h.spelled.isPart (hchars ▸ List.mem_cons_self)
  · exact fun x hx => h.spelled.isPart (hchars ▸ List.mem_cons_of_mem _ hx)

/-! ## Derived keys -/

/-- The key that is derived from a title where `lower` makes letters small. -/
def deriveBy (lower : String → String) (title : Option String) (fallback : String) : String :=
  let base := joined "_" ((words (lower (title.getD "")).toList).map String.ofList)
  match base.toList with
  | [] => fallback
  | c :: _ => if c.isDigit then fallback ++ "_" ++ base else base

theorem derive_eq_deriveBy (title : Option String) (fallback : String) :
    derive title fallback = deriveBy lowerCase title fallback := by
  unfold derive deriveBy
  generalize joined "_" ((words (lowerCase (title.getD "")).toList).map String.ofList) = base
  rfl

theorem toList_joined (ws : List (List Char)) :
    (joined "_" (ws.map String.ofList)).toList = ['_'].intercalate ws := by
  have hwords : (ws.map String.ofList).map String.toList = ws := by
    rw [List.map_map]
    exact (List.map_congr_left fun w _ => String.toList_ofList).trans (List.map_id' ws)
  rw [joined, String.toList_intercalate, hwords]
  rfl

/-- A title has no words, or they are spelled as they should be. -/
theorem words_eq_nil_or_spelled (cs : List Char) :
    words cs = [] ∨ Spelled (['_'].intercalate (words cs)) := by
  by_cases hnone : words cs = []
  · exact Or.inl hnone
  · exact Or.inr (.intercalate hnone fun w hw =>
      .of_word (ne_nil_of_mem_words hw) fun c hc => isWordChar_of_mem_words hw hc)

section

variable {lower : String → String} {title : Option String} {fallback : String}

/-- A derived key is the fallback, or what the title spells, with the fallback in front where that
does not begin with a letter. -/
theorem deriveBy_cases (lower : String → String) (title : Option String) (fallback : String) :
    deriveBy lower title fallback = fallback ∨ IsToken (deriveBy lower title fallback) ∨
      ∃ base, Spelled base.toList ∧ deriveBy lower title fallback = fallback ++ "_" ++ base := by
  have hspelled := words_eq_nil_or_spelled (lower (title.getD "")).toList
  rw [← toList_joined] at hspelled
  unfold deriveBy
  dsimp only
  split
  · exact Or.inl rfl
  · next c cs hbase =>
    have hspelled := hspelled.resolve_left fun hnone => by
      rw [hnone] at hbase
      cases hbase
    split_ifs with hdigit
    · exact Or.inr (Or.inr ⟨_, hspelled, rfl⟩)
    · refine Or.inr (Or.inl ⟨hspelled, c, by rw [hbase]; rfl, ?_⟩)
      have hword := hspelled.isWordChar_of_head? (c := c) (by rw [hbase]; rfl)
      rw [isWordChar, Bool.or_eq_true] at hword
      exact hword.resolve_right hdigit

/-- What is derived with a token as the fallback is a token. -/
theorem isToken_deriveBy (hf : IsToken fallback) (lower : String → String)
    (title : Option String) : IsToken (deriveBy lower title fallback) := by
  rcases deriveBy_cases lower title fallback with h | h | ⟨base, hbase, h⟩
  · rwa [h]
  · exact h
  · obtain ⟨c, hc, hletter⟩ := hf.starts
    have hchars : (fallback ++ "_" ++ base).toList = fallback.toList ++ '_' :: base.toList := by
      rw [String.toList_append, String.toList_append, List.append_assoc]
      rfl
    rw [h]
    refine ⟨?_, c, ?_, hletter⟩
    · rw [hchars]
      exact hf.spelled.join hbase
    · rw [hchars, List.head?_append, Option.mem_def.1 hc]
      rfl

/-- The key that is derived from a token is the token. -/
theorem deriveBy_of_isToken (hl : LowersAscii lower) {key : String} (hk : IsToken key)
    (fallback : String) : deriveBy lower (some key) fallback = key := by
  have hbase : joined "_" ((words (lower key).toList).map String.ofList) = key := by
    rw [hk.spelled.lower_eq hl]
    exact String.toList_inj.1 ((toList_joined _).trans hk.spelled.intercalate_words)
  obtain ⟨c, hc, hletter⟩ := hk.starts
  unfold deriveBy
  dsimp only [Option.getD_some]
  rw [hbase]
  split
  · next hnone =>
    rw [hnone] at hc
    cases hc
  · next d _ hsome =>
    obtain rfl : d = c := by simpa [hsome] using hc
    rw [if_neg]
    rw [isDigit_of_isLower hletter]
    exact Bool.false_ne_true

end

/-- A key that is derived from a title is an identifier when the fallback is one. -/
theorem isIdentifier_derive (title : Option String) {fallback : String}
    (hf : isIdentifier fallback = true) : isIdentifier (derive title fallback) = true := by
  rw [derive_eq_deriveBy]
  obtain h | h | ⟨base, hbase, h⟩ := deriveBy_cases lowerCase title fallback
  · rw [h]
    exact hf
  · exact isIdentifier_of_isToken h
  · have hunderscore : isIdentifier (fallback ++ "_") = true :=
      isIdentifier_append hf fun _ => isPart_of_mem_underscore
    rw [h]
    exact isIdentifier_append hunderscore fun c hc => hbase.isPart hc

theorem isIdentifier_fallbackKey (kind : NodeKind) : isIdentifier kind.fallbackKey = true := by
  cases kind with
  | group kind => cases kind <;> decide
  | string | number | boolean | enum | object | array | reference | definition => decide

/-! ## Free keys -/

theorem numbered_injective {base : String} {m n : Nat} (h : numbered base m = numbered base n) :
    m = n := by
  unfold numbered at h
  exact Nat.repr_injective ((String.append_right_inj (base ++ "_")).1 h)

theorem numbered_ne (base : String) (n : Nat) : numbered base n ≠ base := by
  intro h
  have hlength := congrArg String.length h
  unfold numbered at hlength
  rw [String.length_append, String.length_append] at hlength
  have hone : "_".length = 1 := rfl
  omega

/-- A key that is taken and its first numbered keys, if they are taken as well, are different keys. -/
theorem lt_length_of_numbered_mem {base : String} {taken : List String} (hb : base ∈ taken) {n : Nat}
    (h : ∀ i < n, numbered base (i + 2) ∈ taken) : n < taken.length := by
  have hnodup : (base :: (List.range n).map fun i => numbered base (i + 2)).Nodup := by
    refine List.nodup_cons.2 ⟨fun hmem => ?_, List.nodup_range.map fun i j hij => ?_⟩
    · obtain ⟨i, _, hi⟩ := List.mem_map.1 hmem
      exact numbered_ne base (i + 2) hi
    · have hsucc := numbered_injective hij
      omega
  have hsub : base :: (List.range n).map (fun i => numbered base (i + 2)) ⊆ taken := by
    refine List.cons_subset.2 ⟨hb, fun k hk => ?_⟩
    obtain ⟨i, hi, rfl⟩ := List.mem_map.1 hk
    exact h i (List.mem_range.1 hi)
  have hle := hnodup.length_le_of_subset hsub
  rwa [List.length_cons, List.length_map, List.length_range] at hle

/-- Where a key is taken, the number that is added to it is the least from 2 on that makes it free. -/
theorem unique_of_mem {base : String} {taken : List String} (h : base ∈ taken) :
    ∃ k, 2 ≤ k ∧ unique base taken = numbered base k ∧ numbered base k ∉ taken ∧
      ∀ j, 2 ≤ j → j < k → numbered base j ∈ taken := by
  unfold unique
  rw [if_pos h]
  cases hfind : (List.range (taken.length + 1)).find? fun i => numbered base (i + 2) ∉ taken with
  | none =>
    rw [List.find?_eq_none] at hfind
    have hlt := lt_length_of_numbered_mem h (n := taken.length + 1) fun i hi => by
      simpa using hfind i (List.mem_range.2 hi)
    omega
  | some i =>
    obtain ⟨hfree, _, hleast⟩ := List.find?_range_eq_some.1 hfind
    refine ⟨i + 2, by omega, rfl, by simpa using hfree, fun j hj hlt => ?_⟩
    have hbefore := hleast (j - 2) (by omega)
    rw [Nat.sub_add_cancel hj] at hbefore
    simpa using hbefore

/-- The key that is found is free. -/
theorem unique_not_mem (base : String) (taken : List String) : unique base taken ∉ taken := by
  by_cases h : base ∈ taken
  · obtain ⟨k, _, hunique, hfree, _⟩ := unique_of_mem h
    rwa [hunique]
  · rwa [unique, if_neg h]

theorem isIdentifier_numbered {base : String} (hb : isIdentifier base = true) (n : Nat) :
    isIdentifier (numbered base n) = true := by
  unfold numbered
  refine isIdentifier_append (isIdentifier_append hb fun _ => isPart_of_mem_underscore)
    fun c hc => ?_
  rw [Nat.toString_eq_ofList_toDigits, String.toList_ofList] at hc
  have hdigit : c.isDigit = true :=
    Nat.isDigit_of_mem_toDigits (b := 10) (by decide) (by decide) hc
  simp [isPart, Char.isAlphanum, hdigit]

/-- A number is added to make an identifier free, and it stays one. -/
theorem isIdentifier_unique {base : String} (hb : isIdentifier base = true)
    (taken : List String) : isIdentifier (unique base taken) = true := by
  unfold unique
  split
  · split
    · exact isIdentifier_numbered hb _
    · exact isIdentifier_numbered hb _
  · exact hb

theorem isIdentifier_generate (title : Option String) (taken : List String) {fallback : String}
    (hf : isIdentifier fallback = true) : isIdentifier (generate title taken fallback) = true :=
  isIdentifier_unique (isIdentifier_derive title hf) taken

/-! ## The theorem -/

/-- The laws of keys: `derived` gives the key of a title, and `generated` the one that is free among
the keys taken. -/
structure KeyLaws (derived : Option String → String)
    (generated : Option String → List String → String) : Prop where
  /-- A derived key is an identifier. -/
  identifier : ∀ title, isIdentifier (derived title) = true
  /-- Deriving a key from a derived key gives it back. -/
  idempotent : ∀ title, derived (some (derived title)) = derived title
  /-- A derived key that is free is generated as it is. -/
  kept : ∀ title taken, derived title ∉ taken → generated title taken = derived title
  /-- To one that is taken, the least number from 2 on that makes it free is added. There is such a
  number, and no more have to be tried than keys are taken. -/
  numbered : ∀ title taken, derived title ∈ taken → ∃ n ≤ taken.length + 1,
    IsLeast {k | 2 ≤ k ∧ Key.numbered (derived title) k ∉ taken} n ∧
      generated title taken = Key.numbered (derived title) n
  /-- A generated key is free. -/
  free : ∀ title taken, generated title taken ∉ taken
  /-- It is an identifier. -/
  generated_identifier : ∀ title taken, isIdentifier (generated title taken) = true

theorem exists_isLeast_numbered {base : String} {taken : List String} (h : base ∈ taken) :
    ∃ n ≤ taken.length + 1, IsLeast {k | 2 ≤ k ∧ numbered base k ∉ taken} n ∧
      unique base taken = numbered base n := by
  obtain ⟨n, htwo, hunique, hfree, hleast⟩ := unique_of_mem h
  have hcount := lt_length_of_numbered_mem h (n := n - 2) fun i hi =>
    hleast (i + 2) (by omega) (by omega)
  refine ⟨n, by omega, ⟨⟨htwo, hfree⟩, fun k hk => ?_⟩, hunique⟩
  by_contra hlt
  exact hk.2 (hleast k hk.1 (by omega))

theorem keyLaws_deriveBy {fallback : String} (hf : IsToken fallback) {lower : String → String}
    (hl : LowersAscii lower) :
    KeyLaws (fun title => deriveBy lower title fallback)
      (fun title taken => unique (deriveBy lower title fallback) taken) where
  identifier title := isIdentifier_of_isToken (isToken_deriveBy hf lower title)
  idempotent title := deriveBy_of_isToken hl (isToken_deriveBy hf lower title) fallback
  kept _ _ h := if_neg h
  numbered _ _ h := exists_isLeast_numbered h
  free _ taken := unique_not_mem _ taken
  generated_identifier title taken :=
    isIdentifier_unique (isIdentifier_of_isToken (isToken_deriveBy hf lower title)) taken

/-- With a token as the fallback, the keys of all titles obey the laws. They do so with any way of
lower-casing, as long as it lower-cases ASCII texts letter by letter. -/
theorem keyLaws_of_isToken {fallback : String} (hf : IsToken fallback) :
    KeyLaws (fun title => derive title fallback) (fun title taken => generate title taken fallback) ∧
      ∀ lower, LowersAscii lower → KeyLaws (fun title => deriveBy lower title fallback)
        fun title taken => unique (deriveBy lower title fallback) taken := by
  refine ⟨?_, fun lower hl => keyLaws_deriveBy hf hl⟩
  simp only [generate, derive_eq_deriveBy]
  exact keyLaws_deriveBy hf lowersAscii_lowerCase

/-- A title that begins with a digit, where its key and the first numbered one are taken. -/
theorem keyLaws_of_second_address :
    IsToken "field_a1" ∧ derive (some "2nd  Address!") "field_a1" = "field_a1_2nd_address" ∧
      derive (some "field_a1_2nd_address") "field_a1" = "field_a1_2nd_address" ∧
      generate (some "2nd  Address!") ["field_a1_2nd_address_2", "field_a1_2nd_address"] "field_a1" =
        "field_a1_2nd_address_3" ∧
      KeyLaws (fun title => derive title "field_a1")
        fun title taken => generate title taken "field_a1" := by
  have htoken : IsToken "field_a1" :=
    ⟨.cons rfl (.cons rfl (.cons rfl (.cons rfl (.underscore rfl (.cons rfl (.single rfl)))))),
      'f', rfl, rfl⟩
  have hderived : derive (some "2nd  Address!") "field_a1" = "field_a1_2nd_address" := by
    decide +kernel
  have hlaws := (keyLaws_of_isToken htoken).1
  refine ⟨htoken, hderived, ?_, by decide +kernel, hlaws⟩
  rw [← hderived]
  exact hlaws.idempotent (some "2nd  Address!")

end Key

end FormGraph
