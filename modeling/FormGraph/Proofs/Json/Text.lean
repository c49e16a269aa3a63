import FormGraph.Json.Reader
import FormGraph.Json.Writer

/-!
# Texts in JSON

What a text is written as in JSON is read back as that text, whatever follows it
(`Json.text_jsonText`). So where two texts in JSON begin what is left to read, they are one text, and
the same is left after them.
-/

namespace FormGraph

namespace Json

/-! ## Hexadecimal digits -/

theorem hex?_digitChar {d : Nat} (h : d < 16) : hex? (Nat.digitChar d) = some d := by
  revert d
  decide

/-- The step of reading a code unit. -/
def addHex (n : Nat) (c : Char) : Option Nat := (hex? c).map fun d => 16 * n + d

theorem foldlM_addHex_toDigits (n : Nat) : (Nat.toDigits 16 n).foldlM addHex 0 = some n := by
  induction n using Nat.strongRecOn with
  | ind n ih =>
    have hb : 1 < 16 := by decide
    rw [Nat.toDigits_eq_if hb]
    by_cases hn : n < 16
    · rw [if_pos hn, List.foldlM_cons, addHex, hex?_digitChar hn]
      simp
    · have hmod := Nat.mod_lt n (show 16 > 0 by decide)
      rw [if_neg hn, List.foldlM_append, ih (n / 16) (by omega), Option.bind_eq_bind,
        Option.bind_some, List.foldlM_cons, addHex, hex?_digitChar hmod]
      simp only [Option.map_some, Option.bind_eq_bind, Option.bind_some, List.foldlM_nil]
      exact congrArg some (by omega)

theorem foldlM_addHex_zeros (count : Nat) (cs : List Char) :
    (List.replicate count '0' ++ cs).foldlM addHex 0 = cs.foldlM addHex 0 := by
  induction count with
  | zero => rfl
  | succ count ih =>
    rw [List.replicate_succ, List.cons_append, List.foldlM_cons, ← ih]
    rfl

theorem length_hexPadded {unit : Nat} (h : unit < 0x10000) : (hexPadded 4 unit).length = 4 := by
  have hlength : (Nat.toDigits 16 unit).length ≤ 4 :=
    (Nat.length_toDigits_le_iff (by decide) (by decide)).2 h
  unfold hexPadded
  rw [List.length_append, List.length_replicate]
  omega

/-- The digits of a code unit are read back. -/
theorem unit?_hexPadded {unit : Nat} (h : unit < 0x10000) : unit? (hexPadded 4 unit) = some unit := by
  unfold unit?
  rw [if_pos (length_hexPadded h)]
  exact (foldlM_addHex_zeros _ _).trans (foldlM_addHex_toDigits unit)

/-! ## Characters -/

theorem take_hexPadded {unit : Nat} (h : unit < 0x10000) (rest : List Char) :
    (hexPadded 4 unit ++ rest).take 4 = hexPadded 4 unit := List.take_left' (length_hexPadded h)

theorem drop_hexPadded {unit : Nat} (h : unit < 0x10000) (rest : List Char) :
    (hexPadded 4 unit ++ rest).drop 4 = rest := List.drop_left' (length_hexPadded h)

/-- The escape of a character of one code unit is read back. -/
theorem unitEscape_single {unit : Nat} (h : unit < 0x10000) (hpair : unit < 0xD800 ∨ 0xDFFF < unit)
    {rest : List Char} (hrest : rest ≠ []) :
    unitEscape (hexPadded 4 unit ++ rest) = .ok (Char.ofNat unit, rest) := by
  have hchar : unitChar unit = Char.ofNat unit := if_neg (by omega)
  unfold unitEscape
  dsimp only
  rw [drop_hexPadded h, take_hexPadded h, unit?_hexPadded h, List.isEmpty_eq_false_iff.2 hrest,
    if_neg (by decide)]
  dsimp only
  split
  · rw [if_neg (by omega), hchar]
  · rw [hchar]

/-- The escape of a character of two code units is read back. -/
theorem unitEscape_pair {offset : Nat} (h : offset < 0x100000) {rest : List Char}
    (hrest : rest ≠ []) :
    unitEscape (hexPadded 4 (0xD800 + offset / 0x400) ++
        (FormGraph.unitEscape (0xDC00 + offset % 0x400) ++ rest)) =
      .ok (Char.ofNat (0x10000 + offset), rest) := by
  have hhigh : 0xD800 + offset / 0x400 < 0x10000 := by omega
  have hlow : 0xDC00 + offset % 0x400 < 0x10000 := by omega
  have hmore : 4 < (hexPadded 4 (0xDC00 + offset % 0x400) ++ rest).length := by
    have := List.length_pos_iff.2 hrest
    rw [List.length_append, length_hexPadded hlow]
    omega
  unfold unitEscape
  dsimp only
  rw [drop_hexPadded hhigh, take_hexPadded hhigh, unit?_hexPadded hhigh, FormGraph.unitEscape,
    List.cons_append, List.cons_append, if_neg (by simp)]
  show (if _ then _ else _) = _
  rw [if_pos ⟨by omega, by omega, hmore⟩, take_hexPadded hlow, unit?_hexPadded hlow]
  dsimp only
  have hoffset : 0x10000 + (0xD800 + offset / 0x400 - 0xD800) * 0x400 +
      (0xDC00 + offset % 0x400 - 0xDC00) = 0x10000 + offset := by omega
  rw [if_pos (by omega), drop_hexPadded hlow, hoffset]

/-- A character that is neither a quote nor the front of an escape stands for itself. -/
theorem textBody_plain (start : List Char) (steps : Nat) {c : Char} (rest : List Char)
    (hquote : c ≠ '"') (hescape : c ≠ '\\') :
    textBody start (steps + 1) (c :: rest) =
      if c.toNat ≤ 0x1F then refuse .controlCharacter (c :: rest)
      else textBody start steps rest >>= fun r => .ok (c :: r.1, r.2) := by
  conv =>
    lhs
    unfold textBody
  split
  · next h => cases h
  · next h => exact absurd (List.cons.inj h).1 hquote
  · next h => exact absurd (List.cons.inj h).1 hescape
  · next h => exact absurd (List.cons.inj h).1 hescape
  · next h => exact absurd (List.cons.inj h).1 hescape
  · next h =>
    obtain ⟨rfl, rfl⟩ := List.cons.inj h
    rfl

/-- What a character is written as is read back in one step. -/
theorem textBody_jsonChar (start : List Char) (steps : Nat) (c : Char) {rest : List Char}
    (hrest : rest ≠ []) :
    textBody start (steps + 1) (jsonChar c ++ rest) =
      (textBody start steps rest).map fun r => (c :: r.1, r.2) := by
  have hmap : ∀ (d : Char), (textBody start steps rest >>= fun r => .ok (d :: r.1, r.2)) =
      (textBody start steps rest).map fun r => (d :: r.1, r.2) := by
    intro d
    cases textBody start steps rest <;> rfl
  have hunit : ∀ {unit : Nat} (more : List Char), unitEscape (hexPadded 4 unit ++ more) =
      .ok (c, rest) → textBody start (steps + 1) (FormGraph.unitEscape unit ++ more) =
      (textBody start steps rest).map fun r => (c :: r.1, r.2) := by
    intro unit more hread
    rw [FormGraph.unitEscape, List.cons_append, List.cons_append]
    show (unitEscape (hexPadded 4 unit ++ more) >>= fun r =>
      textBody start steps r.2 >>= fun t => .ok (r.1 :: t.1, t.2)) = _
    rw [hread]
    exact hmap c
  have hvalid : c.toNat < 0xD800 ∨ 0xDFFF < c.toNat ∧ c.toNat < 0x110000 := c.valid
  unfold jsonChar
  by_cases h₁ : c = '"'
  · rw [if_pos h₁, h₁]
    exact hmap _
  rw [if_neg h₁]
  by_cases h₂ : c = '\\'
  · rw [if_pos h₂, h₂]
    exact hmap _
  rw [if_neg h₂]
  by_cases h₃ : c = '\n'
  · rw [if_pos h₃, h₃]
    exact hmap _
  rw [if_neg h₃]
  by_cases h₄ : c = '\r'
  · rw [if_pos h₄, h₄]
    exact hmap _
  rw [if_neg h₄]
  by_cases h₅ : c = '\t'
  · rw [if_pos h₅, h₅]
    exact hmap _
  rw [if_neg h₅]
  by_cases h₆ : c.toNat = 0x08
  · obtain rfl : Char.ofNat 0x08 = c := by rw [← h₆, Char.ofNat_toNat]
    exact hmap _
  rw [if_neg h₆]
  by_cases h₇ : c.toNat = 0x0C
  · obtain rfl : Char.ofNat 0x0C = c := by rw [← h₇, Char.ofNat_toNat]
    exact hmap _
  rw [if_neg h₇]
  have hsingle : c.toNat < 0x10000 → textBody start (steps + 1)
      (FormGraph.unitEscape c.toNat ++ rest) =
        (textBody start steps rest).map fun r => (c :: r.1, r.2) := by
    intro hone
    refine hunit rest ?_
    rw [unitEscape_single hone (by omega) hrest, Char.ofNat_toNat]
  by_cases h₈ : c.toNat < 0x20
  · rw [if_pos h₈]
    exact hsingle (by omega)
  rw [if_neg h₈]
  by_cases h₉ : c.toNat < 0x7F
  · rw [if_pos h₉, List.singleton_append, textBody_plain start steps rest h₁ h₂, if_neg (by omega)]
    exact hmap c
  rw [if_neg h₉]
  by_cases hone : c.toNat < 0x10000
  · rw [if_pos hone]
    exact hsingle hone
  rw [if_neg hone]
  dsimp only
  rw [List.append_assoc]
  refine hunit _ ?_
  rw [unitEscape_pair (by omega) hrest, Nat.add_sub_cancel' (by omega), Char.ofNat_toNat]

/-! ## Texts -/

theorem textBody_chars (start : List Char) (cs rest : List Char) : ∀ steps, cs.length < steps →
    textBody start steps (cs.flatMap jsonChar ++ '"' :: rest) = .ok (cs, rest) := by
  induction cs with
  | nil =>
    intro steps h
    obtain ⟨steps, rfl⟩ : ∃ k, steps = k + 1 := ⟨steps - 1, by simp at h; omega⟩
    rfl
  | cons c cs ih =>
    intro steps h
    obtain ⟨steps, rfl⟩ : ∃ k, steps = k + 1 := ⟨steps - 1, by omega⟩
    rw [List.flatMap_cons, List.append_assoc, textBody_jsonChar start steps c (by simp),
      ih steps (by rw [List.length_cons] at h; omega)]
    rfl

/-- Where two texts in JSON begin what is left to read, they are one text and the same is left after
them. -/
theorem jsonText_inj {s t : String} {rest more : List Char}
    (h : (jsonText s).toList ++ rest = (jsonText t).toList ++ more) : s = t ∧ rest = more := by
  have hchars : ∀ (u : String) (cs : List Char), (jsonText u).toList ++ cs =
      '"' :: (u.toList.flatMap jsonChar ++ '"' :: cs) := by
    intro u cs
    rw [jsonText, String.toList_ofList, List.cons_append, List.cons_append, List.append_assoc]
    rfl
  rw [hchars, hchars] at h
  have hs := textBody_chars [] s.toList rest (s.toList.length + t.toList.length + 1) (by omega)
  have ht := textBody_chars [] t.toList more (s.toList.length + t.toList.length + 1) (by omega)
  rw [(List.cons.inj h).2] at hs
  obtain ⟨hst, hrest⟩ := Prod.mk.inj (Except.ok.inj (hs.symm.trans ht))
  exact ⟨String.toList_inj.1 hst, hrest⟩

end Json

end FormGraph
