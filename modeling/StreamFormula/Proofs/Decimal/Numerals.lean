import StreamFormula.Decimal.Reading
import StreamFormula.Proofs.Text.Scanning

/-!
# The numbers of numerals

A numeral of a formula is made of digits and dots, and has at most one dot once it is admitted. It
never spells one of the words for infinities and for what is no number, so it denotes what its
digits say, and it denotes a number exactly if it has a digit (`Decimal.isSome_read?_iff`). A lone
dot is therefore the only admitted numeral without a number (`Decimal.read?_eq_none_iff`).
-/

namespace StreamFormula.Decimal

variable {cs whole fraction : List Char}

/-- A numeral with at most one dot is digits alone, or digits on both sides of the dot. -/
theorem digits_or_point (hspells : ∀ c ∈ cs, c.isDigit = true ∨ c = '.')
    (hdots : cs.count '.' ≤ 1) :
    (∀ c ∈ cs, c.isDigit = true) ∨
      ∃ whole fraction, cs = whole ++ '.' :: fraction ∧ (∀ c ∈ whole, c.isDigit = true) ∧
        ∀ c ∈ fraction, c.isDigit = true := by
  have hdigit : ∀ part ⊆ cs, '.' ∉ part → ∀ c ∈ part, c.isDigit = true := fun part hpart hdot c hc ↦
    (hspells c (hpart hc)).resolve_right fun h ↦ hdot (h ▸ hc)
  by_cases hdot : '.' ∈ cs
  · obtain ⟨whole, fraction, rfl⟩ := List.append_of_mem hdot
    rw [List.count_append, List.count_cons_self] at hdots
    have hwhole : whole.count '.' = 0 := by omega
    have hfraction : fraction.count '.' = 0 := by omega
    refine .inr ⟨whole, fraction, rfl, ?_, ?_⟩
    · exact hdigit whole (List.subset_append_left _ _) (List.count_eq_zero.1 hwhole)
    · exact hdigit fraction
        (List.subset_append_of_subset_right _ (List.subset_cons_self _ _))
        (List.count_eq_zero.1 hfraction)
  · exact .inl (hdigit cs (List.Subset.refl cs) hdot)

theorem toLower_of_isDigit {c : Char} (h : c.isDigit = true) : c.toLower = c := by
  have hnine : c.val.toNat ≤ 57 := of_decide_eq_true (Bool.and_eq_true_iff.1 h).2
  have hupper : ¬ (c.val ≥ 'A'.val ∧ c.val ≤ 'Z'.val) := by
    rintro ⟨hupper, -⟩
    have hupper : 65 ≤ c.val.toNat := hupper
    omega
  exact dif_neg hupper

namespace Magnitude

/-- Digits denote what they say. -/
theorem ofDecimal?_digits (hcs : ∀ c ∈ cs, c.isDigit = true) :
    ofDecimal? cs = if cs = [] then none else some (decimal (ofDigits cs) 0) := by
  have hend : ∀ c ∈ ([] : List Char).head?, c.isDigit = false := nofun
  obtain ⟨htake, hdrop⟩ := Scanner.takeWhile_dropWhile_append hcs hend
  rw [List.append_nil] at htake hdrop
  simp [ofDecimal?, htake, hdrop, exponent?]

/-- Digits around a dot denote what they say without it, with an exponent that counts the digits
behind the dot. -/
theorem ofDecimal?_point (hwhole : ∀ c ∈ whole, c.isDigit = true)
    (hfraction : ∀ c ∈ fraction, c.isDigit = true) :
    ofDecimal? (whole ++ '.' :: fraction) =
      if whole = [] ∧ fraction = [] then none
      else some (decimal (ofDigits (whole ++ fraction)) (-fraction.length)) := by
  have hpoint : ∀ c ∈ ('.' :: fraction).head?, c.isDigit = false := by
    rintro c ⟨⟩
    rfl
  have hend : ∀ c ∈ ([] : List Char).head?, c.isDigit = false := nofun
  obtain ⟨htake, hdrop⟩ := Scanner.takeWhile_dropWhile_append hwhole hpoint
  obtain ⟨htake', hdrop'⟩ := Scanner.takeWhile_dropWhile_append hfraction hend
  rw [List.append_nil] at htake' hdrop'
  simp [ofDecimal?, htake, hdrop, htake', hdrop', exponent?]

/-- A numeral spells no word for an infinity or for what is no number: each of those words has
an `n`. -/
theorem ofChars?_eq_ofDecimal? (hspells : ∀ c ∈ cs, c.isDigit = true ∨ c = '.') :
    ofChars? cs = ofDecimal? cs := by
  have hn : 'n' ∉ cs.map Char.toLower := by
    intro hn
    obtain ⟨c, hc, hlower⟩ := List.mem_map.1 hn
    rcases hspells c hc with hdigit | rfl
    · rw [toLower_of_isDigit hdigit] at hlower
      exact nomatch hlower ▸ hdigit
    · exact nomatch hlower
  have hword : ∀ word : String, 'n' ∈ word.toList →
      String.ofList (cs.map Char.toLower) ≠ word := by
    rintro word hmem rfl
    exact hn (by simpa using hmem)
  rw [ofChars?]
  simp only [hword "inf" (by decide), hword "infinity" (by decide), hword "nan" (by decide),
    or_self, if_false]

end Magnitude

/-- A text of digits and dots has no sign. -/
theorem read?_eq_map_ofDecimal? {text : String}
    (hspells : ∀ c ∈ text.toList, c.isDigit = true ∨ c = '.') :
    read? text = (Magnitude.ofDecimal? text.toList).map Magnitude.toFloat := by
  rw [read?]
  split
  · next cs htext => exact absurd (hspells '-' (by simp [htext])) (by decide)
  · next cs htext => exact absurd (hspells '+' (by simp [htext])) (by decide)
  · rw [Magnitude.ofChars?_eq_ofDecimal? hspells]

/-- **A numeral with at most one dot denotes a number exactly if it has a digit.** -/
theorem isSome_read?_iff {text : String}
    (hspells : ∀ c ∈ text.toList, c.isDigit = true ∨ c = '.') (hdots : text.toList.count '.' ≤ 1) :
    (read? text).isSome = true ↔ ∃ c ∈ text.toList, c.isDigit = true := by
  rw [read?_eq_map_ofDecimal? hspells, Option.isSome_map]
  rcases digits_or_point hspells hdots with hdigits | ⟨whole, fraction, htext, hwhole, hfraction⟩
  · rw [Magnitude.ofDecimal?_digits hdigits]
    rcases htext : text.toList with - | ⟨c, cs⟩
    · simp
    · have hc : c.isDigit = true := hdigits c (by simp [htext])
      simp [hc]
  · rw [htext, Magnitude.ofDecimal?_point hwhole hfraction]
    rcases whole with - | ⟨c, whole⟩
    · rcases fraction with - | ⟨c, fraction⟩
      · simp
      · simp [hfraction c]
    · simp [hwhole c]

/-- A lone dot is the one numeral with at most one dot that denotes no number. -/
theorem read?_eq_none_iff {text : String} (hspells : WordKind.number.Spells text.toList)
    (hdots : text.toList.count '.' ≤ 1) : read? text = none ↔ text = "." := by
  rw [← Option.not_isSome_iff_eq_none, isSome_read?_iff hspells.2 hdots]
  constructor
  · intro hnone
    have hall : ∀ c ∈ text.toList, c = '.' := fun c hc ↦
      (hspells.2 c hc).resolve_left fun hdigit ↦ hnone ⟨c, hc, hdigit⟩
    have hreplicate := List.eq_replicate_of_mem hall
    rw [hreplicate, List.count_replicate_self] at hdots
    have hpos : 0 < text.toList.length := List.length_pos_iff.2 hspells.1
    have hone : text.toList.length = 1 := by omega
    rw [hone] at hreplicate
    exact String.toList_inj.1 hreplicate
  · rintro rfl ⟨c, hc, hdigit⟩
    obtain rfl := List.mem_singleton.1 (show c ∈ ['.'] from hc)
    exact nomatch hdigit

end StreamFormula.Decimal
