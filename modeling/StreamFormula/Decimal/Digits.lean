/-!
# Decimal digits

The value of a run of decimal digits. It is a left fold, so a digit more at the end multiplies by
ten (`ofDigits_append_singleton`).
-/

namespace StreamFormula.Decimal

/-- The value of a decimal digit. -/
def digitValue (c : Char) : Nat := c.toNat - '0'.toNat

/-- The value of a run of decimal digits, the most significant first. -/
def ofDigits (digits : List Char) : Nat := digits.foldl (fun n c ↦ 10 * n + digitValue c) 0

@[simp] theorem ofDigits_nil : ofDigits [] = 0 := rfl

theorem ofDigits_append_singleton (digits : List Char) (c : Char) :
    ofDigits (digits ++ [c]) = 10 * ofDigits digits + digitValue c := by
  simp [ofDigits]

end StreamFormula.Decimal
