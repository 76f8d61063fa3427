import SheetCalc.Evaluation.Cell
import SheetCalc.Proofs.Decimal.Plain

/-!
# Formulas of sums, differences and products

The result of a call is written as text, and the call around it reads this text again. In a
formula of sums, differences and products nothing gets lost on the way, however deep the calls
are nested and however long the numbers are: `value_exact`. The text of the formula is the plain
notation of the rational number that the formula stands for, and every part of the formula has
the value that it stands for.
-/

namespace SheetCalc

/-- A computation goes on with the result of its first step. -/
theorem bind_of_eq_ok {ε α β : Type} {first : Except ε α} {result : α} (h : first = .ok result)
    (next : α → Except ε β) : first >>= next = next result := by
  rw [h]
  rfl

section

variable {name text : Text} {arguments : List (Expr Literal)} {values : List Value} {line : Int}

/-- The text of a formula is that of its function. -/
theorem Formula.value_of_apply (hvalues : Expr.values arguments = .ok values)
    (happly : Expr.apply name values line = .ok text) :
    Formula.value ⟨name, arguments, line⟩ = .ok text := by
  rw [Formula.value, bind_of_eq_ok hvalues]
  exact happly

/-- The value of a call is what the text of its function is read as. -/
theorem Expr.value_of_apply (hvalues : Expr.values arguments = .ok values)
    (happly : Expr.apply name values line = .ok text) :
    Expr.value (.call name arguments line) = .ok (.literal (.ofText text)) := by
  rw [Expr.value, bind_of_eq_ok hvalues, bind_of_eq_ok happly]
  rfl

end

/-- Two operands that are numbers are the values of the arguments. -/
theorem Expr.values_of_numbers {left right : Expr Literal} {first second : Decimal}
    (hleft : left.value = .ok (.literal (.number first)))
    (hright : right.value = .ok (.literal (.number second))) :
    Expr.values [left, right] = .ok [.literal (.number first), .literal (.number second)] := by
  rw [Expr.values, bind_of_eq_ok hleft, Expr.values, bind_of_eq_ok hright]
  rfl

/-- The arithmetic functions that do not round. -/
inductive ExactOperation where
  | sum
  | sub
  | mul
  deriving DecidableEq

namespace ExactOperation

/-- The function that a formula calls. -/
def operation : ExactOperation → Operation
  | .sum => .sum
  | .sub => .sub
  | .mul => .mul

/-- The function on rational numbers. -/
def onRat : ExactOperation → ℚ → ℚ → ℚ
  | .sum, left, right => left + right
  | .sub, left, right => left - right
  | .mul, left, right => left * right

/-- The number of digits after the point that a result has, given the numbers of the operands. -/
def onPlaces : ExactOperation → ℕ → ℕ → ℕ
  | .sum, left, right => max left right
  | .sub, left, right => max left right
  | .mul, left, right => left + right

/-- The function on decimals, without rounding. -/
def onDecimals : ExactOperation → Decimal → Decimal → Decimal
  | .sum, left, right => left.exactSum right
  | .sub, left, right => left.exactSum right.negate
  | .mul, left, right => left.exactProduct right

/-- The precision of a sum, a difference or a product leaves nothing to round. -/
theorem compute_operation (function : ExactOperation) (left right : Decimal) :
    function.operation.compute left right = .ok (function.onDecimals left right) := by
  cases function with
  | sum => exact congrArg Except.ok (Decimal.add_lossless left right)
  | sub => exact congrArg Except.ok (Decimal.sub_lossless left right)
  | mul => exact congrArg Except.ok (Decimal.mul_lossless left right)

/-- The decimal result has the rational value. -/
theorem toRat_onDecimals (function : ExactOperation) (left right : Decimal) :
    (function.onDecimals left right).toRat = function.onRat left.toRat right.toRat := by
  cases function with
  | sum => exact Decimal.toRat_exactSum left right
  | sub =>
      have hsum := Decimal.toRat_exactSum left right.negate
      rwa [Decimal.toRat_negate, ← sub_eq_add_neg] at hsum
  | mul => exact Decimal.toRat_exactProduct left right

/-- The decimal result has the digits after the point, and has them all. -/
theorem exponent_onDecimals (function : ExactOperation) {left right : Decimal} {first second : ℕ}
    (hleft : left.exponent = -first) (hright : right.exponent = -second) :
    (function.onDecimals left right).exponent = -(function.onPlaces first second : ℕ) := by
  have hmin : min left.exponent right.exponent = -(max first second : ℕ) := by omega
  cases function with
  | sum => exact hmin
  | sub => exact hmin
  | mul =>
      have hadd : left.exponent + right.exponent = -(first + second : ℕ) := by omega
      exact hadd

end ExactOperation

/-- A tree of sums, differences and products of numerals. The value of a numeral is any decimal
without a positive exponent, by `Decimal.value_numeral`. -/
inductive Arithmetic where
  | number (numeral : Numeral)
  | call (function : ExactOperation) (left right : Arithmetic) (line : Int)

namespace Arithmetic

/-- The tree as an expression of a formula. -/
def expr : Arithmetic → Expr Literal
  | .number numeral => .leaf (.number numeral.value)
  | .call function left right line => .call function.operation.name [left.expr, right.expr] line

/-- The rational number that the tree stands for. -/
def toRat : Arithmetic → ℚ
  | .number numeral => numeral.value.toRat
  | .call function left right _ => function.onRat left.toRat right.toRat

/-- The number of digits after the point. -/
def places : Arithmetic → ℕ
  | .number numeral => (numeral.fraction.getD []).length
  | .call function left right _ => function.onPlaces left.places right.places

/-- The decimal that the tree gives when nothing is rounded. -/
def result : Arithmetic → Decimal
  | .number numeral => numeral.value
  | .call function left right _ => function.onDecimals left.result right.result

/-- The tree and the trees of its operands, down to the numerals. -/
def parts : Arithmetic → List Arithmetic
  | .number numeral => [.number numeral]
  | .call function left right line =>
    .call function left right line :: (left.parts ++ right.parts)

variable (tree : Arithmetic)

/-- The decimal of a tree has its rational value. -/
theorem toRat_result : tree.result.toRat = tree.toRat := by
  induction tree with
  | number numeral => rfl
  | call function left right line hleft hright =>
      rw [result, toRat, function.toRat_onDecimals, hleft, hright]

/-- The decimal of a tree has the digits after the point, and has them all. -/
theorem exponent_result : tree.result.exponent = -tree.places := by
  induction tree with
  | number numeral => rfl
  | call function left right line hleft hright =>
      exact function.exponent_onDecimals hleft hright

/-- The plain notation of the decimal is read as the same decimal, zeros at the end included. -/
theorem ofText_plain_result : Literal.ofText tree.result.plain = .number tree.result := by
  have hexponent := tree.exponent_result
  rw [Literal.ofText_plain, Decimal.expanded_of_le (by omega)]

/-- The text of a call is the plain notation of the result. -/
theorem apply_operation (function : ExactOperation) (left right : Decimal) (line : Int) :
    Expr.apply function.operation.name [.literal (.number left), .literal (.number right)] line =
      .ok (function.onDecimals left right).plain := by
  have hcall := Builtin.call?_numbers (function.compute_operation left right)
  simp only [Expr.apply, hcall]

/-- The value of a tree is its decimal: the text of a call is read as the decimal that it
shows. -/
theorem value_expr : tree.expr.value = .ok (.literal (.number tree.result)) := by
  induction tree with
  | number numeral => rfl
  | call function left right line hleft hright =>
      have hvalue := Expr.value_of_apply (Expr.values_of_numbers hleft hright)
        (apply_operation function left.result right.result line)
      have hread := ofText_plain_result (.call function left right line)
      exact hvalue.trans (congrArg (fun content => Except.ok (Value.literal content)) hread)

/-- Formulas of sums, differences and products are exact. The formula gives a numeral that is
read as the rational number the formula stands for, with all its digits after the point, and
every part of the formula has its exact value. -/
theorem value_exact (function : ExactOperation) (left right : Arithmetic) (line : Int) :
    ∃ numeral : Numeral, numeral.IsWritten ∧
      Formula.value ⟨function.operation.name, [left.expr, right.expr], line⟩ =
        .ok numeral.text ∧
      Literal.ofText numeral.text = .number numeral.value ∧
      numeral.value.toRat = function.onRat left.toRat right.toRat ∧
      (numeral.fraction.getD []).length = function.onPlaces left.places right.places ∧
      ∀ part ∈ (call function left right line).parts,
        ∃ number : Decimal, part.expr.value = .ok (.literal (.number number)) ∧
          number.toRat = part.toRat ∧ number.exponent = -part.places := by
  let tree := call function left right line
  -- The exponent is not positive, so the plain notation adds no zeros at the end.
  have hnumeral : tree.result.numeral.value = tree.result := by
    have hexponent := tree.exponent_result
    rw [Decimal.value_numeral, Decimal.expanded_of_le (by omega)]
  refine ⟨tree.result.numeral, tree.result.isWritten_numeral, ?_, ?_, ?_, ?_, ?_⟩
  · rw [Decimal.text_numeral]
    exact Formula.value_of_apply (Expr.values_of_numbers left.value_expr right.value_expr)
      (apply_operation function left.result right.result line)
  · rw [Decimal.text_numeral, hnumeral]
    exact tree.ofText_plain_result
  · rw [hnumeral]
    exact tree.toRat_result
  · rw [Decimal.length_fraction_numeral, tree.exponent_result, neg_neg]
    exact Int.toNat_natCast _
  · intro part _
    exact ⟨part.result, part.value_expr, part.toRat_result, part.exponent_result⟩

/-- The zero of `sub(mul(1.10, 2.0), 2.2)` has the three places of the product. -/
example :
    Formula.value ⟨"sub".toList,
      [.call "mul".toList [.leaf (.number ⟨false, 110, -2⟩), .leaf (.number ⟨false, 20, -1⟩)] 1,
        .leaf (.number ⟨false, 22, -1⟩)], 1⟩ = .ok "0.000".toList := by
  rfl

end Arithmetic

end SheetCalc
