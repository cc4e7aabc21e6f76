import LiveGrid.Proofs.Script.Typing
import LiveGrid.Proofs.Script.Wholes
import Mathlib.Data.Int.ModEq

/-!
Contract: powers of whole literals, by the function and by the operator.

Owns:
- words read back as whole numbers, and which whole numbers wrapping around keeps;
- repeated squaring gives a power up to its modulus;
- the function takes the power of two words and cuts it to sixty-four binary digits, with a sign;
- the doubles of both powers for every signed base and every exponent, and that they agree as long
  as the power itself is a word.

Plain whole numbers beside each other become words in the function, so that its power wraps around.
The operator keeps them unbounded.

Does not own: powers of other numbers, and negative exponents.
-/

namespace LiveGrid.Script

open LiveGrid.Number

/-! ## Words -/

theorem wordOfWhole_eq (value : Int) :
    Machine.wordOfWhole value =
      if FitsWord value then .ok (.int64 (Int64.ofInt value)) else .error .wordTooLarge := rfl

theorem ofInt_emod (value : Int) : Int64.ofInt (value % (twoTo 64 : Int)) = Int64.ofInt value := by
  rw [← Int64.toInt_inj, Int64.toInt_ofInt, Int64.toInt_ofInt]
  exact Int.emod_bmod value (2 ^ 64)

theorem toInt_ofInt_of_fitsWord {value : Int} (fits : FitsWord value) :
    (Int64.ofInt value).toInt = value := by
  obtain ⟨least, greatest⟩ := fits
  exact Int64.toInt_ofInt_of_le least greatest

theorem fitsWord_toInt (word : Int64) : FitsWord word.toInt := ⟨word.le_toInt, word.toInt_lt⟩

/-- Wrapping around keeps exactly the whole numbers that are words. -/
theorem bmod_eq_self_iff {value : Int} : value.bmod (twoTo 64) = value ↔ FitsWord value := by
  have isWord : value.bmod (twoTo 64) = (Int64.ofInt value).toInt := Int64.toInt_ofInt.symm
  rw [isWord]
  constructor
  · intro same
    rw [← same]
    exact fitsWord_toInt (Int64.ofInt value)
  · exact toInt_ofInt_of_fitsWord

theorem fitsWord_bmod (value : Int) : FitsWord (value.bmod (twoTo 64)) :=
  bmod_eq_self_iff.1 Int.bmod_bmod

theorem not_tooLarge_of_fitsWord {value : Int} (fits : FitsWord value) :
    ¬ Double.overflowBound ≤ value.natAbs := by
  have short := fits.natAbs_lt
  have bounded : twoTo 64 ≤ Double.overflowBound := by decide +kernel
  omega

/-- The double of a word. -/
theorem toCell_word (value : Int) :
    Value.toCell (.machine (.int64 (Int64.ofInt value))) =
      .ok (Double.ofWhole (value.bmod (twoTo 64))) := by
  show Except.ok (Double.ofWhole (Int64.ofInt value).toInt) = _
  rw [Int64.toInt_ofInt]
  rfl

/-! ## Powers of words -/

/-- Repeated squaring gives the power up to the modulus if the fuel covers the binary digits of the
exponent. -/
theorem powerModulo_eq {modulus : Nat} (large : 1 < modulus) {fuel exponent : Nat}
    (enough : exponent < 2 ^ fuel) (base : Nat) :
    Machine.powerModulo modulus base fuel exponent = base ^ exponent % modulus := by
  induction fuel generalizing base exponent with
  | zero =>
      obtain rfl : exponent = 0 := by omega
      rw [Machine.powerModulo, pow_zero, Nat.mod_eq_of_lt large]
  | succ fuel inductionHypothesis =>
      cases exponent with
      | zero => rw [Machine.powerModulo, pow_zero, Nat.mod_eq_of_lt large]
      | succ exponent =>
          have enoughForHalf : (exponent + 1) / 2 < 2 ^ fuel := by
            rw [pow_succ] at enough
            omega
          have half : Machine.powerModulo modulus (base * base % modulus) fuel
              ((exponent + 1) / 2) = base ^ (2 * ((exponent + 1) / 2)) % modulus := by
            rw [inductionHypothesis enoughForHalf, ← Nat.pow_mod, ← pow_two, ← pow_mul]
          simp only [Machine.powerModulo, half]
          split
          · have isOdd : 2 * ((exponent + 1) / 2) + 1 = exponent + 1 := by omega
            rw [Nat.mul_mod_mod, ← pow_succ', isOdd]
          · have isEven : 2 * ((exponent + 1) / 2) = exponent + 1 := by omega
            rw [isEven]

theorem wholeResult_power {base exponent : Int} (nonnegative : 0 ≤ exponent)
    (short : exponent.toNat < 2 ^ 65) :
    Machine.wholeResult .power 64 base exponent =
      .ok (base ^ exponent.toNat % (twoTo 64 : Int)) := by
  have positive : (0 : Int) < twoTo 64 := by decide
  have reduced : ((base % (twoTo 64 : Int)).toNat : Int) = base % twoTo 64 :=
    Int.toNat_of_nonneg (Int.emod_nonneg base positive.ne')
  have sameResidue : (base % (twoTo 64 : Int)) ^ exponent.toNat % (twoTo 64 : Int) =
      base ^ exponent.toNat % (twoTo 64 : Int) := (Int.mod_modEq base (twoTo 64)).pow _
  have squared := powerModulo_eq (by decide : 1 < twoTo 64) short
    (base % (twoTo 64 : Int)).toNat
  simp only [Machine.wholeResult, if_neg (Int.not_lt.2 nonnegative)]
  refine congrArg Except.ok ?_
  show ((Machine.powerModulo (twoTo 64) (base % (twoTo 64 : Int)).toNat 65 exponent.toNat : Nat) :
    Int) = _
  rw [squared, Int.natCast_emod, Int.natCast_pow, reduced, sameResidue]

/-- The power of two words, cut to a word. -/
theorem binary_power_words {base exponent : Int} (baseFits : FitsWord base)
    (exponentFits : FitsWord exponent) (nonnegative : 0 ≤ exponent) :
    Machine.binary .power (.int64 (Int64.ofInt base)) (.int64 (Int64.ofInt exponent)) =
      .ok (.int64 (Int64.ofInt (base ^ exponent.toNat))) := by
  have isPair : Machine.binary .power (.int64 (Int64.ofInt base)) (.int64 (Int64.ofInt exponent)) =
      (Machine.wholeResult .power 64 (Int64.ofInt (Int64.ofInt base).toInt).toInt
        (Int64.ofInt (Int64.ofInt exponent).toInt).toInt).map
          fun result => .int64 (Int64.ofInt result) := rfl
  have short : exponent.toNat < 2 ^ 65 := by
    have greatest : exponent < 2 ^ 63 := exponentFits.2
    omega
  rw [isPair, Int64.ofInt_toInt, Int64.ofInt_toInt, toInt_ofInt_of_fitsWord baseFits,
    toInt_ofInt_of_fitsWord exponentFits, wholeResult_power nonnegative short, Except.map,
    ofInt_emod]

/-- The function gives the power of two whole numbers cut to a word, if both are words. -/
theorem power_wholes (base : Int) {exponent : Int} (nonnegative : 0 ≤ exponent) :
    Call.power (.plain (.whole base)) (.plain (.whole exponent)) =
      if FitsWord base ∧ FitsWord exponent then
        .ok (.machine (.int64 (Int64.ofInt (base ^ exponent.toNat))))
      else .error .wordTooLarge := by
  have isPair : Call.power (.plain (.whole base)) (.plain (.whole exponent)) =
      (Machine.wordOfWhole base >>= fun left =>
        Machine.adoptWhole left.kind exponent >>= fun right => pure (left, right)) >>=
          fun pair => (Machine.binary .power pair.1 pair.2).map .machine := rfl
  rw [isPair, wordOfWhole_eq]
  by_cases baseFits : FitsWord base
  · rw [if_pos baseFits]
    show (Machine.wordOfWhole exponent >>= fun right =>
      pure (Machine.int64 (Int64.ofInt base), right)) >>=
        (fun pair => (Machine.binary .power pair.1 pair.2).map Value.machine) = _
    rw [wordOfWhole_eq]
    by_cases exponentFits : FitsWord exponent
    · rw [if_pos exponentFits, if_pos ⟨baseFits, exponentFits⟩]
      show (Machine.binary .power (.int64 (Int64.ofInt base))
        (.int64 (Int64.ofInt exponent))).map Value.machine = _
      rw [binary_power_words baseFits exponentFits nonnegative]
      rfl
    · rw [if_neg exponentFits, if_neg fun both => exponentFits both.2]
      rfl
  · rw [if_neg baseFits, if_neg fun both => baseFits both.1]
    rfl

/-! ## Powers of literals -/

/-- Whole literals with or without a sign, and the whole numbers that they stand for. -/
inductive IsSignedLiteral : Int → Expr → Prop where
  | unsigned (value : Nat) : IsSignedLiteral value (.literal (.whole value))
  | plus (value : Nat) : IsSignedLiteral value (.unary .plus (.literal (.whole value)))
  | minus (value : Nat) : IsSignedLiteral (-value) (.unary .minus (.literal (.whole value)))

/-- The tree of a call of the power. -/
def powerCall (base : Expr) (exponent : Nat) : List Statement :=
  [.expression (.call (.name "pow") [base, .literal (.whole exponent)] 0)]

/-- The tree of the power as an operator. -/
def powerOperation (base : Expr) (exponent : Nat) : List Statement :=
  [.expression (.binary .power base (.literal (.whole exponent)))]

namespace IsSignedLiteral

variable {base : Int} {expression : Expr}

theorem wellFormed (isLiteral : IsSignedLiteral base expression) {known : String → Prop} :
    WellFormed known expression := by
  cases isLiteral with
  | unsigned value => exact .whole value
  | plus value | minus value => exact .unary (by decide) (.whole value)

theorem isWhole (isLiteral : IsSignedLiteral base expression) {assigned : String → Prop} :
    IsWhole assigned expression := by
  cases isLiteral with
  | unsigned value => exact .literal value
  | plus value | minus value => exact .unary (by decide) (.literal value)

theorem whole?_eq (isLiteral : IsSignedLiteral base expression) {locals : String → Int} :
    expression.whole? locals = some base := by
  cases isLiteral <;> rfl

theorem expr_eq (isLiteral : IsSignedLiteral base expression) (scope : Scope) :
    Reading.plain.expr scope expression = pure (.plain (.whole base)) := by
  cases isLiteral <;> rfl

theorem isScript_powerCall (isLiteral : IsSignedLiteral base expression) (exponent : Nat) :
    IsScript (powerCall expression exponent) := by
  have isPower : IsFunction "pow" := isFunction_iff.2 ⟨.power, rfl⟩
  refine wellFormedProgram_singleton.2 ⟨_, rfl, .call isPower fun argument member => ?_⟩
  rcases List.mem_pair.1 member with rfl | rfl
  · exact isLiteral.wellFormed
  · exact .whole exponent

theorem isScript_powerOperation (isLiteral : IsSignedLiteral base expression) (exponent : Nat) :
    IsScript (powerOperation expression exponent) :=
  wellFormedProgram_singleton.2
    ⟨_, rfl, .binary (by decide) isLiteral.wellFormed (.whole exponent)⟩

theorem isWholeProgram_powerOperation (isLiteral : IsSignedLiteral base expression)
    (exponent : Nat) : IsWholeProgram (fun _ => False) (powerOperation expression exponent) :=
  .last (.binary (.inr ⟨rfl, exponent, rfl⟩) isLiteral.isWhole (.literal exponent))

theorem treeWhole?_powerOperation (isLiteral : IsSignedLiteral base expression) (exponent : Nat) :
    treeWhole? (powerOperation expression exponent) = some (base ^ exponent) := by
  show (expression.whole? _ >>= fun left => some (left ^ (exponent : Int).toNat)) = _
  rw [isLiteral.whole?_eq]
  rfl

theorem tree_powerCall (isLiteral : IsSignedLiteral base expression) (exponent : Nat)
    (inputs : Inputs) :
    Reading.plain.tree inputs (powerCall expression exponent) =
      Evaluation.ofExcept (Call.power (.plain (.whole base)) (.plain (.whole exponent))) := by
  have callee : readName ⟨inputs.names, standardNames⟩ "pow" = pure (.function .power) := rfl
  show readName ⟨inputs.names, standardNames⟩ "pow" >>= (fun callee =>
    (Reading.plain.expr _ expression >>= fun first => _) >>= fun arguments =>
      callValue callee arguments) = _
  rw [callee, isLiteral.expr_eq]
  rfl

end IsSignedLiteral

/-- A cell of a call of the power: the power of two words, wrapped around to a word. -/
theorem meaning_powerCall {base : Int} {expression : Expr}
    (isLiteral : IsSignedLiteral base expression) (exponent : Nat) (inputs : Inputs) :
    meaning (powerCall expression exponent) inputs =
      Evaluation.ofExcept (if FitsWord base ∧ FitsWord exponent then
        .ok (Double.ofWhole ((base ^ exponent).bmod (twoTo 64))) else .error .wordTooLarge) := by
  rw [meaning, isLiteral.tree_powerCall, power_wholes base (Int.natCast_nonneg exponent),
    Int.toNat_natCast]
  by_cases fit : FitsWord base ∧ FitsWord exponent
  · rw [if_pos fit, if_pos fit, ← toCell_word]
    rfl
  · rw [if_neg fit, if_neg fit]
    rfl

/-- For whole literals with any sign and natural exponents, the function wraps the power around to
a word, and the operator keeps it. So the function gives what the operator gives as long as the power
is a word. Beyond that it still gives finite numbers, those of other whole numbers. -/
theorem evaluate_powers {callSource operationSource : String} {base : Int} {expression : Expr}
    {exponent : Nat} (isLiteral : IsSignedLiteral base expression)
    (callParsed : Grammar.parse? callSource = some (powerCall expression exponent))
    (operationParsed : Grammar.parse? operationSource = some (powerOperation expression exponent))
    (inputs : Inputs) (stream : RandomStream) :
    ∃ call operation, compile callSource = .ok call ∧ compile operationSource = .ok operation ∧
      call.evaluate inputs stream =
        (if FitsWord base ∧ FitsWord exponent then
          .ok (Double.ofWhole ((base ^ exponent).bmod (twoTo 64))) else .error .wordTooLarge,
          stream) ∧
      operation.evaluate inputs stream =
        (if Double.overflowBound ≤ (base ^ exponent).natAbs then .error .wholeTooLarge
          else .ok (Double.ofWhole (base ^ exponent)), stream) ∧
      (∀ value, (call.evaluate inputs stream).1 = .ok value → value.isInf = false ∧
        (FitsWord (base ^ exponent) → (operation.evaluate inputs stream).1 = .ok value)) := by
  have callScript := isLiteral.isScript_powerCall exponent
  have operationScript := isLiteral.isScript_powerOperation exponent
  have callCompiled : compile callSource =
      .ok (ofTree callSource (powerCall expression exponent)) :=
    (compile_eq_ok_iff_of_parse? callParsed).2 ⟨callScript, rfl, rfl⟩
  have operationCompiled : compile operationSource =
      .ok (ofTree operationSource (powerOperation expression exponent)) :=
    (compile_eq_ok_iff_of_parse? operationParsed).2 ⟨operationScript, rfl, rfl⟩
  have called : (ofTree callSource (powerCall expression exponent)).evaluate inputs stream =
      (if FitsWord base ∧ FitsWord exponent then
        .ok (Double.ofWhole ((base ^ exponent).bmod (twoTo 64))) else .error .wordTooLarge,
        stream) := by
    rw [evaluate_ofTree callSource callScript, meaning_powerCall isLiteral]
    rfl
  have operated := (evaluate_of_treeWhole? operationParsed operationCompiled
    (isLiteral.isWholeProgram_powerOperation exponent)
    (isLiteral.treeWhole?_powerOperation exponent) inputs stream).2
  refine ⟨_, _, callCompiled, operationCompiled, called, operated, fun value succeeded => ?_⟩
  rw [called] at succeeded
  dsimp only at succeeded
  split at succeeded
  · obtain rfl := Except.ok.inj succeeded
    refine ⟨Double.isInf_ofWhole (fitsWord_bmod _).natAbs_lt, fun fits => ?_⟩
    rw [operated, bmod_eq_self_iff.2 fits, if_neg (not_tooLarge_of_fitsWord fits)]
  · cases succeeded

/-- A power of a negative base that is a word, although no double is exactly this number. -/
theorem evaluate_powers_of_negative :
    ∃ call operation, compile "pow(-3,39)" = .ok call ∧ compile "(-3)**39" = .ok operation ∧
      (call.evaluate ⟨0, 0, 0, 0, 0, 0⟩ ⟨fun _ => 0, 0⟩).1 =
        .ok (Double.ofWhole (-4052555153018976267)) ∧
      (operation.evaluate ⟨0, 0, 0, 0, 0, 0⟩ ⟨fun _ => 0, 0⟩).1 =
        .ok (Double.ofWhole (-4052555153018976267)) := by
  have callParsed : Grammar.parse? "pow(-3,39)" =
      some (powerCall (.unary .minus (.literal (.whole 3))) 39) :=
    parse?_eq_some_of_sameTree (by decide +kernel)
  have operationParsed : Grammar.parse? "(-3)**39" =
      some (powerOperation (.unary .minus (.literal (.whole 3))) 39) :=
    parse?_eq_some_of_sameTree (by decide +kernel)
  obtain ⟨call, operation, callCompiled, operationCompiled, called, -, agree⟩ :=
    evaluate_powers (.minus 3) callParsed operationParsed ⟨0, 0, 0, 0, 0, 0⟩ ⟨fun _ => 0, 0⟩
  have isWord : (call.evaluate ⟨0, 0, 0, 0, 0, 0⟩ ⟨fun _ => 0, 0⟩).1 =
      .ok (Double.ofWhole (-4052555153018976267)) := by
    rw [called]
    rfl
  exact ⟨call, operation, callCompiled, operationCompiled, isWord,
    (agree _ isWord).2 (by decide +kernel)⟩

/-- The first power of two that is no word becomes negative. -/
theorem evaluate_power_beyond_words :
    ∃ call operation, compile "pow(2,63)" = .ok call ∧ compile "2**63" = .ok operation ∧
      (call.evaluate ⟨0, 0, 0, 0, 0, 0⟩ ⟨fun _ => 0, 0⟩).1 = .ok (-9223372036854775808) ∧
      (operation.evaluate ⟨0, 0, 0, 0, 0, 0⟩ ⟨fun _ => 0, 0⟩).1 = .ok 9223372036854775808 ∧
      (-9223372036854775808 : Float) ≠ 9223372036854775808 := by
  have callParsed : Grammar.parse? "pow(2,63)" = some (powerCall (.literal (.whole 2)) 63) :=
    parse?_eq_some_of_sameTree (by decide +kernel)
  have operationParsed : Grammar.parse? "2**63" = some (powerOperation (.literal (.whole 2)) 63) :=
    parse?_eq_some_of_sameTree (by decide +kernel)
  exact ⟨_, _, compile_eq_ok_of_parse? callParsed (by decide +kernel),
    compile_eq_ok_of_parse? operationParsed (by decide +kernel), by decide +kernel,
    by decide +kernel, by decide +kernel⟩

end LiveGrid.Script
