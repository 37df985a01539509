import Conform.Number.Basic
import Conform.Schema.Compile
import Conform.Proofs.Check.Listing
import Conform.Proofs.Number.Nearest

/-!
# The types of values

A value is tested for a type by the tag itself, by its predicate, under its name,
by a condition, and by a schema that is nothing but the name.  All of these give
one answer, and each has a way of its own to say that there is no such type.
Seven of the eight tags part the values among them, and numbers are the values of
two of these: the integers are those without a fractional part, whether they are
written as integers or as doubles.
-/
namespace Conform

namespace Double

/-- A double counts as an integer just if it stands for one. -/
theorem isIntegral_iff_fract (d : Double) : d.isIntegral = true ↔ Int.fract d.value = 0 := by
  have hsign : Int.fract d.value = 0 ↔ Int.fract (d.significand * 2 ^ d.exponent : ℚ) = 0 := by
    unfold value
    cases d.negative <;> simp [Int.fract_neg_eq_zero]
  rw [hsign, isIntegral, decide_eq_true_iff]
  by_cases he : 0 ≤ d.exponent
  · obtain ⟨k, hk⟩ := Int.eq_ofNat_of_zero_le he
    have hnone : (-d.exponent).toNat = 0 := by omega
    have hvalue : (d.significand * 2 ^ d.exponent : ℚ) = (d.significand * 2 ^ k : Nat) := by
      rw [hk, zpow_natCast]
      push_cast
      rfl
    rw [hvalue, Int.fract_natCast, hnone]
    simp [Nat.mod_one]
  · -- The significand is divided by a power of two, and the remainder is the fraction.
    obtain ⟨k, hk⟩ : ∃ k : Nat, d.exponent = -(k : Int) := ⟨(-d.exponent).toNat, by omega⟩
    have hvalue : (d.significand * 2 ^ d.exponent : ℚ) = d.significand / (2 ^ k : Nat) := by
      rw [hk, zpow_neg, zpow_natCast]
      push_cast
      rfl
    have hpow : ((2 ^ k : Nat) : ℚ) ≠ 0 := by positivity
    rw [hvalue, Int.fract_div_natCast_eq_div_natCast_mod, div_eq_zero_iff, or_iff_left hpow, hk]
    simp [Nat.pow_eq]

end Double

namespace Number.Literal

/-- The literal of an integer that a word of 64 bits holds, be it with a sign or without. -/
structure IsWord (l : Literal) : Prop where
  fraction : l.fraction = none
  exponent : l.exponent = none
  fits : if l.negative then digitsValue l.whole ≤ 2 ^ 63 else digitsValue l.whole < 2 ^ 64

theorem le_foldl_digits (digits : List Nat) (n : Nat) :
    n ≤ digits.foldl (fun n d => n * 10 + d) n := by
  induction digits generalizing n with
  | nil => exact Nat.le_refl n
  | cons d rest ih =>
    have h := ih (n * 10 + d)
    rw [List.foldl_cons]
    omega

/-- No digit is left over of a number that a word holds. -/
theorem collect_of_lt {digits : List Nat} {n : Nat}
    (h : digits.foldl (fun n d => n * 10 + d) n < wordLimit) :
    collect n digits = (digits.foldl (fun n d => n * 10 + d) n, digits.length, 0) := by
  induction digits generalizing n with
  | nil => rfl
  | cons d rest ih =>
    rw [List.foldl_cons] at h
    have hnext : n * 10 + d < wordLimit := (le_foldl_digits rest _).trans_lt h
    simp [collect, hnext, ih h]

/-- Such a literal is read as an integer; only `-0` is read as a double. -/
theorem IsWord.isIntegral_value {l : Literal} (h : l.IsWord) :
    ∃ n, l.value? = some n ∧ n.isIntegral = true := by
  obtain ⟨negative, whole, _, _⟩ := l
  obtain ⟨rfl, rfl, hfits⟩ := h
  dsimp only at hfits
  have hlimit : digitsValue whole < wordLimit := by
    rw [wordLimit]
    split_ifs at hfits <;> omega
  have hcollect : collect 0 whole = (digitsValue whole, whole.length, 0) := collect_of_lt hlimit
  cases negative with
  | false => exact ⟨.integer (digitsValue whole), by simp [value?, hcollect], rfl⟩
  | true =>
    have hword : 2 * digitsValue whole ≤ wordLimit := by
      rw [wordLimit]
      simp only [if_true] at hfits
      omega
    by_cases hzero : digitsValue whole = 0
    · refine ⟨.double (Double.ofNat 0).neg, by simp [value?, hcollect, hzero], ?_⟩
      simp [Number.isIntegral, Double.isIntegral, Double.ofNat, Double.ofRatio, Double.zero,
        Double.neg]
    · refine ⟨.integer (-digitsValue whole), ?_, rfl⟩
      have hpos : 0 < digitsValue whole := by omega
      simp [value?, hcollect, hpos, hword]

end Number.Literal

namespace TypeTag

/-- The predicates are the tests of the tags, written down once more. -/
theorem predicate_eq_admits (tag : TypeTag) (v : Json) : tag.predicate v = tag.admits v := by
  cases tag <;> cases v <;> simp [predicate, admits, Json.isString, Json.isNumber, Json.isInteger,
    Json.isDecimal, Json.isBoolean, Json.isNull, Json.isArray, Json.isObject]

theorem tag_ne_number (v : Json) : v.tag ≠ number := by
  cases v with
  | number n => cases h : n.isIntegral <;> simp [Json.tag, h]
  | null | bool | string | array | object => simp [Json.tag]

/-- The other seven tags have no value in common, and leave none out. -/
theorem existsUnique_admits (v : Json) : ∃! tag, tag ≠ number ∧ tag.admits v = true := by
  have hadmits {tag : TypeTag} (h : tag ≠ number) : tag.admits v = true ↔ tag = v.tag := by
    simp [admits_iff, h]
  refine ⟨v.tag, ⟨tag_ne_number v, (hadmits (tag_ne_number v)).mpr rfl⟩, ?_⟩
  rintro tag ⟨hne, h⟩
  exact (hadmits hne).mp h

theorem number_admits_iff (v : Json) :
    number.admits v = true ↔ integer.admits v = true ∨ decimal.admits v = true := by
  cases v <;> simp [admits]

end TypeTag

/-- The tests of a value for the type that a text names, and what they answer: nothing, if the
text names no type. -/
structure TypeTests (matcher? : String → Option (String → Bool)) (text : String) (v : Json)
    (answer : Option Bool) : Prop where
  predicate : (TypeTag.predicate? text).map (fun test => test v) = answer
  hasType : v.hasType? text = answer
  operator : (Operator.parse "typeof").holds (some v) (some (.string text)) = true ↔
    answer = some true
  accepted : validateWith matcher? .builtin (Node.ofJson (.string text)) v = .ok () ↔
    answer = some true
  mismatched : (∃ r, validateWith matcher? .builtin (Node.ofJson (.string text)) v = .error r ∧
    r.domain = .data ∧ r.code = .typeof) ↔ answer = some false
  unknown : (∃ r, validateWith matcher? .builtin (Node.ofJson (.string text)) v = .error r ∧
    r.domain = .schema ∧ r.code = .typeof) ↔ answer = none

section
variable (matcher? : String → Option (String → Bool)) (text : String) (v : Json)

theorem map_predicate?_eq_hasType? :
    (TypeTag.predicate? text).map (fun test => test v) = v.hasType? text := by
  rw [TypeTag.predicate?, Json.hasType?, Option.map_map]
  congr 1
  funext tag
  exact tag.predicate_eq_admits v

theorem typeOf_holds_iff :
    (Operator.parse "typeof").holds (some v) (some (.string text)) = true ↔
      v.hasType? text = some true := by
  have hparse : Operator.parse "typeof" = .typeOf := by decide
  simp [hparse, Operator.holds, Operator.hasNamedType, Json.string?]

/-- A schema that is nothing but a name has the issues of the name. -/
theorem validateWith_name (c : Catalog) :
    validateWith matcher? c (Node.ofJson (.string text)) v =
      c.outcome (tagIssues Path.root {} text v) () := by
  have hcheck : checkNode (c.policy matcher?) (.tag text) (some v) Path.root false =
      (c.policy matcher?).outcome (tagIssues Path.root {} text v) () := by
    rw [← List.append_nil (tagIssues Path.root {} text v), checkNode, checkType,
      checkTag_eq_outcome]
    exact Policy.outcome_bind (Policy.outcome_nil _).symm
  rw [← c.mapError_outcome matcher?, ← hcheck, validateWith_eq, check, extend, Node.ofJson,
    Node.extend_tag]
  rfl

/-- The built-in templates word both issues of a name. -/
theorem validateWith_builtin_name :
    validateWith matcher? .builtin (Node.ofJson (.string text)) v =
      match v.hasType? text with
      | some true => .ok ()
      | some false =>
        .error (Catalog.builtin.report (dataIssue .typeof Path.root {} [("type", text)]))
      | none =>
        .error (Catalog.builtin.report (schemaIssue .typeof Path.root {}
          [("type", text), ("allowedTypes", TypeTag.listing)])) := by
  have hdata : Catalog.builtin.covers .data .typeof = true := by decide
  have hschema : Catalog.builtin.covers .schema .typeof = true := by decide
  rw [validateWith_name]
  unfold tagIssues Json.hasType?
  cases TypeTag.parse? text with
  | none => simp [Catalog.outcome, Catalog.report?, schemaIssue, hschema]
  | some tag =>
    cases hadmits : tag.admits v with
    | true => simp [Catalog.outcome, hadmits]
    | false => simp [Catalog.outcome, Catalog.report?, dataIssue, hdata, hadmits]

theorem typeTests_hasType? : TypeTests matcher? text v (v.hasType? text) where
  predicate := map_predicate?_eq_hasType? text v
  hasType := rfl
  operator := typeOf_holds_iff text v
  accepted := by
    rw [validateWith_builtin_name]
    rcases v.hasType? text with _ | (_ | _) <;> simp
  mismatched := by
    rw [validateWith_builtin_name]
    rcases v.hasType? text with _ | (_ | _) <;>
      simp [Catalog.report, dataIssue, schemaIssue]
  unknown := by
    rw [validateWith_builtin_name]
    rcases v.hasType? text with _ | (_ | _) <;>
      simp [Catalog.report, dataIssue, schemaIssue]

end

/-- All tests of a value for the type that a text names answer as the tag does that the text
names, if there is one.  Every value has exactly one of the tags other than `number`, and this
one it has just if it is an integer or a decimal.  Integers are the numbers that are kept as
such, what the literal of a 64-bit integer is read as, and the doubles without a fraction. -/
theorem type_tests_agree (matcher? : String → Option (String → Bool)) (text : String) (v : Json) :
    TypeTests matcher? text v ((TypeTag.parse? text).map fun tag => tag.admits v) ∧
    (∃! tag : TypeTag, tag ≠ .number ∧ tag.admits v = true) ∧
    (TypeTag.number.admits v = true ↔
      TypeTag.integer.admits v = true ∨ TypeTag.decimal.admits v = true) ∧
    (∀ k : Int, TypeTag.integer.admits (.number (.integer k)) = true) ∧
    (∀ (cs : List Char) (l : Number.Literal), Number.Literal.parse? cs = some l → l.IsWord →
      ∃ n, Number.parse? cs = some n ∧ TypeTag.integer.admits (.number n) = true) ∧
    ∀ d : Double, TypeTag.integer.admits (.number (.double d)) = true ↔ Int.fract d.value = 0 := by
  refine ⟨typeTests_hasType? matcher? text v, TypeTag.existsUnique_admits v,
    TypeTag.number_admits_iff v, fun k => rfl, fun cs l hl hword => ?_,
    fun d => d.isIntegral_iff_fract⟩
  obtain ⟨n, hn, hintegral⟩ := hword.isIntegral_value
  exact ⟨n, by rw [Number.parse?, hl]; exact hn, hintegral⟩

/-- The largest word is read as an integer and no decimal, the zero with a sign is read as a
double and is an integer all the same, and `date` is no type of either. -/
theorem type_tests_agree_on_words :
    let largest : Json := .number (.integer 18446744073709551615)
    let zero : Number.Literal := ⟨true, [0], none, none⟩
    Number.Literal.parse? "-0".toList = some zero ∧ zero.IsWord ∧
    (∃ n, Number.parse? "-0".toList = some n ∧ TypeTag.integer.admits (.number n) = true) ∧
    Int.fract (Double.zero true).value = 0 ∧
    TypeTests (fun _ => none) "integer" largest (some true) ∧
    TypeTests (fun _ => none) "decimal" largest (some false) ∧
    TypeTests (fun _ => none) "date" largest none := by
  intro largest zero
  have hparse : Number.Literal.parse? "-0".toList = some zero := by decide +kernel
  have hword : zero.IsWord := ⟨rfl, rfl, by decide⟩
  obtain ⟨hinteger, -, -, -, hread, hfract⟩ := type_tests_agree (fun _ => none) "integer" largest
  exact ⟨hparse, hword, hread _ _ hparse hword, (hfract _).mp (by decide +kernel), hinteger,
    (type_tests_agree _ "decimal" largest).1, (type_tests_agree _ "date" largest).1⟩

end Conform
