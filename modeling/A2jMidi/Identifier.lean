import A2jMidi.Regex
import Mathlib.Data.Nat.Digits

/-!
# Identifiers: `normalizedIdentifier` and `identifierStrToInt`

`normalizedIdentifier` removes white space and folds every other byte outside
`[a-zA-Z0-9]` to one `'_'`; its `catch` branch, which returns the identifier unchanged, is
only reached when `std::regex_replace` cannot allocate, and the model takes both calls as
succeeding.  `identifierStrToInt` is `std::stoi` with its two exceptions caught.
`specNormalized` is the normalization in the spec's words, and `normalizedIdentifier_spec`
shows the two regular-expression passes compute it.
-/

namespace A2jMidi

/-- `[^a-zA-Z0-9]` -/
def notAlnum : CharClass :=
  .bracket true [('a'.toUInt8, 'z'.toUInt8), ('A'.toUInt8, 'Z'.toUInt8), ('0'.toUInt8, '9'.toUInt8)]

def underscore : UInt8 := '_'.toUInt8

def normalizedIdentifier (identifier : List UInt8) : List UInt8 :=
  let noBlanks := regexReplace .space [] identifier
  let noSpecial := regexReplace notAlnum [underscore] noBlanks
  noSpecial

/-- What normalization makes of one byte. -/
def normalizedByte (c : UInt8) : List UInt8 :=
  if CharClass.space.test c then [] else if notAlnum.test c then [underscore] else [c]

theorem normalizedIdentifier_eq (s : List UInt8) :
    normalizedIdentifier s = s.flatMap normalizedByte := by
  simp only [normalizedIdentifier, regexReplace, List.flatMap_assoc]
  congr 1
  funext c
  by_cases hs : CharClass.space.test c <;> simp [normalizedByte, hs]

theorem normalizedByte_normalizedByte (c : UInt8) :
    (normalizedByte c).flatMap normalizedByte = normalizedByte c := by
  unfold normalizedByte
  by_cases hs : CharClass.space.test c
  · simp [hs]
  · by_cases ha : notAlnum.test c
    · simp only [hs, ha, if_false, if_true, List.flatMap_cons, List.flatMap_nil, List.append_nil]
      rfl
    · simp [hs, ha]

/-- Normalizing twice is normalizing once: `match` re-normalizes normalized names. -/
theorem normalizedIdentifier_idem (s : List UInt8) :
    normalizedIdentifier (normalizedIdentifier s) = normalizedIdentifier s := by
  simp only [normalizedIdentifier_eq, List.flatMap_assoc, normalizedByte_normalizedByte]

/-- `isdigit`: the bytes `'0'` to `'9'`. -/
def isDigit (c : UInt8) : Bool := 48 ≤ c.toNat && c.toNat ≤ 57

theorem space_test_of_isDigit {c : UInt8} (h : isDigit c) : CharClass.space.test c = false := by
  simp only [isDigit, Bool.and_eq_true, decide_eq_true_eq] at h
  simp only [CharClass.test, Bool.or_eq_false_iff, beq_eq_false_iff_ne, Bool.and_eq_false_iff,
    decide_eq_false_iff_not, Nat.not_le]
  omega

/-- A digit is kept as it is by normalization. -/
theorem normalizedByte_of_isDigit {c : UInt8} (h : isDigit c) : normalizedByte c = [c] := by
  have ha : notAlnum.test c = false := by
    simp only [isDigit, Bool.and_eq_true, decide_eq_true_eq] at h
    have h0 : ('0'.toUInt8).toNat = 48 := rfl
    have h9 : ('9'.toUInt8).toNat = 57 := rfl
    simp only [notAlnum, CharClass.test, List.any_cons, List.any_nil, h0, h9]
    simp [h.1, h.2]
  simp [normalizedByte, space_test_of_isDigit h, ha]

/-- The value of a run of decimal digits, most significant first. -/
def digitsValue (ds : List UInt8) : Nat :=
  ds.foldl (fun acc d => 10 * acc + (d.toNat - 48)) 0

/-- The sign `strtol` reads: whether it is `'-'`, and the bytes after it. -/
def readSign : List UInt8 → Bool × List UInt8
  | c :: rest =>
      if c = '-'.toUInt8 then (true, rest) else if c = '+'.toUInt8 then (false, rest)
      else (false, c :: rest)
  | [] => (false, [])

/--
`std::stoi` in base 10, through `strtol`: leading white space is skipped, an optional sign
is read, then the longest run of decimal digits.  `none` stands for its two exceptions:
`std::invalid_argument` when no digit follows, `std::out_of_range` when the value does not
fit an `int`.
-/
def stoi (s : List UInt8) : Option CInt :=
  let signed := readSign (s.dropWhile CharClass.space.test)
  let ds := signed.2.takeWhile isDigit
  if ds.isEmpty then none
  else CInt.ofInt? (if signed.1 then -(digitsValue ds : Int) else digitsValue ds)

def identifierStrToInt (identifier : List UInt8) : CInt :=
  (stoi identifier).getD nullId

/-- The byte of a decimal digit. -/
def digitByte (d : Nat) : UInt8 := (48 + d).toUInt8

/-- The decimal numeral of `n`, most significant digit first. -/
def decimal (n : Nat) : List UInt8 :=
  ((if n = 0 then [0] else Nat.digits 10 n).reverse).map digitByte

theorem digitByte_toNat {d : Nat} (h : d < 10) : (digitByte d).toNat = 48 + d :=
  UInt8.toNat_ofNat_of_lt (by unfold UInt8.size; omega)

theorem decimal_digits_lt (n : Nat) :
    ∀ d ∈ (if n = 0 then [0] else Nat.digits 10 n), d < 10 := by
  split
  · simp
  · exact fun d hd => Nat.digits_lt_base (by decide) hd

theorem isDigit_of_mem_decimal {n : Nat} {c : UInt8} (h : c ∈ decimal n) : isDigit c := by
  obtain ⟨d, hd, rfl⟩ := List.mem_map.mp h
  have hlt := decimal_digits_lt n d (List.mem_reverse.mp hd)
  simp only [isDigit, digitByte_toNat hlt, Bool.and_eq_true, decide_eq_true_eq]
  omega

theorem decimal_ne_nil (n : Nat) : decimal n ≠ [] := by
  unfold decimal
  split
  · simp
  · simpa using Nat.digits_ne_nil_iff_ne_zero.mpr ‹_›

theorem digitsValue_decimal (n : Nat) : digitsValue (decimal n) = n := by
  have key : ∀ l : List Nat, (∀ d ∈ l, d < 10) →
      (l.reverse.map digitByte).foldl (fun acc d => 10 * acc + (d.toNat - 48)) 0 =
        Nat.ofDigits 10 l := by
    intro l hl
    induction l with
    | nil => rfl
    | cons d l ih =>
        simp only [List.reverse_cons, List.map_append, List.foldl_append, List.map_cons,
          List.map_nil, List.foldl_cons, List.foldl_nil, Nat.ofDigits_cons]
        rw [ih fun x hx => hl x (List.mem_cons_of_mem _ hx),
          digitByte_toNat (hl d (List.mem_cons_self _ _))]
        omega
  unfold digitsValue decimal
  rw [key _ (decimal_digits_lt n)]
  split
  · simp [*]
  · exact Nat.ofDigits_digits 10 n

/-- `std::stoi` reads a decimal numeral back, and fails exactly when it leaves the range. -/
theorem stoi_decimal (n : Nat) : stoi (decimal n) = CInt.ofInt? n := by
  obtain ⟨c, rest, hcons⟩ := List.exists_cons_of_ne_nil (decimal_ne_nil n)
  have hc := isDigit_of_mem_decimal (hcons ▸ List.mem_cons_self c rest)
  have hsign : readSign (decimal n) = (false, decimal n) := by
    simp only [isDigit, Bool.and_eq_true, decide_eq_true_eq] at hc
    have hminus : c ≠ '-'.toUInt8 := fun e => absurd (e ▸ hc.1) (by decide)
    have hplus : c ≠ '+'.toUInt8 := fun e => absurd (e ▸ hc.1) (by decide)
    simp [hcons, readSign, hminus, hplus]
  have hdrop : (decimal n).dropWhile CharClass.space.test = decimal n := by
    rw [hcons, List.dropWhile_cons, if_neg (by simp [space_test_of_isDigit hc])]
  have htake : (decimal n).takeWhile isDigit = decimal n :=
    List.takeWhile_eq_self_iff.mpr fun _ => isDigit_of_mem_decimal
  simp only [stoi, hdrop, hsign, htake, digitsValue_decimal, List.isEmpty_iff, decimal_ne_nil,
    if_false]
  rfl

/-- Normalization keeps a string of digits, a decimal numeral in particular, as it is. -/
theorem normalizedIdentifier_of_digits {s : List UInt8} (h : ∀ c ∈ s, isDigit c) :
    normalizedIdentifier s = s := by
  rw [normalizedIdentifier_eq]
  induction s with
  | nil => rfl
  | cons c s ih =>
      rw [List.flatMap_cons, normalizedByte_of_isDigit (h c (List.mem_cons_self _ _)),
        ih fun x hx => h x (List.mem_cons_of_mem _ hx)]
      rfl

/-! ## The normalization the spec describes -/

/-- The white-space bytes of the `"C"` locale: `' '`, `'\t'`, `'\n'`, `'\v'`, `'\f'`, `'\r'`. -/
def isSpace (c : UInt8) : Bool := c.toNat ∈ [32, 9, 10, 11, 12, 13]

/-- The bytes of `[A-Za-z0-9]`. -/
def isAlnum (c : UInt8) : Bool :=
  ('a'.toNat ≤ c.toNat && c.toNat ≤ 'z'.toNat) || ('A'.toNat ≤ c.toNat && c.toNat ≤ 'Z'.toNat) ||
    isDigit c

/--
Modelled from the spec: delete every white-space byte, then replace every remaining byte
outside `[A-Za-z0-9]` by one `'_'`.
-/
def specNormalized (s : List UInt8) : List UInt8 :=
  (s.filter fun c => !isSpace c).map fun c => if isAlnum c then c else underscore

/-- `\s` is the white space of the spec. -/
theorem space_test (c : UInt8) : CharClass.space.test c = isSpace c := by
  rw [Bool.eq_iff_iff]
  simp only [CharClass.test, isSpace, Bool.or_eq_true, beq_iff_eq, Bool.and_eq_true,
    decide_eq_true_eq, List.mem_cons, List.mem_singleton, List.not_mem_nil, or_false]
  omega

/-- `[^a-zA-Z0-9]` is the complement of the spec's `[A-Za-z0-9]`. -/
theorem notAlnum_test (c : UInt8) : notAlnum.test c = !isAlnum c := by
  simp only [notAlnum, CharClass.test, List.any_cons, List.any_nil, Bool.or_false, isAlnum,
    isDigit, Bool.true_bne, Bool.or_assoc]
  rfl

theorem normalizedByte_eq_spec (c : UInt8) :
    normalizedByte c = if isSpace c then [] else [if isAlnum c then c else underscore] := by
  unfold normalizedByte
  rw [space_test, notAlnum_test]
  by_cases hs : isSpace c <;> by_cases ha : isAlnum c <;> simp [hs, ha]

/-- The two `regex_replace` passes are the spec's deletion and replacement. -/
theorem normalizedIdentifier_eq_spec (s : List UInt8) :
    normalizedIdentifier s = specNormalized s := by
  rw [normalizedIdentifier_eq]
  induction s with
  | nil => rfl
  | cons c s ih =>
      rw [List.flatMap_cons, ih, normalizedByte_eq_spec]
      by_cases hs : isSpace c <;> simp [specNormalized, hs]

theorem mem_normalizedIdentifier {s : List UInt8} {c : UInt8} (h : c ∈ normalizedIdentifier s) :
    isAlnum c ∨ c = underscore := by
  rw [normalizedIdentifier_eq_spec, specNormalized] at h
  obtain ⟨d, -, rfl⟩ := List.mem_map.mp h
  by_cases hd : isAlnum d <;> simp [hd]

theorem length_normalizedIdentifier (s : List UInt8) :
    (normalizedIdentifier s).length = s.length - s.countP isSpace := by
  rw [normalizedIdentifier_eq_spec, specNormalized, List.length_map,
    ← List.countP_eq_length_filter, List.length_eq_countP_add_countP isSpace s]
  simp

/-- A name normalizes to nothing exactly when it is all white space. -/
theorem normalizedIdentifier_eq_nil {s : List UInt8} :
    normalizedIdentifier s = [] ↔ ∀ c ∈ s, isSpace c := by
  simp [normalizedIdentifier_eq_spec, specNormalized]

/-- A byte of a normalized name is neither white space nor a sign. -/
theorem word_byte {c : UInt8} (h : isAlnum c ∨ c = underscore) :
    CharClass.space.test c = false ∧ c ≠ '-'.toUInt8 ∧ c ≠ '+'.toUInt8 := by
  refine ⟨?_, ?_, ?_⟩
  · rw [space_test]
    rcases h with h | rfl
    · simp only [isAlnum, isDigit, Char.reduceToNat, Bool.or_eq_true, Bool.and_eq_true,
        decide_eq_true_eq] at h
      simp only [isSpace, List.mem_cons, List.mem_singleton, List.not_mem_nil, or_false,
        decide_eq_false_iff_not]
      omega
    · rfl
  · rintro rfl
    revert h
    decide
  · rintro rfl
    revert h
    decide

/-- On a normalized name, `std::stoi` reads the longest leading run of digits, if any. -/
theorem stoi_of_word {name : List UInt8} (h : ∀ c ∈ name, isAlnum c ∨ c = underscore) :
    stoi name = if name.takeWhile isDigit = [] then none
      else CInt.ofInt? (digitsValue (name.takeWhile isDigit)) := by
  cases name with
  | nil => rfl
  | cons c rest =>
      obtain ⟨hspace, hminus, hplus⟩ := word_byte (h c (List.mem_cons_self _ _))
      simp [stoi, List.dropWhile_cons, hspace, readSign, hminus, hplus]

/--
`normalizedIdentifier` deletes the white-space bytes and replaces every other byte outside
`[A-Za-z0-9]` by one `'_'`: its output is made of `[A-Za-z0-9_]`, is as long as the input
less its white space, and a second normalization leaves it as it is.
-/
theorem normalizedIdentifier_spec (s : List UInt8) :
    normalizedIdentifier s = specNormalized s ∧
    (∀ c ∈ normalizedIdentifier s, isAlnum c ∨ c = underscore) ∧
    (normalizedIdentifier s).length = s.length - s.countP isSpace ∧
    normalizedIdentifier (normalizedIdentifier s) = normalizedIdentifier s :=
  ⟨normalizedIdentifier_eq_spec s, fun _ => mem_normalizedIdentifier,
    length_normalizedIdentifier s, normalizedIdentifier_idem s⟩

end A2jMidi
