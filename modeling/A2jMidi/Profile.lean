import A2jMidi.Identifier

/-!
# Port designations: `toProfile`

`toProfile` reads a designation with two regular expressions, first `^([^:]+):([^:]+)$`,
then `^[^:]+$`.  The spec's design notes ask for a direct split-on-colon scanner instead;
`scanProfile` is that scanner, and `toProfile_eq_scanProfile` shows the two agree on every
byte string, messages included.

`std::regex_match` backtracks on the call stack, and a designation of some tens of kilobytes
overflows it; that is a limit of the machine, which the model leaves out: it reads a
designation of any length.
-/

namespace A2jMidi

/-- `PortProfile` with its member initializers; `errorMessage` is the text of the stream. -/
structure PortProfile where
  hasError : Bool := false
  errorMessage : List UInt8 := []
  caps : PortCaps := sndSeqPortCapRead ||| sndSeqPortCapSubsRead
  hasColon : Bool := false
  firstInt : CInt := nullId
  firstName : List UInt8 := []
  secondInt : CInt := nullId
  secondName : List UInt8 := []
  deriving DecidableEq

def toProfile (caps : PortCaps) (designation : List UInt8) : PortProfile :=
  let result : PortProfile := { caps := caps }
  if designation.isEmpty then
    { result with hasError := true, errorMessage := ascii "Port-Identifier seems to be empty." }
  else
    match regexMatch twoNamesSeparatedByColon designation with
    | some groups =>
        let firstName := normalizedIdentifier (groups.getD 0 [])
        let secondName := normalizedIdentifier (groups.getD 1 [])
        { result with
          hasColon := true, firstName := firstName, secondName := secondName
          firstInt := identifierStrToInt firstName, secondInt := identifierStrToInt secondName }
    | none =>
        match regexMatch oneName designation with
        | some _ =>
            let firstName := normalizedIdentifier designation
            { result with
              hasColon := false, firstName := firstName, secondName := []
              firstInt := identifierStrToInt firstName, secondInt := nullId }
        | none =>
            { result with
              hasError := true, errorMessage := ascii "Invalid Port-Identifier: " ++ designation }

/-- The profile of a designation with one token. -/
def oneNameProfile (caps : PortCaps) (a : List UInt8) : PortProfile :=
  { caps := caps, hasColon := false, firstName := normalizedIdentifier a, secondName := []
    firstInt := identifierStrToInt (normalizedIdentifier a), secondInt := nullId }

/-- The profile of a designation with two tokens around a colon. -/
def twoNamesProfile (caps : PortCaps) (a b : List UInt8) : PortProfile :=
  { caps := caps, hasColon := true
    firstName := normalizedIdentifier a, secondName := normalizedIdentifier b
    firstInt := identifierStrToInt (normalizedIdentifier a)
    secondInt := identifierStrToInt (normalizedIdentifier b) }

/-- The profile of a rejected designation. -/
def errorProfile (caps : PortCaps) (message : List UInt8) : PortProfile :=
  { caps := caps, hasError := true, errorMessage := message }

/-- The spec's scanner: split on colons, accept one token or two non-empty ones. -/
def scanProfile (caps : PortCaps) (designation : List UInt8) : PortProfile :=
  match designation.splitOn colon with
  | [a] =>
      if a = [] then errorProfile caps (ascii "Port-Identifier seems to be empty.")
      else oneNameProfile caps a
  | [a, b] =>
      if a ≠ [] ∧ b ≠ [] then twoNamesProfile caps a b
      else errorProfile caps (ascii "Invalid Port-Identifier: " ++ designation)
  | _ => errorProfile caps (ascii "Invalid Port-Identifier: " ++ designation)

theorem splitOn_colon_of_not_mem {s : List UInt8} (h : colon ∉ s) : s.splitOn colon = [s] :=
  List.splitOnP_eq_single _ _ fun _ hx e => h (beq_iff_eq.mp e ▸ hx)

theorem splitOn_colon_append {a b : List UInt8} (h : colon ∉ a) :
    (a ++ colon :: b).splitOn colon = a :: b.splitOn colon :=
  List.splitOnP_first (· == colon) a (fun (_ : UInt8) hx e => h (beq_iff_eq.mp e ▸ hx)) colon
    (beq_self_eq_true colon) b

/-- A string with a colon splits at its first colon. -/
theorem exists_first_colon {s : List UInt8} (h : colon ∈ s) :
    ∃ a b, colon ∉ a ∧ s = a ++ colon :: b := by
  induction s with
  | nil => exact absurd h (List.not_mem_nil _)
  | cons c s ih =>
      by_cases hc : c = colon
      · exact ⟨[], s, List.not_mem_nil _, by rw [hc]; rfl⟩
      · obtain ⟨a, b, ha, rfl⟩ := ih ((List.mem_cons.mp h).resolve_left (Ne.symm hc))
        exact ⟨c :: a, b, by simp [Ne.symm hc, ha], rfl⟩

/-- A string with a colon in it splits into at least two pieces. -/
theorem splitOn_colon_of_mem {b : List UInt8} (h : colon ∈ b) :
    ∃ b₁ b₂ rest, b.splitOn colon = b₁ :: b₂ :: rest := by
  obtain ⟨b₁, b₂, hb₁, rfl⟩ := exists_first_colon h
  obtain ⟨x, xs, hx⟩ := List.exists_cons_of_ne_nil (List.splitOnP_ne_nil (· == colon) b₂)
  exact ⟨b₁, x, xs, by rw [splitOn_colon_append hb₁]; exact congrArg _ hx⟩

theorem toProfile_of_token {caps : PortCaps} {s : List UInt8} (h : Token s) :
    toProfile caps s = oneNameProfile caps s := by
  have hnone : regexMatch twoNamesSeparatedByColon s = none :=
    regexMatch_twoNames_none fun ⟨a, b, _, _, hs⟩ => h.2 (hs ▸ by simp)
  simp only [toProfile, hnone, regexMatch_oneName, if_pos h, List.isEmpty_iff, if_neg h.1]
  rfl

theorem toProfile_of_tokens {caps : PortCaps} {a b : List UInt8} (ha : Token a) (hb : Token b) :
    toProfile caps (a ++ colon :: b) = twoNamesProfile caps a b := by
  simp only [toProfile, regexMatch_twoNames ha hb, List.isEmpty_iff, List.append_eq_nil,
    List.cons_ne_nil, and_false, if_false]
  rfl

/-- Outside the grammar the message names the designation; the empty one has its own. -/
theorem toProfile_of_invalid {caps : PortCaps} {s : List UInt8} (hs : s ≠ []) (h1 : ¬Token s)
    (h2 : ¬∃ a b, Token a ∧ Token b ∧ s = a ++ colon :: b) :
    toProfile caps s = errorProfile caps (ascii "Invalid Port-Identifier: " ++ s) := by
  simp only [toProfile, regexMatch_twoNames_none h2, regexMatch_oneName, if_neg h1,
    List.isEmpty_iff, if_neg hs]
  rfl

/-- The regular expressions of `toProfile` and the spec's scanner read every string alike. -/
theorem toProfile_eq_scanProfile (caps : PortCaps) (s : List UInt8) :
    toProfile caps s = scanProfile caps s := by
  by_cases hc : colon ∈ s
  · obtain ⟨a, b, ha, rfl⟩ := exists_first_colon hc
    have hne : a ++ colon :: b ≠ [] := by simp
    have h1 : ¬Token (a ++ colon :: b) := fun h => h.2 (by simp)
    by_cases hb : colon ∈ b
    · obtain ⟨b₁, b₂, rest, hsplit⟩ := splitOn_colon_of_mem hb
      rw [toProfile_of_invalid hne h1 fun ⟨a', b', ha', hb', hs⟩ =>
        hb'.2 ((append_colon_inj ha ha'.2 hs).2 ▸ hb)]
      simp [scanProfile, splitOn_colon_append ha, hsplit]
    · by_cases htok : a ≠ [] ∧ b ≠ []
      · rw [toProfile_of_tokens ⟨htok.1, ha⟩ ⟨htok.2, hb⟩]
        simp [scanProfile, splitOn_colon_append ha, splitOn_colon_of_not_mem hb, htok]
      · rw [toProfile_of_invalid hne h1 fun ⟨a', b', ha', hb', hs⟩ => by
          obtain ⟨rfl, rfl⟩ := append_colon_inj ha ha'.2 hs
          exact htok ⟨ha'.1, hb'.1⟩]
        simp [scanProfile, splitOn_colon_append ha, splitOn_colon_of_not_mem hb, htok]
  · rw [scanProfile, splitOn_colon_of_not_mem hc]
    by_cases hs : s = []
    · subst hs
      rfl
    · exact (toProfile_of_token ⟨hs, hc⟩).trans (if_neg hs).symm

/-- A designation `toProfile` accepts is one token, or two tokens around a colon. -/
theorem toProfile_accepted {caps : PortCaps} {s : List UInt8}
    (h : (toProfile caps s).hasError = false) :
    Token s ∨ ∃ a b, Token a ∧ Token b ∧ s = a ++ colon :: b := by
  by_contra hn
  obtain ⟨h1, h2⟩ := not_or.mp hn
  by_cases hs : s = []
  · subst hs
    simp [toProfile] at h
  · simp [toProfile_of_invalid hs h1 h2, errorProfile] at h

example : (toProfile 0 (ascii "128:01")).firstInt = ⟨128, by decide⟩ ∧
    (toProfile 0 (ascii "128:01")).secondInt = ⟨1, by decide⟩ := by decide

example : (toProfile 0 (ascii "a:b:c")).hasError ∧ (toProfile 0 (ascii ":c")).hasError := by
  decide

/--
`toProfile` is the split-on-colon scanner: it accepts exactly one non-empty colon-free
token, or two of them around one colon, and fills the fields from the normalized tokens.
-/
theorem toProfile_split_on_colon (caps : PortCaps) (s : List UInt8) :
    toProfile caps s = scanProfile caps s ∧
    ((toProfile caps s).hasError = false ↔
      Token s ∨ ∃ a b, Token a ∧ Token b ∧ s = a ++ colon :: b) ∧
    (Token s → toProfile caps s = oneNameProfile caps s) ∧
    (∀ a b, Token a → Token b → s = a ++ colon :: b →
      toProfile caps s = twoNamesProfile caps a b) := by
  refine ⟨toProfile_eq_scanProfile caps s, ⟨toProfile_accepted, ?_⟩, toProfile_of_token,
    fun a b ha hb hs => hs ▸ toProfile_of_tokens ha hb⟩
  rintro (h1 | ⟨a, b, ha, hb, rfl⟩)
  · rw [toProfile_of_token h1]
    rfl
  · rw [toProfile_of_tokens ha hb]
    rfl

/-! ## The number fields -/

/--
The meaning the code gives `firstInt` and `secondInt` beside their names: not `NULL_ID`
exactly when the name starts with a run of decimal digits whose value fits an `int`, and
then the value of that run.
-/
def NumberField (name : List UInt8) (n : CInt) : Prop :=
  (n ≠ nullId ↔ name.takeWhile isDigit ≠ [] ∧ digitsValue (name.takeWhile isDigit) ≤ 2147483647) ∧
    (n ≠ nullId → n.val = digitsValue (name.takeWhile isDigit))

theorem numberField_normalized (s : List UInt8) :
    NumberField (normalizedIdentifier s) (identifierStrToInt (normalizedIdentifier s)) := by
  rw [NumberField, identifierStrToInt, stoi_of_word fun _ => mem_normalizedIdentifier]
  generalize (normalizedIdentifier s).takeWhile isDigit = ds
  by_cases hds : ds = []
  · simp [hds]
  · by_cases hv : digitsValue ds ≤ 2147483647
    · rw [if_neg hds, CInt.ofInt?, dif_pos ⟨by omega, by omega⟩]
      simp [hds, hv, nullId, CInt.minusOne, CInt.ext_iff]
    · rw [if_neg hds, CInt.ofInt?, dif_neg (by omega)]
      simp [hv]

/--
For a designation `toProfile` accepts, `firstInt` is not `NULL_ID` exactly when `firstName`
starts with a run of decimal digits whose value fits an `int`, and is then that value; with
a colon, the same holds of `secondInt` and `secondName`.
-/
theorem toProfile_number_fields {caps : PortCaps} {s : List UInt8}
    (h : (toProfile caps s).hasError = false) :
    NumberField (toProfile caps s).firstName (toProfile caps s).firstInt ∧
    ((toProfile caps s).hasColon →
      NumberField (toProfile caps s).secondName (toProfile caps s).secondInt) := by
  rcases toProfile_accepted h with ht | ⟨a, b, ha, hb, rfl⟩
  · rw [toProfile_of_token ht]
    exact ⟨numberField_normalized s, fun hc => absurd hc (by simp [oneNameProfile])⟩
  · rw [toProfile_of_tokens ha hb]
    exact ⟨numberField_normalized a, fun _ => numberField_normalized b⟩

/--
A token of digits and letters is no integer, yet `std::stoi` reads its leading digits:
`firstInt` is not `NULL_ID` although `firstName` has a byte that is no decimal digit.
-/
theorem toProfile_reads_leading_digits :
    (toProfile (sndSeqPortCapRead ||| sndSeqPortCapSubsRead) (ascii "2nd")).hasError = false ∧
    (toProfile (sndSeqPortCapRead ||| sndSeqPortCapSubsRead) (ascii "2nd")).firstName =
      ascii "2nd" ∧ (∃ b ∈ ascii "2nd", isDigit b = false) ∧
    (toProfile (sndSeqPortCapRead ||| sndSeqPortCapSubsRead) (ascii "2nd")).firstInt =
      ⟨2, by decide⟩ := by
  decide

/-! ## Empty names -/

/--
For a designation `toProfile` accepts, `firstName` is empty exactly when the part before the
colon (the whole designation when there is none) is white space only; with a colon,
`secondName` is empty exactly when the part after it is.
-/
theorem toProfile_empty_names {caps : PortCaps} {s : List UInt8}
    (h : (toProfile caps s).hasError = false) :
    ((toProfile caps s).firstName = [] ↔ ∀ c ∈ s.takeWhile (· != colon), isSpace c) ∧
    ((toProfile caps s).hasColon →
      ((toProfile caps s).secondName = [] ↔
        ∀ c ∈ (s.dropWhile (· != colon)).tail, isSpace c)) := by
  rcases toProfile_accepted h with ht | ⟨a, b, ha, hb, rfl⟩
  · have hall : ∀ c ∈ s, (c != colon) = true := fun c hc => bne_iff_ne.mpr fun e => ht.2 (e ▸ hc)
    rw [toProfile_of_token ht, List.takeWhile_eq_self_iff.mpr hall]
    exact ⟨normalizedIdentifier_eq_nil, fun hc => absurd hc (by simp [oneNameProfile])⟩
  · have hall : ∀ c ∈ a, (c != colon) = true := fun c hc => bne_iff_ne.mpr fun e => ha.2 (e ▸ hc)
    rw [toProfile_of_tokens ha hb, List.takeWhile_append_of_pos hall,
      List.dropWhile_append_of_pos hall]
    simp [twoNamesProfile, normalizedIdentifier_eq_nil, List.takeWhile_cons, List.dropWhile_cons]

theorem toProfile_empty_names_blank_client :
    (toProfile 0 (ascii " :in")).hasError = false ∧
    (((toProfile 0 (ascii " :in")).firstName = [] ↔
        ∀ c ∈ (ascii " :in").takeWhile (· != colon), isSpace c) ∧
      ((toProfile 0 (ascii " :in")).hasColon →
        ((toProfile 0 (ascii " :in")).secondName = [] ↔
          ∀ c ∈ ((ascii " :in").dropWhile (· != colon)).tail, isSpace c))) :=
  ⟨by decide, toProfile_empty_names (by decide)⟩

/-- A designation of white space only is accepted, with an empty `firstName`. -/
theorem toProfile_blank_designation :
    (toProfile (sndSeqPortCapRead ||| sndSeqPortCapSubsRead) (ascii " ")).hasError = false ∧
    (toProfile (sndSeqPortCapRead ||| sndSeqPortCapSubsRead) (ascii " ")).firstName = [] := by
  decide

end A2jMidi
