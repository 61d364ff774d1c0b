import A2jMidi.Basic

/-!
# The regular expressions of `alsa_client.cpp`

`toProfile` and `normalizedIdentifier` build four ECMAScript patterns with `std::regex`:
`\s`, `[^a-zA-Z0-9]`, `^([^:]+):([^:]+)$` and `^[^:]+$`.  This module embeds the fragment
of the syntax they use, with a backtracking matcher that lists the matches of a pattern in
ECMAScript's priority order, and `regex_match` and `regex_replace` over it.  Bytes are
classified as in the default `"C"` locale; the ranges of the patterns lie in ASCII, so
reading a `char` as signed or unsigned does not change a test.
-/

namespace A2jMidi

/-- Single-byte classes: the escape `\s` and bracket expressions of byte ranges. -/
inductive CharClass where
  | space
  | bracket (negated : Bool) (ranges : List (UInt8 × UInt8))

namespace CharClass

/-- Whether a byte belongs to the class; `\s` is `isspace` of the `"C"` locale. -/
def test : CharClass → UInt8 → Bool
  | space, c => c.toNat == 32 || (9 ≤ c.toNat && c.toNat ≤ 13)
  | bracket negated ranges, c =>
      negated != ranges.any fun r => r.1.toNat ≤ c.toNat && c.toNat ≤ r.2.toNat

end CharClass

/-- The pattern syntax of the fragment; `+` is only applied to a character class. -/
inductive Regex where
  | bol
  | eol
  | char (c : UInt8)
  | oneOrMore (k : CharClass)
  | group (r : Regex)
  | seq (r q : Regex)

/-- One match at the current position: the input left after it and the groups it captured. -/
structure Outcome where
  rest : List UInt8
  groups : List (List UInt8)

/-- The inputs left by the runs of `k+` at the front of the input, longest first (greedy). -/
def plusRuns (k : CharClass) : List UInt8 → List (List UInt8)
  | [] => []
  | c :: rest => if k.test c then plusRuns k rest ++ [rest] else []

theorem mem_plusRuns {k : CharClass} {s rest : List UInt8} :
    rest ∈ plusRuns k s ↔ ∃ run, run ≠ [] ∧ (∀ c ∈ run, k.test c) ∧ s = run ++ rest := by
  induction s with
  | nil =>
      simp only [plusRuns, List.not_mem_nil, false_iff, not_exists, not_and]
      intro run hne _ hs
      exact hne (List.append_eq_nil.mp hs.symm).1
  | cons c s ih =>
      by_cases hc : k.test c
      · rw [plusRuns, if_pos hc, List.mem_append, ih, List.mem_singleton]
        constructor
        · rintro (⟨run, _, hrun, rfl⟩ | rfl)
          · exact ⟨c :: run, List.cons_ne_nil _ _, List.forall_mem_cons.mpr ⟨hc, hrun⟩, rfl⟩
          · exact ⟨[c], List.cons_ne_nil _ _, by simpa using hc, rfl⟩
        · rintro ⟨_ | ⟨d, run⟩, hne, hrun, hs⟩
          · exact absurd rfl hne
          · obtain ⟨rfl, rfl⟩ := List.cons.inj hs
            rcases run with _ | ⟨e, run⟩
            · exact .inr rfl
            · exact .inl ⟨e :: run, List.cons_ne_nil _ _,
                fun x hx => hrun x (List.mem_cons_of_mem _ hx), rfl⟩
      · rw [plusRuns, if_neg hc]
        simp only [List.not_mem_nil, false_iff, not_exists, not_and]
        rintro (_ | ⟨d, run⟩) hne hrun hs
        · exact hne rfl
        · obtain ⟨rfl, -⟩ := List.cons.inj hs
          exact hc (hrun _ (List.mem_cons_self _ _))

namespace Regex

/--
All matches of a pattern at the front of the input, in ECMAScript's priority order.
`atStart` says whether the current position is the beginning of the subject, for `^`.
-/
def run : Regex → Bool → List UInt8 → List Outcome
  | bol, atStart, s => if atStart then [⟨s, []⟩] else []
  | eol, _, s => if s.isEmpty then [⟨s, []⟩] else []
  | char c, _, s =>
      match s with
      | d :: rest => if d == c then [⟨rest, []⟩] else []
      | [] => []
  | oneOrMore k, _, s => (plusRuns k s).map fun rest => ⟨rest, []⟩
  | group r, atStart, s =>
      (r.run atStart s).map fun o => ⟨o.rest, s.take (s.length - o.rest.length) :: o.groups⟩
  | seq r q, atStart, s =>
      (r.run atStart s).flatMap fun o =>
        (q.run (atStart && o.rest.length == s.length) o.rest).map fun o' =>
          ⟨o'.rest, o.groups ++ o'.groups⟩

variable {o : Outcome} {b : Bool} {s : List UInt8}

@[simp]
theorem mem_run_bol : o ∈ bol.run b s ↔ b = true ∧ o = ⟨s, []⟩ := by
  cases b <;> simp [run, and_comm]

@[simp]
theorem mem_run_eol : o ∈ eol.run b s ↔ s = [] ∧ o = ⟨[], []⟩ := by
  cases s <;> simp [run]

@[simp]
theorem mem_run_char {c : UInt8} :
    o ∈ (char c).run b s ↔ ∃ rest, s = c :: rest ∧ o = ⟨rest, []⟩ := by
  cases s with
  | nil => simp [run]
  | cons d rest => by_cases h : d = c <;> simp [run, h]

@[simp]
theorem mem_run_group {r : Regex} : o ∈ (group r).run b s ↔
    ∃ o₁ ∈ r.run b s, o = ⟨o₁.rest, s.take (s.length - o₁.rest.length) :: o₁.groups⟩ := by
  simp only [run, List.mem_map]
  exact exists_congr fun _ => and_congr_right fun _ => ⟨Eq.symm, Eq.symm⟩

@[simp]
theorem mem_run_seq {r q : Regex} : o ∈ (seq r q).run b s ↔
    ∃ o₁ ∈ r.run b s, ∃ o₂ ∈ q.run (b && o₁.rest.length == s.length) o₁.rest,
      o = ⟨o₂.rest, o₁.groups ++ o₂.groups⟩ := by
  simp only [run, List.mem_flatMap, List.mem_map]
  exact exists_congr fun _ => and_congr_right fun _ => exists_congr fun _ =>
    and_congr_right fun _ => ⟨Eq.symm, Eq.symm⟩

theorem mem_run_oneOrMore {k : CharClass} : o ∈ (oneOrMore k).run b s ↔
    ∃ run, run ≠ [] ∧ (∀ x ∈ run, k.test x) ∧ s = run ++ o.rest ∧ o.groups = [] := by
  cases o
  simp only [run, List.mem_map, mem_plusRuns, Outcome.mk.injEq]
  constructor
  · rintro ⟨rest, ⟨run, hne, hrun, rfl⟩, rfl, rfl⟩
    exact ⟨run, hne, hrun, rfl, rfl⟩
  · rintro ⟨run, hne, hrun, rfl, rfl⟩
    exact ⟨_, ⟨run, hne, hrun, rfl⟩, rfl, rfl⟩

/-- A group around `k+` captures exactly the run it consumed. -/
theorem mem_run_group_oneOrMore {k : CharClass} : o ∈ (group (oneOrMore k)).run b s ↔
    ∃ run, run ≠ [] ∧ (∀ x ∈ run, k.test x) ∧ s = run ++ o.rest ∧ o.groups = [run] := by
  simp only [mem_run_group, mem_run_oneOrMore]
  constructor
  · rintro ⟨o₁, ⟨run, hne, hrun, rfl, hg⟩, rfl⟩
    exact ⟨run, hne, hrun, rfl, by simp [hg]⟩
  · rintro ⟨run, hne, hrun, rfl, hg⟩
    exact ⟨⟨o.rest, []⟩, ⟨run, hne, hrun, rfl, rfl⟩, by cases o; simp_all⟩

end Regex

/-- `std::regex_match`: the groups of the first match in priority order that spans the subject. -/
def regexMatch (r : Regex) (s : List UInt8) : Option (List (List UInt8)) :=
  ((r.run true s).find? fun o => o.rest.isEmpty).map Outcome.groups

/--
`std::regex_replace` with a one-byte pattern: the matches are exactly the single bytes of
the class and never overlap, so each of them is replaced by the format text.
-/
def regexReplace (k : CharClass) (fmt : List UInt8) (s : List UInt8) : List UInt8 :=
  s.flatMap fun c => if k.test c then fmt else [c]

/-- When every spanning match captures `g`, `regex_match` yields `g` exactly if one exists. -/
theorem regexMatch_eq_of_groups {r : Regex} {s : List UInt8} {g : List (List UInt8)}
    (hg : ∀ o ∈ r.run true s, o.rest = [] → o.groups = g) :
    regexMatch r s = if ∃ o ∈ r.run true s, o.rest = [] then some g else none := by
  unfold regexMatch
  split
  · rename_i hex
    obtain ⟨o, ho, hrest⟩ := hex
    cases hfind : (r.run true s).find? fun o => o.rest.isEmpty with
    | none =>
        rw [List.find?_eq_none] at hfind
        exact absurd (by simp [hrest]) (hfind o ho)
    | some o' =>
        have hmem := List.mem_of_find?_eq_some hfind
        have hempty := List.find?_some hfind
        simp only [List.isEmpty_iff] at hempty
        simp [hg o' hmem hempty]
  · rename_i hex
    have : ((r.run true s).find? fun o => o.rest.isEmpty) = none := by
      rw [List.find?_eq_none]
      intro o ho
      simpa using fun h => hex ⟨o, ho, h⟩
    simp [this]

/-- The colon byte. -/
def colon : UInt8 := ':'.toUInt8

/-- `[^:]` -/
def notColon : CharClass := .bracket true [(colon, colon)]

@[simp]
theorem notColon_test (c : UInt8) : notColon.test c = !(c == colon) := by
  have : (colon.toNat ≤ c.toNat && c.toNat ≤ colon.toNat) = (c == colon) := by
    cases h : c == colon
    · have hne : c.toNat ≠ colon.toNat := fun e => by simp [UInt8.toNat.inj e] at h
      simp only [Bool.and_eq_false_iff, decide_eq_false_iff_not, Nat.not_le]
      omega
    · simp [beq_iff_eq.mp h]
  simp [notColon, CharClass.test, this]

/-- `^([^:]+):([^:]+)$` -/
def twoNamesSeparatedByColon : Regex :=
  .seq .bol (.seq (.group (.oneOrMore notColon))
    (.seq (.char colon) (.seq (.group (.oneOrMore notColon)) .eol)))

/-- `^[^:]+$` -/
def oneName : Regex := .seq .bol (.seq (.oneOrMore notColon) .eol)

/-- A token of a designation: non-empty and colon-free. -/
def Token (a : List UInt8) : Prop := a ≠ [] ∧ colon ∉ a

instance (a : List UInt8) : Decidable (Token a) := inferInstanceAs (Decidable (_ ∧ _))

theorem token_iff_run {a : List UInt8} : Token a ↔ a ≠ [] ∧ ∀ c ∈ a, notColon.test c := by
  simp only [Token, notColon_test, Bool.not_eq_true', beq_eq_false_iff_ne]
  exact and_congr_right fun _ => ⟨fun h c hc e => h (e ▸ hc), fun h hc => h _ hc rfl⟩

theorem oneName_full {s : List UInt8} {o : Outcome} :
    (o ∈ oneName.run true s ∧ o.rest = []) ↔ Token s ∧ o = ⟨[], []⟩ := by
  simp only [oneName, Regex.mem_run_seq, Regex.mem_run_bol, Regex.mem_run_oneOrMore,
    Regex.mem_run_eol, token_iff_run]
  constructor
  · rintro ⟨⟨_, ⟨-, rfl⟩, _, ⟨o₁, ⟨run, hne, hrun, hs, hg⟩, _, ⟨he, rfl⟩, rfl⟩, rfl⟩, -⟩
    simp only [he, List.append_nil] at hs
    subst hs
    exact ⟨⟨hne, hrun⟩, by simp [hg]⟩
  · rintro ⟨⟨hne, hrun⟩, rfl⟩
    exact ⟨⟨_, ⟨trivial, rfl⟩, _, ⟨⟨[], []⟩, ⟨s, hne, hrun, by simp, rfl⟩, _, ⟨rfl, rfl⟩, rfl⟩,
      rfl⟩, rfl⟩

/-- `regex_match` with `^[^:]+$` accepts exactly the tokens. -/
theorem regexMatch_oneName (s : List UInt8) :
    regexMatch oneName s = if Token s then some [] else none := by
  rw [regexMatch_eq_of_groups (g := []) fun o ho hrest => by
    rw [(oneName_full.mp ⟨ho, hrest⟩).2]]
  congr 1
  exact propext ⟨fun ⟨o, ho, hr⟩ => (oneName_full.mp ⟨ho, hr⟩).1,
    fun h => ⟨_, (oneName_full.mpr ⟨h, rfl⟩).1, rfl⟩⟩

theorem twoNames_full {s : List UInt8} {o : Outcome} :
    (o ∈ twoNamesSeparatedByColon.run true s ∧ o.rest = []) ↔
      ∃ a b, Token a ∧ Token b ∧ s = a ++ colon :: b ∧ o = ⟨[], [a, b]⟩ := by
  simp only [twoNamesSeparatedByColon, Regex.mem_run_seq, Regex.mem_run_bol,
    Regex.mem_run_group_oneOrMore, Regex.mem_run_eol, Regex.mem_run_char, token_iff_run]
  constructor
  · rintro ⟨⟨_, ⟨-, rfl⟩, _, ⟨o₁, ⟨a, ha, hac, hs, hg₁⟩, _, ⟨_, ⟨rest, hr, rfl⟩, _,
      ⟨o₂, ⟨b, hb, hbc, hr₂, hg₂⟩, _, ⟨he, rfl⟩, rfl⟩, rfl⟩, rfl⟩, rfl⟩, -⟩
    refine ⟨a, b, ⟨ha, hac⟩, ⟨hb, hbc⟩, ?_, by simp [hg₁, hg₂]⟩
    simp only [he, List.append_nil] at hr₂
    simpa [hr, hr₂] using hs
  · rintro ⟨a, b, ⟨ha, hac⟩, ⟨hb, hbc⟩, rfl, rfl⟩
    exact ⟨⟨_, ⟨trivial, rfl⟩, _, ⟨⟨colon :: b, [a]⟩, ⟨a, ha, hac, rfl, rfl⟩, _,
      ⟨⟨b, []⟩, ⟨b, rfl, rfl⟩, _, ⟨⟨[], [b]⟩, ⟨b, hb, hbc, by simp, rfl⟩, _, ⟨rfl, rfl⟩, rfl⟩,
      rfl⟩, rfl⟩, rfl⟩, rfl⟩

/-- The colon after a colon-free prefix is its first one, so it fixes the split. -/
theorem append_colon_inj {a a' b b' : List UInt8} (ha : colon ∉ a) (ha' : colon ∉ a')
    (h : a ++ colon :: b = a' ++ colon :: b') : a = a' ∧ b = b' := by
  induction a generalizing a' with
  | nil =>
      cases a' with
      | nil => exact ⟨rfl, List.cons.inj h |>.2⟩
      | cons x a' => exact absurd (List.cons.inj h).1 (fun e => ha' (e ▸ List.mem_cons_self _ _))
  | cons x a ih =>
      cases a' with
      | nil => exact absurd (List.cons.inj h).1.symm (fun e => ha (e ▸ List.mem_cons_self _ _))
      | cons y a' =>
          obtain ⟨rfl, htail⟩ := List.cons.inj h
          obtain ⟨rfl, rfl⟩ := ih (fun m => ha (List.mem_cons_of_mem _ m))
            (fun m => ha' (List.mem_cons_of_mem _ m)) htail
          exact ⟨rfl, rfl⟩

/-- `regex_match` with `^([^:]+):([^:]+)$` captures the two tokens around the colon. -/
theorem regexMatch_twoNames {a b : List UInt8} (ha : Token a) (hb : Token b) :
    regexMatch twoNamesSeparatedByColon (a ++ colon :: b) = some [a, b] := by
  rw [regexMatch_eq_of_groups (g := [a, b]) fun o ho hrest => by
    obtain ⟨a', b', ha', -, hs, rfl⟩ := twoNames_full.mp ⟨ho, hrest⟩
    obtain ⟨rfl, rfl⟩ := append_colon_inj ha.2 ha'.2 hs
    rfl]
  rw [if_pos ⟨_, (twoNames_full.mpr ⟨a, b, ha, hb, rfl, rfl⟩).1, rfl⟩]

theorem regexMatch_twoNames_none {s : List UInt8}
    (h : ¬∃ a b, Token a ∧ Token b ∧ s = a ++ colon :: b) :
    regexMatch twoNamesSeparatedByColon s = none := by
  rw [regexMatch_eq_of_groups (g := []) fun o ho hrest => absurd ?_ h, if_neg]
  · rintro ⟨o, ho, hrest⟩
    obtain ⟨a, b, ha, hb, hs, -⟩ := twoNames_full.mp ⟨ho, hrest⟩
    exact h ⟨a, b, ha, hb, hs⟩
  · obtain ⟨a, b, ha, hb, hs, -⟩ := twoNames_full.mp ⟨ho, hrest⟩
    exact ⟨a, b, ha, hb, hs⟩

end A2jMidi
