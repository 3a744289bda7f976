import Mathlib.Data.List.DropRight
import PipelineRegistry.Document

/-!
# Texts of schemes

A scheme that was named by a text has a text of its own, and naming a scheme by that text gives the
scheme again. So a source that is stored with the text of its scheme is read with the same scheme.
-/

namespace PipelineRegistry

open PipelineRegistry.Text

/-! ## Capitals -/

namespace Text

theorem toNat_upperAscii_of_small {c : Char} (small : 97 ≤ c.toNat ∧ c.toNat ≤ 122) :
    (upperAscii c).toNat = c.toNat - 32 := by
  have isSmall : ('a'.toNat ≤ c.toNat && c.toNat ≤ 'z'.toNat) = true := by
    simpa using small
  unfold upperAscii
  rw [if_pos isSmall]
  have valid : (c.toNat - 32).isValidChar := Or.inl (by omega)
  rw [Char.ofNat, dif_pos valid]
  rfl

theorem upperAscii_of_not_small {c : Char} (other : ¬ (97 ≤ c.toNat ∧ c.toNat ≤ 122)) :
    upperAscii c = c := by
  have isOther : ¬ ('a'.toNat ≤ c.toNat && c.toNat ≤ 'z'.toNat) = true := by
    simpa using other
  unfold upperAscii
  rw [if_neg isOther]

theorem upperAscii_upperAscii (c : Char) : upperAscii (upperAscii c) = upperAscii c := by
  by_cases small : 97 ≤ c.toNat ∧ c.toNat ≤ 122
  · apply upperAscii_of_not_small
    rw [toNat_upperAscii_of_small small]
    omega
  · rw [upperAscii_of_not_small small, upperAscii_of_not_small small]

theorem isBlank_upperAscii (c : Char) : isBlank (upperAscii c) = isBlank c := by
  by_cases small : 97 ≤ c.toNat ∧ c.toNat ≤ 122
  · have notBlank (d : Char) (low : 65 ≤ d.toNat) (high : d.toNat ≤ 122) : isBlank d = false := by
      unfold isBlank
      simp
      omega
    have capital := toNat_upperAscii_of_small small
    rw [notBlank c (by omega) small.2, notBlank (upperAscii c) (by omega) (by omega)]
  · rw [upperAscii_of_not_small small]

/-! ## Trimming -/

theorem trimChars_map_upperAscii (cs : List Char) :
    trimChars (cs.map upperAscii) = (trimChars cs).map upperAscii := by
  have same : isBlank ∘ upperAscii = isBlank := funext isBlank_upperAscii
  unfold trimChars
  rw [List.dropWhile_map, same, ← List.map_reverse, List.dropWhile_map, same, List.map_reverse]

theorem trimChars_eq_rdropWhile (cs : List Char) :
    trimChars cs = (cs.dropWhile isBlank).rdropWhile isBlank :=
  rfl

/-- Nothing is left to trim when the first character is not blank, but blanks at
the end. -/
theorem trimChars_trimChars (cs : List Char) : trimChars (trimChars cs) = trimChars cs := by
  cases begun : cs.dropWhile isBlank with
  | nil => simp [trimChars_eq_rdropWhile, begun]
  | cons first rest =>
      have filled : isBlank first = false := by
        have stops := List.head?_dropWhile_not isBlank cs
        rw [begun] at stops
        simpa using stops
      have kept : ∃ more, (first :: rest).rdropWhile isBlank = first :: more := by
        have isPrefix : (first :: rest).rdropWhile isBlank <+: first :: rest :=
          List.rdropWhile_prefix _ _
        cases left : (first :: rest).rdropWhile isBlank with
        | nil =>
            have blank := List.rdropWhile_eq_nil_iff.mp left first List.mem_cons_self
            rw [filled] at blank
            cases blank
        | cons head more =>
            rw [left, List.cons_prefix_cons] at isPrefix
            exact ⟨more, by rw [isPrefix.1]⟩
      obtain ⟨more, trimmed⟩ := kept
      rw [trimChars_eq_rdropWhile cs, begun, trimmed, trimChars_eq_rdropWhile, List.dropWhile_cons,
        if_neg (by simp [filled]), ← trimmed]
      exact List.rdropWhile_idempotent _ _

theorem upper_trim_upper_trim (text : String) :
    upper (trim (upper (trim text))) = upper (trim text) := by
  unfold upper trim
  simp only [String.toList_ofList, trimChars_map_upperAscii, trimChars_trimChars, List.map_map]
  congr 1
  apply List.map_congr_left
  intro c _
  exact upperAscii_upperAscii c

end Text

/-! ## Schemes -/

namespace Scheme

theorem text_ofName (name : String) : (ofName name).text = name := by
  unfold ofName
  split
  all_goals rfl

theorem ofText?_eq_some_iff {source : String} {scheme : Scheme} :
    ofText? source = some scheme ↔
      upper (trim source) ≠ "" ∧ scheme = ofName (upper (trim source)) := by
  unfold ofText?
  simp only
  generalize upper (trim source) = name
  by_cases empty : name = ""
  · subst empty
    simp
  · have filled : name.isEmpty = false := by simpa using empty
    rw [filled]
    simp only [Bool.false_eq_true, ↓reduceIte, Option.some.injEq, ne_eq, empty, not_false_eq_true,
      true_and]
    exact eq_comm

/-- A scheme that was named is named again by its own text. -/
theorem ofText?_text
    {source : String} {scheme : Scheme} (named : ofText? source = some scheme) :
    ofText? scheme.text = some scheme := by
  obtain ⟨filled, same⟩ := ofText?_eq_some_iff.mp named
  have ownText : scheme.text = upper (trim source) := by
    rw [same, text_ofName]
  apply ofText?_eq_some_iff.mpr
  rw [ownText, upper_trim_upper_trim]
  exact ⟨filled, same⟩

theorem ofText?_empty : ofText? "" = none :=
  rfl

end Scheme

end PipelineRegistry
