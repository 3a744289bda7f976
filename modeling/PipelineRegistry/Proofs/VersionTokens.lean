import PipelineRegistry.Proofs.StoreLaws
import PipelineRegistry.Proofs.WordNumerals

/-!
# Version tokens

A token is a faithful text of its counter. `tokens_are_faithful` says that different counters have
different tokens, so that a store may compare tokens instead, that every counter of 64 bits is read
back from its token, and which other texts are read as which counter. The reading is also shown to
be that of a signed word, whose least value has no counterpart above zero.
-/

namespace PipelineRegistry

open PipelineRegistry.Text
open Percent (utf8 utf8_toList)

/-! ## Texts of integers -/

/-- A text denotes an integer: at least one digit, with at most one sign before them. -/
inductive Denotes : List Char → Int → Prop
  | bare {numeral : List Char} (isNumeral : Decimal.isNumeral numeral = true) :
      Denotes numeral (Decimal.value numeral)
  | plus {numeral : List Char} (isNumeral : Decimal.isNumeral numeral = true) :
      Denotes ('+' :: numeral) (Decimal.value numeral)
  | minus {numeral : List Char} (isNumeral : Decimal.isNumeral numeral = true) :
      Denotes ('-' :: numeral) (-(Decimal.value numeral : Int))

/-- A text apart from its sign. -/
def splitSign : List Char → Int × List Char
  | '-' :: numeral => (-1, numeral)
  | '+' :: numeral => (1, numeral)
  | text => (1, text)

theorem splitSign_of_noSign {text : List Char} (noSign : ∀ c ∈ text.head?, c ≠ '+' ∧ c ≠ '-') :
    splitSign text = (1, text) := by
  unfold splitSign
  split
  · exact absurd rfl (noSign '-' rfl).2
  · exact absurd rfl (noSign '+' rfl).1
  · rfl

/-- Every text has a sign or begins with something else. -/
theorem sign_cases (text : List Char) :
    (∃ numeral, text = '-' :: numeral) ∨ (∃ numeral, text = '+' :: numeral) ∨
      ∀ c ∈ text.head?, c ≠ '+' ∧ c ≠ '-' := by
  cases text with
  | nil =>
      refine Or.inr (Or.inr ?_)
      intro c impossible
      contradiction
  | cons c rest =>
      by_cases minus : c = '-'
      · exact Or.inl ⟨rest, by rw [minus]⟩
      by_cases plus : c = '+'
      · exact Or.inr (Or.inl ⟨rest, by rw [plus]⟩)
      refine Or.inr (Or.inr ?_)
      intro first same
      injection same with same
      rw [← same]
      exact ⟨plus, minus⟩

theorem denotes_iff {text : List Char} {x : Int} :
    Denotes text x ↔
      Decimal.isNumeral (splitSign text).2 = true ∧
        x = (splitSign text).1 * Decimal.value (splitSign text).2 := by
  constructor
  · intro denotes
    cases denotes with
    | bare isNumeral =>
        rw [splitSign_of_noSign (WordKind.noSign_of_isNumeral isNumeral)]
        exact ⟨isNumeral, (Int.one_mul _).symm⟩
    | plus isNumeral => exact ⟨isNumeral, (Int.one_mul _).symm⟩
    | minus isNumeral => exact ⟨isNumeral, (Int.neg_one_mul _).symm⟩
  · rintro ⟨isNumeral, rfl⟩
    rcases sign_cases text with ⟨numeral, rfl⟩ | ⟨numeral, rfl⟩ | noSign
    · have minus := Denotes.minus isNumeral
      rwa [← Int.neg_one_mul] at minus
    · have plus := Denotes.plus isNumeral
      rwa [← Int.one_mul (Decimal.value _ : Int)] at plus
    · rw [splitSign_of_noSign noSign] at isNumeral ⊢
      have bare := Denotes.bare isNumeral
      rwa [← Int.one_mul (Decimal.value _ : Int)] at bare

/-- What is written for an integer denotes it. -/
theorem denotes_ofInt (x : Int) : Denotes (Decimal.ofInt x).toList x := by
  cases x with
  | ofNat n =>
      have bare := Denotes.bare (Decimal.isNumeral_digits n)
      rw [Decimal.value_digits] at bare
      rwa [Decimal.ofInt, Decimal.ofNat, String.toList_ofList]
  | negSucc n =>
      have minus := Denotes.minus (Decimal.isNumeral_digits (n + 1))
      rw [Decimal.value_digits] at minus
      rwa [Decimal.ofInt, String.toList_ofList]

/-! ## Reading tokens -/

/-- A signed word is read from a text as from its sign and the rest. -/
theorem toOption_read_signed (text : List Char) :
    (WordKind.signed.read (utf8 text)).toOption =
      WordKind.signed.signedValue? (splitSign text).1 (splitSign text).2 := by
  rcases sign_cases text with ⟨numeral, rfl⟩ | ⟨numeral, rfl⟩ | noSign
  · exact WordKind.toOption_read_minus (by decide) numeral
  · exact WordKind.toOption_read_plus _ numeral
  · rw [splitSign_of_noSign noSign]
    exact WordKind.toOption_read_unsigned _ noSign

theorem holds_signed_iff {x : Int} :
    WordKind.signed.Holds x ↔ -2 ^ 63 ≤ x ∧ x ≤ 2 ^ 63 - 1 :=
  Iff.rfl

theorem signedValue?_eq_some_iff {text : List Char} {x : Int} :
    WordKind.signed.signedValue? (splitSign text).1 (splitSign text).2 = some x ↔
      Denotes text x ∧ -2 ^ 63 ≤ x ∧ x ≤ 2 ^ 63 - 1 := by
  rw [denotes_iff, WordKind.signedValue?, ← holds_signed_iff]
  constructor
  · intro found
    split at found
    · next both =>
        injection found with same
        rw [← same]
        exact ⟨⟨both.1, rfl⟩, both.2⟩
    · contradiction
  · rintro ⟨⟨isNumeral, rfl⟩, held⟩
    exact if_pos ⟨isNumeral, held⟩

/-- Reading a size within the right limit is reading a signed value. -/
theorem natural?_eq_of_holds
    {limit : Nat} {sign : Int} {numeral : List Char}
    (held : Decimal.value numeral ≤ limit ↔
      WordKind.signed.Holds (sign * Decimal.value numeral)) :
    Decimal.natural? limit numeral =
      if Decimal.isNumeral numeral = true ∧
          WordKind.signed.Holds (sign * Decimal.value numeral) then
        some (Decimal.value numeral)
      else none := by
  rw [Decimal.natural?_eq]
  exact if_congr (and_congr_right fun _ => held) rfl rfl

namespace Version

/-- There is one more number below zero than above it. -/
theorem counter?_eq (version : Version) :
    version.counter? =
      WordKind.signed.signedValue? (splitSign version.token.toList).1
        (splitSign version.token.toList).2 := by
  have power : (1 <<< 63 : Nat) = 2 ^ 63 := by decide
  have below (numeral : List Char) :
      Decimal.value numeral ≤ 1 <<< 63 ↔
        WordKind.signed.Holds (-1 * Decimal.value numeral) := by
    rw [holds_signed_iff, power]
    omega
  have above (numeral : List Char) :
      Decimal.value numeral ≤ (1 <<< 63) - 1 ↔
        WordKind.signed.Holds (1 * Decimal.value numeral) := by
    rw [holds_signed_iff, power]
    omega
  have unsigned (numeral : List Char) :
      (Decimal.natural? ((1 <<< 63) - 1) numeral).map Int.ofNat =
        WordKind.signed.signedValue? 1 numeral := by
    rw [natural?_eq_of_holds (above numeral), WordKind.signedValue?, Int.one_mul]
    split <;> rfl
  unfold counter?
  rcases sign_cases version.token.toList with ⟨numeral, text⟩ | ⟨numeral, text⟩ | noSign
  · rw [text]
    simp only [splitSign, natural?_eq_of_holds (below numeral), WordKind.signedValue?,
      Int.neg_one_mul]
    split <;> rfl
  · rw [text]
    exact unsigned numeral
  · rw [splitSign_of_noSign noSign]
    -- Neither pattern with a sign matches.
    split
    · next numeral text =>
        rw [text] at noSign
        exact absurd rfl (noSign '-' rfl).2
    · next numeral text =>
        rw [text] at noSign
        exact absurd rfl (noSign '+' rfl).1
    · exact unsigned _

/-- A store takes the counter of a token, or refuses it. -/
theorem counter_cases (version : Version) :
    (∃ counter, version.counter? = some counter ∧ version.counter = .ok counter) ∨
      version.counter? = none ∧ version.counter = .error (.invalidVersion version) := by
  unfold counter
  cases version.counter? with
  | none => exact Or.inr ⟨rfl, rfl⟩
  | some counter => exact Or.inl ⟨counter, rfl, rfl⟩

theorem toOption_counter (version : Version) : version.counter.toOption = version.counter? := by
  rcases version.counter_cases with ⟨counter, found, accepted⟩ | ⟨missing, refused⟩
  · rw [accepted, found]
    rfl
  · rw [refused, missing]
    rfl

theorem counter_eq_ok_iff {version : Version} {counter : Int} :
    version.counter = .ok counter ↔
      Denotes version.token.toList counter ∧ -2 ^ 63 ≤ counter ∧ counter ≤ 2 ^ 63 - 1 := by
  rw [← signedValue?_eq_some_iff, ← counter?_eq, ← toOption_counter]
  cases version.counter with
  | ok other => simp [Except.toOption]
  | error reason => simp [Except.toOption]

end Version

theorem Store.update_ofCounter
    {store : Store} {key : PipelineKey} {stored : Stored} (found : store.find? key = some stored)
    (document : PipelineDocument) (presented : Int) :
    store.update key document (.ofCounter presented) =
      if stored.counter = presented then
        .ok (store.insert key ⟨document, stored.counter + 1⟩, .ofCounter (stored.counter + 1))
      else .error (.conflict key (.ofCounter presented)) := by
  unfold update
  rw [found]
  simp only [Stored.version, Version.ofCounter_inj]

/-- Tokens stand for counters one to one, and every counter of 64 bits is read back. A text is read
if it denotes an integer of 64 bits with a sign, as that integer, and else it is refused; words with
checked operations read the same. A store that compares tokens compares counters. -/
theorem tokens_are_faithful :
    (∀ left right : Int64,
      Version.ofCounter left.toInt = Version.ofCounter right.toInt ↔ left = right) ∧
    (∀ counter : Int64, (Version.ofCounter counter.toInt).counter = .ok counter.toInt) ∧
    (∀ (version : Version) (counter : Int),
      version.counter = .ok counter ↔
        Denotes version.token.toList counter ∧ -2 ^ 63 ≤ counter ∧ counter ≤ 2 ^ 63 - 1) ∧
    (∀ version : Version,
      (∃ counter, version.counter = .ok counter) ∨
        version.counter = .error (.invalidVersion version)) ∧
    (∀ version : Version,
      version.counter.toOption =
        (WordKind.signed.read version.token.toUTF8.data.toList).toOption) ∧
    ∀ (store : Store) (key : PipelineKey) (stored : Stored) (document : PipelineDocument)
      (presented : Int64),
      store.find? key = some stored →
      store.update key document (.ofCounter presented.toInt) =
        if stored.counter = presented.toInt then
          .ok (store.insert key ⟨document, stored.counter + 1⟩, .ofCounter (stored.counter + 1))
        else .error (.conflict key (.ofCounter presented.toInt)) := by
  refine ⟨?injective, ?roundTrip, ?language, ?refusal, ?words, ?store⟩
  case injective =>
    intro left right
    rw [Version.ofCounter_inj, Int64.toInt_inj]
  case roundTrip =>
    intro counter
    have low := counter.le_toInt
    have high := counter.toInt_lt
    rw [Version.counter_eq_ok_iff]
    exact ⟨denotes_ofInt counter.toInt, low, by omega⟩
  case language =>
    intro version counter
    exact Version.counter_eq_ok_iff
  case refusal =>
    intro version
    rcases version.counter_cases with ⟨counter, -, accepted⟩ | ⟨-, refused⟩
    · exact Or.inl ⟨counter, accepted⟩
    · exact Or.inr refused
  case words =>
    intro version
    rw [Version.toOption_counter, Version.counter?_eq, ← utf8_toList, toOption_read_signed]
  case store =>
    intro store key stored document presented found
    exact Store.update_ofCounter found document presented.toInt

/-! ## At the bounds -/

namespace TokenBounds

def key : PipelineKey :=
  ⟨"default", "sales"⟩

def stored : Stored :=
  ⟨{}, 2⟩

def store : Store :=
  ({} : Store).insert key stored

/-- One below the least counter. -/
def beyond : Version :=
  ⟨"-9223372036854775809"⟩

end TokenBounds

theorem tokens_are_faithful_bounds :
    (Version.ofCounter (-2 ^ 63)).counter = .ok (-2 ^ 63) ∧
      Version.counter ⟨"+007"⟩ = .ok 7 ∧
      TokenBounds.beyond.counter = .error (.invalidVersion TokenBounds.beyond) ∧
      TokenBounds.store.find? TokenBounds.key = some TokenBounds.stored ∧
      TokenBounds.store.update TokenBounds.key {} (.ofCounter 1) =
        .error (.conflict TokenBounds.key (.ofCounter 1)) := by
  obtain ⟨-, roundTrip, language, refusal, -, compares⟩ := tokens_are_faithful
  have found : TokenBounds.store.find? TokenBounds.key = some TokenBounds.stored := by decide
  have plus : Denotes "+007".toList 7 := by
    have text : "+007".toList = ['+', '0', '0', '7'] := by decide
    rw [text]
    exact @Denotes.plus ['0', '0', '7'] (by decide)
  have refused : ¬ ∃ counter, TokenBounds.beyond.counter = .ok counter := by
    rintro ⟨counter, accepted⟩
    obtain ⟨denotes, low, -⟩ := (language _ _).mp accepted
    rw [(denotes_iff.mp denotes).2] at low
    revert low
    decide
  exact ⟨roundTrip Int64.minValue, (language _ 7).mpr ⟨plus, by decide, by decide⟩,
    (refusal _).resolve_left refused, found,
    compares TokenBounds.store TokenBounds.key TokenBounds.stored {} 1 found⟩

end PipelineRegistry
