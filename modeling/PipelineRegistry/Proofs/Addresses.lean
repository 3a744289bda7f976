import PipelineRegistry.Client
import PipelineRegistry.Proofs.EncodedTexts

/-!
# Addresses of calls

A call is made at an address below the base address of a service: the parts of a key or an id become
segments of its path, and a selector becomes part of its query. Encoding keeps them apart. But a
segment that is one or two dots is left out, and tabs and line breaks are dropped from the others, so
two calls have the same address if this makes their paths the same.
-/

namespace PipelineRegistry

open PipelineRegistry.Text

namespace Url

/-! ## Encoded segments -/

section Segments

variable {known : Bool}

/-- A segment as it stands in an address. -/
def encodeSegment (known : Bool) (segment : List Char) : List Char :=
  Percent.encode (keepsInSegment known) segment

theorem encodeSegment_injective (known : Bool) : Function.Injective (encodeSegment known) := by
  apply Percent.encode_injective
  cases known
  all_goals decide

theorem encodeSegment_eq_iff_of_kept
    {segment word : List Char} (kept : encodeSegment known word = word) :
    encodeSegment known segment = word ↔ segment = word := by
  constructor
  · intro same
    exact encodeSegment_injective known (same.trans kept.symm)
  · rintro rfl
    exact kept

theorem encodeSegment_eq_nil_iff {segment : List Char} :
    encodeSegment known segment = [] ↔ segment = [] :=
  encodeSegment_eq_iff_of_kept rfl

theorem encodeSegment_eq_dot_iff {segment : List Char} :
    encodeSegment known segment = ['.'] ↔ segment = ['.'] := by
  apply encodeSegment_eq_iff_of_kept
  cases known
  all_goals decide

theorem encodeSegment_eq_dots_iff {segment : List Char} :
    encodeSegment known segment = ['.', '.'] ↔ segment = ['.', '.'] := by
  apply encodeSegment_eq_iff_of_kept
  cases known
  all_goals decide

/-- The marks that separate the parts of an address do not stand in an encoded segment. -/
theorem not_mem_encodeSegment (segment : List Char) :
    '/' ∉ encodeSegment known segment ∧ '?' ∉ encodeSegment known segment := by
  have unmarked : ∀ c ∈ encodeSegment known segment, c ≠ '/' ∧ c ≠ '?' := by
    apply Percent.forall_mem_encode
    · decide
    · decide
    · intro c _ kept
      constructor
      all_goals
        rintro rfl
        revert kept
        cases known
        all_goals decide
  exact ⟨fun member => (unmarked _ member).1 rfl, fun member => (unmarked _ member).2 rfl⟩

end Segments

/-! ## Written paths -/

theorem eq_of_append_mark_eq
    {mark : Char} {one other left right : List Char} (oneUnmarked : mark ∉ one)
    (otherUnmarked : mark ∉ other) (same : one ++ mark :: left = other ++ mark :: right) :
    one = other ∧ left = right := by
  induction one generalizing other with
  | nil =>
      cases other with
      | nil => exact ⟨rfl, (List.cons.inj same).2⟩
      | cons c more =>
          have first : mark = c := (List.cons.inj same).1
          exact absurd (first ▸ List.mem_cons_self) otherUnmarked
  | cons c rest inductionHypothesis =>
      cases other with
      | nil =>
          have first : c = mark := (List.cons.inj same).1
          exact absurd (first ▸ List.mem_cons_self) oneUnmarked
      | cons d more =>
          obtain ⟨first, others⟩ := List.cons.inj same
          have restUnmarked : mark ∉ rest := fun member => oneUnmarked (List.mem_cons_of_mem _ member)
          have moreUnmarked : mark ∉ more := fun member => otherUnmarked (List.mem_cons_of_mem _ member)
          obtain ⟨sameRest, sameTail⟩ := inductionHypothesis restUnmarked moreUnmarked others
          exact ⟨by rw [first, sameRest], sameTail⟩

theorem segments_eq_of_chars_eq
    {one other : List (List Char)} (oneUnmarked : ∀ segment ∈ one, '/' ∉ segment)
    (otherUnmarked : ∀ segment ∈ other, '/' ∉ segment)
    (same : (Path.segments one).chars = (Path.segments other).chars) : one = other := by
  induction one generalizing other with
  | nil =>
      cases other with
      | nil => rfl
      | cons second more => cases same
  | cons first rest inductionHypothesis =>
      cases other with
      | nil => cases same
      | cons second more =>
          obtain ⟨firstUnmarked, restUnmarked⟩ := List.forall_mem_cons.mp oneUnmarked
          obtain ⟨secondUnmarked, moreUnmarked⟩ := List.forall_mem_cons.mp otherUnmarked
          simp only [Path.chars, List.flatMap_cons, List.cons_append, List.cons.injEq,
            true_and] at same
          -- Each of the two first segments ends where the next slash is, if there is one.
          cases rest with
          | nil =>
              cases more with
              | nil =>
                  simp only [List.flatMap_nil, List.append_nil] at same
                  rw [same]
              | cons third others =>
                  rw [List.flatMap_nil, List.append_nil] at same
                  rw [same] at firstUnmarked
                  simp at firstUnmarked
          | cons next others =>
              cases more with
              | nil =>
                  rw [List.flatMap_nil, List.append_nil] at same
                  rw [← same] at secondUnmarked
                  simp at secondUnmarked
              | cons third further =>
                  rw [List.flatMap_cons, List.flatMap_cons, List.cons_append, List.cons_append]
                    at same
                  obtain ⟨sameFirst, sameRest⟩ :=
                    eq_of_append_mark_eq firstUnmarked secondUnmarked same
                  have sameChars : (Path.segments (next :: others)).chars =
                      (Path.segments (third :: further)).chars := by
                    simp only [Path.chars, List.flatMap_cons, List.cons_append, sameRest]
                  rw [sameFirst, inductionHypothesis restUnmarked moreUnmarked sameChars]

theorem not_mem_chars
    {segments : List (List Char)} (unmarked : ∀ segment ∈ segments, '?' ∉ segment) :
    '?' ∉ (Path.segments segments).chars := by
  intro member
  obtain ⟨segment, inSegments, inWritten⟩ := List.mem_flatMap.mp member
  rcases List.mem_cons.mp inWritten with slash | inSegment
  · cases slash
  · exact unmarked segment inSegments inSegment

/-! ## Paths that are not encoded -/

/-- What an address shows of a text. -/
def visible (text : String) : List Char :=
  text.toList.filter fun c => !isDropped c

/-- A text that is left out of addresses. -/
def isLeftOut (text : String) : Bool :=
  text = "." || text = ".."

/-- A path with one more text behind it, which is not encoded. -/
def appendPlain (segments : List (List Char)) (text : String) : List (List Char) :=
  if isLeftOut text then segments else pushSegment segments (visible text)

theorem appendSegment_eq (known : Bool) (segments : List (List Char)) (text : String) :
    appendSegment known segments text =
      if isLeftOut text then segments
      else pushSegment segments (encodeSegment known (visible text)) :=
  rfl

/-- The path that texts make behind the segments of a base address, before they are
encoded. -/
def plainPath (segments : List (List Char)) (texts : List String) : List (List Char) :=
  texts.foldl appendPlain (withoutTrailingEmpty segments)

/-- The segments of a base address that stay when others come behind them. -/
def trunk (segments : List (List Char)) : List (List Char) :=
  if withoutTrailingEmpty segments = [[]] then [] else withoutTrailingEmpty segments

/-- A path and what it is encoded as go on behind the same beginning. Without a beginning, only the
whole path can be one empty segment. -/
structure Continues (known : Bool) (start encoded plain rest : List (List Char)) : Prop where
  ne_nil : rest ≠ []
  encoded_eq : encoded = start ++ rest.map (encodeSegment known)
  plain_eq : plain = start ++ rest
  begins : start = [] → rest = [[]] ∨ rest.head? ≠ some []

section Continues

variable {known : Bool} {start encoded plain rest segments kept : List (List Char)}

theorem continues_concat
    (begins : start = [] → kept.head? ≠ some []) (segment : List Char) :
    Continues known start (start ++ kept.map (encodeSegment known) ++ [encodeSegment known segment])
      (start ++ kept ++ [segment]) (kept ++ [segment]) where
  ne_nil := by simp
  encoded_eq := by simp
  plain_eq := by simp
  begins := by
    intro isRoot
    have keeps := begins isRoot
    cases kept with
    | nil =>
        by_cases empty : segment = []
        · exact Or.inl (by rw [empty, List.nil_append])
        · exact Or.inr (by simpa using empty)
    | cons first more => exact Or.inr keeps

/-- What stays of a path when a segment is put behind it. -/
theorem Continues.exists_kept (continues : Continues known start encoded plain rest) :
    ∃ kept : List (List Char),
      (if encoded = [[]] then [] else encoded) = start ++ kept.map (encodeSegment known) ∧
      (if plain = [[]] then [] else plain) = start ++ kept ∧
      (kept = [] → start = []) ∧ (start = [] → kept.head? ≠ some []) := by
  obtain ⟨notNil, rfl, rfl, begins⟩ := continues
  cases start with
  | nil =>
      by_cases root : rest = [[]]
      · refine ⟨[], ?_, ?_, fun _ => rfl, fun _ => by simp⟩
        · rw [root]
          rfl
        · rw [root]
          rfl
      · have filled := (begins rfl).resolve_left root
        refine ⟨rest, ?_, ?_, fun none => absurd none notNil, fun _ => filled⟩
        · cases rest with
          | nil => exact absurd rfl notNil
          | cons first more =>
              have named : encodeSegment known first ≠ [] := by
                rw [Ne, encodeSegment_eq_nil_iff]
                simpa using filled
              simp [named]
        · simp [root]
  | cons first more =>
      refine ⟨rest, ?_, ?_, fun none => absurd none notNil, fun none => by cases none⟩
      · simp [notNil]
      · simp [notNil]

theorem dropLast_append_of_alone
    {front back : List (List Char)} (alone : back = [] → front = []) :
    (front ++ back).dropLast = front ++ back.dropLast := by
  by_cases none : back = []
  · rw [none, alone none]
    rfl
  · rw [List.dropLast_append_of_ne_nil none]

theorem Continues.push
    (continues : Continues known start encoded plain rest) (segment : List Char) :
    ∃ longer, Continues known start (pushSegment encoded (encodeSegment known segment))
      (pushSegment plain segment) longer := by
  obtain ⟨kept, encodedKept, plainKept, alone, begins⟩ := continues.exists_kept
  unfold pushSegment
  simp only [encodedKept, plainKept, encodeSegment_eq_dots_iff, encodeSegment_eq_dot_iff]
  by_cases up : segment = ['.', '.']
  case pos =>
    have shorter := dropLast_append_of_alone alone
    have shorterEncoded : (start ++ kept.map (encodeSegment known)).dropLast =
        start ++ kept.dropLast.map (encodeSegment known) := by
      have aloneEncoded : kept.map (encodeSegment known) = [] → start = [] :=
        fun none => alone (List.map_eq_nil_iff.mp none)
      rw [dropLast_append_of_alone aloneEncoded, List.map_dropLast]
    have beginsShorter : start = [] → kept.dropLast.head? ≠ some [] := by
      intro isRoot
      have keeps := begins isRoot
      cases kept with
      | nil => simp
      | cons first more =>
          cases more with
          | nil => simp
          | cons second others => exact keeps
    rw [if_pos up, if_pos up, shorter, shorterEncoded]
    exact ⟨_, continues_concat beginsShorter []⟩
  case neg =>
    rw [if_neg up, if_neg up]
    by_cases stay : segment = ['.']
    case pos =>
      rw [if_pos stay, if_pos stay]
      exact ⟨_, continues_concat begins []⟩
    case neg =>
      rw [if_neg stay, if_neg stay]
      exact ⟨_, continues_concat begins segment⟩

theorem Continues.append
    (continues : Continues known start encoded plain rest) (text : String) :
    ∃ longer, Continues known start (appendSegment known encoded text) (appendPlain plain text)
      longer := by
  rw [appendSegment_eq, appendPlain]
  by_cases leftOut : isLeftOut text = true
  · rw [if_pos leftOut, if_pos leftOut]
    exact ⟨rest, continues⟩
  · rw [if_neg leftOut, if_neg leftOut]
    exact continues.push (visible text)

theorem Continues.appendAll
    (continues : Continues known start encoded plain rest) (texts : List String) :
    ∃ longer, Continues known start (texts.foldl (appendSegment known) encoded)
      (texts.foldl appendPlain plain) longer := by
  induction texts generalizing encoded plain rest with
  | nil => exact ⟨rest, continues⟩
  | cons text more inductionHypothesis =>
      obtain ⟨longer, further⟩ := continues.append text
      exact inductionHypothesis further

end Continues

/-! ## Texts that are shown -/

/-- The segment that an address shows of a text, unless it leaves the text out. -/
def shown (text : String) : List (List Char) :=
  if isLeftOut text then [] else [visible text]

/-- A text of which an address shows more than dots, if it does not leave it out. -/
def Settled (text : String) : Prop :=
  ['.'] ∉ shown text ∧ ['.', '.'] ∉ shown text

section Shown

variable {segments : List (List Char)} {text : String} {texts : List String}

theorem appendPlain_of_settled (settled : Settled text) (filled : segments ≠ [[]]) :
    appendPlain segments text = segments ++ shown text := by
  unfold Settled shown at settled
  unfold appendPlain shown
  by_cases leftOut : isLeftOut text = true
  · rw [if_pos leftOut, if_pos leftOut, List.append_nil]
  · rw [if_neg leftOut, List.mem_singleton, List.mem_singleton] at settled
    obtain ⟨notDot, notDots⟩ := settled
    rw [if_neg leftOut, if_neg leftOut, pushSegment]
    simp only [filled, ↓reduceIte]
    rw [if_neg (Ne.symm notDots), if_neg (Ne.symm notDot)]

theorem foldl_appendPlain_of_settled
    (settled : ∀ text ∈ texts, Settled text) (begun : segments ≠ []) (filled : segments ≠ [[]]) :
    texts.foldl appendPlain segments = segments ++ texts.flatMap shown := by
  induction texts generalizing segments with
  | nil => rw [List.foldl_nil, List.flatMap_nil, List.append_nil]
  | cons text more inductionHypothesis =>
      obtain ⟨settledText, settledMore⟩ := List.forall_mem_cons.mp settled
      have longer : segments ++ shown text ≠ [[]] := by
        intro single
        rcases List.append_eq_singleton_iff.mp single with ⟨none, -⟩ | ⟨same, -⟩
        · exact begun none
        · exact filled same
      rw [List.foldl_cons, appendPlain_of_settled settledText filled,
        inductionHypothesis settledMore (by simp [begun]) longer, List.flatMap_cons,
        List.append_assoc]

/-- A text that an address shows as it is. -/
def Plain (text : String) : Prop :=
  isLeftOut text = false ∧ visible text = text.toList

theorem Plain.shown_eq (plain : Plain text) : shown text = [text.toList] := by
  rw [shown, plain.1, plain.2]
  rfl

theorem Plain.settled (plain : Plain text) : Settled text := by
  unfold Settled
  rw [plain.shown_eq, List.mem_singleton, List.mem_singleton]
  constructor
  all_goals
    intro same
    have dots := congrArg String.ofList same
    rw [String.ofList_toList] at dots
    have leftOut := plain.1
    rw [← dots] at leftOut
    revert leftOut
    decide

theorem flatMap_shown_of_plain (plain : ∀ text ∈ texts, Plain text) :
    texts.flatMap shown = texts.map String.toList := by
  induction texts with
  | nil => rfl
  | cons text more inductionHypothesis =>
      obtain ⟨plainText, plainMore⟩ := List.forall_mem_cons.mp plain
      rw [List.flatMap_cons, plainText.shown_eq, inductionHypothesis plainMore, List.map_cons]
      rfl

/-- A first text that is plain begins the path. -/
theorem continues_trunk (known : Bool) (segments : List (List Char)) (plain : Plain text) :
    Continues known (trunk segments) (appendSegment known (withoutTrailingEmpty segments) text)
      (appendPlain (withoutTrailingEmpty segments) text) [text.toList] := by
  obtain ⟨notDot, notDots⟩ := plain.settled
  rw [plain.shown_eq, List.mem_singleton] at notDot notDots
  have begins : trunk segments = [] → ([] : List (List Char)).head? ≠ some [] := fun _ => by simp
  have begun : Continues known (trunk segments)
      (trunk segments ++ [encodeSegment known text.toList]) (trunk segments ++ [text.toList])
      [text.toList] := by
    simpa using continues_concat begins text.toList
  rw [appendSegment_eq, appendPlain, plain.1, plain.2, pushSegment, pushSegment]
  simp only [encodeSegment_eq_dots_iff, encodeSegment_eq_dot_iff, Ne.symm notDot, Ne.symm notDots,
    Bool.false_eq_true, ↓reduceIte]
  exact begun

/-- Behind a first text that is plain, texts that are settled are found as they are shown. -/
theorem plainPath_of_settled
    (segments : List (List Char)) (plain : Plain text) (named : text ≠ "")
    (settled : ∀ text ∈ texts, Settled text) :
    plainPath segments (text :: texts) = trunk segments ++ (text :: texts).flatMap shown := by
  have begun := (continues_trunk false segments plain).plain_eq
  have filled : trunk segments ++ [text.toList] ≠ [[]] := by
    intro single
    have last := congrArg List.getLast? single
    rw [List.getLast?_concat] at last
    exact named (String.toList_eq_nil_iff.mp (Option.some.inj last))
  rw [plainPath, List.foldl_cons, begun, foldl_appendPlain_of_settled settled (by simp) filled,
    List.flatMap_cons, plain.shown_eq, List.append_assoc]

end Shown

/-! ## Written addresses -/

/-- An address with another path and another query. -/
def withPath (base : Url) (segments : List (List Char)) (query : Option (List Char)) : Url :=
  { base with path := .segments segments, query := query }

section Written

variable {base : Url} {known : Bool}
  {start encoded plain rest otherEncoded otherPlain otherRest : List (List Char)}
  {query otherQuery : Option (List Char)}

theorem eq_of_chars_eq
    (same : (Path.segments (rest.map (encodeSegment known))).chars ++ marked '?' query =
      (Path.segments (otherRest.map (encodeSegment known))).chars ++ marked '?' otherQuery) :
    rest = otherRest ∧ query = otherQuery := by
  have unmarked (segments : List (List Char)) :
      ∀ segment ∈ segments.map (encodeSegment known), '/' ∉ segment ∧ '?' ∉ segment := by
    intro segment member
    obtain ⟨plain, -, rfl⟩ := List.mem_map.mp member
    exact not_mem_encodeSegment plain
  have restUnmarked := unmarked rest
  have otherUnmarked := unmarked otherRest
  have restWhole : '?' ∉ (Path.segments (rest.map (encodeSegment known))).chars :=
    not_mem_chars fun segment member => (restUnmarked segment member).2
  have otherWhole : '?' ∉ (Path.segments (otherRest.map (encodeSegment known))).chars :=
    not_mem_chars fun segment member => (otherUnmarked segment member).2
  have parted : (Path.segments (rest.map (encodeSegment known))).chars =
      (Path.segments (otherRest.map (encodeSegment known))).chars ∧ query = otherQuery := by
    cases query with
    | none =>
        cases otherQuery with
        | none => exact ⟨List.append_cancel_right same, rfl⟩
        | some otherPart =>
            rw [marked, marked, List.append_nil] at same
            rw [same] at restWhole
            simp at restWhole
    | some part =>
        cases otherQuery with
        | none =>
            rw [marked, marked, List.append_nil] at same
            rw [← same] at otherWhole
            simp at otherWhole
        | some otherPart =>
            obtain ⟨sameChars, samePart⟩ := eq_of_append_mark_eq restWhole otherWhole same
            exact ⟨sameChars, by rw [samePart]⟩
  obtain ⟨sameChars, sameQuery⟩ := parted
  have sameSegments := segments_eq_of_chars_eq
    (fun segment member => (restUnmarked segment member).1)
    (fun segment member => (otherUnmarked segment member).1) sameChars
  have sameRest := (List.map_inj_right fun _ _ => @encodeSegment_injective known _ _).mp sameSegments
  exact ⟨sameRest, sameQuery⟩

/-- Whether a dot keeps the path apart from the scheme depends on the beginning only. -/
theorem authorityChars_withPath
    (continues : Continues known start encoded plain rest)
    (otherContinues : Continues known start otherEncoded otherPlain otherRest) :
    (base.withPath encoded query).authorityChars = (base.withPath otherEncoded otherQuery).authorityChars := by
  have dotless {encoded plain rest : List (List Char)} {query : Option (List Char)}
      (hostless : base.host = none) (continues : Continues known [] encoded plain rest) :
      (base.withPath encoded query).authorityChars = [] := by
    obtain ⟨notNil, rfl, -, begins⟩ := continues
    simp only [authorityChars, withPath, hostless, List.nil_append]
    cases rest with
    | nil => rfl
    | cons first more =>
        rcases begins rfl with root | filled
        · cases root
          rfl
        · have named : encodeSegment known first ≠ [] := by
            rw [Ne, encodeSegment_eq_nil_iff]
            simpa using filled
          rw [List.map_cons]
          cases encodedFirst : encodeSegment known first with
          | nil => exact absurd encodedFirst named
          | cons c others => rfl
  cases located : base.host with
  | some host => simp only [authorityChars, withPath, located]
  | none =>
      cases start with
      | nil => rw [dotless located continues, dotless located otherContinues]
      | cons first more =>
          obtain ⟨notNil, rfl, -, -⟩ := continues
          obtain ⟨otherNotNil, rfl, -, -⟩ := otherContinues
          simp only [authorityChars, withPath, located, List.cons_append]
          cases first with
          | cons c others => rfl
          | nil =>
              cases more with
              | cons second others => rfl
              | nil =>
                  cases rest with
                  | nil => exact absurd rfl notNil
                  | cons next further =>
                      cases otherRest with
                      | nil => exact absurd rfl otherNotNil
                      | cons otherNext otherFurther => rfl

theorem chars_append (segments : List (List Char)) :
    (Path.segments (start ++ segments)).chars =
      (Path.segments start).chars ++ (Path.segments segments).chars :=
  List.flatMap_append

/-- Addresses behind the same beginning are written the same, and have the same target, only if they
are the same before their paths are encoded. -/
theorem written_eq_iff
    {part : Url → String} (written : part ∈ [Url.text, Url.target])
    (continues : Continues known start encoded plain rest)
    (otherContinues : Continues known start otherEncoded otherPlain otherRest) :
    part (base.withPath encoded query) = part (base.withPath otherEncoded otherQuery) ↔
      plain = otherPlain ∧ query = otherQuery := by
  constructor
  · intro same
    have sameTarget :
        (Path.segments (rest.map (encodeSegment known))).chars ++ marked '?' query =
          (Path.segments (otherRest.map (encodeSegment known))).chars ++ marked '?' otherQuery := by
      have authority : (base.withPath encoded query).authorityChars =
          (base.withPath otherEncoded otherQuery).authorityChars :=
        authorityChars_withPath continues otherContinues
      have whole : (Path.segments encoded).chars ++ marked '?' query =
          (Path.segments otherEncoded).chars ++ marked '?' otherQuery := by
        simp only [List.mem_cons, List.not_mem_nil, or_false] at written
        rcases written with rfl | rfl
        · have texts := String.ofList_injective same
          rw [authority] at texts
          have unended := List.append_cancel_right texts
          rw [List.append_assoc, List.append_assoc (_ ++ _)] at unended
          exact List.append_cancel_left unended
        · exact String.ofList_injective same
      rw [continues.encoded_eq, otherContinues.encoded_eq, chars_append, chars_append,
        List.append_assoc, List.append_assoc] at whole
      exact List.append_cancel_left whole
    obtain ⟨rfl, rfl⟩ := eq_of_chars_eq sameTarget
    rw [continues.plain_eq, otherContinues.plain_eq]
    exact ⟨rfl, rfl⟩
  · rintro ⟨samePlain, rfl⟩
    rw [continues.plain_eq, otherContinues.plain_eq, List.append_cancel_left_eq] at samePlain
    rw [continues.encoded_eq, otherContinues.encoded_eq, samePlain]

end Written

end Url

/-! ## Addresses of calls -/

namespace ServiceCall

/-- The texts that a call puts behind the path of the base address. -/
def texts : ServiceCall → List String
  | refreshSources key => ["pipelines", key.namespaceName, key.name, "refresh"]
  | terminateWorkers key _ | workerActive key _ =>
      ["pipelines", key.namespaceName, key.name, "workers"]
  | sourceMetrics id => ["extractsources", id, "metrics"]

/-- The selector that a call puts into the query. -/
def selector? : ServiceCall → Option String
  | terminateWorkers _ selector | workerActive _ selector => some selector
  | refreshSources _ | sourceMetrics _ => none

def query (base : Url) (call : ServiceCall) : Option (List Char) :=
  match call.selector? with
  | some selector => (base.appendPair "labelSelector" selector).query
  | none => base.query

end ServiceCall

/-- Two calls are made, and a part of their addresses is the same. -/
def Agree (part : Url → String) (base : Url) (one other : ServiceCall) : Prop :=
  ∃ first second,
    Client.request base one = .ok first ∧ Client.request base other = .ok second ∧
      part first.url = part second.url

section Calls

variable {base : Url} {segments : List (List Char)} {part : Url → String}
  {one other call : ServiceCall}

theorem request_eq (path : base.path = .segments segments) (call : ServiceCall) :
    ∃ method, Client.request base call =
      .ok ⟨method, base.withPath
        (call.texts.foldl (Url.appendSegment (Url.isKnown base.scheme))
          (Url.withoutTrailingEmpty segments)) (call.query base)⟩ := by
  have extended (texts : List String) : base.extend? texts =
      some { base with
        path := .segments (texts.foldl (Url.appendSegment (Url.isKnown base.scheme))
          (Url.withoutTrailingEmpty segments)) } := by
    rw [Url.extend?, path]
  cases call with
  | refreshSources key =>
      exact ⟨.post, by
        simp only [Client.request, Client.pipelineEndpoint, Client.endpoint, extended]; rfl⟩
  | terminateWorkers key selector =>
      exact ⟨.delete, by
        simp only [Client.request, Client.workersEndpoint, Client.pipelineEndpoint,
          Client.endpoint, extended]; rfl⟩
  | workerActive key selector =>
      exact ⟨.get, by
        simp only [Client.request, Client.workersEndpoint, Client.pipelineEndpoint,
          Client.endpoint, extended]; rfl⟩
  | sourceMetrics id =>
      exact ⟨.get, by simp only [Client.request, Client.endpoint, extended]; rfl⟩

theorem appendPair_ne (base : Url) (key value : String) :
    (base.appendPair key value).query ≠ base.query := by
  intro same
  have lengths := congrArg (Option.map List.length) same
  cases present : base.query with
  | none => simp [Url.appendPair, present] at lengths
  | some part =>
      cases part with
      | nil => simp [Url.appendPair, present, Form.encodePair] at lengths
      | cons c rest => simp [Url.appendPair, present] at lengths

theorem appendPair_inj (base : Url) (key : String) {value otherValue : String} :
    (base.appendPair key value).query = (base.appendPair key otherValue).query ↔
      value = otherValue := by
  constructor
  · intro same
    have samePair : Form.encodePair key.toList value.toList =
        Form.encodePair key.toList otherValue.toList := by
      cases present : base.query with
      | none => simpa [Url.appendPair, present] using same
      | some part =>
          cases part with
          | nil => simpa [Url.appendPair, present] using same
          | cons c rest => simpa [Url.appendPair, present] using same
    have sameValue := (List.cons.inj (List.append_cancel_left samePair)).2
    exact String.toList_inj.mp (Form.encode_injective sameValue)
  · rintro rfl
    rfl

theorem query_eq_iff :
    one.query base = other.query base ↔ one.selector? = other.selector? := by
  unfold ServiceCall.query
  cases one.selector? with
  | none =>
      cases other.selector? with
      | none => simp
      | some otherSelector =>
          exact iff_of_false (appendPair_ne base _ _).symm (by simp)
  | some selector =>
      cases other.selector? with
      | none => exact iff_of_false (appendPair_ne base _ _) (by simp)
      | some otherSelector =>
          rw [appendPair_inj, Option.some.injEq]

theorem texts_eq_cons (call : ServiceCall) :
    ∃ word more, call.texts = word :: more ∧ Url.Plain word ∧ word ≠ "" := by
  have pipelines : Url.Plain "pipelines" := ⟨by decide, by decide⟩
  have sources : Url.Plain "extractsources" := ⟨by decide, by decide⟩
  cases call with
  | refreshSources _ | terminateWorkers _ _ | workerActive _ _ =>
      exact ⟨"pipelines", _, rfl, pipelines, by decide⟩
  | sourceMetrics _ => exact ⟨"extractsources", _, rfl, sources, by decide⟩

theorem continues_of_call (known : Bool) (segments : List (List Char)) (call : ServiceCall) :
    ∃ rest, Url.Continues known (Url.trunk segments)
      (call.texts.foldl (Url.appendSegment known) (Url.withoutTrailingEmpty segments))
      (Url.plainPath segments call.texts) rest := by
  obtain ⟨word, more, texts, plain, -⟩ := texts_eq_cons call
  rw [texts]
  exact (Url.continues_trunk known segments plain).appendAll more

theorem plainPath_of_call (settled : ∀ text ∈ call.texts, Url.Settled text) :
    Url.plainPath segments call.texts = Url.trunk segments ++ call.texts.flatMap Url.shown := by
  obtain ⟨word, more, texts, plain, named⟩ := texts_eq_cons call
  rw [texts] at settled ⊢
  exact Url.plainPath_of_settled segments plain named (List.forall_mem_cons.mp settled).2

theorem workerSelector_injective : Function.Injective workerSelector := by
  intro one other same
  exact (String.append_right_inj _).mp same

/-- Two calls are made at the same address, be it as a whole or what of it is sent, if and only if
their selectors are the same and their paths are the same before they are encoded. -/
theorem agree_iff
    (path : base.path = .segments segments) (written : part ∈ [Url.text, Url.target])
    (one other : ServiceCall) :
    Agree part base one other ↔
      Url.plainPath segments one.texts = Url.plainPath segments other.texts ∧
        one.selector? = other.selector? := by
  obtain ⟨method, requested⟩ := request_eq path one
  obtain ⟨otherMethod, otherRequested⟩ := request_eq path other
  obtain ⟨rest, continues⟩ := continues_of_call (Url.isKnown base.scheme) segments one
  obtain ⟨otherRest, otherContinues⟩ := continues_of_call (Url.isKnown base.scheme) segments other
  rw [← query_eq_iff, ← Url.written_eq_iff written continues otherContinues]
  constructor
  · rintro ⟨first, second, sentFirst, sentSecond, agree⟩
    rw [requested] at sentFirst
    rw [otherRequested] at sentSecond
    cases sentFirst
    cases sentSecond
    exact agree
  · intro agree
    exact ⟨_, _, requested, otherRequested, agree⟩

theorem agree_iff_of_settled
    (path : base.path = .segments segments) (written : part ∈ [Url.text, Url.target])
    (settled : ∀ text ∈ one.texts ++ other.texts, Url.Settled text) :
    Agree part base one other ↔
      one.texts.flatMap Url.shown = other.texts.flatMap Url.shown ∧
        one.selector? = other.selector? := by
  obtain ⟨settledOne, settledOther⟩ := List.forall_mem_append.mp settled
  rw [agree_iff path written, plainPath_of_call settledOne, plainPath_of_call settledOther,
    List.append_cancel_left_eq]

/-- The address of a call shows its selector, and of its texts all that is not dropped, unless this
leaves but dots. Calls have different addresses if their texts are plain and differ. -/
theorem addresses_agree_iff
    (path : base.path = .segments segments) (written : part ∈ [Url.text, Url.target])
    (one other : ServiceCall) :
    (Agree part base one other ↔
      Url.plainPath segments one.texts = Url.plainPath segments other.texts ∧
        one.selector? = other.selector?) ∧
    ((∀ text ∈ one.texts ++ other.texts, Url.Settled text) →
      (Agree part base one other ↔
        one.texts.flatMap Url.shown = other.texts.flatMap Url.shown ∧
          one.selector? = other.selector?)) ∧
    ((∀ text ∈ one.texts ++ other.texts, Url.Plain text) →
      (Agree part base one other ↔
        one.texts = other.texts ∧ one.selector? = other.selector?)) ∧
    ∀ name otherName,
      one.selector? = some (workerSelector name) →
      other.selector? = some (workerSelector otherName) →
      Agree part base one other → name = otherName := by
  refine ⟨agree_iff path written one other, agree_iff_of_settled path written, ?_, ?_⟩
  · intro plain
    obtain ⟨plainOne, plainOther⟩ := List.forall_mem_append.mp plain
    rw [agree_iff_of_settled path written fun text member => (plain text member).settled,
      Url.flatMap_shown_of_plain plainOne, Url.flatMap_shown_of_plain plainOther,
      List.map_inj_right fun _ _ => String.toList_inj.mp]
  · intro name otherName selects otherSelects agree
    have same := ((agree_iff path written one other).mp agree).2
    rw [selects, otherSelects, Option.some.injEq] at same
    exact workerSelector_injective same

end Calls

/-! ## Keys with slashes, dots and tabs -/

namespace OneRuntime

def base : Url where
  scheme := ['h', 't', 't', 'p']
  userinfo := []
  host := some (.name "runtime")
  port := none
  path := .segments [[]]
  query := none
  fragment := none

theorem path_base : base.path = .segments [[]] :=
  rfl

theorem text_written : Url.text ∈ [Url.text, Url.target] :=
  List.mem_cons_self

def slashFirst : ServiceCall :=
  .refreshSources ⟨"a/b", "c"⟩

def slashSecond : ServiceCall :=
  .refreshSources ⟨"a", "b/c"⟩

def dotFirst : ServiceCall :=
  .refreshSources ⟨"..", "c"⟩

def dotSecond : ServiceCall :=
  .refreshSources ⟨"c", "."⟩

theorem plain_slashes : ∀ text ∈ slashFirst.texts ++ slashSecond.texts, Url.Plain text := by
  intro text member
  simp only [slashFirst, slashSecond, ServiceCall.texts, List.cons_append, List.nil_append,
    List.mem_cons, List.not_mem_nil, or_false] at member
  rcases member with rfl | rfl | rfl | rfl | rfl | rfl | rfl | rfl
  all_goals exact ⟨by decide, by decide⟩

theorem settled_dots : ∀ text ∈ dotFirst.texts ++ dotSecond.texts, Url.Settled text := by
  unfold Url.Settled
  decide

end OneRuntime

theorem addresses_agree_iff_slashes_and_dots :
    (OneRuntime.base.path = .segments [[]] ∧ Url.text ∈ [Url.text, Url.target]) ∧
    ¬ Agree Url.text OneRuntime.base OneRuntime.slashFirst OneRuntime.slashSecond ∧
    Agree Url.text OneRuntime.base OneRuntime.dotFirst OneRuntime.dotSecond := by
  refine ⟨⟨OneRuntime.path_base, OneRuntime.text_written⟩, ?_, ?_⟩
  · obtain ⟨-, -, plainly, -⟩ := addresses_agree_iff OneRuntime.path_base OneRuntime.text_written
      OneRuntime.slashFirst OneRuntime.slashSecond
    rw [plainly OneRuntime.plain_slashes]
    decide
  · obtain ⟨-, visibly, -, -⟩ := addresses_agree_iff OneRuntime.path_base OneRuntime.text_written
      OneRuntime.dotFirst OneRuntime.dotSecond
    rw [visibly OneRuntime.settled_dots]
    decide

/-- Two keys of which one has a tab are refreshed at the same address. -/
theorem addresses_ambiguous :
    ¬ ∀ (base : Url) segments, base.path = .segments segments → ∀ key other,
      Agree Url.text base (.refreshSources key) (.refreshSources other) → key = other := by
  intro apart
  have agree : Agree Url.text OneRuntime.base
      (.refreshSources ⟨"a\tb", "c"⟩) (.refreshSources ⟨"ab", "c"⟩) := by
    rw [agree_iff OneRuntime.path_base OneRuntime.text_written]
    decide
  have same := apart _ _ OneRuntime.path_base _ _ agree
  revert same
  decide

end PipelineRegistry
