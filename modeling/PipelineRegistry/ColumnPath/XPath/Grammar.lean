import PipelineRegistry.ColumnPath.XPath.Token

/-!
# XPath expressions

A recursive descent over the expanded tokens. Every rule either finds its phrase, finds that the
phrase is absent, or rejects the text. An absent phrase may have used up tokens already: a step
takes an axis even if no node test follows it, and the next alternative goes on behind the axis.

The binary operators only differ in how tightly they bind, which does not change what is accepted,
so an expression is a chain of signed operands here.
-/

namespace PipelineRegistry.ColumnPath.XPath

/-! ## Outcomes -/

/-- What a rule makes of the tokens in front of it. What is left is never longer than the input. -/
inductive Outcome (input : List Token)
  | found (rest : List Token) (bound : rest.length ≤ input.length)
  | absent (rest : List Token) (bound : rest.length ≤ input.length)
  | rejected

namespace Outcome

/-- The outcome of a rule that started behind some tokens that were used up before. -/
def widen {inner outer : List Token} (shorter : inner.length ≤ outer.length) :
    Outcome inner → Outcome outer
  | found rest bound => found rest (Nat.le_trans bound shorter)
  | absent rest bound => absent rest (Nat.le_trans bound shorter)
  | rejected => rejected

end Outcome

/-- The token is given and is taken away, or the text is rejected. -/
def expect (token : Token) (input : List Token) : Outcome input :=
  match input with
  | [] => .rejected
  | first :: rest => if first = token then .found rest (by simp) else .rejected

/-- A step may name its axis first. -/
def dropAxis : List Token → List Token
  | .axis :: rest => rest
  | tokens => tokens

theorem length_dropAxis_le (tokens : List Token) : (dropAxis tokens).length ≤ tokens.length := by
  unfold dropAxis
  split <;> simp

/-- The operators that may stand between two operands. -/
def Token.isBinary : Token → Bool
  | .binary | .minus => true
  | _ => false

/-! ## Rules -/

mutual

/-- An expression is an operand and then any number of operators with an operand each. -/
def expression (input : List Token) : Outcome input :=
  match signed input with
  | .rejected => .rejected
  | .absent rest bound => .absent rest bound
  | .found rest bound => (chain rest).widen bound
termination_by input.length * 16 + 11

/-- The operators and operands after the first operand. -/
def chain (input : List Token) : Outcome input :=
  match input with
  | [] => .found [] (Nat.le_refl _)
  | first :: rest =>
      if first.isBinary then
        match signed rest with
        | .found after bound =>
            (chain after).widen (by simp only [List.length_cons]; omega)
        | _ => .rejected
      else .found (first :: rest) (Nat.le_refl _)
termination_by input.length * 16 + 10

/-- An operand may have minus signs before it; they count where no path starts. -/
def signed (input : List Token) : Outcome input :=
  match union input with
  | .rejected => .rejected
  | .found rest bound => .found rest bound
  | .absent rest bound =>
      match rest, bound with
      | .minus :: more, bound =>
          match signed more with
          | .found after inner =>
              .found after (by simp only [List.length_cons] at bound; omega)
          | _ => .rejected
      | rest, bound => .absent rest bound
termination_by input.length * 16 + 9
decreasing_by
  all_goals try simp only [List.length_cons] at *
  all_goals omega

/-- Paths with bars between them. -/
def union (input : List Token) : Outcome input :=
  match path input with
  | .rejected => .rejected
  | .absent rest bound => .absent rest bound
  | .found rest bound => (alternatives rest).widen bound
termination_by input.length * 16 + 8

/-- The paths after the first bar. -/
def alternatives (input : List Token) : Outcome input :=
  match input with
  | .bar :: rest =>
      match path rest with
      | .found after bound =>
          (alternatives after).widen (by simp only [List.length_cons]; omega)
      | _ => .rejected
  | tokens => .found tokens (Nat.le_refl _)
termination_by input.length * 16 + 7

/-- A path starts with a step, with a slash, or with a primary expression whose value it filters. -/
def path (input : List Token) : Outcome input :=
  match steps input with
  | .rejected => .rejected
  | .found rest bound => .found rest bound
  | .absent rest bound =>
      match rest, bound with
      | .slash :: more, bound =>
          match steps more with
          | .rejected => .rejected
          | .found after inner | .absent after inner =>
              .found after (by simp only [List.length_cons] at bound; omega)
      | rest, bound => (filtered rest).widen bound
termination_by input.length * 16 + 6
decreasing_by
  all_goals try simp only [List.length_cons] at *
  all_goals omega

/-- A primary expression, its predicates and perhaps a slash with further steps. -/
def filtered (input : List Token) : Outcome input :=
  match primary input with
  | .rejected => .rejected
  | .absent rest bound => .absent rest bound
  | .found rest bound =>
      match predicates rest with
      | .found after inner => (continued after).widen (Nat.le_trans inner bound)
      | _ => .rejected
termination_by input.length * 16 + 5

/-- A slash behind a primary expression has steps behind it. -/
def continued (input : List Token) : Outcome input :=
  match input with
  | .slash :: rest =>
      match steps rest with
      | .found after bound => .found after (by simp only [List.length_cons]; omega)
      | _ => .rejected
  | tokens => .found tokens (Nat.le_refl _)
termination_by input.length * 16 + 4

/-- Steps with slashes between them. -/
def steps (input : List Token) : Outcome input :=
  match step input with
  | .rejected => .rejected
  | .absent rest bound => .absent rest bound
  | .found rest bound => (furtherSteps rest).widen bound
termination_by input.length * 16 + 3

/-- The steps after the first slash. -/
def furtherSteps (input : List Token) : Outcome input :=
  match input with
  | .slash :: rest =>
      match step rest with
      | .found after bound =>
          (furtherSteps after).widen (by simp only [List.length_cons]; omega)
      | _ => .rejected
  | tokens => .found tokens (Nat.le_refl _)
termination_by input.length * 16 + 2

/-- One step is a node test or a name, perhaps with an axis before it and predicates behind it. -/
def step (input : List Token) : Outcome input :=
  have shorter := length_dropAxis_le input
  match dropAxis input, shorter with
  | .nodeTest :: rest, bound | .name :: rest, bound =>
      (predicates rest).widen (by simp only [List.length_cons] at bound; omega)
  | rest, bound => .absent rest bound
termination_by input.length * 16 + 1
decreasing_by
  all_goals try simp only [List.length_cons] at *
  all_goals omega

/-- Any number of expressions in brackets. -/
def predicates (input : List Token) : Outcome input :=
  match input with
  | .openBracket :: rest =>
      match expression rest with
      | .found after bound =>
          match expect .closeBracket after with
          | .found more inner =>
              (predicates more).widen (by simp only [List.length_cons]; omega)
          | _ => .rejected
      | _ => .rejected
  | tokens => .found tokens (Nat.le_refl _)
termination_by input.length * 16

/-- A variable, an expression in parentheses, or what may follow an empty pair of parentheses. -/
def primary (input : List Token) : Outcome input :=
  match input with
  | .variable :: rest => .found rest (by simp)
  | .openParen :: rest =>
      match expression rest with
      | .rejected => .rejected
      | .found after bound =>
          (expect .closeParen after).widen (by simp only [List.length_cons]; omega)
      | .absent after bound =>
          match expect .closeParen after with
          | .found more inner => (atom more).widen (by simp only [List.length_cons]; omega)
          | _ => .rejected
  | tokens => atom tokens
termination_by input.length * 16 + 4

/-- A literal, a number or a function call. -/
def atom (input : List Token) : Outcome input :=
  match input with
  | .literal :: rest | .number :: rest => .found rest (by simp)
  | .function :: .openParen :: rest =>
      match expression rest with
      | .rejected => .rejected
      | .absent after bound =>
          (expect .closeParen after).widen (by simp only [List.length_cons]; omega)
      | .found after bound =>
          (arguments after).widen (by simp only [List.length_cons]; omega)
  | .function :: _ => .rejected
  | tokens => .absent tokens (Nat.le_refl _)
termination_by input.length * 16 + 2

/-- The arguments of a function after the first, and the closing parenthesis. -/
def arguments (input : List Token) : Outcome input :=
  match input with
  | .closeParen :: rest => .found rest (by simp)
  | .comma :: rest =>
      match expression rest with
      | .found after bound =>
          (arguments after).widen (by simp only [List.length_cons]; omega)
      | _ => .rejected
  | _ => .rejected
termination_by input.length * 16

end

/-! ## Whole texts -/

/-- What a text is as an XPath expression. -/
inductive Verdict
  | valid
  | empty
  | invalid
  deriving DecidableEq, Repr

/-- Judges the tokens of a text. Nothing may be left over, and an absent phrase that used up all
tokens is an empty expression. -/
def judgeTokens (tokens : List Token) : Verdict :=
  match expression (tokens.flatMap Token.expand) with
  | .found [] _ => .valid
  | .absent [] _ => .empty
  | _ => .invalid

/-- Judges a text as an XPath expression. -/
def judge (text : List Char) : Verdict :=
  match scan? text with
  | none => .invalid
  | some tokens => judgeTokens tokens

end PipelineRegistry.ColumnPath.XPath
