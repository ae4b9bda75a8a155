import SqlGateway.Number.Numeral

namespace SqlGateway

/-!
How native drivers mark the place of a parameter.  A driver that formats
statements with the percent sign needs every other percent sign doubled.
-/

/-- A way to mark the places of parameters. -/
inductive ParameterStyle where
  /-- A question mark. -/
  | question
  /-- A percent sign and the letter s. -/
  | percent
  /-- A colon and the place, counted from one. -/
  | colon
deriving DecidableEq, Repr, Inhabited

namespace ParameterStyle

def all : List ParameterStyle := [.question, .percent, .colon]

def name : ParameterStyle → String
  | .question => "qmark"
  | .percent => "pyformat_positional"
  | .colon => "positional_colon"

def ofName? (name : String) : Option ParameterStyle :=
  all.find? fun style => style.name == name

/-- The marker of the parameter at a place, counted from zero. -/
def marker : ParameterStyle → Nat → List Char
  | .question, _ => ['?']
  | .percent, _ => ['%', 's']
  | .colon, ordinal => ':' :: Numeral.digits (ordinal + 1)

/-- The marker for a place given by any whole number. -/
def markerAt (style : ParameterStyle) (ordinal : Int) : String :=
  match style with
  | .colon => String.ofList (':' :: Numeral.chars (ordinal + 1))
  | style => String.ofList (style.marker 0)

/-- Whether every literal percent sign is doubled. -/
def doublesPercent (style : ParameterStyle) : Bool := style = .percent

/-- Text with every percent sign doubled. -/
def doubled (characters : List Char) : List Char :=
  characters.flatMap fun character => if character = '%' then ['%', '%'] else [character]

/-- Literal text as a style wants it. -/
def literal (style : ParameterStyle) (characters : List Char) : List Char :=
  if style.doublesPercent then doubled characters else characters

theorem doubled_append (first second : List Char) :
    doubled (first ++ second) = doubled first ++ doubled second := by
  simp [doubled]

theorem literal_append (style : ParameterStyle) (first second : List Char) :
    style.literal (first ++ second) = style.literal first ++ style.literal second := by
  unfold literal
  split
  · exact doubled_append first second
  · rfl

/-- Text without percent signs is the same in every style. -/
theorem literal_eq_self (style : ParameterStyle) {characters : List Char}
    (free : '%' ∉ characters) : style.literal characters = characters := by
  have same : doubled characters = characters := by
    induction characters with
    | nil => rfl
    | cons character rest inductionHypothesis =>
        rw [List.mem_cons, not_or] at free
        rw [← List.singleton_append, doubled_append, inductionHypothesis free.2]
        simp only [doubled, List.flatMap_singleton, Ne.symm free.1, if_false]
  rw [literal, same, ite_self]

end ParameterStyle
end SqlGateway
