namespace SqlGateway
namespace Text

/-!
Replacing every occurrence of a pattern, from left to right and without overlap.
An empty pattern occurs before every character and at the end.
-/

/-- Replace a nonempty pattern, after passing over `skip` characters that belong to
an occurrence already replaced. -/
def replaceFrom (pattern replacement : List Char) : Nat → List Char → List Char
  | _, [] => []
  | skip + 1, _ :: rest => replaceFrom pattern replacement skip rest
  | 0, character :: rest =>
    if pattern.isPrefixOf (character :: rest) then
      replacement ++ replaceFrom pattern replacement (pattern.length - 1) rest
    else character :: replaceFrom pattern replacement 0 rest

def replace (pattern replacement characters : List Char) : List Char :=
  if pattern = [] then
    characters.flatMap (fun character => replacement ++ [character]) ++ replacement
  else replaceFrom pattern replacement 0 characters

def occurs (pattern : List Char) : List Char → Bool
  | [] => pattern.isEmpty
  | character :: rest => pattern.isPrefixOf (character :: rest) || occurs pattern rest

/-- A pattern of one character is replaced wherever the character stands. -/
theorem replace_single (mark : Char) (replacement characters : List Char) :
    replace [mark] replacement characters =
      characters.flatMap fun character =>
        if character = mark then replacement else [character] := by
  have step : ∀ rest, replaceFrom [mark] replacement 0 rest =
      rest.flatMap fun character => if character = mark then replacement else [character] := by
    intro rest
    induction rest with
    | nil => rfl
    | cons character rest ih =>
      by_cases found : character = mark
      · subst found
        simp [replaceFrom, ih]
      · have apart : ¬ mark = character := fun equal => found equal.symm
        simp [replaceFrom, List.isPrefixOf, found, apart, ih]
  simp [replace, step]

/-- A pattern of one character occurs where the character is a member. -/
theorem occurs_single (mark : Char) (characters : List Char) :
    occurs [mark] characters = true ↔ mark ∈ characters := by
  induction characters with
  | nil => simp [occurs]
  | cons character rest ih =>
    simp [occurs, List.isPrefixOf, ih]

end Text
end SqlGateway
