/-!
# Pieces of a text

A text cut at the characters of a class.
-/

namespace BrowserScript.Text

/-- The pieces between the characters that `cuts` holds of, empty ones included; `piece`, held
backwards, belongs to the first. -/
def piecesFrom (cuts : Char → Bool) (piece : List Char) : List Char → List (List Char)
  | [] => [piece.reverse]
  | c :: rest =>
    if cuts c then piece.reverse :: piecesFrom cuts [] rest else piecesFrom cuts (c :: piece) rest

/-- The pieces between the characters that `cuts` holds of, empty ones included. -/
def pieces (cuts : Char → Bool) (cs : List Char) : List (List Char) := piecesFrom cuts [] cs

@[simp]
theorem pieces_nil (cuts : Char → Bool) : pieces cuts [] = [[]] := rfl

theorem piecesFrom_ne_nil (cuts : Char → Bool) (piece cs : List Char) :
    piecesFrom cuts piece cs ≠ [] := by
  induction cs generalizing piece with
  | nil => simp [piecesFrom]
  | cons c rest ih =>
    rw [piecesFrom]
    split
    · simp
    · exact ih (c :: piece)

/-- Every text has at least one piece. -/
theorem pieces_ne_nil (cuts : Char → Bool) (cs : List Char) : pieces cuts cs ≠ [] :=
  piecesFrom_ne_nil cuts [] cs

end BrowserScript.Text
