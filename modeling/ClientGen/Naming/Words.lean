import ClientGen.Text.Case
import ClientGen.Text.Split

/-!
# Word case

Names of one convention from names of another: `snakeCase` turns `movieTitle` into
`movie_title`, `pascalCase` turns `movie_title` into `MovieTitle`. Word borders are found
between ASCII letters and digits only; the change of case itself knows all letters.
-/

namespace ClientGen.Naming

/-! ## Snake case -/

/-- Puts an underscore before a capital letter that lower-case letters follow, unless it is
the first character of its line. The match takes the letters with it, so the next one begins
behind them. -/
def splitCapitalised : List Char → List Char
  | [] => []
  | c :: cs => go c cs
where
  /-- `c` may be the character before a capital letter. -/
  go (c : Char) : List Char → List Char
    | u :: l :: cs =>
      if c != '\n' && u.isUpper && l.isLower then c :: '_' :: u :: l :: run cs
      else c :: go u (l :: cs)
    | [u] => [c, u]
    | [] => [c]
  /-- The rest of a run of lower-case letters. -/
  run : List Char → List Char
    | [] => []
    | l :: cs => if l.isLower then l :: run cs else go l cs

/-- Puts an underscore between a lower-case letter or digit and a capital letter. -/
def splitCamel : List Char → List Char
  | a :: b :: cs =>
    if (a.isLower || a.isDigit) && b.isUpper then a :: '_' :: splitCamel (b :: cs)
    else a :: splitCamel (b :: cs)
  | cs => cs

/-- `movieTitle` as `movie_title`. -/
def snakeCase (name : String) : String :=
  Text.lower (String.ofList (splitCamel (splitCapitalised name.toList)))

/-! ## Pascal case -/

/-- `movie_title` as `MovieTitle`. -/
def pascalCase (name : String) : String :=
  String.join ((Text.parts '_' name).map Text.sentenceCase)

end ClientGen.Naming
