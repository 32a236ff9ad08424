/-!
# White space

Text is trimmed, squeezed and cut into words at the white space of any script, the information
separators of ASCII (code points 28 to 31) included.
-/

namespace DocBrowser.Text

/-- Whether a character is white space. -/
def isBlank (c : Char) : Bool :=
  let n := c.toNat
  (9 ≤ n && n ≤ 13) || (28 ≤ n && n ≤ 32) || n == 133 || n == 160 || n == 5760 ||
    (8192 ≤ n && n ≤ 8202) || n == 8232 || n == 8233 || n == 8239 || n == 8287 || n == 12288

/-- Drops the white space in front. -/
def trimStart (cs : List Char) : List Char := cs.dropWhile isBlank

/-- Drops the trailing characters of a class. -/
def dropEndWhile (p : Char → Bool) (cs : List Char) : List Char :=
  (cs.reverse.dropWhile p).reverse

/-- Drops the white space at the end. -/
def trimEnd (cs : List Char) : List Char := dropEndWhile isBlank cs

/-- Drops the white space at both ends. -/
def trim (cs : List Char) : List Char := trimEnd (trimStart cs)

/-- Drops all white space. -/
def squeeze (cs : List Char) : List Char := cs.filter (!isBlank ·)

/-- The longest runs of a list without the elements of a class. -/
def wordsBy {α : Type} (blank : α → Bool) : List α → List (List α)
  | [] => []
  | c :: cs =>
    if blank c then wordsBy blank cs
    else match cs, wordsBy blank cs with
      | [], _ => [[c]]
      | d :: _, ws => if blank d then [c] :: ws else
        match ws with
        | [] => [[c]]
        | w :: rest => (c :: w) :: rest

/-- The words of a text: its longest runs without white space. -/
def words (cs : List Char) : List (List Char) := wordsBy isBlank cs

/-- Joins pieces with a separator between neighbours. -/
def joinWith {α : Type} (separator : List α) : List (List α) → List α
  | [] => []
  | [w] => w
  | w :: rest => w ++ separator ++ joinWith separator rest

/-- The words of a text with one space between neighbours. -/
def collapse (cs : List Char) : List Char := joinWith [' '] (words cs)

end DocBrowser.Text
