import ApexOutline.Text.Word
/-!
# The word at a cursor

The name that a line declares is the word right before a symbol such as `(` or `=`. A cursor at an
index stands between two characters. Spaces before it are passed over; only U+0020 separates words
here.
-/

namespace ApexOutline.Text

/-- The word before the cursor at `index`. When no space is passed over and the word ends in an
identifier character, the cursor may stand inside a name, which is then completed to the right. -/
def wordBefore (t : Text) (index : Nat) : Text :=
  if index > t.length then []
  else
    let before := (t.take index).reverse
    let found := before.dropWhile (· == ' ')
    let word := (found.takeWhile (· != ' ')).reverse
    match before with
    | c :: _ => if isIdentifier c then word ++ (t.drop index).takeWhile isIdentifier else word
    | [] => word

end ApexOutline.Text
