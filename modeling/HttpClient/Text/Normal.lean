import HttpClient.Text.Normal.Decomposition
import HttpClient.Text.Normal.Order

/-!
# Normal text

Text that looks the same is written the same once it is normal: it is taken apart, its marks are
put in order, and then each mark is joined to the last character before it that it composes
with, unless a mark of its own or a higher class stands between the two. Text without composed
characters and marks, such as all of ASCII, is normal as it stands.
-/

namespace HttpClient.Normal

/-- Text being composed: what is finished, in reverse, the last character that takes marks, and
the marks after it, in reverse. -/
structure Composer where
  done : List Char := []
  base : Option Char := none
  marks : List Char := []

/-- What has been composed, in reverse. -/
def Composer.reversed (s : Composer) : List Char := s.marks ++ s.base.toList ++ s.done

/-- Joins one more character, or keeps it as it is. -/
def Composer.push (s : Composer) (c : Char) : Composer :=
  let reaches := s.marks.head?.all (classOf · < classOf c)
  let joined := if reaches then s.base.bind (compose? · c) else none
  match joined with
  | some composed => { s with base := some composed }
  | none =>
    if classOf c = 0 then { done := s.reversed, base := some c, marks := [] }
    else { s with marks := c :: s.marks }

/-- A text with its marks joined to the characters before them. -/
def compose (cs : List Char) : List Char := (cs.foldl Composer.push {}).reversed.reverse

/-- The composed normal form of a text. -/
def normalize (cs : List Char) : List Char := compose (order (cs.flatMap decompose))

end HttpClient.Normal
