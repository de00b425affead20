/-!
# Letters without regard to case

Source keywords are recognised in any case. Beyond the two cases of an ASCII letter, four
characters count as one: the long s as `s`, the Kelvin sign as `k`, and the dotted capital
and dotless small i as `i`.
-/

namespace EventAtlas.Text

/-- The small ASCII letter a character counts as, or the character itself. -/
def foldCase (c : Char) : Char :=
  if c = '\u017f' then 's'
  else if c = '\u212a' then 'k'
  else if c = '\u0130' ∨ c = '\u0131' then 'i'
  else c.toLower

/-- Whether a character counts as an ASCII letter in some case. -/
def isLetterAnyCase (c : Char) : Bool :=
  (foldCase c).isAlpha

end EventAtlas.Text
