/-!
# The next numeral

`increment` makes a decimal numeral larger by one unit of its last place. The carry runs from the
last digit to the first and passes over the point; if it leaves the first digit, the numeral grows
by a leading one.
-/

namespace FormLang.Decimal

/-- A numeral with one added to its last digit, and whether a carry leaves its first digit. -/
def carry : List Char → List Char × Bool
  | [] => ([], true)
  | c :: cs =>
    match carry cs with
    | (cs', false) => (c :: cs', false)
    | (cs', true) =>
      if c = '.' then ('.' :: cs', true)
      else if c = '9' then ('0' :: cs', true)
      else (Char.ofNat (c.toNat + 1) :: cs', false)

/-- The numeral that is larger by one unit of the last place. -/
def increment (numeral : List Char) : List Char :=
  match carry numeral with
  | (cs, true) => '1' :: cs
  | (cs, false) => cs

end FormLang.Decimal
