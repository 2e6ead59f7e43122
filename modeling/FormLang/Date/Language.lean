/-!
# Names of months and days in a language

`en` has English names; every other language has Norwegian ones. Each language brings the pattern in
which dates are written by default.
-/

namespace FormLang.Date

/-- The names that a language gives to months, days and halves of the day. -/
structure Names where
  months : List String
  shortMonths : List String
  weekdays : List String
  shortWeekdays : List String
  forenoon : String
  afternoon : String
  defaultPattern : String

/-- English names. -/
def english : Names where
  months := ["January", "February", "March", "April", "May", "June", "July", "August", "September",
    "October", "November", "December"]
  shortMonths := ["Jan", "Feb", "Mar", "Apr", "May", "Jun", "Jul", "Aug", "Sep", "Oct", "Nov",
    "Dec"]
  weekdays := ["Monday", "Tuesday", "Wednesday", "Thursday", "Friday", "Saturday", "Sunday"]
  shortWeekdays := ["Mon", "Tue", "Wed", "Thu", "Fri", "Sat", "Sun"]
  forenoon := "AM"
  afternoon := "PM"
  defaultPattern := "MM/dd/yyyy"

/-- Norwegian names. -/
def norwegian : Names where
  months := ["januar", "februar", "mars", "april", "mai", "juni", "juli", "august", "september",
    "oktober", "november", "desember"]
  shortMonths := ["jan.", "feb.", "mar.", "apr.", "mai", "jun.", "jul.", "aug.", "sep.", "okt.",
    "nov.", "des."]
  weekdays := ["mandag", "tirsdag", "onsdag", "torsdag", "fredag", "lørdag", "søndag"]
  shortWeekdays := ["man.", "tir.", "ons.", "tor.", "fre.", "lør.", "søn."]
  forenoon := "a.m."
  afternoon := "p.m."
  defaultPattern := "dd.MM.yyyy"

/-- The names in a language. -/
def Names.ofLanguage (language : String) : Names := if language = "en" then english else norwegian

end FormLang.Date
