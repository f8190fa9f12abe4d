import Parlance.Conventions.CurrencyNames.English

/-!
# Conventions of English

How English writes numbers and dates, by the Common Locale Data Repository. Numbers have a point and
commas between groups of three; shortened numbers count in thousands.
-/

namespace Parlance.Conventions

open CompactForm

/-- The conventions of English. -/
def english : Conventions where
  signs := ⟨".", ",", "E", "∞"⟩
  decimalPattern := some "#,##0.###"
  percentPattern := some "#,##0%"
  scientificPattern := some "#E0"
  currencyPattern := some "¤#,##0.00"
  compactShort :=
    plain 3 3 "" "K" ++ plain 6 3 "" "M" ++ plain 9 3 "" "B" ++ plain 12 3 "" "T"
  compactLong := some
    (plain 3 3 "" " thousand" ++ plain 6 3 "" " million" ++ plain 9 3 "" " billion" ++
      plain 12 3 "" " trillion")
  compactCurrency :=
    plain 3 3 "¤" "K" ++ plain 6 3 "¤" "M" ++ plain 9 3 "¤" "B" ++ plain 12 3 "¤" "T"
  currencySigns :=
    [("AUD", "A$"), ("BRL", "R$"), ("CAD", "CA$"), ("CNY", "CN¥"), ("EUR", "€"), ("GBP", "£"),
     ("HKD", "HK$"), ("ILS", "₪"), ("INR", "₹"), ("JPY", "¥"), ("KRW", "₩"), ("MXN", "MX$"),
     ("NZD", "NZ$"), ("PHP", "₱"), ("TWD", "NT$"), ("USD", "$"), ("VND", "₫"), ("XAF", "FCFA"),
     ("XCD", "EC$"), ("XCG", "Cg."), ("XOF", "F\u202fCFA"), ("XPF", "CFPF"), ("XXX", "¤")]
  currencyNames := CurrencyNames.english
  months :=
    ⟨["Jan", "Feb", "Mar", "Apr", "May", "Jun", "Jul", "Aug", "Sep", "Oct", "Nov", "Dec"],
     ["January", "February", "March", "April", "May", "June", "July", "August", "September",
      "October", "November", "December"],
     ["J", "F", "M", "A", "M", "J", "J", "A", "S", "O", "N", "D"]⟩
  monthsAlone :=
    ⟨["Jan", "Feb", "Mar", "Apr", "May", "Jun", "Jul", "Aug", "Sep", "Oct", "Nov", "Dec"],
     ["January", "February", "March", "April", "May", "June", "July", "August", "September",
      "October", "November", "December"],
     ["J", "F", "M", "A", "M", "J", "J", "A", "S", "O", "N", "D"]⟩
  days :=
    ⟨⟨["Mon", "Tue", "Wed", "Thu", "Fri", "Sat", "Sun"],
      ["Monday", "Tuesday", "Wednesday", "Thursday", "Friday", "Saturday", "Sunday"],
      ["M", "T", "W", "T", "F", "S", "S"]⟩,
     ["Mo", "Tu", "We", "Th", "Fr", "Sa", "Su"]⟩
  daysAlone :=
    ⟨⟨["Mon", "Tue", "Wed", "Thu", "Fri", "Sat", "Sun"],
      ["Monday", "Tuesday", "Wednesday", "Thursday", "Friday", "Saturday", "Sunday"],
      ["M", "T", "W", "T", "F", "S", "S"]⟩,
     ["Mo", "Tu", "We", "Th", "Fr", "Sa", "Su"]⟩
  quarters :=
    ⟨["Q1", "Q2", "Q3", "Q4"],
     ["1st quarter", "2nd quarter", "3rd quarter", "4th quarter"],
     ["1", "2", "3", "4"]⟩
  quartersAlone :=
    ⟨["Q1", "Q2", "Q3", "Q4"],
     ["1st quarter", "2nd quarter", "3rd quarter", "4th quarter"],
     ["1", "2", "3", "4"]⟩
  eras :=
    ⟨["BC", "AD"],
     ["Before Christ", "Anno Domini"],
     ["B", "A"]⟩
  periods :=
    ⟨[(.midnight, 0), (.noon, 12)],
     [⟨.morning, 6, 12⟩, ⟨.afternoon, 12, 18⟩, ⟨.evening, 18, 21⟩, ⟨.night, 21, 6⟩]⟩
  periodNames :=
    ⟨[(.am, "AM"), (.pm, "PM"), (.midnight, "midnight"), (.noon, "noon"),
      (.morning, "in the morning"), (.afternoon, "in the afternoon"), (.evening, "in the evening"),
      (.night, "at night")],
     [(.am, "AM"), (.pm, "PM"), (.midnight, "midnight"), (.noon, "noon"),
      (.morning, "in the morning"), (.afternoon, "in the afternoon"), (.evening, "in the evening"),
      (.night, "at night")],
     [(.am, "a"), (.pm, "p"), (.midnight, "mi"), (.noon, "n"), (.morning, "in the morning"),
      (.afternoon, "in the afternoon"), (.evening, "in the evening"), (.night, "at night")]⟩
  periodNamesAlone :=
    ⟨[(.am, "AM"), (.pm, "PM"), (.midnight, "midnight"), (.noon, "noon"), (.morning, "morning"),
      (.afternoon, "afternoon"), (.evening, "evening"), (.night, "night")],
     [(.am, "AM"), (.pm, "PM"), (.midnight, "midnight"), (.noon, "noon"), (.morning, "morning"),
      (.afternoon, "afternoon"), (.evening, "evening"), (.night, "night")],
     [(.am, "AM"), (.pm, "PM"), (.midnight, "midnight"), (.noon, "noon"), (.morning, "morning"),
      (.afternoon, "afternoon"), (.evening, "evening"), (.night, "night")]⟩
  mediumDate := "MMM d, y"
  shortDate := "M/d/yy"
  mediumTime := "h:mm:ss\u202fa"
  shortTime := "h:mm\u202fa"
  mediumSeparator := ", "
  shortSeparator := ", "
  skeletons :=
    [("Bh", "h B"), ("Bhm", "h:mm B"), ("Bhms", "h:mm:ss B"), ("E", "ccc"), ("EBhm", "E h:mm B"),
     ("EBhms", "E h:mm:ss B"), ("EHm", "E HH:mm"), ("EHms", "E HH:mm:ss"), ("Ed", "d E"),
     ("Ehm", "E h:mm a"), ("Ehms", "E h:mm:ss a"), ("Gy", "y G"), ("GyMMM", "MMM y G"),
     ("GyMMMEd", "E, MMM d, y G"), ("GyMMMd", "MMM d, y G"), ("GyMd", "M/d/y G"), ("H", "HH"),
     ("Hm", "HH:mm"), ("Hms", "HH:mm:ss"), ("M", "L"), ("MEd", "E, M/d"), ("MMM", "LLL"),
     ("MMMEd", "E, MMM d"), ("MMMMW", "'week' W 'of' MMMM"), ("MMMMd", "MMMM d"), ("MMMd", "MMM d"),
     ("Md", "M/d"), ("d", "d"), ("h", "h a"), ("hm", "h:mm a"), ("hms", "h:mm:ss a"),
     ("ms", "mm:ss"), ("y", "y"), ("yM", "M/y"), ("yMEd", "E, M/d/y"), ("yMMM", "MMM y"),
     ("yMMMEd", "E, MMM d, y"), ("yMMMM", "MMMM y"), ("yMMMd", "MMM d, y"), ("yMd", "M/d/y"),
     ("yQQQ", "QQQ y"), ("yQQQQ", "QQQQ y"), ("yw", "'week' w 'of' Y")]

end Parlance.Conventions
