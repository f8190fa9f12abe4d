import Parlance.Conventions.CurrencyNames.German

/-!
# Conventions of German

How German writes numbers and dates, by the Common Locale Data Repository. Numbers have a comma and
points between groups of three; short forms begin at a million.
-/

namespace Parlance.Conventions

open CompactForm

/-- The singular, which only a single digit before the point can have. -/
def germanOne (noun : String) (digits : Nat) : Option String :=
  if digits = 1 then some ("0" ++ noun) else none

/-- The conventions of German. -/
def german : Conventions where
  signs := ⟨",", ".", "E", "∞"⟩
  decimalPattern := some "#,##0.###"
  percentPattern := some "#,##0\u00a0%"
  scientificPattern := some "#E0"
  currencyPattern := some "#,##0.00\u00a0¤"
  compactShort :=
    unchanged 3 3 ++ plain 6 3 "" "\u00a0Mio'.'" ++ plain 9 3 "" "\u00a0Mrd'.'" ++
      plain 12 3 "" "\u00a0Bio'.'"
  compactLong := some
    (plain 3 3 "" " Tausend" ++ ladder 6 3 "" " Millionen" (germanOne " Million") ++
      ladder 9 3 "" " Milliarden" (germanOne " Milliarde") ++
      ladder 12 3 "" " Billionen" (germanOne " Billion"))
  compactCurrency :=
    unchanged 3 3 ++ plain 6 3 "" "\u00a0Mio'.'\u00a0¤" ++ plain 9 3 "" "\u00a0Mrd'.'\u00a0¤" ++
      plain 12 3 "" "\u00a0Bio'.'\u00a0¤"
  currencySigns :=
    [("ATS", "öS"), ("AUD", "AU$"), ("BRL", "R$"), ("CAD", "CA$"), ("CNY", "CN¥"), ("EUR", "€"),
     ("GBP", "£"), ("HKD", "HK$"), ("ILS", "₪"), ("INR", "₹"), ("JPY", "¥"), ("KRW", "₩"),
     ("MXN", "MX$"), ("NZD", "NZ$"), ("THB", "฿"), ("TWD", "NT$"), ("USD", "$"), ("VND", "₫"),
     ("XAF", "FCFA"), ("XCD", "EC$"), ("XCG", "Cg."), ("XOF", "F\u202fCFA"), ("XPF", "CFPF"),
     ("XXX", "¤")]
  currencyNames := CurrencyNames.german
  months :=
    ⟨["Jan.", "Feb.", "März", "Apr.", "Mai", "Juni", "Juli", "Aug.", "Sept.", "Okt.", "Nov.",
      "Dez."],
     ["Januar", "Februar", "März", "April", "Mai", "Juni", "Juli", "August", "September", "Oktober",
      "November", "Dezember"],
     ["J", "F", "M", "A", "M", "J", "J", "A", "S", "O", "N", "D"]⟩
  monthsAlone :=
    ⟨["Jan", "Feb", "Mär", "Apr", "Mai", "Jun", "Jul", "Aug", "Sep", "Okt", "Nov", "Dez"],
     ["Januar", "Februar", "März", "April", "Mai", "Juni", "Juli", "August", "September", "Oktober",
      "November", "Dezember"],
     ["J", "F", "M", "A", "M", "J", "J", "A", "S", "O", "N", "D"]⟩
  days :=
    ⟨⟨["Mo.", "Di.", "Mi.", "Do.", "Fr.", "Sa.", "So."],
      ["Montag", "Dienstag", "Mittwoch", "Donnerstag", "Freitag", "Samstag", "Sonntag"],
      ["M", "D", "M", "D", "F", "S", "S"]⟩,
     ["Mo.", "Di.", "Mi.", "Do.", "Fr.", "Sa.", "So."]⟩
  daysAlone :=
    ⟨⟨["Mo", "Di", "Mi", "Do", "Fr", "Sa", "So"],
      ["Montag", "Dienstag", "Mittwoch", "Donnerstag", "Freitag", "Samstag", "Sonntag"],
      ["M", "D", "M", "D", "F", "S", "S"]⟩,
     ["Mo.", "Di.", "Mi.", "Do.", "Fr.", "Sa.", "So."]⟩
  quarters :=
    ⟨["Q1", "Q2", "Q3", "Q4"],
     ["1. Quartal", "2. Quartal", "3. Quartal", "4. Quartal"],
     ["1", "2", "3", "4"]⟩
  quartersAlone :=
    ⟨["Q1", "Q2", "Q3", "Q4"],
     ["1. Quartal", "2. Quartal", "3. Quartal", "4. Quartal"],
     ["1", "2", "3", "4"]⟩
  eras :=
    ⟨["v. Chr.", "n. Chr."],
     ["v. Chr.", "n. Chr."],
     ["v. Chr.", "n. Chr."]⟩
  periods :=
    ⟨[(.midnight, 0)],
     [⟨.morning, 5, 10⟩, ⟨.lateMorning, 10, 12⟩, ⟨.midday, 12, 13⟩, ⟨.afternoon, 13, 18⟩,
      ⟨.evening, 18, 24⟩, ⟨.night, 0, 5⟩]⟩
  periodNames :=
    ⟨[(.am, "AM"), (.pm, "PM"), (.midnight, "Mitternacht"), (.morning, "morgens"),
      (.lateMorning, "vorm."), (.midday, "mittags"), (.afternoon, "nachm."), (.evening, "abends"),
      (.night, "nachts")],
     [(.midnight, "Mitternacht"), (.morning, "morgens"), (.lateMorning, "vormittags"),
      (.midday, "mittags"), (.afternoon, "nachmittags"), (.evening, "abends"), (.night, "nachts")],
     []⟩
  periodNamesAlone :=
    ⟨[(.morning, "Morgen"), (.lateMorning, "Vorm."), (.midday, "Mittag"), (.afternoon, "Nachm."),
      (.evening, "Abend"), (.night, "Nacht")],
     [(.morning, "Morgen"), (.lateMorning, "Vormittag"), (.midday, "Mittag"),
      (.afternoon, "Nachmittag"), (.evening, "Abend"), (.night, "Nacht")],
     []⟩
  mediumDate := "dd.MM.y"
  shortDate := "dd.MM.yy"
  mediumTime := "HH:mm:ss"
  shortTime := "HH:mm"
  mediumSeparator := ", "
  shortSeparator := ", "
  skeletons :=
    [("Bh", "h 'Uhr' B"), ("Bhm", "h:mm B"), ("Bhms", "h:mm:ss B"), ("E", "ccc"),
     ("EBhm", "E, h:mm 'Uhr' B"), ("EBhms", "E, h:mm:ss 'Uhr' B"), ("EHm", "E, HH:mm"),
     ("EHms", "E, HH:mm:ss"), ("Ed", "E, d."), ("Ehm", "E h:mm\u202fa"),
     ("Ehms", "E, h:mm:ss\u202fa"), ("Gy", "y G"), ("GyMMM", "MMM y G"),
     ("GyMMMEd", "E, d. MMM y G"), ("GyMMMd", "d. MMM y G"), ("GyMd", "dd.MM.y G"),
     ("H", "HH 'Uhr'"), ("Hm", "HH:mm"), ("Hms", "HH:mm:ss"), ("M", "L"), ("MEd", "E, d.M."),
     ("MMM", "LLL"), ("MMMEd", "E, d. MMM"), ("MMMMEd", "E, d. MMMM"),
     ("MMMMW", "'Woche' W 'im' MMMM"), ("MMMMd", "d. MMMM"), ("MMMd", "d. MMM"), ("MMd", "d.MM."),
     ("MMdd", "dd.MM."), ("Md", "d.M."), ("d", "d"), ("h", "h 'Uhr' a"), ("hm", "h:mm\u202fa"),
     ("hms", "h:mm:ss\u202fa"), ("ms", "mm:ss"), ("y", "y"), ("yM", "M/y"), ("yMEd", "E, d.M.y"),
     ("yMM", "MM.y"), ("yMMM", "MMM y"), ("yMMMEd", "E, d. MMM y"), ("yMMMM", "MMMM y"),
     ("yMMMd", "d. MMM y"), ("yMMdd", "dd.MM.y"), ("yMd", "d.M.y"), ("yQQQ", "QQQ y"),
     ("yQQQQ", "QQQQ y"), ("yw", "'Woche' w 'des' 'Jahres' Y")]

end Parlance.Conventions
