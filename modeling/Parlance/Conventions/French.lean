import Parlance.Conventions.CurrencyNames.French

/-!
# Conventions of French

How French writes numbers and dates, by the Common Locale Data Repository. Numbers have a comma and
narrow spaces between groups of three; one and a half is still singular.
-/

namespace Parlance.Conventions

open CompactForm

/-- The singular, for any number of digits before the point. -/
def frenchOne (noun : String) (digits : Nat) : Option String := some (zeros digits ++ noun)

/-- The conventions of French. -/
def french : Conventions where
  signs := ⟨",", "\u202f", "E", "∞"⟩
  decimalPattern := some "#,##0.###"
  percentPattern := some "#,##0\u00a0%"
  scientificPattern := some "#E0"
  currencyPattern := some "#,##0.00\u00a0¤"
  compactShort :=
    plain 3 3 "" "\u00a0k" ++ plain 6 3 "" "\u00a0M" ++ plain 9 3 "" "\u00a0Md" ++
      plain 12 3 "" "\u00a0Bn"
  compactLong := some
    (⟨1000, "0 mille", some "0 millier", some "mille"⟩ :: plain 4 2 "0" " mille" ++
      ladder 6 3 "" " millions" (frenchOne " million") ++
      ladder 9 3 "" " milliards" (frenchOne " milliard") ++
      ladder 12 3 "" " billions" (frenchOne " billion"))
  compactCurrency :=
    plain 3 3 "" "\u00a0k\u00a0¤" ++ plain 6 3 "" "\u00a0M\u00a0¤" ++
      plain 9 3 "" "\u00a0Md\u00a0¤" ++ plain 12 3 "" "\u00a0Bn\u00a0¤"
  currencySigns :=
    [("ARS", "$AR"), ("AUD", "$AU"), ("BEF", "FB"), ("BMD", "$BM"), ("BND", "$BN"), ("BRL", "R$"),
     ("BZD", "$BZ"), ("CAD", "$CA"), ("CLP", "$CL"), ("COP", "$CO"), ("CYP", "£CY"), ("EUR", "€"),
     ("FJD", "$FJ"), ("FKP", "£FK"), ("FRF", "F"), ("GBP", "£GB"), ("GIP", "£GI"), ("IEP", "£IE"),
     ("ILP", "£IL"), ("ILS", "₪"), ("INR", "₹"), ("ITL", "₤IT"), ("KRW", "₩"), ("LBP", "£LB"),
     ("MTP", "£MT"), ("MXN", "$MX"), ("NAD", "$NA"), ("NZD", "$NZ"), ("RHD", "$RH"), ("SBD", "$SB"),
     ("SGD", "$SG"), ("SRD", "$SR"), ("TTD", "$TT"), ("USD", "$US"), ("UYU", "$UY"), ("VND", "₫"),
     ("WST", "$WS"), ("XAF", "FCFA"), ("XCG", "Cg."), ("XOF", "F\u202fCFA"), ("XPF", "FCFP"),
     ("XXX", "¤")]
  currencyNames := CurrencyNames.french
  months :=
    ⟨["janv.", "févr.", "mars", "avr.", "mai", "juin", "juil.", "août", "sept.", "oct.", "nov.",
      "déc."],
     ["janvier", "février", "mars", "avril", "mai", "juin", "juillet", "août", "septembre",
      "octobre", "novembre", "décembre"],
     ["J", "F", "M", "A", "M", "J", "J", "A", "S", "O", "N", "D"]⟩
  monthsAlone :=
    ⟨["janv.", "févr.", "mars", "avr.", "mai", "juin", "juil.", "août", "sept.", "oct.", "nov.",
      "déc."],
     ["janvier", "février", "mars", "avril", "mai", "juin", "juillet", "août", "septembre",
      "octobre", "novembre", "décembre"],
     ["J", "F", "M", "A", "M", "J", "J", "A", "S", "O", "N", "D"]⟩
  days :=
    ⟨⟨["lun.", "mar.", "mer.", "jeu.", "ven.", "sam.", "dim."],
      ["lundi", "mardi", "mercredi", "jeudi", "vendredi", "samedi", "dimanche"],
      ["L", "M", "M", "J", "V", "S", "D"]⟩,
     ["lu", "ma", "me", "je", "ve", "sa", "di"]⟩
  daysAlone :=
    ⟨⟨["lun.", "mar.", "mer.", "jeu.", "ven.", "sam.", "dim."],
      ["lundi", "mardi", "mercredi", "jeudi", "vendredi", "samedi", "dimanche"],
      ["L", "M", "M", "J", "V", "S", "D"]⟩,
     ["lu", "ma", "me", "je", "ve", "sa", "di"]⟩
  quarters :=
    ⟨["T1", "T2", "T3", "T4"],
     ["1er trimestre", "2e trimestre", "3e trimestre", "4e trimestre"],
     ["1", "2", "3", "4"]⟩
  quartersAlone :=
    ⟨["T1", "T2", "T3", "T4"],
     ["1er trimestre", "2e trimestre", "3e trimestre", "4e trimestre"],
     ["1", "2", "3", "4"]⟩
  eras :=
    ⟨["av. J.-C.", "ap. J.-C."],
     ["avant Jésus-Christ", "après Jésus-Christ"],
     ["av. J.-C.", "ap. J.-C."]⟩
  periods :=
    ⟨[(.midnight, 0), (.noon, 12)],
     [⟨.morning, 4, 12⟩, ⟨.afternoon, 12, 18⟩, ⟨.evening, 18, 24⟩, ⟨.night, 0, 4⟩]⟩
  periodNames :=
    ⟨[(.am, "AM"), (.pm, "PM"), (.midnight, "minuit"), (.noon, "midi"), (.morning, "matin"),
      (.afternoon, "après-midi"), (.evening, "soir"), (.night, "matin")],
     [(.midnight, "minuit"), (.noon, "midi"), (.morning, "du matin"),
      (.afternoon, "de l’après-midi"), (.evening, "du soir"), (.night, "du matin")],
     [(.midnight, "minuit"), (.noon, "midi"), (.morning, "mat."), (.afternoon, "ap.m."),
      (.evening, "soir"), (.night, "matin")]⟩
  periodNamesAlone :=
    ⟨[(.morning, "mat."), (.afternoon, "ap.m."), (.evening, "soir"), (.night, "matin")],
     [(.morning, "matin"), (.afternoon, "après-midi"), (.evening, "soir"), (.night, "matin")],
     []⟩
  mediumDate := "d MMM y"
  shortDate := "dd/MM/y"
  mediumTime := "HH:mm:ss"
  shortTime := "HH:mm"
  mediumSeparator := ", "
  shortSeparator := " "
  skeletons :=
    [("Bh", "h B"), ("Bhm", "h:mm B"), ("Bhms", "h:mm:ss B"), ("E", "E"), ("EBhm", "E h:mm B"),
     ("EBhms", "E h:mm:ss B"), ("EHm", "E HH:mm"), ("EHms", "E HH:mm:ss"), ("Ed", "E d"),
     ("Ehm", "E h:mm\u202fa"), ("Ehms", "E h:mm:ss\u202fa"), ("Gy", "y G"), ("GyMMM", "MMM y G"),
     ("GyMMMEd", "E d MMM y G"), ("GyMMMd", "d MMM y G"), ("GyMd", "dd/MM/y GGGGG"),
     ("H", "HH 'h'"), ("Hm", "HH:mm"), ("Hms", "HH:mm:ss"), ("M", "L"), ("MEd", "E dd/MM"),
     ("MMM", "LLL"), ("MMMEd", "E d MMM"), ("MMMMW", "'semaine' W (MMMM)"), ("MMMMd", "d MMMM"),
     ("MMMd", "d MMM"), ("Md", "dd/MM"), ("d", "d"), ("h", "h\u202fa"), ("hm", "h:mm\u202fa"),
     ("hms", "h:mm:ss\u202fa"), ("ms", "mm:ss"), ("y", "y"), ("yM", "MM/y"), ("yMEd", "E dd/MM/y"),
     ("yMMM", "MMM y"), ("yMMMEd", "E d MMM y"), ("yMMMM", "MMMM y"), ("yMMMd", "d MMM y"),
     ("yMd", "dd/MM/y"), ("yQQQ", "QQQ y"), ("yQQQQ", "QQQQ y"), ("yw", "'semaine' w 'de' Y")]

end Parlance.Conventions
