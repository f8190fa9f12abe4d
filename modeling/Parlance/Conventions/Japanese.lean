import Parlance.Conventions.CurrencyNames.Japanese

/-!
# Conventions of Japanese

How Japanese writes numbers and dates, by the Common Locale Data Repository. Great numbers count in
powers of ten thousand; there are no long forms of them.
-/

namespace Parlance.Conventions

open CompactForm

/-- The conventions of Japanese. -/
def japanese : Conventions where
  signs := ⟨".", ",", "E", "∞"⟩
  decimalPattern := some "#,##0.###"
  percentPattern := some "#,##0%"
  scientificPattern := some "#E0"
  currencyPattern := some "¤#,##0.00"
  compactShort :=
    unchanged 3 1 ++ plain 4 4 "" "万" ++ plain 8 4 "" "億" ++ plain 12 4 "" "兆" ++
      plain 16 4 "" "京"
  compactLong := none
  compactCurrency :=
    unchanged 3 1 ++ plain 4 4 "¤" "万" ++ plain 8 4 "¤" "億" ++ plain 12 4 "¤" "兆" ++
      plain 16 4 "¤" "京"
  currencySigns :=
    [("AUD", "A$"), ("BRL", "R$"), ("CAD", "CA$"), ("CNY", "元"), ("EUR", "€"), ("GBP", "£"),
     ("HKD", "HK$"), ("ILS", "₪"), ("INR", "₹"), ("JPY", "￥"), ("KRW", "₩"), ("MXN", "MX$"),
     ("NZD", "NZ$"), ("TWD", "NT$"), ("USD", "$"), ("VND", "₫"), ("XAF", "FCFA"), ("XCD", "EC$"),
     ("XCG", "Cg."), ("XOF", "F\u202fCFA"), ("XPF", "CFPF"), ("XXX", "¤")]
  currencyNames := CurrencyNames.japanese
  months :=
    ⟨["1月", "2月", "3月", "4月", "5月", "6月", "7月", "8月", "9月", "10月", "11月", "12月"],
     ["1月", "2月", "3月", "4月", "5月", "6月", "7月", "8月", "9月", "10月", "11月", "12月"],
     ["1", "2", "3", "4", "5", "6", "7", "8", "9", "10", "11", "12"]⟩
  monthsAlone :=
    ⟨["1月", "2月", "3月", "4月", "5月", "6月", "7月", "8月", "9月", "10月", "11月", "12月"],
     ["1月", "2月", "3月", "4月", "5月", "6月", "7月", "8月", "9月", "10月", "11月", "12月"],
     ["1", "2", "3", "4", "5", "6", "7", "8", "9", "10", "11", "12"]⟩
  days :=
    ⟨⟨["月", "火", "水", "木", "金", "土", "日"],
      ["月曜日", "火曜日", "水曜日", "木曜日", "金曜日", "土曜日", "日曜日"],
      ["月", "火", "水", "木", "金", "土", "日"]⟩,
     ["月", "火", "水", "木", "金", "土", "日"]⟩
  daysAlone :=
    ⟨⟨["月", "火", "水", "木", "金", "土", "日"],
      ["月曜日", "火曜日", "水曜日", "木曜日", "金曜日", "土曜日", "日曜日"],
      ["月", "火", "水", "木", "金", "土", "日"]⟩,
     ["月", "火", "水", "木", "金", "土", "日"]⟩
  quarters :=
    ⟨["Q1", "Q2", "Q3", "Q4"],
     ["第1四半期", "第2四半期", "第3四半期", "第4四半期"],
     ["1", "2", "3", "4"]⟩
  quartersAlone :=
    ⟨["Q1", "Q2", "Q3", "Q4"],
     ["第1四半期", "第2四半期", "第3四半期", "第4四半期"],
     ["1", "2", "3", "4"]⟩
  eras :=
    ⟨["紀元前", "西暦"],
     ["紀元前", "西暦"],
     ["BC", "AD"]⟩
  periods :=
    ⟨[(.midnight, 0), (.noon, 12)],
     [⟨.morning, 4, 12⟩, ⟨.midday, 12, 16⟩, ⟨.evening, 16, 19⟩, ⟨.night, 19, 23⟩,
      ⟨.lateNight, 23, 4⟩]⟩
  periodNames :=
    ⟨[(.am, "午前"), (.pm, "午後"), (.midnight, "真夜中"), (.noon, "正午"), (.morning, "朝"), (.midday, "昼"),
      (.evening, "夕方"), (.night, "夜"), (.lateNight, "夜中")],
     [],
     []⟩
  periodNamesAlone := .none
  mediumDate := "y/MM/dd"
  shortDate := "y/MM/dd"
  mediumTime := "H:mm:ss"
  shortTime := "H:mm"
  mediumSeparator := " "
  shortSeparator := " "
  skeletons :=
    [("Bh", "BK時"), ("Bhm", "BK:mm"), ("Bhms", "BK:mm:ss"), ("E", "ccc"), ("EBhm", "BK:mm (E)"),
     ("EBhms", "BK:mm:ss (E)"), ("EEEEd", "d日EEEE"), ("EHm", "H:mm (E)"), ("EHms", "H:mm:ss (E)"),
     ("Ed", "d日(E)"), ("Ehm", "aK:mm (E)"), ("Ehms", "aK:mm:ss (E)"), ("Gy", "Gy年"),
     ("GyMMM", "Gy年M月"), ("GyMMMEEEEd", "Gy年M月d日EEEE"), ("GyMMMEd", "Gy年M月d日(E)"),
     ("GyMMMd", "Gy年M月d日"), ("GyMd", "Gy/M/d"), ("H", "H時"), ("Hm", "H:mm"), ("Hms", "H:mm:ss"),
     ("M", "M月"), ("MEEEEd", "M/dEEEE"), ("MEd", "M/d(E)"), ("MMM", "M月"), ("MMMEEEEd", "M月d日EEEE"),
     ("MMMEd", "M月d日(E)"), ("MMMMW", "M月第W週"), ("MMMMd", "M月d日"), ("MMMd", "M月d日"), ("Md", "M/d"),
     ("d", "d日"), ("h", "aK時"), ("hm", "aK:mm"), ("hms", "aK:mm:ss"), ("ms", "mm:ss"), ("y", "y年"),
     ("yM", "y/M"), ("yMEEEEd", "y/M/dEEEE"), ("yMEd", "y/M/d(E)"), ("yMM", "y/MM"),
     ("yMMM", "y年M月"), ("yMMMEEEEd", "y年M月d日EEEE"), ("yMMMEd", "y年M月d日(E)"), ("yMMMM", "y年M月"),
     ("yMMMd", "y年M月d日"), ("yMd", "y/M/d"), ("yQQQ", "y/QQQ"), ("yQQQQ", "y年QQQQ"), ("yw", "Y年第w週")]

end Parlance.Conventions
