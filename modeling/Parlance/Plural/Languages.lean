import Parlance.Plural.Rule

/-!
# The plural rules of languages

The rules of the Common Locale Data Repository for cardinal numbers, by language, those of a
language in the alphabetical order of the names of categories. Numbers in compact notation have no
exponent here, so the alternatives for them never hold and are left out.
-/

namespace Parlance

open PluralOperand

/-- Languages and regional forms with the same plural rules, and those rules. -/
def pluralTable : List (List String × List PluralRule) :=
  [(["bm", "bo", "dz", "hnj", "id", "ig", "ii", "in", "ja", "jbo", "jv", "jw", "kde", "kea",
      "km", "ko", "lkt", "lo", "ms", "my", "nqo", "osa", "sah", "ses", "sg", "su", "th", "to",
      "tpi", "vi", "wo", "yo", "yue", "zh"], []),
   (["am", "as", "bn", "doi", "fa", "gu", "hi", "kn", "kok", "pcm", "zu"],
     [⟨.one, [[integer.is [0]], [whole.is [1]]]⟩]),
   (["ff", "hy", "kab"],
     [⟨.one, [[integer.is [0, 1]]]⟩]),
   (["ast", "de", "en", "et", "fi", "fy", "gl", "ia", "ie", "io", "ji", "lij", "nl", "sc", "sv",
      "sw", "ur", "yi"],
     [⟨.one, [[integer.is [1], places.is [0]]]⟩]),
   (["si"],
     [⟨.one, [[whole.is [0, 1]], [integer.is [0], fraction.is [1]]]⟩]),
   (["ak", "bho", "csw", "guw", "ln", "mg", "nso", "pa", "ti", "wa"],
     [⟨.one, [[whole.is [upTo 0 1]]]⟩]),
   (["tzm"],
     [⟨.one, [[whole.is [upTo 0 1]], [whole.is [upTo 11 99]]]⟩]),
   (["af", "an", "asa", "az", "bal", "bem", "bez", "bg", "brx", "ce", "cgg", "chr", "ckb", "dv",
      "ee", "el", "eo", "eu", "fo", "fur", "gsw", "ha", "haw", "hu", "jgo", "jmc", "ka", "kaj",
      "kcg", "kk", "kkj", "kl", "ks", "ksb", "ku", "ky", "lb", "lg", "mas", "mgo", "ml", "mn",
      "mr", "nah", "nb", "nd", "ne", "nn", "nnh", "no", "nr", "ny", "nyn", "om", "or", "os", "pap",
      "ps", "rm", "rof", "rwk", "saq", "sd", "sdh", "seh", "sn", "so", "sq", "ss", "ssy", "st",
      "syr", "ta", "te", "teo", "tig", "tk", "tn", "tr", "ts", "ug", "uz", "ve", "vo", "vun",
      "wae", "xh", "xog"],
     [⟨.one, [[whole.is [1]]]⟩]),
   (["da"],
     [⟨.one, [[whole.is [1]], [trimmed.isNot [0], integer.is [0, 1]]]⟩]),
   (["is"],
     [⟨.one,
        [[trimmed.is [0], integer.ends 10 [1], integer.endsNot 100 [11]],
         [trimmed.ends 10 [1], trimmed.endsNot 100 [11]]]⟩]),
   (["mk"],
     [⟨.one,
        [[places.is [0], integer.ends 10 [1], integer.endsNot 100 [11]],
         [fraction.ends 10 [1], fraction.endsNot 100 [11]]]⟩]),
   (["ceb", "fil", "tl"],
     [⟨.one,
        [[places.is [0], integer.is [1, 2, 3]],
         [places.is [0], integer.endsNot 10 [4, 6, 9]],
         [places.isNot [0], fraction.endsNot 10 [4, 6, 9]]]⟩]),
   (["lv", "prg"],
     [⟨.one,
        [[whole.ends 10 [1], whole.endsNot 100 [11]],
         [places.is [2], fraction.ends 10 [1], fraction.endsNot 100 [11]],
         [places.isNot [2], fraction.ends 10 [1]]]⟩,
      ⟨.zero,
        [[whole.ends 10 [0]],
         [whole.ends 100 [upTo 11 19]],
         [places.is [2], fraction.ends 100 [upTo 11 19]]]⟩]),
   (["lag"],
     [⟨.one, [[integer.is [0, 1], whole.isNot [0]]]⟩,
      ⟨.zero, [[whole.is [0]]]⟩]),
   (["blo", "cv", "ksh"],
     [⟨.one, [[whole.is [1]]]⟩,
      ⟨.zero, [[whole.is [0]]]⟩]),
   (["he", "iw"],
     [⟨.one, [[integer.is [1], places.is [0]], [integer.is [0], places.isNot [0]]]⟩,
      ⟨.two, [[integer.is [2], places.is [0]]]⟩]),
   (["iu", "naq", "sat", "se", "sma", "smi", "smj", "smn", "sms"],
     [⟨.one, [[whole.is [1]]]⟩,
      ⟨.two, [[whole.is [2]]]⟩]),
   (["shi"],
     [⟨.few, [[whole.is [upTo 2 10]]]⟩,
      ⟨.one, [[integer.is [0]], [whole.is [1]]]⟩]),
   (["mo", "ro"],
     [⟨.few, [[places.isNot [0]], [whole.is [0]], [whole.isNot [1], whole.ends 100 [upTo 1 19]]]⟩,
      ⟨.one, [[integer.is [1], places.is [0]]]⟩]),
   (["bs", "hr", "sh", "sr"],
     [⟨.few,
        [[places.is [0], integer.ends 10 [upTo 2 4], integer.endsNot 100 [upTo 12 14]],
         [fraction.ends 10 [upTo 2 4], fraction.endsNot 100 [upTo 12 14]]]⟩,
      ⟨.one,
        [[places.is [0], integer.ends 10 [1], integer.endsNot 100 [11]],
         [fraction.ends 10 [1], fraction.endsNot 100 [11]]]⟩]),
   (["fr"],
     [⟨.many, [[integer.isNot [0], integer.ends 1000000 [0], places.is [0]]]⟩,
      ⟨.one, [[integer.is [0, 1]]]⟩]),
   (["pt"],
     [⟨.many, [[integer.isNot [0], integer.ends 1000000 [0], places.is [0]]]⟩,
      ⟨.one, [[integer.is [upTo 0 1]]]⟩]),
   (["ca", "it", "lld", "pt_PT", "scn", "vec"],
     [⟨.many, [[integer.isNot [0], integer.ends 1000000 [0], places.is [0]]]⟩,
      ⟨.one, [[integer.is [1], places.is [0]]]⟩]),
   (["es"],
     [⟨.many, [[integer.isNot [0], integer.ends 1000000 [0], places.is [0]]]⟩,
      ⟨.one, [[whole.is [1]]]⟩]),
   (["gd"],
     [⟨.few, [[whole.is [upTo 3 10, upTo 13 19]]]⟩,
      ⟨.one, [[whole.is [1, 11]]]⟩,
      ⟨.two, [[whole.is [2, 12]]]⟩]),
   (["sl"],
     [⟨.few, [[places.is [0], integer.ends 100 [upTo 3 4]], [places.isNot [0]]]⟩,
      ⟨.one, [[places.is [0], integer.ends 100 [1]]]⟩,
      ⟨.two, [[places.is [0], integer.ends 100 [2]]]⟩]),
   (["dsb", "hsb"],
     [⟨.few, [[places.is [0], integer.ends 100 [upTo 3 4]], [fraction.ends 100 [upTo 3 4]]]⟩,
      ⟨.one, [[places.is [0], integer.ends 100 [1]], [fraction.ends 100 [1]]]⟩,
      ⟨.two, [[places.is [0], integer.ends 100 [2]], [fraction.ends 100 [2]]]⟩]),
   (["cs", "sk"],
     [⟨.few, [[integer.is [upTo 2 4], places.is [0]]]⟩,
      ⟨.many, [[places.isNot [0]]]⟩,
      ⟨.one, [[integer.is [1], places.is [0]]]⟩]),
   (["pl"],
     [⟨.few, [[places.is [0], integer.ends 10 [upTo 2 4], integer.endsNot 100 [upTo 12 14]]]⟩,
      ⟨.many,
        [[places.is [0], integer.isNot [1], integer.ends 10 [upTo 0 1]],
         [places.is [0], integer.ends 10 [upTo 5 9]],
         [places.is [0], integer.ends 100 [upTo 12 14]]]⟩,
      ⟨.one, [[integer.is [1], places.is [0]]]⟩]),
   (["be"],
     [⟨.few, [[whole.ends 10 [upTo 2 4], whole.endsNot 100 [upTo 12 14]]]⟩,
      ⟨.many, [[whole.ends 10 [0]], [whole.ends 10 [upTo 5 9]], [whole.ends 100 [upTo 11 14]]]⟩,
      ⟨.one, [[whole.ends 10 [1], whole.endsNot 100 [11]]]⟩]),
   (["lt"],
     [⟨.few, [[whole.ends 10 [upTo 2 9], whole.endsNot 100 [upTo 11 19]]]⟩,
      ⟨.many, [[fraction.isNot [0]]]⟩,
      ⟨.one, [[whole.ends 10 [1], whole.endsNot 100 [upTo 11 19]]]⟩]),
   (["ru", "uk"],
     [⟨.few, [[places.is [0], integer.ends 10 [upTo 2 4], integer.endsNot 100 [upTo 12 14]]]⟩,
      ⟨.many,
        [[places.is [0], integer.ends 10 [0]],
         [places.is [0], integer.ends 10 [upTo 5 9]],
         [places.is [0], integer.ends 100 [upTo 11 14]]]⟩,
      ⟨.one, [[places.is [0], integer.ends 10 [1], integer.endsNot 100 [11]]]⟩]),
   (["sgs"],
     [⟨.few, [[whole.isNot [2], whole.ends 10 [upTo 2 9], whole.endsNot 100 [upTo 11 19]]]⟩,
      ⟨.many, [[fraction.isNot [0]]]⟩,
      ⟨.one, [[whole.ends 10 [1], whole.endsNot 100 [11]]]⟩,
      ⟨.two, [[whole.is [2]]]⟩]),
   (["br"],
     [⟨.few,
        [[whole.ends 10 [upTo 3 4, 9], whole.endsNot 100 [upTo 10 19, upTo 70 79, upTo 90 99]]]⟩,
      ⟨.many, [[whole.isNot [0], whole.ends 1000000 [0]]]⟩,
      ⟨.one, [[whole.ends 10 [1], whole.endsNot 100 [11, 71, 91]]]⟩,
      ⟨.two, [[whole.ends 10 [2], whole.endsNot 100 [12, 72, 92]]]⟩]),
   (["mt"],
     [⟨.few, [[whole.is [0]], [whole.ends 100 [upTo 3 10]]]⟩,
      ⟨.many, [[whole.ends 100 [upTo 11 19]]]⟩,
      ⟨.one, [[whole.is [1]]]⟩,
      ⟨.two, [[whole.is [2]]]⟩]),
   (["ga"],
     [⟨.few, [[whole.is [upTo 3 6]]]⟩,
      ⟨.many, [[whole.is [upTo 7 10]]]⟩,
      ⟨.one, [[whole.is [1]]]⟩,
      ⟨.two, [[whole.is [2]]]⟩]),
   (["gv"],
     [⟨.few, [[places.is [0], integer.ends 100 [0, 20, 40, 60, 80]]]⟩,
      ⟨.many, [[places.isNot [0]]]⟩,
      ⟨.one, [[places.is [0], integer.ends 10 [1]]]⟩,
      ⟨.two, [[places.is [0], integer.ends 10 [2]]]⟩]),
   (["kw"],
     [⟨.few, [[whole.ends 100 [3, 23, 43, 63, 83]]]⟩,
      ⟨.many, [[whole.isNot [1], whole.ends 100 [1, 21, 41, 61, 81]]]⟩,
      ⟨.one, [[whole.is [1]]]⟩,
      ⟨.two,
        [[whole.ends 100 [2, 22, 42, 62, 82]],
         [whole.ends 1000 [0], whole.ends 100000 [upTo 1000 20000, 40000, 60000, 80000]],
         [whole.isNot [0], whole.ends 1000000 [100000]]]⟩,
      ⟨.zero, [[whole.is [0]]]⟩]),
   (["ar", "ars"],
     [⟨.few, [[whole.ends 100 [upTo 3 10]]]⟩,
      ⟨.many, [[whole.ends 100 [upTo 11 99]]]⟩,
      ⟨.one, [[whole.is [1]]]⟩,
      ⟨.two, [[whole.is [2]]]⟩,
      ⟨.zero, [[whole.is [0]]]⟩]),
   (["cy"],
     [⟨.few, [[whole.is [3]]]⟩,
      ⟨.many, [[whole.is [6]]]⟩,
      ⟨.one, [[whole.is [1]]]⟩,
      ⟨.two, [[whole.is [2]]]⟩,
      ⟨.zero, [[whole.is [0]]]⟩])]

/-- The plural rules of a language, or of a regional form that has rules of its own. -/
def pluralRules? (language : String) : Option (List PluralRule) :=
  (pluralTable.find? fun entry => entry.1.contains language).map (·.2)

end Parlance
