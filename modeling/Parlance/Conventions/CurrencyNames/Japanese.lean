import Parlance.Conventions.Basic

/-!
# Names of currencies in Japanese

The names of currencies by their codes, and the names for amounts where they differ from the name of
the currency itself, by the Common Locale Data Repository.
-/

namespace Parlance.CurrencyNames

/-- The names of currencies in Japanese. -/
def japanese : Assoc CurrencyNames :=
  [("ADP", only "アンドラ ペセタ"), ("AED", several "アラブ首長国連邦ディルハム" "UAE ディルハム"),
   ("AFA", only "アフガニスタン アフガニー (1927–2002)"), ("AFN", only "アフガニスタン アフガニー"),
   ("ALK", only "アルバニア レク (1946–1965)"), ("ALL", only "アルバニア レク"), ("AMD", only "アルメニア ドラム"),
   ("ANG", only "オランダ領アンティル ギルダー"), ("AOA", only "アンゴラ クワンザ"),
   ("AOK", only "アンゴラ クワンザ (1977–1991)"), ("AON", only "アンゴラ 新クワンザ (1990–2000)"),
   ("AOR", only "アンゴラ 旧クワンザ (1995–1999)"), ("ARA", only "アルゼンチン アゥストラール"),
   ("ARL", only "アルゼンチン・ペソ・レイ（1970–1983）"), ("ARM", only "アルゼンチン・ペソ（1881–1970）"),
   ("ARP", only "アルゼンチン ペソ (1983–1985)"), ("ARS", only "アルゼンチン ペソ"), ("ATS", only "オーストリア シリング"),
   ("AUD", only "オーストラリア ドル"), ("AWG", only "アルバ フロリン"), ("AZM", only "アゼルバイジャン マナト (1993–2006)"),
   ("AZN", only "アゼルバイジャン マナト"), ("BAD", only "ボスニア・ヘルツェゴビナ ディナール (1992–1994)"),
   ("BAM", only "ボスニア・ヘルツェゴビナ 兌換マルク (BAM)"), ("BAN", only "ボスニア・ヘルツェゴビナ 新ディナール（1994–1997）"),
   ("BBD", only "バルバドス ドル"), ("BDT", only "バングラデシュ タカ"), ("BEC", only "ベルギー フラン (BEC)"),
   ("BEF", only "ベルギー フラン"), ("BEL", only "ベルギー フラン (BEL)"), ("BGL", only "ブルガリア レフ"),
   ("BGM", only "ブルガリア社会主義 レフ"), ("BGN", only "ブルガリア 新レフ"), ("BGO", only "ブルガリア レフ（1879–1952）"),
   ("BHD", only "バーレーン ディナール"), ("BIF", only "ブルンジ フラン"), ("BMD", only "バミューダ ドル"),
   ("BND", only "ブルネイ ドル"), ("BOB", only "ボリビア ボリビアーノ"), ("BOL", only "ボリビア ボリビアーノ (1863–1963)"),
   ("BOP", only "ボリビア ペソ"), ("BOV", only "ボリビア (Mvdol)"), ("BRB", only "ブラジル 新クルゼイロ (1967–1986)"),
   ("BRC", only "ブラジル クルザード (1986–1989)"), ("BRE", only "ブラジル クルゼイロ (1990–1993)"),
   ("BRL", only "ブラジル レアル"), ("BRN", only "ブラジル 新クルザード (1989–1990)"),
   ("BRR", only "ブラジル クルゼイロ (1993–1994)"), ("BRZ", only "ブラジル クルゼイロ（1942–1967）"),
   ("BSD", only "バハマ ドル"), ("BTN", only "ブータン ニュルタム"), ("BUK", only "ビルマ チャット"),
   ("BWP", only "ボツワナ プラ"), ("BYB", only "ベラルーシ 新ルーブル (1994–1999)"), ("BYN", only "ベラルーシ ルーブル"),
   ("BYR", only "ベラルーシ ルーブル (2000–2016)"), ("BZD", only "ベリーズ ドル"), ("CAD", only "カナダ ドル"),
   ("CDF", only "コンゴ フラン"), ("CHE", only "ユーロ (WIR)"), ("CHF", only "スイス フラン"),
   ("CHW", only "フラン (WIR)"), ("CLE", only "チリ エスクード"), ("CLF", only "チリ ウニダ・デ・フォメント (UF)"),
   ("CLP", only "チリ ペソ"), ("CNH", only "中国人民元(オフショア)"), ("CNX", only "中国人民銀行ドル"),
   ("CNY", only "中国人民元"), ("COP", only "コロンビア ペソ"), ("COU", only "コロンビア レアル （UVR)"),
   ("CRC", only "コスタリカ コロン"), ("CSD", only "セルビア ディナール (2002–2006)"), ("CSK", only "チェコスロバキア コルナ"),
   ("CUC", only "キューバ 兌換ペソ"), ("CUP", only "キューバ ペソ"), ("CVE", only "カーボベルデ エスクード"),
   ("CYP", only "キプロス ポンド"), ("CZK", only "チェコ コルナ"), ("DDM", only "東ドイツ マルク"),
   ("DEM", only "ドイツ マルク"), ("DJF", only "ジブチ フラン"), ("DKK", only "デンマーク クローネ"),
   ("DOP", only "ドミニカ ペソ"), ("DZD", only "アルジェリア ディナール"), ("ECS", only "エクアドル スクレ"),
   ("ECV", only "エクアドル (UVC)"), ("EEK", only "エストニア クルーン"), ("EGP", only "エジプト ポンド"),
   ("ERN", only "エリトリア ナクファ"), ("ESA", only "スペインペセタ（勘定A）"), ("ESB", only "スペイン 兌換ペセタ"),
   ("ESP", only "スペイン ペセタ"), ("ETB", only "エチオピア ブル"), ("EUR", only "ユーロ"),
   ("FIM", only "フィンランド マルカ"), ("FJD", only "フィジー ドル"), ("FKP", only "フォークランド（マルビナス）諸島 ポンド"),
   ("FRF", only "フランス フラン"), ("GBP", only "英国ポンド"), ("GEK", only "ジョージア クーポン ラリ"),
   ("GEL", only "ジョージア ラリ"), ("GHC", only "ガーナ セディ (1979–2007)"), ("GHS", only "ガーナ セディ"),
   ("GIP", only "ジブラルタル ポンド"), ("GMD", only "ガンビア ダラシ"), ("GNF", only "ギニア フラン"),
   ("GNS", only "ギニア シリー"), ("GQE", only "赤道ギニア エクウェレ"), ("GRD", only "ギリシャ ドラクマ"),
   ("GTQ", only "グアテマラ ケツァル"), ("GWE", only "ポルトガル領ギニア エスクード"), ("GWP", only "ギニアビサウ ペソ"),
   ("GYD", only "ガイアナ ドル"), ("HKD", only "香港ドル"), ("HNL", only "ホンジュラス レンピラ"),
   ("HRD", only "クロアチア ディナール"), ("HRK", only "クロアチア クーナ"), ("HTG", only "ハイチ グールド"),
   ("HUF", only "ハンガリー フォリント"), ("IDR", only "インドネシア ルピア"), ("IEP", only "アイリッシュ ポンド"),
   ("ILP", only "イスラエル ポンド"), ("ILR", only "イスラエル シェケル (1980–1985)"), ("ILS", only "イスラエル新シェケル"),
   ("INR", only "インド ルピー"), ("IQD", only "イラク ディナール"), ("IRR", only "イラン リアル"),
   ("ISJ", only "アイスランド クローナ (1918–1981)"), ("ISK", only "アイスランド クローナ"), ("ITL", only "イタリア リラ"),
   ("JMD", only "ジャマイカ ドル"), ("JOD", only "ヨルダン ディナール"), ("JPY", several "日本円" "円"),
   ("KES", only "ケニア シリング"), ("KGS", only "キルギス ソム"), ("KHR", only "カンボジア リエル"),
   ("KMF", only "コモロ フラン"), ("KPW", only "北朝鮮ウォン"), ("KRH", only "韓国 ファン（1953–1962）"),
   ("KRO", only "韓国 ウォン（1945–1953）"), ("KRW", only "韓国ウォン"), ("KWD", only "クウェート ディナール"),
   ("KYD", only "ケイマン諸島 ドル"), ("KZT", only "カザフスタン テンゲ"), ("LAK", only "ラオス キープ"),
   ("LBP", only "レバノン ポンド"), ("LKR", only "スリランカ ルピー"), ("LRD", only "リベリア ドル"),
   ("LSL", only "レソト ロティ"), ("LTL", only "リトアニア リタス"), ("LTT", only "リトアニア タロナ"),
   ("LUC", only "ルクセンブルク 兌換フラン"), ("LUF", only "ルクセンブルグ フラン"), ("LUL", only "ルクセンブルク 金融フラン"),
   ("LVL", only "ラトビア ラッツ"), ("LVR", only "ラトビア ルーブル"), ("LYD", only "リビア ディナール"),
   ("MAD", only "モロッコ ディルハム"), ("MAF", only "モロッコ フラン"), ("MCF", only "モネガスク フラン"),
   ("MDC", only "モルドバ クーポン"), ("MDL", only "モルドバ レイ"), ("MGA", only "マダガスカル アリアリ"),
   ("MGF", only "マラガシ フラン"), ("MKD", only "マケドニア デナル"), ("MKN", only "マケドニア ディナール（1992–1993）"),
   ("MLF", only "マリ フラン"), ("MMK", only "ミャンマー チャット"), ("MNT", only "モンゴル トグログ"),
   ("MOP", only "マカオ パタカ"), ("MRO", only "モーリタニア ウギア (1973–2017)"), ("MRU", only "モーリタニア ウギア"),
   ("MTL", only "マルタ リラ"), ("MTP", only "マルタ ポンド"), ("MUR", only "モーリシャス ルピー"),
   ("MVP", only "モルディブ諸島 ルピー"), ("MVR", only "モルディブ ルフィア"), ("MWK", only "マラウィ クワチャ"),
   ("MXN", only "メキシコ ペソ"), ("MXP", only "メキシコ ペソ (1861–1992)"), ("MXV", only "メキシコ (UDI)"),
   ("MYR", only "マレーシア リンギット"), ("MZE", only "モザンピーク エスクード"),
   ("MZM", only "モザンビーク メティカル (1980–2006)"), ("MZN", only "モザンビーク メティカル"), ("NAD", only "ナミビア ドル"),
   ("NGN", only "ナイジェリア ナイラ"), ("NIC", only "ニカラグア コルドバ (1988–1991)"),
   ("NIO", only "ニカラグア コルドバ オロ"), ("NLG", only "オランダ ギルダー"), ("NOK", only "ノルウェー クローネ"),
   ("NPR", only "ネパール ルピー"), ("NZD", only "ニュージーランド ドル"), ("OMR", only "オマーン リアル"),
   ("PAB", only "パナマ バルボア"), ("PEI", only "ペルー インティ"), ("PEN", only "ペルー ソル"),
   ("PES", only "ペルー ソル (1863–1965)"), ("PGK", only "パプアニューギニア キナ"), ("PHP", only "フィリピン ペソ"),
   ("PKR", only "パキスタン ルピー"), ("PLN", only "ポーランド ズウォティ"), ("PLZ", only "ポーランド ズウォティ (1950–1995)"),
   ("PTE", only "ポルトガル エスクード"), ("PYG", only "パラグアイ グアラニ"), ("QAR", only "カタール リアル"),
   ("RHD", only "ローデシア ドル"), ("ROL", only "ルーマニア レイ (1952–2006)"), ("RON", only "ルーマニア レイ"),
   ("RSD", only "セルビア ディナール"), ("RUB", only "ロシア ルーブル"), ("RUR", only "ロシア ルーブル (1991–1998)"),
   ("RWF", only "ルワンダ フラン"), ("SAR", only "サウジ リヤル"), ("SBD", only "ソロモン諸島 ドル"),
   ("SCR", only "セーシェル ルピー"), ("SDD", only "スーダン ディナール (1992–2007)"), ("SDG", only "スーダン ポンド"),
   ("SDP", only "スーダン ポンド (1957–1998)"), ("SEK", only "スウェーデン クローナ"), ("SGD", only "シンガポール ドル"),
   ("SHP", only "セントヘレナ ポンド"), ("SIT", only "スロベニア トラール"), ("SKK", only "スロバキア コルナ"),
   ("SLE", only "シエラレオネ レオン"), ("SLL", only "シエラレオネ レオン (1964—2022)"), ("SOS", only "ソマリア シリング"),
   ("SRD", only "スリナム ドル"), ("SRG", only "スリナム ギルダー"), ("SSP", only "南スーダン ポンド"),
   ("STD", only "サントメ・プリンシペ ドブラ (1977–2017)"), ("STN", only "サントメ・プリンシペ ドブラ"),
   ("SUR", only "ソ連 ルーブル"), ("SVC", only "エルサルバドル コロン"), ("SYP", only "シリア ポンド"),
   ("SZL", only "スワジランド リランゲニ"), ("THB", only "タイ バーツ"), ("TJR", only "タジキスタン ルーブル"),
   ("TJS", only "タジキスタン ソモニ"), ("TMM", only "トルクメニスタン マナト (1993–2009)"),
   ("TMT", only "トルクメニスタン マナト"), ("TND", only "チュニジア ディナール"), ("TOP", only "トンガ パ・アンガ"),
   ("TPE", only "ティモール エスクード"), ("TRL", only "トルコ リラ (1922–2005)"), ("TRY", only "トルコ リラ"),
   ("TTD", only "トリニダード・トバゴ ドル"), ("TWD", only "新台湾ドル"), ("TZS", only "タンザニア シリング"),
   ("UAH", only "ウクライナ フリヴニャ"), ("UAK", only "ウクライナ カルボバネツ"), ("UGS", only "ウガンダ シリング (1966–1987)"),
   ("UGX", only "ウガンダ シリング"), ("USD", only "米ドル"), ("USN", only "米ドル (翌日)"),
   ("USS", only "米ドル (当日)"), ("UYI", only "ウルグアイ ペソエン"), ("UYP", only "ウルグアイ ペソ (1975–1993)"),
   ("UYU", only "ウルグアイ ペソ"), ("UZS", only "ウズベキスタン スム"), ("VEB", only "ベネズエラ ボリバル (1871–2008)"),
   ("VEF", only "ベネズエラ ボリバル (2008–2018)"), ("VES", only "ベネズエラ ボリバル"), ("VND", only "ベトナム ドン"),
   ("VNN", only "ベトナム ドン（1978–1985）"), ("VUV", only "バヌアツ バツ"), ("WST", only "サモア タラ"),
   ("XAF", only "中央アフリカ CFA フラン"), ("XAG", only "銀"), ("XAU", only "金"),
   ("XBA", only "ヨーロッパ混合単位 (EURCO)"), ("XBB", only "ヨーロッパ通貨単位 (EMU–6)"),
   ("XBC", only "ヨーロッパ勘定単位 (EUA–9)"), ("XBD", only "ヨーロッパ勘定単位 (EUA–17)"), ("XCD", only "東カリブ ドル"),
   ("XCG", several "カリブ ギルダー" "カリブ ギルダー"), ("XDR", only "特別引き出し権"), ("XEU", only "ヨーロッパ通貨単位"),
   ("XFO", only "フランス金フラン"), ("XFU", only "フランス フラン (UIC)"), ("XOF", only "西アフリカ CFA フラン"),
   ("XPD", only "パラジウム"), ("XPF", only "CFP フラン"), ("XPT", only "プラチナ"), ("XRE", only "RINET基金"),
   ("XSU", only "スクレ"), ("XTS", only "テスト用通貨コード"), ("XUA", only "UA (アフリカ開発銀行)"),
   ("XXX", only "不明または無効な通貨"), ("YDD", only "イエメン ディナール"), ("YER", only "イエメン リアル"),
   ("YUD", only "ユーゴスラビア ハード・ディナール (1966–1990)"), ("YUM", only "ユーゴスラビア ノビ・ディナール (1994–2002)"),
   ("YUN", only "ユーゴスラビア 兌換ディナール (1990–1992)"), ("YUR", only "ユーゴスラビア 改革ディナール（1992–1993）"),
   ("ZAL", only "南アフリカ ランド (ZAL)"), ("ZAR", only "南アフリカ ランド"),
   ("ZMK", only "ザンビア クワチャ (1968–2012)"), ("ZMW", only "ザンビア クワチャ"),
   ("ZRN", only "ザイール 新ザイール (1993–1998)"), ("ZRZ", only "ザイール ザイール (1971–1993)"),
   ("ZWD", only "ジンバブエ ドル (1980–2008)"), ("ZWG", several "ジンバブエ ゴールド" "ジンバブエ ゴールド"),
   ("ZWL", only "ジンバブエ ドル (2009)"), ("ZWR", only "シンバブエ ドル（2008）")]

end Parlance.CurrencyNames
