import Parlance.Conventions.Basic

/-!
# Names of currencies in French

The names of currencies by their codes, and the names for amounts where they differ from the name of
the currency itself, by the Common Locale Data Repository.
-/

namespace Parlance.CurrencyNames

/-- The names of currencies in French. -/
def french : Assoc CurrencyNames :=
  [("ADP", counted "peseta andorrane" "peseta andorrane" "pesetas andorranes"),
   ("AED", counted "dirham des Émirats arabes unis" "dirham des Émirats arabes unis"
     "dirhams des Émirats arabes unis"),
   ("AFA", counted "afghani (1927–2002)" "afghani (1927–2002)" "afghanis (1927–2002)"),
   ("AFN", counted "afghani afghan" "afghani afghan" "afghanis afghan"),
   ("ALK", counted "lek albanais (1947–1961)" "lek albanais (1947–1961)"
     "leks albanais (1947–1961)"), ("ALL", counted "lek albanais" "lek albanais" "leks albanais"),
   ("AMD", counted "dram arménien" "dram arménien" "drams arméniens"),
   ("ANG", counted "florin antillais" "florin antillais" "florins antillais"),
   ("AOA", counted "kwanza angolais" "kwanza angolais" "kwanzas angolais"),
   ("AOK", counted "kwanza angolais (1977–1990)" "kwanza angolais (1977–1990)"
     "kwanzas angolais (1977–1990)"),
   ("AON", counted "nouveau kwanza angolais (1990–2000)" "nouveau kwanza angolais (1990–2000)"
     "nouveaux kwanzas angolais (1990–2000)"),
   ("AOR", counted "kwanza angolais réajusté (1995–1999)" "kwanza angolais réajusté (1995–1999)"
     "kwanzas angolais réajustés (1995–1999)"),
   ("ARA", counted "austral argentin" "austral argentin" "australs argentins"),
   ("ARP", counted "peso argentin (1983–1985)" "peso argentin (1983–1985)"
     "pesos argentins (1983–1985)"),
   ("ARS", counted "peso argentin" "peso argentin" "pesos argentins"),
   ("ATS", counted "schilling autrichien" "schilling autrichien" "schillings autrichiens"),
   ("AUD", counted "dollar australien" "dollar australien" "dollars australiens"),
   ("AWG", counted "florin arubais" "florin arubais" "florins arubais"),
   ("AZM", counted "manat azéri (1993–2006)" "manat azéri (1993–2006)" "manats azéris (1993–2006)"),
   ("AZN", counted "manat azéri" "manat azéri" "manats azéris"),
   ("BAD", counted "dinar bosniaque" "dinar bosniaque" "dinars bosniaques"),
   ("BAM", counted "mark convertible bosniaque" "mark convertible bosniaque"
     "marks convertibles bosniaques"),
   ("BBD", counted "dollar barbadien" "dollar barbadien" "dollars barbadiens"),
   ("BDT", counted "taka bangladeshi" "taka bangladeshi" "takas bangladeshis"),
   ("BEC", counted "franc belge (convertible)" "franc belge (convertible)"
     "francs belges (convertibles)"), ("BEF", counted "franc belge" "franc belge" "francs belges"),
   ("BEL", counted "franc belge (financier)" "franc belge (financier)"
     "francs belges (financiers)"),
   ("BGL", counted "lev bulgare (1962–1999)" "lev bulgare (1962–1999)" "levs bulgares (1962–1999)"),
   ("BGN", counted "lev bulgare" "lev bulgare" "levs bulgares"),
   ("BHD", counted "dinar bahreïni" "dinar bahreïni" "dinars bahreïnis"),
   ("BIF", counted "franc burundais" "franc burundais" "francs burundais"),
   ("BMD", counted "dollar bermudien" "dollar bermudien" "dollars bermudiens"),
   ("BND", counted "dollar brunéien" "dollar brunéien" "dollars brunéiens"),
   ("BOB", counted "boliviano bolivien" "boliviano bolivien" "bolivianos boliviens"),
   ("BOP", counted "peso bolivien" "peso bolivien" "pesos boliviens"),
   ("BOV", counted "mvdol bolivien" "mvdol bolivien" "mvdols boliviens"),
   ("BRB", counted "nouveau cruzeiro brésilien (1967–1986)"
     "nouveau cruzeiro brésilien (1967–1986)" "nouveaux cruzeiros brésiliens (1967–1986)"),
   ("BRC", counted "cruzado brésilien (1986–1989)" "cruzado brésilien (1986–1989)"
     "cruzados brésiliens (1986–1989)"),
   ("BRE", counted "cruzeiro brésilien (1990–1993)" "cruzeiro brésilien (1990–1993)"
     "cruzeiros brésiliens (1990–1993)"),
   ("BRL", counted "réal brésilien" "réal brésilien" "réals brésiliens"),
   ("BRN", counted "nouveau cruzado" "nouveau cruzado brésilien (1989–1990)"
     "nouveaux cruzados brésiliens (1989–1990)"),
   ("BRR", counted "cruzeiro" "cruzeiro réal brésilien (1993–1994)"
     "cruzeiros réals brésiliens (1993–1994)"),
   ("BSD", counted "dollar bahaméen" "dollar bahaméen" "dollars bahaméens"),
   ("BTN", counted "ngultrum bouthanais" "ngultrum bouthanais" "ngultrums bouthanais"),
   ("BUK", counted "kyat birman" "kyat birman" "kyats birmans"),
   ("BWP", counted "pula botswanais" "pula botswanais" "pulas botswanais"),
   ("BYB", counted "nouveau rouble biélorusse (1994–1999)" "nouveau rouble biélorusse (1994–1999)"
     "nouveaux roubles biélorusses (1994–1999)"),
   ("BYN", counted "rouble biélorusse" "rouble biélorusse" "roubles biélorusses"),
   ("BYR", counted "rouble biélorusse (2000–2016)" "rouble biélorusse (2000–2016)"
     "roubles biélorusses (2000–2016)"),
   ("BZD", counted "dollar bélizéen" "dollar bélizéen" "dollars bélizéens"),
   ("CAD", counted "dollar canadien" "dollar canadien" "dollars canadiens"),
   ("CDF", counted "franc congolais" "franc congolais" "francs congolais"),
   ("CHE", counted "euro WIR" "euro WIR" "euros WIR"),
   ("CHF", counted "franc suisse" "franc suisse" "francs suisses"),
   ("CHW", counted "franc WIR" "franc WIR" "francs WIR"),
   ("CLF", counted "unité d’investissement chilienne" "unité d’investissement chilienne"
     "unités d’investissement chiliennes"),
   ("CLP", counted "peso chilien" "peso chilien" "pesos chiliens"),
   ("CNH", counted "yuan chinois (zone extracôtière)" "yuan chinois (zone extracôtière)"
     "yuans chinois (zone extracôtière)"),
   ("CNY", counted "yuan renminbi chinois" "yuan renminbi chinois" "yuans renminbi chinois"),
   ("COP", counted "peso colombien" "peso colombien" "pesos colombiens"),
   ("COU", counted "unité de valeur réelle colombienne" "unité de valeur réelle colombienne"
     "unités de valeur réelle colombiennes"),
   ("CRC", counted "colón costaricain" "colón costaricain" "colóns costaricains"),
   ("CSD", counted "dinar serbo-monténégrin" "dinar serbo-monténégrin" "dinars serbo-monténégrins"),
   ("CSK", counted "couronne forte tchécoslovaque" "couronne forte tchécoslovaque"
     "couronnes fortes tchécoslovaques"),
   ("CUC", counted "peso cubain convertible" "peso cubain convertible"
     "pesos cubains convertibles"), ("CUP", counted "peso cubain" "peso cubain" "pesos cubains"),
   ("CVE", counted "escudo capverdien" "escudo capverdien" "escudos capverdiens"),
   ("CYP", counted "livre chypriote" "livre chypriote" "livres chypriotes"),
   ("CZK", counted "couronne tchèque" "couronne tchèque" "couronnes tchèques"),
   ("DDM", counted "mark est-allemand" "mark est-allemand" "marks est-allemands"),
   ("DEM", counted "mark allemand" "mark allemand" "marks allemands"),
   ("DJF", counted "franc djiboutien" "franc djiboutien" "francs djiboutiens"),
   ("DKK", counted "couronne danoise" "couronne danoise" "couronnes danoises"),
   ("DOP", counted "peso dominicain" "peso dominicain" "pesos dominicains"),
   ("DZD", counted "dinar algérien" "dinar algérien" "dinars algériens"),
   ("ECS", counted "sucre équatorien" "sucre équatorien" "sucres équatoriens"),
   ("ECV", counted "unité de valeur constante équatoriale (UVC)"
     "unité de valeur constante équatorienne (UVC)"
     "unités de valeur constante équatoriennes (UVC)"),
   ("EEK", counted "couronne estonienne" "couronne estonienne" "couronnes estoniennes"),
   ("EGP", counted "livre égyptienne" "livre égyptienne" "livres égyptiennes"),
   ("ERN", counted "nafka érythréen" "nafka érythréen" "nafkas érythréens"),
   ("ESA", counted "peseta espagnole (compte A)" "peseta espagnole (compte A)"
     "pesetas espagnoles (compte A)"),
   ("ESB", counted "peseta espagnole (compte convertible)" "peseta espagnole (compte convertible)"
     "pesetas espagnoles (compte convertible)"),
   ("ESP", counted "peseta espagnole" "peseta espagnole" "pesetas espagnoles"),
   ("ETB", counted "birr éthiopien" "birr éthiopien" "birrs éthiopiens"),
   ("EUR", counted "euro" "euro" "euros"),
   ("FIM", counted "mark finlandais" "mark finlandais" "marks finlandais"),
   ("FJD", counted "dollar fidjien" "dollar fidjien" "dollars fidjiens"),
   ("FKP", counted "livre des îles Malouines" "livre des îles Malouines"
     "livres des îles Malouines"),
   ("FRF", counted "franc français" "franc français" "francs français"),
   ("GBP", counted "livre sterling" "livre sterling" "livres sterling"),
   ("GEK", counted "coupon de lari géorgien" "coupon de lari géorgien" "coupons de lari géorgiens"),
   ("GEL", counted "lari géorgien" "lari géorgien" "lari géorgiens"),
   ("GHC", counted "cédi" "cédi ghanéen (1967–2007)" "cédis ghanéens (1967–2007)"),
   ("GHS", counted "cédi ghanéen" "cédi ghanéen" "cédis ghanéens"),
   ("GIP", counted "livre de Gibraltar" "livre de Gibraltar" "livres de Gibraltar"),
   ("GMD", counted "dalasi gambien" "dalasi gambien" "dalasis gambiens"),
   ("GNF", counted "franc guinéen" "franc guinéen" "francs guinéens"),
   ("GNS", counted "syli guinéen" "syli guinéen" "sylis guinéens"),
   ("GQE", counted "ekwélé équatoguinéen" "ekwélé équatoguinéen" "ekwélés équatoguinéens"),
   ("GRD", counted "drachme grecque" "drachme grecque" "drachmes grecques"),
   ("GTQ", counted "quetzal guatémaltèque" "quetzal guatémaltèque" "quetzals guatémaltèques"),
   ("GWE", counted "escudo de Guinée portugaise" "escudo de Guinée portugaise"
     "escudos de Guinée portugaise"),
   ("GWP", counted "peso bissau-guinéen" "peso bissau-guinéen" "pesos bissau-guinéens"),
   ("GYD", counted "dollar du Guyana" "dollar du Guyana" "dollars du Guyana"),
   ("HKD", counted "dollar de Hong Kong" "dollar de Hong Kong" "dollars de Hong Kong"),
   ("HNL", counted "lempira hondurien" "lempira hondurien" "lempiras honduriens"),
   ("HRD", counted "dinar croate" "dinar croate" "dinars croates"),
   ("HRK", counted "kuna croate" "kuna croate" "kunas croates"),
   ("HTG", counted "gourde haïtienne" "gourde haïtienne" "gourdes haïtiennes"),
   ("HUF", counted "forint hongrois" "forint hongrois" "forints hongrois"),
   ("IDR", counted "roupie indonésienne" "roupie indonésienne" "roupies indonésiennes"),
   ("IEP", counted "livre irlandaise" "livre irlandaise" "livres irlandaises"),
   ("ILP", counted "livre israélienne" "livre israélienne" "livres israéliennes"),
   ("ILS", counted "nouveau shekel israélien" "nouveau shekel israélien"
     "nouveaux shekels israéliens"),
   ("INR", counted "roupie indienne" "roupie indienne" "roupies indiennes"),
   ("IQD", counted "dinar irakien" "dinar irakien" "dinars irakiens"),
   ("IRR", counted "riyal iranien" "riyal iranien" "riyals iraniens"),
   ("ISK", counted "couronne islandaise" "couronne islandaise" "couronnes islandaises"),
   ("ITL", counted "lire italienne" "lire italienne" "lires italiennes"),
   ("JMD", counted "dollar jamaïcain" "dollar jamaïcain" "dollars jamaïcains"),
   ("JOD", counted "dinar jordanien" "dinar jordanien" "dinars jordaniens"),
   ("JPY", counted "yen japonais" "yen japonais" "yens japonais"),
   ("KES", counted "shilling kényan" "shilling kényan" "shillings kényans"),
   ("KGS", counted "som kirghize" "som kirghize" "soms kirghizes"),
   ("KHR", counted "riel cambodgien" "riel cambodgien" "riels cambodgiens"),
   ("KMF", counted "franc comorien" "franc comorien" "francs comoriens"),
   ("KPW", counted "won nord-coréen" "won nord-coréen" "wons nord-coréens"),
   ("KRW", counted "won sud-coréen" "won sud-coréen" "wons sud-coréens"),
   ("KWD", counted "dinar koweïtien" "dinar koweïtien" "dinar koweïtiens"),
   ("KYD", counted "dollar des îles Caïmans" "dollar des îles Caïmans" "dollars des îles Caïmans"),
   ("KZT", counted "tenge kazakh" "tenge kazakh" "tenges kazakhs"),
   ("LAK", counted "kip laotien" "kip laotien" "kips laotiens"),
   ("LBP", counted "livre libanaise" "livre libanaise" "livres libanaises"),
   ("LKR", counted "roupie srilankaise" "roupie srilankaise" "roupies srilankaises"),
   ("LRD", counted "dollar libérien" "dollar libérien" "dollars libériens"),
   ("LSL", counted "loti lesothan" "loti lesothan" "maloti lesothans"),
   ("LTL", counted "litas lituanien" "litas lituanien" "litas lituaniens"),
   ("LTT", counted "talonas lituanien" "talonas lituanien" "talonas lituaniens"),
   ("LUC", counted "franc convertible luxembourgeois" "franc convertible luxembourgeois"
     "francs convertibles luxembourgeois"),
   ("LUF", counted "franc luxembourgeois" "franc luxembourgeois" "francs luxembourgeois"),
   ("LUL", counted "franc financier luxembourgeois" "franc financier luxembourgeois"
     "francs financiers luxembourgeois"),
   ("LVL", counted "lats letton" "lats letton" "lats lettons"),
   ("LVR", counted "rouble letton" "rouble letton" "roubles lettons"),
   ("LYD", counted "dinar libyen" "dinar libyen" "dinars libyens"),
   ("MAD", counted "dirham marocain" "dirham marocain" "dirhams marocains"),
   ("MAF", counted "franc marocain" "franc marocain" "francs marocains"),
   ("MDL", counted "leu moldave" "leu moldave" "leus moldaves"),
   ("MGA", counted "ariary malgache" "ariary malgache" "ariarys malgaches"),
   ("MGF", counted "franc malgache" "franc malgache" "francs malgaches"),
   ("MKD", counted "denar macédonien" "denar macédonien" "denars macédoniens"),
   ("MLF", counted "franc malien" "franc malien" "francs maliens"),
   ("MMK", counted "kyat myanmarais" "kyat myanmarais" "kyats myanmarais"),
   ("MNT", counted "tugrik mongol" "tugrik mongol" "tugriks mongols"),
   ("MOP", counted "pataca macanaise" "pataca macanaise" "patacas macanaises"),
   ("MRO", counted "ouguiya mauritanien (1973–2017)" "ouguiya mauritanien (1973–2017)"
     "ouguiyas mauritaniens (1973–2017)"),
   ("MRU", counted "ouguiya mauritanien" "ouguiya mauritanien" "ouguiyas mauritaniens"),
   ("MTL", counted "lire maltaise" "lire maltaise" "lires maltaises"),
   ("MTP", counted "livre maltaise" "livre maltaise" "livres maltaises"),
   ("MUR", counted "roupie mauricienne" "roupie mauricienne" "roupies mauriciennes"),
   ("MVR", counted "rufiyaa maldivienne" "rufiyaa maldivienne" "rufiyaas maldiviennes"),
   ("MWK", counted "kwacha malawite" "kwacha malawite" "kwachas malawites"),
   ("MXN", counted "peso mexicain" "peso mexicain" "pesos mexicains"),
   ("MXP", counted "peso d’argent mexicain (1861–1992)" "peso d’argent mexicain (1861–1992)"
     "pesos d’argent mexicains (1861–1992)"),
   ("MXV", counted "unité de conversion mexicaine (UDI)" "unité de conversion mexicaine (UDI)"
     "unités de conversion mexicaines (UDI)"),
   ("MYR", counted "ringgit malais" "ringgit malais" "ringgits malais"),
   ("MZE", counted "escudo mozambicain" "escudo mozambicain" "escudos mozambicains"),
   ("MZM", counted "métical" "metical mozambicain (1980–2006)" "meticais mozambicains (1980–2006)"),
   ("MZN", counted "metical mozambicain" "metical mozambicain" "meticais mozambicains"),
   ("NAD", counted "dollar namibien" "dollar namibien" "dollars namibiens"),
   ("NGN", counted "naira nigérian" "naira nigérian" "nairas nigérians"),
   ("NIC", counted "cordoba" "córdoba nicaraguayen (1912–1988)"
     "córdobas nicaraguayens (1912–1988)"),
   ("NIO", counted "córdoba oro nicaraguayen" "córdoba oro nicaraguayen"
     "córdobas oro nicaraguayens"),
   ("NLG", counted "florin néerlandais" "florin néerlandais" "florins néerlandais"),
   ("NOK", counted "couronne norvégienne" "couronne norvégienne" "couronnes norvégiennes"),
   ("NPR", counted "roupie népalaise" "roupie népalaise" "roupies népalaises"),
   ("NZD", counted "dollar néo-zélandais" "dollar néo-zélandais" "dollars néo-zélandais"),
   ("OMR", counted "riyal omanais" "riyal omanais" "riyals omanis"),
   ("PAB", counted "balboa panaméen" "balboa panaméen" "balboas panaméens"),
   ("PEI", counted "inti péruvien" "inti péruvien" "intis péruviens"),
   ("PEN", counted "sol péruvien" "sol péruvien" "sols péruviens"),
   ("PES", counted "sol péruvien (1863–1985)" "sol péruvien (1863–1985)"
     "sols péruviens (1863–1985)"),
   ("PGK", counted "kina papouan-néo-guinéen" "kina papouan-néo-guinéen"
     "kinas papouan-néo-guinéens"),
   ("PHP", counted "peso philippin" "peso philippin" "pesos philippins"),
   ("PKR", counted "roupie pakistanaise" "roupie pakistanaise" "roupies pakistanaises"),
   ("PLN", counted "zloty polonais" "zloty polonais" "zlotys polonais"),
   ("PLZ", counted "zloty (1950–1995)" "zloty polonais (1950–1995)" "zlotys polonais (1950–1995)"),
   ("PTE", counted "escudo portugais" "escudo portugais" "escudos portugais"),
   ("PYG", counted "guaraní paraguayen" "guaraní paraguayen" "guaranís paraguayens"),
   ("QAR", counted "riyal qatari" "riyal qatari" "riyals qataris"),
   ("RHD", counted "dollar rhodésien" "dollar rhodésien" "dollars rhodésiens"),
   ("ROL", counted "ancien leu roumain" "leu roumain (1952–2005)" "lei roumains (1952–2005)"),
   ("RON", counted "leu roumain" "leu roumain" "lei roumains"),
   ("RSD", counted "dinar serbe" "dinar serbe" "dinars serbes"),
   ("RUB", counted "rouble russe" "rouble russe" "roubles russes"),
   ("RUR", counted "rouble russe (1991–1998)" "rouble russe (1991–1998)"
     "roubles russes (1991–1998)"),
   ("RWF", counted "franc rwandais" "franc rwandais" "francs rwandais"),
   ("SAR", counted "riyal saoudien" "riyal saoudien" "riyals saoudiens"),
   ("SBD", counted "dollar des îles Salomon" "dollar des îles Salomon" "dollars des îles Salomon"),
   ("SCR", counted "roupie des Seychelles" "roupie des Seychelles" "roupies des Seychelles"),
   ("SDD", counted "dinar soudanais" "dinar soudanais (1992–2007)" "dinars soudanais (1992–2007)"),
   ("SDG", counted "livre soudanaise" "livre soudanaise" "livres soudanaises"),
   ("SDP", counted "livre soudanaise (1956–2007)" "livre soudanaise (1956–2007)"
     "livres soudanaises (1956–2007)"),
   ("SEK", counted "couronne suédoise" "couronne suédoise" "couronnes suédoises"),
   ("SGD", counted "dollar de Singapour" "dollar de Singapour" "dollars de Singapour"),
   ("SHP", counted "livre de Sainte-Hélène" "livre de Sainte-Hélène" "livres de Sainte-Hélène"),
   ("SIT", counted "tolar slovène" "tolar slovène" "tolars slovènes"),
   ("SKK", counted "couronne slovaque" "couronne slovaque" "couronnes slovaques"),
   ("SLE", counted "leone sierra-léonais" "leone sierra-léonais" "leones sierra-léonais"),
   ("SLL", counted "leone sierra-léonais (1964—2022)" "leone sierra-léonais (1964—2022)"
     "leones sierra-léonais (1964—2022)"),
   ("SOS", counted "shilling somalien" "shilling somalien" "shillings somaliens"),
   ("SRD", counted "dollar surinamais" "dollar surinamais" "dollars surinamais"),
   ("SRG", counted "florin surinamais" "florin surinamais" "florins surinamais"),
   ("SSP", counted "livre sud-soudanaise" "livre sud-soudanaise" "livres sud-soudanaises"),
   ("STD", counted "dobra santoméen (1977–2017)" "dobra santoméen (1977–2017)"
     "dobras santoméens (1977–2017)"),
   ("STN", counted "dobra santoméen" "dobra santoméen" "dobras santoméens"),
   ("SUR", counted "rouble soviétique" "rouble soviétique" "roubles soviétiques"),
   ("SVC", counted "colón salvadorien" "colón salvadorien" "colóns salvadoriens"),
   ("SYP", counted "livre syrienne" "livre syrienne" "livres syriennes"),
   ("SZL", counted "lilangeni swazi" "lilangeni swazi" "lilangenis swazis"),
   ("THB", counted "baht thaïlandais" "baht thaïlandais" "bahts thaïlandais"),
   ("TJR", counted "rouble tadjik" "rouble tadjik" "roubles tadjiks"),
   ("TJS", counted "somoni tadjik" "somoni tadjik" "somonis tadjiks"),
   ("TMM", counted "manat turkmène" "manat turkmène" "manats turkmènes"),
   ("TMT", counted "nouveau manat turkmène" "nouveau manat turkmène" "nouveaux manats turkmènes"),
   ("TND", counted "dinar tunisien" "dinar tunisien" "dinars tunisiens"),
   ("TOP", counted "pa’anga tongan" "pa’anga tongan" "pa’angas tongans"),
   ("TPE", counted "escudo timorais" "escudo timorais" "escudos timorais"),
   ("TRL", counted "livre turque (1844–2005)" "livre turque (1844–2005)"
     "livres turques (1844–2005)"), ("TRY", counted "livre turque" "livre turque" "livres turques"),
   ("TTD", counted "dollar de Trinité-et-Tobago" "dollar de Trinité-et-Tobago"
     "dollars de Trinité-et-Tobago"),
   ("TWD", counted "nouveau dollar taïwanais" "nouveau dollar taïwanais"
     "nouveaux dollars taïwanais"),
   ("TZS", counted "shilling tanzanien" "shilling tanzanien" "shillings tanzaniens"),
   ("UAH", counted "hryvnia ukrainienne" "hryvnia ukrainienne" "hryvnias ukrainiennes"),
   ("UAK", counted "karbovanetz" "karbovanets ukrainien (1992–1996)"
     "karbovanets ukrainiens (1992–1996)"),
   ("UGS", counted "shilling ougandais (1966–1987)" "shilling ougandais (1966–1987)"
     "shillings ougandais (1966–1987)"),
   ("UGX", counted "shilling ougandais" "shilling ougandais" "shillings ougandais"),
   ("USD", counted "dollar des États-Unis" "dollar des États-Unis" "dollars des États-Unis"),
   ("USN", counted "dollar des Etats-Unis (jour suivant)" "dollar des États-Unis (jour suivant)"
     "dollars des États-Unis (jour suivant)"),
   ("USS", counted "dollar des Etats-Unis (jour même)" "dollar des États-Unis (jour même)"
     "dollars des États-Unis (jour même)"),
   ("UYI", counted "peso uruguayen (unités indexées)" "peso uruguayen (unités indexées)"
     "pesos uruguayen (unités indexées)"),
   ("UYP", counted "peso uruguayen (1975–1993)" "peso uruguayen (1975–1993)"
     "pesos uruguayens (1975–1993)"),
   ("UYU", counted "peso uruguayen" "peso uruguayen" "pesos uruguayens"),
   ("UZS", counted "sum ouzbek" "sum ouzbek" "sums ouzbeks"),
   ("VEB", only "bolivar vénézuélien (1871–2008)"),
   ("VEF", counted "bolivar vénézuélien (2008–2018)" "bolivar vénézuélien (2008–2018)"
     "bolivars vénézuéliens (2008–2018)"),
   ("VES", counted "bolivar vénézuélien" "bolivar vénézuélien" "bolivars vénézuéliens"),
   ("VND", counted "dông vietnamien" "dông vietnamien" "dôngs vietnamiens"),
   ("VUV", counted "vatu vanuatuan" "vatu vanuatuan" "vatus vanuatuans"),
   ("WST", counted "tala samoan" "tala samoan" "talas samoans"),
   ("XAF", counted "franc CFA (BEAC)" "franc CFA (BEAC)" "francs CFA (BEAC)"),
   ("XAG", counted "argent" "once troy d’argent" "onces troy d’argent"),
   ("XAU", counted "or" "once troy d’or" "onces troy d’or"),
   ("XBA", counted "unité européenne composée" "unité composée européenne (EURCO)"
     "unités composées européennes (EURCO)"),
   ("XBB", counted "unité monétaire européenne" "unité monétaire européenne (UME–6)"
     "unités monétaires européennes (UME–6)"),
   ("XBC", counted "unité de compte européenne (XBC)" "unité de compte 9 européenne (UEC–9)"
     "unités de compte 9 européennes (UEC–9)"),
   ("XBD", counted "unité de compte européenne (XBD)" "unité de compte 17 européenne (UEC–17)"
     "unités de compte 17 européennes (UEC–17)"),
   ("XCD", counted "dollar des Caraïbes orientales" "dollar des Caraïbes orientales"
     "dollars des Caraïbes orientales"),
   ("XCG", counted "florin caribéen" "florin caribéen" "florins caribéens"),
   ("XDR", counted "droit de tirage spécial" "droit de tirage spécial" "droits de tirage spéciaux"),
   ("XEU", only "unité de compte européenne (ECU)"),
   ("XFO", counted "franc or" "franc or" "francs or"),
   ("XFU", counted "franc UIC" "franc UIC" "francs UIC"),
   ("XOF", counted "franc CFA (BCEAO)" "franc CFA (BCEAO)" "francs CFA (BCEAO)"),
   ("XPD", counted "palladium" "once troy de palladium" "onces troy de palladium"),
   ("XPF", counted "franc CFP" "franc CFP" "francs CFP"),
   ("XPT", counted "platine" "once troy de platine" "onces troy de platine"),
   ("XRE", counted "type de fonds RINET" "unité de fonds RINET" "unités de fonds RINET"),
   ("XTS", counted "(devise de test)" "(devise de test)" "(devises de test)"),
   ("XXX", counted "devise inconnue ou non valide" "devise inconnue" "devises inconnues"),
   ("YDD", counted "dinar du Yémen" "dinar nord-yéménite" "dinars nord-yéménites"),
   ("YER", counted "riyal yéménite" "riyal yéménite" "riyals yéménites"),
   ("YUD", counted "nouveau dinar yougoslave" "dinar fort yougoslave (1966–1989)"
     "dinars forts yougoslaves (1966–1989)"),
   ("YUM", counted "dinar yougoslave Noviy" "nouveau dinar yougoslave (1994–2003)"
     "nouveaux dinars yougoslaves (1994–2003)"),
   ("YUN", counted "dinar yougoslave convertible" "dinar convertible yougoslave (1990–1992)"
     "dinars convertibles yougoslaves (1990–1992)"),
   ("ZAL", counted "rand sud-africain (financier)" "rand sud-africain (financier)"
     "rands sud-africains (financiers)"),
   ("ZAR", counted "rand sud-africain" "rand sud-africain" "rands sud-africains"),
   ("ZMK", counted "kwacha zambien (1968–2012)" "kwacha zambien (1968–2012)"
     "kwachas zambiens (1968–2012)"),
   ("ZMW", counted "kwacha zambien" "kwacha zambien" "kwachas zambiens"),
   ("ZRN", counted "nouveau zaïre zaïrien" "nouveau zaïre zaïrien" "nouveaux zaïres zaïriens"),
   ("ZRZ", counted "zaïre zaïrois" "zaïre zaïrois" "zaïres zaïrois"),
   ("ZWD", counted "dollar zimbabwéen" "dollar zimbabwéen" "dollars zimbabwéens"),
   ("ZWG", counted "or du Zimbabwe" "or du Zimbabwe" "or du Zimbabwe"),
   ("ZWL", counted "dollar zimbabwéen (2009)" "dollar zimbabwéen (2009)"
     "dollars zimbabwéens (2009)"),
   ("ZWR", counted "dollar zimbabwéen (2008)" "dollar zimbabwéen (2008)"
     "dollars zimbabwéens (2008)")]

end Parlance.CurrencyNames
