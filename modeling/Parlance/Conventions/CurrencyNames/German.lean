import Parlance.Conventions.Basic

/-!
# Names of currencies in German

The names of currencies by their codes, and the names for amounts where they differ from the name of
the currency itself, by the Common Locale Data Repository.
-/

namespace Parlance.CurrencyNames

/-- The names of currencies in German. -/
def german : Assoc CurrencyNames :=
  [("ADP", counted "Andorranische Pesete" "Andorranische Pesete" "Andorranische Peseten"),
   ("AED", only "VAE-Dirham"), ("AFA", only "Afghanische Afghani (1927–2002)"),
   ("AFN", counted "Afghanischer Afghani" "Afghanischer Afghani" "Afghanische Afghani"),
   ("ALK", counted "Albanischer Lek (1946–1965)" "Albanischer Lek (1946–1965)"
     "Albanische Lek (1946–1965)"),
   ("ALL", counted "Albanischer Lek" "Albanischer Lek" "Albanische Lek"),
   ("AMD", counted "Armenischer Dram" "Armenischer Dram" "Armenische Dram"),
   ("ANG", only "Niederländische-Antillen-Gulden"),
   ("AOA", counted "Angolanischer Kwanza" "Angolanischer Kwanza" "Angolanische Kwanza"),
   ("AOK", counted "Angolanischer Kwanza (1977–1990)" "Angolanischer Kwanza (1977–1990)"
     "Angolanische Kwanza (1977–1990)"),
   ("AON", counted "Angolanischer Neuer Kwanza (1990–2000)"
     "Angolanischer Neuer Kwanza (1990–2000)" "Angolanische Neue Kwanza (1990–2000)"),
   ("AOR", counted "Angolanischer Kwanza Reajustado (1995–1999)"
     "Angolanischer Kwanza Reajustado (1995–1999)" "Angolanische Kwanza Reajustado (1995–1999)"),
   ("ARA", counted "Argentinischer Austral" "Argentinischer Austral" "Argentinische Austral"),
   ("ARL", counted "Argentinischer Peso Ley (1970–1983)" "Argentinischer Peso Ley (1970–1983)"
     "Argentinische Pesos Ley (1970–1983)"),
   ("ARM", counted "Argentinischer Peso (1881–1970)" "Argentinischer Peso (1881–1970)"
     "Argentinische Pesos (1881–1970)"),
   ("ARP", counted "Argentinischer Peso (1983–1985)" "Argentinischer Peso (1983–1985)"
     "Argentinische Peso (1983–1985)"),
   ("ARS", counted "Argentinischer Peso" "Argentinischer Peso" "Argentinische Pesos"),
   ("ATS", counted "Österreichischer Schilling" "Österreichischer Schilling"
     "Österreichische Schilling"),
   ("AUD", counted "Australischer Dollar" "Australischer Dollar" "Australische Dollar"),
   ("AWG", only "Aruba-Florin"), ("AZM", only "Aserbaidschan-Manat (1993–2006)"),
   ("AZN", only "Aserbaidschan-Manat"), ("BAD", only "Bosnien und Herzegowina Dinar (1992–1994)"),
   ("BAM", only "Konvertible Mark Bosnien und Herzegowina"),
   ("BAN", counted "Bosnien und Herzegowina Neuer Dinar (1994–1997)"
     "Bosnien und Herzegowina Neuer Dinar (1994–1997)"
     "Bosnien und Herzegowina Neue Dinar (1994–1997)"),
   ("BBD", only "Barbados-Dollar"), ("BDT", only "Bangladesch-Taka"),
   ("BEC", counted "Belgischer Franc (konvertibel)" "Belgischer Franc (konvertibel)"
     "Belgische Franc (konvertibel)"),
   ("BEF", counted "Belgischer Franc" "Belgischer Franc" "Belgische Franc"),
   ("BEL", counted "Belgischer Finanz-Franc" "Belgischer Finanz-Franc" "Belgische Finanz-Franc"),
   ("BGL", only "Bulgarische Lew (1962–1999)"),
   ("BGM", counted "Bulgarischer Lew (1952–1962)" "Bulgarischer Lew (1952–1962)"
     "Bulgarische Lew (1952–1962)"),
   ("BGN", counted "Bulgarischer Lew" "Bulgarischer Lew" "Bulgarische Lew"),
   ("BGO", counted "Bulgarischer Lew (1879–1952)" "Bulgarischer Lew (1879–1952)"
     "Bulgarische Lew (1879–1952)"), ("BHD", only "Bahrain-Dinar"),
   ("BIF", counted "Burundi-Franc" "Burundi-Franc" "Burundi-Francs"),
   ("BMD", only "Bermuda-Dollar"), ("BND", only "Brunei-Dollar"),
   ("BOB", counted "Bolivianischer Boliviano" "Bolivianischer Boliviano"
     "Bolivianische Bolivianos"),
   ("BOL", counted "Bolivianischer Boliviano (1863–1963)" "Bolivianischer Boliviano (1863–1963)"
     "Bolivianische Bolivianos (1863–1963)"),
   ("BOP", counted "Bolivianischer Peso" "Bolivianischer Peso" "Bolivianische Peso"),
   ("BOV", counted "Boliviansiche Mvdol" "Boliviansiche Mvdol" "Bolivianische Mvdol"),
   ("BRB", counted "Brasilianischer Cruzeiro Novo (1967–1986)"
     "Brasilianischer Cruzeiro Novo (1967–1986)" "Brasilianische Cruzeiro Novo (1967–1986)"),
   ("BRC", counted "Brasilianischer Cruzado (1986–1989)" "Brasilianischer Cruzado (1986–1989)"
     "Brasilianische Cruzado (1986–1989)"),
   ("BRE", counted "Brasilianischer Cruzeiro (1990–1993)" "Brasilianischer Cruzeiro (1990–1993)"
     "Brasilianische Cruzeiro (1990–1993)"),
   ("BRL", counted "Brasilianischer Real" "Brasilianischer Real" "Brasilianische Real"),
   ("BRN", counted "Brasilianischer Cruzado Novo (1989–1990)"
     "Brasilianischer Cruzado Novo (1989–1990)" "Brasilianische Cruzado Novo (1989–1990)"),
   ("BRR", counted "Brasilianischer Cruzeiro (1993–1994)" "Brasilianischer Cruzeiro (1993–1994)"
     "Brasilianische Cruzeiro (1993–1994)"), ("BRZ", only "Brasilianischer Cruzeiro (1942–1967)"),
   ("BSD", only "Bahamas-Dollar"), ("BTN", only "Bhutan-Ngultrum"),
   ("BUK", counted "Birmanischer Kyat" "Birmanischer Kyat" "Birmanische Kyat"),
   ("BWP", counted "Botswanischer Pula" "Botswanischer Pula" "Botswanische Pula"),
   ("BYB", only "Belarus-Rubel (1994–1999)"),
   ("BYN", counted "Weißrussischer Rubel" "Weißrussischer Rubel" "Weißrussische Rubel"),
   ("BYR", counted "Weißrussischer Rubel (2000–2016)" "Weißrussischer Rubel (2000–2016)"
     "Weißrussische Rubel (2000–2016)"), ("BZD", only "Belize-Dollar"),
   ("CAD", counted "Kanadischer Dollar" "Kanadischer Dollar" "Kanadische Dollar"),
   ("CDF", counted "Kongo-Franc" "Kongo-Franc" "Kongo-Francs"), ("CHE", only "WIR-Euro"),
   ("CHF", only "Schweizer Franken"), ("CHW", only "WIR Franken"),
   ("CLE", counted "Chilenischer Escudo" "Chilenischer Escudo" "Chilenische Escudo"),
   ("CLF", only "Chilenische Unidades de Fomento"),
   ("CLP", counted "Chilenischer Peso" "Chilenischer Peso" "Chilenische Pesos"),
   ("CNH", only "Renminbi-Yuan (Offshore)"), ("CNX", only "Dollar der Chinesischen Volksbank"),
   ("CNY", counted "Renminbi Yuan" "Chinesischer Yuan" "Renminbi Yuan"),
   ("COP", counted "Kolumbianischer Peso" "Kolumbianischer Peso" "Kolumbianische Pesos"),
   ("COU", counted "Kolumbianische Unidades de valor real" "Kolumbianische Unidad de valor real"
     "Kolumbianische Unidades de valor real"), ("CRC", only "Costa-Rica-Colón"),
   ("CSD", counted "Serbischer Dinar (2002–2006)" "Serbischer Dinar (2002–2006)"
     "Serbische Dinar (2002–2006)"),
   ("CSK", counted "Tschechoslowakische Krone" "Tschechoslowakische Kronen"
     "Tschechoslowakische Kronen"),
   ("CUC", counted "Kubanischer Peso (konvertibel)" "Kubanischer Peso (konvertibel)"
     "Kubanische Pesos (konvertibel)"),
   ("CUP", counted "Kubanischer Peso" "Kubanischer Peso" "Kubanische Pesos"),
   ("CVE", counted "Cabo-Verde-Escudo" "Cabo-Verde-Escudo" "Cabo-Verde-Escudos"),
   ("CYP", counted "Zypern-Pfund" "Zypern Pfund" "Zypern Pfund"),
   ("CZK", counted "Tschechische Krone" "Tschechische Krone" "Tschechische Kronen"),
   ("DDM", only "Mark der DDR"), ("DEM", only "Deutsche Mark"), ("DJF", only "Dschibuti-Franc"),
   ("DKK", counted "Dänische Krone" "Dänische Krone" "Dänische Kronen"),
   ("DOP", counted "Dominikanischer Peso" "Dominikanischer Peso" "Dominikanische Pesos"),
   ("DZD", counted "Algerischer Dinar" "Algerischer Dinar" "Algerische Dinar"),
   ("ECS", counted "Ecuadorianischer Sucre" "Ecuadorianischer Sucre" "Ecuadorianische Sucre"),
   ("ECV", counted "Verrechnungseinheit für Ecuador" "Verrechnungseinheiten für Ecuador"
     "Verrechnungseinheiten für Ecuador"),
   ("EEK", counted "Estnische Krone" "Estnische Krone" "Estnische Kronen"),
   ("EGP", counted "Ägyptisches Pfund" "Ägyptisches Pfund" "Ägyptische Pfund"),
   ("ERN", counted "Eritreischer Nakfa" "Eritreischer Nakfa" "Eritreische Nakfa"),
   ("ESA", counted "Spanische Peseta (A–Konten)" "Spanische Peseta (A–Konten)"
     "Spanische Peseten (A–Konten)"),
   ("ESB", counted "Spanische Peseta (konvertibel)" "Spanische Peseta (konvertibel)"
     "Spanische Peseten (konvertibel)"),
   ("ESP", counted "Spanische Peseta" "Spanische Peseta" "Spanische Peseten"),
   ("ETB", counted "Äthiopischer Birr" "Äthiopischer Birr" "Äthiopische Birr"),
   ("EUR", only "Euro"), ("FIM", only "Finnische Mark"), ("FJD", only "Fidschi-Dollar"),
   ("FKP", only "Falkland-Pfund"),
   ("FRF", counted "Französischer Franc" "Französischer Franc" "Französische Franc"),
   ("GBP", counted "Britisches Pfund" "Britisches Pfund" "Britische Pfund"),
   ("GEK", counted "Georgischer Kupon Larit" "Georgischer Kupon Larit" "Georgische Kupon Larit"),
   ("GEL", counted "Georgischer Lari" "Georgischer Lari" "Georgische Lari"),
   ("GHC", counted "Ghanaischer Cedi (1979–2007)" "Ghanaischer Cedi (1979–2007)"
     "Ghanaische Cedi (1979–2007)"),
   ("GHS", counted "Ghanaischer Cedi" "Ghanaischer Cedi" "Ghanaische Cedi"),
   ("GIP", only "Gibraltar-Pfund"), ("GMD", only "Gambia-Dalasi"), ("GNF", only "Guinea-Franc"),
   ("GNS", counted "Guineischer Syli" "Guineischer Syli" "Guineische Syli"),
   ("GQE", only "Äquatorialguinea-Ekwele"),
   ("GRD", counted "Griechische Drachme" "Griechische Drachme" "Griechische Drachmen"),
   ("GTQ", counted "Guatemaltekischer Quetzal" "Guatemaltekischer Quetzal"
     "Guatemaltekische Quetzales"), ("GWE", only "Portugiesisch Guinea Escudo"),
   ("GWP", counted "Guinea-Bissau Peso" "Guinea-Bissau Peso" "Guinea-Bissau Pesos"),
   ("GYD", only "Guyana-Dollar"), ("HKD", only "Hongkong-Dollar"), ("HNL", only "Honduras-Lempira"),
   ("HRD", counted "Kroatischer Dinar" "Kroatischer Dinar" "Kroatische Dinar"),
   ("HRK", counted "Kroatischer Kuna" "Kroatischer Kuna" "Kroatische Kuna"),
   ("HTG", counted "Haitianische Gourde" "Haitianische Gourde" "Haitianische Gourdes"),
   ("HUF", counted "Ungarischer Forint" "Ungarischer Forint" "Ungarische Forint"),
   ("IDR", only "Indonesische Rupiah"),
   ("IEP", counted "Irisches Pfund" "Irisches Pfund" "Irische Pfund"),
   ("ILP", counted "Israelisches Pfund" "Israelisches Pfund" "Israelische Pfund"),
   ("ILR", counted "Israelischer Schekel (1980–1985)" "Israelischer Schekel (1980–1985)"
     "Israelische Schekel (1980–1985)"),
   ("ILS", counted "Israelischer Neuer Schekel" "Israelischer Neuer Schekel"
     "Israelische Neue Schekel"),
   ("INR", counted "Indische Rupie" "Indische Rupie" "Indische Rupien"),
   ("IQD", counted "Irakischer Dinar" "Irakischer Dinar" "Irakische Dinar"),
   ("IRR", counted "Iranischer Rial" "Iranischer Rial" "Iranische Rial"),
   ("ISJ", counted "Isländische Krone (1918–1981)" "Isländische Krone (1918–1981)"
     "Isländische Kronen (1918–1981)"),
   ("ISK", counted "Isländische Krone" "Isländische Krone" "Isländische Kronen"),
   ("ITL", counted "Italienische Lira" "Italienische Lira" "Italienische Lire"),
   ("JMD", only "Jamaika-Dollar"),
   ("JOD", counted "Jordanischer Dinar" "Jordanischer Dinar" "Jordanische Dinar"),
   ("JPY", counted "Japanischer Yen" "Japanischer Yen" "Japanische Yen"),
   ("KES", only "Kenia-Schilling"),
   ("KGS", counted "Kirgisischer Som" "Kirgisischer Som" "Kirgisische Som"),
   ("KHR", counted "Kambodschanischer Riel" "Kambodschanischer Riel" "Kambodschanische Riel"),
   ("KMF", counted "Komoren-Franc" "Komoren-Franc" "Komoren-Francs"),
   ("KPW", counted "Nordkoreanischer Won" "Nordkoreanischer Won" "Nordkoreanische Won"),
   ("KRH", only "Südkoreanischer Hwan (1953–1962)"),
   ("KRO", only "Südkoreanischer Won (1945–1953)"),
   ("KRW", counted "Südkoreanischer Won" "Südkoreanischer Won" "Südkoreanische Won"),
   ("KWD", only "Kuwait-Dinar"), ("KYD", only "Kaiman-Dollar"),
   ("KZT", counted "Kasachischer Tenge" "Kasachischer Tenge" "Kasachische Tenge"),
   ("LAK", counted "Laotischer Kip" "Laotischer Kip" "Laotische Kip"),
   ("LBP", counted "Libanesisches Pfund" "Libanesisches Pfund" "Libanesische Pfund"),
   ("LKR", counted "Sri-Lanka-Rupie" "Sri-Lanka-Rupie" "Sri-Lanka-Rupien"),
   ("LRD", counted "Liberianischer Dollar" "Liberianischer Dollar" "Liberianische Dollar"),
   ("LSL", only "Loti"),
   ("LTL", counted "Litauischer Litas" "Litauischer Litas" "Litauische Litas"),
   ("LTT", counted "Litauischer Talonas" "Litauische Talonas" "Litauische Talonas"),
   ("LUC", counted "Luxemburgischer Franc (konvertibel)" "Luxemburgische Franc (konvertibel)"
     "Luxemburgische Franc (konvertibel)"),
   ("LUF", counted "Luxemburgischer Franc" "Luxemburgische Franc" "Luxemburgische Franc"),
   ("LUL", counted "Luxemburgischer Finanz-Franc" "Luxemburgische Finanz-Franc"
     "Luxemburgische Finanz-Franc"),
   ("LVL", counted "Lettischer Lats" "Lettischer Lats" "Lettische Lats"),
   ("LVR", counted "Lettischer Rubel" "Lettische Rubel" "Lettische Rubel"),
   ("LYD", counted "Libyscher Dinar" "Libyscher Dinar" "Libysche Dinar"),
   ("MAD", counted "Marokkanischer Dirham" "Marokkanischer Dirham" "Marokkanische Dirham"),
   ("MAF", counted "Marokkanischer Franc" "Marokkanische Franc" "Marokkanische Franc"),
   ("MCF", counted "Monegassischer Franc" "Monegassischer Franc" "Monegassische Franc"),
   ("MDC", only "Moldau-Cupon"), ("MDL", only "Moldau-Leu"), ("MGA", only "Madagaskar-Ariary"),
   ("MGF", only "Madagaskar-Franc"),
   ("MKD", counted "Mazedonischer Denar" "Mazedonischer Denar" "Mazedonische Denari"),
   ("MKN", counted "Mazedonischer Denar (1992–1993)" "Mazedonischer Denar (1992–1993)"
     "Mazedonische Denar (1992–1993)"),
   ("MLF", counted "Malischer Franc" "Malische Franc" "Malische Franc"),
   ("MMK", counted "Myanmarischer Kyat" "Myanmarischer Kyat" "Myanmarische Kyat"),
   ("MNT", counted "Mongolischer Tögrög" "Mongolischer Tögrög" "Mongolische Tögrög"),
   ("MOP", only "Macao-Pataca"),
   ("MRO", counted "Mauretanischer Ouguiya (1973–2017)" "Mauretanischer Ouguiya (1973–2017)"
     "Mauretanische Ouguiya (1973–2017)"),
   ("MRU", counted "Mauretanischer Ouguiya" "Mauretanischer Ouguiya" "Mauretanische Ouguiya"),
   ("MTL", only "Maltesische Lira"),
   ("MTP", counted "Maltesisches Pfund" "Maltesische Pfund" "Maltesische Pfund"),
   ("MUR", counted "Mauritius-Rupie" "Mauritius-Rupie" "Mauritius-Rupien"),
   ("MVP", counted "Malediven-Rupie (alt)" "Malediven-Rupie (alt)" "Malediven-Rupien (alt)"),
   ("MVR", counted "Malediven-Rufiyaa" "Malediven-Rufiyaa" "Malediven-Rufiyaa"),
   ("MWK", only "Malawi-Kwacha"),
   ("MXN", counted "Mexikanischer Peso" "Mexikanischer Peso" "Mexikanische Pesos"),
   ("MXP", counted "Mexikanischer Silber-Peso (1861–1992)" "Mexikanische Silber-Peso (1861–1992)"
     "Mexikanische Silber-Pesos (1861–1992)"),
   ("MXV", counted "Mexicanischer Unidad de Inversion (UDI)"
     "Mexicanischer Unidad de Inversion (UDI)" "Mexikanische Unidad de Inversion (UDI)"),
   ("MYR", counted "Malaysischer Ringgit" "Malaysischer Ringgit" "Malaysische Ringgit"),
   ("MZE", counted "Mosambikanischer Escudo" "Mozambikanische Escudo" "Mozambikanische Escudo"),
   ("MZM", counted "Mosambikanischer Metical (1980–2006)" "Mosambikanischer Metical (1980–2006)"
     "Mosambikanische Meticais (1980–2006)"),
   ("MZN", counted "Mosambikanischer Metical" "Mosambikanischer Metical"
     "Mosambikanische Meticais"), ("NAD", only "Namibia-Dollar"),
   ("NGN", counted "Nigerianischer Naira" "Nigerianischer Naira" "Nigerianische Naira"),
   ("NIC", counted "Nicaraguanischer Córdoba (1988–1991)" "Nicaraguanischer Córdoba (1988–1991)"
     "Nicaraguanische Córdoba (1988–1991)"),
   ("NIO", counted "Nicaragua-Córdoba" "Nicaragua-Córdoba" "Nicaragua-Córdobas"),
   ("NLG", counted "Niederländischer Gulden" "Niederländischer Gulden" "Niederländische Gulden"),
   ("NOK", counted "Norwegische Krone" "Norwegische Krone" "Norwegische Kronen"),
   ("NPR", counted "Nepalesische Rupie" "Nepalesische Rupie" "Nepalesische Rupien"),
   ("NZD", only "Neuseeland-Dollar"),
   ("OMR", counted "Omanischer Rial" "Omanischer Rial" "Omanische Rials"),
   ("PAB", counted "Panamaischer Balboa" "Panamaischer Balboa" "Panamaische Balboas"),
   ("PEI", counted "Peruanischer Inti" "Peruanische Inti" "Peruanische Inti"),
   ("PEN", counted "Peruanischer Sol" "Peruanischer Sol" "Peruanische Sol"),
   ("PES", counted "Peruanischer Sol (1863–1965)" "Peruanischer Sol (1863–1965)"
     "Peruanische Sol (1863–1965)"), ("PGK", only "Papua-neuguineischer Kina"),
   ("PHP", counted "Philippinischer Peso" "Philippinischer Peso" "Philippinische Pesos"),
   ("PKR", counted "Pakistanische Rupie" "Pakistanische Rupie" "Pakistanische Rupien"),
   ("PLN", counted "Polnischer Złoty" "Polnischer Złoty" "Polnische Złoty"),
   ("PLZ", counted "Polnischer Zloty (1950–1995)" "Polnischer Zloty (1950–1995)"
     "Polnische Zloty (1950–1995)"),
   ("PTE", counted "Portugiesischer Escudo" "Portugiesische Escudo" "Portugiesische Escudo"),
   ("PYG", counted "Paraguayischer Guaraní" "Paraguayischer Guaraní" "Paraguayische Guaraníes"),
   ("QAR", only "Katar-Riyal"),
   ("RHD", counted "Rhodesischer Dollar" "Rhodesische Dollar" "Rhodesische Dollar"),
   ("ROL", counted "Rumänischer Leu (1952–2006)" "Rumänischer Leu (1952–2006)"
     "Rumänische Leu (1952–2006)"),
   ("RON", counted "Rumänischer Leu" "Rumänischer Leu" "Rumänische Leu"),
   ("RSD", counted "Serbischer Dinar" "Serbischer Dinar" "Serbische Dinaren"),
   ("RUB", counted "Russischer Rubel" "Russischer Rubel" "Russische Rubel"),
   ("RUR", counted "Russischer Rubel (1991–1998)" "Russischer Rubel (1991–1998)"
     "Russische Rubel (1991–1998)"), ("RWF", counted "Ruanda-Franc" "Ruanda-Franc" "Ruanda-Francs"),
   ("SAR", only "Saudi-Rial"), ("SBD", only "Salomonen-Dollar"),
   ("SCR", counted "Seychellen-Rupie" "Seychellen-Rupie" "Seychellen-Rupien"),
   ("SDD", counted "Sudanesischer Dinar (1992–2007)" "Sudanesischer Dinar (1992–2007)"
     "Sudanesische Dinar (1992–2007)"),
   ("SDG", counted "Sudanesisches Pfund" "Sudanesisches Pfund" "Sudanesische Pfund"),
   ("SDP", counted "Sudanesisches Pfund (1957–1998)" "Sudanesisches Pfund (1957–1998)"
     "Sudanesische Pfund (1957–1998)"),
   ("SEK", counted "Schwedische Krone" "Schwedische Krone" "Schwedische Kronen"),
   ("SGD", only "Singapur-Dollar"), ("SHP", only "St.-Helena-Pfund"),
   ("SIT", counted "Slowenischer Tolar" "Slowenischer Tolar" "Slowenische Tolar"),
   ("SKK", counted "Slowakische Krone" "Slowakische Kronen" "Slowakische Kronen"),
   ("SLE", counted "Sierra-leonischer Leone" "Sierra-leonischer Leone" "Sierra-leonische Leones"),
   ("SLL", counted "Sierra-leonischer Leone (1964–2022)" "Sierra-leonischer Leone (1964–2022)"
     "Sierra-leonische Leones (1964–2022)"), ("SOS", only "Somalia-Schilling"),
   ("SRD", only "Suriname-Dollar"),
   ("SRG", counted "Suriname Gulden" "Suriname-Gulden" "Suriname-Gulden"),
   ("SSP", counted "Südsudanesisches Pfund" "Südsudanesisches Pfund" "Südsudanesische Pfund"),
   ("STD", counted "São-toméischer Dobra (1977–2017)" "São-toméischer Dobra (1977–2017)"
     "São-toméische Dobra (1977–2017)"),
   ("STN", counted "São-toméischer Dobra" "São-toméischer Dobra" "São-toméische Dobras"),
   ("SUR", counted "Sowjetischer Rubel" "Sowjetische Rubel" "Sowjetische Rubel"),
   ("SVC", counted "El Salvador Colon" "El Salvador-Colon" "El Salvador-Colon"),
   ("SYP", counted "Syrisches Pfund" "Syrisches Pfund" "Syrische Pfund"),
   ("SZL", counted "Swasiländischer Lilangeni" "Swasiländischer Lilangeni"
     "Swasiländische Emalangeni"),
   ("THB", counted "Thailändischer Baht" "Thailändischer Baht" "Thailändische Baht"),
   ("TJR", counted "Tadschikistan Rubel" "Tadschikistan-Rubel" "Tadschikistan-Rubel"),
   ("TJS", only "Tadschikistan-Somoni"), ("TMM", only "Turkmenistan-Manat (1993–2009)"),
   ("TMT", only "Turkmenistan-Manat"),
   ("TND", counted "Tunesischer Dinar" "Tunesischer Dinar" "Tunesische Dinar"),
   ("TOP", counted "Tongaischer Paʻanga" "Tongaischer Paʻanga" "Tongaische Paʻanga"),
   ("TPE", only "Timor-Escudo"), ("TRL", only "Türkische Lira (1922–2005)"),
   ("TRY", only "Türkische Lira"), ("TTD", only "Trinidad-und-Tobago-Dollar"),
   ("TWD", counted "Neuer Taiwan-Dollar" "Neuer Taiwan-Dollar" "Neue Taiwan-Dollar"),
   ("TZS", only "Tansania-Schilling"),
   ("UAH", counted "Ukrainische Hrywnja" "Ukrainische Hrywnja" "Ukrainische Hrywen"),
   ("UAK", counted "Ukrainischer Karbovanetz" "Ukrainische Karbovanetz" "Ukrainische Karbovanetz"),
   ("UGS", only "Uganda-Schilling (1966–1987)"), ("UGX", only "Uganda-Schilling"),
   ("USD", only "US-Dollar"),
   ("USN", counted "US Dollar (Nächster Tag)" "US-Dollar (Nächster Tag)"
     "US-Dollar (Nächster Tag)"),
   ("USS", counted "US Dollar (Gleicher Tag)" "US-Dollar (Gleicher Tag)"
     "US-Dollar (Gleicher Tag)"),
   ("UYI", counted "Uruguayischer Peso (Indexierte Rechnungseinheiten)"
     "Uruguayischer Peso (Indexierte Rechnungseinheiten)"
     "Uruguayische Pesos (Indexierte Rechnungseinheiten)"),
   ("UYP", counted "Uruguayischer Peso (1975–1993)" "Uruguayischer Peso (1975–1993)"
     "Uruguayische Pesos (1975–1993)"),
   ("UYU", counted "Uruguayischer Peso" "Uruguayischer Peso" "Uruguayische Pesos"),
   ("UZS", only "Usbekistan-Sum"),
   ("VEB", counted "Venezolanischer Bolívar (1871–2008)" "Venezolanischer Bolívar (1871–2008)"
     "Venezolanische Bolívares (1871–2008)"),
   ("VEF", counted "Venezolanischer Bolívar (2008–2018)" "Venezolanischer Bolívar (2008–2018)"
     "Venezolanische Bolívares (2008–2018)"),
   ("VES", counted "Venezolanischer Bolívar" "Venezolanischer Bolívar" "Venezolanische Bolívares"),
   ("VND", counted "Vietnamesischer Dong" "Vietnamesischer Dong" "Vietnamesische Dong"),
   ("VNN", counted "Vietnamesischer Dong(1978–1985)" "Vietnamesischer Dong(1978–1985)"
     "Vietnamesische Dong(1978–1985)"), ("VUV", only "Vanuatu-Vatu"),
   ("WST", counted "Samoanischer Tala" "Samoanischer Tala" "Samoanische Tala"),
   ("XAF", only "CFA-Franc (BEAC)"), ("XAG", counted "Unze Silber" "Unze Silber" "Unzen Silber"),
   ("XAU", counted "Unze Gold" "Unze Gold" "Unzen Gold"),
   ("XBA", counted "Europäische Rechnungseinheit" "Europäische Rechnungseinheiten"
     "Europäische Rechnungseinheiten"),
   ("XBB", counted "Europäische Währungseinheit (XBB)" "Europäische Währungseinheiten (XBB)"
     "Europäische Währungseinheiten (XBB)"),
   ("XBC", counted "Europäische Rechnungseinheit (XBC)" "Europäische Rechnungseinheiten (XBC)"
     "Europäische Rechnungseinheiten (XBC)"),
   ("XBD", counted "Europäische Rechnungseinheit (XBD)" "Europäische Rechnungseinheiten (XBD)"
     "Europäische Rechnungseinheiten (XBD)"),
   ("XCD", counted "Ostkaribischer Dollar" "Ostkaribischer Dollar" "Ostkaribische Dollar"),
   ("XCG", counted "Karibischer Gulden" "Karibischer Gulden" "Karibische Gulden"),
   ("XDR", only "Sonderziehungsrechte"),
   ("XEU", counted "Europäische Währungseinheit (XEU)" "Europäische Währungseinheiten (XEU)"
     "Europäische Währungseinheiten (XEU)"),
   ("XFO", counted "Französischer Gold-Franc" "Französische Gold-Franc" "Französische Gold-Franc"),
   ("XFU", counted "Französischer UIC-Franc" "Französische UIC-Franc" "Französische UIC-Franc"),
   ("XOF", counted "CFA-Franc (BCEAO)" "CFA-Franc (BCEAO)" "CFA-Francs (BCEAO)"),
   ("XPD", counted "Unze Palladium" "Unze Palladium" "Unzen Palladium"), ("XPF", only "CFP-Franc"),
   ("XPT", counted "Unze Platin" "Unze Platin" "Unzen Platin"), ("XRE", only "RINET Funds"),
   ("XSU", only "SUCRE"), ("XTS", only "Testwährung"),
   ("XUA", counted "Rechnungseinheit der AfEB" "Rechnungseinheit der AfEB"
     "Rechnungseinheiten der AfEB"),
   ("XXX", counted "Unbekannte Währung" "(unbekannte Währung)" "(unbekannte Währung)"),
   ("YDD", only "Jemen-Dinar"), ("YER", only "Jemen-Rial"),
   ("YUD", counted "Jugoslawischer Dinar (1966–1990)" "Jugoslawischer Dinar (1966–1990)"
     "Jugoslawische Dinar (1966–1990)"),
   ("YUM", counted "Jugoslawischer Neuer Dinar (1994–2002)"
     "Jugoslawischer Neuer Dinar (1994–2002)" "Jugoslawische Neue Dinar (1994–2002)"),
   ("YUN", counted "Jugoslawischer Dinar (konvertibel)" "Jugoslawische Dinar (konvertibel)"
     "Jugoslawische Dinar (konvertibel)"),
   ("YUR", counted "Jugoslawischer reformierter Dinar (1992–1993)"
     "Jugoslawischer reformierter Dinar (1992–1993)" "Jugoslawische reformierte Dinar (1992–1993)"),
   ("ZAL", only "Südafrikanischer Rand (Finanz)"),
   ("ZAR", counted "Südafrikanischer Rand" "Südafrikanischer Rand" "Südafrikanische Rand"),
   ("ZMK", only "Kwacha (1968–2012)"), ("ZMW", only "Kwacha"),
   ("ZRN", counted "Zaire-Neuer Zaïre (1993–1998)" "Zaire-Neuer Zaïre (1993–1998)"
     "Zaire-Neue Zaïre (1993–1998)"), ("ZRZ", only "Zaire-Zaïre (1971–1993)"),
   ("ZWD", only "Simbabwe-Dollar (1980–2008)"),
   ("ZWG", counted "Simbabwe-Gold" "Simbabwe-Gold" "Simbabwe-Gold"),
   ("ZWL", only "Simbabwe-Dollar (2009)"), ("ZWR", only "Simbabwe-Dollar (2008)")]

end Parlance.CurrencyNames
