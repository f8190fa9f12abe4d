import Parlance.Conventions.Basic

/-!
# Names of currencies in English

The names of currencies by their codes, and the names for amounts where they differ from the name of
the currency itself, by the Common Locale Data Repository.
-/

namespace Parlance.CurrencyNames

/-- The names of currencies in English. -/
def english : Assoc CurrencyNames :=
  [("ADP", counted "Andorran Peseta" "Andorran peseta" "Andorran pesetas"),
   ("AED", counted "United Arab Emirates Dirham" "UAE dirham" "UAE dirhams"),
   ("AFA", counted "Afghan Afghani (1927–2002)" "Afghan afghani (1927–2002)"
     "Afghan afghanis (1927–2002)"),
   ("AFN", counted "Afghan Afghani" "Afghan Afghani" "Afghan Afghanis"),
   ("ALK", counted "Albanian Lek (1946–1965)" "Albanian lek (1946–1965)"
     "Albanian lekë (1946–1965)"), ("ALL", counted "Albanian Lek" "Albanian lek" "Albanian lekë"),
   ("AMD", counted "Armenian Dram" "Armenian dram" "Armenian drams"),
   ("ANG", counted "Netherlands Antillean Guilder" "Netherlands Antillean guilder"
     "Netherlands Antillean guilders"),
   ("AOA", counted "Angolan Kwanza" "Angolan kwanza" "Angolan kwanzas"),
   ("AOK", counted "Angolan Kwanza (1977–1991)" "Angolan kwanza (1977–1991)"
     "Angolan kwanzas (1977–1991)"),
   ("AON", counted "Angolan New Kwanza (1990–2000)" "Angolan new kwanza (1990–2000)"
     "Angolan new kwanzas (1990–2000)"),
   ("AOR", counted "Angolan Readjusted Kwanza (1995–1999)" "Angolan readjusted kwanza (1995–1999)"
     "Angolan readjusted kwanzas (1995–1999)"),
   ("ARA", counted "Argentine Austral" "Argentine austral" "Argentine australs"),
   ("ARL", counted "Argentine Peso Ley (1970–1983)" "Argentine peso ley (1970–1983)"
     "Argentine pesos ley (1970–1983)"),
   ("ARM", counted "Argentine Peso (1881–1970)" "Argentine peso (1881–1970)"
     "Argentine pesos (1881–1970)"),
   ("ARP", counted "Argentine Peso (1983–1985)" "Argentine peso (1983–1985)"
     "Argentine pesos (1983–1985)"),
   ("ARS", counted "Argentine Peso" "Argentine peso" "Argentine pesos"),
   ("ATS", counted "Austrian Schilling" "Austrian schilling" "Austrian schillings"),
   ("AUD", counted "Australian Dollar" "Australian dollar" "Australian dollars"),
   ("AWG", counted "Aruban Florin" "Aruban florin" "Aruban florin"),
   ("AZM", counted "Azerbaijani Manat (1993–2006)" "Azerbaijani manat (1993–2006)"
     "Azerbaijani manats (1993–2006)"),
   ("AZN", counted "Azerbaijani Manat" "Azerbaijani manat" "Azerbaijani manats"),
   ("BAD", counted "Bosnia-Herzegovina Dinar (1992–1994)" "Bosnia-Herzegovina dinar (1992–1994)"
     "Bosnia-Herzegovina dinars (1992–1994)"),
   ("BAM", counted "Bosnia-Herzegovina Convertible Mark" "Bosnia-Herzegovina convertible mark"
     "Bosnia-Herzegovina convertible marks"),
   ("BAN", counted "Bosnia-Herzegovina New Dinar (1994–1997)"
     "Bosnia-Herzegovina new dinar (1994–1997)" "Bosnia-Herzegovina new dinars (1994–1997)"),
   ("BBD", counted "Barbadian Dollar" "Barbadian dollar" "Barbadian dollars"),
   ("BDT", counted "Bangladeshi Taka" "Bangladeshi taka" "Bangladeshi takas"),
   ("BEC", counted "Belgian Franc (convertible)" "Belgian franc (convertible)"
     "Belgian francs (convertible)"),
   ("BEF", counted "Belgian Franc" "Belgian franc" "Belgian francs"),
   ("BEL", counted "Belgian Franc (financial)" "Belgian franc (financial)"
     "Belgian francs (financial)"),
   ("BGL", counted "Bulgarian Hard Lev" "Bulgarian hard lev" "Bulgarian hard leva"),
   ("BGM", counted "Bulgarian Socialist Lev" "Bulgarian socialist lev" "Bulgarian socialist leva"),
   ("BGN", counted "Bulgarian Lev" "Bulgarian lev" "Bulgarian leva"),
   ("BGO", counted "Bulgarian Lev (1879–1952)" "Bulgarian lev (1879–1952)"
     "Bulgarian leva (1879–1952)"),
   ("BHD", counted "Bahraini Dinar" "Bahraini dinar" "Bahraini dinars"),
   ("BIF", counted "Burundian Franc" "Burundian franc" "Burundian francs"),
   ("BMD", counted "Bermudan Dollar" "Bermudan dollar" "Bermudan dollars"),
   ("BND", counted "Brunei Dollar" "Brunei dollar" "Brunei dollars"),
   ("BOB", counted "Bolivian Boliviano" "Bolivian boliviano" "Bolivian bolivianos"),
   ("BOL", counted "Bolivian Boliviano (1863–1963)" "Bolivian boliviano (1863–1963)"
     "Bolivian bolivianos (1863–1963)"),
   ("BOP", counted "Bolivian Peso" "Bolivian peso" "Bolivian pesos"),
   ("BOV", counted "Bolivian Mvdol" "Bolivian mvdol" "Bolivian mvdols"),
   ("BRB", counted "Brazilian New Cruzeiro (1967–1986)" "Brazilian new cruzeiro (1967–1986)"
     "Brazilian new cruzeiros (1967–1986)"),
   ("BRC", counted "Brazilian Cruzado (1986–1989)" "Brazilian cruzado (1986–1989)"
     "Brazilian cruzados (1986–1989)"),
   ("BRE", counted "Brazilian Cruzeiro (1990–1993)" "Brazilian cruzeiro (1990–1993)"
     "Brazilian cruzeiros (1990–1993)"),
   ("BRL", counted "Brazilian Real" "Brazilian real" "Brazilian reals"),
   ("BRN", counted "Brazilian New Cruzado (1989–1990)" "Brazilian new cruzado (1989–1990)"
     "Brazilian new cruzados (1989–1990)"),
   ("BRR", counted "Brazilian Cruzeiro (1993–1994)" "Brazilian cruzeiro (1993–1994)"
     "Brazilian cruzeiros (1993–1994)"),
   ("BRZ", counted "Brazilian Cruzeiro (1942–1967)" "Brazilian cruzeiro (1942–1967)"
     "Brazilian cruzeiros (1942–1967)"),
   ("BSD", counted "Bahamian Dollar" "Bahamian dollar" "Bahamian dollars"),
   ("BTN", counted "Bhutanese Ngultrum" "Bhutanese ngultrum" "Bhutanese ngultrums"),
   ("BUK", counted "Burmese Kyat" "Burmese kyat" "Burmese kyats"),
   ("BWP", counted "Botswanan Pula" "Botswanan pula" "Botswanan pulas"),
   ("BYB", counted "Belarusian Ruble (1994–1999)" "Belarusian ruble (1994–1999)"
     "Belarusian rubles (1994–1999)"),
   ("BYN", counted "Belarusian Ruble" "Belarusian ruble" "Belarusian rubles"),
   ("BYR", counted "Belarusian Ruble (2000–2016)" "Belarusian ruble (2000–2016)"
     "Belarusian rubles (2000–2016)"),
   ("BZD", counted "Belize Dollar" "Belize dollar" "Belize dollars"),
   ("CAD", counted "Canadian Dollar" "Canadian dollar" "Canadian dollars"),
   ("CDF", counted "Congolese Franc" "Congolese franc" "Congolese francs"),
   ("CHE", counted "WIR Euro" "WIR euro" "WIR euros"),
   ("CHF", counted "Swiss Franc" "Swiss franc" "Swiss francs"),
   ("CHW", counted "WIR Franc" "WIR franc" "WIR francs"),
   ("CLE", counted "Chilean Escudo" "Chilean escudo" "Chilean escudos"),
   ("CLF", counted "Chilean Unit of Account (UF)" "Chilean unit of account (UF)"
     "Chilean units of account (UF)"),
   ("CLP", counted "Chilean Peso" "Chilean peso" "Chilean pesos"),
   ("CNH", counted "Chinese Yuan (offshore)" "Chinese yuan (offshore)" "Chinese yuan (offshore)"),
   ("CNX", counted "Chinese People’s Bank Dollar" "Chinese People’s Bank dollar"
     "Chinese People’s Bank dollars"),
   ("CNY", counted "Chinese Yuan" "Chinese yuan" "Chinese yuan"),
   ("COP", counted "Colombian Peso" "Colombian peso" "Colombian pesos"),
   ("COU", counted "Colombian Real Value Unit" "Colombian real value unit"
     "Colombian real value units"),
   ("CRC", counted "Costa Rican Colón" "Costa Rican colón" "Costa Rican colóns"),
   ("CSD", counted "Serbian Dinar (2002–2006)" "Serbian dinar (2002–2006)"
     "Serbian dinars (2002–2006)"),
   ("CSK", counted "Czechoslovak Hard Koruna" "Czechoslovak hard koruna"
     "Czechoslovak hard korunas"),
   ("CUC", counted "Cuban Convertible Peso" "Cuban convertible peso" "Cuban convertible pesos"),
   ("CUP", counted "Cuban Peso" "Cuban peso" "Cuban pesos"),
   ("CVE", counted "Cape Verdean Escudo" "Cape Verdean escudo" "Cape Verdean escudos"),
   ("CYP", counted "Cypriot Pound" "Cypriot pound" "Cypriot pounds"),
   ("CZK", counted "Czech Koruna" "Czech koruna" "Czech korunas"),
   ("DDM", counted "East German Mark" "East German mark" "East German marks"),
   ("DEM", counted "German Mark" "German mark" "German marks"),
   ("DJF", counted "Djiboutian Franc" "Djiboutian franc" "Djiboutian francs"),
   ("DKK", counted "Danish Krone" "Danish krone" "Danish kroner"),
   ("DOP", counted "Dominican Peso" "Dominican peso" "Dominican pesos"),
   ("DZD", counted "Algerian Dinar" "Algerian dinar" "Algerian dinars"),
   ("ECS", counted "Ecuadorian Sucre" "Ecuadorian sucre" "Ecuadorian sucres"),
   ("ECV", counted "Ecuadorian Unit of Constant Value" "Ecuadorian unit of constant value"
     "Ecuadorian units of constant value"),
   ("EEK", counted "Estonian Kroon" "Estonian kroon" "Estonian kroons"),
   ("EGP", counted "Egyptian Pound" "Egyptian pound" "Egyptian pounds"),
   ("ERN", counted "Eritrean Nakfa" "Eritrean nakfa" "Eritrean nakfas"),
   ("ESA", counted "Spanish Peseta (A account)" "Spanish peseta (A account)"
     "Spanish pesetas (A account)"),
   ("ESB", counted "Spanish Peseta (convertible account)" "Spanish peseta (convertible account)"
     "Spanish pesetas (convertible account)"),
   ("ESP", counted "Spanish Peseta" "Spanish peseta" "Spanish pesetas"),
   ("ETB", counted "Ethiopian Birr" "Ethiopian birr" "Ethiopian birrs"),
   ("EUR", counted "Euro" "euro" "euros"),
   ("FIM", counted "Finnish Markka" "Finnish markka" "Finnish markkas"),
   ("FJD", counted "Fijian Dollar" "Fijian dollar" "Fijian dollars"),
   ("FKP", counted "Falkland Islands Pound" "Falkland Islands pound" "Falkland Islands pounds"),
   ("FRF", counted "French Franc" "French franc" "French francs"),
   ("GBP", counted "British Pound" "British pound" "British pounds"),
   ("GEK", counted "Georgian Kupon Larit" "Georgian kupon larit" "Georgian kupon larits"),
   ("GEL", counted "Georgian Lari" "Georgian lari" "Georgian laris"),
   ("GHC", counted "Ghanaian Cedi (1979–2007)" "Ghanaian cedi (1979–2007)"
     "Ghanaian cedis (1979–2007)"),
   ("GHS", counted "Ghanaian Cedi" "Ghanaian cedi" "Ghanaian cedis"),
   ("GIP", counted "Gibraltar Pound" "Gibraltar pound" "Gibraltar pounds"),
   ("GMD", counted "Gambian Dalasi" "Gambian dalasi" "Gambian dalasis"),
   ("GNF", counted "Guinean Franc" "Guinean franc" "Guinean francs"),
   ("GNS", counted "Guinean Syli" "Guinean syli" "Guinean sylis"),
   ("GQE", counted "Equatorial Guinean Ekwele" "Equatorial Guinean ekwele"
     "Equatorial Guinean ekwele"),
   ("GRD", counted "Greek Drachma" "Greek drachma" "Greek drachmas"),
   ("GTQ", counted "Guatemalan Quetzal" "Guatemalan quetzal" "Guatemalan quetzals"),
   ("GWE", counted "Portuguese Guinea Escudo" "Portuguese Guinea escudo"
     "Portuguese Guinea escudos"),
   ("GWP", counted "Guinea-Bissau Peso" "Guinea-Bissau peso" "Guinea-Bissau pesos"),
   ("GYD", counted "Guyanaese Dollar" "Guyanaese dollar" "Guyanaese dollars"),
   ("HKD", counted "Hong Kong Dollar" "Hong Kong dollar" "Hong Kong dollars"),
   ("HNL", counted "Honduran Lempira" "Honduran lempira" "Honduran lempiras"),
   ("HRD", counted "Croatian Dinar" "Croatian dinar" "Croatian dinars"),
   ("HRK", counted "Croatian Kuna" "Croatian kuna" "Croatian kunas"),
   ("HTG", counted "Haitian Gourde" "Haitian gourde" "Haitian gourdes"),
   ("HUF", counted "Hungarian Forint" "Hungarian forint" "Hungarian forints"),
   ("IDR", counted "Indonesian Rupiah" "Indonesian rupiah" "Indonesian rupiahs"),
   ("IEP", counted "Irish Pound" "Irish pound" "Irish pounds"),
   ("ILP", counted "Israeli Pound" "Israeli pound" "Israeli pounds"),
   ("ILR", counted "Israeli Shekel (1980–1985)" "Israeli shekel (1980–1985)"
     "Israeli shekels (1980–1985)"),
   ("ILS", counted "Israeli New Shekel" "Israeli new shekel" "Israeli new shekels"),
   ("INR", counted "Indian Rupee" "Indian rupee" "Indian rupees"),
   ("IQD", counted "Iraqi Dinar" "Iraqi dinar" "Iraqi dinars"),
   ("IRR", counted "Iranian Rial" "Iranian rial" "Iranian rials"),
   ("ISJ", counted "Icelandic Króna (1918–1981)" "Icelandic króna (1918–1981)"
     "Icelandic krónur (1918–1981)"),
   ("ISK", counted "Icelandic Króna" "Icelandic króna" "Icelandic krónur"),
   ("ITL", counted "Italian Lira" "Italian lira" "Italian liras"),
   ("JMD", counted "Jamaican Dollar" "Jamaican dollar" "Jamaican dollars"),
   ("JOD", counted "Jordanian Dinar" "Jordanian dinar" "Jordanian dinars"),
   ("JPY", counted "Japanese Yen" "Japanese yen" "Japanese yen"),
   ("KES", counted "Kenyan Shilling" "Kenyan shilling" "Kenyan shillings"),
   ("KGS", counted "Kyrgyz Som" "Kyrgyz som" "Kyrgyz soms"),
   ("KHR", counted "Cambodian Riel" "Cambodian riel" "Cambodian riels"),
   ("KMF", counted "Comorian Franc" "Comorian franc" "Comorian francs"),
   ("KPW", counted "North Korean Won" "North Korean won" "North Korean won"),
   ("KRH", counted "South Korean Hwan (1953–1962)" "South Korean hwan (1953–1962)"
     "South Korean hwan (1953–1962)"),
   ("KRO", counted "South Korean Won (1945–1953)" "South Korean won (1945–1953)"
     "South Korean won (1945–1953)"),
   ("KRW", counted "South Korean Won" "South Korean won" "South Korean won"),
   ("KWD", counted "Kuwaiti Dinar" "Kuwaiti dinar" "Kuwaiti dinars"),
   ("KYD", counted "Cayman Islands Dollar" "Cayman Islands dollar" "Cayman Islands dollars"),
   ("KZT", counted "Kazakhstani Tenge" "Kazakhstani tenge" "Kazakhstani tenges"),
   ("LAK", counted "Laotian Kip" "Laotian kip" "Laotian kips"),
   ("LBP", counted "Lebanese Pound" "Lebanese pound" "Lebanese pounds"),
   ("LKR", counted "Sri Lankan Rupee" "Sri Lankan rupee" "Sri Lankan rupees"),
   ("LRD", counted "Liberian Dollar" "Liberian dollar" "Liberian dollars"),
   ("LSL", counted "Lesotho Loti" "Lesotho loti" "Lesotho lotis"),
   ("LTL", counted "Lithuanian Litas" "Lithuanian litas" "Lithuanian litai"),
   ("LTT", counted "Lithuanian Talonas" "Lithuanian talonas" "Lithuanian talonases"),
   ("LUC", counted "Luxembourgian Convertible Franc" "Luxembourgian convertible franc"
     "Luxembourgian convertible francs"),
   ("LUF", counted "Luxembourgian Franc" "Luxembourgian franc" "Luxembourgian francs"),
   ("LUL", counted "Luxembourg Financial Franc" "Luxembourg financial franc"
     "Luxembourg financial francs"), ("LVL", counted "Latvian Lats" "Latvian lats" "Latvian lati"),
   ("LVR", counted "Latvian Ruble" "Latvian ruble" "Latvian rubles"),
   ("LYD", counted "Libyan Dinar" "Libyan dinar" "Libyan dinars"),
   ("MAD", counted "Moroccan Dirham" "Moroccan dirham" "Moroccan dirhams"),
   ("MAF", counted "Moroccan Franc" "Moroccan franc" "Moroccan francs"),
   ("MCF", counted "Monegasque Franc" "Monegasque franc" "Monegasque francs"),
   ("MDC", counted "Moldovan Cupon" "Moldovan cupon" "Moldovan cupon"),
   ("MDL", counted "Moldovan Leu" "Moldovan leu" "Moldovan lei"),
   ("MGA", counted "Malagasy Ariary" "Malagasy ariary" "Malagasy ariaries"),
   ("MGF", counted "Malagasy Franc" "Malagasy franc" "Malagasy francs"),
   ("MKD", counted "Macedonian Denar" "Macedonian denar" "Macedonian denari"),
   ("MKN", counted "Macedonian Denar (1992–1993)" "Macedonian denar (1992–1993)"
     "Macedonian denari (1992–1993)"),
   ("MLF", counted "Malian Franc" "Malian franc" "Malian francs"),
   ("MMK", counted "Myanmar Kyat" "Myanmar kyat" "Myanmar kyats"),
   ("MNT", counted "Mongolian Tugrik" "Mongolian tugrik" "Mongolian tugriks"),
   ("MOP", counted "Macanese Pataca" "Macanese pataca" "Macanese patacas"),
   ("MRO", counted "Mauritanian Ouguiya (1973–2017)" "Mauritanian ouguiya (1973–2017)"
     "Mauritanian ouguiyas (1973–2017)"),
   ("MRU", counted "Mauritanian Ouguiya" "Mauritanian ouguiya" "Mauritanian ouguiyas"),
   ("MTL", counted "Maltese Lira" "Maltese lira" "Maltese lira"),
   ("MTP", counted "Maltese Pound" "Maltese pound" "Maltese pounds"),
   ("MUR", counted "Mauritian Rupee" "Mauritian rupee" "Mauritian rupees"),
   ("MVP", counted "Maldivian Rupee (1947–1981)" "Maldivian rupee (1947–1981)"
     "Maldivian rupees (1947–1981)"),
   ("MVR", counted "Maldivian Rufiyaa" "Maldivian rufiyaa" "Maldivian rufiyaas"),
   ("MWK", counted "Malawian Kwacha" "Malawian kwacha" "Malawian kwachas"),
   ("MXN", counted "Mexican Peso" "Mexican peso" "Mexican pesos"),
   ("MXP", counted "Mexican Silver Peso (1861–1992)" "Mexican silver peso (1861–1992)"
     "Mexican silver pesos (1861–1992)"),
   ("MXV", counted "Mexican Investment Unit" "Mexican investment unit" "Mexican investment units"),
   ("MYR", counted "Malaysian Ringgit" "Malaysian ringgit" "Malaysian ringgits"),
   ("MZE", counted "Mozambican Escudo" "Mozambican escudo" "Mozambican escudos"),
   ("MZM", counted "Mozambican Metical (1980–2006)" "Mozambican metical (1980–2006)"
     "Mozambican meticals (1980–2006)"),
   ("MZN", counted "Mozambican Metical" "Mozambican metical" "Mozambican meticals"),
   ("NAD", counted "Namibian Dollar" "Namibian dollar" "Namibian dollars"),
   ("NGN", counted "Nigerian Naira" "Nigerian naira" "Nigerian nairas"),
   ("NIC", counted "Nicaraguan Córdoba (1988–1991)" "Nicaraguan córdoba (1988–1991)"
     "Nicaraguan córdobas (1988–1991)"),
   ("NIO", counted "Nicaraguan Córdoba" "Nicaraguan córdoba" "Nicaraguan córdobas"),
   ("NLG", counted "Dutch Guilder" "Dutch guilder" "Dutch guilders"),
   ("NOK", counted "Norwegian Krone" "Norwegian krone" "Norwegian kroner"),
   ("NPR", counted "Nepalese Rupee" "Nepalese rupee" "Nepalese rupees"),
   ("NZD", counted "New Zealand Dollar" "New Zealand dollar" "New Zealand dollars"),
   ("OMR", counted "Omani Rial" "Omani rial" "Omani rials"),
   ("PAB", counted "Panamanian Balboa" "Panamanian balboa" "Panamanian balboas"),
   ("PEI", counted "Peruvian Inti" "Peruvian inti" "Peruvian intis"),
   ("PEN", counted "Peruvian Sol" "Peruvian sol" "Peruvian soles"),
   ("PES", counted "Peruvian Sol (1863–1965)" "Peruvian sol (1863–1965)"
     "Peruvian soles (1863–1965)"),
   ("PGK", counted "Papua New Guinean Kina" "Papua New Guinean kina" "Papua New Guinean kina"),
   ("PHP", counted "Philippine Peso" "Philippine peso" "Philippine pesos"),
   ("PKR", counted "Pakistani Rupee" "Pakistani rupee" "Pakistani rupees"),
   ("PLN", counted "Polish Zloty" "Polish zloty" "Polish zlotys"),
   ("PLZ", counted "Polish Zloty (1950–1995)" "Polish zloty (PLZ)" "Polish zlotys (PLZ)"),
   ("PTE", counted "Portuguese Escudo" "Portuguese escudo" "Portuguese escudos"),
   ("PYG", counted "Paraguayan Guarani" "Paraguayan guarani" "Paraguayan guaranis"),
   ("QAR", counted "Qatari Riyal" "Qatari riyal" "Qatari riyals"),
   ("RHD", counted "Rhodesian Dollar" "Rhodesian dollar" "Rhodesian dollars"),
   ("ROL", counted "Romanian Leu (1952–2006)" "Romanian leu (1952–2006)"
     "Romanian Lei (1952–2006)"), ("RON", counted "Romanian Leu" "Romanian leu" "Romanian lei"),
   ("RSD", counted "Serbian Dinar" "Serbian dinar" "Serbian dinars"),
   ("RUB", counted "Russian Ruble" "Russian ruble" "Russian rubles"),
   ("RUR", counted "Russian Ruble (1991–1998)" "Russian ruble (1991–1998)"
     "Russian rubles (1991–1998)"),
   ("RWF", counted "Rwandan Franc" "Rwandan franc" "Rwandan francs"),
   ("SAR", counted "Saudi Riyal" "Saudi riyal" "Saudi riyals"),
   ("SBD", counted "Solomon Islands Dollar" "Solomon Islands dollar" "Solomon Islands dollars"),
   ("SCR", counted "Seychellois Rupee" "Seychellois rupee" "Seychellois rupees"),
   ("SDD", counted "Sudanese Dinar (1992–2007)" "Sudanese dinar (1992–2007)"
     "Sudanese dinars (1992–2007)"),
   ("SDG", counted "Sudanese Pound" "Sudanese pound" "Sudanese pounds"),
   ("SDP", counted "Sudanese Pound (1957–1998)" "Sudanese pound (1957–1998)"
     "Sudanese pounds (1957–1998)"),
   ("SEK", counted "Swedish Krona" "Swedish krona" "Swedish kronor"),
   ("SGD", counted "Singapore Dollar" "Singapore dollar" "Singapore dollars"),
   ("SHP", counted "St. Helena Pound" "St. Helena pound" "St. Helena pounds"),
   ("SIT", counted "Slovenian Tolar" "Slovenian tolar" "Slovenian tolars"),
   ("SKK", counted "Slovak Koruna" "Slovak koruna" "Slovak korunas"),
   ("SLE", counted "Sierra Leonean Leone" "Sierra Leonean leone" "Sierra Leonean leones"),
   ("SLL", counted "Sierra Leonean Leone (1964—2022)" "Sierra Leonean leone (1964—2022)"
     "Sierra Leonean leones (1964—2022)"),
   ("SOS", counted "Somali Shilling" "Somali shilling" "Somali shillings"),
   ("SRD", counted "Surinamese Dollar" "Surinamese dollar" "Surinamese dollars"),
   ("SRG", counted "Surinamese Guilder" "Surinamese guilder" "Surinamese guilders"),
   ("SSP", counted "South Sudanese Pound" "South Sudanese pound" "South Sudanese pounds"),
   ("STD", counted "São Tomé & Príncipe Dobra (1977–2017)" "São Tomé & Príncipe dobra (1977–2017)"
     "São Tomé & Príncipe dobras (1977–2017)"),
   ("STN", counted "São Tomé & Príncipe Dobra" "São Tomé & Príncipe dobra"
     "São Tomé & Príncipe dobras"),
   ("SUR", counted "Soviet Rouble" "Soviet rouble" "Soviet roubles"),
   ("SVC", counted "Salvadoran Colón" "Salvadoran colón" "Salvadoran colones"),
   ("SYP", counted "Syrian Pound" "Syrian pound" "Syrian pounds"),
   ("SZL", counted "Swazi Lilangeni" "Swazi lilangeni" "Swazi emalangeni"),
   ("THB", counted "Thai Baht" "Thai baht" "Thai baht"),
   ("TJR", counted "Tajikistani Ruble" "Tajikistani ruble" "Tajikistani rubles"),
   ("TJS", counted "Tajikistani Somoni" "Tajikistani somoni" "Tajikistani somonis"),
   ("TMM", counted "Turkmenistani Manat (1993–2009)" "Turkmenistani manat (1993–2009)"
     "Turkmenistani manat (1993–2009)"),
   ("TMT", counted "Turkmenistani Manat" "Turkmenistani manat" "Turkmenistani manat"),
   ("TND", counted "Tunisian Dinar" "Tunisian dinar" "Tunisian dinars"),
   ("TOP", counted "Tongan Paʻanga" "Tongan paʻanga" "Tongan paʻanga"),
   ("TPE", counted "Timorese Escudo" "Timorese escudo" "Timorese escudos"),
   ("TRL", counted "Turkish Lira (1922–2005)" "Turkish lira (1922–2005)"
     "Turkish Lira (1922–2005)"), ("TRY", counted "Turkish Lira" "Turkish lira" "Turkish Lira"),
   ("TTD", counted "Trinidad & Tobago Dollar" "Trinidad & Tobago dollar"
     "Trinidad & Tobago dollars"),
   ("TWD", counted "New Taiwan Dollar" "New Taiwan dollar" "New Taiwan dollars"),
   ("TZS", counted "Tanzanian Shilling" "Tanzanian shilling" "Tanzanian shillings"),
   ("UAH", counted "Ukrainian Hryvnia" "Ukrainian hryvnia" "Ukrainian hryvnias"),
   ("UAK", counted "Ukrainian Karbovanets" "Ukrainian karbovanets" "Ukrainian karbovantsiv"),
   ("UGS", counted "Ugandan Shilling (1966–1987)" "Ugandan shilling (1966–1987)"
     "Ugandan shillings (1966–1987)"),
   ("UGX", counted "Ugandan Shilling" "Ugandan shilling" "Ugandan shillings"),
   ("USD", counted "US Dollar" "US dollar" "US dollars"),
   ("USN", counted "US Dollar (Next day)" "US dollar (next day)" "US dollars (next day)"),
   ("USS", counted "US Dollar (Same day)" "US dollar (same day)" "US dollars (same day)"),
   ("UYI", counted "Uruguayan Peso (Indexed Units)" "Uruguayan peso (indexed units)"
     "Uruguayan pesos (indexed units)"),
   ("UYP", counted "Uruguayan Peso (1975–1993)" "Uruguayan peso (1975–1993)"
     "Uruguayan pesos (1975–1993)"),
   ("UYU", counted "Uruguayan Peso" "Uruguayan peso" "Uruguayan pesos"),
   ("UYW", counted "Uruguayan Nominal Wage Index Unit" "Uruguayan nominal wage index unit"
     "Uruguayan nominal wage index units"),
   ("UZS", counted "Uzbekistani Som" "Uzbekistani som" "Uzbekistani som"),
   ("VEB", counted "Venezuelan Bolívar (1871–2008)" "Venezuelan bolívar (1871–2008)"
     "Venezuelan bolívars (1871–2008)"),
   ("VED", counted "Bolívar Soberano" "Bolívar Soberano" "Bolívar Soberanos"),
   ("VEF", counted "Venezuelan Bolívar (2008–2018)" "Venezuelan bolívar (2008–2018)"
     "Venezuelan bolívars (2008–2018)"),
   ("VES", counted "Venezuelan Bolívar" "Venezuelan bolívar" "Venezuelan bolívars"),
   ("VND", counted "Vietnamese Dong" "Vietnamese dong" "Vietnamese dong"),
   ("VNN", counted "Vietnamese Dong (1978–1985)" "Vietnamese dong (1978–1985)"
     "Vietnamese dong (1978–1985)"), ("VUV", counted "Vanuatu Vatu" "Vanuatu vatu" "Vanuatu vatus"),
   ("WST", counted "Samoan Tala" "Samoan tala" "Samoan tala"),
   ("XAF", counted "Central African CFA Franc" "Central African CFA franc"
     "Central African CFA francs"),
   ("XAG", counted "Silver" "troy ounce of silver" "troy ounces of silver"),
   ("XAU", counted "Gold" "troy ounce of gold" "troy ounces of gold"),
   ("XBA", counted "European Composite Unit" "European composite unit" "European composite units"),
   ("XBB", counted "European Monetary Unit" "European monetary unit" "European monetary units"),
   ("XBC", counted "European Unit of Account (XBC)" "European unit of account (XBC)"
     "European units of account (XBC)"),
   ("XBD", counted "European Unit of Account (XBD)" "European unit of account (XBD)"
     "European units of account (XBD)"),
   ("XCD", counted "East Caribbean Dollar" "East Caribbean dollar" "East Caribbean dollars"),
   ("XCG", counted "Caribbean guilder" "Caribbean guilder" "Caribbean guilders"),
   ("XDR", counted "Special Drawing Rights" "special drawing rights" "special drawing rights"),
   ("XEU", counted "European Currency Unit" "European currency unit" "European currency units"),
   ("XFO", counted "French Gold Franc" "French gold franc" "French gold francs"),
   ("XFU", counted "French UIC-Franc" "French UIC-franc" "French UIC-francs"),
   ("XOF", counted "West African CFA Franc" "West African CFA franc" "West African CFA francs"),
   ("XPD", counted "Palladium" "troy ounce of palladium" "troy ounces of palladium"),
   ("XPF", counted "CFP Franc" "CFP franc" "CFP francs"),
   ("XPT", counted "Platinum" "troy ounce of platinum" "troy ounces of platinum"),
   ("XRE", counted "RINET Funds" "RINET Funds unit" "RINET Funds units"),
   ("XSU", counted "Sucre" "Sucre" "Sucres"),
   ("XTS", counted "Testing Currency Code" "Testing Currency unit" "Testing Currency units"),
   ("XUA", counted "ADB Unit of Account" "ADB unit of account" "ADB units of account"),
   ("XXX", counted "Unknown Currency" "(unknown unit of currency)" "(unknown currency)"),
   ("YDD", counted "Yemeni Dinar" "Yemeni dinar" "Yemeni dinars"),
   ("YER", counted "Yemeni Rial" "Yemeni rial" "Yemeni rials"),
   ("YUD", counted "Yugoslavian Hard Dinar (1966–1990)" "Yugoslavian hard dinar (1966–1990)"
     "Yugoslavian hard dinars (1966–1990)"),
   ("YUM", counted "Yugoslavian New Dinar (1994–2002)" "Yugoslavian new dinar (1994–2002)"
     "Yugoslavian new dinars (1994–2002)"),
   ("YUN", counted "Yugoslavian Convertible Dinar (1990–1992)"
     "Yugoslavian convertible dinar (1990–1992)" "Yugoslavian convertible dinars (1990–1992)"),
   ("YUR", counted "Yugoslavian Reformed Dinar (1992–1993)"
     "Yugoslavian reformed dinar (1992–1993)" "Yugoslavian reformed dinars (1992–1993)"),
   ("ZAL", counted "South African Rand (financial)" "South African rand (financial)"
     "South African rands (financial)"),
   ("ZAR", counted "South African Rand" "South African rand" "South African rand"),
   ("ZMK", counted "Zambian Kwacha (1968–2012)" "Zambian kwacha (1968–2012)"
     "Zambian kwachas (1968–2012)"),
   ("ZMW", counted "Zambian Kwacha" "Zambian kwacha" "Zambian kwachas"),
   ("ZRN", counted "Zairean New Zaire (1993–1998)" "Zairean new zaire (1993–1998)"
     "Zairean new zaires (1993–1998)"),
   ("ZRZ", counted "Zairean Zaire (1971–1993)" "Zairean zaire (1971–1993)"
     "Zairean zaires (1971–1993)"),
   ("ZWD", counted "Zimbabwean Dollar (1980–2008)" "Zimbabwean dollar (1980–2008)"
     "Zimbabwean dollars (1980–2008)"),
   ("ZWG", counted "Zimbabwean Gold" "Zimbabwean gold" "Zimbabwean gold"),
   ("ZWL", counted "Zimbabwean Dollar (2009–2024)" "Zimbabwean dollar (2009–2024)"
     "Zimbabwean dollars (2009–2024)"),
   ("ZWR", counted "Zimbabwean Dollar (2008)" "Zimbabwean dollar (2008)"
     "Zimbabwean dollars (2008)")]

end Parlance.CurrencyNames
