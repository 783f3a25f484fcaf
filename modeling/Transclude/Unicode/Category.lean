import Transclude.Unicode.Runs

/-!
The general category of every code point, as runs of equal category. The table is written as the
category of each run followed by the code point at which the run starts.
-/

namespace Transclude.Unicode

inductive Category where
  | lu | ll | lt | lm | lo
  | mn | mc | me
  | nd | nl | no
  | pc | pd | ps | pe | pi | pf | po
  | sm | sc | sk | so
  | zs | zl | zp
  | cc | cf | cs | co | cn
  deriving DecidableEq, Repr, Inhabited

namespace Category

def all : List Category :=
  [lu, ll, lt, lm, lo, mn, mc, me, nd, nl, no, pc, pd, ps, pe, pi, pf, po, sm, sc, sk, so, zs, zl,
    zp, cc, cf, cs, co, cn]

/-- The two letters of a category. -/
def tag : Category → String
  | lu => "Lu" | ll => "Ll" | lt => "Lt" | lm => "Lm" | lo => "Lo"
  | mn => "Mn" | mc => "Mc" | me => "Me"
  | nd => "Nd" | nl => "Nl" | no => "No"
  | pc => "Pc" | pd => "Pd" | ps => "Ps" | pe => "Pe" | pi => "Pi" | pf => "Pf" | po => "Po"
  | sm => "Sm" | sc => "Sc" | sk => "Sk" | so => "So"
  | zs => "Zs" | zl => "Zl" | zp => "Zp"
  | cc => "Cc" | cf => "Cf" | cs => "Cs" | co => "Co" | cn => "Cn"

def ofTag? (tag : String) : Option Category := all.find? (·.tag == tag)

private def table : List String :=
  ["Cc0 Zs20 Po21 Sc24 Po25 Ps28 Pe29 Po2a Sm2b Po2c Pd2d Po2e Nd30 Po3a Sm3c Po3f Lu41 Ps5b",
    "Po5c Pe5d Sk5e Pc5f Sk60 Ll61 Ps7b Sm7c Pe7d Sm7e Cc7f Zsa0 Poa1 Sca2 Soa6 Poa7 Ska8 Soa9",
    "Loaa Piab Smac Cfad Soae Skaf Sob0 Smb1 Nob2 Skb4 Llb5 Pob6 Skb8 Nob9 Loba Pfbb Nobc Pobf",
    "Luc0 Smd7 Lud8 Lldf Smf7 Llf8 Lu100 Ll101 Lu102 Ll103 Lu104 Ll105 Lu106 Ll107 Lu108 Ll109",
    "Lu10a Ll10b Lu10c Ll10d Lu10e Ll10f Lu110 Ll111 Lu112 Ll113 Lu114 Ll115 Lu116 Ll117 Lu118",
    "Ll119 Lu11a Ll11b Lu11c Ll11d Lu11e Ll11f Lu120 Ll121 Lu122 Ll123 Lu124 Ll125 Lu126 Ll127",
    "Lu128 Ll129 Lu12a Ll12b Lu12c Ll12d Lu12e Ll12f Lu130 Ll131 Lu132 Ll133 Lu134 Ll135 Lu136",
    "Ll137 Lu139 Ll13a Lu13b Ll13c Lu13d Ll13e Lu13f Ll140 Lu141 Ll142 Lu143 Ll144 Lu145 Ll146",
    "Lu147 Ll148 Lu14a Ll14b Lu14c Ll14d Lu14e Ll14f Lu150 Ll151 Lu152 Ll153 Lu154 Ll155 Lu156",
    "Ll157 Lu158 Ll159 Lu15a Ll15b Lu15c Ll15d Lu15e Ll15f Lu160 Ll161 Lu162 Ll163 Lu164 Ll165",
    "Lu166 Ll167 Lu168 Ll169 Lu16a Ll16b Lu16c Ll16d Lu16e Ll16f Lu170 Ll171 Lu172 Ll173 Lu174",
    "Ll175 Lu176 Ll177 Lu178 Ll17a Lu17b Ll17c Lu17d Ll17e Lu181 Ll183 Lu184 Ll185 Lu186 Ll188",
    "Lu189 Ll18c Lu18e Ll192 Lu193 Ll195 Lu196 Ll199 Lu19c Ll19e Lu19f Ll1a1 Lu1a2 Ll1a3 Lu1a4",
    "Ll1a5 Lu1a6 Ll1a8 Lu1a9 Ll1aa Lu1ac Ll1ad Lu1ae Ll1b0 Lu1b1 Ll1b4 Lu1b5 Ll1b6 Lu1b7 Ll1b9",
    "Lo1bb Lu1bc Ll1bd Lo1c0 Lu1c4 Lt1c5 Ll1c6 Lu1c7 Lt1c8 Ll1c9 Lu1ca Lt1cb Ll1cc Lu1cd Ll1ce",
    "Lu1cf Ll1d0 Lu1d1 Ll1d2 Lu1d3 Ll1d4 Lu1d5 Ll1d6 Lu1d7 Ll1d8 Lu1d9 Ll1da Lu1db Ll1dc Lu1de",
    "Ll1df Lu1e0 Ll1e1 Lu1e2 Ll1e3 Lu1e4 Ll1e5 Lu1e6 Ll1e7 Lu1e8 Ll1e9 Lu1ea Ll1eb Lu1ec Ll1ed",
    "Lu1ee Ll1ef Lu1f1 Lt1f2 Ll1f3 Lu1f4 Ll1f5 Lu1f6 Ll1f9 Lu1fa Ll1fb Lu1fc Ll1fd Lu1fe Ll1ff",
    "Lu200 Ll201 Lu202 Ll203 Lu204 Ll205 Lu206 Ll207 Lu208 Ll209 Lu20a Ll20b Lu20c Ll20d Lu20e",
    "Ll20f Lu210 Ll211 Lu212 Ll213 Lu214 Ll215 Lu216 Ll217 Lu218 Ll219 Lu21a Ll21b Lu21c Ll21d",
    "Lu21e Ll21f Lu220 Ll221 Lu222 Ll223 Lu224 Ll225 Lu226 Ll227 Lu228 Ll229 Lu22a Ll22b Lu22c",
    "Ll22d Lu22e Ll22f Lu230 Ll231 Lu232 Ll233 Lu23a Ll23c Lu23d Ll23f Lu241 Ll242 Lu243 Ll247",
    "Lu248 Ll249 Lu24a Ll24b Lu24c Ll24d Lu24e Ll24f Lo294 Ll296 Lm2b0 Sk2c2 Lm2c6 Sk2d2 Lm2e0",
    "Sk2e5 Lm2ec Sk2ed Lm2ee Sk2ef Mn300 Lu370 Ll371 Lu372 Ll373 Lm374 Sk375 Lu376 Ll377 Cn378",
    "Lm37a Ll37b Po37e Lu37f Cn380 Sk384 Lu386 Po387 Lu388 Cn38b Lu38c Cn38d Lu38e Ll390 Lu391",
    "Cn3a2 Lu3a3 Ll3ac Lu3cf Ll3d0 Lu3d2 Ll3d5 Lu3d8 Ll3d9 Lu3da Ll3db Lu3dc Ll3dd Lu3de Ll3df",
    "Lu3e0 Ll3e1 Lu3e2 Ll3e3 Lu3e4 Ll3e5 Lu3e6 Ll3e7 Lu3e8 Ll3e9 Lu3ea Ll3eb Lu3ec Ll3ed Lu3ee",
    "Ll3ef Lu3f4 Ll3f5 Sm3f6 Lu3f7 Ll3f8 Lu3f9 Ll3fb Lu3fd Ll430 Lu460 Ll461 Lu462 Ll463 Lu464",
    "Ll465 Lu466 Ll467 Lu468 Ll469 Lu46a Ll46b Lu46c Ll46d Lu46e Ll46f Lu470 Ll471 Lu472 Ll473",
    "Lu474 Ll475 Lu476 Ll477 Lu478 Ll479 Lu47a Ll47b Lu47c Ll47d Lu47e Ll47f Lu480 Ll481 So482",
    "Mn483 Me488 Lu48a Ll48b Lu48c Ll48d Lu48e Ll48f Lu490 Ll491 Lu492 Ll493 Lu494 Ll495 Lu496",
    "Ll497 Lu498 Ll499 Lu49a Ll49b Lu49c Ll49d Lu49e Ll49f Lu4a0 Ll4a1 Lu4a2 Ll4a3 Lu4a4 Ll4a5",
    "Lu4a6 Ll4a7 Lu4a8 Ll4a9 Lu4aa Ll4ab Lu4ac Ll4ad Lu4ae Ll4af Lu4b0 Ll4b1 Lu4b2 Ll4b3 Lu4b4",
    "Ll4b5 Lu4b6 Ll4b7 Lu4b8 Ll4b9 Lu4ba Ll4bb Lu4bc Ll4bd Lu4be Ll4bf Lu4c0 Ll4c2 Lu4c3 Ll4c4",
    "Lu4c5 Ll4c6 Lu4c7 Ll4c8 Lu4c9 Ll4ca Lu4cb Ll4cc Lu4cd Ll4ce Lu4d0 Ll4d1 Lu4d2 Ll4d3 Lu4d4",
    "Ll4d5 Lu4d6 Ll4d7 Lu4d8 Ll4d9 Lu4da Ll4db Lu4dc Ll4dd Lu4de Ll4df Lu4e0 Ll4e1 Lu4e2 Ll4e3",
    "Lu4e4 Ll4e5 Lu4e6 Ll4e7 Lu4e8 Ll4e9 Lu4ea Ll4eb Lu4ec Ll4ed Lu4ee Ll4ef Lu4f0 Ll4f1 Lu4f2",
    "Ll4f3 Lu4f4 Ll4f5 Lu4f6 Ll4f7 Lu4f8 Ll4f9 Lu4fa Ll4fb Lu4fc Ll4fd Lu4fe Ll4ff Lu500 Ll501",
    "Lu502 Ll503 Lu504 Ll505 Lu506 Ll507 Lu508 Ll509 Lu50a Ll50b Lu50c Ll50d Lu50e Ll50f Lu510",
    "Ll511 Lu512 Ll513 Lu514 Ll515 Lu516 Ll517 Lu518 Ll519 Lu51a Ll51b Lu51c Ll51d Lu51e Ll51f",
    "Lu520 Ll521 Lu522 Ll523 Lu524 Ll525 Lu526 Ll527 Lu528 Ll529 Lu52a Ll52b Lu52c Ll52d Lu52e",
    "Ll52f Cn530 Lu531 Cn557 Lm559 Po55a Ll560 Po589 Pd58a Cn58b So58d Sc58f Cn590 Mn591 Pd5be",
    "Mn5bf Po5c0 Mn5c1 Po5c3 Mn5c4 Po5c6 Mn5c7 Cn5c8 Lo5d0 Cn5eb Lo5ef Po5f3 Cn5f5 Cf600 Sm606",
    "Po609 Sc60b Po60c So60e Mn610 Po61b Cf61c Po61d Lo620 Lm640 Lo641 Mn64b Nd660 Po66a Lo66e",
    "Mn670 Lo671 Po6d4 Lo6d5 Mn6d6 Cf6dd So6de Mn6df Lm6e5 Mn6e7 So6e9 Mn6ea Lo6ee Nd6f0 Lo6fa",
    "So6fd Lo6ff Po700 Cn70e Cf70f Lo710 Mn711 Lo712 Mn730 Cn74b Lo74d Mn7a6 Lo7b1 Cn7b2 Nd7c0",
    "Lo7ca Mn7eb Lm7f4 So7f6 Po7f7 Lm7fa Cn7fb Mn7fd Sc7fe Lo800 Mn816 Lm81a Mn81b Lm824 Mn825",
    "Lm828 Mn829 Cn82e Po830 Cn83f Lo840 Mn859 Cn85c Po85e Cn85f Lo860 Cn86b Lo870 Sk888 Lo889",
    "Cf890 Cn892 Mn897 Lo8a0 Lm8c9 Mn8ca Cf8e2 Mn8e3 Mc903 Lo904 Mn93a Mc93b Mn93c Lo93d Mc93e",
    "Mn941 Mc949 Mn94d Mc94e Lo950 Mn951 Lo958 Mn962 Po964 Nd966 Po970 Lm971 Lo972 Mn981 Mc982",
    "Cn984 Lo985 Cn98d Lo98f Cn991 Lo993 Cn9a9 Lo9aa Cn9b1 Lo9b2 Cn9b3 Lo9b6 Cn9ba Mn9bc Lo9bd",
    "Mc9be Mn9c1 Cn9c5 Mc9c7 Cn9c9 Mc9cb Mn9cd Lo9ce Cn9cf Mc9d7 Cn9d8 Lo9dc Cn9de Lo9df Mn9e2",
    "Cn9e4 Nd9e6 Lo9f0 Sc9f2 No9f4 So9fa Sc9fb Lo9fc Po9fd Mn9fe Cn9ff Mna01 Mca03 Cna04 Loa05",
    "Cna0b Loa0f Cna11 Loa13 Cna29 Loa2a Cna31 Loa32 Cna34 Loa35 Cna37 Loa38 Cna3a Mna3c Cna3d",
    "Mca3e Mna41 Cna43 Mna47 Cna49 Mna4b Cna4e Mna51 Cna52 Loa59 Cna5d Loa5e Cna5f Nda66 Mna70",
    "Loa72 Mna75 Poa76 Cna77 Mna81 Mca83 Cna84 Loa85 Cna8e Loa8f Cna92 Loa93 Cnaa9 Loaaa Cnab1",
    "Loab2 Cnab4 Loab5 Cnaba Mnabc Loabd Mcabe Mnac1 Cnac6 Mnac7 Mcac9 Cnaca Mcacb Mnacd Cnace",
    "Load0 Cnad1 Loae0 Mnae2 Cnae4 Ndae6 Poaf0 Scaf1 Cnaf2 Loaf9 Mnafa Cnb00 Mnb01 Mcb02 Cnb04",
    "Lob05 Cnb0d Lob0f Cnb11 Lob13 Cnb29 Lob2a Cnb31 Lob32 Cnb34 Lob35 Cnb3a Mnb3c Lob3d Mcb3e",
    "Mnb3f Mcb40 Mnb41 Cnb45 Mcb47 Cnb49 Mcb4b Mnb4d Cnb4e Mnb55 Mcb57 Cnb58 Lob5c Cnb5e Lob5f",
    "Mnb62 Cnb64 Ndb66 Sob70 Lob71 Nob72 Cnb78 Mnb82 Lob83 Cnb84 Lob85 Cnb8b Lob8e Cnb91 Lob92",
    "Cnb96 Lob99 Cnb9b Lob9c Cnb9d Lob9e Cnba0 Loba3 Cnba5 Loba8 Cnbab Lobae Cnbba Mcbbe Mnbc0",
    "Mcbc1 Cnbc3 Mcbc6 Cnbc9 Mcbca Mnbcd Cnbce Lobd0 Cnbd1 Mcbd7 Cnbd8 Ndbe6 Nobf0 Sobf3 Scbf9",
    "Sobfa Cnbfb Mnc00 Mcc01 Mnc04 Loc05 Cnc0d Loc0e Cnc11 Loc12 Cnc29 Loc2a Cnc3a Mnc3c Loc3d",
    "Mnc3e Mcc41 Cnc45 Mnc46 Cnc49 Mnc4a Cnc4e Mnc55 Cnc57 Loc58 Cnc5b Loc5c Cnc5e Loc60 Mnc62",
    "Cnc64 Ndc66 Cnc70 Poc77 Noc78 Soc7f Loc80 Mnc81 Mcc82 Poc84 Loc85 Cnc8d Loc8e Cnc91 Loc92",
    "Cnca9 Locaa Cncb4 Locb5 Cncba Mncbc Locbd Mccbe Mncbf Mccc0 Cncc5 Mncc6 Mccc7 Cncc9 Mccca",
    "Mnccc Cncce Mccd5 Cncd7 Locdc Cncdf Loce0 Mnce2 Cnce4 Ndce6 Cncf0 Locf1 Mccf3 Cncf4 Mnd00",
    "Mcd02 Lod04 Cnd0d Lod0e Cnd11 Lod12 Mnd3b Lod3d Mcd3e Mnd41 Cnd45 Mcd46 Cnd49 Mcd4a Mnd4d",
    "Lod4e Sod4f Cnd50 Lod54 Mcd57 Nod58 Lod5f Mnd62 Cnd64 Ndd66 Nod70 Sod79 Lod7a Cnd80 Mnd81",
    "Mcd82 Cnd84 Lod85 Cnd97 Lod9a Cndb2 Lodb3 Cndbc Lodbd Cndbe Lodc0 Cndc7 Mndca Cndcb Mcdcf",
    "Mndd2 Cndd5 Mndd6 Cndd7 Mcdd8 Cnde0 Ndde6 Cndf0 Mcdf2 Podf4 Cndf5 Loe01 Mne31 Loe32 Mne34",
    "Cne3b Sce3f Loe40 Lme46 Mne47 Poe4f Nde50 Poe5a Cne5c Loe81 Cne83 Loe84 Cne85 Loe86 Cne8b",
    "Loe8c Cnea4 Loea5 Cnea6 Loea7 Mneb1 Loeb2 Mneb4 Loebd Cnebe Loec0 Cnec5 Lmec6 Cnec7 Mnec8",
    "Cnecf Nded0 Cneda Loedc Cnee0 Lof00 Sof01 Pof04 Sof13 Pof14 Sof15 Mnf18 Sof1a Ndf20 Nof2a",
    "Sof34 Mnf35 Sof36 Mnf37 Sof38 Mnf39 Psf3a Pef3b Psf3c Pef3d Mcf3e Lof40 Cnf48 Lof49 Cnf6d",
    "Mnf71 Mcf7f Mnf80 Pof85 Mnf86 Lof88 Mnf8d Cnf98 Mnf99 Cnfbd Sofbe Mnfc6 Sofc7 Cnfcd Sofce",
    "Pofd0 Sofd5 Pofd9 Cnfdb Lo1000 Mc102b Mn102d Mc1031 Mn1032 Mc1038 Mn1039 Mc103b Mn103d",
    "Lo103f Nd1040 Po104a Lo1050 Mc1056 Mn1058 Lo105a Mn105e Lo1061 Mc1062 Lo1065 Mc1067",
    "Lo106e Mn1071 Lo1075 Mn1082 Mc1083 Mn1085 Mc1087 Mn108d Lo108e Mc108f Nd1090 Mc109a",
    "Mn109d So109e Lu10a0 Cn10c6 Lu10c7 Cn10c8 Lu10cd Cn10ce Ll10d0 Po10fb Lm10fc Ll10fd",
    "Lo1100 Cn1249 Lo124a Cn124e Lo1250 Cn1257 Lo1258 Cn1259 Lo125a Cn125e Lo1260 Cn1289",
    "Lo128a Cn128e Lo1290 Cn12b1 Lo12b2 Cn12b6 Lo12b8 Cn12bf Lo12c0 Cn12c1 Lo12c2 Cn12c6",
    "Lo12c8 Cn12d7 Lo12d8 Cn1311 Lo1312 Cn1316 Lo1318 Cn135b Mn135d Po1360 No1369 Cn137d",
    "Lo1380 So1390 Cn139a Lu13a0 Cn13f6 Ll13f8 Cn13fe Pd1400 Lo1401 So166d Po166e Lo166f",
    "Zs1680 Lo1681 Ps169b Pe169c Cn169d Lo16a0 Po16eb Nl16ee Lo16f1 Cn16f9 Lo1700 Mn1712",
    "Mc1715 Cn1716 Lo171f Mn1732 Mc1734 Po1735 Cn1737 Lo1740 Mn1752 Cn1754 Lo1760 Cn176d",
    "Lo176e Cn1771 Mn1772 Cn1774 Lo1780 Mn17b4 Mc17b6 Mn17b7 Mc17be Mn17c6 Mc17c7 Mn17c9",
    "Po17d4 Lm17d7 Po17d8 Sc17db Lo17dc Mn17dd Cn17de Nd17e0 Cn17ea No17f0 Cn17fa Po1800",
    "Pd1806 Po1807 Mn180b Cf180e Mn180f Nd1810 Cn181a Lo1820 Lm1843 Lo1844 Cn1879 Lo1880",
    "Mn1885 Lo1887 Mn18a9 Lo18aa Cn18ab Lo18b0 Cn18f6 Lo1900 Cn191f Mn1920 Mc1923 Mn1927",
    "Mc1929 Cn192c Mc1930 Mn1932 Mc1933 Mn1939 Cn193c So1940 Cn1941 Po1944 Nd1946 Lo1950",
    "Cn196e Lo1970 Cn1975 Lo1980 Cn19ac Lo19b0 Cn19ca Nd19d0 No19da Cn19db So19de Lo1a00",
    "Mn1a17 Mc1a19 Mn1a1b Cn1a1c Po1a1e Lo1a20 Mc1a55 Mn1a56 Mc1a57 Mn1a58 Cn1a5f Mn1a60",
    "Mc1a61 Mn1a62 Mc1a63 Mn1a65 Mc1a6d Mn1a73 Cn1a7d Mn1a7f Nd1a80 Cn1a8a Nd1a90 Cn1a9a",
    "Po1aa0 Lm1aa7 Po1aa8 Cn1aae Mn1ab0 Me1abe Mn1abf Cn1ade Mn1ae0 Cn1aec Mn1b00 Mc1b04",
    "Lo1b05 Mn1b34 Mc1b35 Mn1b36 Mc1b3b Mn1b3c Mc1b3d Mn1b42 Mc1b43 Lo1b45 Cn1b4d Po1b4e",
    "Nd1b50 Po1b5a So1b61 Mn1b6b So1b74 Po1b7d Mn1b80 Mc1b82 Lo1b83 Mc1ba1 Mn1ba2 Mc1ba6",
    "Mn1ba8 Mc1baa Mn1bab Lo1bae Nd1bb0 Lo1bba Mn1be6 Mc1be7 Mn1be8 Mc1bea Mn1bed Mc1bee",
    "Mn1bef Mc1bf2 Cn1bf4 Po1bfc Lo1c00 Mc1c24 Mn1c2c Mc1c34 Mn1c36 Cn1c38 Po1c3b Nd1c40",
    "Cn1c4a Lo1c4d Nd1c50 Lo1c5a Lm1c78 Po1c7e Ll1c80 Lu1c89 Ll1c8a Cn1c8b Lu1c90 Cn1cbb",
    "Lu1cbd Po1cc0 Cn1cc8 Mn1cd0 Po1cd3 Mn1cd4 Mc1ce1 Mn1ce2 Lo1ce9 Mn1ced Lo1cee Mn1cf4",
    "Lo1cf5 Mc1cf7 Mn1cf8 Lo1cfa Cn1cfb Ll1d00 Lm1d2c Ll1d6b Lm1d78 Ll1d79 Lm1d9b Mn1dc0",
    "Lu1e00 Ll1e01 Lu1e02 Ll1e03 Lu1e04 Ll1e05 Lu1e06 Ll1e07 Lu1e08 Ll1e09 Lu1e0a Ll1e0b",
    "Lu1e0c Ll1e0d Lu1e0e Ll1e0f Lu1e10 Ll1e11 Lu1e12 Ll1e13 Lu1e14 Ll1e15 Lu1e16 Ll1e17",
    "Lu1e18 Ll1e19 Lu1e1a Ll1e1b Lu1e1c Ll1e1d Lu1e1e Ll1e1f Lu1e20 Ll1e21 Lu1e22 Ll1e23",
    "Lu1e24 Ll1e25 Lu1e26 Ll1e27 Lu1e28 Ll1e29 Lu1e2a Ll1e2b Lu1e2c Ll1e2d Lu1e2e Ll1e2f",
    "Lu1e30 Ll1e31 Lu1e32 Ll1e33 Lu1e34 Ll1e35 Lu1e36 Ll1e37 Lu1e38 Ll1e39 Lu1e3a Ll1e3b",
    "Lu1e3c Ll1e3d Lu1e3e Ll1e3f Lu1e40 Ll1e41 Lu1e42 Ll1e43 Lu1e44 Ll1e45 Lu1e46 Ll1e47",
    "Lu1e48 Ll1e49 Lu1e4a Ll1e4b Lu1e4c Ll1e4d Lu1e4e Ll1e4f Lu1e50 Ll1e51 Lu1e52 Ll1e53",
    "Lu1e54 Ll1e55 Lu1e56 Ll1e57 Lu1e58 Ll1e59 Lu1e5a Ll1e5b Lu1e5c Ll1e5d Lu1e5e Ll1e5f",
    "Lu1e60 Ll1e61 Lu1e62 Ll1e63 Lu1e64 Ll1e65 Lu1e66 Ll1e67 Lu1e68 Ll1e69 Lu1e6a Ll1e6b",
    "Lu1e6c Ll1e6d Lu1e6e Ll1e6f Lu1e70 Ll1e71 Lu1e72 Ll1e73 Lu1e74 Ll1e75 Lu1e76 Ll1e77",
    "Lu1e78 Ll1e79 Lu1e7a Ll1e7b Lu1e7c Ll1e7d Lu1e7e Ll1e7f Lu1e80 Ll1e81 Lu1e82 Ll1e83",
    "Lu1e84 Ll1e85 Lu1e86 Ll1e87 Lu1e88 Ll1e89 Lu1e8a Ll1e8b Lu1e8c Ll1e8d Lu1e8e Ll1e8f",
    "Lu1e90 Ll1e91 Lu1e92 Ll1e93 Lu1e94 Ll1e95 Lu1e9e Ll1e9f Lu1ea0 Ll1ea1 Lu1ea2 Ll1ea3",
    "Lu1ea4 Ll1ea5 Lu1ea6 Ll1ea7 Lu1ea8 Ll1ea9 Lu1eaa Ll1eab Lu1eac Ll1ead Lu1eae Ll1eaf",
    "Lu1eb0 Ll1eb1 Lu1eb2 Ll1eb3 Lu1eb4 Ll1eb5 Lu1eb6 Ll1eb7 Lu1eb8 Ll1eb9 Lu1eba Ll1ebb",
    "Lu1ebc Ll1ebd Lu1ebe Ll1ebf Lu1ec0 Ll1ec1 Lu1ec2 Ll1ec3 Lu1ec4 Ll1ec5 Lu1ec6 Ll1ec7",
    "Lu1ec8 Ll1ec9 Lu1eca Ll1ecb Lu1ecc Ll1ecd Lu1ece Ll1ecf Lu1ed0 Ll1ed1 Lu1ed2 Ll1ed3",
    "Lu1ed4 Ll1ed5 Lu1ed6 Ll1ed7 Lu1ed8 Ll1ed9 Lu1eda Ll1edb Lu1edc Ll1edd Lu1ede Ll1edf",
    "Lu1ee0 Ll1ee1 Lu1ee2 Ll1ee3 Lu1ee4 Ll1ee5 Lu1ee6 Ll1ee7 Lu1ee8 Ll1ee9 Lu1eea Ll1eeb",
    "Lu1eec Ll1eed Lu1eee Ll1eef Lu1ef0 Ll1ef1 Lu1ef2 Ll1ef3 Lu1ef4 Ll1ef5 Lu1ef6 Ll1ef7",
    "Lu1ef8 Ll1ef9 Lu1efa Ll1efb Lu1efc Ll1efd Lu1efe Ll1eff Lu1f08 Ll1f10 Cn1f16 Lu1f18",
    "Cn1f1e Ll1f20 Lu1f28 Ll1f30 Lu1f38 Ll1f40 Cn1f46 Lu1f48 Cn1f4e Ll1f50 Cn1f58 Lu1f59",
    "Cn1f5a Lu1f5b Cn1f5c Lu1f5d Cn1f5e Lu1f5f Ll1f60 Lu1f68 Ll1f70 Cn1f7e Ll1f80 Lt1f88",
    "Ll1f90 Lt1f98 Ll1fa0 Lt1fa8 Ll1fb0 Cn1fb5 Ll1fb6 Lu1fb8 Lt1fbc Sk1fbd Ll1fbe Sk1fbf",
    "Ll1fc2 Cn1fc5 Ll1fc6 Lu1fc8 Lt1fcc Sk1fcd Ll1fd0 Cn1fd4 Ll1fd6 Lu1fd8 Cn1fdc Sk1fdd",
    "Ll1fe0 Lu1fe8 Sk1fed Cn1ff0 Ll1ff2 Cn1ff5 Ll1ff6 Lu1ff8 Lt1ffc Sk1ffd Cn1fff Zs2000",
    "Cf200b Pd2010 Po2016 Pi2018 Pf2019 Ps201a Pi201b Pf201d Ps201e Pi201f Po2020 Zl2028",
    "Zp2029 Cf202a Zs202f Po2030 Pi2039 Pf203a Po203b Pc203f Po2041 Sm2044 Ps2045 Pe2046",
    "Po2047 Sm2052 Po2053 Pc2054 Po2055 Zs205f Cf2060 Cn2065 Cf2066 No2070 Lm2071 Cn2072",
    "No2074 Sm207a Ps207d Pe207e Lm207f No2080 Sm208a Ps208d Pe208e Cn208f Lm2090 Cn209d",
    "Sc20a0 Cn20c2 Mn20d0 Me20dd Mn20e1 Me20e2 Mn20e5 Cn20f1 So2100 Lu2102 So2103 Lu2107",
    "So2108 Ll210a Lu210b Ll210e Lu2110 Ll2113 So2114 Lu2115 So2116 Sm2118 Lu2119 So211e",
    "Lu2124 So2125 Lu2126 So2127 Lu2128 So2129 Lu212a So212e Ll212f Lu2130 Ll2134 Lo2135",
    "Ll2139 So213a Ll213c Lu213e Sm2140 Lu2145 Ll2146 So214a Sm214b So214c Ll214e So214f",
    "No2150 Nl2160 Lu2183 Ll2184 Nl2185 No2189 So218a Cn218c Sm2190 So2195 Sm219a So219c",
    "Sm21a0 So21a1 Sm21a3 So21a4 Sm21a6 So21a7 Sm21ae So21af Sm21ce So21d0 Sm21d2 So21d3",
    "Sm21d4 So21d5 Sm21f4 So2300 Ps2308 Pe2309 Ps230a Pe230b So230c Sm2320 So2322 Ps2329",
    "Pe232a So232b Sm237c So237d Sm239b So23b4 Sm23dc So23e2 Cn242a So2440 Cn244b No2460",
    "So249c No24ea So2500 Sm25b7 So25b8 Sm25c1 So25c2 Sm25f8 So2600 Sm266f So2670 Ps2768",
    "Pe2769 Ps276a Pe276b Ps276c Pe276d Ps276e Pe276f Ps2770 Pe2771 Ps2772 Pe2773 Ps2774",
    "Pe2775 No2776 So2794 Sm27c0 Ps27c5 Pe27c6 Sm27c7 Ps27e6 Pe27e7 Ps27e8 Pe27e9 Ps27ea",
    "Pe27eb Ps27ec Pe27ed Ps27ee Pe27ef Sm27f0 So2800 Sm2900 Ps2983 Pe2984 Ps2985 Pe2986",
    "Ps2987 Pe2988 Ps2989 Pe298a Ps298b Pe298c Ps298d Pe298e Ps298f Pe2990 Ps2991 Pe2992",
    "Ps2993 Pe2994 Ps2995 Pe2996 Ps2997 Pe2998 Sm2999 Ps29d8 Pe29d9 Ps29da Pe29db Sm29dc",
    "Ps29fc Pe29fd Sm29fe So2b00 Sm2b30 So2b45 Sm2b47 So2b4d Cn2b74 So2b76 Lu2c00 Ll2c30",
    "Lu2c60 Ll2c61 Lu2c62 Ll2c65 Lu2c67 Ll2c68 Lu2c69 Ll2c6a Lu2c6b Ll2c6c Lu2c6d Ll2c71",
    "Lu2c72 Ll2c73 Lu2c75 Ll2c76 Lm2c7c Lu2c7e Ll2c81 Lu2c82 Ll2c83 Lu2c84 Ll2c85 Lu2c86",
    "Ll2c87 Lu2c88 Ll2c89 Lu2c8a Ll2c8b Lu2c8c Ll2c8d Lu2c8e Ll2c8f Lu2c90 Ll2c91 Lu2c92",
    "Ll2c93 Lu2c94 Ll2c95 Lu2c96 Ll2c97 Lu2c98 Ll2c99 Lu2c9a Ll2c9b Lu2c9c Ll2c9d Lu2c9e",
    "Ll2c9f Lu2ca0 Ll2ca1 Lu2ca2 Ll2ca3 Lu2ca4 Ll2ca5 Lu2ca6 Ll2ca7 Lu2ca8 Ll2ca9 Lu2caa",
    "Ll2cab Lu2cac Ll2cad Lu2cae Ll2caf Lu2cb0 Ll2cb1 Lu2cb2 Ll2cb3 Lu2cb4 Ll2cb5 Lu2cb6",
    "Ll2cb7 Lu2cb8 Ll2cb9 Lu2cba Ll2cbb Lu2cbc Ll2cbd Lu2cbe Ll2cbf Lu2cc0 Ll2cc1 Lu2cc2",
    "Ll2cc3 Lu2cc4 Ll2cc5 Lu2cc6 Ll2cc7 Lu2cc8 Ll2cc9 Lu2cca Ll2ccb Lu2ccc Ll2ccd Lu2cce",
    "Ll2ccf Lu2cd0 Ll2cd1 Lu2cd2 Ll2cd3 Lu2cd4 Ll2cd5 Lu2cd6 Ll2cd7 Lu2cd8 Ll2cd9 Lu2cda",
    "Ll2cdb Lu2cdc Ll2cdd Lu2cde Ll2cdf Lu2ce0 Ll2ce1 Lu2ce2 Ll2ce3 So2ce5 Lu2ceb Ll2cec",
    "Lu2ced Ll2cee Mn2cef Lu2cf2 Ll2cf3 Cn2cf4 Po2cf9 No2cfd Po2cfe Ll2d00 Cn2d26 Ll2d27",
    "Cn2d28 Ll2d2d Cn2d2e Lo2d30 Cn2d68 Lm2d6f Po2d70 Cn2d71 Mn2d7f Lo2d80 Cn2d97 Lo2da0",
    "Cn2da7 Lo2da8 Cn2daf Lo2db0 Cn2db7 Lo2db8 Cn2dbf Lo2dc0 Cn2dc7 Lo2dc8 Cn2dcf Lo2dd0",
    "Cn2dd7 Lo2dd8 Cn2ddf Mn2de0 Po2e00 Pi2e02 Pf2e03 Pi2e04 Pf2e05 Po2e06 Pi2e09 Pf2e0a",
    "Po2e0b Pi2e0c Pf2e0d Po2e0e Pd2e17 Po2e18 Pd2e1a Po2e1b Pi2e1c Pf2e1d Po2e1e Pi2e20",
    "Pf2e21 Ps2e22 Pe2e23 Ps2e24 Pe2e25 Ps2e26 Pe2e27 Ps2e28 Pe2e29 Po2e2a Lm2e2f Po2e30",
    "Pd2e3a Po2e3c Pd2e40 Po2e41 Ps2e42 Po2e43 So2e50 Po2e52 Ps2e55 Pe2e56 Ps2e57 Pe2e58",
    "Ps2e59 Pe2e5a Ps2e5b Pe2e5c Pd2e5d Cn2e5e So2e80 Cn2e9a So2e9b Cn2ef4 So2f00 Cn2fd6",
    "So2ff0 Zs3000 Po3001 So3004 Lm3005 Lo3006 Nl3007 Ps3008 Pe3009 Ps300a Pe300b Ps300c",
    "Pe300d Ps300e Pe300f Ps3010 Pe3011 So3012 Ps3014 Pe3015 Ps3016 Pe3017 Ps3018 Pe3019",
    "Ps301a Pe301b Pd301c Ps301d Pe301e So3020 Nl3021 Mn302a Mc302e Pd3030 Lm3031 So3036",
    "Nl3038 Lm303b Lo303c Po303d So303e Cn3040 Lo3041 Cn3097 Mn3099 Sk309b Lm309d Lo309f",
    "Pd30a0 Lo30a1 Po30fb Lm30fc Lo30ff Cn3100 Lo3105 Cn3130 Lo3131 Cn318f So3190 No3192",
    "So3196 Lo31a0 So31c0 Cn31e6 So31ef Lo31f0 So3200 Cn321f No3220 So322a No3248 So3250",
    "No3251 So3260 No3280 So328a No32b1 So32c0 Lo3400 So4dc0 Lo4e00 Lma015 Loa016 Cna48d",
    "Soa490 Cna4c7 Loa4d0 Lma4f8 Poa4fe Loa500 Lma60c Poa60d Loa610 Nda620 Loa62a Cna62c",
    "Lua640 Lla641 Lua642 Lla643 Lua644 Lla645 Lua646 Lla647 Lua648 Lla649 Lua64a Lla64b",
    "Lua64c Lla64d Lua64e Lla64f Lua650 Lla651 Lua652 Lla653 Lua654 Lla655 Lua656 Lla657",
    "Lua658 Lla659 Lua65a Lla65b Lua65c Lla65d Lua65e Lla65f Lua660 Lla661 Lua662 Lla663",
    "Lua664 Lla665 Lua666 Lla667 Lua668 Lla669 Lua66a Lla66b Lua66c Lla66d Loa66e Mna66f",
    "Mea670 Poa673 Mna674 Poa67e Lma67f Lua680 Lla681 Lua682 Lla683 Lua684 Lla685 Lua686",
    "Lla687 Lua688 Lla689 Lua68a Lla68b Lua68c Lla68d Lua68e Lla68f Lua690 Lla691 Lua692",
    "Lla693 Lua694 Lla695 Lua696 Lla697 Lua698 Lla699 Lua69a Lla69b Lma69c Mna69e Loa6a0",
    "Nla6e6 Mna6f0 Poa6f2 Cna6f8 Ska700 Lma717 Ska720 Lua722 Lla723 Lua724 Lla725 Lua726",
    "Lla727 Lua728 Lla729 Lua72a Lla72b Lua72c Lla72d Lua72e Lla72f Lua732 Lla733 Lua734",
    "Lla735 Lua736 Lla737 Lua738 Lla739 Lua73a Lla73b Lua73c Lla73d Lua73e Lla73f Lua740",
    "Lla741 Lua742 Lla743 Lua744 Lla745 Lua746 Lla747 Lua748 Lla749 Lua74a Lla74b Lua74c",
    "Lla74d Lua74e Lla74f Lua750 Lla751 Lua752 Lla753 Lua754 Lla755 Lua756 Lla757 Lua758",
    "Lla759 Lua75a Lla75b Lua75c Lla75d Lua75e Lla75f Lua760 Lla761 Lua762 Lla763 Lua764",
    "Lla765 Lua766 Lla767 Lua768 Lla769 Lua76a Lla76b Lua76c Lla76d Lua76e Lla76f Lma770",
    "Lla771 Lua779 Lla77a Lua77b Lla77c Lua77d Lla77f Lua780 Lla781 Lua782 Lla783 Lua784",
    "Lla785 Lua786 Lla787 Lma788 Ska789 Lua78b Lla78c Lua78d Lla78e Loa78f Lua790 Lla791",
    "Lua792 Lla793 Lua796 Lla797 Lua798 Lla799 Lua79a Lla79b Lua79c Lla79d Lua79e Lla79f",
    "Lua7a0 Lla7a1 Lua7a2 Lla7a3 Lua7a4 Lla7a5 Lua7a6 Lla7a7 Lua7a8 Lla7a9 Lua7aa Lla7af",
    "Lua7b0 Lla7b5 Lua7b6 Lla7b7 Lua7b8 Lla7b9 Lua7ba Lla7bb Lua7bc Lla7bd Lua7be Lla7bf",
    "Lua7c0 Lla7c1 Lua7c2 Lla7c3 Lua7c4 Lla7c8 Lua7c9 Lla7ca Lua7cb Lla7cd Lua7ce Lla7cf",
    "Lua7d0 Lla7d1 Lua7d2 Lla7d3 Lua7d4 Lla7d5 Lua7d6 Lla7d7 Lua7d8 Lla7d9 Lua7da Lla7db",
    "Lua7dc Cna7dd Lma7f1 Lua7f5 Lla7f6 Loa7f7 Lma7f8 Lla7fa Loa7fb Mna802 Loa803 Mna806",
    "Loa807 Mna80b Loa80c Mca823 Mna825 Mca827 Soa828 Mna82c Cna82d Noa830 Soa836 Sca838",
    "Soa839 Cna83a Loa840 Poa874 Cna878 Mca880 Loa882 Mca8b4 Mna8c4 Cna8c6 Poa8ce Nda8d0",
    "Cna8da Mna8e0 Loa8f2 Poa8f8 Loa8fb Poa8fc Loa8fd Mna8ff Nda900 Loa90a Mna926 Poa92e",
    "Loa930 Mna947 Mca952 Cna954 Poa95f Loa960 Cna97d Mna980 Mca983 Loa984 Mna9b3 Mca9b4",
    "Mna9b6 Mca9ba Mna9bc Mca9be Poa9c1 Cna9ce Lma9cf Nda9d0 Cna9da Poa9de Loa9e0 Mna9e5",
    "Lma9e6 Loa9e7 Nda9f0 Loa9fa Cna9ff Loaa00 Mnaa29 Mcaa2f Mnaa31 Mcaa33 Mnaa35 Cnaa37",
    "Loaa40 Mnaa43 Loaa44 Mnaa4c Mcaa4d Cnaa4e Ndaa50 Cnaa5a Poaa5c Loaa60 Lmaa70 Loaa71",
    "Soaa77 Loaa7a Mcaa7b Mnaa7c Mcaa7d Loaa7e Mnaab0 Loaab1 Mnaab2 Loaab5 Mnaab7 Loaab9",
    "Mnaabe Loaac0 Mnaac1 Loaac2 Cnaac3 Loaadb Lmaadd Poaade Loaae0 Mcaaeb Mnaaec Mcaaee",
    "Poaaf0 Loaaf2 Lmaaf3 Mcaaf5 Mnaaf6 Cnaaf7 Loab01 Cnab07 Loab09 Cnab0f Loab11 Cnab17",
    "Loab20 Cnab27 Loab28 Cnab2f Llab30 Skab5b Lmab5c Llab60 Lmab69 Skab6a Cnab6c Llab70",
    "Loabc0 Mcabe3 Mnabe5 Mcabe6 Mnabe8 Mcabe9 Poabeb Mcabec Mnabed Cnabee Ndabf0 Cnabfa",
    "Loac00 Cnd7a4 Lod7b0 Cnd7c7 Lod7cb Cnd7fc Csd800 Coe000 Lof900 Cnfa6e Lofa70 Cnfada",
    "Llfb00 Cnfb07 Llfb13 Cnfb18 Lofb1d Mnfb1e Lofb1f Smfb29 Lofb2a Cnfb37 Lofb38 Cnfb3d",
    "Lofb3e Cnfb3f Lofb40 Cnfb42 Lofb43 Cnfb45 Lofb46 Skfbb2 Sofbc3 Lofbd3 Pefd3e Psfd3f",
    "Sofd40 Lofd50 Sofd90 Lofd92 Sofdc8 Cnfdd0 Lofdf0 Scfdfc Sofdfd Mnfe00 Pofe10 Psfe17",
    "Pefe18 Pofe19 Cnfe1a Mnfe20 Pofe30 Pdfe31 Pcfe33 Psfe35 Pefe36 Psfe37 Pefe38 Psfe39",
    "Pefe3a Psfe3b Pefe3c Psfe3d Pefe3e Psfe3f Pefe40 Psfe41 Pefe42 Psfe43 Pefe44 Pofe45",
    "Psfe47 Pefe48 Pofe49 Pcfe4d Pofe50 Cnfe53 Pofe54 Pdfe58 Psfe59 Pefe5a Psfe5b Pefe5c",
    "Psfe5d Pefe5e Pofe5f Smfe62 Pdfe63 Smfe64 Cnfe67 Pofe68 Scfe69 Pofe6a Cnfe6c Lofe70",
    "Cnfe75 Lofe76 Cnfefd Cffeff Cnff00 Poff01 Scff04 Poff05 Psff08 Peff09 Poff0a Smff0b",
    "Poff0c Pdff0d Poff0e Ndff10 Poff1a Smff1c Poff1f Luff21 Psff3b Poff3c Peff3d Skff3e",
    "Pcff3f Skff40 Llff41 Psff5b Smff5c Peff5d Smff5e Psff5f Peff60 Poff61 Psff62 Peff63",
    "Poff64 Loff66 Lmff70 Loff71 Lmff9e Loffa0 Cnffbf Loffc2 Cnffc8 Loffca Cnffd0 Loffd2",
    "Cnffd8 Loffda Cnffdd Scffe0 Smffe2 Skffe3 Soffe4 Scffe5 Cnffe7 Soffe8 Smffe9 Soffed",
    "Cnffef Cffff9 Sofffc Cnfffe Lo10000 Cn1000c Lo1000d Cn10027 Lo10028 Cn1003b Lo1003c",
    "Cn1003e Lo1003f Cn1004e Lo10050 Cn1005e Lo10080 Cn100fb Po10100 Cn10103 No10107 Cn10134",
    "So10137 Nl10140 No10175 So10179 No1018a So1018c Cn1018f So10190 Cn1019d So101a0 Cn101a1",
    "So101d0 Mn101fd Cn101fe Lo10280 Cn1029d Lo102a0 Cn102d1 Mn102e0 No102e1 Cn102fc Lo10300",
    "No10320 Cn10324 Lo1032d Nl10341 Lo10342 Nl1034a Cn1034b Lo10350 Mn10376 Cn1037b Lo10380",
    "Cn1039e Po1039f Lo103a0 Cn103c4 Lo103c8 Po103d0 Nl103d1 Cn103d6 Lu10400 Ll10428 Lo10450",
    "Cn1049e Nd104a0 Cn104aa Lu104b0 Cn104d4 Ll104d8 Cn104fc Lo10500 Cn10528 Lo10530 Cn10564",
    "Po1056f Lu10570 Cn1057b Lu1057c Cn1058b Lu1058c Cn10593 Lu10594 Cn10596 Ll10597 Cn105a2",
    "Ll105a3 Cn105b2 Ll105b3 Cn105ba Ll105bb Cn105bd Lo105c0 Cn105f4 Lo10600 Cn10737 Lo10740",
    "Cn10756 Lo10760 Cn10768 Lm10780 Cn10786 Lm10787 Cn107b1 Lm107b2 Cn107bb Lo10800 Cn10806",
    "Lo10808 Cn10809 Lo1080a Cn10836 Lo10837 Cn10839 Lo1083c Cn1083d Lo1083f Cn10856 Po10857",
    "No10858 Lo10860 So10877 No10879 Lo10880 Cn1089f No108a7 Cn108b0 Lo108e0 Cn108f3 Lo108f4",
    "Cn108f6 No108fb Lo10900 No10916 Cn1091c Po1091f Lo10920 Cn1093a Po1093f Lo10940 Cn1095a",
    "Lo10980 Cn109b8 No109bc Lo109be No109c0 Cn109d0 No109d2 Lo10a00 Mn10a01 Cn10a04 Mn10a05",
    "Cn10a07 Mn10a0c Lo10a10 Cn10a14 Lo10a15 Cn10a18 Lo10a19 Cn10a36 Mn10a38 Cn10a3b Mn10a3f",
    "No10a40 Cn10a49 Po10a50 Cn10a59 Lo10a60 No10a7d Po10a7f Lo10a80 No10a9d Cn10aa0 Lo10ac0",
    "So10ac8 Lo10ac9 Mn10ae5 Cn10ae7 No10aeb Po10af0 Cn10af7 Lo10b00 Cn10b36 Po10b39 Lo10b40",
    "Cn10b56 No10b58 Lo10b60 Cn10b73 No10b78 Lo10b80 Cn10b92 Po10b99 Cn10b9d No10ba9 Cn10bb0",
    "Lo10c00 Cn10c49 Lu10c80 Cn10cb3 Ll10cc0 Cn10cf3 No10cfa Lo10d00 Mn10d24 Cn10d28 Nd10d30",
    "Cn10d3a Nd10d40 Lo10d4a Lm10d4e Lo10d4f Lu10d50 Cn10d66 Mn10d69 Pd10d6e Lm10d6f Ll10d70",
    "Cn10d86 Sm10d8e Cn10d90 No10e60 Cn10e7f Lo10e80 Cn10eaa Mn10eab Pd10ead Cn10eae Lo10eb0",
    "Cn10eb2 Lo10ec2 Lm10ec5 Lo10ec6 Cn10ec8 Po10ed0 So10ed1 Cn10ed9 Mn10efa Lo10f00 No10f1d",
    "Lo10f27 Cn10f28 Lo10f30 Mn10f46 No10f51 Po10f55 Cn10f5a Lo10f70 Mn10f82 Po10f86 Cn10f8a",
    "Lo10fb0 No10fc5 Cn10fcc Lo10fe0 Cn10ff7 Mc11000 Mn11001 Mc11002 Lo11003 Mn11038 Po11047",
    "Cn1104e No11052 Nd11066 Mn11070 Lo11071 Mn11073 Lo11075 Cn11076 Mn1107f Mc11082 Lo11083",
    "Mc110b0 Mn110b3 Mc110b7 Mn110b9 Po110bb Cf110bd Po110be Mn110c2 Cn110c3 Cf110cd Cn110ce",
    "Lo110d0 Cn110e9 Nd110f0 Cn110fa Mn11100 Lo11103 Mn11127 Mc1112c Mn1112d Cn11135 Nd11136",
    "Po11140 Lo11144 Mc11145 Lo11147 Cn11148 Lo11150 Mn11173 Po11174 Lo11176 Cn11177 Mn11180",
    "Mc11182 Lo11183 Mc111b3 Mn111b6 Mc111bf Lo111c1 Po111c5 Mn111c9 Po111cd Mc111ce Mn111cf",
    "Nd111d0 Lo111da Po111db Lo111dc Po111dd Cn111e0 No111e1 Cn111f5 Lo11200 Cn11212 Lo11213",
    "Mc1122c Mn1122f Mc11232 Mn11234 Mc11235 Mn11236 Po11238 Mn1123e Lo1123f Mn11241 Cn11242",
    "Lo11280 Cn11287 Lo11288 Cn11289 Lo1128a Cn1128e Lo1128f Cn1129e Lo1129f Po112a9 Cn112aa",
    "Lo112b0 Mn112df Mc112e0 Mn112e3 Cn112eb Nd112f0 Cn112fa Mn11300 Mc11302 Cn11304 Lo11305",
    "Cn1130d Lo1130f Cn11311 Lo11313 Cn11329 Lo1132a Cn11331 Lo11332 Cn11334 Lo11335 Cn1133a",
    "Mn1133b Lo1133d Mc1133e Mn11340 Mc11341 Cn11345 Mc11347 Cn11349 Mc1134b Cn1134e Lo11350",
    "Cn11351 Mc11357 Cn11358 Lo1135d Mc11362 Cn11364 Mn11366 Cn1136d Mn11370 Cn11375 Lo11380",
    "Cn1138a Lo1138b Cn1138c Lo1138e Cn1138f Lo11390 Cn113b6 Lo113b7 Mc113b8 Mn113bb Cn113c1",
    "Mc113c2 Cn113c3 Mc113c5 Cn113c6 Mc113c7 Cn113cb Mc113cc Mn113ce Mc113cf Mn113d0 Lo113d1",
    "Mn113d2 Lo113d3 Po113d4 Cn113d6 Po113d7 Cn113d9 Mn113e1 Cn113e3 Lo11400 Mc11435 Mn11438",
    "Mc11440 Mn11442 Mc11445 Mn11446 Lo11447 Po1144b Nd11450 Po1145a Cn1145c Po1145d Mn1145e",
    "Lo1145f Cn11462 Lo11480 Mc114b0 Mn114b3 Mc114b9 Mn114ba Mc114bb Mn114bf Mc114c1 Mn114c2",
    "Lo114c4 Po114c6 Lo114c7 Cn114c8 Nd114d0 Cn114da Lo11580 Mc115af Mn115b2 Cn115b6 Mc115b8",
    "Mn115bc Mc115be Mn115bf Po115c1 Lo115d8 Mn115dc Cn115de Lo11600 Mc11630 Mn11633 Mc1163b",
    "Mn1163d Mc1163e Mn1163f Po11641 Lo11644 Cn11645 Nd11650 Cn1165a Po11660 Cn1166d Lo11680",
    "Mn116ab Mc116ac Mn116ad Mc116ae Mn116b0 Mc116b6 Mn116b7 Lo116b8 Po116b9 Cn116ba Nd116c0",
    "Cn116ca Nd116d0 Cn116e4 Lo11700 Cn1171b Mn1171d Mc1171e Mn1171f Mc11720 Mn11722 Mc11726",
    "Mn11727 Cn1172c Nd11730 No1173a Po1173c So1173f Lo11740 Cn11747 Lo11800 Mc1182c Mn1182f",
    "Mc11838 Mn11839 Po1183b Cn1183c Lu118a0 Ll118c0 Nd118e0 No118ea Cn118f3 Lo118ff Cn11907",
    "Lo11909 Cn1190a Lo1190c Cn11914 Lo11915 Cn11917 Lo11918 Mc11930 Cn11936 Mc11937 Cn11939",
    "Mn1193b Mc1193d Mn1193e Lo1193f Mc11940 Lo11941 Mc11942 Mn11943 Po11944 Cn11947 Nd11950",
    "Cn1195a Lo119a0 Cn119a8 Lo119aa Mc119d1 Mn119d4 Cn119d8 Mn119da Mc119dc Mn119e0 Lo119e1",
    "Po119e2 Lo119e3 Mc119e4 Cn119e5 Lo11a00 Mn11a01 Lo11a0b Mn11a33 Mc11a39 Lo11a3a Mn11a3b",
    "Po11a3f Mn11a47 Cn11a48 Lo11a50 Mn11a51 Mc11a57 Mn11a59 Lo11a5c Mn11a8a Mc11a97 Mn11a98",
    "Po11a9a Lo11a9d Po11a9e Cn11aa3 Lo11ab0 Cn11af9 Po11b00 Cn11b0a Mn11b60 Mc11b61 Mn11b62",
    "Mc11b65 Mn11b66 Mc11b67 Cn11b68 Lo11bc0 Po11be1 Cn11be2 Nd11bf0 Cn11bfa Lo11c00 Cn11c09",
    "Lo11c0a Mc11c2f Mn11c30 Cn11c37 Mn11c38 Mc11c3e Mn11c3f Lo11c40 Po11c41 Cn11c46 Nd11c50",
    "No11c5a Cn11c6d Po11c70 Lo11c72 Cn11c90 Mn11c92 Cn11ca8 Mc11ca9 Mn11caa Mc11cb1 Mn11cb2",
    "Mc11cb4 Mn11cb5 Cn11cb7 Lo11d00 Cn11d07 Lo11d08 Cn11d0a Lo11d0b Mn11d31 Cn11d37 Mn11d3a",
    "Cn11d3b Mn11d3c Cn11d3e Mn11d3f Lo11d46 Mn11d47 Cn11d48 Nd11d50 Cn11d5a Lo11d60 Cn11d66",
    "Lo11d67 Cn11d69 Lo11d6a Mc11d8a Cn11d8f Mn11d90 Cn11d92 Mc11d93 Mn11d95 Mc11d96 Mn11d97",
    "Lo11d98 Cn11d99 Nd11da0 Cn11daa Lo11db0 Lm11dd9 Lo11dda Cn11ddc Nd11de0 Cn11dea Lo11ee0",
    "Mn11ef3 Mc11ef5 Po11ef7 Cn11ef9 Mn11f00 Lo11f02 Mc11f03 Lo11f04 Cn11f11 Lo11f12 Mc11f34",
    "Mn11f36 Cn11f3b Mc11f3e Mn11f40 Mc11f41 Mn11f42 Po11f43 Nd11f50 Mn11f5a Cn11f5b Lo11fb0",
    "Cn11fb1 No11fc0 So11fd5 Sc11fdd So11fe1 Cn11ff2 Po11fff Lo12000 Cn1239a Nl12400 Cn1246f",
    "Po12470 Cn12475 Lo12480 Cn12544 Lo12f90 Po12ff1 Cn12ff3 Lo13000 Cf13430 Mn13440 Lo13441",
    "Mn13447 Cn13456 Lo13460 Cn143fb Lo14400 Cn14647 Lo16100 Mn1611e Mc1612a Mn1612d Nd16130",
    "Cn1613a Lo16800 Cn16a39 Lo16a40 Cn16a5f Nd16a60 Cn16a6a Po16a6e Lo16a70 Cn16abf Nd16ac0",
    "Cn16aca Lo16ad0 Cn16aee Mn16af0 Po16af5 Cn16af6 Lo16b00 Mn16b30 Po16b37 So16b3c Lm16b40",
    "Po16b44 So16b45 Cn16b46 Nd16b50 Cn16b5a No16b5b Cn16b62 Lo16b63 Cn16b78 Lo16b7d Cn16b90",
    "Lm16d40 Lo16d43 Lm16d6b Po16d6d Nd16d70 Cn16d7a Lu16e40 Ll16e60 No16e80 Po16e97 Cn16e9b",
    "Lu16ea0 Cn16eb9 Ll16ebb Cn16ed4 Lo16f00 Cn16f4b Mn16f4f Lo16f50 Mc16f51 Cn16f88 Mn16f8f",
    "Lm16f93 Cn16fa0 Lm16fe0 Po16fe2 Lm16fe3 Mn16fe4 Cn16fe5 Mc16ff0 Lm16ff2 Nl16ff4 Cn16ff7",
    "Lo17000 Cn18cd6 Lo18cff Cn18d1f Lo18d80 Cn18df3 Lm1aff0 Cn1aff4 Lm1aff5 Cn1affc Lm1affd",
    "Cn1afff Lo1b000 Cn1b123 Lo1b132 Cn1b133 Lo1b150 Cn1b153 Lo1b155 Cn1b156 Lo1b164 Cn1b168",
    "Lo1b170 Cn1b2fc Lo1bc00 Cn1bc6b Lo1bc70 Cn1bc7d Lo1bc80 Cn1bc89 Lo1bc90 Cn1bc9a So1bc9c",
    "Mn1bc9d Po1bc9f Cf1bca0 Cn1bca4 So1cc00 Nd1ccf0 So1ccfa Cn1ccfd So1cd00 Cn1ceb4 So1ceba",
    "Cn1ced1 So1cee0 Sm1cef0 Cn1cef1 Mn1cf00 Cn1cf2e Mn1cf30 Cn1cf47 So1cf50 Cn1cfc4 So1d000",
    "Cn1d0f6 So1d100 Cn1d127 So1d129 Mc1d165 Mn1d167 So1d16a Mc1d16d Cf1d173 Mn1d17b So1d183",
    "Mn1d185 So1d18c Mn1d1aa So1d1ae Cn1d1eb So1d200 Mn1d242 So1d245 Cn1d246 No1d2c0 Cn1d2d4",
    "No1d2e0 Cn1d2f4 So1d300 Cn1d357 No1d360 Cn1d379 Lu1d400 Ll1d41a Lu1d434 Ll1d44e Cn1d455",
    "Ll1d456 Lu1d468 Ll1d482 Lu1d49c Cn1d49d Lu1d49e Cn1d4a0 Lu1d4a2 Cn1d4a3 Lu1d4a5 Cn1d4a7",
    "Lu1d4a9 Cn1d4ad Lu1d4ae Ll1d4b6 Cn1d4ba Ll1d4bb Cn1d4bc Ll1d4bd Cn1d4c4 Ll1d4c5 Lu1d4d0",
    "Ll1d4ea Lu1d504 Cn1d506 Lu1d507 Cn1d50b Lu1d50d Cn1d515 Lu1d516 Cn1d51d Ll1d51e Lu1d538",
    "Cn1d53a Lu1d53b Cn1d53f Lu1d540 Cn1d545 Lu1d546 Cn1d547 Lu1d54a Cn1d551 Ll1d552 Lu1d56c",
    "Ll1d586 Lu1d5a0 Ll1d5ba Lu1d5d4 Ll1d5ee Lu1d608 Ll1d622 Lu1d63c Ll1d656 Lu1d670 Ll1d68a",
    "Cn1d6a6 Lu1d6a8 Sm1d6c1 Ll1d6c2 Sm1d6db Ll1d6dc Lu1d6e2 Sm1d6fb Ll1d6fc Sm1d715 Ll1d716",
    "Lu1d71c Sm1d735 Ll1d736 Sm1d74f Ll1d750 Lu1d756 Sm1d76f Ll1d770 Sm1d789 Ll1d78a Lu1d790",
    "Sm1d7a9 Ll1d7aa Sm1d7c3 Ll1d7c4 Lu1d7ca Ll1d7cb Cn1d7cc Nd1d7ce So1d800 Mn1da00 So1da37",
    "Mn1da3b So1da6d Mn1da75 So1da76 Mn1da84 So1da85 Po1da87 Cn1da8c Mn1da9b Cn1daa0 Mn1daa1",
    "Cn1dab0 Ll1df00 Lo1df0a Ll1df0b Cn1df1f Ll1df25 Cn1df2b Mn1e000 Cn1e007 Mn1e008 Cn1e019",
    "Mn1e01b Cn1e022 Mn1e023 Cn1e025 Mn1e026 Cn1e02b Lm1e030 Cn1e06e Mn1e08f Cn1e090 Lo1e100",
    "Cn1e12d Mn1e130 Lm1e137 Cn1e13e Nd1e140 Cn1e14a Lo1e14e So1e14f Cn1e150 Lo1e290 Mn1e2ae",
    "Cn1e2af Lo1e2c0 Mn1e2ec Nd1e2f0 Cn1e2fa Sc1e2ff Cn1e300 Lo1e4d0 Lm1e4eb Mn1e4ec Nd1e4f0",
    "Cn1e4fa Lo1e5d0 Mn1e5ee Lo1e5f0 Nd1e5f1 Cn1e5fb Po1e5ff Cn1e600 Lo1e6c0 Cn1e6df Lo1e6e0",
    "Mn1e6e3 Lo1e6e4 Mn1e6e6 Lo1e6e7 Mn1e6ee Lo1e6f0 Mn1e6f5 Cn1e6f6 Lo1e6fe Lm1e6ff Cn1e700",
    "Lo1e7e0 Cn1e7e7 Lo1e7e8 Cn1e7ec Lo1e7ed Cn1e7ef Lo1e7f0 Cn1e7ff Lo1e800 Cn1e8c5 No1e8c7",
    "Mn1e8d0 Cn1e8d7 Lu1e900 Ll1e922 Mn1e944 Lm1e94b Cn1e94c Nd1e950 Cn1e95a Po1e95e Cn1e960",
    "No1ec71 So1ecac No1ecad Sc1ecb0 No1ecb1 Cn1ecb5 No1ed01 So1ed2e No1ed2f Cn1ed3e Lo1ee00",
    "Cn1ee04 Lo1ee05 Cn1ee20 Lo1ee21 Cn1ee23 Lo1ee24 Cn1ee25 Lo1ee27 Cn1ee28 Lo1ee29 Cn1ee33",
    "Lo1ee34 Cn1ee38 Lo1ee39 Cn1ee3a Lo1ee3b Cn1ee3c Lo1ee42 Cn1ee43 Lo1ee47 Cn1ee48 Lo1ee49",
    "Cn1ee4a Lo1ee4b Cn1ee4c Lo1ee4d Cn1ee50 Lo1ee51 Cn1ee53 Lo1ee54 Cn1ee55 Lo1ee57 Cn1ee58",
    "Lo1ee59 Cn1ee5a Lo1ee5b Cn1ee5c Lo1ee5d Cn1ee5e Lo1ee5f Cn1ee60 Lo1ee61 Cn1ee63 Lo1ee64",
    "Cn1ee65 Lo1ee67 Cn1ee6b Lo1ee6c Cn1ee73 Lo1ee74 Cn1ee78 Lo1ee79 Cn1ee7d Lo1ee7e Cn1ee7f",
    "Lo1ee80 Cn1ee8a Lo1ee8b Cn1ee9c Lo1eea1 Cn1eea4 Lo1eea5 Cn1eeaa Lo1eeab Cn1eebc Sm1eef0",
    "Cn1eef2 So1f000 Cn1f02c So1f030 Cn1f094 So1f0a0 Cn1f0af So1f0b1 Cn1f0c0 So1f0c1 Cn1f0d0",
    "So1f0d1 Cn1f0f6 No1f100 So1f10d Cn1f1ae So1f1e6 Cn1f203 So1f210 Cn1f23c So1f240 Cn1f249",
    "So1f250 Cn1f252 So1f260 Cn1f266 So1f300 Sk1f3fb So1f400 Cn1f6d9 So1f6dc Cn1f6ed So1f6f0",
    "Cn1f6fd So1f700 Cn1f7da So1f7e0 Cn1f7ec So1f7f0 Cn1f7f1 So1f800 Cn1f80c So1f810 Cn1f848",
    "So1f850 Cn1f85a So1f860 Cn1f888 So1f890 Cn1f8ae So1f8b0 Cn1f8bc So1f8c0 Cn1f8c2 Sm1f8d0",
    "Cn1f8d9 So1f900 Cn1fa58 So1fa60 Cn1fa6e So1fa70 Cn1fa7d So1fa80 Cn1fa8b So1fa8e Cn1fac7",
    "So1fac8 Cn1fac9 So1facd Cn1fadd So1fadf Cn1faeb So1faef Cn1faf9 So1fb00 Cn1fb93 So1fb94",
    "Nd1fbf0 So1fbfa Cn1fbfb Lo20000 Cn2a6e0 Lo2a700 Cn2b81e Lo2b820 Cn2ceae Lo2ceb0 Cn2ebe1",
    "Lo2ebf0 Cn2ee5e Lo2f800 Cn2fa1e Lo30000 Cn3134b Lo31350 Cn3347a Cfe0001 Cne0002 Cfe0020",
    "Cne0080 Mne0100 Cne01f0 Cof0000 Cnffffe Co100000 Cn10fffe"]

/-- The runs of equal category, in code point order. -/
def runs : Runs Category := Runs.read 2 (fun tag => (ofTag? tag).getD cn) table

def of (c : Char) : Category := (runs.find? c.toNat).getD cn

def runCount (categories : List Category) : Nat :=
  runs.entries.foldl (fun n (_, c) => if c ∈ categories then n + 1 else n) 0

end Category

end Transclude.Unicode
