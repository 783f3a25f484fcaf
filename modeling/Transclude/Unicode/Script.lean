import Transclude.Unicode.Runs

/-!
The script of every code point, as runs of equal script, and the names of the scripts. The table
is written as the four letters of a script followed by the code point at which its run starts.
-/

namespace Transclude.Unicode.Script

private def table : List String :=
  ["Zyyy0 Latn41 Zyyy5b Latn61 Zyyy7b Latnaa Zyyyab Latnba Zyyybb Latnc0 Zyyyd7 Latnd8 Zyyyf7",
    "Latnf8 Zyyy2b9 Latn2e0 Zyyy2e5 Bopo2ea Zyyy2ec Zinh300 Grek370 Zyyy374 Grek375 Zzzz378",
    "Grek37a Zyyy37e Grek37f Zzzz380 Grek384 Zyyy385 Grek386 Zyyy387 Grek388 Zzzz38b Grek38c",
    "Zzzz38d Grek38e Zzzz3a2 Grek3a3 Copt3e2 Grek3f0 Cyrl400 Zinh485 Cyrl487 Zzzz530 Armn531",
    "Zzzz557 Armn559 Zzzz58b Armn58d Zzzz590 Hebr591 Zzzz5c8 Hebr5d0 Zzzz5eb Hebr5ef Zzzz5f5",
    "Arab600 Zyyy605 Arab606 Zyyy60c Arab60d Zyyy61b Arab61c Zyyy61f Arab620 Zyyy640 Arab641",
    "Zinh64b Arab656 Zinh670 Arab671 Zyyy6dd Arab6de Syrc700 Zzzz70e Syrc70f Zzzz74b Syrc74d",
    "Arab750 Thaa780 Zzzz7b2 Nkoo7c0 Zzzz7fb Nkoo7fd Samr800 Zzzz82e Samr830 Zzzz83f Mand840",
    "Zzzz85c Mand85e Zzzz85f Syrc860 Zzzz86b Arab870 Zzzz892 Arab897 Zyyy8e2 Arab8e3 Deva900",
    "Zinh951 Deva955 Zyyy964 Deva966 Beng980 Zzzz984 Beng985 Zzzz98d Beng98f Zzzz991 Beng993",
    "Zzzz9a9 Beng9aa Zzzz9b1 Beng9b2 Zzzz9b3 Beng9b6 Zzzz9ba Beng9bc Zzzz9c5 Beng9c7 Zzzz9c9",
    "Beng9cb Zzzz9cf Beng9d7 Zzzz9d8 Beng9dc Zzzz9de Beng9df Zzzz9e4 Beng9e6 Zzzz9ff Gurua01",
    "Zzzza04 Gurua05 Zzzza0b Gurua0f Zzzza11 Gurua13 Zzzza29 Gurua2a Zzzza31 Gurua32 Zzzza34",
    "Gurua35 Zzzza37 Gurua38 Zzzza3a Gurua3c Zzzza3d Gurua3e Zzzza43 Gurua47 Zzzza49 Gurua4b",
    "Zzzza4e Gurua51 Zzzza52 Gurua59 Zzzza5d Gurua5e Zzzza5f Gurua66 Zzzza77 Gujra81 Zzzza84",
    "Gujra85 Zzzza8e Gujra8f Zzzza92 Gujra93 Zzzzaa9 Gujraaa Zzzzab1 Gujrab2 Zzzzab4 Gujrab5",
    "Zzzzaba Gujrabc Zzzzac6 Gujrac7 Zzzzaca Gujracb Zzzzace Gujrad0 Zzzzad1 Gujrae0 Zzzzae4",
    "Gujrae6 Zzzzaf2 Gujraf9 Zzzzb00 Oryab01 Zzzzb04 Oryab05 Zzzzb0d Oryab0f Zzzzb11 Oryab13",
    "Zzzzb29 Oryab2a Zzzzb31 Oryab32 Zzzzb34 Oryab35 Zzzzb3a Oryab3c Zzzzb45 Oryab47 Zzzzb49",
    "Oryab4b Zzzzb4e Oryab55 Zzzzb58 Oryab5c Zzzzb5e Oryab5f Zzzzb64 Oryab66 Zzzzb78 Tamlb82",
    "Zzzzb84 Tamlb85 Zzzzb8b Tamlb8e Zzzzb91 Tamlb92 Zzzzb96 Tamlb99 Zzzzb9b Tamlb9c Zzzzb9d",
    "Tamlb9e Zzzzba0 Tamlba3 Zzzzba5 Tamlba8 Zzzzbab Tamlbae Zzzzbba Tamlbbe Zzzzbc3 Tamlbc6",
    "Zzzzbc9 Tamlbca Zzzzbce Tamlbd0 Zzzzbd1 Tamlbd7 Zzzzbd8 Tamlbe6 Zzzzbfb Teluc00 Zzzzc0d",
    "Teluc0e Zzzzc11 Teluc12 Zzzzc29 Teluc2a Zzzzc3a Teluc3c Zzzzc45 Teluc46 Zzzzc49 Teluc4a",
    "Zzzzc4e Teluc55 Zzzzc57 Teluc58 Zzzzc5b Teluc5c Zzzzc5e Teluc60 Zzzzc64 Teluc66 Zzzzc70",
    "Teluc77 Kndac80 Zzzzc8d Kndac8e Zzzzc91 Kndac92 Zzzzca9 Kndacaa Zzzzcb4 Kndacb5 Zzzzcba",
    "Kndacbc Zzzzcc5 Kndacc6 Zzzzcc9 Kndacca Zzzzcce Kndacd5 Zzzzcd7 Kndacdc Zzzzcdf Kndace0",
    "Zzzzce4 Kndace6 Zzzzcf0 Kndacf1 Zzzzcf4 Mlymd00 Zzzzd0d Mlymd0e Zzzzd11 Mlymd12 Zzzzd45",
    "Mlymd46 Zzzzd49 Mlymd4a Zzzzd50 Mlymd54 Zzzzd64 Mlymd66 Zzzzd80 Sinhd81 Zzzzd84 Sinhd85",
    "Zzzzd97 Sinhd9a Zzzzdb2 Sinhdb3 Zzzzdbc Sinhdbd Zzzzdbe Sinhdc0 Zzzzdc7 Sinhdca Zzzzdcb",
    "Sinhdcf Zzzzdd5 Sinhdd6 Zzzzdd7 Sinhdd8 Zzzzde0 Sinhde6 Zzzzdf0 Sinhdf2 Zzzzdf5 Thaie01",
    "Zzzze3b Zyyye3f Thaie40 Zzzze5c Laooe81 Zzzze83 Laooe84 Zzzze85 Laooe86 Zzzze8b Laooe8c",
    "Zzzzea4 Laooea5 Zzzzea6 Laooea7 Zzzzebe Laooec0 Zzzzec5 Laooec6 Zzzzec7 Laooec8 Zzzzecf",
    "Laooed0 Zzzzeda Laooedc Zzzzee0 Tibtf00 Zzzzf48 Tibtf49 Zzzzf6d Tibtf71 Zzzzf98 Tibtf99",
    "Zzzzfbd Tibtfbe Zzzzfcd Tibtfce Zyyyfd5 Tibtfd9 Zzzzfdb Mymr1000 Geor10a0 Zzzz10c6",
    "Geor10c7 Zzzz10c8 Geor10cd Zzzz10ce Geor10d0 Zyyy10fb Geor10fc Hang1100 Ethi1200 Zzzz1249",
    "Ethi124a Zzzz124e Ethi1250 Zzzz1257 Ethi1258 Zzzz1259 Ethi125a Zzzz125e Ethi1260 Zzzz1289",
    "Ethi128a Zzzz128e Ethi1290 Zzzz12b1 Ethi12b2 Zzzz12b6 Ethi12b8 Zzzz12bf Ethi12c0 Zzzz12c1",
    "Ethi12c2 Zzzz12c6 Ethi12c8 Zzzz12d7 Ethi12d8 Zzzz1311 Ethi1312 Zzzz1316 Ethi1318 Zzzz135b",
    "Ethi135d Zzzz137d Ethi1380 Zzzz139a Cher13a0 Zzzz13f6 Cher13f8 Zzzz13fe Cans1400 Ogam1680",
    "Zzzz169d Runr16a0 Zyyy16eb Runr16ee Zzzz16f9 Tglg1700 Zzzz1716 Tglg171f Hano1720 Zyyy1735",
    "Zzzz1737 Buhd1740 Zzzz1754 Tagb1760 Zzzz176d Tagb176e Zzzz1771 Tagb1772 Zzzz1774 Khmr1780",
    "Zzzz17de Khmr17e0 Zzzz17ea Khmr17f0 Zzzz17fa Mong1800 Zyyy1802 Mong1804 Zyyy1805 Mong1806",
    "Zzzz181a Mong1820 Zzzz1879 Mong1880 Zzzz18ab Cans18b0 Zzzz18f6 Limb1900 Zzzz191f Limb1920",
    "Zzzz192c Limb1930 Zzzz193c Limb1940 Zzzz1941 Limb1944 Tale1950 Zzzz196e Tale1970 Zzzz1975",
    "Talu1980 Zzzz19ac Talu19b0 Zzzz19ca Talu19d0 Zzzz19db Talu19de Khmr19e0 Bugi1a00 Zzzz1a1c",
    "Bugi1a1e Lana1a20 Zzzz1a5f Lana1a60 Zzzz1a7d Lana1a7f Zzzz1a8a Lana1a90 Zzzz1a9a Lana1aa0",
    "Zzzz1aae Zinh1ab0 Zzzz1ade Zinh1ae0 Zzzz1aec Bali1b00 Zzzz1b4d Bali1b4e Sund1b80 Batk1bc0",
    "Zzzz1bf4 Batk1bfc Lepc1c00 Zzzz1c38 Lepc1c3b Zzzz1c4a Lepc1c4d Olck1c50 Cyrl1c80 Zzzz1c8b",
    "Geor1c90 Zzzz1cbb Geor1cbd Sund1cc0 Zzzz1cc8 Zinh1cd0 Zyyy1cd3 Zinh1cd4 Zyyy1ce1 Zinh1ce2",
    "Zyyy1ce9 Zinh1ced Zyyy1cee Zinh1cf4 Zyyy1cf5 Zinh1cf8 Zyyy1cfa Zzzz1cfb Latn1d00 Grek1d26",
    "Cyrl1d2b Latn1d2c Grek1d5d Latn1d62 Grek1d66 Latn1d6b Cyrl1d78 Latn1d79 Grek1dbf Zinh1dc0",
    "Latn1e00 Grek1f00 Zzzz1f16 Grek1f18 Zzzz1f1e Grek1f20 Zzzz1f46 Grek1f48 Zzzz1f4e Grek1f50",
    "Zzzz1f58 Grek1f59 Zzzz1f5a Grek1f5b Zzzz1f5c Grek1f5d Zzzz1f5e Grek1f5f Zzzz1f7e Grek1f80",
    "Zzzz1fb5 Grek1fb6 Zzzz1fc5 Grek1fc6 Zzzz1fd4 Grek1fd6 Zzzz1fdc Grek1fdd Zzzz1ff0 Grek1ff2",
    "Zzzz1ff5 Grek1ff6 Zzzz1fff Zyyy2000 Zinh200c Zyyy200e Zzzz2065 Zyyy2066 Latn2071 Zzzz2072",
    "Zyyy2074 Latn207f Zyyy2080 Zzzz208f Latn2090 Zzzz209d Zyyy20a0 Zzzz20c2 Zinh20d0 Zzzz20f1",
    "Zyyy2100 Grek2126 Zyyy2127 Latn212a Zyyy212c Latn2132 Zyyy2133 Latn214e Zyyy214f Latn2160",
    "Zyyy2189 Zzzz218c Zyyy2190 Zzzz242a Zyyy2440 Zzzz244b Zyyy2460 Brai2800 Zyyy2900 Zzzz2b74",
    "Zyyy2b76 Glag2c00 Latn2c60 Copt2c80 Zzzz2cf4 Copt2cf9 Geor2d00 Zzzz2d26 Geor2d27 Zzzz2d28",
    "Geor2d2d Zzzz2d2e Tfng2d30 Zzzz2d68 Tfng2d6f Zzzz2d71 Tfng2d7f Ethi2d80 Zzzz2d97 Ethi2da0",
    "Zzzz2da7 Ethi2da8 Zzzz2daf Ethi2db0 Zzzz2db7 Ethi2db8 Zzzz2dbf Ethi2dc0 Zzzz2dc7 Ethi2dc8",
    "Zzzz2dcf Ethi2dd0 Zzzz2dd7 Ethi2dd8 Zzzz2ddf Cyrl2de0 Zyyy2e00 Zzzz2e5e Hani2e80 Zzzz2e9a",
    "Hani2e9b Zzzz2ef4 Hani2f00 Zzzz2fd6 Zyyy2ff0 Hani3005 Zyyy3006 Hani3007 Zyyy3008 Hani3021",
    "Zinh302a Hang302e Zyyy3030 Hani3038 Zyyy303c Zzzz3040 Hira3041 Zzzz3097 Zinh3099 Zyyy309b",
    "Hira309d Zyyy30a0 Kana30a1 Zyyy30fb Kana30fd Zzzz3100 Bopo3105 Zzzz3130 Hang3131 Zzzz318f",
    "Zyyy3190 Bopo31a0 Zyyy31c0 Zzzz31e6 Zyyy31ef Kana31f0 Hang3200 Zzzz321f Zyyy3220 Hang3260",
    "Zyyy327f Kana32d0 Zyyy32ff Kana3300 Zyyy3358 Hani3400 Zyyy4dc0 Hani4e00 Yiiia000 Zzzza48d",
    "Yiiia490 Zzzza4c7 Lisua4d0 Vaiia500 Zzzza62c Cyrla640 Bamua6a0 Zzzza6f8 Zyyya700 Latna722",
    "Zyyya788 Latna78b Zzzza7dd Latna7f1 Syloa800 Zzzza82d Zyyya830 Zzzza83a Phaga840 Zzzza878",
    "Saura880 Zzzza8c6 Saura8ce Zzzza8da Devaa8e0 Kalia900 Zyyya92e Kalia92f Rjnga930 Zzzza954",
    "Rjnga95f Hanga960 Zzzza97d Javaa980 Zzzza9ce Zyyya9cf Javaa9d0 Zzzza9da Javaa9de Mymra9e0",
    "Zzzza9ff Chamaa00 Zzzzaa37 Chamaa40 Zzzzaa4e Chamaa50 Zzzzaa5a Chamaa5c Mymraa60 Tavtaa80",
    "Zzzzaac3 Tavtaadb Mteiaae0 Zzzzaaf7 Ethiab01 Zzzzab07 Ethiab09 Zzzzab0f Ethiab11 Zzzzab17",
    "Ethiab20 Zzzzab27 Ethiab28 Zzzzab2f Latnab30 Zyyyab5b Latnab5c Grekab65 Latnab66 Zyyyab6a",
    "Zzzzab6c Cherab70 Mteiabc0 Zzzzabee Mteiabf0 Zzzzabfa Hangac00 Zzzzd7a4 Hangd7b0 Zzzzd7c7",
    "Hangd7cb Zzzzd7fc Hanif900 Zzzzfa6e Hanifa70 Zzzzfada Latnfb00 Zzzzfb07 Armnfb13 Zzzzfb18",
    "Hebrfb1d Zzzzfb37 Hebrfb38 Zzzzfb3d Hebrfb3e Zzzzfb3f Hebrfb40 Zzzzfb42 Hebrfb43 Zzzzfb45",
    "Hebrfb46 Arabfb50 Zyyyfd3e Arabfd40 Zzzzfdd0 Arabfdf0 Zinhfe00 Zyyyfe10 Zzzzfe1a Zinhfe20",
    "Cyrlfe2e Zyyyfe30 Zzzzfe53 Zyyyfe54 Zzzzfe67 Zyyyfe68 Zzzzfe6c Arabfe70 Zzzzfe75 Arabfe76",
    "Zzzzfefd Zyyyfeff Zzzzff00 Zyyyff01 Latnff21 Zyyyff3b Latnff41 Zyyyff5b Kanaff66 Zyyyff70",
    "Kanaff71 Zyyyff9e Hangffa0 Zzzzffbf Hangffc2 Zzzzffc8 Hangffca Zzzzffd0 Hangffd2 Zzzzffd8",
    "Hangffda Zzzzffdd Zyyyffe0 Zzzzffe7 Zyyyffe8 Zzzzffef Zyyyfff9 Zzzzfffe Linb10000",
    "Zzzz1000c Linb1000d Zzzz10027 Linb10028 Zzzz1003b Linb1003c Zzzz1003e Linb1003f Zzzz1004e",
    "Linb10050 Zzzz1005e Linb10080 Zzzz100fb Zyyy10100 Zzzz10103 Zyyy10107 Zzzz10134 Zyyy10137",
    "Grek10140 Zzzz1018f Zyyy10190 Zzzz1019d Grek101a0 Zzzz101a1 Zyyy101d0 Zinh101fd Zzzz101fe",
    "Lyci10280 Zzzz1029d Cari102a0 Zzzz102d1 Zinh102e0 Zyyy102e1 Zzzz102fc Ital10300 Zzzz10324",
    "Ital1032d Goth10330 Zzzz1034b Perm10350 Zzzz1037b Ugar10380 Zzzz1039e Ugar1039f Xpeo103a0",
    "Zzzz103c4 Xpeo103c8 Zzzz103d6 Dsrt10400 Shaw10450 Osma10480 Zzzz1049e Osma104a0 Zzzz104aa",
    "Osge104b0 Zzzz104d4 Osge104d8 Zzzz104fc Elba10500 Zzzz10528 Aghb10530 Zzzz10564 Aghb1056f",
    "Vith10570 Zzzz1057b Vith1057c Zzzz1058b Vith1058c Zzzz10593 Vith10594 Zzzz10596 Vith10597",
    "Zzzz105a2 Vith105a3 Zzzz105b2 Vith105b3 Zzzz105ba Vith105bb Zzzz105bd Todr105c0 Zzzz105f4",
    "Lina10600 Zzzz10737 Lina10740 Zzzz10756 Lina10760 Zzzz10768 Latn10780 Zzzz10786 Latn10787",
    "Zzzz107b1 Latn107b2 Zzzz107bb Cprt10800 Zzzz10806 Cprt10808 Zzzz10809 Cprt1080a Zzzz10836",
    "Cprt10837 Zzzz10839 Cprt1083c Zzzz1083d Cprt1083f Armi10840 Zzzz10856 Armi10857 Palm10860",
    "Nbat10880 Zzzz1089f Nbat108a7 Zzzz108b0 Hatr108e0 Zzzz108f3 Hatr108f4 Zzzz108f6 Hatr108fb",
    "Phnx10900 Zzzz1091c Phnx1091f Lydi10920 Zzzz1093a Lydi1093f Sidt10940 Zzzz1095a Mero10980",
    "Merc109a0 Zzzz109b8 Merc109bc Zzzz109d0 Merc109d2 Khar10a00 Zzzz10a04 Khar10a05 Zzzz10a07",
    "Khar10a0c Zzzz10a14 Khar10a15 Zzzz10a18 Khar10a19 Zzzz10a36 Khar10a38 Zzzz10a3b Khar10a3f",
    "Zzzz10a49 Khar10a50 Zzzz10a59 Sarb10a60 Narb10a80 Zzzz10aa0 Mani10ac0 Zzzz10ae7 Mani10aeb",
    "Zzzz10af7 Avst10b00 Zzzz10b36 Avst10b39 Prti10b40 Zzzz10b56 Prti10b58 Phli10b60 Zzzz10b73",
    "Phli10b78 Phlp10b80 Zzzz10b92 Phlp10b99 Zzzz10b9d Phlp10ba9 Zzzz10bb0 Orkh10c00 Zzzz10c49",
    "Hung10c80 Zzzz10cb3 Hung10cc0 Zzzz10cf3 Hung10cfa Rohg10d00 Zzzz10d28 Rohg10d30 Zzzz10d3a",
    "Gara10d40 Zzzz10d66 Gara10d69 Zzzz10d86 Gara10d8e Zzzz10d90 Arab10e60 Zzzz10e7f Yezi10e80",
    "Zzzz10eaa Yezi10eab Zzzz10eae Yezi10eb0 Zzzz10eb2 Arab10ec2 Zzzz10ec8 Arab10ed0 Zzzz10ed9",
    "Arab10efa Sogo10f00 Zzzz10f28 Sogd10f30 Zzzz10f5a Ougr10f70 Zzzz10f8a Chrs10fb0 Zzzz10fcc",
    "Elym10fe0 Zzzz10ff7 Brah11000 Zzzz1104e Brah11052 Zzzz11076 Brah1107f Kthi11080 Zzzz110c3",
    "Kthi110cd Zzzz110ce Sora110d0 Zzzz110e9 Sora110f0 Zzzz110fa Cakm11100 Zzzz11135 Cakm11136",
    "Zzzz11148 Mahj11150 Zzzz11177 Shrd11180 Zzzz111e0 Sinh111e1 Zzzz111f5 Khoj11200 Zzzz11212",
    "Khoj11213 Zzzz11242 Mult11280 Zzzz11287 Mult11288 Zzzz11289 Mult1128a Zzzz1128e Mult1128f",
    "Zzzz1129e Mult1129f Zzzz112aa Sind112b0 Zzzz112eb Sind112f0 Zzzz112fa Gran11300 Zzzz11304",
    "Gran11305 Zzzz1130d Gran1130f Zzzz11311 Gran11313 Zzzz11329 Gran1132a Zzzz11331 Gran11332",
    "Zzzz11334 Gran11335 Zzzz1133a Zinh1133b Gran1133c Zzzz11345 Gran11347 Zzzz11349 Gran1134b",
    "Zzzz1134e Gran11350 Zzzz11351 Gran11357 Zzzz11358 Gran1135d Zzzz11364 Gran11366 Zzzz1136d",
    "Gran11370 Zzzz11375 Tutg11380 Zzzz1138a Tutg1138b Zzzz1138c Tutg1138e Zzzz1138f Tutg11390",
    "Zzzz113b6 Tutg113b7 Zzzz113c1 Tutg113c2 Zzzz113c3 Tutg113c5 Zzzz113c6 Tutg113c7 Zzzz113cb",
    "Tutg113cc Zzzz113d6 Tutg113d7 Zzzz113d9 Tutg113e1 Zzzz113e3 Newa11400 Zzzz1145c Newa1145d",
    "Zzzz11462 Tirh11480 Zzzz114c8 Tirh114d0 Zzzz114da Sidd11580 Zzzz115b6 Sidd115b8 Zzzz115de",
    "Modi11600 Zzzz11645 Modi11650 Zzzz1165a Mong11660 Zzzz1166d Takr11680 Zzzz116ba Takr116c0",
    "Zzzz116ca Mymr116d0 Zzzz116e4 Ahom11700 Zzzz1171b Ahom1171d Zzzz1172c Ahom11730 Zzzz11747",
    "Dogr11800 Zzzz1183c Wara118a0 Zzzz118f3 Wara118ff Diak11900 Zzzz11907 Diak11909 Zzzz1190a",
    "Diak1190c Zzzz11914 Diak11915 Zzzz11917 Diak11918 Zzzz11936 Diak11937 Zzzz11939 Diak1193b",
    "Zzzz11947 Diak11950 Zzzz1195a Nand119a0 Zzzz119a8 Nand119aa Zzzz119d8 Nand119da Zzzz119e5",
    "Zanb11a00 Zzzz11a48 Soyo11a50 Zzzz11aa3 Cans11ab0 Pauc11ac0 Zzzz11af9 Deva11b00 Zzzz11b0a",
    "Shrd11b60 Zzzz11b68 Sunu11bc0 Zzzz11be2 Sunu11bf0 Zzzz11bfa Bhks11c00 Zzzz11c09 Bhks11c0a",
    "Zzzz11c37 Bhks11c38 Zzzz11c46 Bhks11c50 Zzzz11c6d Marc11c70 Zzzz11c90 Marc11c92 Zzzz11ca8",
    "Marc11ca9 Zzzz11cb7 Gonm11d00 Zzzz11d07 Gonm11d08 Zzzz11d0a Gonm11d0b Zzzz11d37 Gonm11d3a",
    "Zzzz11d3b Gonm11d3c Zzzz11d3e Gonm11d3f Zzzz11d48 Gonm11d50 Zzzz11d5a Gong11d60 Zzzz11d66",
    "Gong11d67 Zzzz11d69 Gong11d6a Zzzz11d8f Gong11d90 Zzzz11d92 Gong11d93 Zzzz11d99 Gong11da0",
    "Zzzz11daa Tols11db0 Zzzz11ddc Tols11de0 Zzzz11dea Maka11ee0 Zzzz11ef9 Kawi11f00 Zzzz11f11",
    "Kawi11f12 Zzzz11f3b Kawi11f3e Zzzz11f5b Lisu11fb0 Zzzz11fb1 Taml11fc0 Zzzz11ff2 Taml11fff",
    "Xsux12000 Zzzz1239a Xsux12400 Zzzz1246f Xsux12470 Zzzz12475 Xsux12480 Zzzz12544 Cpmn12f90",
    "Zzzz12ff3 Egyp13000 Zzzz13456 Egyp13460 Zzzz143fb Hluw14400 Zzzz14647 Gukh16100 Zzzz1613a",
    "Bamu16800 Zzzz16a39 Mroo16a40 Zzzz16a5f Mroo16a60 Zzzz16a6a Mroo16a6e Tnsa16a70 Zzzz16abf",
    "Tnsa16ac0 Zzzz16aca Bass16ad0 Zzzz16aee Bass16af0 Zzzz16af6 Hmng16b00 Zzzz16b46 Hmng16b50",
    "Zzzz16b5a Hmng16b5b Zzzz16b62 Hmng16b63 Zzzz16b78 Hmng16b7d Zzzz16b90 Krai16d40 Zzzz16d7a",
    "Medf16e40 Zzzz16e9b Berf16ea0 Zzzz16eb9 Berf16ebb Zzzz16ed4 Plrd16f00 Zzzz16f4b Plrd16f4f",
    "Zzzz16f88 Plrd16f8f Zzzz16fa0 Tang16fe0 Nshu16fe1 Hani16fe2 Kits16fe4 Zzzz16fe5 Hani16ff0",
    "Zzzz16ff7 Tang17000 Kits18b00 Zzzz18cd6 Kits18cff Tang18d00 Zzzz18d1f Tang18d80 Zzzz18df3",
    "Kana1aff0 Zzzz1aff4 Kana1aff5 Zzzz1affc Kana1affd Zzzz1afff Kana1b000 Hira1b001 Kana1b120",
    "Zzzz1b123 Hira1b132 Zzzz1b133 Hira1b150 Zzzz1b153 Kana1b155 Zzzz1b156 Kana1b164 Zzzz1b168",
    "Nshu1b170 Zzzz1b2fc Dupl1bc00 Zzzz1bc6b Dupl1bc70 Zzzz1bc7d Dupl1bc80 Zzzz1bc89 Dupl1bc90",
    "Zzzz1bc9a Dupl1bc9c Zyyy1bca0 Zzzz1bca4 Zyyy1cc00 Zzzz1ccfd Zyyy1cd00 Zzzz1ceb4 Zyyy1ceba",
    "Zzzz1ced1 Zyyy1cee0 Zzzz1cef1 Zinh1cf00 Zzzz1cf2e Zinh1cf30 Zzzz1cf47 Zyyy1cf50 Zzzz1cfc4",
    "Zyyy1d000 Zzzz1d0f6 Zyyy1d100 Zzzz1d127 Zyyy1d129 Zinh1d167 Zyyy1d16a Zinh1d17b Zyyy1d183",
    "Zinh1d185 Zyyy1d18c Zinh1d1aa Zyyy1d1ae Zzzz1d1eb Grek1d200 Zzzz1d246 Zyyy1d2c0 Zzzz1d2d4",
    "Zyyy1d2e0 Zzzz1d2f4 Zyyy1d300 Zzzz1d357 Zyyy1d360 Zzzz1d379 Zyyy1d400 Zzzz1d455 Zyyy1d456",
    "Zzzz1d49d Zyyy1d49e Zzzz1d4a0 Zyyy1d4a2 Zzzz1d4a3 Zyyy1d4a5 Zzzz1d4a7 Zyyy1d4a9 Zzzz1d4ad",
    "Zyyy1d4ae Zzzz1d4ba Zyyy1d4bb Zzzz1d4bc Zyyy1d4bd Zzzz1d4c4 Zyyy1d4c5 Zzzz1d506 Zyyy1d507",
    "Zzzz1d50b Zyyy1d50d Zzzz1d515 Zyyy1d516 Zzzz1d51d Zyyy1d51e Zzzz1d53a Zyyy1d53b Zzzz1d53f",
    "Zyyy1d540 Zzzz1d545 Zyyy1d546 Zzzz1d547 Zyyy1d54a Zzzz1d551 Zyyy1d552 Zzzz1d6a6 Zyyy1d6a8",
    "Zzzz1d7cc Zyyy1d7ce Sgnw1d800 Zzzz1da8c Sgnw1da9b Zzzz1daa0 Sgnw1daa1 Zzzz1dab0 Latn1df00",
    "Zzzz1df1f Latn1df25 Zzzz1df2b Glag1e000 Zzzz1e007 Glag1e008 Zzzz1e019 Glag1e01b Zzzz1e022",
    "Glag1e023 Zzzz1e025 Glag1e026 Zzzz1e02b Cyrl1e030 Zzzz1e06e Cyrl1e08f Zzzz1e090 Hmnp1e100",
    "Zzzz1e12d Hmnp1e130 Zzzz1e13e Hmnp1e140 Zzzz1e14a Hmnp1e14e Zzzz1e150 Toto1e290 Zzzz1e2af",
    "Wcho1e2c0 Zzzz1e2fa Wcho1e2ff Zzzz1e300 Nagm1e4d0 Zzzz1e4fa Onao1e5d0 Zzzz1e5fb Onao1e5ff",
    "Zzzz1e600 Tayo1e6c0 Zzzz1e6df Tayo1e6e0 Zzzz1e6f6 Tayo1e6fe Zzzz1e700 Ethi1e7e0 Zzzz1e7e7",
    "Ethi1e7e8 Zzzz1e7ec Ethi1e7ed Zzzz1e7ef Ethi1e7f0 Zzzz1e7ff Mend1e800 Zzzz1e8c5 Mend1e8c7",
    "Zzzz1e8d7 Adlm1e900 Zzzz1e94c Adlm1e950 Zzzz1e95a Adlm1e95e Zzzz1e960 Zyyy1ec71 Zzzz1ecb5",
    "Zyyy1ed01 Zzzz1ed3e Arab1ee00 Zzzz1ee04 Arab1ee05 Zzzz1ee20 Arab1ee21 Zzzz1ee23 Arab1ee24",
    "Zzzz1ee25 Arab1ee27 Zzzz1ee28 Arab1ee29 Zzzz1ee33 Arab1ee34 Zzzz1ee38 Arab1ee39 Zzzz1ee3a",
    "Arab1ee3b Zzzz1ee3c Arab1ee42 Zzzz1ee43 Arab1ee47 Zzzz1ee48 Arab1ee49 Zzzz1ee4a Arab1ee4b",
    "Zzzz1ee4c Arab1ee4d Zzzz1ee50 Arab1ee51 Zzzz1ee53 Arab1ee54 Zzzz1ee55 Arab1ee57 Zzzz1ee58",
    "Arab1ee59 Zzzz1ee5a Arab1ee5b Zzzz1ee5c Arab1ee5d Zzzz1ee5e Arab1ee5f Zzzz1ee60 Arab1ee61",
    "Zzzz1ee63 Arab1ee64 Zzzz1ee65 Arab1ee67 Zzzz1ee6b Arab1ee6c Zzzz1ee73 Arab1ee74 Zzzz1ee78",
    "Arab1ee79 Zzzz1ee7d Arab1ee7e Zzzz1ee7f Arab1ee80 Zzzz1ee8a Arab1ee8b Zzzz1ee9c Arab1eea1",
    "Zzzz1eea4 Arab1eea5 Zzzz1eeaa Arab1eeab Zzzz1eebc Arab1eef0 Zzzz1eef2 Zyyy1f000 Zzzz1f02c",
    "Zyyy1f030 Zzzz1f094 Zyyy1f0a0 Zzzz1f0af Zyyy1f0b1 Zzzz1f0c0 Zyyy1f0c1 Zzzz1f0d0 Zyyy1f0d1",
    "Zzzz1f0f6 Zyyy1f100 Zzzz1f1ae Zyyy1f1e6 Hira1f200 Zyyy1f201 Zzzz1f203 Zyyy1f210 Zzzz1f23c",
    "Zyyy1f240 Zzzz1f249 Zyyy1f250 Zzzz1f252 Zyyy1f260 Zzzz1f266 Zyyy1f300 Zzzz1f6d9 Zyyy1f6dc",
    "Zzzz1f6ed Zyyy1f6f0 Zzzz1f6fd Zyyy1f700 Zzzz1f7da Zyyy1f7e0 Zzzz1f7ec Zyyy1f7f0 Zzzz1f7f1",
    "Zyyy1f800 Zzzz1f80c Zyyy1f810 Zzzz1f848 Zyyy1f850 Zzzz1f85a Zyyy1f860 Zzzz1f888 Zyyy1f890",
    "Zzzz1f8ae Zyyy1f8b0 Zzzz1f8bc Zyyy1f8c0 Zzzz1f8c2 Zyyy1f8d0 Zzzz1f8d9 Zyyy1f900 Zzzz1fa58",
    "Zyyy1fa60 Zzzz1fa6e Zyyy1fa70 Zzzz1fa7d Zyyy1fa80 Zzzz1fa8b Zyyy1fa8e Zzzz1fac7 Zyyy1fac8",
    "Zzzz1fac9 Zyyy1facd Zzzz1fadd Zyyy1fadf Zzzz1faeb Zyyy1faef Zzzz1faf9 Zyyy1fb00 Zzzz1fb93",
    "Zyyy1fb94 Zzzz1fbfb Hani20000 Zzzz2a6e0 Hani2a700 Zzzz2b81e Hani2b820 Zzzz2ceae Hani2ceb0",
    "Zzzz2ebe1 Hani2ebf0 Zzzz2ee5e Hani2f800 Zzzz2fa1e Hani30000 Zzzz3134b Hani31350 Zzzz3347a",
    "Zyyye0001 Zzzze0002 Zyyye0020 Zzzze0080 Zinhe0100 Zzzze01f0"]

/-- The runs of equal script, in code point order. -/
def runs : Runs String := Runs.read 4 id table

/-- The four letters of a character's script. -/
def of (c : Char) : String := (runs.find? c.toNat).getD "Zzzz"

def runCount (script : String) : Nat :=
  runs.entries.foldl (fun n (_, s) => if s == script then n + 1 else n) 0

/-- The four letters of each script with its other names, in lower case and without joiners. -/
private def nameTable : List String :=
  ["Adlm adlm adlam", "Aghb aghb caucasianalbanian", "Ahom ahom", "Arab arab arabic",
    "Armi armi imperialaramaic", "Armn armn armenian", "Avst avst avestan",
    "Bali bali balinese", "Bamu bamu bamum", "Bass bass bassavah", "Batk batk batak",
    "Beng beng bengali", "Bhks bhks bhaiksuki", "Bopo bopo bopomofo", "Brah brah brahmi",
    "Brai brai braille", "Bugi bugi buginese", "Buhd buhd buhid", "Cakm cakm chakma",
    "Cans cans canadianaboriginal", "Cari cari carian", "Cham cham", "Cher cher cherokee",
    "Chrs chrs chorasmian", "Copt copt coptic qaac", "Cpmn cpmn cyprominoan",
    "Cprt cprt cypriot", "Cyrl cyrl cyrillic", "Deva deva devanagari", "Diak diak divesakuru",
    "Dogr dogr dogra", "Dsrt dsrt deseret", "Dupl dupl duployan",
    "Egyp egyp egyptianhieroglyphs", "Elba elba elbasan", "Elym elym elymaic",
    "Ethi ethi ethiopic", "Geor geor georgian", "Glag glag glagolitic",
    "Gong gong gunjalagondi", "Gonm gonm masaramgondi", "Goth goth gothic",
    "Gran gran grantha", "Grek grek greek", "Gujr gujr gujarati", "Guru guru gurmukhi",
    "Hang hang hangul", "Hani hani han", "Hano hano hanunoo", "Hatr hatr hatran",
    "Hebr hebr hebrew", "Hira hira hiragana", "Hluw hluw anatolianhieroglyphs",
    "Hmng hmng pahawhhmong", "Hmnp hmnp nyiakengpuachuehmong", "Hung hung oldhungarian",
    "Ital ital olditalic", "Java java javanese", "Kali kali kayahli", "Kana kana katakana",
    "Kawi kawi", "Khar khar kharoshthi", "Khmr khmr khmer", "Khoj khoj khojki",
    "Kits kits khitansmallscript", "Knda knda kannada", "Kthi kthi kaithi",
    "Lana lana taitham", "Laoo laoo lao", "Latn latn latin", "Lepc lepc lepcha",
    "Limb limb limbu", "Lina lina lineara", "Linb linb linearb", "Lisu lisu",
    "Lyci lyci lycian", "Lydi lydi lydian", "Mahj mahj mahajani", "Maka maka makasar",
    "Mand mand mandaic", "Mani mani manichaean", "Marc marc marchen", "Medf medf medefaidrin",
    "Mend mend mendekikakui", "Merc merc meroiticcursive", "Mero mero meroitichieroglyphs",
    "Mlym mlym malayalam", "Modi modi", "Mong mong mongolian", "Mroo mroo mro",
    "Mtei mtei meeteimayek", "Mult mult multani", "Mymr mymr myanmar", "Nagm nagm nagmundari",
    "Nand nand nandinagari", "Narb narb oldnortharabian", "Nbat nbat nabataean", "Newa newa",
    "Nkoo nkoo nko", "Nshu nshu nushu", "Ogam ogam ogham", "Olck olck olchiki",
    "Orkh orkh oldturkic", "Orya orya oriya", "Osge osge osage", "Osma osma osmanya",
    "Ougr ougr olduyghur", "Palm palm palmyrene", "Pauc pauc paucinhau", "Perm perm oldpermic",
    "Phag phag phagspa", "Phli phli inscriptionalpahlavi", "Phlp phlp psalterpahlavi",
    "Phnx phnx phoenician", "Plrd plrd miao", "Prti prti inscriptionalparthian",
    "Rjng rjng rejang", "Rohg rohg hanifirohingya", "Runr runr runic", "Samr samr samaritan",
    "Sarb sarb oldsoutharabian", "Saur saur saurashtra", "Sgnw sgnw signwriting",
    "Shaw shaw shavian", "Shrd shrd sharada", "Sidd sidd siddham", "Sind sind khudawadi",
    "Sinh sinh sinhala", "Sogd sogd sogdian", "Sogo sogo oldsogdian", "Sora sora sorasompeng",
    "Soyo soyo soyombo", "Sund sund sundanese", "Sylo sylo sylotinagri", "Syrc syrc syriac",
    "Tagb tagb tagbanwa", "Takr takr takri", "Tale tale taile", "Talu talu newtailue",
    "Taml taml tamil", "Tang tang tangut", "Tavt tavt taiviet", "Telu telu telugu",
    "Tfng tfng tifinagh", "Tglg tglg tagalog", "Thaa thaa thaana", "Thai thai",
    "Tibt tibt tibetan", "Tirh tirh tirhuta", "Tnsa tnsa tangsa", "Toto toto",
    "Ugar ugar ugaritic", "Vaii vaii vai", "Vith vith vithkuqi", "Wara wara warangciti",
    "Wcho wcho wancho", "Xpeo xpeo oldpersian", "Xsux xsux cuneiform", "Yezi yezi yezidi",
    "Yiii yiii yi", "Zanb zanb zanabazarsquare", "Zinh zinh inherited qaai",
    "Zyyy zyyy common", "Gara gara garay", "Gukh gukh gurungkhema", "Krai krai kiratrai",
    "Onao onao olonal", "Sunu sunu sunuwar", "Todr todr todhri", "Tutg tutg tulutigalari",
    "Berf berf beriaerfe", "Sidt sidt sidetic", "Tayo tayo taiyo", "Tols tols tolongsiki"]

/-- The script with a name in lower case and without joiners. -/
def ofName? (name : String) : Option String :=
  nameTable.findSome? fun entry =>
    match (entry.splitOn " ") with
    | tag :: names => if name ∈ names then some tag else none
    | [] => none

end Transclude.Unicode.Script
