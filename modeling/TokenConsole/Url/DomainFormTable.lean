import TokenConsole.Text.CodeMap

/-!
# Forms of characters in domains

Characters that a domain has in another form: those of compatibility, and some letters whose
other case is the one that stays.
-/
namespace TokenConsole.Url

/-- The forms, as they are written down. -/
def domainFormLines : List String := [
  "A0=20;A8=20.308;AA=61;AF=20.304;B2=32,33,20.301,3BC;B8=20.327,31,6F;BC=31.2044.34,31.2044.32",
  "BE=33.2044.34;132=69.6A,69.6A;13F=6C.B7,6C.B7;149=2BC.6E;17F=73;1C4=64.17E,64.17E,64.17E,6C.6A",
  "1C8=6C.6A,6C.6A,6E.6A,6E.6A,6E.6A;1F1=64.7A,64.7A,64.7A;2B0=68,266,6A,72,279,27B,281,77,79",
  "2D8=20.306,20.307,20.30A,20.328,20.303,20.30B;2E0=263,6C,73,78,295;345=3B9;37A=20.3B9",
  "384=20.301,20.308.301;3D0=3B2,3B8,3C5,3CD,3CB,3C6,3C0;3F0=3BA,3C1,3C3;3F5=3B5;3F9=3C3",
  "587=565.582;675=627.674,648.674,6C7.674,64A.674;E33=E4D.E32;EB3=ECD.EB2;EDC=EAB.E99,EAB.EA1",
  "F0C=F0B;F77=FB2.F71.F80;F79=FB3.F71.F80;10FC=10DC;13F8=13F0,13F1,13F2,13F3,13F4,13F5;1C80=432",
  "1C81=434,43E,441,442,442,44A,463,A64B;1D2C=61,E6,62;1D30=64,65,1DD,67,68,69,6A,6B,6C,6D,6E",
  "1D3C=6F,223,70,72,74,75,77,61,250,251,1D02,62,64,65,259,25B,25C,67;1D4F=6B,6D,14B,6F,254,1D16",
  "1D55=1D17,70,74,75,1D1D,26F,76,1D25,3B2,3B3,3B4,3C6,3C7,69,72,75,76,3B2,3B3,3C1,3C6,3C7",
  "1D78=43D;1D9B=252,63,255,F0,25C,66,25F,261,265,268,269,26A,1D7B,29D,26D,1D85,29F,271,270,272",
  "1DAF=273,274,275,278,282,283,1AB,289,28A,1D1C,28B,28C,7A,290,291,292,3B8;1E9A=61.2BE,1E61",
  "1F80=1F00.3B9,1F01.3B9,1F02.3B9,1F03.3B9,1F04.3B9,1F05.3B9,1F06.3B9,1F07.3B9,1F00.3B9,1F01.3B9",
  "1F8A=1F02.3B9,1F03.3B9,1F04.3B9,1F05.3B9,1F06.3B9,1F07.3B9,1F20.3B9,1F21.3B9,1F22.3B9,1F23.3B9",
  "1F94=1F24.3B9,1F25.3B9,1F26.3B9,1F27.3B9,1F20.3B9,1F21.3B9,1F22.3B9,1F23.3B9,1F24.3B9,1F25.3B9",
  "1F9E=1F26.3B9,1F27.3B9,1F60.3B9,1F61.3B9,1F62.3B9,1F63.3B9,1F64.3B9,1F65.3B9,1F66.3B9,1F67.3B9",
  "1FA8=1F60.3B9,1F61.3B9,1F62.3B9,1F63.3B9,1F64.3B9,1F65.3B9,1F66.3B9,1F67.3B9;1FB2=1F70.3B9",
  "1FB3=3B1.3B9,3AC.3B9;1FB7=1FB6.3B9;1FBB=3AC,3B1.3B9,20.313;1FBF=20.313,20.342,20.308.342",
  "1FC2=1F74.3B9,3B7.3B9,3AE.3B9;1FC7=1FC6.3B9;1FC9=3AD;1FCB=3AE,3B7.3B9,20.313.300,20.313.301",
  "1FCF=20.313.342;1FDB=3AF;1FDD=20.314.300,20.314.301,20.314.342;1FEB=3CD;1FED=20.308.300",
  "1FEE=20.308.301;1FF2=1F7C.3B9,3C9.3B9,3CE.3B9;1FF7=1FF6.3B9;1FF9=3CC;1FFB=3CE,3C9.3B9,20.301",
  "1FFE=20.314;2000=20,20,20,20,20,20,20,20,20,20,20;2011=2010;2017=20.333;202F=20;2033=2032.2032",
  "2034=2032.2032.2032;2036=2035.2035,2035.2035.2035;203C=21.21;203E=20.305;2047=3F.3F,3F.21,21.3F",
  "2057=2032.2032.2032.2032;205F=20;2070=30,69;2074=34,35,36,37,38,39,2B,2212,3D,28,29,6E,30,31,32",
  "2083=33,34,35,36,37,38,39,2B,2212,3D,28,29;2090=61,65,6F,78,259,68,6B,6C,6D,6E,70,73,74",
  "20A8=72.73;2100=61.2F.63,61.2F.73,63,B0.63;2105=63.2F.6F,63.2F.75,25B;2109=B0.66,67,68,68,68,68",
  "210F=127,69,69,6C,6C;2115=6E,6E.6F;2119=70,71,72,72,72;2120=73.6D,74.65.6C,74.6D;2124=7A",
  "2128=7A;212C=62,63;212F=65,65,66;2133=6D,6F,5D0,5D1,5D2,5D3,69;213B=66.61.78,3C0,3B3,3B3,3C0",
  "2140=2211;2145=64,64,65,69,6A;2150=31.2044.37,31.2044.39,31.2044.31.30,31.2044.33,32.2044.33",
  "2155=31.2044.35,32.2044.35,33.2044.35,34.2044.35,31.2044.36,35.2044.36,31.2044.38,33.2044.38",
  "215D=35.2044.38,37.2044.38,31.2044,69,69.69,69.69.69,69.76,76,76.69,76.69.69,76.69.69.69,69.78",
  "2169=78,78.69,78.69.69,6C,63,64,6D,69,69.69,69.69.69,69.76,76,76.69,76.69.69,76.69.69.69,69.78",
  "2179=78,78.69,78.69.69,6C,63,64,6D;2189=30.2044.33;222C=222B.222B,222B.222B.222B;222F=222E.222E",
  "2230=222E.222E.222E;2460=31,32,33,34,35,36,37,38,39,31.30,31.31,31.32,31.33,31.34,31.35,31.36",
  "2470=31.37,31.38,31.39,32.30,28.31.29,28.32.29,28.33.29,28.34.29,28.35.29,28.36.29,28.37.29",
  "247B=28.38.29,28.39.29,28.31.30.29,28.31.31.29,28.31.32.29,28.31.33.29,28.31.34.29,28.31.35.29",
  "2483=28.31.36.29,28.31.37.29,28.31.38.29,28.31.39.29,28.32.30.29;249C=28.61.29,28.62.29",
  "249E=28.63.29,28.64.29,28.65.29,28.66.29,28.67.29,28.68.29,28.69.29,28.6A.29,28.6B.29,28.6C.29",
  "24A8=28.6D.29,28.6E.29,28.6F.29,28.70.29,28.71.29,28.72.29,28.73.29,28.74.29,28.75.29,28.76.29",
  "24B2=28.77.29,28.78.29,28.79.29,28.7A.29,61,62,63,64,65,66,67,68,69,6A,6B,6C,6D,6E,6F,70,71,72",
  "24C8=73,74,75,76,77,78,79,7A,61,62,63,64,65,66,67,68,69,6A,6B,6C,6D,6E,6F,70,71,72,73,74,75,76",
  "24E6=77,78,79,7A,30;2A0C=222B.222B.222B.222B;2A74=3A.3A.3D,3D.3D,3D.3D.3D;2C7C=6A,76;2D6F=2D61",
  "2E9F=6BCD;2EF3=9F9F;2F00=4E00,4E28,4E36,4E3F,4E59,4E85,4E8C,4EA0,4EBA,513F,5165,516B,5182,5196",
  "2F0E=51AB,51E0,51F5,5200,529B,52F9,5315,531A,5338,5341,535C,5369,5382,53B6,53C8,53E3,56D7,571F",
  "2F20=58EB,5902,590A,5915,5927,5973,5B50,5B80,5BF8,5C0F,5C22,5C38,5C6E,5C71,5DDB,5DE5,5DF1,5DFE",
  "2F32=5E72,5E7A,5E7F,5EF4,5EFE,5F0B,5F13,5F50,5F61,5F73,5FC3,6208,6236,624B,652F,6534,6587,6597",
  "2F44=65A4,65B9,65E0,65E5,66F0,6708,6728,6B20,6B62,6B79,6BB3,6BCB,6BD4,6BDB,6C0F,6C14,6C34,706B",
  "2F56=722A,7236,723B,723F,7247,7259,725B,72AC,7384,7389,74DC,74E6,7518,751F,7528,7530,758B,7592",
  "2F68=7676,767D,76AE,76BF,76EE,77DB,77E2,77F3,793A,79B8,79BE,7A74,7ACB,7AF9,7C73,7CF8,7F36,7F51",
  "2F7A=7F8A,7FBD,8001,800C,8012,8033,807F,8089,81E3,81EA,81F3,81FC,820C,821B,821F,826E,8272,8278",
  "2F8C=864D,866B,8840,884C,8863,897E,898B,89D2,8A00,8C37,8C46,8C55,8C78,8C9D,8D64,8D70,8DB3,8EAB",
  "2F9E=8ECA,8F9B,8FB0,8FB5,9091,9149,91C6,91CC,91D1,9577,9580,961C,96B6,96B9,96E8,9751,975E,9762",
  "2FB0=9769,97CB,97ED,97F3,9801,98A8,98DB,98DF,9996,9999,99AC,9AA8,9AD8,9ADF,9B25,9B2F,9B32,9B3C",
  "2FC2=9B5A,9CE5,9E75,9E7F,9EA5,9EBB,9EC3,9ECD,9ED1,9EF9,9EFD,9F0E,9F13,9F20,9F3B,9F4A,9F52,9F8D",
  "2FD4=9F9C,9FA0;3000=20;3002=2E;3036=3012;3038=5341,5344,5345;309B=20.3099,20.309A",
  "309F=3088.308A;30FF=30B3.30C8;3131=1100,1101,11AA,1102,11AC,11AD,1103,1104,1105,11B0,11B1,11B2",
  "313D=11B3,11B4,11B5,111A,1106,1107,1108,1121,1109,110A,110B,110C,110D,110E,110F,1110,1111,1112",
  "314F=1161,1162,1163,1164,1165,1166,1167,1168,1169,116A,116B,116C,116D,116E,116F,1170,1171,1172",
  "3161=1173,1174,1175;3165=1114,1115,11C7,11C8,11CC,11CE,11D3,11D7,11D9,111C,11DD,11DF,111D,111E",
  "3173=1120,1122,1123,1127,1129,112B,112C,112D,112E,112F,1132,1136,1140,1147,114C,11F1,11F2,1157",
  "3185=1158,1159,1184,1185,1188,1191,1192,1194,119E,11A1;3192=4E00,4E8C,4E09,56DB,4E0A,4E2D,4E0B",
  "3199=7532,4E59,4E19,4E01,5929,5730,4EBA;3200=28.1100.29,28.1102.29,28.1103.29,28.1105.29",
  "3204=28.1106.29,28.1107.29,28.1109.29,28.110B.29,28.110C.29,28.110E.29,28.110F.29,28.1110.29",
  "320C=28.1111.29,28.1112.29,28.AC00.29,28.B098.29,28.B2E4.29,28.B77C.29,28.B9C8.29,28.BC14.29",
  "3214=28.C0AC.29,28.C544.29,28.C790.29,28.CC28.29,28.CE74.29,28.D0C0.29,28.D30C.29,28.D558.29",
  "321C=28.C8FC.29,28.C624.C804.29,28.C624.D6C4.29;3220=28.4E00.29,28.4E8C.29,28.4E09.29",
  "3223=28.56DB.29,28.4E94.29,28.516D.29,28.4E03.29,28.516B.29,28.4E5D.29,28.5341.29,28.6708.29",
  "322B=28.706B.29,28.6C34.29,28.6728.29,28.91D1.29,28.571F.29,28.65E5.29,28.682A.29,28.6709.29",
  "3233=28.793E.29,28.540D.29,28.7279.29,28.8CA1.29,28.795D.29,28.52B4.29,28.4EE3.29,28.547C.29",
  "323B=28.5B66.29,28.76E3.29,28.4F01.29,28.8CC7.29,28.5354.29,28.796D.29,28.4F11.29,28.81EA.29",
  "3243=28.81F3.29,554F,5E7C,6587,7B8F;3250=70.74.65,32.31,32.32,32.33,32.34,32.35,32.36,32.37",
  "3258=32.38,32.39,33.30,33.31,33.32,33.33,33.34,33.35,1100,1102,1103,1105,1106,1107,1109,110B",
  "3268=110C,110E,110F,1110,1111,1112,AC00,B098,B2E4,B77C,B9C8,BC14,C0AC,C544,C790,CC28,CE74,D0C0",
  "327A=D30C,D558,CC38.ACE0,C8FC.C758,C6B0;3280=4E00,4E8C,4E09,56DB,4E94,516D,4E03,516B,4E5D,5341",
  "328A=6708,706B,6C34,6728,91D1,571F,65E5,682A,6709,793E,540D,7279,8CA1,795D,52B4,79D8,7537,5973",
  "329C=9069,512A,5370,6CE8,9805,4F11,5199,6B63,4E0A,4E2D,4E0B,5DE6,53F3,533B,5B97,5B66,76E3,4F01",
  "32AE=8CC7,5354,591C,33.36,33.37,33.38,33.39,34.30,34.31,34.32,34.33,34.34,34.35,34.36,34.37",
  "32BD=34.38,34.39,35.30,31.6708,32.6708,33.6708,34.6708,35.6708,36.6708,37.6708,38.6708,39.6708",
  "32C9=31.30.6708,31.31.6708,31.32.6708,68.67,65.72.67,65.76,6C.74.64,30A2,30A4,30A6,30A8,30AA",
  "32D5=30AB,30AD,30AF,30B1,30B3,30B5,30B7,30B9,30BB,30BD,30BF,30C1,30C4,30C6,30C8,30CA,30CB,30CC",
  "32E7=30CD,30CE,30CF,30D2,30D5,30D8,30DB,30DE,30DF,30E0,30E1,30E2,30E4,30E6,30E8,30E9,30EA,30EB",
  "32F9=30EC,30ED,30EF,30F0,30F1,30F2,4EE4.548C,30A2.30D1.30FC.30C8,30A2.30EB.30D5.30A1",
  "3302=30A2.30F3.30DA.30A2,30A2.30FC.30EB,30A4.30CB.30F3.30B0,30A4.30F3.30C1,30A6.30A9.30F3",
  "3307=30A8.30B9.30AF.30FC.30C9,30A8.30FC.30AB.30FC,30AA.30F3.30B9,30AA.30FC.30E0,30AB.30A4.30EA",
  "330C=30AB.30E9.30C3.30C8,30AB.30ED.30EA.30FC,30AC.30ED.30F3,30AC.30F3.30DE,30AE.30AC",
  "3311=30AE.30CB.30FC,30AD.30E5.30EA.30FC,30AE.30EB.30C0.30FC,30AD.30ED,30AD.30ED.30B0.30E9.30E0",
  "3316=30AD.30ED.30E1.30FC.30C8.30EB,30AD.30ED.30EF.30C3.30C8,30B0.30E9.30E0",
  "3319=30B0.30E9.30E0.30C8.30F3,30AF.30EB.30BC.30A4.30ED,30AF.30ED.30FC.30CD,30B1.30FC.30B9",
  "331D=30B3.30EB.30CA,30B3.30FC.30DD,30B5.30A4.30AF.30EB,30B5.30F3.30C1.30FC.30E0",
  "3321=30B7.30EA.30F3.30B0,30BB.30F3.30C1,30BB.30F3.30C8,30C0.30FC.30B9,30C7.30B7,30C9.30EB",
  "3327=30C8.30F3,30CA.30CE,30CE.30C3.30C8,30CF.30A4.30C4,30D1.30FC.30BB.30F3.30C8,30D1.30FC.30C4",
  "332D=30D0.30FC.30EC.30EB,30D4.30A2.30B9.30C8.30EB,30D4.30AF.30EB,30D4.30B3,30D3.30EB",
  "3332=30D5.30A1.30E9.30C3.30C9,30D5.30A3.30FC.30C8,30D6.30C3.30B7.30A7.30EB,30D5.30E9.30F3",
  "3336=30D8.30AF.30BF.30FC.30EB,30DA.30BD,30DA.30CB.30D2,30D8.30EB.30C4,30DA.30F3.30B9",
  "333B=30DA.30FC.30B8,30D9.30FC.30BF,30DD.30A4.30F3.30C8,30DC.30EB.30C8,30DB.30F3,30DD.30F3.30C9",
  "3341=30DB.30FC.30EB,30DB.30FC.30F3,30DE.30A4.30AF.30ED,30DE.30A4.30EB,30DE.30C3.30CF",
  "3346=30DE.30EB.30AF,30DE.30F3.30B7.30E7.30F3,30DF.30AF.30ED.30F3,30DF.30EA",
  "334A=30DF.30EA.30D0.30FC.30EB,30E1.30AC,30E1.30AC.30C8.30F3,30E1.30FC.30C8.30EB,30E4.30FC.30C9",
  "334F=30E4.30FC.30EB,30E6.30A2.30F3,30EA.30C3.30C8.30EB,30EA.30E9,30EB.30D4.30FC",
  "3354=30EB.30FC.30D6.30EB,30EC.30E0,30EC.30F3.30C8.30B2.30F3,30EF.30C3.30C8,30.70B9,31.70B9",
  "335A=32.70B9,33.70B9,34.70B9,35.70B9,36.70B9,37.70B9,38.70B9,39.70B9,31.30.70B9,31.31.70B9",
  "3364=31.32.70B9,31.33.70B9,31.34.70B9,31.35.70B9,31.36.70B9,31.37.70B9,31.38.70B9,31.39.70B9",
  "336C=32.30.70B9,32.31.70B9,32.32.70B9,32.33.70B9,32.34.70B9,68.70.61,64.61,61.75,62.61.72,6F.76",
  "3376=70.63,64.6D,64.6D.32,64.6D.33,69.75,5E73.6210,662D.548C,5927.6B63,660E.6CBB",
  "337F=682A.5F0F.4F1A.793E,70.61,6E.61,3BC.61,6D.61,6B.61,6B.62,6D.62,67.62,63.61.6C,6B.63.61.6C",
  "338A=70.66,6E.66,3BC.66,3BC.67,6D.67,6B.67,68.7A,6B.68.7A,6D.68.7A,67.68.7A,74.68.7A,3BC.6C",
  "3396=6D.6C,64.6C,6B.6C,66.6D,6E.6D,3BC.6D,6D.6D,63.6D,6B.6D,6D.6D.32,63.6D.32,6D.32,6B.6D.32",
  "33A3=6D.6D.33,63.6D.33,6D.33,6B.6D.33,6D.2215.73,6D.2215.73.32,70.61,6B.70.61,6D.70.61,67.70.61",
  "33AD=72.61.64,72.61.64.2215.73,72.61.64.2215.73.32,70.73,6E.73,3BC.73,6D.73,70.76,6E.76,3BC.76",
  "33B7=6D.76,6B.76,6D.76,70.77,6E.77,3BC.77,6D.77,6B.77,6D.77,6B.3C9,6D.3C9;33C3=62.71,63.63",
  "33C5=63.64,63.2215.6B.67;33C8=64.62,67.79,68.61,68.70,69.6E,6B.6B,6B.6D,6B.74,6C.6D,6C.6E",
  "33D2=6C.6F.67,6C.78,6D.62,6D.69.6C,6D.6F.6C,70.68;33D9=70.70.6D,70.72,73.72,73.76,77.62",
  "33DE=76.2215.6D,61.2215.6D,31.65E5,32.65E5,33.65E5,34.65E5,35.65E5,36.65E5,37.65E5,38.65E5",
  "33E8=39.65E5,31.30.65E5,31.31.65E5,31.32.65E5,31.33.65E5,31.34.65E5,31.35.65E5,31.36.65E5",
  "33F0=31.37.65E5,31.38.65E5,31.39.65E5,32.30.65E5,32.31.65E5,32.32.65E5,32.33.65E5,32.34.65E5",
  "33F8=32.35.65E5,32.36.65E5,32.37.65E5,32.38.65E5,32.39.65E5,33.30.65E5,33.31.65E5,67.61.6C",
  "A69C=44A,44C;A770=A76F;A7F1=73,63,66,71;A7F8=127,153;AB5C=A727,AB37,26B,AB52;AB69=28D;AB70=13A0",
  "AB71=13A1,13A2,13A3,13A4,13A5,13A6,13A7,13A8,13A9,13AA,13AB,13AC,13AD,13AE,13AF,13B0,13B1,13B2",
  "AB83=13B3,13B4,13B5,13B6,13B7,13B8,13B9,13BA,13BB,13BC,13BD,13BE,13BF,13C0,13C1,13C2,13C3,13C4",
  "AB95=13C5,13C6,13C7,13C8,13C9,13CA,13CB,13CC,13CD,13CE,13CF,13D0,13D1,13D2,13D3,13D4,13D5,13D6",
  "ABA7=13D7,13D8,13D9,13DA,13DB,13DC,13DD,13DE,13DF,13E0,13E1,13E2,13E3,13E4,13E5,13E6,13E7,13E8",
  "ABB9=13E9,13EA,13EB,13EC,13ED,13EE,13EF;FB00=66.66,66.69,66.6C,66.66.69,66.66.6C,73.74,73.74",
  "FB13=574.576,574.565,574.56B,57E.576,574.56D;FB20=5E2,5D0,5D3,5D4,5DB,5DC,5DD,5E8,5EA,2B",
  "FB4F=5D0.5DC,671,671,67B,67B,67B,67B,67E,67E,67E,67E,680,680,680,680,67A,67A,67A,67A,67F,67F",
  "FB64=67F,67F,679,679,679,679,6A4,6A4,6A4,6A4,6A6,6A6,6A6,6A6,684,684,684,684,683,683,683,683",
  "FB7A=686,686,686,686,687,687,687,687,68D,68D,68C,68C,68E,68E,688,688,698,698,691,691,6A9,6A9",
  "FB90=6A9,6A9,6AF,6AF,6AF,6AF,6B3,6B3,6B3,6B3,6B1,6B1,6B1,6B1,6BA,6BA,6BB,6BB,6BB,6BB,6C0,6C0",
  "FBA6=6C1,6C1,6C1,6C1,6BE,6BE,6BE,6BE,6D2,6D2,6D3,6D3;FBD3=6AD,6AD,6AD,6AD,6C7,6C7,6C6,6C6,6C8",
  "FBDC=6C8,6C7.674,6CB,6CB,6C5,6C5,6C9,6C9,6D0,6D0,6D0,6D0,649,649,626.627,626.627,626.6D5",
  "FBED=626.6D5,626.648,626.648,626.6C7,626.6C7,626.6C6,626.6C6,626.6C8,626.6C8,626.6D0,626.6D0",
  "FBF8=626.6D0,626.649,626.649,626.649,6CC,6CC,6CC,6CC,626.62C,626.62D,626.645,626.649,626.64A",
  "FC05=628.62C,628.62D,628.62E,628.645,628.649,628.64A,62A.62C,62A.62D,62A.62E,62A.645,62A.649",
  "FC10=62A.64A,62B.62C,62B.645,62B.649,62B.64A,62C.62D,62C.645,62D.62C,62D.645,62E.62C,62E.62D",
  "FC1B=62E.645,633.62C,633.62D,633.62E,633.645,635.62D,635.645,636.62C,636.62D,636.62E,636.645",
  "FC26=637.62D,637.645,638.645,639.62C,639.645,63A.62C,63A.645,641.62C,641.62D,641.62E,641.645",
  "FC31=641.649,641.64A,642.62D,642.645,642.649,642.64A,643.627,643.62C,643.62D,643.62E,643.644",
  "FC3C=643.645,643.649,643.64A,644.62C,644.62D,644.62E,644.645,644.649,644.64A,645.62C,645.62D",
  "FC47=645.62E,645.645,645.649,645.64A,646.62C,646.62D,646.62E,646.645,646.649,646.64A,647.62C",
  "FC52=647.645,647.649,647.64A,64A.62C,64A.62D,64A.62E,64A.645,64A.649,64A.64A,630.670,631.670",
  "FC5D=649.670,20.64C.651,20.64D.651,20.64E.651,20.64F.651,20.650.651,20.651.670,626.631,626.632",
  "FC66=626.645,626.646,626.649,626.64A,628.631,628.632,628.645,628.646,628.649,628.64A,62A.631",
  "FC71=62A.632,62A.645,62A.646,62A.649,62A.64A,62B.631,62B.632,62B.645,62B.646,62B.649,62B.64A",
  "FC7C=641.649,641.64A,642.649,642.64A,643.627,643.644,643.645,643.649,643.64A,644.645,644.649",
  "FC87=644.64A,645.627,645.645,646.631,646.632,646.645,646.646,646.649,646.64A,649.670,64A.631",
  "FC92=64A.632,64A.645,64A.646,64A.649,64A.64A,626.62C,626.62D,626.62E,626.645,626.647,628.62C",
  "FC9D=628.62D,628.62E,628.645,628.647,62A.62C,62A.62D,62A.62E,62A.645,62A.647,62B.645,62C.62D",
  "FCA8=62C.645,62D.62C,62D.645,62E.62C,62E.645,633.62C,633.62D,633.62E,633.645,635.62D,635.62E",
  "FCB3=635.645,636.62C,636.62D,636.62E,636.645,637.62D,638.645,639.62C,639.645,63A.62C,63A.645",
  "FCBE=641.62C,641.62D,641.62E,641.645,642.62D,642.645,643.62C,643.62D,643.62E,643.644,643.645",
  "FCC9=644.62C,644.62D,644.62E,644.645,644.647,645.62C,645.62D,645.62E,645.645,646.62C,646.62D",
  "FCD4=646.62E,646.645,646.647,647.62C,647.645,647.670,64A.62C,64A.62D,64A.62E,64A.645,64A.647",
  "FCDF=626.645,626.647,628.645,628.647,62A.645,62A.647,62B.645,62B.647,633.645,633.647,634.645",
  "FCEA=634.647,643.644,643.645,644.645,646.645,646.647,64A.645,64A.647,640.64E.651,640.64F.651",
  "FCF4=640.650.651,637.649,637.64A,639.649,639.64A,63A.649,63A.64A,633.649,633.64A,634.649",
  "FCFE=634.64A,62D.649,62D.64A,62C.649,62C.64A,62E.649,62E.64A,635.649,635.64A,636.649,636.64A",
  "FD09=634.62C,634.62D,634.62E,634.645,634.631,633.631,635.631,636.631,637.649,637.64A,639.649",
  "FD14=639.64A,63A.649,63A.64A,633.649,633.64A,634.649,634.64A,62D.649,62D.64A,62C.649,62C.64A",
  "FD1F=62E.649,62E.64A,635.649,635.64A,636.649,636.64A,634.62C,634.62D,634.62E,634.645,634.631",
  "FD2A=633.631,635.631,636.631,634.62C,634.62D,634.62E,634.645,633.647,634.647,637.645,633.62C",
  "FD35=633.62D,633.62E,634.62C,634.62D,634.62E,637.645,638.645,627.64B,627.64B;FD50=62A.62C.645",
  "FD51=62A.62D.62C,62A.62D.62C,62A.62D.645,62A.62E.645,62A.645.62C,62A.645.62D,62A.645.62E",
  "FD58=62C.645.62D,62C.645.62D,62D.645.64A,62D.645.649,633.62D.62C,633.62C.62D,633.62C.649",
  "FD5F=633.645.62D,633.645.62D,633.645.62C,633.645.645,633.645.645,635.62D.62D,635.62D.62D",
  "FD66=635.645.645,634.62D.645,634.62D.645,634.62C.64A,634.645.62E,634.645.62E,634.645.645",
  "FD6D=634.645.645,636.62D.649,636.62E.645,636.62E.645,637.645.62D,637.645.62D,637.645.645",
  "FD74=637.645.64A,639.62C.645,639.645.645,639.645.645,639.645.649,63A.645.645,63A.645.64A",
  "FD7B=63A.645.649,641.62E.645,641.62E.645,642.645.62D,642.645.645,644.62D.645,644.62D.64A",
  "FD82=644.62D.649,644.62C.62C,644.62C.62C,644.62E.645,644.62E.645,644.645.62D,644.645.62D",
  "FD89=645.62D.62C,645.62D.645,645.62D.64A,645.62C.62D,645.62C.645,645.62E.62C,645.62E.645",
  "FD92=645.62C.62E,647.645.62C,647.645.645,646.62D.645,646.62D.649,646.62C.645,646.62C.645",
  "FD99=646.62C.649,646.645.64A,646.645.649,64A.645.645,64A.645.645,628.62E.64A,62A.62C.64A",
  "FDA0=62A.62C.649,62A.62E.64A,62A.62E.649,62A.645.64A,62A.645.649,62C.645.64A,62C.62D.649",
  "FDA7=62C.645.649,633.62E.649,635.62D.64A,634.62D.64A,636.62D.64A,644.62C.64A,644.645.64A",
  "FDAE=64A.62D.64A,64A.62C.64A,64A.645.64A,645.645.64A,642.645.64A,646.62D.64A,642.645.62D",
  "FDB5=644.62D.645,639.645.64A,643.645.64A,646.62C.62D,645.62E.64A,644.62C.645,643.645.645",
  "FDBC=644.62C.645,646.62C.62D,62C.62D.64A,62D.62C.64A,645.62C.64A,641.645.64A,628.62D.64A",
  "FDC3=643.645.645,639.62C.645,635.645.645,633.62E.64A,646.62C.64A;FDF0=635.644.6D2,642.644.6D2",
  "FDF2=627.644.644.647,627.643.628.631,645.62D.645.62F,635.644.639.645,631.633.648.644",
  "FDF7=639.644.64A.647,648.633.644.645,635.644.649",
  "FDFA=635.644.649.20.627.644.644.647.20.639.644.64A.647.20.648.633.644.645",
  "FDFB=62C.644.20.62C.644.627.644.647,631.6CC.627.644;FE10=2C,3001;FE13=3A,3B,21,3F,3016,3017",
  "FE31=2014,2013,5F,5F,28,29,7B,7D,3014,3015,3010,3011,300A,300B,3008,3009,300C,300D,300E,300F",
  "FE47=5B,5D,20.305,20.305,20.305,20.305,5F,5F,5F,2C,3001;FE54=3B,3A,3F,21,2014,28,29,7B,7D,3014",
  "FE5E=3015,23,26,2A,2B,2D,3C,3E,3D;FE68=5C,24,25,40;FE70=20.64B,640.64B,20.64C;FE74=20.64D",
  "FE76=20.64E,640.64E,20.64F,640.64F,20.650,640.650,20.651,640.651,20.652,640.652,621,622,622,623",
  "FE84=623,624,624,625,625,626,626,626,626,627,627,628,628,628,628,629,629,62A,62A,62A,62A,62B",
  "FE9A=62B,62B,62B,62C,62C,62C,62C,62D,62D,62D,62D,62E,62E,62E,62E,62F,62F,630,630,631,631,632",
  "FEB0=632,633,633,633,633,634,634,634,634,635,635,635,635,636,636,636,636,637,637,637,637,638",
  "FEC6=638,638,638,639,639,639,639,63A,63A,63A,63A,641,641,641,641,642,642,642,642,643,643,643",
  "FEDC=643,644,644,644,644,645,645,645,645,646,646,646,646,647,647,647,647,648,648,649,649,64A",
  "FEF2=64A,64A,64A,644.622,644.622,644.623,644.623,644.625,644.625,644.627,644.627;FF01=21,22,23",
  "FF04=24,25,26,27,28,29,2A,2B,2C,2D,2E,2F,30,31,32,33,34,35,36,37,38,39,3A,3B,3C,3D,3E,3F,40,61",
  "FF22=62,63,64,65,66,67,68,69,6A,6B,6C,6D,6E,6F,70,71,72,73,74,75,76,77,78,79,7A,5B,5C,5D,5E,5F",
  "FF40=60,61,62,63,64,65,66,67,68,69,6A,6B,6C,6D,6E,6F,70,71,72,73,74,75,76,77,78,79,7A,7B,7C,7D",
  "FF5E=7E,2985,2986,2E,300C,300D,3001,30FB,30F2,30A1,30A3,30A5,30A7,30A9,30E3,30E5,30E7,30C3,30FC",
  "FF71=30A2,30A4,30A6,30A8,30AA,30AB,30AD,30AF,30B1,30B3,30B5,30B7,30B9,30BB,30BD,30BF,30C1,30C4",
  "FF83=30C6,30C8,30CA,30CB,30CC,30CD,30CE,30CF,30D2,30D5,30D8,30DB,30DE,30DF,30E0,30E1,30E2,30E4",
  "FF95=30E6,30E8,30E9,30EA,30EB,30EC,30ED,30EF,30F3,3099,309A;FFA1=1100,1101,11AA,1102,11AC,11AD",
  "FFA7=1103,1104,1105,11B0,11B1,11B2,11B3,11B4,11B5,111A,1106,1107,1108,1121,1109,110A,110B,110C",
  "FFB9=110D,110E,110F,1110,1111,1112;FFC2=1161,1162,1163,1164,1165,1166;FFCA=1167,1168,1169,116A",
  "FFCE=116B,116C;FFD2=116D,116E,116F,1170,1171,1172;FFDA=1173,1174,1175;FFE0=A2,A3,AC,20.304,A6",
  "FFE5=A5,20A9;FFE8=2502,2190,2191,2192,2193,25A0,25CB;10781=2D0,2D1,E6,299,253;10787=2A3,AB66",
  "10789=2A5,2A4,256,257,1D91,258,25E,2A9,264,262,260,29B,127,29C,267,284,2AA,2AB,26C,1DF04,A78E",
  "1079E=26E,1DF05,28E,1DF06,F8,276,277,71,27A,1DF08,27D,27E,280,2A8,2A6,AB67,2A7,288,2C71",
  "107B2=28F,2A1,2A2,298,1C0,1C1,1C2,1DF0A,1DF1E;1CCD6=61,62,63,64,65,66,67,68,69,6A,6B,6C,6D,6E",
  "1CCE4=6F,70,71,72,73,74,75,76,77,78,79,7A,30,31,32,33,34,35,36,37,38,39;1D400=61,62,63,64,65,66",
  "1D406=67,68,69,6A,6B,6C,6D,6E,6F,70,71,72,73,74,75,76,77,78,79,7A,61,62,63,64,65,66,67,68,69,6A",
  "1D424=6B,6C,6D,6E,6F,70,71,72,73,74,75,76,77,78,79,7A,61,62,63,64,65,66,67,68,69,6A,6B,6C,6D,6E",
  "1D442=6F,70,71,72,73,74,75,76,77,78,79,7A,61,62,63,64,65,66,67;1D456=69,6A,6B,6C,6D,6E,6F,70,71",
  "1D45F=72,73,74,75,76,77,78,79,7A,61,62,63,64,65,66,67,68,69,6A,6B,6C,6D,6E,6F,70,71,72,73,74,75",
  "1D47D=76,77,78,79,7A,61,62,63,64,65,66,67,68,69,6A,6B,6C,6D,6E,6F,70,71,72,73,74,75,76,77,78,79",
  "1D49B=7A,61;1D49E=63,64;1D4A2=67;1D4A5=6A,6B;1D4A9=6E,6F,70,71;1D4AE=73,74,75,76,77,78,79,7A,61",
  "1D4B7=62,63,64;1D4BB=66;1D4BD=68,69,6A,6B,6C,6D,6E;1D4C5=70,71,72,73,74,75,76,77,78,79,7A,61,62",
  "1D4D2=63,64,65,66,67,68,69,6A,6B,6C,6D,6E,6F,70,71,72,73,74,75,76,77,78,79,7A,61,62,63,64,65,66",
  "1D4F0=67,68,69,6A,6B,6C,6D,6E,6F,70,71,72,73,74,75,76,77,78,79,7A,61,62;1D507=64,65,66,67",
  "1D50D=6A,6B,6C,6D,6E,6F,70,71;1D516=73,74,75,76,77,78,79;1D51E=61,62,63,64,65,66,67,68,69,6A,6B",
  "1D529=6C,6D,6E,6F,70,71,72,73,74,75,76,77,78,79,7A,61,62;1D53B=64,65,66,67;1D540=69,6A,6B,6C,6D",
  "1D546=6F;1D54A=73,74,75,76,77,78,79;1D552=61,62,63,64,65,66,67,68,69,6A,6B,6C,6D,6E,6F,70,71,72",
  "1D564=73,74,75,76,77,78,79,7A,61,62,63,64,65,66,67,68,69,6A,6B,6C,6D,6E,6F,70,71,72,73,74,75,76",
  "1D582=77,78,79,7A,61,62,63,64,65,66,67,68,69,6A,6B,6C,6D,6E,6F,70,71,72,73,74,75,76,77,78,79,7A",
  "1D5A0=61,62,63,64,65,66,67,68,69,6A,6B,6C,6D,6E,6F,70,71,72,73,74,75,76,77,78,79,7A,61,62,63,64",
  "1D5BE=65,66,67,68,69,6A,6B,6C,6D,6E,6F,70,71,72,73,74,75,76,77,78,79,7A,61,62,63,64,65,66,67,68",
  "1D5DC=69,6A,6B,6C,6D,6E,6F,70,71,72,73,74,75,76,77,78,79,7A,61,62,63,64,65,66,67,68,69,6A,6B,6C",
  "1D5FA=6D,6E,6F,70,71,72,73,74,75,76,77,78,79,7A,61,62,63,64,65,66,67,68,69,6A,6B,6C,6D,6E,6F,70",
  "1D618=71,72,73,74,75,76,77,78,79,7A,61,62,63,64,65,66,67,68,69,6A,6B,6C,6D,6E,6F,70,71,72,73,74",
  "1D636=75,76,77,78,79,7A,61,62,63,64,65,66,67,68,69,6A,6B,6C,6D,6E,6F,70,71,72,73,74,75,76,77,78",
  "1D654=79,7A,61,62,63,64,65,66,67,68,69,6A,6B,6C,6D,6E,6F,70,71,72,73,74,75,76,77,78,79,7A,61,62",
  "1D672=63,64,65,66,67,68,69,6A,6B,6C,6D,6E,6F,70,71,72,73,74,75,76,77,78,79,7A,61,62,63,64,65,66",
  "1D690=67,68,69,6A,6B,6C,6D,6E,6F,70,71,72,73,74,75,76,77,78,79,7A,131,237;1D6A8=3B1,3B2,3B3,3B4",
  "1D6AC=3B5,3B6,3B7,3B8,3B9,3BA,3BB,3BC,3BD,3BE,3BF,3C0,3C1,3B8,3C3,3C4,3C5,3C6,3C7,3C8,3C9,2207",
  "1D6C2=3B1,3B2,3B3,3B4,3B5,3B6,3B7,3B8,3B9,3BA,3BB,3BC,3BD,3BE,3BF,3C0,3C1,3C3,3C3,3C4,3C5,3C6",
  "1D6D8=3C7,3C8,3C9,2202,3B5,3B8,3BA,3C6,3C1,3C0,3B1,3B2,3B3,3B4,3B5,3B6,3B7,3B8,3B9,3BA,3BB,3BC",
  "1D6EE=3BD,3BE,3BF,3C0,3C1,3B8,3C3,3C4,3C5,3C6,3C7,3C8,3C9,2207,3B1,3B2,3B3,3B4,3B5,3B6,3B7,3B8",
  "1D704=3B9,3BA,3BB,3BC,3BD,3BE,3BF,3C0,3C1,3C3,3C3,3C4,3C5,3C6,3C7,3C8,3C9,2202,3B5,3B8,3BA,3C6",
  "1D71A=3C1,3C0,3B1,3B2,3B3,3B4,3B5,3B6,3B7,3B8,3B9,3BA,3BB,3BC,3BD,3BE,3BF,3C0,3C1,3B8,3C3,3C4",
  "1D730=3C5,3C6,3C7,3C8,3C9,2207,3B1,3B2,3B3,3B4,3B5,3B6,3B7,3B8,3B9,3BA,3BB,3BC,3BD,3BE,3BF,3C0",
  "1D746=3C1,3C3,3C3,3C4,3C5,3C6,3C7,3C8,3C9,2202,3B5,3B8,3BA,3C6,3C1,3C0,3B1,3B2,3B3,3B4,3B5,3B6",
  "1D75C=3B7,3B8,3B9,3BA,3BB,3BC,3BD,3BE,3BF,3C0,3C1,3B8,3C3,3C4,3C5,3C6,3C7,3C8,3C9,2207,3B1,3B2",
  "1D772=3B3,3B4,3B5,3B6,3B7,3B8,3B9,3BA,3BB,3BC,3BD,3BE,3BF,3C0,3C1,3C3,3C3,3C4,3C5,3C6,3C7,3C8",
  "1D788=3C9,2202,3B5,3B8,3BA,3C6,3C1,3C0,3B1,3B2,3B3,3B4,3B5,3B6,3B7,3B8,3B9,3BA,3BB,3BC,3BD,3BE",
  "1D79E=3BF,3C0,3C1,3B8,3C3,3C4,3C5,3C6,3C7,3C8,3C9,2207,3B1,3B2,3B3,3B4,3B5,3B6,3B7,3B8,3B9,3BA",
  "1D7B4=3BB,3BC,3BD,3BE,3BF,3C0,3C1,3C3,3C3,3C4,3C5,3C6,3C7,3C8,3C9,2202,3B5,3B8,3BA,3C6,3C1,3C0",
  "1D7CA=3DD,3DD;1D7CE=30,31,32,33,34,35,36,37,38,39,30,31,32,33,34,35,36,37,38,39,30,31,32,33,34",
  "1D7E7=35,36,37,38,39,30,31,32,33,34,35,36,37,38,39,30,31,32,33,34,35,36,37,38,39;1E030=430,431",
  "1E032=432,433,434,435,436,437,438,43A,43B,43C,43E,43F,440,441,442,443,444,445,446,447,448,44B",
  "1E048=44D,44E,A689,4D9,456,458,4E9,4AF,4CF,430,431,432,433,434,435,436,437,438,43A,43B,43E,43F",
  "1E05E=441,443,444,445,446,447,448,44A,44B,491,456,455,45F,4AB,A651,4B1;1EE00=627,628,62C,62F",
  "1EE05=648,632,62D,637,64A,643,644,645,646,633,639,641,635,642,631,634,62A,62B,62E,630,636,638",
  "1EE1B=63A,66E,6BA,6A1,66F;1EE21=628,62C;1EE24=647;1EE27=62D;1EE29=64A,643,644,645,646,633,639",
  "1EE30=641,635,642;1EE34=634,62A,62B,62E;1EE39=636;1EE3B=63A;1EE42=62C;1EE47=62D;1EE49=64A",
  "1EE4B=644;1EE4D=646,633,639;1EE51=635,642;1EE54=634;1EE57=62E;1EE59=636;1EE5B=63A;1EE5D=6BA",
  "1EE5F=66F;1EE61=628,62C;1EE64=647;1EE67=62D,637,64A,643;1EE6C=645,646,633,639,641,635,642",
  "1EE74=634,62A,62B,62E;1EE79=636,638,63A,66E;1EE7E=6A1;1EE80=627,628,62C,62F,647,648,632,62D,637",
  "1EE89=64A;1EE8B=644,645,646,633,639,641,635,642,631,634,62A,62B,62E,630,636,638,63A;1EEA1=628",
  "1EEA2=62C,62F;1EEA5=648,632,62D,637,64A;1EEAB=644,645,646,633,639,641,635,642,631,634,62A,62B",
  "1EEB7=62E,630,636,638,63A;1F101=30.2C,31.2C,32.2C,33.2C,34.2C,35.2C,36.2C,37.2C,38.2C,39.2C",
  "1F110=28.61.29,28.62.29,28.63.29,28.64.29,28.65.29,28.66.29,28.67.29,28.68.29,28.69.29,28.6A.29",
  "1F11A=28.6B.29,28.6C.29,28.6D.29,28.6E.29,28.6F.29,28.70.29,28.71.29,28.72.29,28.73.29,28.74.29",
  "1F124=28.75.29,28.76.29,28.77.29,28.78.29,28.79.29,28.7A.29,3014.73.3015,63,72,63.64,77.7A",
  "1F130=61,62,63,64,65,66,67,68,69,6A,6B,6C,6D,6E,6F,70,71,72,73,74,75,76,77,78,79,7A,68.76,6D.76",
  "1F14C=73.64,73.73,70.70.76,77.63;1F16A=6D.63,6D.64,6D.72;1F190=64.6A;1F200=307B.304B,30B3.30B3",
  "1F202=30B5;1F210=624B,5B57,53CC,30C7,4E8C,591A,89E3,5929,4EA4,6620,7121,6599,524D,5F8C,518D",
  "1F21F=65B0,521D,7D42,751F,8CA9,58F0,5439,6F14,6295,6355,4E00,4E09,904A,5DE6,4E2D,53F3,6307,8D70",
  "1F231=6253,7981,7A7A,5408,6E80,6709,6708,7533,5272,55B6,914D;1F240=3014.672C.3015",
  "1F241=3014.4E09.3015,3014.4E8C.3015,3014.5B89.3015,3014.70B9.3015,3014.6253.3015,3014.76D7.3015",
  "1F247=3014.52DD.3015,3014.6557.3015;1F250=5F97,53EF;1FBF0=30,31,32,33,34,35,36,37,38,39"]

def domainForms : Text.CodeMap := Text.CodeMap.read domainFormLines

end TokenConsole.Url
