import SingleFlight.Unicode.Spans

/-!
How the characters of host names are mapped (UTS 46, deviations kept). A character is kept, dropped,
replaced, or not allowed at all; one that has a canonical decomposition into one other character is
kept here, since normalization replaces it.
-/

namespace SingleFlight.Unicode

/-- Spans of characters that are kept, with these notes: `!` they are dropped, `*` every other one
stands for the next, `+` and `~` they are shifted up and down, `=` they are replaced by the texts listed. -/
def mappingTable : String :=
  "A0=20 A1-A7 A8=20.308 A9 AA=61 AB-AC AD! AE AF=20.304 B0-B1 B2-B5=32,33,20.301,3BC B6-B7 B8-BA=20.327,31,6F BB
    BC-BE=31.2044.34,31.2044.32,33.2044.34 BF C0-D6+20 D7 D8-DE+20 DF-FF 100-12F* 130=69.307 131 132-133=69.6A,69.6A
    134-137* 138 139-13E* 13F-140=6C.B7,6C.B7 141-148* 149=2BC.6E 14A-177* 178=FF 179-17E* 17F=73 180 181=253
    182-185* 186-187=254,188 188 189-18B=256,257,18C 18C-18D 18E-191=1DD,259,25B,192 192 193-194=260,263 195
    196-198=269,268,199 199-19B 19C-19D=26F,272 19E 19F=275 1A0-1A5* 1A6-1A7=280,1A8 1A8 1A9=283 1AA-1AB 1AC=1AD 1AD
    1AE-1AF=288,1B0 1B0 1B1-1B2=28A,28B 1B3-1B6* 1B7-1B8=292,1B9 1B9-1BB 1BC=1BD 1BD-1C3
    1C4-1CC=64.17E,64.17E,64.17E,6C.6A,6C.6A,6C.6A,6E.6A,6E.6A,6E.6A 1CD-1DC* 1DD 1DE-1EF* 1F0
    1F1-1F4=64.7A,64.7A,64.7A,1F5 1F5 1F6-1F7=195,1BF 1F8-21F* 220=19E 221 222-233* 234-239 23A-23B=2C65,23C 23C
    23D-23E=19A,2C66 23F-240 241=242 242 243-245=180,289,28C 246-24F* 250-2AF 2B0-2B8=68,266,6A,72,279,27B,281,77,79
    2B9-2D7 2D8-2DD=20.306,20.307,20.30A,20.328,20.303,20.30B 2DE-2DF 2E0-2E4=263,6C,73,78,295 2E5-344 345=3B9
    346-34E 34F! 350-36F 370-373* 374-375 376=377 377 37A=20.3B9 37B-37E 37F=3F3 384-386=20.301,20.308.301,3AC 387
    388-38A=3AD,3AE,3AF 38C=3CC 38E-38F=3CD,3CE 390 391-3A1+20 3A3-3AB+20 3AC-3CE
    3CF-3D6=3D7,3B2,3B8,3C5,3CD,3CB,3C6,3C0 3D7 3D8-3EF* 3F0-3F2=3BA,3C1,3C3 3F3 3F4-3F5=3B8,3B5 3F6 3F7=3F8 3F8
    3F9-3FA=3C3,3FB 3FB-3FC 3FD-3FF=37B,37C,37D 400-40F+50 410-42F+20 430-45F 460-481* 482-489 48A-4BF* 4C0=4CF
    4C1-4CE* 4CF 4D0-52F* 531-556+30 559-586 587=565.582 588-58A 58D-58F 591-5C7 5D0-5EA 5EF-5F4 606-61B 61D-674
    675-678=627.674,648.674,6C7.674,64A.674 679-6DC 6DE-70D 710-74A 74D-7B1 7C0-7FA 7FD-82D 830-83E 840-85B 85E
    860-86A 870-88F 897-8E1 8E3-983 985-98C 98F-990 993-9A8 9AA-9B0 9B2 9B6-9B9 9BC-9C4 9C7-9C8 9CB-9CE 9D7 9DC-9DD
    9DF-9E3 9E6-9FE A01-A03 A05-A0A A0F-A10 A13-A28 A2A-A30 A32-A33 A35-A36 A38-A39 A3C A3E-A42 A47-A48 A4B-A4D A51
    A59-A5C A5E A66-A76 A81-A83 A85-A8D A8F-A91 A93-AA8 AAA-AB0 AB2-AB3 AB5-AB9 ABC-AC5 AC7-AC9 ACB-ACD AD0 AE0-AE3
    AE6-AF1 AF9-AFF B01-B03 B05-B0C B0F-B10 B13-B28 B2A-B30 B32-B33 B35-B39 B3C-B44 B47-B48 B4B-B4D B55-B57 B5C-B5D
    B5F-B63 B66-B77 B82-B83 B85-B8A B8E-B90 B92-B95 B99-B9A B9C B9E-B9F BA3-BA4 BA8-BAA BAE-BB9 BBE-BC2 BC6-BC8
    BCA-BCD BD0 BD7 BE6-BFA C00-C0C C0E-C10 C12-C28 C2A-C39 C3C-C44 C46-C48 C4A-C4D C55-C56 C58-C5A C5C-C5D C60-C63
    C66-C6F C77-C8C C8E-C90 C92-CA8 CAA-CB3 CB5-CB9 CBC-CC4 CC6-CC8 CCA-CCD CD5-CD6 CDC-CDE CE0-CE3 CE6-CEF CF1-CF3
    D00-D0C D0E-D10 D12-D44 D46-D48 D4A-D4F D54-D63 D66-D7F D81-D83 D85-D96 D9A-DB1 DB3-DBB DBD DC0-DC6 DCA DCF-DD4
    DD6 DD8-DDF DE6-DEF DF2-DF4 E01-E32 E33=E4D.E32 E34-E3A E3F-E5B E81-E82 E84 E86-E8A E8C-EA3 EA5 EA7-EB2
    EB3=ECD.EB2 EB4-EBD EC0-EC4 EC6 EC8-ECE ED0-ED9 EDC-EDD=EAB.E99,EAB.EA1 EDE-EDF F00-F0B F0C=F0B F0D-F47 F49-F6C
    F71-F76 F77=FB2.F71.F80 F78 F79=FB3.F71.F80 F7A-F97 F99-FBC FBE-FCC FCE-FDA 1000-109F 10A0-10C5+1C60 10C7=2D27
    10CD=2D2D 10D0-10FB 10FC=10DC 10FD-115E 115F-1160! 1161-1248 124A-124D 1250-1256 1258 125A-125D 1260-1288
    128A-128D 1290-12B0 12B2-12B5 12B8-12BE 12C0 12C2-12C5 12C8-12D6 12D8-1310 1312-1315 1318-135A 135D-137C
    1380-1399 13A0-13F5 13F8-13FD~8 1400-167F 1681-169C 16A0-16F8 1700-1715 171F-1736 1740-1753 1760-176C 176E-1770
    1772-1773 1780-17B3 17B4-17B5! 17B6-17DD 17E0-17E9 17F0-17F9 1800-180A 180B-180F! 1810-1819 1820-1878 1880-18AA
    18B0-18F5 1900-191E 1920-192B 1930-193B 1940 1944-196D 1970-1974 1980-19AB 19B0-19C9 19D0-19DA 19DE-1A1B
    1A1E-1A5E 1A60-1A7C 1A7F-1A89 1A90-1A99 1AA0-1AAD 1AB0-1ADD 1AE0-1AEB 1B00-1B4C 1B4E-1BF3 1BFC-1C37 1C3B-1C49
    1C4D-1C7F 1C80-1C89=432,434,43E,441,442,442,44A,463,A64B,1C8A 1C8A 1C90-1CBA~BC0 1CBD-1CBF=10FD,10FE,10FF
    1CC0-1CC7 1CD0-1CFA 1D00-1D2B 1D2C-1D2E=61,E6,62 1D2F 1D30-1D32=64,65,1DD 1D33-1D3A~1CCC 1D3B
    1D3C-1D4D=6F,223,70,72,74,75,77,61,250,251,1D02,62,64,65,259,25B,25C,67 1D4E
    1D4F-1D63=6B,6D,14B,6F,254,1D16,1D17,70,74,75,1D1D,26F,76,1D25,3B2,3B3,3B4,3C6,3C7,69,72
    1D64-1D6A=75,76,3B2,3B3,3C1,3C6,3C7 1D6B-1D77 1D78=43D 1D79-1D9A
    1D9B-1DAD=252,63,255,F0,25C,66,25F,261,265,268,269,26A,1D7B,29D,26D,1D85,29F,271,270 1DAE-1DB1~1B3C
    1DB2-1DBF=278,282,283,1AB,289,28A,1D1C,28B,28C,7A,290,291,292,3B8 1DC0-1DFF 1E00-1E95* 1E96-1E99
    1E9A-1E9B=61.2BE,1E61 1E9C-1E9D 1E9E=DF 1E9F 1EA0-1EFF* 1F00-1F07 1F08-1F0F~8 1F10-1F15 1F18-1F1D~8 1F20-1F27
    1F28-1F2F~8 1F30-1F37 1F38-1F3F~8 1F40-1F45 1F48-1F4D~8 1F50-1F57 1F59=1F51 1F5B=1F53 1F5D=1F55 1F5F=1F57
    1F60-1F67 1F68-1F6F~8 1F70-1F7D
    1F80-1F87=1F00.3B9,1F01.3B9,1F02.3B9,1F03.3B9,1F04.3B9,1F05.3B9,1F06.3B9,1F07.3B9
    1F88-1F8F=1F00.3B9,1F01.3B9,1F02.3B9,1F03.3B9,1F04.3B9,1F05.3B9,1F06.3B9,1F07.3B9
    1F90-1F97=1F20.3B9,1F21.3B9,1F22.3B9,1F23.3B9,1F24.3B9,1F25.3B9,1F26.3B9,1F27.3B9
    1F98-1F9F=1F20.3B9,1F21.3B9,1F22.3B9,1F23.3B9,1F24.3B9,1F25.3B9,1F26.3B9,1F27.3B9
    1FA0-1FA7=1F60.3B9,1F61.3B9,1F62.3B9,1F63.3B9,1F64.3B9,1F65.3B9,1F66.3B9,1F67.3B9
    1FA8-1FAF=1F60.3B9,1F61.3B9,1F62.3B9,1F63.3B9,1F64.3B9,1F65.3B9,1F66.3B9,1F67.3B9 1FB0-1FB1
    1FB2-1FB4=1F70.3B9,3B1.3B9,3AC.3B9 1FB6 1FB7-1FBD=1FB6.3B9,1FB0,1FB1,1F70,3AC,3B1.3B9,20.313 1FBE
    1FBF-1FC4=20.313,20.342,20.308.342,1F74.3B9,3B7.3B9,3AE.3B9 1FC6
    1FC7-1FCF=1FC6.3B9,1F72,3AD,1F74,3AE,3B7.3B9,20.313.300,20.313.301,20.313.342 1FD0-1FD3 1FD6-1FD7
    1FD8-1FDB=1FD0,1FD1,1F76,3AF 1FDD-1FDF=20.314.300,20.314.301,20.314.342 1FE0-1FE7
    1FE8-1FEE=1FE0,1FE1,1F7A,3CD,1FE5,20.308.300,20.308.301 1FEF 1FF2-1FF4=1F7C.3B9,3C9.3B9,3CE.3B9 1FF6
    1FF7-1FFE=1FF6.3B9,1F78,3CC,1F7C,3CE,3C9.3B9,20.301,20.314 2000-200A=20,20,20,20,20,20,20,20,20,20,20 200B!
    200C-200D 2010 2011=2010 2012-2016 2017=20.333 2018-2023 2027 202F=20 2030-2032
    2033-2034=2032.2032,2032.2032.2032 2035 2036-2037=2035.2035,2035.2035.2035 2038-203B 203C=21.21 203D 203E=20.305
    203F-2046 2047-2049=3F.3F,3F.21,21.3F 204A-2056 2057=2032.2032.2032.2032 2058-205E 205F=20 2060-2064! 206A-206F!
    2070-2071=30,69 2074-2079~2040 207A-207F=2B,2212,3D,28,29,6E 2080-2089~2050 208A-208E=2B,2212,3D,28,29
    2090-2095=61,65,6F,78,259,68 2096-2099~202B 209A-209C=70,73,74 20A0-20A7 20A8=72.73 20A9-20C1 20D0-20F0
    2100-2103=61.2F.63,61.2F.73,63,B0.63 2104 2105-2107=63.2F.6F,63.2F.75,25B 2108
    2109-2113=B0.66,67,68,68,68,68,127,69,69,6C,6C 2114 2115-2116=6E,6E.6F 2117-2118 2119-211D=70,71,72,72,72
    211E-211F 2120-2122=73.6D,74.65.6C,74.6D 2123 2124=7A 2125 2126=3C9 2127 2128=7A 2129 212A-212D=6B,E5,62,63 212E
    212F-2134=65,65,66,214E,6D,6F 2135-2138~1B65 2139=69 213A 213B-2140=66.61.78,3C0,3B3,3B3,3C0,2211 2141-2144
    2145-2149=64,64,65,69,6A 214A-214F
    2150-2156=31.2044.37,31.2044.39,31.2044.31.30,31.2044.33,32.2044.33,31.2044.35,32.2044.35
    2157-215D=33.2044.35,34.2044.35,31.2044.36,35.2044.36,31.2044.38,33.2044.38,35.2044.38
    215E-2168=37.2044.38,31.2044,69,69.69,69.69.69,69.76,76,76.69,76.69.69,76.69.69.69,69.78
    2169-2176=78,78.69,78.69.69,6C,63,64,6D,69,69.69,69.69.69,69.76,76,76.69,76.69.69
    2177-217F=76.69.69.69,69.78,78,78.69,78.69.69,6C,63,64,6D 2180-2182 2183=2184 2184-2188 2189=30.2044.33
    218A-218B 2190-222B 222C-222D=222B.222B,222B.222B.222B 222E 222F-2230=222E.222E,222E.222E.222E 2231-2429
    2440-244A 2460-2468~242F 2469-2474=31.30,31.31,31.32,31.33,31.34,31.35,31.36,31.37,31.38,31.39,32.30,28.31.29
    2475-247C=28.32.29,28.33.29,28.34.29,28.35.29,28.36.29,28.37.29,28.38.29,28.39.29
    247D-2482=28.31.30.29,28.31.31.29,28.31.32.29,28.31.33.29,28.31.34.29,28.31.35.29
    2483-2487=28.31.36.29,28.31.37.29,28.31.38.29,28.31.39.29,28.32.30.29
    249C-24A3=28.61.29,28.62.29,28.63.29,28.64.29,28.65.29,28.66.29,28.67.29,28.68.29
    24A4-24AB=28.69.29,28.6A.29,28.6B.29,28.6C.29,28.6D.29,28.6E.29,28.6F.29,28.70.29
    24AC-24B3=28.71.29,28.72.29,28.73.29,28.74.29,28.75.29,28.76.29,28.77.29,28.78.29 24B4-24B5=28.79.29,28.7A.29
    24B6-24CF~2455 24D0-24E9~246F 24EA=30 24EB-2A0B 2A0C=222B.222B.222B.222B 2A0D-2A73
    2A74-2A76=3A.3A.3D,3D.3D,3D.3D.3D 2A77-2B73 2B76-2BFF 2C00-2C2F+30 2C30-2C5F 2C60=2C61 2C61
    2C62-2C64=26B,1D7D,27D 2C65-2C66 2C67-2C6C* 2C6D-2C70=251,271,250,252 2C71 2C72=2C73 2C73-2C74 2C75=2C76
    2C76-2C7B 2C7C-2C7F=6A,76,23F,240 2C80-2CE3* 2CE4-2CEA 2CEB-2CEE* 2CEF-2CF1 2CF2=2CF3 2CF3 2CF9-2D25 2D27 2D2D
    2D30-2D67 2D6F=2D61 2D70 2D7F-2D96 2DA0-2DA6 2DA8-2DAE 2DB0-2DB6 2DB8-2DBE 2DC0-2DC6 2DC8-2DCE 2DD0-2DD6
    2DD8-2DDE 2DE0-2E5D 2E80-2E99 2E9B-2E9E 2E9F=6BCD 2EA0-2EF2 2EF3=9F9F
    2F00-2F0F=4E00,4E28,4E36,4E3F,4E59,4E85,4E8C,4EA0,4EBA,513F,5165,516B,5182,5196,51AB,51E0
    2F10-2F1F=51F5,5200,529B,52F9,5315,531A,5338,5341,535C,5369,5382,53B6,53C8,53E3,56D7,571F
    2F20-2F2F=58EB,5902,590A,5915,5927,5973,5B50,5B80,5BF8,5C0F,5C22,5C38,5C6E,5C71,5DDB,5DE5
    2F30-2F3F=5DF1,5DFE,5E72,5E7A,5E7F,5EF4,5EFE,5F0B,5F13,5F50,5F61,5F73,5FC3,6208,6236,624B
    2F40-2F4F=652F,6534,6587,6597,65A4,65B9,65E0,65E5,66F0,6708,6728,6B20,6B62,6B79,6BB3,6BCB
    2F50-2F5F=6BD4,6BDB,6C0F,6C14,6C34,706B,722A,7236,723B,723F,7247,7259,725B,72AC,7384,7389
    2F60-2F6F=74DC,74E6,7518,751F,7528,7530,758B,7592,7676,767D,76AE,76BF,76EE,77DB,77E2,77F3
    2F70-2F7F=793A,79B8,79BE,7A74,7ACB,7AF9,7C73,7CF8,7F36,7F51,7F8A,7FBD,8001,800C,8012,8033
    2F80-2F8F=807F,8089,81E3,81EA,81F3,81FC,820C,821B,821F,826E,8272,8278,864D,866B,8840,884C
    2F90-2F9F=8863,897E,898B,89D2,8A00,8C37,8C46,8C55,8C78,8C9D,8D64,8D70,8DB3,8EAB,8ECA,8F9B
    2FA0-2FAF=8FB0,8FB5,9091,9149,91C6,91CC,91D1,9577,9580,961C,96B6,96B9,96E8,9751,975E,9762
    2FB0-2FBF=9769,97CB,97ED,97F3,9801,98A8,98DB,98DF,9996,9999,99AC,9AA8,9AD8,9ADF,9B25,9B2F
    2FC0-2FCF=9B32,9B3C,9B5A,9CE5,9E75,9E7F,9EA5,9EBB,9EC3,9ECD,9ED1,9EF9,9EFD,9F0E,9F13,9F20
    2FD0-2FD5=9F3B,9F4A,9F52,9F8D,9F9C,9FA0 3000=20 3001 3002=2E 3003-3035 3036=3012 3037 3038-303A=5341,5344,5345
    303B-303F 3041-3096 3099-309A 309B-309C=20.3099,20.309A 309D-309E 309F=3088.308A 30A0-30FE 30FF=30B3.30C8
    3105-312F 3131-3139=1100,1101,11AA,1102,11AC,11AD,1103,1104,1105 313A-313F~1F8A
    3140-3144=111A,1106,1107,1108,1121 3145-314E~203C 314F-3163~1FEE 3164!
    3165-3174=1114,1115,11C7,11C8,11CC,11CE,11D3,11D7,11D9,111C,11DD,11DF,111D,111E,1120,1122
    3175-3177=1123,1127,1129 3178-317C~204D
    317D-318C=1132,1136,1140,1147,114C,11F1,11F2,1157,1158,1159,1184,1185,1188,1191,1192,1194 318D-318E=119E,11A1
    3190-3191 3192-319F=4E00,4E8C,4E09,56DB,4E0A,4E2D,4E0B,7532,4E59,4E19,4E01,5929,5730,4EBA 31A0-31E5 31F0-31FF
    3200-3206=28.1100.29,28.1102.29,28.1103.29,28.1105.29,28.1106.29,28.1107.29,28.1109.29
    3207-320D=28.110B.29,28.110C.29,28.110E.29,28.110F.29,28.1110.29,28.1111.29,28.1112.29
    320E-3214=28.AC00.29,28.B098.29,28.B2E4.29,28.B77C.29,28.B9C8.29,28.BC14.29,28.C0AC.29
    3215-321B=28.C544.29,28.C790.29,28.CC28.29,28.CE74.29,28.D0C0.29,28.D30C.29,28.D558.29
    321C-321E=28.C8FC.29,28.C624.C804.29,28.C624.D6C4.29
    3220-3226=28.4E00.29,28.4E8C.29,28.4E09.29,28.56DB.29,28.4E94.29,28.516D.29,28.4E03.29
    3227-322D=28.516B.29,28.4E5D.29,28.5341.29,28.6708.29,28.706B.29,28.6C34.29,28.6728.29
    322E-3234=28.91D1.29,28.571F.29,28.65E5.29,28.682A.29,28.6709.29,28.793E.29,28.540D.29
    3235-323B=28.7279.29,28.8CA1.29,28.795D.29,28.52B4.29,28.4EE3.29,28.547C.29,28.5B66.29
    323C-3242=28.76E3.29,28.4F01.29,28.8CC7.29,28.5354.29,28.796D.29,28.4F11.29,28.81EA.29
    3243-3247=28.81F3.29,554F,5E7C,6587,7B8F 3248-324F
    3250-325B=70.74.65,32.31,32.32,32.33,32.34,32.35,32.36,32.37,32.38,32.39,33.30,33.31
    325C-3268=33.32,33.33,33.34,33.35,1100,1102,1103,1105,1106,1107,1109,110B,110C 3269-326D~215B
    326E-327C=AC00,B098,B2E4,B77C,B9C8,BC14,C0AC,C544,C790,CC28,CE74,D0C0,D30C,D558,CC38.ACE0
    327D-327E=C8FC.C758,C6B0 327F
    3280-328F=4E00,4E8C,4E09,56DB,4E94,516D,4E03,516B,4E5D,5341,6708,706B,6C34,6728,91D1,571F
    3290-329F=65E5,682A,6709,793E,540D,7279,8CA1,795D,52B4,79D8,7537,5973,9069,512A,5370,6CE8
    32A0-32AF=9805,4F11,5199,6B63,4E0A,4E2D,4E0B,5DE6,53F3,533B,5B97,5B66,76E3,4F01,8CC7,5354
    32B0-32BC=591C,33.36,33.37,33.38,33.39,34.30,34.31,34.32,34.33,34.34,34.35,34.36,34.37
    32BD-32C6=34.38,34.39,35.30,31.6708,32.6708,33.6708,34.6708,35.6708,36.6708,37.6708
    32C7-32CF=38.6708,39.6708,31.30.6708,31.31.6708,31.32.6708,68.67,65.72.67,65.76,6C.74.64
    32D0-32DF=30A2,30A4,30A6,30A8,30AA,30AB,30AD,30AF,30B1,30B3,30B5,30B7,30B9,30BB,30BD,30BF
    32E0-32E3=30C1,30C4,30C6,30C8 32E4-32E9~21A 32EA-32ED=30D2,30D5,30D8,30DB 32EE-32F2~210 32F3-32F4=30E4,30E6
    32F5-32FA~20D 32FB-32FE~20C 32FF-3302=4EE4.548C,30A2.30D1.30FC.30C8,30A2.30EB.30D5.30A1,30A2.30F3.30DA.30A2
    3303-3306=30A2.30FC.30EB,30A4.30CB.30F3.30B0,30A4.30F3.30C1,30A6.30A9.30F3
    3307-330A=30A8.30B9.30AF.30FC.30C9,30A8.30FC.30AB.30FC,30AA.30F3.30B9,30AA.30FC.30E0
    330B-330E=30AB.30A4.30EA,30AB.30E9.30C3.30C8,30AB.30ED.30EA.30FC,30AC.30ED.30F3
    330F-3313=30AC.30F3.30DE,30AE.30AC,30AE.30CB.30FC,30AD.30E5.30EA.30FC,30AE.30EB.30C0.30FC
    3314-3316=30AD.30ED,30AD.30ED.30B0.30E9.30E0,30AD.30ED.30E1.30FC.30C8.30EB
    3317-3319=30AD.30ED.30EF.30C3.30C8,30B0.30E9.30E0,30B0.30E9.30E0.30C8.30F3
    331A-331D=30AF.30EB.30BC.30A4.30ED,30AF.30ED.30FC.30CD,30B1.30FC.30B9,30B3.30EB.30CA
    331E-3321=30B3.30FC.30DD,30B5.30A4.30AF.30EB,30B5.30F3.30C1.30FC.30E0,30B7.30EA.30F3.30B0
    3322-3327=30BB.30F3.30C1,30BB.30F3.30C8,30C0.30FC.30B9,30C7.30B7,30C9.30EB,30C8.30F3
    3328-332C=30CA.30CE,30CE.30C3.30C8,30CF.30A4.30C4,30D1.30FC.30BB.30F3.30C8,30D1.30FC.30C4
    332D-3331=30D0.30FC.30EC.30EB,30D4.30A2.30B9.30C8.30EB,30D4.30AF.30EB,30D4.30B3,30D3.30EB
    3332-3334=30D5.30A1.30E9.30C3.30C9,30D5.30A3.30FC.30C8,30D6.30C3.30B7.30A7.30EB
    3335-3339=30D5.30E9.30F3,30D8.30AF.30BF.30FC.30EB,30DA.30BD,30DA.30CB.30D2,30D8.30EB.30C4
    333A-333E=30DA.30F3.30B9,30DA.30FC.30B8,30D9.30FC.30BF,30DD.30A4.30F3.30C8,30DC.30EB.30C8
    333F-3343=30DB.30F3,30DD.30F3.30C9,30DB.30FC.30EB,30DB.30FC.30F3,30DE.30A4.30AF.30ED
    3344-3347=30DE.30A4.30EB,30DE.30C3.30CF,30DE.30EB.30AF,30DE.30F3.30B7.30E7.30F3
    3348-334B=30DF.30AF.30ED.30F3,30DF.30EA,30DF.30EA.30D0.30FC.30EB,30E1.30AC
    334C-334F=30E1.30AC.30C8.30F3,30E1.30FC.30C8.30EB,30E4.30FC.30C9,30E4.30FC.30EB
    3350-3354=30E6.30A2.30F3,30EA.30C3.30C8.30EB,30EA.30E9,30EB.30D4.30FC,30EB.30FC.30D6.30EB
    3355-335A=30EC.30E0,30EC.30F3.30C8.30B2.30F3,30EF.30C3.30C8,30.70B9,31.70B9,32.70B9
    335B-3363=33.70B9,34.70B9,35.70B9,36.70B9,37.70B9,38.70B9,39.70B9,31.30.70B9,31.31.70B9
    3364-336A=31.32.70B9,31.33.70B9,31.34.70B9,31.35.70B9,31.36.70B9,31.37.70B9,31.38.70B9
    336B-3371=31.39.70B9,32.30.70B9,32.31.70B9,32.32.70B9,32.33.70B9,32.34.70B9,68.70.61
    3372-337B=64.61,61.75,62.61.72,6F.76,70.63,64.6D,64.6D.32,64.6D.33,69.75,5E73.6210
    337C-3383=662D.548C,5927.6B63,660E.6CBB,682A.5F0F.4F1A.793E,70.61,6E.61,3BC.61,6D.61
    3384-338E=6B.61,6B.62,6D.62,67.62,63.61.6C,6B.63.61.6C,70.66,6E.66,3BC.66,3BC.67,6D.67
    338F-3399=6B.67,68.7A,6B.68.7A,6D.68.7A,67.68.7A,74.68.7A,3BC.6C,6D.6C,64.6C,6B.6C,66.6D
    339A-33A3=6E.6D,3BC.6D,6D.6D,63.6D,6B.6D,6D.6D.32,63.6D.32,6D.32,6B.6D.32,6D.6D.33
    33A4-33AB=63.6D.33,6D.33,6B.6D.33,6D.2215.73,6D.2215.73.32,70.61,6B.70.61,6D.70.61
    33AC-33B3=67.70.61,72.61.64,72.61.64.2215.73,72.61.64.2215.73.32,70.73,6E.73,3BC.73,6D.73
    33B4-33BF=70.76,6E.76,3BC.76,6D.76,6B.76,6D.76,70.77,6E.77,3BC.77,6D.77,6B.77,6D.77 33C0-33C1=6B.3C9,6D.3C9
    33C3-33C6=62.71,63.63,63.64,63.2215.6B.67
    33C8-33D3=64.62,67.79,68.61,68.70,69.6E,6B.6B,6B.6D,6B.74,6C.6D,6C.6E,6C.6F.67,6C.78
    33D4-33D7=6D.62,6D.69.6C,6D.6F.6C,70.68
    33D9-33E2=70.70.6D,70.72,73.72,73.76,77.62,76.2215.6D,61.2215.6D,31.65E5,32.65E5,33.65E5
    33E3-33EA=34.65E5,35.65E5,36.65E5,37.65E5,38.65E5,39.65E5,31.30.65E5,31.31.65E5
    33EB-33F1=31.32.65E5,31.33.65E5,31.34.65E5,31.35.65E5,31.36.65E5,31.37.65E5,31.38.65E5
    33F2-33F8=31.39.65E5,32.30.65E5,32.31.65E5,32.32.65E5,32.33.65E5,32.34.65E5,32.35.65E5
    33F9-33FF=32.36.65E5,32.37.65E5,32.38.65E5,32.39.65E5,33.30.65E5,33.31.65E5,67.61.6C 3400-A48C A490-A4C6
    A4D0-A62B A640-A66D* A66E-A67F A680-A69B* A69C-A69D=44A,44C A69E-A6F7 A700-A721 A722-A72F* A730-A731 A732-A76F*
    A770=A76F A771-A778 A779-A77C* A77D=1D79 A77E-A787* A788-A78A A78B=A78C A78C A78D=265 A78E-A78F A790-A793*
    A794-A795 A796-A7A9* A7AA-A7AE=266,25C,261,26C,26A A7AF A7B0-A7B3=29E,287,29D,AB53 A7B4-A7C3*
    A7C4-A7C6=A794,282,1D8E A7C7-A7CA* A7CB=264 A7CC-A7DB* A7DC=19B A7F1-A7F5=73,63,66,71,A7F6 A7F6-A7F7
    A7F8-A7F9=127,153 A7FA-A82C A830-A839 A840-A877 A880-A8C5 A8CE-A8D9 A8E0-A953 A95F-A97C A980-A9CD A9CF-A9D9
    A9DE-A9FE AA00-AA36 AA40-AA4D AA50-AA59 AA5C-AAC2 AADB-AAF6 AB01-AB06 AB09-AB0E AB11-AB16 AB20-AB26 AB28-AB2E
    AB30-AB5B AB5C-AB5F=A727,AB37,26B,AB52 AB60-AB68 AB69=28D AB6A-AB6B AB70-ABBF~97D0 ABC0-ABED ABF0-ABF9 AC00-D7A3
    D7B0-D7C6 D7CB-D7FB F900-F906 F907-F908=9F9C,9F9C F909-FA5C FA5D-FA5E=8279,8279 FA5F-FA6D FA70-FAD9
    FB00-FB06=66.66,66.69,66.6C,66.66.69,66.66.6C,73.74,73.74 FB13-FB17=574.576,574.565,574.56B,57E.576,574.56D
    FB1D-FB1F FB20-FB29=5E2,5D0,5D3,5D4,5DB,5DC,5DD,5E8,5EA,2B FB2A-FB36 FB38-FB3C FB3E FB40-FB41 FB43-FB44
    FB46-FB4E FB4F-FB61=5D0.5DC,671,671,67B,67B,67B,67B,67E,67E,67E,67E,680,680,680,680,67A,67A,67A,67A
    FB62-FB75=67F,67F,67F,67F,679,679,679,679,6A4,6A4,6A4,6A4,6A6,6A6,6A6,6A6,684,684,684,684
    FB76-FB89=683,683,683,683,686,686,686,686,687,687,687,687,68D,68D,68C,68C,68E,68E,688,688
    FB8A-FB9D=698,698,691,691,6A9,6A9,6A9,6A9,6AF,6AF,6AF,6AF,6B3,6B3,6B3,6B3,6B1,6B1,6B1,6B1
    FB9E-FBB1=6BA,6BA,6BB,6BB,6BB,6BB,6C0,6C0,6C1,6C1,6C1,6C1,6BE,6BE,6BE,6BE,6D2,6D2,6D3,6D3 FBB2-FBD2
    FBD3-FBE5=6AD,6AD,6AD,6AD,6C7,6C7,6C6,6C6,6C8,6C8,6C7.674,6CB,6CB,6C5,6C5,6C9,6C9,6D0,6D0
    FBE6-FBF1=6D0,6D0,649,649,626.627,626.627,626.6D5,626.6D5,626.648,626.648,626.6C7,626.6C7
    FBF2-FBFB=626.6C6,626.6C6,626.6C8,626.6C8,626.6D0,626.6D0,626.6D0,626.649,626.649,626.649
    FBFC-FC07=6CC,6CC,6CC,6CC,626.62C,626.62D,626.645,626.649,626.64A,628.62C,628.62D,628.62E
    FC08-FC11=628.645,628.649,628.64A,62A.62C,62A.62D,62A.62E,62A.645,62A.649,62A.64A,62B.62C
    FC12-FC1B=62B.645,62B.649,62B.64A,62C.62D,62C.645,62D.62C,62D.645,62E.62C,62E.62D,62E.645
    FC1C-FC25=633.62C,633.62D,633.62E,633.645,635.62D,635.645,636.62C,636.62D,636.62E,636.645
    FC26-FC2F=637.62D,637.645,638.645,639.62C,639.645,63A.62C,63A.645,641.62C,641.62D,641.62E
    FC30-FC39=641.645,641.649,641.64A,642.62D,642.645,642.649,642.64A,643.627,643.62C,643.62D
    FC3A-FC43=643.62E,643.644,643.645,643.649,643.64A,644.62C,644.62D,644.62E,644.645,644.649
    FC44-FC4D=644.64A,645.62C,645.62D,645.62E,645.645,645.649,645.64A,646.62C,646.62D,646.62E
    FC4E-FC57=646.645,646.649,646.64A,647.62C,647.645,647.649,647.64A,64A.62C,64A.62D,64A.62E
    FC58-FC5F=64A.645,64A.649,64A.64A,630.670,631.670,649.670,20.64C.651,20.64D.651
    FC60-FC67=20.64E.651,20.64F.651,20.650.651,20.651.670,626.631,626.632,626.645,626.646
    FC68-FC71=626.649,626.64A,628.631,628.632,628.645,628.646,628.649,628.64A,62A.631,62A.632
    FC72-FC7B=62A.645,62A.646,62A.649,62A.64A,62B.631,62B.632,62B.645,62B.646,62B.649,62B.64A
    FC7C-FC85=641.649,641.64A,642.649,642.64A,643.627,643.644,643.645,643.649,643.64A,644.645
    FC86-FC8F=644.649,644.64A,645.627,645.645,646.631,646.632,646.645,646.646,646.649,646.64A
    FC90-FC99=649.670,64A.631,64A.632,64A.645,64A.646,64A.649,64A.64A,626.62C,626.62D,626.62E
    FC9A-FCA3=626.645,626.647,628.62C,628.62D,628.62E,628.645,628.647,62A.62C,62A.62D,62A.62E
    FCA4-FCAD=62A.645,62A.647,62B.645,62C.62D,62C.645,62D.62C,62D.645,62E.62C,62E.645,633.62C
    FCAE-FCB7=633.62D,633.62E,633.645,635.62D,635.62E,635.645,636.62C,636.62D,636.62E,636.645
    FCB8-FCC1=637.62D,638.645,639.62C,639.645,63A.62C,63A.645,641.62C,641.62D,641.62E,641.645
    FCC2-FCCB=642.62D,642.645,643.62C,643.62D,643.62E,643.644,643.645,644.62C,644.62D,644.62E
    FCCC-FCD5=644.645,644.647,645.62C,645.62D,645.62E,645.645,646.62C,646.62D,646.62E,646.645
    FCD6-FCDF=646.647,647.62C,647.645,647.670,64A.62C,64A.62D,64A.62E,64A.645,64A.647,626.645
    FCE0-FCE9=626.647,628.645,628.647,62A.645,62A.647,62B.645,62B.647,633.645,633.647,634.645
    FCEA-FCF2=634.647,643.644,643.645,644.645,646.645,646.647,64A.645,64A.647,640.64E.651
    FCF3-FCFB=640.64F.651,640.650.651,637.649,637.64A,639.649,639.64A,63A.649,63A.64A,633.649
    FCFC-FD05=633.64A,634.649,634.64A,62D.649,62D.64A,62C.649,62C.64A,62E.649,62E.64A,635.649
    FD06-FD0F=635.64A,636.649,636.64A,634.62C,634.62D,634.62E,634.645,634.631,633.631,635.631
    FD10-FD19=636.631,637.649,637.64A,639.649,639.64A,63A.649,63A.64A,633.649,633.64A,634.649
    FD1A-FD23=634.64A,62D.649,62D.64A,62C.649,62C.64A,62E.649,62E.64A,635.649,635.64A,636.649
    FD24-FD2D=636.64A,634.62C,634.62D,634.62E,634.645,634.631,633.631,635.631,636.631,634.62C
    FD2E-FD37=634.62D,634.62E,634.645,633.647,634.647,637.645,633.62C,633.62D,633.62E,634.62C
    FD38-FD3D=634.62D,634.62E,637.645,638.645,627.64B,627.64B FD3E-FD4F
    FD50-FD55=62A.62C.645,62A.62D.62C,62A.62D.62C,62A.62D.645,62A.62E.645,62A.645.62C
    FD56-FD5B=62A.645.62D,62A.645.62E,62C.645.62D,62C.645.62D,62D.645.64A,62D.645.649
    FD5C-FD61=633.62D.62C,633.62C.62D,633.62C.649,633.645.62D,633.645.62D,633.645.62C
    FD62-FD67=633.645.645,633.645.645,635.62D.62D,635.62D.62D,635.645.645,634.62D.645
    FD68-FD6D=634.62D.645,634.62C.64A,634.645.62E,634.645.62E,634.645.645,634.645.645
    FD6E-FD73=636.62D.649,636.62E.645,636.62E.645,637.645.62D,637.645.62D,637.645.645
    FD74-FD79=637.645.64A,639.62C.645,639.645.645,639.645.645,639.645.649,63A.645.645
    FD7A-FD7F=63A.645.64A,63A.645.649,641.62E.645,641.62E.645,642.645.62D,642.645.645
    FD80-FD85=644.62D.645,644.62D.64A,644.62D.649,644.62C.62C,644.62C.62C,644.62E.645
    FD86-FD8B=644.62E.645,644.645.62D,644.645.62D,645.62D.62C,645.62D.645,645.62D.64A
    FD8C-FD8F=645.62C.62D,645.62C.645,645.62E.62C,645.62E.645 FD90-FD91
    FD92-FD97=645.62C.62E,647.645.62C,647.645.645,646.62D.645,646.62D.649,646.62C.645
    FD98-FD9D=646.62C.645,646.62C.649,646.645.64A,646.645.649,64A.645.645,64A.645.645
    FD9E-FDA3=628.62E.64A,62A.62C.64A,62A.62C.649,62A.62E.64A,62A.62E.649,62A.645.64A
    FDA4-FDA9=62A.645.649,62C.645.64A,62C.62D.649,62C.645.649,633.62E.649,635.62D.64A
    FDAA-FDAF=634.62D.64A,636.62D.64A,644.62C.64A,644.645.64A,64A.62D.64A,64A.62C.64A
    FDB0-FDB5=64A.645.64A,645.645.64A,642.645.64A,646.62D.64A,642.645.62D,644.62D.645
    FDB6-FDBB=639.645.64A,643.645.64A,646.62C.62D,645.62E.64A,644.62C.645,643.645.645
    FDBC-FDC1=644.62C.645,646.62C.62D,62C.62D.64A,62D.62C.64A,645.62C.64A,641.645.64A
    FDC2-FDC7=628.62D.64A,643.645.645,639.62C.645,635.645.645,633.62E.64A,646.62C.64A FDC8-FDCF
    FDF0-FDF4=635.644.6D2,642.644.6D2,627.644.644.647,627.643.628.631,645.62D.645.62F
    FDF5-FDF9=635.644.639.645,631.633.648.644,639.644.64A.647,648.633.644.645,635.644.649
    FDFA=635.644.649.20.627.644.644.647.20.639.644.64A.647.20.648.633.644.645
    FDFB-FDFC=62C.644.20.62C.644.627.644.647,631.6CC.627.644 FDFD-FDFF FE00-FE0F! FE10-FE11=2C,3001
    FE13-FE18=3A,3B,21,3F,3016,3017 FE20-FE2F
    FE31-FE40=2014,2013,5F,5F,28,29,7B,7D,3014,3015,3010,3011,300A,300B,3008,3009 FE41-FE44~CE35 FE45-FE46
    FE47-FE51=5B,5D,20.305,20.305,20.305,20.305,5F,5F,5F,2C,3001
    FE54-FE66=3B,3A,3F,21,2014,28,29,7B,7D,3014,3015,23,26,2A,2B,2D,3C,3E,3D FE68-FE6B=5C,24,25,40
    FE70-FE72=20.64B,640.64B,20.64C FE73 FE74=20.64D
    FE76-FE80=20.64E,640.64E,20.64F,640.64F,20.650,640.650,20.651,640.651,20.652,640.652,621
    FE81-FE94=622,622,623,623,624,624,625,625,626,626,626,626,627,627,628,628,628,628,629,629
    FE95-FEA8=62A,62A,62A,62A,62B,62B,62B,62B,62C,62C,62C,62C,62D,62D,62D,62D,62E,62E,62E,62E
    FEA9-FEBC=62F,62F,630,630,631,631,632,632,633,633,633,633,634,634,634,634,635,635,635,635
    FEBD-FED0=636,636,636,636,637,637,637,637,638,638,638,638,639,639,639,639,63A,63A,63A,63A
    FED1-FEE4=641,641,641,641,642,642,642,642,643,643,643,643,644,644,644,644,645,645,645,645
    FEE5-FEF6=646,646,646,646,647,647,647,647,648,648,649,649,64A,64A,64A,64A,644.622,644.622
    FEF7-FEFC=644.623,644.623,644.625,644.625,644.627,644.627 FEFF! FF01-FF20~FEE0 FF21-FF3A~FEC0 FF3B-FF5E~FEE0
    FF5F-FF6E=2985,2986,2E,300C,300D,3001,30FB,30F2,30A1,30A3,30A5,30A7,30A9,30E3,30E5,30E7
    FF6F-FF7E=30C3,30FC,30A2,30A4,30A6,30A8,30AA,30AB,30AD,30AF,30B1,30B3,30B5,30B7,30B9,30BB
    FF7F-FF84=30BD,30BF,30C1,30C4,30C6,30C8 FF85-FF8A~CEBB FF8B-FF8E=30D2,30D5,30D8,30DB FF8F-FF93~CEB1
    FF94-FF95=30E4,30E6 FF96-FF9B~CEAE FF9C-FF9F=30EF,30F3,3099,309A FFA0!
    FFA1-FFA9=1100,1101,11AA,1102,11AC,11AD,1103,1104,1105 FFAA-FFAF~EDFA FFB0-FFB4=111A,1106,1107,1108,1121
    FFB5-FFBE~EEAC FFC2-FFC7~EE61 FFCA-FFCF~EE63 FFD2-FFD7~EE65 FFDA-FFDC=1173,1174,1175
    FFE0-FFE6=A2,A3,AC,20.304,A6,A5,20A9 FFE8=2502 FFE9-FFEC~DE59 FFED-FFEE=25A0,25CB 10000-1000B 1000D-10026
    10028-1003A 1003C-1003D 1003F-1004D 10050-1005D 10080-100FA 10100-10102 10107-10133 10137-1018E 10190-1019C
    101A0 101D0-101FD 10280-1029C 102A0-102D0 102E0-102FB 10300-10323 1032D-1034A 10350-1037A 10380-1039D
    1039F-103C3 103C8-103D5 10400-10427+28 10428-1049D 104A0-104A9 104B0-104D3+28 104D8-104FB 10500-10527
    10530-10563 1056F 10570-1057A+27 1057C-1058A+27 1058C-10592+27 10594-10595=105BB,105BC 10597-105A1 105A3-105B1
    105B3-105B9 105BB-105BC 105C0-105F3 10600-10736 10740-10755 10760-10767 10780 10781-10785=2D0,2D1,E6,299,253
    10787-10799=2A3,AB66,2A5,2A4,256,257,1D91,258,25E,2A9,264,262,260,29B,127,29C,267,284,2AA
    1079A-107AB=2AB,26C,1DF04,A78E,26E,1DF05,28E,1DF06,F8,276,277,71,27A,1DF08,27D,27E,280,2A8
    107AC-107B0=2A6,AB67,2A7,288,2C71 107B2-107BA=28F,2A1,2A2,298,1C0,1C1,1C2,1DF0A,1DF1E 10800-10805 10808
    1080A-10835 10837-10838 1083C 1083F-10855 10857-1089E 108A7-108AF 108E0-108F2 108F4-108F5 108FB-1091B
    1091F-10939 1093F-10959 10980-109B7 109BC-109CF 109D2-10A03 10A05-10A06 10A0C-10A13 10A15-10A17 10A19-10A35
    10A38-10A3A 10A3F-10A48 10A50-10A58 10A60-10A9F 10AC0-10AE6 10AEB-10AF6 10B00-10B35 10B39-10B55 10B58-10B72
    10B78-10B91 10B99-10B9C 10BA9-10BAF 10C00-10C48 10C80-10CB2+40 10CC0-10CF2 10CFA-10D27 10D30-10D39 10D40-10D4F
    10D50-10D65+20 10D69-10D85 10D8E-10D8F 10E60-10E7E 10E80-10EA9 10EAB-10EAD 10EB0-10EB1 10EC2-10EC7 10ED0-10ED8
    10EFA-10F27 10F30-10F59 10F70-10F89 10FB0-10FCB 10FE0-10FF6 11000-1104D 11052-11075 1107F-110BC 110BE-110C2
    110D0-110E8 110F0-110F9 11100-11134 11136-11147 11150-11176 11180-111DF 111E1-111F4 11200-11211 11213-11241
    11280-11286 11288 1128A-1128D 1128F-1129D 1129F-112A9 112B0-112EA 112F0-112F9 11300-11303 11305-1130C
    1130F-11310 11313-11328 1132A-11330 11332-11333 11335-11339 1133B-11344 11347-11348 1134B-1134D 11350 11357
    1135D-11363 11366-1136C 11370-11374 11380-11389 1138B 1138E 11390-113B5 113B7-113C0 113C2 113C5 113C7-113CA
    113CC-113D5 113D7-113D8 113E1-113E2 11400-1145B 1145D-11461 11480-114C7 114D0-114D9 11580-115B5 115B8-115DD
    11600-11644 11650-11659 11660-1166C 11680-116B9 116C0-116C9 116D0-116E3 11700-1171A 1171D-1172B 11730-11746
    11800-1183B 118A0-118BF+20 118C0-118F2 118FF-11906 11909 1190C-11913 11915-11916 11918-11935 11937-11938
    1193B-11946 11950-11959 119A0-119A7 119AA-119D7 119DA-119E4 11A00-11A47 11A50-11AA2 11AB0-11AF8 11B00-11B09
    11B60-11B67 11BC0-11BE1 11BF0-11BF9 11C00-11C08 11C0A-11C36 11C38-11C45 11C50-11C6C 11C70-11C8F 11C92-11CA7
    11CA9-11CB6 11D00-11D06 11D08-11D09 11D0B-11D36 11D3A 11D3C-11D3D 11D3F-11D47 11D50-11D59 11D60-11D65
    11D67-11D68 11D6A-11D8E 11D90-11D91 11D93-11D98 11DA0-11DA9 11DB0-11DDB 11DE0-11DE9 11EE0-11EF8 11F00-11F10
    11F12-11F3A 11F3E-11F5A 11FB0 11FC0-11FF1 11FFF-12399 12400-1246E 12470-12474 12480-12543 12F90-12FF2
    13000-1342F 13440-13455 13460-143FA 14400-14646 16100-16139 16800-16A38 16A40-16A5E 16A60-16A69 16A6E-16ABE
    16AC0-16AC9 16AD0-16AED 16AF0-16AF5 16B00-16B45 16B50-16B59 16B5B-16B61 16B63-16B77 16B7D-16B8F 16D40-16D79
    16E40-16E5F+20 16E60-16E9A 16EA0-16EB8+1B 16EBB-16ED3 16F00-16F4A 16F4F-16F87 16F8F-16F9F 16FE0-16FE4
    16FF0-16FF6 17000-18CD5 18CFF-18D1E 18D80-18DF2 1AFF0-1AFF3 1AFF5-1AFFB 1AFFD-1AFFE 1B000-1B122 1B132
    1B150-1B152 1B155 1B164-1B167 1B170-1B2FB 1BC00-1BC6A 1BC70-1BC7C 1BC80-1BC88 1BC90-1BC99 1BC9C-1BC9F
    1BCA0-1BCA3! 1CC00-1CCD5 1CCD6-1CCEF~1CC75 1CCF0-1CCF9~1CCC0 1CCFA-1CCFC 1CD00-1CEB3 1CEBA-1CED0 1CEE0-1CEF0
    1CF00-1CF2D 1CF30-1CF46 1CF50-1CFC3 1D000-1D0F5 1D100-1D126 1D129-1D172 1D173-1D17A! 1D17B-1D1EA 1D200-1D245
    1D2C0-1D2D3 1D2E0-1D2F3 1D300-1D356 1D360-1D378 1D400-1D419~1D39F 1D41A-1D433~1D3B9 1D434-1D44D~1D3D3
    1D44E-1D454~1D3ED 1D456-1D467~1D3ED 1D468-1D481~1D407 1D482-1D49B~1D421 1D49C=61 1D49E-1D49F=63,64 1D4A2=67
    1D4A5-1D4A6=6A,6B 1D4A9-1D4AC~1D43B 1D4AE-1D4B5~1D43B 1D4B6-1D4B9~1D455 1D4BB=66 1D4BD-1D4C3~1D455
    1D4C5-1D4CF~1D455 1D4D0-1D4E9~1D46F 1D4EA-1D503~1D489 1D504-1D505=61,62 1D507-1D50A~1D4A3 1D50D-1D514~1D4A3
    1D516-1D51C~1D4A3 1D51E-1D537~1D4BD 1D538-1D539=61,62 1D53B-1D53E~1D4D7 1D540-1D544~1D4D7 1D546=6F
    1D54A-1D550~1D4D7 1D552-1D56B~1D4F1 1D56C-1D585~1D50B 1D586-1D59F~1D525 1D5A0-1D5B9~1D53F 1D5BA-1D5D3~1D559
    1D5D4-1D5ED~1D573 1D5EE-1D607~1D58D 1D608-1D621~1D5A7 1D622-1D63B~1D5C1 1D63C-1D655~1D5DB 1D656-1D66F~1D5F5
    1D670-1D689~1D60F 1D68A-1D6A3~1D629 1D6A4-1D6A5=131,237 1D6A8-1D6B8~1D2F7 1D6B9=3B8 1D6BA-1D6C0~1D2F7 1D6C1=2207
    1D6C2-1D6D2~1D311 1D6D3=3C3 1D6D4-1D6DA~1D311 1D6DB-1D6E1=2202,3B5,3B8,3BA,3C6,3C1,3C0 1D6E2-1D6F2~1D331
    1D6F3=3B8 1D6F4-1D6FA~1D331 1D6FB=2207 1D6FC-1D70C~1D34B 1D70D=3C3 1D70E-1D714~1D34B
    1D715-1D71B=2202,3B5,3B8,3BA,3C6,3C1,3C0 1D71C-1D72C~1D36B 1D72D=3B8 1D72E-1D734~1D36B 1D735=2207
    1D736-1D746~1D385 1D747=3C3 1D748-1D74E~1D385 1D74F-1D755=2202,3B5,3B8,3BA,3C6,3C1,3C0 1D756-1D766~1D3A5
    1D767=3B8 1D768-1D76E~1D3A5 1D76F=2207 1D770-1D780~1D3BF 1D781=3C3 1D782-1D788~1D3BF
    1D789-1D78F=2202,3B5,3B8,3BA,3C6,3C1,3C0 1D790-1D7A0~1D3DF 1D7A1=3B8 1D7A2-1D7A8~1D3DF 1D7A9=2207
    1D7AA-1D7BA~1D3F9 1D7BB=3C3 1D7BC-1D7C2~1D3F9 1D7C3-1D7CB=2202,3B5,3B8,3BA,3C6,3C1,3C0,3DD,3DD 1D7CE-1D7D7~1D79E
    1D7D8-1D7E1~1D7A8 1D7E2-1D7EB~1D7B2 1D7EC-1D7F5~1D7BC 1D7F6-1D7FF~1D7C6 1D800-1DA8B 1DA9B-1DA9F 1DAA1-1DAAF
    1DF00-1DF1E 1DF25-1DF2A 1E000-1E006 1E008-1E018 1E01B-1E021 1E023-1E024 1E026-1E02A 1E030-1E038~1DC00
    1E039-1E03B=43A,43B,43C 1E03C-1E046~1DBFE 1E047-1E050=44B,44D,44E,A689,4D9,456,458,4E9,4AF,4CF 1E051-1E059~1DC21
    1E05A-1E05E=43A,43B,43E,43F,441 1E05F-1E064~1DC1C 1E065-1E06D=44A,44B,491,456,455,45F,4AB,A651,4B1 1E08F
    1E100-1E12C 1E130-1E13D 1E140-1E149 1E14E-1E14F 1E290-1E2AE 1E2C0-1E2F9 1E2FF 1E4D0-1E4F9 1E5D0-1E5FA 1E5FF
    1E6C0-1E6DE 1E6E0-1E6F5 1E6FE-1E6FF 1E7E0-1E7E6 1E7E8-1E7EB 1E7ED-1E7EE 1E7F0-1E7FE 1E800-1E8C4 1E8C7-1E8D6
    1E900-1E921+22 1E922-1E94B 1E950-1E959 1E95E-1E95F 1EC71-1ECB4 1ED01-1ED3D 1EE00-1EE03=627,628,62C,62F
    1EE05-1EE09=648,632,62D,637,64A 1EE0A-1EE0D~1E7C7
    1EE0E-1EE1F=633,639,641,635,642,631,634,62A,62B,62E,630,636,638,63A,66E,6BA,6A1,66F 1EE21-1EE22=628,62C
    1EE24=647 1EE27=62D 1EE29=64A 1EE2A-1EE2D~1E7E7 1EE2E-1EE32=633,639,641,635,642 1EE34-1EE37=634,62A,62B,62E
    1EE39=636 1EE3B=63A 1EE42=62C 1EE47=62D 1EE49=64A 1EE4B=644 1EE4D-1EE4F=646,633,639 1EE51-1EE52=635,642
    1EE54=634 1EE57=62E 1EE59=636 1EE5B=63A 1EE5D=6BA 1EE5F=66F 1EE61-1EE62=628,62C 1EE64=647
    1EE67-1EE6A=62D,637,64A,643 1EE6C-1EE72=645,646,633,639,641,635,642 1EE74-1EE77=634,62A,62B,62E
    1EE79-1EE7C=636,638,63A,66E 1EE7E=6A1 1EE80-1EE89=627,628,62C,62F,647,648,632,62D,637,64A
    1EE8B-1EE9B=644,645,646,633,639,641,635,642,631,634,62A,62B,62E,630,636,638,63A 1EEA1-1EEA3=628,62C,62F
    1EEA5-1EEA9=648,632,62D,637,64A 1EEAB-1EEBB=644,645,646,633,639,641,635,642,631,634,62A,62B,62E,630,636,638,63A
    1EEF0-1EEF1 1F000-1F02B 1F030-1F093 1F0A0-1F0AE 1F0B1-1F0BF 1F0C1-1F0CF 1F0D1-1F0F5
    1F101-1F10A=30.2C,31.2C,32.2C,33.2C,34.2C,35.2C,36.2C,37.2C,38.2C,39.2C 1F10B-1F10F
    1F110-1F117=28.61.29,28.62.29,28.63.29,28.64.29,28.65.29,28.66.29,28.67.29,28.68.29
    1F118-1F11F=28.69.29,28.6A.29,28.6B.29,28.6C.29,28.6D.29,28.6E.29,28.6F.29,28.70.29
    1F120-1F127=28.71.29,28.72.29,28.73.29,28.74.29,28.75.29,28.76.29,28.77.29,28.78.29
    1F128-1F12E=28.79.29,28.7A.29,3014.73.3015,63,72,63.64,77.7A 1F12F 1F130-1F149~1F0CF
    1F14A-1F14F=68.76,6D.76,73.64,73.73,70.70.76,77.63 1F150-1F169 1F16A-1F16C=6D.63,6D.64,6D.72 1F16D-1F18F
    1F190=64.6A 1F191-1F1AD 1F1E6-1F1FF 1F200-1F202=307B.304B,30B3.30B3,30B5
    1F210-1F21F=624B,5B57,53CC,30C7,4E8C,591A,89E3,5929,4EA4,6620,7121,6599,524D,5F8C,518D,65B0
    1F220-1F22F=521D,7D42,751F,8CA9,58F0,5439,6F14,6295,6355,4E00,4E09,904A,5DE6,4E2D,53F3,6307
    1F230-1F23B=8D70,6253,7981,7A7A,5408,6E80,6709,6708,7533,5272,55B6,914D
    1F240-1F244=3014.672C.3015,3014.4E09.3015,3014.4E8C.3015,3014.5B89.3015,3014.70B9.3015
    1F245-1F248=3014.6253.3015,3014.76D7.3015,3014.52DD.3015,3014.6557.3015 1F250-1F251=5F97,53EF 1F260-1F265
    1F300-1F6D8 1F6DC-1F6EC 1F6F0-1F6FC 1F700-1F7D9 1F7E0-1F7EB 1F7F0 1F800-1F80B 1F810-1F847 1F850-1F859
    1F860-1F887 1F890-1F8AD 1F8B0-1F8BB 1F8C0-1F8C1 1F8D0-1F8D8 1F900-1FA57 1FA60-1FA6D 1FA70-1FA7C 1FA80-1FA8A
    1FA8E-1FAC6 1FAC8 1FACD-1FADC 1FADF-1FAEA 1FAEF-1FAF8 1FB00-1FB92 1FB94-1FBEF 1FBF0-1FBF9~1FBC0 1FBFA
    20000-2A6DF 2A700-2B81D 2B820-2CEAD 2CEB0-2EBE0 2EBF0-2EE5D 2F800-2F830 2F831-2F833=537F,537F,537F 2F834-2F844
    2F845-2F846=5584,5584 2F847-2F869 2F86A-2F86B=5B3E,5B3E 2F86C-2F890 2F891-2F892=22331,22331 2F893
    2F894-2F895=5F22,5F22 2F896-2F92B 2F92C-2F92D=3EB8,3EB8 2F92E-2F945 2F946-2F947=771F,771F 2F948-2F95C
    2F95D-2F95E=25AA7,25AA7 2F95F-2F9FD 2F9FE-2F9FF=980B,980B 2FA00-2FA1D 30000-3134A 31350-33479 E0100-E01EF!"

def mappingSpans : List Span := spans mappingTable

/-- What the note on a span makes of a code point in it. -/
def replacement (span : Span) (code : Nat) : List Char :=
  match span.note with
  | '!' :: _ => []
  | '*' :: _ => [Char.ofNat (if (code - span.first) % 2 = 0 then code + 1 else code)]
  | '+' :: offset => [Char.ofNat (code + hexNumber offset)]
  | '~' :: offset => [Char.ofNat (code - hexNumber offset)]
  | '=' :: texts => listed span texts code
  | _ => [Char.ofNat code]

/-- What a character is mapped to, unless it is not allowed. -/
def mapped? (c : Char) : Option (List Char) :=
  if c.toNat < 0x80 then some [c.toLower]
  else (find? mappingSpans c.toNat).map (replacement · c.toNat)

/-- Whether a character may stand in a host name as it is. -/
def isKept (c : Char) : Bool := mapped? c = some [c]

end SingleFlight.Unicode
