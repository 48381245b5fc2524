import Federation.Text.Unicode.Table

/-!
# Composition

The one form of a text whose letters and marks can be written together or apart (NFC): letters are
taken apart, the marks of each are put in order, and what goes together is put together again.

    composed ['e', acute] = ['é']

The pairs are those of names, so of large letters there are none.
-/

namespace Federation.Text.Unicode

/-! ## Data -/

/-- The classes of marks, which say in what order the marks of one letter stand. -/
def classes : List Entry := table "
300-314=E6 315=E8 316-319=DC 31A=E8 31B=D8 31C-320=DC 321-322=CA 323-326=DC 327-328=CA 329-333=DC
334-338=1 339-33C=DC 33D-33F=E6 342=E6 346=E6 347-349=DC 34A-34C=E6 34D-34E=DC 350-352=E6 353-356=DC
357=E6 358=E8 359-35A=DC 35B=E6 35C=E9 35D-35E=EA 35F=E9 360-361=EA 362=E9 363-36F=E6 483-487=E6
591=DC 592-595=E6 596=DC 597-599=E6 59A=DE 59B=DC 59C-5A1=E6 5A2-5A7=DC 5A8-5A9=E6 5AA=DC 5AB-5AC=E6
5AD=DE 5AE=E4 5AF=E6 5B0=A 5B1=B 5B2=C 5B3=D 5B4=E 5B5=F 5B6=10 5B7=11 5B8=12 5B9-5BA=13 5BB=14
5BC=15 5BD=16 5BF=17 5C1=18 5C2=19 5C4=E6 5C5=DC 5C7=12 610-617=E6 618=1E 619=1F 61A=20 64B=1B
64C=1C 64D=1D 64E=1E 64F=1F 650=20 651=21 652=22 653-654=E6 655-656=DC 657-65B=E6 65C=DC 65D-65E=E6
65F=DC 670=23 6D6-6DC=E6 6DF-6E2=E6 6E3=DC 6E4=E6 6E7-6E8=E6 6EA=DC 6EB-6EC=E6 6ED=DC 711=24 730=E6
731=DC 732-733=E6 734=DC 735-736=E6 737-739=DC 73A=E6 73B-73C=DC 73D=E6 73E=DC 73F-741=E6 742=DC
743=E6 744=DC 745=E6 746=DC 747=E6 748=DC 749-74A=E6 7EB-7F1=E6 7F2=DC 7F3=E6 7FD=DC 816-819=E6
81B-823=E6 825-827=E6 829-82D=E6 859-85B=DC 898=E6 899-89B=DC 89C-89F=E6 8CA-8CE=E6 8CF-8D3=DC
8D4-8E1=E6 8E3=DC 8E4-8E5=E6 8E6=DC 8E7-8E8=E6 8E9=DC 8EA-8EC=E6 8ED-8EF=DC 8F0=1B 8F1=1C 8F2=1D
8F3-8F5=E6 8F6=DC 8F7-8F8=E6 8F9-8FA=DC 8FB-8FF=E6 93C=7 94D=9 951=E6 952=DC 953-954=E6 9BC=7 9CD=9
9FE=E6 A3C=7 A4D=9 ABC=7 ACD=9 B3C=7 B4D=9 BCD=9 C3C=7 C4D=9 C55=54 C56=5B CBC=7 CCD=9 D3B-D3C=9
D4D=9 DCA=9 E38-E39=67 E3A=9 E48-E4B=6B EB8-EB9=76 EBA=9 EC8-ECB=7A F18-F19=DC F35=DC F37=DC F39=D8
F71=81 F72=82 F74=84 F7A-F7D=82 F80=82 F82-F83=E6 F84=9 F86-F87=E6 FC6=DC 1037=7 1039-103A=9 108D=DC
135D-135F=E6 1714-1715=9 1734=9 17D2=9 17DD=E6 18A9=E4 1939=DE 193A=E6 193B=DC 1A17=E6 1A18=DC
1A60=9 1A75-1A7C=E6 1A7F=DC 1AB0-1AB4=E6 1AB5-1ABA=DC 1ABB-1ABC=E6 1ABD=DC 1ABF-1AC0=DC 1AC1-1AC2=E6
1AC3-1AC4=DC 1AC5-1AC9=E6 1ACA=DC 1ACB-1ACE=E6 1B34=7 1B44=9 1B6B=E6 1B6C=DC 1B6D-1B73=E6
1BAA-1BAB=9 1BE6=7 1BF2-1BF3=9 1C37=7 1CD0-1CD2=E6 1CD4=1 1CD5-1CD9=DC 1CDA-1CDB=E6 1CDC-1CDF=DC
1CE0=E6 1CE2-1CE8=1 1CED=DC 1CF4=E6 1CF8-1CF9=E6 1DC0-1DC1=E6 1DC2=DC 1DC3-1DC9=E6 1DCA=DC
1DCB-1DCC=E6 1DCD=EA 1DCE=D6 1DCF=DC 1DD0=CA 1DD1-1DF5=E6 1DF6=E8 1DF7-1DF8=E4 1DF9=DC 1DFA=DA
1DFB=E6 1DFC=E9 1DFD=DC 1DFE=E6 1DFF=DC 20D0-20D1=E6 20D2-20D3=1 20D4-20D7=E6 20D8-20DA=1
20DB-20DC=E6 20E1=E6 20E5-20E6=1 20E7=E6 20E8=DC 20E9=E6 20EA-20EB=1 20EC-20EF=DC 20F0=E6
2CEF-2CF1=E6 2D7F=9 2DE0-2DFF=E6 302A=DA 302B=E4 302C=E8 302D=DE 302E-302F=E0 3099-309A=8 A66F=E6
A674-A67D=E6 A69E-A69F=E6 A6F0-A6F1=E6 A806=9 A82C=9 A8C4=9 A8E0-A8F1=E6 A92B-A92D=DC A953=9 A9B3=7
A9C0=9 AAB0=E6 AAB2-AAB3=E6 AAB4=DC AAB7-AAB8=E6 AABE-AABF=E6 AAC1=E6 AAF6=9 ABED=9 FB1E=1A
FE20-FE26=E6 FE27-FE2D=DC FE2E-FE2F=E6 101FD=DC 102E0=DC 10376-1037A=E6 10A0D=DC 10A0F=E6 10A38=E6
10A39=1 10A3A=DC 10A3F=9 10AE5=E6 10AE6=DC 10D24-10D27=E6 10EAB-10EAC=E6 10F46-10F47=DC
10F48-10F4A=E6 10F4B=DC 10F4C=E6 10F4D-10F50=DC 10F82=E6 10F83=DC 10F84=E6 10F85=DC 11046=9 11070=9
1107F=9 110B9=9 110BA=7 11100-11102=E6 11133-11134=9 11173=7 111C0=9 111CA=7 11235=9 11236=7 112E9=7
112EA=9 1133B-1133C=7 1134D=9 11366-1136C=E6 11370-11374=E6 11442=9 11446=7 1145E=E6 114C2=9 114C3=7
115BF=9 115C0=7 1163F=9 116B6=9 116B7=7 1172B=9 11839=9 1183A=7 1193D-1193E=9 11943=7 119E0=9
11A34=9 11A47=9 11A99=9 11C3F=9 11D42=7 11D44-11D45=9 11D97=9 16AF0-16AF4=1 16B30-16B36=E6
16FF0-16FF1=6 1BC9E=1 1D165-1D166=D8 1D167-1D169=1 1D16D=E2 1D16E-1D172=D8 1D17B-1D182=DC
1D185-1D189=E6 1D18A-1D18B=DC 1D1AA-1D1AD=E6 1D242-1D244=E6 1E000-1E006=E6 1E008-1E018=E6
1E01B-1E021=E6 1E023-1E024=E6 1E026-1E02A=E6 1E130-1E136=E6 1E2AE=E6 1E2EC-1E2EF=E6 1E8D0-1E8D6=DC
1E944-1E949=E6 1E94A=7
"

/-- The characters that a character and a mark, or two other characters, make together. -/
def pairs : List Entry := table "
E0=0061,0300 E1=0061,0301 E2=0061,0302 E3=0061,0303 E4=0061,0308 E5=0061,030A E7=0063,0327
E8=0065,0300 E9=0065,0301 EA=0065,0302 EB=0065,0308 EC=0069,0300 ED=0069,0301 EE=0069,0302
EF=0069,0308 F1=006E,0303 F2=006F,0300 F3=006F,0301 F4=006F,0302 F5=006F,0303 F6=006F,0308
F9=0075,0300 FA=0075,0301 FB=0075,0302 FC=0075,0308 FD=0079,0301 FF=0079,0308 101=0061,0304
103=0061,0306 105=0061,0328 107=0063,0301 109=0063,0302 10B=0063,0307 10D=0063,030C 10F=0064,030C
113=0065,0304 115=0065,0306 117=0065,0307 119=0065,0328 11B=0065,030C 11D=0067,0302 11F=0067,0306
121=0067,0307 123=0067,0327 125=0068,0302 129=0069,0303 12B=0069,0304 12D=0069,0306 12F=0069,0328
135=006A,0302 137=006B,0327 13A=006C,0301 13C=006C,0327 13E=006C,030C 144=006E,0301 146=006E,0327
148=006E,030C 14D=006F,0304 14F=006F,0306 151=006F,030B 155=0072,0301 157=0072,0327 159=0072,030C
15B=0073,0301 15D=0073,0302 15F=0073,0327 161=0073,030C 163=0074,0327 165=0074,030C 169=0075,0303
16B=0075,0304 16D=0075,0306 16F=0075,030A 171=0075,030B 173=0075,0328 175=0077,0302 177=0079,0302
17A=007A,0301 17C=007A,0307 17E=007A,030C 1A1=006F,031B 1B0=0075,031B 1CE=0061,030C 1D0=0069,030C
1D2=006F,030C 1D4=0075,030C 1D6=00FC,0304 1D8=00FC,0301 1DA=00FC,030C 1DC=00FC,0300 1DF=00E4,0304
1E1=0227,0304 1E3=00E6,0304 1E7=0067,030C 1E9=006B,030C 1EB=006F,0328 1ED=01EB,0304 1EF=0292,030C
1F0=006A,030C 1F5=0067,0301 1F9=006E,0300 1FB=00E5,0301 1FD=00E6,0301 1FF=00F8,0301 201=0061,030F
203=0061,0311 205=0065,030F 207=0065,0311 209=0069,030F 20B=0069,0311 20D=006F,030F 20F=006F,0311
211=0072,030F 213=0072,0311 215=0075,030F 217=0075,0311 219=0073,0326 21B=0074,0326 21F=0068,030C
227=0061,0307 229=0065,0327 22B=00F6,0304 22D=00F5,0304 22F=006F,0307 231=022F,0304 233=0079,0304
390=03CA,0301 3AC=03B1,0301 3AD=03B5,0301 3AE=03B7,0301 3AF=03B9,0301 3B0=03CB,0301 3CA=03B9,0308
3CB=03C5,0308 3CC=03BF,0301 3CD=03C5,0301 3CE=03C9,0301 439=0438,0306 450=0435,0300 451=0435,0308
453=0433,0301 457=0456,0308 45C=043A,0301 45D=0438,0300 45E=0443,0306 477=0475,030F 4C2=0436,0306
4D1=0430,0306 4D3=0430,0308 4D7=0435,0306 4DB=04D9,0308 4DD=0436,0308 4DF=0437,0308 4E3=0438,0304
4E5=0438,0308 4E7=043E,0308 4EB=04E9,0308 4ED=044D,0308 4EF=0443,0304 4F1=0443,0308 4F3=0443,030B
4F5=0447,0308 4F9=044B,0308 622=0627,0653 623=0627,0654 624=0648,0654 625=0627,0655 626=064A,0654
6C0=06D5,0654 6C2=06C1,0654 6D3=06D2,0654 929=0928,093C 931=0930,093C 934=0933,093C 9CB=09C7,09BE
9CC=09C7,09D7 B48=0B47,0B56 B4B=0B47,0B3E B4C=0B47,0B57 B94=0B92,0BD7 BCA=0BC6,0BBE BCB=0BC7,0BBE
BCC=0BC6,0BD7 C48=0C46,0C56 CC0=0CBF,0CD5 CC7=0CC6,0CD5 CC8=0CC6,0CD6 CCA=0CC6,0CC2 CCB=0CCA,0CD5
D4A=0D46,0D3E D4B=0D47,0D3E D4C=0D46,0D57 DDA=0DD9,0DCA DDC=0DD9,0DCF DDD=0DDC,0DCA DDE=0DD9,0DDF
1026=1025,102E 1B06=1B05,1B35 1B08=1B07,1B35 1B0A=1B09,1B35 1B0C=1B0B,1B35 1B0E=1B0D,1B35
1B12=1B11,1B35 1B3B=1B3A,1B35 1B3D=1B3C,1B35 1B40=1B3E,1B35 1B41=1B3F,1B35 1B43=1B42,1B35
1E01=0061,0325 1E03=0062,0307 1E05=0062,0323 1E07=0062,0331 1E09=00E7,0301 1E0B=0064,0307
1E0D=0064,0323 1E0F=0064,0331 1E11=0064,0327 1E13=0064,032D 1E15=0113,0300 1E17=0113,0301
1E19=0065,032D 1E1B=0065,0330 1E1D=0229,0306 1E1F=0066,0307 1E21=0067,0304 1E23=0068,0307
1E25=0068,0323 1E27=0068,0308 1E29=0068,0327 1E2B=0068,032E 1E2D=0069,0330 1E2F=00EF,0301
1E31=006B,0301 1E33=006B,0323 1E35=006B,0331 1E37=006C,0323 1E39=1E37,0304 1E3B=006C,0331
1E3D=006C,032D 1E3F=006D,0301 1E41=006D,0307 1E43=006D,0323 1E45=006E,0307 1E47=006E,0323
1E49=006E,0331 1E4B=006E,032D 1E4D=00F5,0301 1E4F=00F5,0308 1E51=014D,0300 1E53=014D,0301
1E55=0070,0301 1E57=0070,0307 1E59=0072,0307 1E5B=0072,0323 1E5D=1E5B,0304 1E5F=0072,0331
1E61=0073,0307 1E63=0073,0323 1E65=015B,0307 1E67=0161,0307 1E69=1E63,0307 1E6B=0074,0307
1E6D=0074,0323 1E6F=0074,0331 1E71=0074,032D 1E73=0075,0324 1E75=0075,0330 1E77=0075,032D
1E79=0169,0301 1E7B=016B,0308 1E7D=0076,0303 1E7F=0076,0323 1E81=0077,0300 1E83=0077,0301
1E85=0077,0308 1E87=0077,0307 1E89=0077,0323 1E8B=0078,0307 1E8D=0078,0308 1E8F=0079,0307
1E91=007A,0302 1E93=007A,0323 1E95=007A,0331 1E96=0068,0331 1E97=0074,0308 1E98=0077,030A
1E99=0079,030A 1EA1=0061,0323 1EA3=0061,0309 1EA5=00E2,0301 1EA7=00E2,0300 1EA9=00E2,0309
1EAB=00E2,0303 1EAD=1EA1,0302 1EAF=0103,0301 1EB1=0103,0300 1EB3=0103,0309 1EB5=0103,0303
1EB7=1EA1,0306 1EB9=0065,0323 1EBB=0065,0309 1EBD=0065,0303 1EBF=00EA,0301 1EC1=00EA,0300
1EC3=00EA,0309 1EC5=00EA,0303 1EC7=1EB9,0302 1EC9=0069,0309 1ECB=0069,0323 1ECD=006F,0323
1ECF=006F,0309 1ED1=00F4,0301 1ED3=00F4,0300 1ED5=00F4,0309 1ED7=00F4,0303 1ED9=1ECD,0302
1EDB=01A1,0301 1EDD=01A1,0300 1EDF=01A1,0309 1EE1=01A1,0303 1EE3=01A1,0323 1EE5=0075,0323
1EE7=0075,0309 1EE9=01B0,0301 1EEB=01B0,0300 1EED=01B0,0309 1EEF=01B0,0303 1EF1=01B0,0323
1EF3=0079,0300 1EF5=0079,0323 1EF7=0079,0309 1EF9=0079,0303 1F00=03B1,0313 1F01=03B1,0314
1F02=1F00,0300 1F03=1F01,0300 1F04=1F00,0301 1F05=1F01,0301 1F06=1F00,0342 1F07=1F01,0342
1F10=03B5,0313 1F11=03B5,0314 1F12=1F10,0300 1F13=1F11,0300 1F14=1F10,0301 1F15=1F11,0301
1F20=03B7,0313 1F21=03B7,0314 1F22=1F20,0300 1F23=1F21,0300 1F24=1F20,0301 1F25=1F21,0301
1F26=1F20,0342 1F27=1F21,0342 1F30=03B9,0313 1F31=03B9,0314 1F32=1F30,0300 1F33=1F31,0300
1F34=1F30,0301 1F35=1F31,0301 1F36=1F30,0342 1F37=1F31,0342 1F40=03BF,0313 1F41=03BF,0314
1F42=1F40,0300 1F43=1F41,0300 1F44=1F40,0301 1F45=1F41,0301 1F50=03C5,0313 1F51=03C5,0314
1F52=1F50,0300 1F53=1F51,0300 1F54=1F50,0301 1F55=1F51,0301 1F56=1F50,0342 1F57=1F51,0342
1F60=03C9,0313 1F61=03C9,0314 1F62=1F60,0300 1F63=1F61,0300 1F64=1F60,0301 1F65=1F61,0301
1F66=1F60,0342 1F67=1F61,0342 1F70=03B1,0300 1F72=03B5,0300 1F74=03B7,0300 1F76=03B9,0300
1F78=03BF,0300 1F7A=03C5,0300 1F7C=03C9,0300 1FB0=03B1,0306 1FB1=03B1,0304 1FB6=03B1,0342
1FC6=03B7,0342 1FD0=03B9,0306 1FD1=03B9,0304 1FD2=03CA,0300 1FD6=03B9,0342 1FD7=03CA,0342
1FE0=03C5,0306 1FE1=03C5,0304 1FE2=03CB,0300 1FE4=03C1,0313 1FE5=03C1,0314 1FE6=03C5,0342
1FE7=03CB,0342 1FF6=03C9,0342 219A=2190,0338 219B=2192,0338 21AE=2194,0338 21CD=21D0,0338
21CE=21D4,0338 21CF=21D2,0338 2204=2203,0338 2209=2208,0338 220C=220B,0338 2224=2223,0338
2226=2225,0338 2241=223C,0338 2244=2243,0338 2247=2245,0338 2249=2248,0338 2260=003D,0338
2262=2261,0338 226D=224D,0338 226E=003C,0338 226F=003E,0338 2270=2264,0338 2271=2265,0338
2274=2272,0338 2275=2273,0338 2278=2276,0338 2279=2277,0338 2280=227A,0338 2281=227B,0338
2284=2282,0338 2285=2283,0338 2288=2286,0338 2289=2287,0338 22AC=22A2,0338 22AD=22A8,0338
22AE=22A9,0338 22AF=22AB,0338 22E0=227C,0338 22E1=227D,0338 22E2=2291,0338 22E3=2292,0338
22EA=22B2,0338 22EB=22B3,0338 22EC=22B4,0338 22ED=22B5,0338 304C=304B,3099 304E=304D,3099
3050=304F,3099 3052=3051,3099 3054=3053,3099 3056=3055,3099 3058=3057,3099 305A=3059,3099
305C=305B,3099 305E=305D,3099 3060=305F,3099 3062=3061,3099 3065=3064,3099 3067=3066,3099
3069=3068,3099 3070=306F,3099 3071=306F,309A 3073=3072,3099 3074=3072,309A 3076=3075,3099
3077=3075,309A 3079=3078,3099 307A=3078,309A 307C=307B,3099 307D=307B,309A 3094=3046,3099
309E=309D,3099 30AC=30AB,3099 30AE=30AD,3099 30B0=30AF,3099 30B2=30B1,3099 30B4=30B3,3099
30B6=30B5,3099 30B8=30B7,3099 30BA=30B9,3099 30BC=30BB,3099 30BE=30BD,3099 30C0=30BF,3099
30C2=30C1,3099 30C5=30C4,3099 30C7=30C6,3099 30C9=30C8,3099 30D0=30CF,3099 30D1=30CF,309A
30D3=30D2,3099 30D4=30D2,309A 30D6=30D5,3099 30D7=30D5,309A 30D9=30D8,3099 30DA=30D8,309A
30DC=30DB,3099 30DD=30DB,309A 30F4=30A6,3099 30F7=30EF,3099 30F8=30F0,3099 30F9=30F1,3099
30FA=30F2,3099 30FE=30FD,3099 1109A=11099,110BA 1109C=1109B,110BA 110AB=110A5,110BA
1112E=11131,11127 1112F=11132,11127 1134B=11347,1133E 1134C=11347,11357 114BB=114B9,114BA
114BC=114B9,114B0 114BE=114B9,114BD 115BA=115B8,115AF 115BB=115B9,115AF 11938=11935,11930
"

/-! ## Syllables -/

/-- The parts of a Hangul syllable: a first letter, a vowel, and a last letter if it has one. -/
def syllableParts? (n : Nat) : Option (List Nat) :=
  let i := n - 0xAC00
  if n < 0xAC00 ∨ 11172 ≤ i then none
  else
    let syllable := [0x1100 + i / 588, 0x1161 + i % 588 / 28]
    some (if i % 28 = 0 then syllable else syllable ++ [0x11A7 + i % 28])

/-- The Hangul syllable of a first letter and a vowel, or of a syllable and a last letter. -/
def syllable? (a b : Nat) : Option Nat :=
  if 0x1100 ≤ a ∧ a < 0x1113 ∧ 0x1161 ≤ b ∧ b < 0x1176 then
    some (0xAC00 + (a - 0x1100) * 588 + (b - 0x1161) * 28)
  else if 0xAC00 ≤ a ∧ a < 0xAC00 + 11172 ∧ (a - 0xAC00) % 28 = 0 ∧ 0x11A7 < b ∧ b < 0x11C3 then
    some (a + (b - 0x11A7))
  else none

/-! ## Algorithm -/

/-- The class of a character; letters are of class 0. -/
def markClass (c : Char) : Nat := ((lookUp? c classes).bind (·.note)).elim 0 Entry.number

/-- A character in parts, the first of which is taken apart again, `depth` times in all. -/
def apart : (depth : Nat) → Char → List Char
  | 0, c => [c]
  | depth + 1, c =>
    match syllableParts? c.toNat with
    | some parts => parts.map Char.ofNat
    | none =>
      match ((lookUp? c pairs).bind (·.note)).map Entry.numbers with
      | some (a :: rest) => apart depth (Char.ofNat a) ++ rest.map Char.ofNat
      | _ => [c]

/-- The character that two make together; the second of them is never one of the first letters. -/
def together? (a b : Char) : Option Char :=
  match syllable? a.toNat b.toNat with
  | some n => some (Char.ofNat n)
  | none =>
    if b.toNat < 0x300 then none
    else (pairs.find? fun e => e.note.map Entry.numbers = some [a.toNat, b.toNat]).map fun e =>
      Char.ofNat e.first

/-- Puts a mark at the end of a text, which is given backwards, before marks of greater class. -/
def insertMark (c : Char) : List Char → List Char
  | [] => [c]
  | d :: rest =>
    if 0 < markClass c ∧ markClass c < markClass d then d :: insertMark c rest else c :: d :: rest

/-- A text that is being put together: what is done, backwards, and the letter that waits for its
marks with those that did not go together with it, backwards. -/
structure Composing where
  done : List Char := []
  letter : Option Char := none
  marks : List Char := []

namespace Composing

def text (s : Composing) : List Char := s.marks ++ s.letter.toList ++ s.done

/-- No mark of the same class or a greater one stands between the letter and a character. -/
def isNear (s : Composing) (c : Char) : Bool :=
  match s.marks with
  | [] => true
  | d :: _ => markClass d < markClass c

/-- Takes the next character, together with the letter if they make one character. -/
def next (s : Composing) (c : Char) : Composing :=
  match (s.letter.filter fun _ => s.isNear c).bind fun a => together? a c with
  | some a => { s with letter := some a }
  | none =>
    if markClass c = 0 then { done := s.text, letter := some c }
    else { s with marks := c :: s.marks }

end Composing

/-- The composed form of a text. -/
def composed (s : List Char) : List Char :=
  let ordered := ((s.flatMap (apart 3)).foldl (fun done c => insertMark c done) []).reverse
  (ordered.foldl Composing.next {}).text.reverse

end Federation.Text.Unicode
