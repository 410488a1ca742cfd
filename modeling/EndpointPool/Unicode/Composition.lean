import EndpointPool.Unicode.Spans

/-!
# Composite characters

A composite character is equivalent to a character followed by marks, its decomposition, and
replaces them in composed text. Hangul syllables are composites by arithmetic: the syllables of a
leading consonant and a vowel are twenty-eight apart, and the trailing consonants count up from
them.

## Main definitions

* `decompose`: the full decomposition of a character
* `compose?`: the composite of two characters
-/

namespace EndpointPool.Unicode

/-- The decompositions of a span of composites, separated by commas. -/
private def readDecompositions (text : List Char) : Array (List Char) :=
  ((Text.pieces ',' (text.drop 1)).map fun d =>
    (Text.pieces '.' d).map fun code => Char.ofNat (Hex.value code)).toArray

/-- The composites other than Hangul syllables. -/
private def composites : Spans (Array (List Char)) := .ofText readDecompositions
  "00C0-00C5:0041.0300,0041.0301,0041.0302,0041.0303,0041.0308,0041.030A
    00C7-00CE:0043.0327,0045.0300,0045.0301,0045.0302,0045.0308,0049.0300,0049.0301,0049.0302
    00CF:0049.0308 00D1-00D6:004E.0303,004F.0300,004F.0301,004F.0302,004F.0303,004F.0308
    00D9-00DD:0055.0300,0055.0301,0055.0302,0055.0308,0059.0301
    00E0-00E5:0061.0300,0061.0301,0061.0302,0061.0303,0061.0308,0061.030A
    00E7-00EE:0063.0327,0065.0300,0065.0301,0065.0302,0065.0308,0069.0300,0069.0301,0069.0302
    00EF:0069.0308 00F1-00F6:006E.0303,006F.0300,006F.0301,006F.0302,006F.0303,006F.0308
    00F9-00FD:0075.0300,0075.0301,0075.0302,0075.0308,0079.0301
    00FF-0106:0079.0308,0041.0304,0061.0304,0041.0306,0061.0306,0041.0328,0061.0328,0043.0301
    0107-010E:0063.0301,0043.0302,0063.0302,0043.0307,0063.0307,0043.030C,0063.030C,0044.030C
    010F:0064.030C
    0112-0119:0045.0304,0065.0304,0045.0306,0065.0306,0045.0307,0065.0307,0045.0328,0065.0328
    011A-0121:0045.030C,0065.030C,0047.0302,0067.0302,0047.0306,0067.0306,0047.0307,0067.0307
    0122-0125:0047.0327,0067.0327,0048.0302,0068.0302
    0128-012F:0049.0303,0069.0303,0049.0304,0069.0304,0049.0306,0069.0306,0049.0328,0069.0328
    0130:0049.0307 0134-0137:004A.0302,006A.0302,004B.0327,006B.0327
    0139-013E:004C.0301,006C.0301,004C.0327,006C.0327,004C.030C,006C.030C
    0143-0148:004E.0301,006E.0301,004E.0327,006E.0327,004E.030C,006E.030C
    014C-0151:004F.0304,006F.0304,004F.0306,006F.0306,004F.030B,006F.030B
    0154-015B:0052.0301,0072.0301,0052.0327,0072.0327,0052.030C,0072.030C,0053.0301,0073.0301
    015C-0163:0053.0302,0073.0302,0053.0327,0073.0327,0053.030C,0073.030C,0054.0327,0074.0327
    0164-0165:0054.030C,0074.030C
    0168-016F:0055.0303,0075.0303,0055.0304,0075.0304,0055.0306,0075.0306,0055.030A,0075.030A
    0170-0177:0055.030B,0075.030B,0055.0328,0075.0328,0057.0302,0077.0302,0059.0302,0079.0302
    0178-017E:0059.0308,005A.0301,007A.0301,005A.0307,007A.0307,005A.030C,007A.030C
    01A0-01A1:004F.031B,006F.031B 01AF-01B0:0055.031B,0075.031B
    01CD-01D4:0041.030C,0061.030C,0049.030C,0069.030C,004F.030C,006F.030C,0055.030C,0075.030C
    01D5-01D9:0055.0308.0304,0075.0308.0304,0055.0308.0301,0075.0308.0301,0055.0308.030C
    01DA-01DC:0075.0308.030C,0055.0308.0300,0075.0308.0300
    01DE-01E3:0041.0308.0304,0061.0308.0304,0041.0307.0304,0061.0307.0304,00C6.0304,00E6.0304
    01E6-01EC:0047.030C,0067.030C,004B.030C,006B.030C,004F.0328,006F.0328,004F.0328.0304
    01ED-01F0:006F.0328.0304,01B7.030C,0292.030C,006A.030C 01F4-01F5:0047.0301,0067.0301
    01F8-01FE:004E.0300,006E.0300,0041.030A.0301,0061.030A.0301,00C6.0301,00E6.0301,00D8.0301
    01FF-0206:00F8.0301,0041.030F,0061.030F,0041.0311,0061.0311,0045.030F,0065.030F,0045.0311
    0207-020E:0065.0311,0049.030F,0069.030F,0049.0311,0069.0311,004F.030F,006F.030F,004F.0311
    020F-0216:006F.0311,0052.030F,0072.030F,0052.0311,0072.0311,0055.030F,0075.030F,0055.0311
    0217-021B:0075.0311,0053.0326,0073.0326,0054.0326,0074.0326 021E-021F:0048.030C,0068.030C
    0226-022B:0041.0307,0061.0307,0045.0327,0065.0327,004F.0308.0304,006F.0308.0304
    022C-0231:004F.0303.0304,006F.0303.0304,004F.0307,006F.0307,004F.0307.0304,006F.0307.0304
    0232-0233:0059.0304,0079.0304 0385-0386:00A8.0301,0391.0301
    0388-038A:0395.0301,0397.0301,0399.0301 038C:039F.0301
    038E-0390:03A5.0301,03A9.0301,03B9.0308.0301
    03AA-03B0:0399.0308,03A5.0308,03B1.0301,03B5.0301,03B7.0301,03B9.0301,03C5.0308.0301
    03CA-03CE:03B9.0308,03C5.0308,03BF.0301,03C5.0301,03C9.0301 03D3-03D4:03D2.0301,03D2.0308
    0400-0401:0415.0300,0415.0308 0403:0413.0301 0407:0406.0308
    040C-040E:041A.0301,0418.0300,0423.0306 0419:0418.0306 0439:0438.0306
    0450-0451:0435.0300,0435.0308 0453:0433.0301 0457:0456.0308
    045C-045E:043A.0301,0438.0300,0443.0306 0476-0477:0474.030F,0475.030F
    04C1-04C2:0416.0306,0436.0306 04D0-04D3:0410.0306,0430.0306,0410.0308,0430.0308
    04D6-04D7:0415.0306,0435.0306
    04DA-04DF:04D8.0308,04D9.0308,0416.0308,0436.0308,0417.0308,0437.0308
    04E2-04E7:0418.0304,0438.0304,0418.0308,0438.0308,041E.0308,043E.0308
    04EA-04F1:04E8.0308,04E9.0308,042D.0308,044D.0308,0423.0304,0443.0304,0423.0308,0443.0308
    04F2-04F5:0423.030B,0443.030B,0427.0308,0447.0308 04F8-04F9:042B.0308,044B.0308
    0622-0626:0627.0653,0627.0654,0648.0654,0627.0655,064A.0654 06C0:06D5.0654 06C2:06C1.0654
    06D3:06D2.0654 0929:0928.093C 0931:0930.093C 0934:0933.093C 09CB-09CC:09C7.09BE,09C7.09D7
    0B48:0B47.0B56 0B4B-0B4C:0B47.0B3E,0B47.0B57 0B94:0B92.0BD7
    0BCA-0BCC:0BC6.0BBE,0BC7.0BBE,0BC6.0BD7 0C48:0C46.0C56 0CC0:0CBF.0CD5
    0CC7-0CC8:0CC6.0CD5,0CC6.0CD6 0CCA-0CCB:0CC6.0CC2,0CC6.0CC2.0CD5
    0D4A-0D4C:0D46.0D3E,0D47.0D3E,0D46.0D57 0DDA:0DD9.0DCA
    0DDC-0DDE:0DD9.0DCF,0DD9.0DCF.0DCA,0DD9.0DDF 1026:1025.102E 1B06:1B05.1B35 1B08:1B07.1B35
    1B0A:1B09.1B35 1B0C:1B0B.1B35 1B0E:1B0D.1B35 1B12:1B11.1B35 1B3B:1B3A.1B35 1B3D:1B3C.1B35
    1B40-1B41:1B3E.1B35,1B3F.1B35 1B43:1B42.1B35
    1E00-1E07:0041.0325,0061.0325,0042.0307,0062.0307,0042.0323,0062.0323,0042.0331,0062.0331
    1E08-1E0E:0043.0327.0301,0063.0327.0301,0044.0307,0064.0307,0044.0323,0064.0323,0044.0331
    1E0F-1E15:0064.0331,0044.0327,0064.0327,0044.032D,0064.032D,0045.0304.0300,0065.0304.0300
    1E16-1E1B:0045.0304.0301,0065.0304.0301,0045.032D,0065.032D,0045.0330,0065.0330
    1E1C-1E22:0045.0327.0306,0065.0327.0306,0046.0307,0066.0307,0047.0304,0067.0304,0048.0307
    1E23-1E2A:0068.0307,0048.0323,0068.0323,0048.0308,0068.0308,0048.0327,0068.0327,0048.032E
    1E2B-1E31:0068.032E,0049.0330,0069.0330,0049.0308.0301,0069.0308.0301,004B.0301,006B.0301
    1E32-1E38:004B.0323,006B.0323,004B.0331,006B.0331,004C.0323,006C.0323,004C.0323.0304
    1E39-1E3F:006C.0323.0304,004C.0331,006C.0331,004C.032D,006C.032D,004D.0301,006D.0301
    1E40-1E47:004D.0307,006D.0307,004D.0323,006D.0323,004E.0307,006E.0307,004E.0323,006E.0323
    1E48-1E4D:004E.0331,006E.0331,004E.032D,006E.032D,004F.0303.0301,006F.0303.0301
    1E4E-1E52:004F.0303.0308,006F.0303.0308,004F.0304.0300,006F.0304.0300,004F.0304.0301
    1E53-1E59:006F.0304.0301,0050.0301,0070.0301,0050.0307,0070.0307,0052.0307,0072.0307
    1E5A-1E60:0052.0323,0072.0323,0052.0323.0304,0072.0323.0304,0052.0331,0072.0331,0053.0307
    1E61-1E66:0073.0307,0053.0323,0073.0323,0053.0301.0307,0073.0301.0307,0053.030C.0307
    1E67-1E6C:0073.030C.0307,0053.0323.0307,0073.0323.0307,0054.0307,0074.0307,0054.0323
    1E6D-1E74:0074.0323,0054.0331,0074.0331,0054.032D,0074.032D,0055.0324,0075.0324,0055.0330
    1E75-1E7A:0075.0330,0055.032D,0075.032D,0055.0303.0301,0075.0303.0301,0055.0304.0308
    1E7B-1E81:0075.0304.0308,0056.0303,0076.0303,0056.0323,0076.0323,0057.0300,0077.0300
    1E82-1E89:0057.0301,0077.0301,0057.0308,0077.0308,0057.0307,0077.0307,0057.0323,0077.0323
    1E8A-1E91:0058.0307,0078.0307,0058.0308,0078.0308,0059.0307,0079.0307,005A.0302,007A.0302
    1E92-1E99:005A.0323,007A.0323,005A.0331,007A.0331,0068.0331,0074.0308,0077.030A,0079.030A
    1E9B:017F.0307 1EA0-1EA5:0041.0323,0061.0323,0041.0309,0061.0309,0041.0302.0301,0061.0302.0301
    1EA6-1EAA:0041.0302.0300,0061.0302.0300,0041.0302.0309,0061.0302.0309,0041.0302.0303
    1EAB-1EAF:0061.0302.0303,0041.0323.0302,0061.0323.0302,0041.0306.0301,0061.0306.0301
    1EB0-1EB4:0041.0306.0300,0061.0306.0300,0041.0306.0309,0061.0306.0309,0041.0306.0303
    1EB5-1EBA:0061.0306.0303,0041.0323.0306,0061.0323.0306,0045.0323,0065.0323,0045.0309
    1EBB-1EC0:0065.0309,0045.0303,0065.0303,0045.0302.0301,0065.0302.0301,0045.0302.0300
    1EC1-1EC5:0065.0302.0300,0045.0302.0309,0065.0302.0309,0045.0302.0303,0065.0302.0303
    1EC6-1ECC:0045.0323.0302,0065.0323.0302,0049.0309,0069.0309,0049.0323,0069.0323,004F.0323
    1ECD-1ED2:006F.0323,004F.0309,006F.0309,004F.0302.0301,006F.0302.0301,004F.0302.0300
    1ED3-1ED7:006F.0302.0300,004F.0302.0309,006F.0302.0309,004F.0302.0303,006F.0302.0303
    1ED8-1EDC:004F.0323.0302,006F.0323.0302,004F.031B.0301,006F.031B.0301,004F.031B.0300
    1EDD-1EE1:006F.031B.0300,004F.031B.0309,006F.031B.0309,004F.031B.0303,006F.031B.0303
    1EE2-1EE7:004F.031B.0323,006F.031B.0323,0055.0323,0075.0323,0055.0309,0075.0309
    1EE8-1EEC:0055.031B.0301,0075.031B.0301,0055.031B.0300,0075.031B.0300,0055.031B.0309
    1EED-1EF1:0075.031B.0309,0055.031B.0303,0075.031B.0303,0055.031B.0323,0075.031B.0323
    1EF2-1EF9:0059.0300,0079.0300,0059.0323,0079.0323,0059.0309,0079.0309,0059.0303,0079.0303
    1F00-1F05:03B1.0313,03B1.0314,03B1.0313.0300,03B1.0314.0300,03B1.0313.0301,03B1.0314.0301
    1F06-1F0B:03B1.0313.0342,03B1.0314.0342,0391.0313,0391.0314,0391.0313.0300,0391.0314.0300
    1F0C-1F11:0391.0313.0301,0391.0314.0301,0391.0313.0342,0391.0314.0342,03B5.0313,03B5.0314
    1F12-1F15:03B5.0313.0300,03B5.0314.0300,03B5.0313.0301,03B5.0314.0301
    1F18-1F1D:0395.0313,0395.0314,0395.0313.0300,0395.0314.0300,0395.0313.0301,0395.0314.0301
    1F20-1F25:03B7.0313,03B7.0314,03B7.0313.0300,03B7.0314.0300,03B7.0313.0301,03B7.0314.0301
    1F26-1F2B:03B7.0313.0342,03B7.0314.0342,0397.0313,0397.0314,0397.0313.0300,0397.0314.0300
    1F2C-1F31:0397.0313.0301,0397.0314.0301,0397.0313.0342,0397.0314.0342,03B9.0313,03B9.0314
    1F32-1F36:03B9.0313.0300,03B9.0314.0300,03B9.0313.0301,03B9.0314.0301,03B9.0313.0342
    1F37-1F3C:03B9.0314.0342,0399.0313,0399.0314,0399.0313.0300,0399.0314.0300,0399.0313.0301
    1F3D-1F42:0399.0314.0301,0399.0313.0342,0399.0314.0342,03BF.0313,03BF.0314,03BF.0313.0300
    1F43-1F45:03BF.0314.0300,03BF.0313.0301,03BF.0314.0301
    1F48-1F4D:039F.0313,039F.0314,039F.0313.0300,039F.0314.0300,039F.0313.0301,039F.0314.0301
    1F50-1F55:03C5.0313,03C5.0314,03C5.0313.0300,03C5.0314.0300,03C5.0313.0301,03C5.0314.0301
    1F56-1F57:03C5.0313.0342,03C5.0314.0342 1F59:03A5.0314 1F5B:03A5.0314.0300 1F5D:03A5.0314.0301
    1F5F-1F64:03A5.0314.0342,03C9.0313,03C9.0314,03C9.0313.0300,03C9.0314.0300,03C9.0313.0301
    1F65-1F6A:03C9.0314.0301,03C9.0313.0342,03C9.0314.0342,03A9.0313,03A9.0314,03A9.0313.0300
    1F6B-1F6F:03A9.0314.0300,03A9.0313.0301,03A9.0314.0301,03A9.0313.0342,03A9.0314.0342
    1F70:03B1.0300 1F72:03B5.0300 1F74:03B7.0300 1F76:03B9.0300 1F78:03BF.0300 1F7A:03C5.0300
    1F7C:03C9.0300 1F80-1F83:03B1.0313.0345,03B1.0314.0345,03B1.0313.0300.0345,03B1.0314.0300.0345
    1F84-1F87:03B1.0313.0301.0345,03B1.0314.0301.0345,03B1.0313.0342.0345,03B1.0314.0342.0345
    1F88-1F8B:0391.0313.0345,0391.0314.0345,0391.0313.0300.0345,0391.0314.0300.0345
    1F8C-1F8F:0391.0313.0301.0345,0391.0314.0301.0345,0391.0313.0342.0345,0391.0314.0342.0345
    1F90-1F93:03B7.0313.0345,03B7.0314.0345,03B7.0313.0300.0345,03B7.0314.0300.0345
    1F94-1F97:03B7.0313.0301.0345,03B7.0314.0301.0345,03B7.0313.0342.0345,03B7.0314.0342.0345
    1F98-1F9B:0397.0313.0345,0397.0314.0345,0397.0313.0300.0345,0397.0314.0300.0345
    1F9C-1F9F:0397.0313.0301.0345,0397.0314.0301.0345,0397.0313.0342.0345,0397.0314.0342.0345
    1FA0-1FA3:03C9.0313.0345,03C9.0314.0345,03C9.0313.0300.0345,03C9.0314.0300.0345
    1FA4-1FA7:03C9.0313.0301.0345,03C9.0314.0301.0345,03C9.0313.0342.0345,03C9.0314.0342.0345
    1FA8-1FAB:03A9.0313.0345,03A9.0314.0345,03A9.0313.0300.0345,03A9.0314.0300.0345
    1FAC-1FAF:03A9.0313.0301.0345,03A9.0314.0301.0345,03A9.0313.0342.0345,03A9.0314.0342.0345
    1FB0-1FB4:03B1.0306,03B1.0304,03B1.0300.0345,03B1.0345,03B1.0301.0345
    1FB6-1FBA:03B1.0342,03B1.0342.0345,0391.0306,0391.0304,0391.0300 1FBC:0391.0345
    1FC1-1FC4:00A8.0342,03B7.0300.0345,03B7.0345,03B7.0301.0345
    1FC6-1FC8:03B7.0342,03B7.0342.0345,0395.0300 1FCA:0397.0300
    1FCC-1FD2:0397.0345,1FBF.0300,1FBF.0301,1FBF.0342,03B9.0306,03B9.0304,03B9.0308.0300
    1FD6-1FDA:03B9.0342,03B9.0308.0342,0399.0306,0399.0304,0399.0300
    1FDD-1FE2:1FFE.0300,1FFE.0301,1FFE.0342,03C5.0306,03C5.0304,03C5.0308.0300
    1FE4-1FEA:03C1.0313,03C1.0314,03C5.0342,03C5.0308.0342,03A5.0306,03A5.0304,03A5.0300
    1FEC-1FED:03A1.0314,00A8.0300 1FF2-1FF4:03C9.0300.0345,03C9.0345,03C9.0301.0345
    1FF6-1FF8:03C9.0342,03C9.0342.0345,039F.0300 1FFA:03A9.0300 1FFC:03A9.0345
    219A-219B:2190.0338,2192.0338 21AE:2194.0338 21CD-21CF:21D0.0338,21D4.0338,21D2.0338
    2204:2203.0338 2209:2208.0338 220C:220B.0338 2224:2223.0338 2226:2225.0338 2241:223C.0338
    2244:2243.0338 2247:2245.0338 2249:2248.0338 2260:003D.0338 2262:2261.0338
    226D-2271:224D.0338,003C.0338,003E.0338,2264.0338,2265.0338 2274-2275:2272.0338,2273.0338
    2278-2279:2276.0338,2277.0338 2280-2281:227A.0338,227B.0338 2284-2285:2282.0338,2283.0338
    2288-2289:2286.0338,2287.0338 22AC-22AF:22A2.0338,22A8.0338,22A9.0338,22AB.0338
    22E0-22E3:227C.0338,227D.0338,2291.0338,2292.0338
    22EA-22ED:22B2.0338,22B3.0338,22B4.0338,22B5.0338 304C:304B.3099 304E:304D.3099 3050:304F.3099
    3052:3051.3099 3054:3053.3099 3056:3055.3099 3058:3057.3099 305A:3059.3099 305C:305B.3099
    305E:305D.3099 3060:305F.3099 3062:3061.3099 3065:3064.3099 3067:3066.3099 3069:3068.3099
    3070-3071:306F.3099,306F.309A 3073-3074:3072.3099,3072.309A 3076-3077:3075.3099,3075.309A
    3079-307A:3078.3099,3078.309A 307C-307D:307B.3099,307B.309A 3094:3046.3099 309E:309D.3099
    30AC:30AB.3099 30AE:30AD.3099 30B0:30AF.3099 30B2:30B1.3099 30B4:30B3.3099 30B6:30B5.3099
    30B8:30B7.3099 30BA:30B9.3099 30BC:30BB.3099 30BE:30BD.3099 30C0:30BF.3099 30C2:30C1.3099
    30C5:30C4.3099 30C7:30C6.3099 30C9:30C8.3099 30D0-30D1:30CF.3099,30CF.309A
    30D3-30D4:30D2.3099,30D2.309A 30D6-30D7:30D5.3099,30D5.309A 30D9-30DA:30D8.3099,30D8.309A
    30DC-30DD:30DB.3099,30DB.309A 30F4:30A6.3099 30F7-30FA:30EF.3099,30F0.3099,30F1.3099,30F2.3099
    30FE:30FD.3099 105C9:105D2.0307 105E4:105DA.0307 1109A:11099.110BA 1109C:1109B.110BA
    110AB:110A5.110BA 1112E-1112F:11131.11127,11132.11127 1134B-1134C:11347.1133E,11347.11357
    11383:11382.113C9 11385:11384.113BB 1138E:1138B.113C2 11391:11390.113C9 113C5:113C2.113C2
    113C7-113C8:113C2.113B8,113C2.113C9 114BB-114BC:114B9.114BA,114B9.114B0 114BE:114B9.114BD
    115BA-115BB:115B8.115AF,115B9.115AF 11938:11935.11930
    16121-16126:1611E.1611E,1611E.16129,1611E.1611F,16129.1611F,1611E.16120,1611E.1611E.1611F
    16127-16128:1611E.16129.1611F,1611E.1611E.16120
    16D68-16D6A:16D67.16D67,16D63.16D67,16D63.16D67.16D67"

/-- The number of Hangul leading consonants, vowels, and trailing consonants with none counted. -/
def hangulCounts : Nat × Nat × Nat := (19, 21, 28)

/-- The decomposition of a Hangul syllable, counted from the first one. -/
def decomposeHangul (index : Nat) : List Char :=
  let (_, vowels, trails) := hangulCounts
  let pair := [Char.ofNat (0x1100 + index / (vowels * trails)),
    Char.ofNat (0x1161 + index / trails % vowels)]
  if index % trails = 0 then pair else pair ++ [Char.ofNat (0x11A7 + index % trails)]

/-- The full decomposition of a character; all but composites are their own. -/
def decompose (c : Char) : List Char :=
  let (leads, vowels, trails) := hangulCounts
  let n := c.toNat
  if n < 0xC0 then [c]
  else if 0xAC00 ≤ n ∧ n < 0xAC00 + leads * vowels * trails then decomposeHangul (n - 0xAC00)
  else
    match composites.find? c with
    | some s => s.value.getD (n - s.first) [c]
    | none => [c]

/-- The Hangul syllable of a leading consonant and a vowel, or of a syllable without a trailing
consonant and one. -/
def composeHangul? (a b : Nat) : Option Char :=
  let (leads, vowels, trails) := hangulCounts
  if 0x1100 ≤ a ∧ a < 0x1100 + leads ∧ 0x1161 ≤ b ∧ b < 0x1161 + vowels then
    some (Char.ofNat (0xAC00 + ((a - 0x1100) * vowels + (b - 0x1161)) * trails))
  else if 0xAC00 ≤ a ∧ a < 0xAC00 + leads * vowels * trails ∧ (a - 0xAC00) % trails = 0
      ∧ 0x11A7 < b ∧ b < 0x11A7 + trails then
    some (Char.ofNat (a + (b - 0x11A7)))
  else none

/-- The composite with a given full decomposition. -/
def composite? (parts : List Char) : Option Char :=
  composites.spans.toList.findSome? fun s =>
    (s.value.toList.idxOf? parts).map fun i => Char.ofNat (s.first + i)

/-- The composite of two characters: the one whose decomposition is theirs. -/
def compose? (a b : Char) : Option Char :=
  match composeHangul? a.toNat b.toNat with
  | some c => some c
  | none => composite? (decompose a ++ decompose b)

end EndpointPool.Unicode
