import MakeLens.Json.Reader
import MakeLens.Text.Blank
import MakeLens.Text.Ranges

/-! # Characters of domain names

  A domain name is compared and sent in one spelling: letters in lower case, wide and
  narrow forms as ordinary ones, ligatures as the letters they join, the dots of other
  scripts as the dot. Some characters are dropped, and many are refused.
-/

namespace MakeLens.Domain

/-- The characters beyond ASCII that are not refused, as ascending closed ranges of code
    points. -/
def allowedRanges : List (Nat × Nat) :=
  [(0xA0, 0x377), (0x37A, 0x37F), (0x384, 0x38A), (0x38C, 0x38C), (0x38E, 0x3A1),
   (0x3A3, 0x52F), (0x531, 0x556), (0x559, 0x58A), (0x58D, 0x58F), (0x591, 0x5C7),
   (0x5D0, 0x5EA), (0x5EF, 0x5F4), (0x606, 0x61B), (0x61D, 0x6DC), (0x6DE, 0x70D),
   (0x710, 0x74A), (0x74D, 0x7B1), (0x7C0, 0x7FA), (0x7FD, 0x82D), (0x830, 0x83E),
   (0x840, 0x85B), (0x85E, 0x85E), (0x860, 0x86A), (0x870, 0x88F), (0x897, 0x8E1),
   (0x8E3, 0x983), (0x985, 0x98C), (0x98F, 0x990), (0x993, 0x9A8), (0x9AA, 0x9B0),
   (0x9B2, 0x9B2), (0x9B6, 0x9B9), (0x9BC, 0x9C4), (0x9C7, 0x9C8), (0x9CB, 0x9CE),
   (0x9D7, 0x9D7), (0x9DC, 0x9DD), (0x9DF, 0x9E3), (0x9E6, 0x9FE), (0xA01, 0xA03),
   (0xA05, 0xA0A), (0xA0F, 0xA10), (0xA13, 0xA28), (0xA2A, 0xA30), (0xA32, 0xA33),
   (0xA35, 0xA36), (0xA38, 0xA39), (0xA3C, 0xA3C), (0xA3E, 0xA42), (0xA47, 0xA48),
   (0xA4B, 0xA4D), (0xA51, 0xA51), (0xA59, 0xA5C), (0xA5E, 0xA5E), (0xA66, 0xA76),
   (0xA81, 0xA83), (0xA85, 0xA8D), (0xA8F, 0xA91), (0xA93, 0xAA8), (0xAAA, 0xAB0),
   (0xAB2, 0xAB3), (0xAB5, 0xAB9), (0xABC, 0xAC5), (0xAC7, 0xAC9), (0xACB, 0xACD),
   (0xAD0, 0xAD0), (0xAE0, 0xAE3), (0xAE6, 0xAF1), (0xAF9, 0xAFF), (0xB01, 0xB03),
   (0xB05, 0xB0C), (0xB0F, 0xB10), (0xB13, 0xB28), (0xB2A, 0xB30), (0xB32, 0xB33),
   (0xB35, 0xB39), (0xB3C, 0xB44), (0xB47, 0xB48), (0xB4B, 0xB4D), (0xB55, 0xB57),
   (0xB5C, 0xB5D), (0xB5F, 0xB63), (0xB66, 0xB77), (0xB82, 0xB83), (0xB85, 0xB8A),
   (0xB8E, 0xB90), (0xB92, 0xB95), (0xB99, 0xB9A), (0xB9C, 0xB9C), (0xB9E, 0xB9F),
   (0xBA3, 0xBA4), (0xBA8, 0xBAA), (0xBAE, 0xBB9), (0xBBE, 0xBC2), (0xBC6, 0xBC8),
   (0xBCA, 0xBCD), (0xBD0, 0xBD0), (0xBD7, 0xBD7), (0xBE6, 0xBFA), (0xC00, 0xC0C),
   (0xC0E, 0xC10), (0xC12, 0xC28), (0xC2A, 0xC39), (0xC3C, 0xC44), (0xC46, 0xC48),
   (0xC4A, 0xC4D), (0xC55, 0xC56), (0xC58, 0xC5A), (0xC5C, 0xC5D), (0xC60, 0xC63),
   (0xC66, 0xC6F), (0xC77, 0xC8C), (0xC8E, 0xC90), (0xC92, 0xCA8), (0xCAA, 0xCB3),
   (0xCB5, 0xCB9), (0xCBC, 0xCC4), (0xCC6, 0xCC8), (0xCCA, 0xCCD), (0xCD5, 0xCD6),
   (0xCDC, 0xCDE), (0xCE0, 0xCE3), (0xCE6, 0xCEF), (0xCF1, 0xCF3), (0xD00, 0xD0C),
   (0xD0E, 0xD10), (0xD12, 0xD44), (0xD46, 0xD48), (0xD4A, 0xD4F), (0xD54, 0xD63),
   (0xD66, 0xD7F), (0xD81, 0xD83), (0xD85, 0xD96), (0xD9A, 0xDB1), (0xDB3, 0xDBB),
   (0xDBD, 0xDBD), (0xDC0, 0xDC6), (0xDCA, 0xDCA), (0xDCF, 0xDD4), (0xDD6, 0xDD6),
   (0xDD8, 0xDDF), (0xDE6, 0xDEF), (0xDF2, 0xDF4), (0xE01, 0xE3A), (0xE3F, 0xE5B),
   (0xE81, 0xE82), (0xE84, 0xE84), (0xE86, 0xE8A), (0xE8C, 0xEA3), (0xEA5, 0xEA5),
   (0xEA7, 0xEBD), (0xEC0, 0xEC4), (0xEC6, 0xEC6), (0xEC8, 0xECE), (0xED0, 0xED9),
   (0xEDC, 0xEDF), (0xF00, 0xF47), (0xF49, 0xF6C), (0xF71, 0xF97), (0xF99, 0xFBC),
   (0xFBE, 0xFCC), (0xFCE, 0xFDA), (0x1000, 0x10C5), (0x10C7, 0x10C7), (0x10CD, 0x10CD),
   (0x10D0, 0x1248), (0x124A, 0x124D), (0x1250, 0x1256), (0x1258, 0x1258), (0x125A, 0x125D),
   (0x1260, 0x1288), (0x128A, 0x128D), (0x1290, 0x12B0), (0x12B2, 0x12B5), (0x12B8, 0x12BE),
   (0x12C0, 0x12C0), (0x12C2, 0x12C5), (0x12C8, 0x12D6), (0x12D8, 0x1310), (0x1312, 0x1315),
   (0x1318, 0x135A), (0x135D, 0x137C), (0x1380, 0x1399), (0x13A0, 0x13F5), (0x13F8, 0x13FD),
   (0x1400, 0x167F), (0x1681, 0x169C), (0x16A0, 0x16F8), (0x1700, 0x1715), (0x171F, 0x1736),
   (0x1740, 0x1753), (0x1760, 0x176C), (0x176E, 0x1770), (0x1772, 0x1773), (0x1780, 0x17DD),
   (0x17E0, 0x17E9), (0x17F0, 0x17F9), (0x1800, 0x1819), (0x1820, 0x1878), (0x1880, 0x18AA),
   (0x18B0, 0x18F5), (0x1900, 0x191E), (0x1920, 0x192B), (0x1930, 0x193B), (0x1940, 0x1940),
   (0x1944, 0x196D), (0x1970, 0x1974), (0x1980, 0x19AB), (0x19B0, 0x19C9), (0x19D0, 0x19DA),
   (0x19DE, 0x1A1B), (0x1A1E, 0x1A5E), (0x1A60, 0x1A7C), (0x1A7F, 0x1A89), (0x1A90, 0x1A99),
   (0x1AA0, 0x1AAD), (0x1AB0, 0x1ADD), (0x1AE0, 0x1AEB), (0x1B00, 0x1B4C), (0x1B4E, 0x1BF3),
   (0x1BFC, 0x1C37), (0x1C3B, 0x1C49), (0x1C4D, 0x1C8A), (0x1C90, 0x1CBA), (0x1CBD, 0x1CC7),
   (0x1CD0, 0x1CFA), (0x1D00, 0x1F15), (0x1F18, 0x1F1D), (0x1F20, 0x1F45), (0x1F48, 0x1F4D),
   (0x1F50, 0x1F57), (0x1F59, 0x1F59), (0x1F5B, 0x1F5B), (0x1F5D, 0x1F5D), (0x1F5F, 0x1F7D),
   (0x1F80, 0x1FB4), (0x1FB6, 0x1FC4), (0x1FC6, 0x1FD3), (0x1FD6, 0x1FDB), (0x1FDD, 0x1FEF),
   (0x1FF2, 0x1FF4), (0x1FF6, 0x1FFE), (0x2000, 0x200D), (0x2010, 0x2023), (0x2027, 0x2027),
   (0x202F, 0x2064), (0x206A, 0x2071), (0x2074, 0x208E), (0x2090, 0x209C), (0x20A0, 0x20C1),
   (0x20D0, 0x20F0), (0x2100, 0x218B), (0x2190, 0x2429), (0x2440, 0x244A), (0x2460, 0x2487),
   (0x249C, 0x2B73), (0x2B76, 0x2CF3), (0x2CF9, 0x2D25), (0x2D27, 0x2D27), (0x2D2D, 0x2D2D),
   (0x2D30, 0x2D67), (0x2D6F, 0x2D70), (0x2D7F, 0x2D96), (0x2DA0, 0x2DA6), (0x2DA8, 0x2DAE),
   (0x2DB0, 0x2DB6), (0x2DB8, 0x2DBE), (0x2DC0, 0x2DC6), (0x2DC8, 0x2DCE), (0x2DD0, 0x2DD6),
   (0x2DD8, 0x2DDE), (0x2DE0, 0x2E5D), (0x2E80, 0x2E99), (0x2E9B, 0x2EF3), (0x2F00, 0x2FD5),
   (0x3000, 0x303F), (0x3041, 0x3096), (0x3099, 0x30FF), (0x3105, 0x312F), (0x3131, 0x318E),
   (0x3190, 0x31E5), (0x31F0, 0x321E), (0x3220, 0x33C1), (0x33C3, 0x33C6), (0x33C8, 0x33D7),
   (0x33D9, 0xA48C), (0xA490, 0xA4C6), (0xA4D0, 0xA62B), (0xA640, 0xA6F7), (0xA700, 0xA7DC),
   (0xA7F1, 0xA82C), (0xA830, 0xA839), (0xA840, 0xA877), (0xA880, 0xA8C5), (0xA8CE, 0xA8D9),
   (0xA8E0, 0xA953), (0xA95F, 0xA97C), (0xA980, 0xA9CD), (0xA9CF, 0xA9D9), (0xA9DE, 0xA9FE),
   (0xAA00, 0xAA36), (0xAA40, 0xAA4D), (0xAA50, 0xAA59), (0xAA5C, 0xAAC2), (0xAADB, 0xAAF6),
   (0xAB01, 0xAB06), (0xAB09, 0xAB0E), (0xAB11, 0xAB16), (0xAB20, 0xAB26), (0xAB28, 0xAB2E),
   (0xAB30, 0xAB6B), (0xAB70, 0xABED), (0xABF0, 0xABF9), (0xAC00, 0xD7A3), (0xD7B0, 0xD7C6),
   (0xD7CB, 0xD7FB), (0xF900, 0xFA6D), (0xFA70, 0xFAD9), (0xFB00, 0xFB06), (0xFB13, 0xFB17),
   (0xFB1D, 0xFB36), (0xFB38, 0xFB3C), (0xFB3E, 0xFB3E), (0xFB40, 0xFB41), (0xFB43, 0xFB44),
   (0xFB46, 0xFDCF), (0xFDF0, 0xFE11), (0xFE13, 0xFE18), (0xFE20, 0xFE2F), (0xFE31, 0xFE51),
   (0xFE54, 0xFE66), (0xFE68, 0xFE6B), (0xFE70, 0xFE74), (0xFE76, 0xFEFC), (0xFEFF, 0xFEFF),
   (0xFF01, 0xFFBE), (0xFFC2, 0xFFC7), (0xFFCA, 0xFFCF), (0xFFD2, 0xFFD7), (0xFFDA, 0xFFDC),
   (0xFFE0, 0xFFE6), (0xFFE8, 0xFFEE), (0x10000, 0x1000B), (0x1000D, 0x10026),
   (0x10028, 0x1003A), (0x1003C, 0x1003D), (0x1003F, 0x1004D), (0x10050, 0x1005D),
   (0x10080, 0x100FA), (0x10100, 0x10102), (0x10107, 0x10133), (0x10137, 0x1018E),
   (0x10190, 0x1019C), (0x101A0, 0x101A0), (0x101D0, 0x101FD), (0x10280, 0x1029C),
   (0x102A0, 0x102D0), (0x102E0, 0x102FB), (0x10300, 0x10323), (0x1032D, 0x1034A),
   (0x10350, 0x1037A), (0x10380, 0x1039D), (0x1039F, 0x103C3), (0x103C8, 0x103D5),
   (0x10400, 0x1049D), (0x104A0, 0x104A9), (0x104B0, 0x104D3), (0x104D8, 0x104FB),
   (0x10500, 0x10527), (0x10530, 0x10563), (0x1056F, 0x1057A), (0x1057C, 0x1058A),
   (0x1058C, 0x10592), (0x10594, 0x10595), (0x10597, 0x105A1), (0x105A3, 0x105B1),
   (0x105B3, 0x105B9), (0x105BB, 0x105BC), (0x105C0, 0x105F3), (0x10600, 0x10736),
   (0x10740, 0x10755), (0x10760, 0x10767), (0x10780, 0x10785), (0x10787, 0x107B0),
   (0x107B2, 0x107BA), (0x10800, 0x10805), (0x10808, 0x10808), (0x1080A, 0x10835),
   (0x10837, 0x10838), (0x1083C, 0x1083C), (0x1083F, 0x10855), (0x10857, 0x1089E),
   (0x108A7, 0x108AF), (0x108E0, 0x108F2), (0x108F4, 0x108F5), (0x108FB, 0x1091B),
   (0x1091F, 0x10939), (0x1093F, 0x10959), (0x10980, 0x109B7), (0x109BC, 0x109CF),
   (0x109D2, 0x10A03), (0x10A05, 0x10A06), (0x10A0C, 0x10A13), (0x10A15, 0x10A17),
   (0x10A19, 0x10A35), (0x10A38, 0x10A3A), (0x10A3F, 0x10A48), (0x10A50, 0x10A58),
   (0x10A60, 0x10A9F), (0x10AC0, 0x10AE6), (0x10AEB, 0x10AF6), (0x10B00, 0x10B35),
   (0x10B39, 0x10B55), (0x10B58, 0x10B72), (0x10B78, 0x10B91), (0x10B99, 0x10B9C),
   (0x10BA9, 0x10BAF), (0x10C00, 0x10C48), (0x10C80, 0x10CB2), (0x10CC0, 0x10CF2),
   (0x10CFA, 0x10D27), (0x10D30, 0x10D39), (0x10D40, 0x10D65), (0x10D69, 0x10D85),
   (0x10D8E, 0x10D8F), (0x10E60, 0x10E7E), (0x10E80, 0x10EA9), (0x10EAB, 0x10EAD),
   (0x10EB0, 0x10EB1), (0x10EC2, 0x10EC7), (0x10ED0, 0x10ED8), (0x10EFA, 0x10F27),
   (0x10F30, 0x10F59), (0x10F70, 0x10F89), (0x10FB0, 0x10FCB), (0x10FE0, 0x10FF6),
   (0x11000, 0x1104D), (0x11052, 0x11075), (0x1107F, 0x110BC), (0x110BE, 0x110C2),
   (0x110D0, 0x110E8), (0x110F0, 0x110F9), (0x11100, 0x11134), (0x11136, 0x11147),
   (0x11150, 0x11176), (0x11180, 0x111DF), (0x111E1, 0x111F4), (0x11200, 0x11211),
   (0x11213, 0x11241), (0x11280, 0x11286), (0x11288, 0x11288), (0x1128A, 0x1128D),
   (0x1128F, 0x1129D), (0x1129F, 0x112A9), (0x112B0, 0x112EA), (0x112F0, 0x112F9),
   (0x11300, 0x11303), (0x11305, 0x1130C), (0x1130F, 0x11310), (0x11313, 0x11328),
   (0x1132A, 0x11330), (0x11332, 0x11333), (0x11335, 0x11339), (0x1133B, 0x11344),
   (0x11347, 0x11348), (0x1134B, 0x1134D), (0x11350, 0x11350), (0x11357, 0x11357),
   (0x1135D, 0x11363), (0x11366, 0x1136C), (0x11370, 0x11374), (0x11380, 0x11389),
   (0x1138B, 0x1138B), (0x1138E, 0x1138E), (0x11390, 0x113B5), (0x113B7, 0x113C0),
   (0x113C2, 0x113C2), (0x113C5, 0x113C5), (0x113C7, 0x113CA), (0x113CC, 0x113D5),
   (0x113D7, 0x113D8), (0x113E1, 0x113E2), (0x11400, 0x1145B), (0x1145D, 0x11461),
   (0x11480, 0x114C7), (0x114D0, 0x114D9), (0x11580, 0x115B5), (0x115B8, 0x115DD),
   (0x11600, 0x11644), (0x11650, 0x11659), (0x11660, 0x1166C), (0x11680, 0x116B9),
   (0x116C0, 0x116C9), (0x116D0, 0x116E3), (0x11700, 0x1171A), (0x1171D, 0x1172B),
   (0x11730, 0x11746), (0x11800, 0x1183B), (0x118A0, 0x118F2), (0x118FF, 0x11906),
   (0x11909, 0x11909), (0x1190C, 0x11913), (0x11915, 0x11916), (0x11918, 0x11935),
   (0x11937, 0x11938), (0x1193B, 0x11946), (0x11950, 0x11959), (0x119A0, 0x119A7),
   (0x119AA, 0x119D7), (0x119DA, 0x119E4), (0x11A00, 0x11A47), (0x11A50, 0x11AA2),
   (0x11AB0, 0x11AF8), (0x11B00, 0x11B09), (0x11B60, 0x11B67), (0x11BC0, 0x11BE1),
   (0x11BF0, 0x11BF9), (0x11C00, 0x11C08), (0x11C0A, 0x11C36), (0x11C38, 0x11C45),
   (0x11C50, 0x11C6C), (0x11C70, 0x11C8F), (0x11C92, 0x11CA7), (0x11CA9, 0x11CB6),
   (0x11D00, 0x11D06), (0x11D08, 0x11D09), (0x11D0B, 0x11D36), (0x11D3A, 0x11D3A),
   (0x11D3C, 0x11D3D), (0x11D3F, 0x11D47), (0x11D50, 0x11D59), (0x11D60, 0x11D65),
   (0x11D67, 0x11D68), (0x11D6A, 0x11D8E), (0x11D90, 0x11D91), (0x11D93, 0x11D98),
   (0x11DA0, 0x11DA9), (0x11DB0, 0x11DDB), (0x11DE0, 0x11DE9), (0x11EE0, 0x11EF8),
   (0x11F00, 0x11F10), (0x11F12, 0x11F3A), (0x11F3E, 0x11F5A), (0x11FB0, 0x11FB0),
   (0x11FC0, 0x11FF1), (0x11FFF, 0x12399), (0x12400, 0x1246E), (0x12470, 0x12474),
   (0x12480, 0x12543), (0x12F90, 0x12FF2), (0x13000, 0x1342F), (0x13440, 0x13455),
   (0x13460, 0x143FA), (0x14400, 0x14646), (0x16100, 0x16139), (0x16800, 0x16A38),
   (0x16A40, 0x16A5E), (0x16A60, 0x16A69), (0x16A6E, 0x16ABE), (0x16AC0, 0x16AC9),
   (0x16AD0, 0x16AED), (0x16AF0, 0x16AF5), (0x16B00, 0x16B45), (0x16B50, 0x16B59),
   (0x16B5B, 0x16B61), (0x16B63, 0x16B77), (0x16B7D, 0x16B8F), (0x16D40, 0x16D79),
   (0x16E40, 0x16E9A), (0x16EA0, 0x16EB8), (0x16EBB, 0x16ED3), (0x16F00, 0x16F4A),
   (0x16F4F, 0x16F87), (0x16F8F, 0x16F9F), (0x16FE0, 0x16FE4), (0x16FF0, 0x16FF6),
   (0x17000, 0x18CD5), (0x18CFF, 0x18D1E), (0x18D80, 0x18DF2), (0x1AFF0, 0x1AFF3),
   (0x1AFF5, 0x1AFFB), (0x1AFFD, 0x1AFFE), (0x1B000, 0x1B122), (0x1B132, 0x1B132),
   (0x1B150, 0x1B152), (0x1B155, 0x1B155), (0x1B164, 0x1B167), (0x1B170, 0x1B2FB),
   (0x1BC00, 0x1BC6A), (0x1BC70, 0x1BC7C), (0x1BC80, 0x1BC88), (0x1BC90, 0x1BC99),
   (0x1BC9C, 0x1BCA3), (0x1CC00, 0x1CCFC), (0x1CD00, 0x1CEB3), (0x1CEBA, 0x1CED0),
   (0x1CEE0, 0x1CEF0), (0x1CF00, 0x1CF2D), (0x1CF30, 0x1CF46), (0x1CF50, 0x1CFC3),
   (0x1D000, 0x1D0F5), (0x1D100, 0x1D126), (0x1D129, 0x1D1EA), (0x1D200, 0x1D245),
   (0x1D2C0, 0x1D2D3), (0x1D2E0, 0x1D2F3), (0x1D300, 0x1D356), (0x1D360, 0x1D378),
   (0x1D400, 0x1D454), (0x1D456, 0x1D49C), (0x1D49E, 0x1D49F), (0x1D4A2, 0x1D4A2),
   (0x1D4A5, 0x1D4A6), (0x1D4A9, 0x1D4AC), (0x1D4AE, 0x1D4B9), (0x1D4BB, 0x1D4BB),
   (0x1D4BD, 0x1D4C3), (0x1D4C5, 0x1D505), (0x1D507, 0x1D50A), (0x1D50D, 0x1D514),
   (0x1D516, 0x1D51C), (0x1D51E, 0x1D539), (0x1D53B, 0x1D53E), (0x1D540, 0x1D544),
   (0x1D546, 0x1D546), (0x1D54A, 0x1D550), (0x1D552, 0x1D6A5), (0x1D6A8, 0x1D7CB),
   (0x1D7CE, 0x1DA8B), (0x1DA9B, 0x1DA9F), (0x1DAA1, 0x1DAAF), (0x1DF00, 0x1DF1E),
   (0x1DF25, 0x1DF2A), (0x1E000, 0x1E006), (0x1E008, 0x1E018), (0x1E01B, 0x1E021),
   (0x1E023, 0x1E024), (0x1E026, 0x1E02A), (0x1E030, 0x1E06D), (0x1E08F, 0x1E08F),
   (0x1E100, 0x1E12C), (0x1E130, 0x1E13D), (0x1E140, 0x1E149), (0x1E14E, 0x1E14F),
   (0x1E290, 0x1E2AE), (0x1E2C0, 0x1E2F9), (0x1E2FF, 0x1E2FF), (0x1E4D0, 0x1E4F9),
   (0x1E5D0, 0x1E5FA), (0x1E5FF, 0x1E5FF), (0x1E6C0, 0x1E6DE), (0x1E6E0, 0x1E6F5),
   (0x1E6FE, 0x1E6FF), (0x1E7E0, 0x1E7E6), (0x1E7E8, 0x1E7EB), (0x1E7ED, 0x1E7EE),
   (0x1E7F0, 0x1E7FE), (0x1E800, 0x1E8C4), (0x1E8C7, 0x1E8D6), (0x1E900, 0x1E94B),
   (0x1E950, 0x1E959), (0x1E95E, 0x1E95F), (0x1EC71, 0x1ECB4), (0x1ED01, 0x1ED3D),
   (0x1EE00, 0x1EE03), (0x1EE05, 0x1EE1F), (0x1EE21, 0x1EE22), (0x1EE24, 0x1EE24),
   (0x1EE27, 0x1EE27), (0x1EE29, 0x1EE32), (0x1EE34, 0x1EE37), (0x1EE39, 0x1EE39),
   (0x1EE3B, 0x1EE3B), (0x1EE42, 0x1EE42), (0x1EE47, 0x1EE47), (0x1EE49, 0x1EE49),
   (0x1EE4B, 0x1EE4B), (0x1EE4D, 0x1EE4F), (0x1EE51, 0x1EE52), (0x1EE54, 0x1EE54),
   (0x1EE57, 0x1EE57), (0x1EE59, 0x1EE59), (0x1EE5B, 0x1EE5B), (0x1EE5D, 0x1EE5D),
   (0x1EE5F, 0x1EE5F), (0x1EE61, 0x1EE62), (0x1EE64, 0x1EE64), (0x1EE67, 0x1EE6A),
   (0x1EE6C, 0x1EE72), (0x1EE74, 0x1EE77), (0x1EE79, 0x1EE7C), (0x1EE7E, 0x1EE7E),
   (0x1EE80, 0x1EE89), (0x1EE8B, 0x1EE9B), (0x1EEA1, 0x1EEA3), (0x1EEA5, 0x1EEA9),
   (0x1EEAB, 0x1EEBB), (0x1EEF0, 0x1EEF1), (0x1F000, 0x1F02B), (0x1F030, 0x1F093),
   (0x1F0A0, 0x1F0AE), (0x1F0B1, 0x1F0BF), (0x1F0C1, 0x1F0CF), (0x1F0D1, 0x1F0F5),
   (0x1F101, 0x1F1AD), (0x1F1E6, 0x1F202), (0x1F210, 0x1F23B), (0x1F240, 0x1F248),
   (0x1F250, 0x1F251), (0x1F260, 0x1F265), (0x1F300, 0x1F6D8), (0x1F6DC, 0x1F6EC),
   (0x1F6F0, 0x1F6FC), (0x1F700, 0x1F7D9), (0x1F7E0, 0x1F7EB), (0x1F7F0, 0x1F7F0),
   (0x1F800, 0x1F80B), (0x1F810, 0x1F847), (0x1F850, 0x1F859), (0x1F860, 0x1F887),
   (0x1F890, 0x1F8AD), (0x1F8B0, 0x1F8BB), (0x1F8C0, 0x1F8C1), (0x1F8D0, 0x1F8D8),
   (0x1F900, 0x1FA57), (0x1FA60, 0x1FA6D), (0x1FA70, 0x1FA7C), (0x1FA80, 0x1FA8A),
   (0x1FA8E, 0x1FAC6), (0x1FAC8, 0x1FAC8), (0x1FACD, 0x1FADC), (0x1FADF, 0x1FAEA),
   (0x1FAEF, 0x1FAF8), (0x1FB00, 0x1FB92), (0x1FB94, 0x1FBFA), (0x20000, 0x2A6DF),
   (0x2A700, 0x2B81D), (0x2B820, 0x2CEAD), (0x2CEB0, 0x2EBE0), (0x2EBF0, 0x2EE5D),
   (0x2F800, 0x2FA1D), (0x30000, 0x3134A), (0x31350, 0x33479), (0xE0100, 0xE01EF)]

/-- Replacements of characters beyond ASCII. A row gives a code point and the
    replacements of it and of the code points after it, in hexadecimal digits; a
    replacement of several code points has a `+` between them, and a dropped character
    has a `-`. -/
def replacements : List (Nat × String) :=
  [(0xA0, "20"),
   (0xA8, "20+308 A9 61 AB AC - AE 20+304 B0 B1 32 33 20+301 3BC B6 B7 20+327 31 6F BB"),
   (0xBC, "31+2044+34 31+2044+32 33+2044+34 BF E0 E1 E2 E3 E4 E5 E6 E7 E8 E9 EA EB EC ED EE EF"),
   (0xD0, "F0 F1 F2 F3 F4 F5 F6 D7 F8 F9 FA FB FC FD FE"),
   (0x100, "101 101 103 103 105 105 107 107 109 109 10B 10B 10D 10D 10F 10F 111 111 113 113 115"),
   (0x115, "115 117 117 119 119 11B 11B 11D 11D 11F 11F 121 121 123 123 125 125 127 127 129 129"),
   (0x12A, "12B 12B 12D 12D 12F 12F 69+307 131 69+6A 69+6A 135 135 137 137 138 13A 13A 13C 13C"),
   (0x13D, "13E 13E 6C+B7 6C+B7 142 142 144 144 146 146 148 148 2BC+6E 14B 14B 14D 14D 14F 14F"),
   (0x150, "151 151 153 153 155 155 157 157 159 159 15B 15B 15D 15D 15F 15F 161 161 163 163 165"),
   (0x165, "165 167 167 169 169 16B 16B 16D 16D 16F 16F 171 171 173 173 175 175 177 177 FF 17A"),
   (0x17A, "17A 17C 17C 17E 17E 73 180 253 183 183 185 185 254 188 188 256 257 18C 18C 18D 1DD"),
   (0x18F, "259 25B 192 192 260 263 195 269 268 199 199 19A 19B 26F 272 19E 275 1A1 1A1 1A3 1A3"),
   (0x1A4, "1A5 1A5 280 1A8 1A8 283 1AA 1AB 1AD 1AD 288 1B0 1B0 28A 28B 1B4 1B4 1B6 1B6 292 1B9"),
   (0x1B9, "1B9 1BA 1BB 1BD"),
   (0x1C4, "64+17E 64+17E 64+17E 6C+6A 6C+6A 6C+6A 6E+6A 6E+6A 6E+6A 1CE 1CE 1D0 1D0 1D2 1D2"),
   (0x1D3, "1D4 1D4 1D6 1D6 1D8 1D8 1DA 1DA 1DC 1DC 1DD 1DF 1DF 1E1 1E1 1E3 1E3 1E5 1E5 1E7 1E7"),
   (0x1E8, "1E9 1E9 1EB 1EB 1ED 1ED 1EF 1EF 1F0 64+7A 64+7A 64+7A 1F5 1F5 195 1BF 1F9 1F9 1FB"),
   (0x1FB, "1FB 1FD 1FD 1FF 1FF 201 201 203 203 205 205 207 207 209 209 20B 20B 20D 20D 20F 20F"),
   (0x210, "211 211 213 213 215 215 217 217 219 219 21B 21B 21D 21D 21F 21F 19E 221 223 223 225"),
   (0x225, "225 227 227 229 229 22B 22B 22D 22D 22F 22F 231 231 233"),
   (0x23A, "2C65 23C 23C 19A 2C66 23F 240 242 242 180 289 28C 247 247 249 249 24B 24B 24D 24D"),
   (0x24E, "24F"),
   (0x2B0, "68 266 6A 72 279 27B 281 77 79"),
   (0x2D8, "20+306 20+307 20+30A 20+328 20+303 20+30B 2DE 2DF 263 6C 73 78 295"),
   (0x340, "300 301 342 313 308+301 3B9"),
   (0x34F, "-"),
   (0x370, "371 371 373 373 2B9 375 377 377 378 379 20+3B9 37B 37C 37D 3B 3F3"),
   (0x384, "20+301 20+308+301 3AC B7 3AD 3AE 3AF 38B 3CC 38D 3CD 3CE 390 3B1 3B2 3B3 3B4 3B5"),
   (0x396, "3B6 3B7 3B8 3B9 3BA 3BB 3BC 3BD 3BE 3BF 3C0 3C1 3A2 3C3 3C4 3C5 3C6 3C7 3C8 3C9 3CA"),
   (0x3AB, "3CB"),
   (0x3CF, "3D7 3B2 3B8 3C5 3CD 3CB 3C6 3C0 3D7 3D9 3D9 3DB 3DB 3DD 3DD 3DF 3DF 3E1 3E1 3E3 3E3"),
   (0x3E4, "3E5 3E5 3E7 3E7 3E9 3E9 3EB 3EB 3ED 3ED 3EF 3EF 3BA 3C1 3C3 3F3 3B8 3B5 3F6 3F8 3F8"),
   (0x3F9, "3C3 3FB 3FB 3FC 37B 37C 37D 450 451 452 453 454 455 456 457 458 459 45A 45B 45C 45D"),
   (0x40E, "45E 45F 430 431 432 433 434 435 436 437 438 439 43A 43B 43C 43D 43E 43F 440 441 442"),
   (0x423, "443 444 445 446 447 448 449 44A 44B 44C 44D 44E 44F"),
   (0x460, "461 461 463 463 465 465 467 467 469 469 46B 46B 46D 46D 46F 46F 471 471 473 473 475"),
   (0x475, "475 477 477 479 479 47B 47B 47D 47D 47F 47F 481"),
   (0x48A, "48B 48B 48D 48D 48F 48F 491 491 493 493 495 495 497 497 499 499 49B 49B 49D 49D 49F"),
   (0x49F, "49F 4A1 4A1 4A3 4A3 4A5 4A5 4A7 4A7 4A9 4A9 4AB 4AB 4AD 4AD 4AF 4AF 4B1 4B1 4B3 4B3"),
   (0x4B4, "4B5 4B5 4B7 4B7 4B9 4B9 4BB 4BB 4BD 4BD 4BF 4BF 4CF 4C2 4C2 4C4 4C4 4C6 4C6 4C8 4C8"),
   (0x4C9, "4CA 4CA 4CC 4CC 4CE 4CE 4CF 4D1 4D1 4D3 4D3 4D5 4D5 4D7 4D7 4D9 4D9 4DB 4DB 4DD 4DD"),
   (0x4DE, "4DF 4DF 4E1 4E1 4E3 4E3 4E5 4E5 4E7 4E7 4E9 4E9 4EB 4EB 4ED 4ED 4EF 4EF 4F1 4F1 4F3"),
   (0x4F3, "4F3 4F5 4F5 4F7 4F7 4F9 4F9 4FB 4FB 4FD 4FD 4FF 4FF 501 501 503 503 505 505 507 507"),
   (0x508, "509 509 50B 50B 50D 50D 50F 50F 511 511 513 513 515 515 517 517 519 519 51B 51B 51D"),
   (0x51D, "51D 51F 51F 521 521 523 523 525 525 527 527 529 529 52B 52B 52D 52D 52F 52F 530 561"),
   (0x532, "562 563 564 565 566 567 568 569 56A 56B 56C 56D 56E 56F 570 571 572 573 574 575 576"),
   (0x547, "577 578 579 57A 57B 57C 57D 57E 57F 580 581 582 583 584 585 586"),
   (0x587, "565+582"),
   (0x675, "627+674 648+674 6C7+674 64A+674"),
   (0x958, "915+93C 916+93C 917+93C 91C+93C 921+93C 922+93C 92B+93C 92F+93C"),
   (0x9DC, "9A1+9BC 9A2+9BC 9DE 9AF+9BC"),
   (0xA33, "A32+A3C A34 A35 A38+A3C"),
   (0xA59, "A16+A3C A17+A3C A1C+A3C A5C A5D A2B+A3C"),
   (0xB5C, "B21+B3C B22+B3C"),
   (0xE33, "E4D+E32"),
   (0xEB3, "ECD+EB2"),
   (0xEDC, "EAB+E99 EAB+EA1"),
   (0xF0C, "F0B"),
   (0xF43, "F42+FB7"),
   (0xF4D, "F4C+FB7"),
   (0xF52, "F51+FB7"),
   (0xF57, "F56+FB7"),
   (0xF5C, "F5B+FB7"),
   (0xF69, "F40+FB5"),
   (0xF73, "F71+F72 F74 F71+F74 FB2+F80 FB2+F71+F80 FB3+F80 FB3+F71+F80"),
   (0xF81, "F71+F80"),
   (0xF93, "F92+FB7"),
   (0xF9D, "F9C+FB7"),
   (0xFA2, "FA1+FB7"),
   (0xFA7, "FA6+FB7"),
   (0xFAC, "FAB+FB7"),
   (0xFB9, "F90+FB5"),
   (0x10A0, "2D00 2D01 2D02 2D03 2D04 2D05 2D06 2D07 2D08 2D09 2D0A 2D0B 2D0C 2D0D 2D0E 2D0F"),
   (0x10B0, "2D10 2D11 2D12 2D13 2D14 2D15 2D16 2D17 2D18 2D19 2D1A 2D1B 2D1C 2D1D 2D1E 2D1F"),
   (0x10C0, "2D20 2D21 2D22 2D23 2D24 2D25 10C6 2D27"),
   (0x10CD, "2D2D"),
   (0x10FC, "10DC"),
   (0x115F, "- -"),
   (0x13F8, "13F0 13F1 13F2 13F3 13F4 13F5"),
   (0x17B4, "- -"),
   (0x180B, "- - - - -"),
   (0x1C80, "432 434 43E 441 442 442 44A 463 A64B 1C8A"),
   (0x1C90, "10D0 10D1 10D2 10D3 10D4 10D5 10D6 10D7 10D8 10D9 10DA 10DB 10DC 10DD 10DE 10DF"),
   (0x1CA0, "10E0 10E1 10E2 10E3 10E4 10E5 10E6 10E7 10E8 10E9 10EA 10EB 10EC 10ED 10EE 10EF"),
   (0x1CB0, "10F0 10F1 10F2 10F3 10F4 10F5 10F6 10F7 10F8 10F9 10FA 1CBB 1CBC 10FD 10FE 10FF"),
   (0x1D2C, "61 E6 62 1D2F 64 65 1DD 67 68 69 6A 6B 6C 6D 6E 1D3B 6F 223 70 72 74 75 77 61 250"),
   (0x1D45, "251 1D02 62 64 65 259 25B 25C 67 1D4E 6B 6D 14B 6F 254 1D16 1D17 70 74 75 1D1D 26F"),
   (0x1D5B, "76 1D25 3B2 3B3 3B4 3C6 3C7 69 72 75 76 3B2 3B3 3C1 3C6 3C7"),
   (0x1D78, "43D"),
   (0x1D9B, "252 63 255 F0 25C 66 25F 261 265 268 269 26A 1D7B 29D 26D 1D85 29F 271 270 272 273"),
   (0x1DB0, "274 275 278 282 283 1AB 289 28A 1D1C 28B 28C 7A 290 291 292 3B8"),
   (0x1E00, "1E01 1E01 1E03 1E03 1E05 1E05 1E07 1E07 1E09 1E09 1E0B 1E0B 1E0D 1E0D 1E0F 1E0F"),
   (0x1E10, "1E11 1E11 1E13 1E13 1E15 1E15 1E17 1E17 1E19 1E19 1E1B 1E1B 1E1D 1E1D 1E1F 1E1F"),
   (0x1E20, "1E21 1E21 1E23 1E23 1E25 1E25 1E27 1E27 1E29 1E29 1E2B 1E2B 1E2D 1E2D 1E2F 1E2F"),
   (0x1E30, "1E31 1E31 1E33 1E33 1E35 1E35 1E37 1E37 1E39 1E39 1E3B 1E3B 1E3D 1E3D 1E3F 1E3F"),
   (0x1E40, "1E41 1E41 1E43 1E43 1E45 1E45 1E47 1E47 1E49 1E49 1E4B 1E4B 1E4D 1E4D 1E4F 1E4F"),
   (0x1E50, "1E51 1E51 1E53 1E53 1E55 1E55 1E57 1E57 1E59 1E59 1E5B 1E5B 1E5D 1E5D 1E5F 1E5F"),
   (0x1E60, "1E61 1E61 1E63 1E63 1E65 1E65 1E67 1E67 1E69 1E69 1E6B 1E6B 1E6D 1E6D 1E6F 1E6F"),
   (0x1E70, "1E71 1E71 1E73 1E73 1E75 1E75 1E77 1E77 1E79 1E79 1E7B 1E7B 1E7D 1E7D 1E7F 1E7F"),
   (0x1E80, "1E81 1E81 1E83 1E83 1E85 1E85 1E87 1E87 1E89 1E89 1E8B 1E8B 1E8D 1E8D 1E8F 1E8F"),
   (0x1E90, "1E91 1E91 1E93 1E93 1E95"),
   (0x1E9A, "61+2BE 1E61 1E9C 1E9D DF 1E9F 1EA1 1EA1 1EA3 1EA3 1EA5 1EA5 1EA7 1EA7 1EA9 1EA9"),
   (0x1EAA, "1EAB 1EAB 1EAD 1EAD 1EAF 1EAF 1EB1 1EB1 1EB3 1EB3 1EB5 1EB5 1EB7 1EB7 1EB9 1EB9"),
   (0x1EBA, "1EBB 1EBB 1EBD 1EBD 1EBF 1EBF 1EC1 1EC1 1EC3 1EC3 1EC5 1EC5 1EC7 1EC7 1EC9 1EC9"),
   (0x1ECA, "1ECB 1ECB 1ECD 1ECD 1ECF 1ECF 1ED1 1ED1 1ED3 1ED3 1ED5 1ED5 1ED7 1ED7 1ED9 1ED9"),
   (0x1EDA, "1EDB 1EDB 1EDD 1EDD 1EDF 1EDF 1EE1 1EE1 1EE3 1EE3 1EE5 1EE5 1EE7 1EE7 1EE9 1EE9"),
   (0x1EEA, "1EEB 1EEB 1EED 1EED 1EEF 1EEF 1EF1 1EF1 1EF3 1EF3 1EF5 1EF5 1EF7 1EF7 1EF9 1EF9"),
   (0x1EFA, "1EFB 1EFB 1EFD 1EFD 1EFF"),
   (0x1F08, "1F00 1F01 1F02 1F03 1F04 1F05 1F06 1F07"),
   (0x1F18, "1F10 1F11 1F12 1F13 1F14 1F15"),
   (0x1F28, "1F20 1F21 1F22 1F23 1F24 1F25 1F26 1F27"),
   (0x1F38, "1F30 1F31 1F32 1F33 1F34 1F35 1F36 1F37"),
   (0x1F48, "1F40 1F41 1F42 1F43 1F44 1F45"),
   (0x1F59, "1F51 1F5A 1F53 1F5C 1F55 1F5E 1F57"),
   (0x1F68, "1F60 1F61 1F62 1F63 1F64 1F65 1F66 1F67 1F70 3AC 1F72 3AD 1F74 3AE 1F76 3AF 1F78"),
   (0x1F79, "3CC 1F7A 3CD 1F7C 3CE 1F7E 1F7F 1F00+3B9 1F01+3B9 1F02+3B9 1F03+3B9 1F04+3B9"),
   (0x1F85, "1F05+3B9 1F06+3B9 1F07+3B9 1F00+3B9 1F01+3B9 1F02+3B9 1F03+3B9 1F04+3B9 1F05+3B9"),
   (0x1F8E, "1F06+3B9 1F07+3B9 1F20+3B9 1F21+3B9 1F22+3B9 1F23+3B9 1F24+3B9 1F25+3B9 1F26+3B9"),
   (0x1F97, "1F27+3B9 1F20+3B9 1F21+3B9 1F22+3B9 1F23+3B9 1F24+3B9 1F25+3B9 1F26+3B9 1F27+3B9"),
   (0x1FA0, "1F60+3B9 1F61+3B9 1F62+3B9 1F63+3B9 1F64+3B9 1F65+3B9 1F66+3B9 1F67+3B9 1F60+3B9"),
   (0x1FA9, "1F61+3B9 1F62+3B9 1F63+3B9 1F64+3B9 1F65+3B9 1F66+3B9 1F67+3B9 1FB0 1FB1 1F70+3B9"),
   (0x1FB3, "3B1+3B9 3AC+3B9 1FB5 1FB6 1FB6+3B9 1FB0 1FB1 1F70 3AC 3B1+3B9 20+313 3B9 20+313"),
   (0x1FC0, "20+342 20+308+342 1F74+3B9 3B7+3B9 3AE+3B9 1FC5 1FC6 1FC6+3B9 1F72 3AD 1F74 3AE"),
   (0x1FCC, "3B7+3B9 20+313+300 20+313+301 20+313+342 1FD0 1FD1 1FD2 390"),
   (0x1FD8, "1FD0 1FD1 1F76 3AF 1FDC 20+314+300 20+314+301 20+314+342 1FE0 1FE1 1FE2 3B0"),
   (0x1FE8, "1FE0 1FE1 1F7A 3CD 1FE5 20+308+300 20+308+301 60 1FF0 1FF1 1F7C+3B9 3C9+3B9"),
   (0x1FF4, "3CE+3B9 1FF5 1FF6 1FF6+3B9 1F78 3CC 1F7C 3CE 3C9+3B9 20+301 20+314 1FFF 20 20 20"),
   (0x2003, "20 20 20 20 20 20 20 20 -"),
   (0x2011, "2010"),
   (0x2017, "20+333"),
   (0x202F, "20 2030 2031 2032 2032+2032 2032+2032+2032 2035 2035+2035 2035+2035+2035"),
   (0x203C, "21+21 203D 20+305"),
   (0x2047, "3F+3F 3F+21 21+3F"),
   (0x2057, "2032+2032+2032+2032"),
   (0x205F, "20 - - - - -"),
   (0x206A, "- - - - - - 30 69 2072 2073 34 35 36 37 38 39 2B 2212 3D 28 29 6E 30 31 32 33 34"),
   (0x2085, "35 36 37 38 39 2B 2212 3D 28 29 208F 61 65 6F 78 259 68 6B 6C 6D 6E 70 73 74"),
   (0x20A8, "72+73"),
   (0x2100, "61+2F+63 61+2F+73 63 B0+63 2104 63+2F+6F 63+2F+75 25B 2108 B0+66 67 68 68 68 68"),
   (0x210F, "127 69 69 6C 6C 2114 6E 6E+6F 2117 2118 70 71 72 72 72 211E 211F 73+6D 74+65+6C"),
   (0x2122, "74+6D 2123 7A 2125 3C9 2127 7A 2129 6B E5 62 63 212E 65 65 66 214E 6D 6F 5D0 5D1"),
   (0x2137, "5D2 5D3 69 213A 66+61+78 3C0 3B3 3B3 3C0 2211"),
   (0x2145, "64 64 65 69 6A"),
   (0x2150, "31+2044+37 31+2044+39 31+2044+31+30 31+2044+33 32+2044+33 31+2044+35 32+2044+35"),
   (0x2157, "33+2044+35 34+2044+35 31+2044+36 35+2044+36 31+2044+38 33+2044+38 35+2044+38"),
   (0x215E, "37+2044+38 31+2044 69 69+69 69+69+69 69+76 76 76+69 76+69+69 76+69+69+69 69+78 78"),
   (0x216A, "78+69 78+69+69 6C 63 64 6D 69 69+69 69+69+69 69+76 76 76+69 76+69+69 76+69+69+69"),
   (0x2178, "69+78 78 78+69 78+69+69 6C 63 64 6D 2180 2181 2182 2184"),
   (0x2189, "30+2044+33"),
   (0x222C, "222B+222B 222B+222B+222B 222E 222E+222E 222E+222E+222E"),
   (0x2329, "3008 3009"),
   (0x2460, "31 32 33 34 35 36 37 38 39 31+30 31+31 31+32 31+33 31+34 31+35 31+36 31+37 31+38"),
   (0x2472, "31+39 32+30 28+31+29 28+32+29 28+33+29 28+34+29 28+35+29 28+36+29 28+37+29"),
   (0x247B, "28+38+29 28+39+29 28+31+30+29 28+31+31+29 28+31+32+29 28+31+33+29 28+31+34+29"),
   (0x2482, "28+31+35+29 28+31+36+29 28+31+37+29 28+31+38+29 28+31+39+29 28+32+30+29"),
   (0x249C, "28+61+29 28+62+29 28+63+29 28+64+29 28+65+29 28+66+29 28+67+29 28+68+29 28+69+29"),
   (0x24A5, "28+6A+29 28+6B+29 28+6C+29 28+6D+29 28+6E+29 28+6F+29 28+70+29 28+71+29 28+72+29"),
   (0x24AE, "28+73+29 28+74+29 28+75+29 28+76+29 28+77+29 28+78+29 28+79+29 28+7A+29 61 62 63"),
   (0x24B9, "64 65 66 67 68 69 6A 6B 6C 6D 6E 6F 70 71 72 73 74 75 76 77 78 79 7A 61 62 63 64"),
   (0x24D4, "65 66 67 68 69 6A 6B 6C 6D 6E 6F 70 71 72 73 74 75 76 77 78 79 7A 30"),
   (0x2A0C, "222B+222B+222B+222B"),
   (0x2A74, "3A+3A+3D 3D+3D 3D+3D+3D"),
   (0x2ADC, "2ADD+338"),
   (0x2C00, "2C30 2C31 2C32 2C33 2C34 2C35 2C36 2C37 2C38 2C39 2C3A 2C3B 2C3C 2C3D 2C3E 2C3F"),
   (0x2C10, "2C40 2C41 2C42 2C43 2C44 2C45 2C46 2C47 2C48 2C49 2C4A 2C4B 2C4C 2C4D 2C4E 2C4F"),
   (0x2C20, "2C50 2C51 2C52 2C53 2C54 2C55 2C56 2C57 2C58 2C59 2C5A 2C5B 2C5C 2C5D 2C5E 2C5F"),
   (0x2C60, "2C61 2C61 26B 1D7D 27D 2C65 2C66 2C68 2C68 2C6A 2C6A 2C6C 2C6C 251 271 250 252"),
   (0x2C71, "2C71 2C73 2C73 2C74 2C76"),
   (0x2C7C, "6A 76 23F 240 2C81 2C81 2C83 2C83 2C85 2C85 2C87 2C87 2C89 2C89 2C8B 2C8B 2C8D"),
   (0x2C8D, "2C8D 2C8F 2C8F 2C91 2C91 2C93 2C93 2C95 2C95 2C97 2C97 2C99 2C99 2C9B 2C9B 2C9D"),
   (0x2C9D, "2C9D 2C9F 2C9F 2CA1 2CA1 2CA3 2CA3 2CA5 2CA5 2CA7 2CA7 2CA9 2CA9 2CAB 2CAB 2CAD"),
   (0x2CAD, "2CAD 2CAF 2CAF 2CB1 2CB1 2CB3 2CB3 2CB5 2CB5 2CB7 2CB7 2CB9 2CB9 2CBB 2CBB 2CBD"),
   (0x2CBD, "2CBD 2CBF 2CBF 2CC1 2CC1 2CC3 2CC3 2CC5 2CC5 2CC7 2CC7 2CC9 2CC9 2CCB 2CCB 2CCD"),
   (0x2CCD, "2CCD 2CCF 2CCF 2CD1 2CD1 2CD3 2CD3 2CD5 2CD5 2CD7 2CD7 2CD9 2CD9 2CDB 2CDB 2CDD"),
   (0x2CDD, "2CDD 2CDF 2CDF 2CE1 2CE1 2CE3"),
   (0x2CEB, "2CEC 2CEC 2CEE"),
   (0x2CF2, "2CF3"),
   (0x2D6F, "2D61"),
   (0x2E9F, "6BCD"),
   (0x2EF3, "9F9F"),
   (0x2F00, "4E00 4E28 4E36 4E3F 4E59 4E85 4E8C 4EA0 4EBA 513F 5165 516B 5182 5196 51AB 51E0"),
   (0x2F10, "51F5 5200 529B 52F9 5315 531A 5338 5341 535C 5369 5382 53B6 53C8 53E3 56D7 571F"),
   (0x2F20, "58EB 5902 590A 5915 5927 5973 5B50 5B80 5BF8 5C0F 5C22 5C38 5C6E 5C71 5DDB 5DE5"),
   (0x2F30, "5DF1 5DFE 5E72 5E7A 5E7F 5EF4 5EFE 5F0B 5F13 5F50 5F61 5F73 5FC3 6208 6236 624B"),
   (0x2F40, "652F 6534 6587 6597 65A4 65B9 65E0 65E5 66F0 6708 6728 6B20 6B62 6B79 6BB3 6BCB"),
   (0x2F50, "6BD4 6BDB 6C0F 6C14 6C34 706B 722A 7236 723B 723F 7247 7259 725B 72AC 7384 7389"),
   (0x2F60, "74DC 74E6 7518 751F 7528 7530 758B 7592 7676 767D 76AE 76BF 76EE 77DB 77E2 77F3"),
   (0x2F70, "793A 79B8 79BE 7A74 7ACB 7AF9 7C73 7CF8 7F36 7F51 7F8A 7FBD 8001 800C 8012 8033"),
   (0x2F80, "807F 8089 81E3 81EA 81F3 81FC 820C 821B 821F 826E 8272 8278 864D 866B 8840 884C"),
   (0x2F90, "8863 897E 898B 89D2 8A00 8C37 8C46 8C55 8C78 8C9D 8D64 8D70 8DB3 8EAB 8ECA 8F9B"),
   (0x2FA0, "8FB0 8FB5 9091 9149 91C6 91CC 91D1 9577 9580 961C 96B6 96B9 96E8 9751 975E 9762"),
   (0x2FB0, "9769 97CB 97ED 97F3 9801 98A8 98DB 98DF 9996 9999 99AC 9AA8 9AD8 9ADF 9B25 9B2F"),
   (0x2FC0, "9B32 9B3C 9B5A 9CE5 9E75 9E7F 9EA5 9EBB 9EC3 9ECD 9ED1 9EF9 9EFD 9F0E 9F13 9F20"),
   (0x2FD0, "9F3B 9F4A 9F52 9F8D 9F9C 9FA0"),
   (0x3000, "20 3001 2E"),
   (0x3036, "3012 3037 5341 5344 5345"),
   (0x309B, "20+3099 20+309A 309D 309E 3088+308A"),
   (0x30FF, "30B3+30C8"),
   (0x3131, "1100 1101 11AA 1102 11AC 11AD 1103 1104 1105 11B0 11B1 11B2 11B3 11B4 11B5 111A"),
   (0x3141, "1106 1107 1108 1121 1109 110A 110B 110C 110D 110E 110F 1110 1111 1112 1161 1162"),
   (0x3151, "1163 1164 1165 1166 1167 1168 1169 116A 116B 116C 116D 116E 116F 1170 1171 1172"),
   (0x3161, "1173 1174 1175 - 1114 1115 11C7 11C8 11CC 11CE 11D3 11D7 11D9 111C 11DD 11DF 111D"),
   (0x3172, "111E 1120 1122 1123 1127 1129 112B 112C 112D 112E 112F 1132 1136 1140 1147 114C"),
   (0x3182, "11F1 11F2 1157 1158 1159 1184 1185 1188 1191 1192 1194 119E 11A1 318F 3190 3191"),
   (0x3192, "4E00 4E8C 4E09 56DB 4E0A 4E2D 4E0B 7532 4E59 4E19 4E01 5929 5730 4EBA"),
   (0x3200, "28+1100+29 28+1102+29 28+1103+29 28+1105+29 28+1106+29 28+1107+29 28+1109+29"),
   (0x3207, "28+110B+29 28+110C+29 28+110E+29 28+110F+29 28+1110+29 28+1111+29 28+1112+29"),
   (0x320E, "28+AC00+29 28+B098+29 28+B2E4+29 28+B77C+29 28+B9C8+29 28+BC14+29 28+C0AC+29"),
   (0x3215, "28+C544+29 28+C790+29 28+CC28+29 28+CE74+29 28+D0C0+29 28+D30C+29 28+D558+29"),
   (0x321C, "28+C8FC+29 28+C624+C804+29 28+C624+D6C4+29 321F 28+4E00+29 28+4E8C+29 28+4E09+29"),
   (0x3223, "28+56DB+29 28+4E94+29 28+516D+29 28+4E03+29 28+516B+29 28+4E5D+29 28+5341+29"),
   (0x322A, "28+6708+29 28+706B+29 28+6C34+29 28+6728+29 28+91D1+29 28+571F+29 28+65E5+29"),
   (0x3231, "28+682A+29 28+6709+29 28+793E+29 28+540D+29 28+7279+29 28+8CA1+29 28+795D+29"),
   (0x3238, "28+52B4+29 28+4EE3+29 28+547C+29 28+5B66+29 28+76E3+29 28+4F01+29 28+8CC7+29"),
   (0x323F, "28+5354+29 28+796D+29 28+4F11+29 28+81EA+29 28+81F3+29 554F 5E7C 6587 7B8F"),
   (0x3250, "70+74+65 32+31 32+32 32+33 32+34 32+35 32+36 32+37 32+38 32+39 33+30 33+31 33+32"),
   (0x325D, "33+33 33+34 33+35 1100 1102 1103 1105 1106 1107 1109 110B 110C 110E 110F 1110 1111"),
   (0x326D, "1112 AC00 B098 B2E4 B77C B9C8 BC14 C0AC C544 C790 CC28 CE74 D0C0 D30C D558"),
   (0x327C, "CC38+ACE0 C8FC+C758 C6B0 327F 4E00 4E8C 4E09 56DB 4E94 516D 4E03 516B 4E5D 5341"),
   (0x328A, "6708 706B 6C34 6728 91D1 571F 65E5 682A 6709 793E 540D 7279 8CA1 795D 52B4 79D8"),
   (0x329A, "7537 5973 9069 512A 5370 6CE8 9805 4F11 5199 6B63 4E0A 4E2D 4E0B 5DE6 53F3 533B"),
   (0x32AA, "5B97 5B66 76E3 4F01 8CC7 5354 591C 33+36 33+37 33+38 33+39 34+30 34+31 34+32 34+33"),
   (0x32B9, "34+34 34+35 34+36 34+37 34+38 34+39 35+30 31+6708 32+6708 33+6708 34+6708 35+6708"),
   (0x32C5, "36+6708 37+6708 38+6708 39+6708 31+30+6708 31+31+6708 31+32+6708 68+67 65+72+67"),
   (0x32CE, "65+76 6C+74+64 30A2 30A4 30A6 30A8 30AA 30AB 30AD 30AF 30B1 30B3 30B5 30B7 30B9"),
   (0x32DD, "30BB 30BD 30BF 30C1 30C4 30C6 30C8 30CA 30CB 30CC 30CD 30CE 30CF 30D2 30D5 30D8"),
   (0x32ED, "30DB 30DE 30DF 30E0 30E1 30E2 30E4 30E6 30E8 30E9 30EA 30EB 30EC 30ED 30EF 30F0"),
   (0x32FD, "30F1 30F2 4EE4+548C 30A2+30D1+30FC+30C8 30A2+30EB+30D5+30A1 30A2+30F3+30DA+30A2"),
   (0x3303, "30A2+30FC+30EB 30A4+30CB+30F3+30B0 30A4+30F3+30C1 30A6+30A9+30F3"),
   (0x3307, "30A8+30B9+30AF+30FC+30C9 30A8+30FC+30AB+30FC 30AA+30F3+30B9 30AA+30FC+30E0"),
   (0x330B, "30AB+30A4+30EA 30AB+30E9+30C3+30C8 30AB+30ED+30EA+30FC 30AC+30ED+30F3"),
   (0x330F, "30AC+30F3+30DE 30AE+30AC 30AE+30CB+30FC 30AD+30E5+30EA+30FC 30AE+30EB+30C0+30FC"),
   (0x3314, "30AD+30ED 30AD+30ED+30B0+30E9+30E0 30AD+30ED+30E1+30FC+30C8+30EB"),
   (0x3317, "30AD+30ED+30EF+30C3+30C8 30B0+30E9+30E0 30B0+30E9+30E0+30C8+30F3"),
   (0x331A, "30AF+30EB+30BC+30A4+30ED 30AF+30ED+30FC+30CD 30B1+30FC+30B9 30B3+30EB+30CA"),
   (0x331E, "30B3+30FC+30DD 30B5+30A4+30AF+30EB 30B5+30F3+30C1+30FC+30E0 30B7+30EA+30F3+30B0"),
   (0x3322, "30BB+30F3+30C1 30BB+30F3+30C8 30C0+30FC+30B9 30C7+30B7 30C9+30EB 30C8+30F3"),
   (0x3328, "30CA+30CE 30CE+30C3+30C8 30CF+30A4+30C4 30D1+30FC+30BB+30F3+30C8 30D1+30FC+30C4"),
   (0x332D, "30D0+30FC+30EC+30EB 30D4+30A2+30B9+30C8+30EB 30D4+30AF+30EB 30D4+30B3 30D3+30EB"),
   (0x3332, "30D5+30A1+30E9+30C3+30C9 30D5+30A3+30FC+30C8 30D6+30C3+30B7+30A7+30EB"),
   (0x3335, "30D5+30E9+30F3 30D8+30AF+30BF+30FC+30EB 30DA+30BD 30DA+30CB+30D2 30D8+30EB+30C4"),
   (0x333A, "30DA+30F3+30B9 30DA+30FC+30B8 30D9+30FC+30BF 30DD+30A4+30F3+30C8 30DC+30EB+30C8"),
   (0x333F, "30DB+30F3 30DD+30F3+30C9 30DB+30FC+30EB 30DB+30FC+30F3 30DE+30A4+30AF+30ED"),
   (0x3344, "30DE+30A4+30EB 30DE+30C3+30CF 30DE+30EB+30AF 30DE+30F3+30B7+30E7+30F3"),
   (0x3348, "30DF+30AF+30ED+30F3 30DF+30EA 30DF+30EA+30D0+30FC+30EB 30E1+30AC"),
   (0x334C, "30E1+30AC+30C8+30F3 30E1+30FC+30C8+30EB 30E4+30FC+30C9 30E4+30FC+30EB"),
   (0x3350, "30E6+30A2+30F3 30EA+30C3+30C8+30EB 30EA+30E9 30EB+30D4+30FC 30EB+30FC+30D6+30EB"),
   (0x3355, "30EC+30E0 30EC+30F3+30C8+30B2+30F3 30EF+30C3+30C8 30+70B9 31+70B9 32+70B9 33+70B9"),
   (0x335C, "34+70B9 35+70B9 36+70B9 37+70B9 38+70B9 39+70B9 31+30+70B9 31+31+70B9 31+32+70B9"),
   (0x3365, "31+33+70B9 31+34+70B9 31+35+70B9 31+36+70B9 31+37+70B9 31+38+70B9 31+39+70B9"),
   (0x336C, "32+30+70B9 32+31+70B9 32+32+70B9 32+33+70B9 32+34+70B9 68+70+61 64+61 61+75"),
   (0x3374, "62+61+72 6F+76 70+63 64+6D 64+6D+32 64+6D+33 69+75 5E73+6210 662D+548C 5927+6B63"),
   (0x337E, "660E+6CBB 682A+5F0F+4F1A+793E 70+61 6E+61 3BC+61 6D+61 6B+61 6B+62 6D+62 67+62"),
   (0x3388, "63+61+6C 6B+63+61+6C 70+66 6E+66 3BC+66 3BC+67 6D+67 6B+67 68+7A 6B+68+7A 6D+68+7A"),
   (0x3393, "67+68+7A 74+68+7A 3BC+6C 6D+6C 64+6C 6B+6C 66+6D 6E+6D 3BC+6D 6D+6D 63+6D 6B+6D"),
   (0x339F, "6D+6D+32 63+6D+32 6D+32 6B+6D+32 6D+6D+33 63+6D+33 6D+33 6B+6D+33 6D+2215+73"),
   (0x33A8, "6D+2215+73+32 70+61 6B+70+61 6D+70+61 67+70+61 72+61+64 72+61+64+2215+73"),
   (0x33AF, "72+61+64+2215+73+32 70+73 6E+73 3BC+73 6D+73 70+76 6E+76 3BC+76 6D+76 6B+76 6D+76"),
   (0x33BA, "70+77 6E+77 3BC+77 6D+77 6B+77 6D+77 6B+3C9 6D+3C9 33C2 62+71 63+63 63+64"),
   (0x33C6, "63+2215+6B+67 33C7 64+62 67+79 68+61 68+70 69+6E 6B+6B 6B+6D 6B+74 6C+6D 6C+6E"),
   (0x33D2, "6C+6F+67 6C+78 6D+62 6D+69+6C 6D+6F+6C 70+68 33D8 70+70+6D 70+72 73+72 73+76 77+62"),
   (0x33DE, "76+2215+6D 61+2215+6D 31+65E5 32+65E5 33+65E5 34+65E5 35+65E5 36+65E5 37+65E5"),
   (0x33E7, "38+65E5 39+65E5 31+30+65E5 31+31+65E5 31+32+65E5 31+33+65E5 31+34+65E5 31+35+65E5"),
   (0x33EF, "31+36+65E5 31+37+65E5 31+38+65E5 31+39+65E5 32+30+65E5 32+31+65E5 32+32+65E5"),
   (0x33F6, "32+33+65E5 32+34+65E5 32+35+65E5 32+36+65E5 32+37+65E5 32+38+65E5 32+39+65E5"),
   (0x33FD, "33+30+65E5 33+31+65E5 67+61+6C"),
   (0xA640, "A641 A641 A643 A643 A645 A645 A647 A647 A649 A649 A64B A64B A64D A64D A64F A64F"),
   (0xA650, "A651 A651 A653 A653 A655 A655 A657 A657 A659 A659 A65B A65B A65D A65D A65F A65F"),
   (0xA660, "A661 A661 A663 A663 A665 A665 A667 A667 A669 A669 A66B A66B A66D"),
   (0xA680, "A681 A681 A683 A683 A685 A685 A687 A687 A689 A689 A68B A68B A68D A68D A68F A68F"),
   (0xA690, "A691 A691 A693 A693 A695 A695 A697 A697 A699 A699 A69B A69B 44A 44C"),
   (0xA722, "A723 A723 A725 A725 A727 A727 A729 A729 A72B A72B A72D A72D A72F A72F A730 A731"),
   (0xA732, "A733 A733 A735 A735 A737 A737 A739 A739 A73B A73B A73D A73D A73F A73F A741 A741"),
   (0xA742, "A743 A743 A745 A745 A747 A747 A749 A749 A74B A74B A74D A74D A74F A74F A751 A751"),
   (0xA752, "A753 A753 A755 A755 A757 A757 A759 A759 A75B A75B A75D A75D A75F A75F A761 A761"),
   (0xA762, "A763 A763 A765 A765 A767 A767 A769 A769 A76B A76B A76D A76D A76F A76F A76F"),
   (0xA779, "A77A A77A A77C A77C 1D79 A77F A77F A781 A781 A783 A783 A785 A785 A787"),
   (0xA78B, "A78C A78C 265 A78E A78F A791 A791 A793 A793 A794 A795 A797 A797 A799 A799 A79B"),
   (0xA79B, "A79B A79D A79D A79F A79F A7A1 A7A1 A7A3 A7A3 A7A5 A7A5 A7A7 A7A7 A7A9 A7A9 266 25C"),
   (0xA7AC, "261 26C 26A A7AF 29E 287 29D AB53 A7B5 A7B5 A7B7 A7B7 A7B9 A7B9 A7BB A7BB A7BD"),
   (0xA7BD, "A7BD A7BF A7BF A7C1 A7C1 A7C3 A7C3 A794 282 1D8E A7C8 A7C8 A7CA A7CA 264 A7CD A7CD"),
   (0xA7CE, "A7CF A7CF A7D1 A7D1 A7D3 A7D3 A7D5 A7D5 A7D7 A7D7 A7D9 A7D9 A7DB A7DB 19B"),
   (0xA7F1, "73 63 66 71 A7F6 A7F6 A7F7 127 153"),
   (0xAB5C, "A727 AB37 26B AB52"),
   (0xAB69, "28D"),
   (0xAB70, "13A0 13A1 13A2 13A3 13A4 13A5 13A6 13A7 13A8 13A9 13AA 13AB 13AC 13AD 13AE 13AF"),
   (0xAB80, "13B0 13B1 13B2 13B3 13B4 13B5 13B6 13B7 13B8 13B9 13BA 13BB 13BC 13BD 13BE 13BF"),
   (0xAB90, "13C0 13C1 13C2 13C3 13C4 13C5 13C6 13C7 13C8 13C9 13CA 13CB 13CC 13CD 13CE 13CF"),
   (0xABA0, "13D0 13D1 13D2 13D3 13D4 13D5 13D6 13D7 13D8 13D9 13DA 13DB 13DC 13DD 13DE 13DF"),
   (0xABB0, "13E0 13E1 13E2 13E3 13E4 13E5 13E6 13E7 13E8 13E9 13EA 13EB 13EC 13ED 13EE 13EF"),
   (0xF900, "8C48 66F4 8ECA 8CC8 6ED1 4E32 53E5 9F9C 9F9C 5951 91D1 5587 5948 61F6 7669 7F85"),
   (0xF910, "863F 87BA 88F8 908F 6A02 6D1B 70D9 73DE 843D 916A 99F1 4E82 5375 6B04 721B 862D"),
   (0xF920, "9E1E 5D50 6FEB 85CD 8964 62C9 81D8 881F 5ECA 6717 6D6A 72FC 90CE 4F86 51B7 52DE"),
   (0xF930, "64C4 6AD3 7210 76E7 8001 8606 865C 8DEF 9732 9B6F 9DFA 788C 797F 7DA0 83C9 9304"),
   (0xF940, "9E7F 8AD6 58DF 5F04 7C60 807E 7262 78CA 8CC2 96F7 58D8 5C62 6A13 6DDA 6F0F 7D2F"),
   (0xF950, "7E37 964B 52D2 808B 51DC 51CC 7A1C 7DBE 83F1 9675 8B80 62CF 6A02 8AFE 4E39 5BE7"),
   (0xF960, "6012 7387 7570 5317 78FB 4FBF 5FA9 4E0D 6CCC 6578 7D22 53C3 585E 7701 8449 8AAA"),
   (0xF970, "6BBA 8FB0 6C88 62FE 82E5 63A0 7565 4EAE 5169 51C9 6881 7CE7 826F 8AD2 91CF 52F5"),
   (0xF980, "5442 5973 5EEC 65C5 6FFE 792A 95AD 9A6A 9E97 9ECE 529B 66C6 6B77 8F62 5E74 6190"),
   (0xF990, "6200 649A 6F23 7149 7489 79CA 7DF4 806F 8F26 84EE 9023 934A 5217 52A3 54BD 70C8"),
   (0xF9A0, "88C2 8AAA 5EC9 5FF5 637B 6BAE 7C3E 7375 4EE4 56F9 5BE7 5DBA 601C 73B2 7469 7F9A"),
   (0xF9B0, "8046 9234 96F6 9748 9818 4F8B 79AE 91B4 96B8 60E1 4E86 50DA 5BEE 5C3F 6599 6A02"),
   (0xF9C0, "71CE 7642 84FC 907C 9F8D 6688 962E 5289 677B 67F3 6D41 6E9C 7409 7559 786B 7D10"),
   (0xF9D0, "985E 516D 622E 9678 502B 5D19 6DEA 8F2A 5F8B 6144 6817 7387 9686 5229 540F 5C65"),
   (0xF9E0, "6613 674E 68A8 6CE5 7406 75E2 7F79 88CF 88E1 91CC 96E2 533F 6EBA 541D 71D0 7498"),
   (0xF9F0, "85FA 96A3 9C57 9E9F 6797 6DCB 81E8 7ACB 7B20 7C92 72C0 7099 8B58 4EC0 8336 523A"),
   (0xFA00, "5207 5EA6 62D3 7CD6 5B85 6D1E 66B4 8F3B 884C 964D 898B 5ED3 5140 55C0 FA0E FA0F"),
   (0xFA10, "585A FA11 6674 FA13 FA14 51DE 732A 76CA 793C 795E 7965 798F 9756 7CBE 7FBD FA1F"),
   (0xFA20, "8612 FA21 8AF8 FA23 FA24 9038 90FD FA27 FA28 FA29 98EF 98FC 9928 9DB4 90DE 96B7"),
   (0xFA30, "4FAE 50E7 514D 52C9 52E4 5351 559D 5606 5668 5840 58A8 5C64 5C6E 6094 6168 618E"),
   (0xFA40, "61F2 654F 65E2 6691 6885 6D77 6E1A 6F22 716E 722B 7422 7891 793E 7949 7948 7950"),
   (0xFA50, "7956 795D 798D 798E 7A40 7A81 7BC0 7DF4 7E09 7E41 7F72 8005 81ED 8279 8279 8457"),
   (0xFA60, "8910 8996 8B01 8B39 8CD3 8D08 8FB6 9038 96E3 97FF 983B 6075 242EE 8218 FA6E FA6F"),
   (0xFA70, "4E26 51B5 5168 4F80 5145 5180 52C7 52FA 559D 5555 5599 55E2 585A 58B3 5944 5954"),
   (0xFA80, "5A62 5B28 5ED2 5ED9 5F69 5FAD 60D8 614E 6108 618E 6160 61F2 6234 63C4 641C 6452"),
   (0xFA90, "6556 6674 6717 671B 6756 6B79 6BBA 6D41 6EDB 6ECB 6F22 701E 716E 77A7 7235 72AF"),
   (0xFAA0, "732A 7471 7506 753B 761D 761F 76CA 76DB 76F4 774A 7740 78CC 7AB1 7BC0 7C7B 7D5B"),
   (0xFAB0, "7DF4 7F3E 8005 8352 83EF 8779 8941 8986 8996 8ABF 8AF8 8ACB 8B01 8AFE 8AED 8B39"),
   (0xFAC0, "8B8A 8D08 8F38 9072 9199 9276 967C 96E3 9756 97DB 97FF 980B 983B 9B12 9F9C 2284A"),
   (0xFAD0, "22844 233D5 3B9D 4018 4039 25249 25CD0 27ED3 9F43 9F8E"),
   (0xFB00, "66+66 66+69 66+6C 66+66+69 66+66+6C 73+74 73+74"),
   (0xFB13, "574+576 574+565 574+56B 57E+576 574+56D"),
   (0xFB1D, "5D9+5B4 FB1E 5F2+5B7 5E2 5D0 5D3 5D4 5DB 5DC 5DD 5E8 5EA 2B 5E9+5C1 5E9+5C2"),
   (0xFB2C, "5E9+5BC+5C1 5E9+5BC+5C2 5D0+5B7 5D0+5B8 5D0+5BC 5D1+5BC 5D2+5BC 5D3+5BC 5D4+5BC"),
   (0xFB35, "5D5+5BC 5D6+5BC FB37 5D8+5BC 5D9+5BC 5DA+5BC 5DB+5BC 5DC+5BC FB3D 5DE+5BC FB3F"),
   (0xFB40, "5E0+5BC 5E1+5BC FB42 5E3+5BC 5E4+5BC FB45 5E6+5BC 5E7+5BC 5E8+5BC 5E9+5BC 5EA+5BC"),
   (0xFB4B, "5D5+5B9 5D1+5BF 5DB+5BF 5E4+5BF 5D0+5DC 671 671 67B 67B 67B 67B 67E 67E 67E 67E"),
   (0xFB5A, "680 680 680 680 67A 67A 67A 67A 67F 67F 67F 67F 679 679 679 679 6A4 6A4 6A4 6A4"),
   (0xFB6E, "6A6 6A6 6A6 6A6 684 684 684 684 683 683 683 683 686 686 686 686 687 687 687 687"),
   (0xFB82, "68D 68D 68C 68C 68E 68E 688 688 698 698 691 691 6A9 6A9 6A9 6A9 6AF 6AF 6AF 6AF"),
   (0xFB96, "6B3 6B3 6B3 6B3 6B1 6B1 6B1 6B1 6BA 6BA 6BB 6BB 6BB 6BB 6C0 6C0 6C1 6C1 6C1 6C1"),
   (0xFBAA, "6BE 6BE 6BE 6BE 6D2 6D2 6D3 6D3"),
   (0xFBD3, "6AD 6AD 6AD 6AD 6C7 6C7 6C6 6C6 6C8 6C8 6C7+674 6CB 6CB 6C5 6C5 6C9 6C9 6D0 6D0"),
   (0xFBE6, "6D0 6D0 649 649 626+627 626+627 626+6D5 626+6D5 626+648 626+648 626+6C7 626+6C7"),
   (0xFBF2, "626+6C6 626+6C6 626+6C8 626+6C8 626+6D0 626+6D0 626+6D0 626+649 626+649 626+649"),
   (0xFBFC, "6CC 6CC 6CC 6CC 626+62C 626+62D 626+645 626+649 626+64A 628+62C 628+62D 628+62E"),
   (0xFC08, "628+645 628+649 628+64A 62A+62C 62A+62D 62A+62E 62A+645 62A+649 62A+64A 62B+62C"),
   (0xFC12, "62B+645 62B+649 62B+64A 62C+62D 62C+645 62D+62C 62D+645 62E+62C 62E+62D 62E+645"),
   (0xFC1C, "633+62C 633+62D 633+62E 633+645 635+62D 635+645 636+62C 636+62D 636+62E 636+645"),
   (0xFC26, "637+62D 637+645 638+645 639+62C 639+645 63A+62C 63A+645 641+62C 641+62D 641+62E"),
   (0xFC30, "641+645 641+649 641+64A 642+62D 642+645 642+649 642+64A 643+627 643+62C 643+62D"),
   (0xFC3A, "643+62E 643+644 643+645 643+649 643+64A 644+62C 644+62D 644+62E 644+645 644+649"),
   (0xFC44, "644+64A 645+62C 645+62D 645+62E 645+645 645+649 645+64A 646+62C 646+62D 646+62E"),
   (0xFC4E, "646+645 646+649 646+64A 647+62C 647+645 647+649 647+64A 64A+62C 64A+62D 64A+62E"),
   (0xFC58, "64A+645 64A+649 64A+64A 630+670 631+670 649+670 20+64C+651 20+64D+651 20+64E+651"),
   (0xFC61, "20+64F+651 20+650+651 20+651+670 626+631 626+632 626+645 626+646 626+649 626+64A"),
   (0xFC6A, "628+631 628+632 628+645 628+646 628+649 628+64A 62A+631 62A+632 62A+645 62A+646"),
   (0xFC74, "62A+649 62A+64A 62B+631 62B+632 62B+645 62B+646 62B+649 62B+64A 641+649 641+64A"),
   (0xFC7E, "642+649 642+64A 643+627 643+644 643+645 643+649 643+64A 644+645 644+649 644+64A"),
   (0xFC88, "645+627 645+645 646+631 646+632 646+645 646+646 646+649 646+64A 649+670 64A+631"),
   (0xFC92, "64A+632 64A+645 64A+646 64A+649 64A+64A 626+62C 626+62D 626+62E 626+645 626+647"),
   (0xFC9C, "628+62C 628+62D 628+62E 628+645 628+647 62A+62C 62A+62D 62A+62E 62A+645 62A+647"),
   (0xFCA6, "62B+645 62C+62D 62C+645 62D+62C 62D+645 62E+62C 62E+645 633+62C 633+62D 633+62E"),
   (0xFCB0, "633+645 635+62D 635+62E 635+645 636+62C 636+62D 636+62E 636+645 637+62D 638+645"),
   (0xFCBA, "639+62C 639+645 63A+62C 63A+645 641+62C 641+62D 641+62E 641+645 642+62D 642+645"),
   (0xFCC4, "643+62C 643+62D 643+62E 643+644 643+645 644+62C 644+62D 644+62E 644+645 644+647"),
   (0xFCCE, "645+62C 645+62D 645+62E 645+645 646+62C 646+62D 646+62E 646+645 646+647 647+62C"),
   (0xFCD8, "647+645 647+670 64A+62C 64A+62D 64A+62E 64A+645 64A+647 626+645 626+647 628+645"),
   (0xFCE2, "628+647 62A+645 62A+647 62B+645 62B+647 633+645 633+647 634+645 634+647 643+644"),
   (0xFCEC, "643+645 644+645 646+645 646+647 64A+645 64A+647 640+64E+651 640+64F+651"),
   (0xFCF4, "640+650+651 637+649 637+64A 639+649 639+64A 63A+649 63A+64A 633+649 633+64A"),
   (0xFCFD, "634+649 634+64A 62D+649 62D+64A 62C+649 62C+64A 62E+649 62E+64A 635+649 635+64A"),
   (0xFD07, "636+649 636+64A 634+62C 634+62D 634+62E 634+645 634+631 633+631 635+631 636+631"),
   (0xFD11, "637+649 637+64A 639+649 639+64A 63A+649 63A+64A 633+649 633+64A 634+649 634+64A"),
   (0xFD1B, "62D+649 62D+64A 62C+649 62C+64A 62E+649 62E+64A 635+649 635+64A 636+649 636+64A"),
   (0xFD25, "634+62C 634+62D 634+62E 634+645 634+631 633+631 635+631 636+631 634+62C 634+62D"),
   (0xFD2F, "634+62E 634+645 633+647 634+647 637+645 633+62C 633+62D 633+62E 634+62C 634+62D"),
   (0xFD39, "634+62E 637+645 638+645 627+64B 627+64B"),
   (0xFD50, "62A+62C+645 62A+62D+62C 62A+62D+62C 62A+62D+645 62A+62E+645 62A+645+62C"),
   (0xFD56, "62A+645+62D 62A+645+62E 62C+645+62D 62C+645+62D 62D+645+64A 62D+645+649"),
   (0xFD5C, "633+62D+62C 633+62C+62D 633+62C+649 633+645+62D 633+645+62D 633+645+62C"),
   (0xFD62, "633+645+645 633+645+645 635+62D+62D 635+62D+62D 635+645+645 634+62D+645"),
   (0xFD68, "634+62D+645 634+62C+64A 634+645+62E 634+645+62E 634+645+645 634+645+645"),
   (0xFD6E, "636+62D+649 636+62E+645 636+62E+645 637+645+62D 637+645+62D 637+645+645"),
   (0xFD74, "637+645+64A 639+62C+645 639+645+645 639+645+645 639+645+649 63A+645+645"),
   (0xFD7A, "63A+645+64A 63A+645+649 641+62E+645 641+62E+645 642+645+62D 642+645+645"),
   (0xFD80, "644+62D+645 644+62D+64A 644+62D+649 644+62C+62C 644+62C+62C 644+62E+645"),
   (0xFD86, "644+62E+645 644+645+62D 644+645+62D 645+62D+62C 645+62D+645 645+62D+64A"),
   (0xFD8C, "645+62C+62D 645+62C+645 645+62E+62C 645+62E+645 FD90 FD91 645+62C+62E 647+645+62C"),
   (0xFD94, "647+645+645 646+62D+645 646+62D+649 646+62C+645 646+62C+645 646+62C+649"),
   (0xFD9A, "646+645+64A 646+645+649 64A+645+645 64A+645+645 628+62E+64A 62A+62C+64A"),
   (0xFDA0, "62A+62C+649 62A+62E+64A 62A+62E+649 62A+645+64A 62A+645+649 62C+645+64A"),
   (0xFDA6, "62C+62D+649 62C+645+649 633+62E+649 635+62D+64A 634+62D+64A 636+62D+64A"),
   (0xFDAC, "644+62C+64A 644+645+64A 64A+62D+64A 64A+62C+64A 64A+645+64A 645+645+64A"),
   (0xFDB2, "642+645+64A 646+62D+64A 642+645+62D 644+62D+645 639+645+64A 643+645+64A"),
   (0xFDB8, "646+62C+62D 645+62E+64A 644+62C+645 643+645+645 644+62C+645 646+62C+62D"),
   (0xFDBE, "62C+62D+64A 62D+62C+64A 645+62C+64A 641+645+64A 628+62D+64A 643+645+645"),
   (0xFDC4, "639+62C+645 635+645+645 633+62E+64A 646+62C+64A"),
   (0xFDF0, "635+644+6D2 642+644+6D2 627+644+644+647 627+643+628+631 645+62D+645+62F"),
   (0xFDF5, "635+644+639+645 631+633+648+644 639+644+64A+647 648+633+644+645 635+644+649"),
   (0xFDFA, "635+644+649+20+627+644+644+647+20+639+644+64A+647+20+648+633+644+645"),
   (0xFDFB, "62C+644+20+62C+644+627+644+647 631+6CC+627+644 FDFD FDFE FDFF - - - - - - - - - -"),
   (0xFE0A, "- - - - - - 2C 3001 FE12 3A 3B 21 3F 3016 3017"),
   (0xFE31, "2014 2013 5F 5F 28 29 7B 7D 3014 3015 3010 3011 300A 300B 3008 3009 300C 300D 300E"),
   (0xFE44, "300F FE45 FE46 5B 5D 20+305 20+305 20+305 20+305 5F 5F 5F 2C 3001 FE52 FE53 3B 3A"),
   (0xFE56, "3F 21 2014 28 29 7B 7D 3014 3015 23 26 2A 2B 2D 3C 3E 3D FE67 5C 24 25 40"),
   (0xFE70, "20+64B 640+64B 20+64C FE73 20+64D FE75 20+64E 640+64E 20+64F 640+64F 20+650"),
   (0xFE7B, "640+650 20+651 640+651 20+652 640+652 621 622 622 623 623 624 624 625 625 626 626"),
   (0xFE8B, "626 626 627 627 628 628 628 628 629 629 62A 62A 62A 62A 62B 62B 62B 62B 62C 62C"),
   (0xFE9F, "62C 62C 62D 62D 62D 62D 62E 62E 62E 62E 62F 62F 630 630 631 631 632 632 633 633"),
   (0xFEB3, "633 633 634 634 634 634 635 635 635 635 636 636 636 636 637 637 637 637 638 638"),
   (0xFEC7, "638 638 639 639 639 639 63A 63A 63A 63A 641 641 641 641 642 642 642 642 643 643"),
   (0xFEDB, "643 643 644 644 644 644 645 645 645 645 646 646 646 646 647 647 647 647 648 648"),
   (0xFEEF, "649 649 64A 64A 64A 64A 644+622 644+622 644+623 644+623 644+625 644+625 644+627"),
   (0xFEFC, "644+627 FEFD FEFE - FF00 21 22 23 24 25 26 27 28 29 2A 2B 2C 2D 2E 2F 30 31 32 33"),
   (0xFF14, "34 35 36 37 38 39 3A 3B 3C 3D 3E 3F 40 61 62 63 64 65 66 67 68 69 6A 6B 6C 6D 6E"),
   (0xFF2F, "6F 70 71 72 73 74 75 76 77 78 79 7A 5B 5C 5D 5E 5F 60 61 62 63 64 65 66 67 68 69"),
   (0xFF4A, "6A 6B 6C 6D 6E 6F 70 71 72 73 74 75 76 77 78 79 7A 7B 7C 7D 7E 2985 2986 2E 300C"),
   (0xFF63, "300D 3001 30FB 30F2 30A1 30A3 30A5 30A7 30A9 30E3 30E5 30E7 30C3 30FC 30A2 30A4"),
   (0xFF73, "30A6 30A8 30AA 30AB 30AD 30AF 30B1 30B3 30B5 30B7 30B9 30BB 30BD 30BF 30C1 30C4"),
   (0xFF83, "30C6 30C8 30CA 30CB 30CC 30CD 30CE 30CF 30D2 30D5 30D8 30DB 30DE 30DF 30E0 30E1"),
   (0xFF93, "30E2 30E4 30E6 30E8 30E9 30EA 30EB 30EC 30ED 30EF 30F3 3099 309A - 1100 1101 11AA"),
   (0xFFA4, "1102 11AC 11AD 1103 1104 1105 11B0 11B1 11B2 11B3 11B4 11B5 111A 1106 1107 1108"),
   (0xFFB4, "1121 1109 110A 110B 110C 110D 110E 110F 1110 1111 1112 FFBF FFC0 FFC1 1161 1162"),
   (0xFFC4, "1163 1164 1165 1166 FFC8 FFC9 1167 1168 1169 116A 116B 116C FFD0 FFD1 116D 116E"),
   (0xFFD4, "116F 1170 1171 1172 FFD8 FFD9 1173 1174 1175 FFDD FFDE FFDF A2 A3 AC 20+304 A6 A5"),
   (0xFFE6, "20A9 FFE7 2502 2190 2191 2192 2193 25A0 25CB"),
   (0x10400, "10428 10429 1042A 1042B 1042C 1042D 1042E 1042F 10430 10431 10432 10433 10434"),
   (0x1040D, "10435 10436 10437 10438 10439 1043A 1043B 1043C 1043D 1043E 1043F 10440 10441"),
   (0x1041A, "10442 10443 10444 10445 10446 10447 10448 10449 1044A 1044B 1044C 1044D 1044E"),
   (0x10427, "1044F"),
   (0x104B0, "104D8 104D9 104DA 104DB 104DC 104DD 104DE 104DF 104E0 104E1 104E2 104E3 104E4"),
   (0x104BD, "104E5 104E6 104E7 104E8 104E9 104EA 104EB 104EC 104ED 104EE 104EF 104F0 104F1"),
   (0x104CA, "104F2 104F3 104F4 104F5 104F6 104F7 104F8 104F9 104FA 104FB"),
   (0x10570, "10597 10598 10599 1059A 1059B 1059C 1059D 1059E 1059F 105A0 105A1 1057B 105A3"),
   (0x1057D, "105A4 105A5 105A6 105A7 105A8 105A9 105AA 105AB 105AC 105AD 105AE 105AF 105B0"),
   (0x1058A, "105B1 1058B 105B3 105B4 105B5 105B6 105B7 105B8 105B9 10593 105BB 105BC"),
   (0x10781, "2D0 2D1 E6 299 253 10786 2A3 AB66 2A5 2A4 256 257 1D91 258 25E 2A9 264 262 260"),
   (0x10794, "29B 127 29C 267 284 2AA 2AB 26C 1DF04 A78E 26E 1DF05 28E 1DF06 F8 276 277 71 27A"),
   (0x107A7, "1DF08 27D 27E 280 2A8 2A6 AB67 2A7 288 2C71 107B1 28F 2A1 2A2 298 1C0 1C1 1C2"),
   (0x107B9, "1DF0A 1DF1E"),
   (0x10C80, "10CC0 10CC1 10CC2 10CC3 10CC4 10CC5 10CC6 10CC7 10CC8 10CC9 10CCA 10CCB 10CCC"),
   (0x10C8D, "10CCD 10CCE 10CCF 10CD0 10CD1 10CD2 10CD3 10CD4 10CD5 10CD6 10CD7 10CD8 10CD9"),
   (0x10C9A, "10CDA 10CDB 10CDC 10CDD 10CDE 10CDF 10CE0 10CE1 10CE2 10CE3 10CE4 10CE5 10CE6"),
   (0x10CA7, "10CE7 10CE8 10CE9 10CEA 10CEB 10CEC 10CED 10CEE 10CEF 10CF0 10CF1 10CF2"),
   (0x10D50, "10D70 10D71 10D72 10D73 10D74 10D75 10D76 10D77 10D78 10D79 10D7A 10D7B 10D7C"),
   (0x10D5D, "10D7D 10D7E 10D7F 10D80 10D81 10D82 10D83 10D84 10D85"),
   (0x118A0, "118C0 118C1 118C2 118C3 118C4 118C5 118C6 118C7 118C8 118C9 118CA 118CB 118CC"),
   (0x118AD, "118CD 118CE 118CF 118D0 118D1 118D2 118D3 118D4 118D5 118D6 118D7 118D8 118D9"),
   (0x118BA, "118DA 118DB 118DC 118DD 118DE 118DF"),
   (0x16E40, "16E60 16E61 16E62 16E63 16E64 16E65 16E66 16E67 16E68 16E69 16E6A 16E6B 16E6C"),
   (0x16E4D, "16E6D 16E6E 16E6F 16E70 16E71 16E72 16E73 16E74 16E75 16E76 16E77 16E78 16E79"),
   (0x16E5A, "16E7A 16E7B 16E7C 16E7D 16E7E 16E7F"),
   (0x16EA0, "16EBB 16EBC 16EBD 16EBE 16EBF 16EC0 16EC1 16EC2 16EC3 16EC4 16EC5 16EC6 16EC7"),
   (0x16EAD, "16EC8 16EC9 16ECA 16ECB 16ECC 16ECD 16ECE 16ECF 16ED0 16ED1 16ED2 16ED3"),
   (0x1BCA0, "- - - -"),
   (0x1CCD6, "61 62 63 64 65 66 67 68 69 6A 6B 6C 6D 6E 6F 70 71 72 73 74 75 76 77 78 79 7A 30"),
   (0x1CCF1, "31 32 33 34 35 36 37 38 39"),
   (0x1D15E, "1D157+1D165 1D158+1D165 1D158+1D165+1D16E 1D158+1D165+1D16F 1D158+1D165+1D170"),
   (0x1D163, "1D158+1D165+1D171 1D158+1D165+1D172"),
   (0x1D173, "- - - - - - - -"),
   (0x1D1BB, "1D1B9+1D165 1D1BA+1D165 1D1B9+1D165+1D16E 1D1BA+1D165+1D16E 1D1B9+1D165+1D16F"),
   (0x1D1C0, "1D1BA+1D165+1D16F"),
   (0x1D400, "61 62 63 64 65 66 67 68 69 6A 6B 6C 6D 6E 6F 70 71 72 73 74 75 76 77 78 79 7A 61"),
   (0x1D41B, "62 63 64 65 66 67 68 69 6A 6B 6C 6D 6E 6F 70 71 72 73 74 75 76 77 78 79 7A 61 62"),
   (0x1D436, "63 64 65 66 67 68 69 6A 6B 6C 6D 6E 6F 70 71 72 73 74 75 76 77 78 79 7A 61 62 63"),
   (0x1D451, "64 65 66 67 1D455 69 6A 6B 6C 6D 6E 6F 70 71 72 73 74 75 76 77 78 79 7A 61 62 63"),
   (0x1D46B, "64 65 66 67 68 69 6A 6B 6C 6D 6E 6F 70 71 72 73 74 75 76 77 78 79 7A 61 62 63 64"),
   (0x1D486, "65 66 67 68 69 6A 6B 6C 6D 6E 6F 70 71 72 73 74 75 76 77 78 79 7A 61 1D49D 63 64"),
   (0x1D4A0, "1D4A0 1D4A1 67 1D4A3 1D4A4 6A 6B 1D4A7 1D4A8 6E 6F 70 71 1D4AD 73 74 75 76 77 78"),
   (0x1D4B4, "79 7A 61 62 63 64 1D4BA 66 1D4BC 68 69 6A 6B 6C 6D 6E 1D4C4 70 71 72 73 74 75 76"),
   (0x1D4CC, "77 78 79 7A 61 62 63 64 65 66 67 68 69 6A 6B 6C 6D 6E 6F 70 71 72 73 74 75 76 77"),
   (0x1D4E7, "78 79 7A 61 62 63 64 65 66 67 68 69 6A 6B 6C 6D 6E 6F 70 71 72 73 74 75 76 77 78"),
   (0x1D502, "79 7A 61 62 1D506 64 65 66 67 1D50B 1D50C 6A 6B 6C 6D 6E 6F 70 71 1D515 73 74 75"),
   (0x1D519, "76 77 78 79 1D51D 61 62 63 64 65 66 67 68 69 6A 6B 6C 6D 6E 6F 70 71 72 73 74 75"),
   (0x1D533, "76 77 78 79 7A 61 62 1D53A 64 65 66 67 1D53F 69 6A 6B 6C 6D 1D545 6F 1D547 1D548"),
   (0x1D549, "1D549 73 74 75 76 77 78 79 1D551 61 62 63 64 65 66 67 68 69 6A 6B 6C 6D 6E 6F 70"),
   (0x1D562, "71 72 73 74 75 76 77 78 79 7A 61 62 63 64 65 66 67 68 69 6A 6B 6C 6D 6E 6F 70 71"),
   (0x1D57D, "72 73 74 75 76 77 78 79 7A 61 62 63 64 65 66 67 68 69 6A 6B 6C 6D 6E 6F 70 71 72"),
   (0x1D598, "73 74 75 76 77 78 79 7A 61 62 63 64 65 66 67 68 69 6A 6B 6C 6D 6E 6F 70 71 72 73"),
   (0x1D5B3, "74 75 76 77 78 79 7A 61 62 63 64 65 66 67 68 69 6A 6B 6C 6D 6E 6F 70 71 72 73 74"),
   (0x1D5CE, "75 76 77 78 79 7A 61 62 63 64 65 66 67 68 69 6A 6B 6C 6D 6E 6F 70 71 72 73 74 75"),
   (0x1D5E9, "76 77 78 79 7A 61 62 63 64 65 66 67 68 69 6A 6B 6C 6D 6E 6F 70 71 72 73 74 75 76"),
   (0x1D604, "77 78 79 7A 61 62 63 64 65 66 67 68 69 6A 6B 6C 6D 6E 6F 70 71 72 73 74 75 76 77"),
   (0x1D61F, "78 79 7A 61 62 63 64 65 66 67 68 69 6A 6B 6C 6D 6E 6F 70 71 72 73 74 75 76 77 78"),
   (0x1D63A, "79 7A 61 62 63 64 65 66 67 68 69 6A 6B 6C 6D 6E 6F 70 71 72 73 74 75 76 77 78 79"),
   (0x1D655, "7A 61 62 63 64 65 66 67 68 69 6A 6B 6C 6D 6E 6F 70 71 72 73 74 75 76 77 78 79 7A"),
   (0x1D670, "61 62 63 64 65 66 67 68 69 6A 6B 6C 6D 6E 6F 70 71 72 73 74 75 76 77 78 79 7A 61"),
   (0x1D68B, "62 63 64 65 66 67 68 69 6A 6B 6C 6D 6E 6F 70 71 72 73 74 75 76 77 78 79 7A 131"),
   (0x1D6A5, "237 1D6A6 1D6A7 3B1 3B2 3B3 3B4 3B5 3B6 3B7 3B8 3B9 3BA 3BB 3BC 3BD 3BE 3BF 3C0"),
   (0x1D6B8, "3C1 3B8 3C3 3C4 3C5 3C6 3C7 3C8 3C9 2207 3B1 3B2 3B3 3B4 3B5 3B6 3B7 3B8 3B9 3BA"),
   (0x1D6CC, "3BB 3BC 3BD 3BE 3BF 3C0 3C1 3C3 3C3 3C4 3C5 3C6 3C7 3C8 3C9 2202 3B5 3B8 3BA 3C6"),
   (0x1D6E0, "3C1 3C0 3B1 3B2 3B3 3B4 3B5 3B6 3B7 3B8 3B9 3BA 3BB 3BC 3BD 3BE 3BF 3C0 3C1 3B8"),
   (0x1D6F4, "3C3 3C4 3C5 3C6 3C7 3C8 3C9 2207 3B1 3B2 3B3 3B4 3B5 3B6 3B7 3B8 3B9 3BA 3BB 3BC"),
   (0x1D708, "3BD 3BE 3BF 3C0 3C1 3C3 3C3 3C4 3C5 3C6 3C7 3C8 3C9 2202 3B5 3B8 3BA 3C6 3C1 3C0"),
   (0x1D71C, "3B1 3B2 3B3 3B4 3B5 3B6 3B7 3B8 3B9 3BA 3BB 3BC 3BD 3BE 3BF 3C0 3C1 3B8 3C3 3C4"),
   (0x1D730, "3C5 3C6 3C7 3C8 3C9 2207 3B1 3B2 3B3 3B4 3B5 3B6 3B7 3B8 3B9 3BA 3BB 3BC 3BD 3BE"),
   (0x1D744, "3BF 3C0 3C1 3C3 3C3 3C4 3C5 3C6 3C7 3C8 3C9 2202 3B5 3B8 3BA 3C6 3C1 3C0 3B1 3B2"),
   (0x1D758, "3B3 3B4 3B5 3B6 3B7 3B8 3B9 3BA 3BB 3BC 3BD 3BE 3BF 3C0 3C1 3B8 3C3 3C4 3C5 3C6"),
   (0x1D76C, "3C7 3C8 3C9 2207 3B1 3B2 3B3 3B4 3B5 3B6 3B7 3B8 3B9 3BA 3BB 3BC 3BD 3BE 3BF 3C0"),
   (0x1D780, "3C1 3C3 3C3 3C4 3C5 3C6 3C7 3C8 3C9 2202 3B5 3B8 3BA 3C6 3C1 3C0 3B1 3B2 3B3 3B4"),
   (0x1D794, "3B5 3B6 3B7 3B8 3B9 3BA 3BB 3BC 3BD 3BE 3BF 3C0 3C1 3B8 3C3 3C4 3C5 3C6 3C7 3C8"),
   (0x1D7A8, "3C9 2207 3B1 3B2 3B3 3B4 3B5 3B6 3B7 3B8 3B9 3BA 3BB 3BC 3BD 3BE 3BF 3C0 3C1 3C3"),
   (0x1D7BC, "3C3 3C4 3C5 3C6 3C7 3C8 3C9 2202 3B5 3B8 3BA 3C6 3C1 3C0 3DD 3DD 1D7CC 1D7CD 30"),
   (0x1D7CF, "31 32 33 34 35 36 37 38 39 30 31 32 33 34 35 36 37 38 39 30 31 32 33 34 35 36 37"),
   (0x1D7EA, "38 39 30 31 32 33 34 35 36 37 38 39 30 31 32 33 34 35 36 37 38 39"),
   (0x1E030, "430 431 432 433 434 435 436 437 438 43A 43B 43C 43E 43F 440 441 442 443 444 445"),
   (0x1E044, "446 447 448 44B 44D 44E A689 4D9 456 458 4E9 4AF 4CF 430 431 432 433 434 435 436"),
   (0x1E058, "437 438 43A 43B 43E 43F 441 443 444 445 446 447 448 44A 44B 491 456 455 45F 4AB"),
   (0x1E06C, "A651 4B1"),
   (0x1E900, "1E922 1E923 1E924 1E925 1E926 1E927 1E928 1E929 1E92A 1E92B 1E92C 1E92D 1E92E"),
   (0x1E90D, "1E92F 1E930 1E931 1E932 1E933 1E934 1E935 1E936 1E937 1E938 1E939 1E93A 1E93B"),
   (0x1E91A, "1E93C 1E93D 1E93E 1E93F 1E940 1E941 1E942 1E943"),
   (0x1EE00, "627 628 62C 62F 1EE04 648 632 62D 637 64A 643 644 645 646 633 639 641 635 642 631"),
   (0x1EE14, "634 62A 62B 62E 630 636 638 63A 66E 6BA 6A1 66F 1EE20 628 62C 1EE23 647 1EE25"),
   (0x1EE26, "1EE26 62D 1EE28 64A 643 644 645 646 633 639 641 635 642 1EE33 634 62A 62B 62E"),
   (0x1EE38, "1EE38 636 1EE3A 63A"),
   (0x1EE42, "62C"),
   (0x1EE47, "62D 1EE48 64A 1EE4A 644 1EE4C 646 633 639 1EE50 635 642 1EE53 634 1EE55 1EE56 62E"),
   (0x1EE58, "1EE58 636 1EE5A 63A 1EE5C 6BA 1EE5E 66F 1EE60 628 62C 1EE63 647 1EE65 1EE66 62D"),
   (0x1EE68, "637 64A 643 1EE6B 645 646 633 639 641 635 642 1EE73 634 62A 62B 62E 1EE78 636 638"),
   (0x1EE7B, "63A 66E 1EE7D 6A1 1EE7F 627 628 62C 62F 647 648 632 62D 637 64A 1EE8A 644 645 646"),
   (0x1EE8E, "633 639 641 635 642 631 634 62A 62B 62E 630 636 638 63A"),
   (0x1EEA1, "628 62C 62F 1EEA4 648 632 62D 637 64A 1EEAA 644 645 646 633 639 641 635 642 631"),
   (0x1EEB4, "634 62A 62B 62E 630 636 638 63A"),
   (0x1F101, "30+2C 31+2C 32+2C 33+2C 34+2C 35+2C 36+2C 37+2C 38+2C 39+2C"),
   (0x1F110, "28+61+29 28+62+29 28+63+29 28+64+29 28+65+29 28+66+29 28+67+29 28+68+29 28+69+29"),
   (0x1F119, "28+6A+29 28+6B+29 28+6C+29 28+6D+29 28+6E+29 28+6F+29 28+70+29 28+71+29 28+72+29"),
   (0x1F122, "28+73+29 28+74+29 28+75+29 28+76+29 28+77+29 28+78+29 28+79+29 28+7A+29"),
   (0x1F12A, "3014+73+3015 63 72 63+64 77+7A 1F12F 61 62 63 64 65 66 67 68 69 6A 6B 6C 6D 6E 6F"),
   (0x1F13F, "70 71 72 73 74 75 76 77 78 79 7A 68+76 6D+76 73+64 73+73 70+70+76 77+63"),
   (0x1F16A, "6D+63 6D+64 6D+72"),
   (0x1F190, "64+6A"),
   (0x1F200, "307B+304B 30B3+30B3 30B5"),
   (0x1F210, "624B 5B57 53CC 30C7 4E8C 591A 89E3 5929 4EA4 6620 7121 6599 524D 5F8C 518D 65B0"),
   (0x1F220, "521D 7D42 751F 8CA9 58F0 5439 6F14 6295 6355 4E00 4E09 904A 5DE6 4E2D 53F3 6307"),
   (0x1F230, "8D70 6253 7981 7A7A 5408 6E80 6709 6708 7533 5272 55B6 914D"),
   (0x1F240, "3014+672C+3015 3014+4E09+3015 3014+4E8C+3015 3014+5B89+3015 3014+70B9+3015"),
   (0x1F245, "3014+6253+3015 3014+76D7+3015 3014+52DD+3015 3014+6557+3015"),
   (0x1F250, "5F97 53EF"),
   (0x1FBF0, "30 31 32 33 34 35 36 37 38 39"),
   (0x2F800, "4E3D 4E38 4E41 20122 4F60 4FAE 4FBB 5002 507A 5099 50E7 50CF 349E 2063A 514D 5154"),
   (0x2F810, "5164 5177 2051C 34B9 5167 518D 2054B 5197 51A4 4ECC 51AC 51B5 291DF 51F5 5203"),
   (0x2F81F, "34DF 523B 5246 5272 5277 3515 52C7 52C9 52E4 52FA 5305 5306 5317 5349 5351 535A"),
   (0x2F82F, "5373 537D 537F 537F 537F 20A2C 7070 53CA 53DF 20B63 53EB 53F1 5406 549E 5438 5448"),
   (0x2F83F, "5468 54A2 54F6 5510 5553 5563 5584 5584 5599 55AB 55B3 55C2 5716 5606 5717 5651"),
   (0x2F84F, "5674 5207 58EE 57CE 57F4 580D 578B 5832 5831 58AC 214E4 58F2 58F7 5906 591A 5922"),
   (0x2F85F, "5962 216A8 216EA 59EC 5A1B 5A27 59D8 5A66 36EE 36FC 5B08 5B3E 5B3E 219C8 5BC3"),
   (0x2F86E, "5BD8 5BE7 5BF3 21B18 5BFF 5C06 5F53 5C22 3781 5C60 5C6E 5CC0 5C8D 21DE4 5D43"),
   (0x2F87D, "21DE6 5D6E 5D6B 5D7C 5DE1 5DE2 382F 5DFD 5E28 5E3D 5E69 3862 22183 387C 5EB0 5EB3"),
   (0x2F88D, "5EB6 5ECA 2A392 5EFE 22331 22331 8201 5F22 5F22 38C7 232B8 261DA 5F62 5F6B 38E3"),
   (0x2F89C, "5F9A 5FCD 5FD7 5FF9 6081 393A 391C 6094 226D4 60C7 6148 614C 614E 614C 617A 618E"),
   (0x2F8AC, "61B2 61A4 61AF 61DE 61F2 61F6 6210 621B 625D 62B1 62D4 6350 22B0C 633D 62FC 6368"),
   (0x2F8BC, "6383 63E4 22BF1 6422 63C5 63A9 3A2E 6469 647E 649D 6477 3A6C 654F 656C 2300A 65E3"),
   (0x2F8CC, "66F8 6649 3B19 6691 3B08 3AE4 5192 5195 6700 669C 80AD 43D9 6717 671B 6721 675E"),
   (0x2F8DC, "6753 233C3 3B49 67FA 6785 6852 6885 2346D 688E 681F 6914 3B9D 6942 69A3 69EA 6AA8"),
   (0x2F8EC, "236A3 6ADB 3C18 6B21 238A7 6B54 3C4E 6B72 6B9F 6BBA 6BBB 23A8D 21D0B 23AFA 6C4E"),
   (0x2F8FB, "23CBC 6CBF 6CCD 6C67 6D16 6D3E 6D77 6D41 6D69 6D78 6D85 23D1E 6D34 6E2F 6E6E 3D33"),
   (0x2F90B, "6ECB 6EC7 23ED1 6DF9 6F6E 23F5E 23F8E 6FC6 7039 701E 701B 3D96 704A 707D 7077"),
   (0x2F91A, "70AD 20525 7145 24263 719C 243AB 7228 7235 7250 24608 7280 7295 24735 24814 737A"),
   (0x2F929, "738B 3EAC 73A5 3EB8 3EB8 7447 745C 7471 7485 74CA 3F1B 7524 24C36 753E 24C92 7570"),
   (0x2F939, "2219F 7610 24FA1 24FB8 25044 3FFC 4008 76F4 250F3 250F2 25119 25133 771E 771F"),
   (0x2F947, "771F 774A 4039 778B 4046 4096 2541D 784E 788C 78CC 40E3 25626 7956 2569A 256C5"),
   (0x2F956, "798F 79EB 412F 7A40 7A4A 7A4F 2597C 25AA7 25AA7 7AEE 4202 25BAB 7BC6 7BC9 4227"),
   (0x2F965, "25C80 7CD2 42A0 7CE8 7CE3 7D00 25F86 7D63 4301 7DC7 7E02 7E45 4334 26228 26247"),
   (0x2F974, "4359 262D9 7F7A 2633E 7F95 7FFA 8005 264DA 26523 8060 265A8 8070 2335F 43D5 80B2"),
   (0x2F983, "8103 440B 813E 5AB5 267A7 267B5 23393 2339C 8201 8204 8F9E 446B 8291 828B 829D"),
   (0x2F992, "52B3 82B1 82B3 82BD 82E6 26B3C 82E5 831D 8363 83AD 8323 83BD 83E7 8457 8353 83CA"),
   (0x2F9A2, "83CC 83DC 26C36 26D6B 26CD5 452B 84F1 84F3 8516 273CA 8564 26F2C 455D 4561 26FB1"),
   (0x2F9B1, "270D2 456B 8650 865C 8667 8669 86A9 8688 870E 86E2 8779 8728 876B 8786 45D7 87E1"),
   (0x2F9C1, "8801 45F9 8860 8863 27667 88D7 88DE 4635 88FA 34BB 278AE 27966 46BE 46C7 8AA0"),
   (0x2F9D0, "8AED 8B8A 8C55 27CA8 8CAB 8CC1 8D1B 8D77 27F2F 20804 8DCB 8DBC 8DF0 208DE 8ED4"),
   (0x2F9DF, "8F38 285D2 285ED 9094 90F1 9111 2872E 911B 9238 92D7 92D8 927C 93F9 9415 28BFA"),
   (0x2F9EE, "958B 4995 95B7 28D77 49E6 96C3 5DB2 9723 29145 2921A 4A6E 4A76 97E0 2940A 4AB2"),
   (0x2F9FD, "29496 980B 980B 9829 295B6 98E2 4B33 9929 99A7 99C2 99FE 4BCE 29B30 9B12 9C40"),
   (0x2FA0C, "9CFD 4CCE 4CED 9D67 2A0CE 4CF8 2A105 2A20E 2A291 9EBB 4D56 9EF9 9EFE 9F05 9F0F"),
   (0x2FA1B, "9F16 9F3B 2A600"),
   (0xE0100, "- - - - - - - - - - - - - - - - - - - - - - - - - - - - - - - - - - - - - - - - -"),
   (0xE0129, "- - - - - - - - - - - - - - - - - - - - - - - - - - - - - - - - - - - - - - - - -"),
   (0xE0152, "- - - - - - - - - - - - - - - - - - - - - - - - - - - - - - - - - - - - - - - - -"),
   (0xE017B, "- - - - - - - - - - - - - - - - - - - - - - - - - - - - - - - - - - - - - - - - -"),
   (0xE01A4, "- - - - - - - - - - - - - - - - - - - - - - - - - - - - - - - - - - - - - - - - -"),
   (0xE01CD, "- - - - - - - - - - - - - - - - - - - - - - - - - - - - - - - - - - -")]

/-- The text that a replacement spells. -/
def replacementText (word : List Char) : List Char :=
  if word = ['-'] then []
  else (pieces '+' word).map fun code => Char.ofNat ((Json.hexNumber? code).getD 0)

/-- What stands for a character that is not refused: its replacement, or itself. -/
def replacement (c : Char) : List Char :=
  match (replacements.takeWhile fun row => row.1 ≤ c.toNat).getLast? with
  | some (first, words) =>
    match (pieces ' ' words.toList)[c.toNat - first]? with
    | some word => replacementText word
    | none => [c]
  | none => [c]

/-- Whether no domain name holds an ASCII character. -/
def isBarred (c : Char) : Bool :=
  c.toNat ≤ 0x20 || c.toNat == 0x7F ||
    ['%', '#', '/', ':', '<', '>', '?', '@', '[', '\\', ']', '^', '|'].contains c

/-- What stands for a character in a domain name, unless it is refused. -/
def mapped? (c : Char) : Option (List Char) :=
  if c.toNat < 0x80 then some [c.toLower]
  else if inRanges allowedRanges c.toNat then some (replacement c)
  else none

/-- Whether a character stands for itself in a domain name. -/
def isSettled (c : Char) : Bool :=
  mapped? c == some [c]

end MakeLens.Domain
