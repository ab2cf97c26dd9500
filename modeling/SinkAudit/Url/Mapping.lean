import SinkAudit.Text.Character
import SinkAudit.Text.Numeral

/-!
# Characters of domain names

What each character stands for in a domain name.  A name is compared without regard to case, width
and form, and some invisible characters count for nothing.

* `knownRanges`: the characters that may be written at all.
* `ignoredRanges`: those that count for nothing.
* `mappedRuns`, `mappedBlocks`: those that stand for others.
* `mapChar?`: what a character stands for.
-/

namespace SinkAudit.Domain

/-- The characters that may be written in a name. -/
def knownRanges : List (Nat × Nat) :=
  [(0x0, 0x7F), (0xA0, 0x377), (0x37A, 0x37F), (0x384, 0x38A), (0x38C, 0x38C), (0x38E, 0x3A1),
   (0x3A3, 0x52F), (0x531, 0x556), (0x559, 0x58A), (0x58D, 0x58F), (0x591, 0x5C7), (0x5D0, 0x5EA),
   (0x5EF, 0x5F4), (0x606, 0x61B), (0x61D, 0x6DC), (0x6DE, 0x70D), (0x710, 0x74A), (0x74D, 0x7B1),
   (0x7C0, 0x7FA), (0x7FD, 0x82D), (0x830, 0x83E), (0x840, 0x85B), (0x85E, 0x85E), (0x860, 0x86A),
   (0x870, 0x88F), (0x897, 0x8E1), (0x8E3, 0x983), (0x985, 0x98C), (0x98F, 0x990), (0x993, 0x9A8),
   (0x9AA, 0x9B0), (0x9B2, 0x9B2), (0x9B6, 0x9B9), (0x9BC, 0x9C4), (0x9C7, 0x9C8), (0x9CB, 0x9CE),
   (0x9D7, 0x9D7), (0x9DC, 0x9DD), (0x9DF, 0x9E3), (0x9E6, 0x9FE), (0xA01, 0xA03), (0xA05, 0xA0A),
   (0xA0F, 0xA10), (0xA13, 0xA28), (0xA2A, 0xA30), (0xA32, 0xA33), (0xA35, 0xA36), (0xA38, 0xA39),
   (0xA3C, 0xA3C), (0xA3E, 0xA42), (0xA47, 0xA48), (0xA4B, 0xA4D), (0xA51, 0xA51), (0xA59, 0xA5C),
   (0xA5E, 0xA5E), (0xA66, 0xA76), (0xA81, 0xA83), (0xA85, 0xA8D), (0xA8F, 0xA91), (0xA93, 0xAA8),
   (0xAAA, 0xAB0), (0xAB2, 0xAB3), (0xAB5, 0xAB9), (0xABC, 0xAC5), (0xAC7, 0xAC9), (0xACB, 0xACD),
   (0xAD0, 0xAD0), (0xAE0, 0xAE3), (0xAE6, 0xAF1), (0xAF9, 0xAFF), (0xB01, 0xB03), (0xB05, 0xB0C),
   (0xB0F, 0xB10), (0xB13, 0xB28), (0xB2A, 0xB30), (0xB32, 0xB33), (0xB35, 0xB39), (0xB3C, 0xB44),
   (0xB47, 0xB48), (0xB4B, 0xB4D), (0xB55, 0xB57), (0xB5C, 0xB5D), (0xB5F, 0xB63), (0xB66, 0xB77),
   (0xB82, 0xB83), (0xB85, 0xB8A), (0xB8E, 0xB90), (0xB92, 0xB95), (0xB99, 0xB9A), (0xB9C, 0xB9C),
   (0xB9E, 0xB9F), (0xBA3, 0xBA4), (0xBA8, 0xBAA), (0xBAE, 0xBB9), (0xBBE, 0xBC2), (0xBC6, 0xBC8),
   (0xBCA, 0xBCD), (0xBD0, 0xBD0), (0xBD7, 0xBD7), (0xBE6, 0xBFA), (0xC00, 0xC0C), (0xC0E, 0xC10),
   (0xC12, 0xC28), (0xC2A, 0xC39), (0xC3C, 0xC44), (0xC46, 0xC48), (0xC4A, 0xC4D), (0xC55, 0xC56),
   (0xC58, 0xC5A), (0xC5C, 0xC5D), (0xC60, 0xC63), (0xC66, 0xC6F), (0xC77, 0xC8C), (0xC8E, 0xC90),
   (0xC92, 0xCA8), (0xCAA, 0xCB3), (0xCB5, 0xCB9), (0xCBC, 0xCC4), (0xCC6, 0xCC8), (0xCCA, 0xCCD),
   (0xCD5, 0xCD6), (0xCDC, 0xCDE), (0xCE0, 0xCE3), (0xCE6, 0xCEF), (0xCF1, 0xCF3), (0xD00, 0xD0C),
   (0xD0E, 0xD10), (0xD12, 0xD44), (0xD46, 0xD48), (0xD4A, 0xD4F), (0xD54, 0xD63), (0xD66, 0xD7F),
   (0xD81, 0xD83), (0xD85, 0xD96), (0xD9A, 0xDB1), (0xDB3, 0xDBB), (0xDBD, 0xDBD), (0xDC0, 0xDC6),
   (0xDCA, 0xDCA), (0xDCF, 0xDD4), (0xDD6, 0xDD6), (0xDD8, 0xDDF), (0xDE6, 0xDEF), (0xDF2, 0xDF4),
   (0xE01, 0xE3A), (0xE3F, 0xE5B), (0xE81, 0xE82), (0xE84, 0xE84), (0xE86, 0xE8A), (0xE8C, 0xEA3),
   (0xEA5, 0xEA5), (0xEA7, 0xEBD), (0xEC0, 0xEC4), (0xEC6, 0xEC6), (0xEC8, 0xECE), (0xED0, 0xED9),
   (0xEDC, 0xEDF), (0xF00, 0xF47), (0xF49, 0xF6C), (0xF71, 0xF97), (0xF99, 0xFBC), (0xFBE, 0xFCC),
   (0xFCE, 0xFDA), (0x1000, 0x10C5), (0x10C7, 0x10C7), (0x10CD, 0x10CD), (0x10D0, 0x1248),
   (0x124A, 0x124D), (0x1250, 0x1256), (0x1258, 0x1258), (0x125A, 0x125D), (0x1260, 0x1288),
   (0x128A, 0x128D), (0x1290, 0x12B0), (0x12B2, 0x12B5), (0x12B8, 0x12BE), (0x12C0, 0x12C0),
   (0x12C2, 0x12C5), (0x12C8, 0x12D6), (0x12D8, 0x1310), (0x1312, 0x1315), (0x1318, 0x135A),
   (0x135D, 0x137C), (0x1380, 0x1399), (0x13A0, 0x13F5), (0x13F8, 0x13FD), (0x1400, 0x167F),
   (0x1681, 0x169C), (0x16A0, 0x16F8), (0x1700, 0x1715), (0x171F, 0x1736), (0x1740, 0x1753),
   (0x1760, 0x176C), (0x176E, 0x1770), (0x1772, 0x1773), (0x1780, 0x17DD), (0x17E0, 0x17E9),
   (0x17F0, 0x17F9), (0x1800, 0x1819), (0x1820, 0x1878), (0x1880, 0x18AA), (0x18B0, 0x18F5),
   (0x1900, 0x191E), (0x1920, 0x192B), (0x1930, 0x193B), (0x1940, 0x1940), (0x1944, 0x196D),
   (0x1970, 0x1974), (0x1980, 0x19AB), (0x19B0, 0x19C9), (0x19D0, 0x19DA), (0x19DE, 0x1A1B),
   (0x1A1E, 0x1A5E), (0x1A60, 0x1A7C), (0x1A7F, 0x1A89), (0x1A90, 0x1A99), (0x1AA0, 0x1AAD),
   (0x1AB0, 0x1ADD), (0x1AE0, 0x1AEB), (0x1B00, 0x1B4C), (0x1B4E, 0x1BF3), (0x1BFC, 0x1C37),
   (0x1C3B, 0x1C49), (0x1C4D, 0x1C8A), (0x1C90, 0x1CBA), (0x1CBD, 0x1CC7), (0x1CD0, 0x1CFA),
   (0x1D00, 0x1F15), (0x1F18, 0x1F1D), (0x1F20, 0x1F45), (0x1F48, 0x1F4D), (0x1F50, 0x1F57),
   (0x1F59, 0x1F59), (0x1F5B, 0x1F5B), (0x1F5D, 0x1F5D), (0x1F5F, 0x1F7D), (0x1F80, 0x1FB4),
   (0x1FB6, 0x1FC4), (0x1FC6, 0x1FD3), (0x1FD6, 0x1FDB), (0x1FDD, 0x1FEF), (0x1FF2, 0x1FF4),
   (0x1FF6, 0x1FFE), (0x2000, 0x200D), (0x2010, 0x2023), (0x2027, 0x2027), (0x202F, 0x2064),
   (0x206A, 0x2071), (0x2074, 0x208E), (0x2090, 0x209C), (0x20A0, 0x20C1), (0x20D0, 0x20F0),
   (0x2100, 0x218B), (0x2190, 0x2429), (0x2440, 0x244A), (0x2460, 0x2487), (0x249C, 0x2B73),
   (0x2B76, 0x2CF3), (0x2CF9, 0x2D25), (0x2D27, 0x2D27), (0x2D2D, 0x2D2D), (0x2D30, 0x2D67),
   (0x2D6F, 0x2D70), (0x2D7F, 0x2D96), (0x2DA0, 0x2DA6), (0x2DA8, 0x2DAE), (0x2DB0, 0x2DB6),
   (0x2DB8, 0x2DBE), (0x2DC0, 0x2DC6), (0x2DC8, 0x2DCE), (0x2DD0, 0x2DD6), (0x2DD8, 0x2DDE),
   (0x2DE0, 0x2E5D), (0x2E80, 0x2E99), (0x2E9B, 0x2EF3), (0x2F00, 0x2FD5), (0x3000, 0x303F),
   (0x3041, 0x3096), (0x3099, 0x30FF), (0x3105, 0x312F), (0x3131, 0x318E), (0x3190, 0x31E5),
   (0x31F0, 0x321E), (0x3220, 0x33C1), (0x33C3, 0x33C6), (0x33C8, 0x33D7), (0x33D9, 0xA48C),
   (0xA490, 0xA4C6), (0xA4D0, 0xA62B), (0xA640, 0xA6F7), (0xA700, 0xA7DC), (0xA7F1, 0xA82C),
   (0xA830, 0xA839), (0xA840, 0xA877), (0xA880, 0xA8C5), (0xA8CE, 0xA8D9), (0xA8E0, 0xA953),
   (0xA95F, 0xA97C), (0xA980, 0xA9CD), (0xA9CF, 0xA9D9), (0xA9DE, 0xA9FE), (0xAA00, 0xAA36),
   (0xAA40, 0xAA4D), (0xAA50, 0xAA59), (0xAA5C, 0xAAC2), (0xAADB, 0xAAF6), (0xAB01, 0xAB06),
   (0xAB09, 0xAB0E), (0xAB11, 0xAB16), (0xAB20, 0xAB26), (0xAB28, 0xAB2E), (0xAB30, 0xAB6B),
   (0xAB70, 0xABED), (0xABF0, 0xABF9), (0xAC00, 0xD7A3), (0xD7B0, 0xD7C6), (0xD7CB, 0xD7FB),
   (0xF900, 0xFA6D), (0xFA70, 0xFAD9), (0xFB00, 0xFB06), (0xFB13, 0xFB17), (0xFB1D, 0xFB36),
   (0xFB38, 0xFB3C), (0xFB3E, 0xFB3E), (0xFB40, 0xFB41), (0xFB43, 0xFB44), (0xFB46, 0xFDCF),
   (0xFDF0, 0xFE11), (0xFE13, 0xFE18), (0xFE20, 0xFE2F), (0xFE31, 0xFE51), (0xFE54, 0xFE66),
   (0xFE68, 0xFE6B), (0xFE70, 0xFE74), (0xFE76, 0xFEFC), (0xFEFF, 0xFEFF), (0xFF01, 0xFFBE),
   (0xFFC2, 0xFFC7), (0xFFCA, 0xFFCF), (0xFFD2, 0xFFD7), (0xFFDA, 0xFFDC), (0xFFE0, 0xFFE6),
   (0xFFE8, 0xFFEE), (0x10000, 0x1000B), (0x1000D, 0x10026), (0x10028, 0x1003A), (0x1003C, 0x1003D),
   (0x1003F, 0x1004D), (0x10050, 0x1005D), (0x10080, 0x100FA), (0x10100, 0x10102),
   (0x10107, 0x10133), (0x10137, 0x1018E), (0x10190, 0x1019C), (0x101A0, 0x101A0),
   (0x101D0, 0x101FD), (0x10280, 0x1029C), (0x102A0, 0x102D0), (0x102E0, 0x102FB),
   (0x10300, 0x10323), (0x1032D, 0x1034A), (0x10350, 0x1037A), (0x10380, 0x1039D),
   (0x1039F, 0x103C3), (0x103C8, 0x103D5), (0x10400, 0x1049D), (0x104A0, 0x104A9),
   (0x104B0, 0x104D3), (0x104D8, 0x104FB), (0x10500, 0x10527), (0x10530, 0x10563),
   (0x1056F, 0x1057A), (0x1057C, 0x1058A), (0x1058C, 0x10592), (0x10594, 0x10595),
   (0x10597, 0x105A1), (0x105A3, 0x105B1), (0x105B3, 0x105B9), (0x105BB, 0x105BC),
   (0x105C0, 0x105F3), (0x10600, 0x10736), (0x10740, 0x10755), (0x10760, 0x10767),
   (0x10780, 0x10785), (0x10787, 0x107B0), (0x107B2, 0x107BA), (0x10800, 0x10805),
   (0x10808, 0x10808), (0x1080A, 0x10835), (0x10837, 0x10838), (0x1083C, 0x1083C),
   (0x1083F, 0x10855), (0x10857, 0x1089E), (0x108A7, 0x108AF), (0x108E0, 0x108F2),
   (0x108F4, 0x108F5), (0x108FB, 0x1091B), (0x1091F, 0x10939), (0x1093F, 0x10959),
   (0x10980, 0x109B7), (0x109BC, 0x109CF), (0x109D2, 0x10A03), (0x10A05, 0x10A06),
   (0x10A0C, 0x10A13), (0x10A15, 0x10A17), (0x10A19, 0x10A35), (0x10A38, 0x10A3A),
   (0x10A3F, 0x10A48), (0x10A50, 0x10A58), (0x10A60, 0x10A9F), (0x10AC0, 0x10AE6),
   (0x10AEB, 0x10AF6), (0x10B00, 0x10B35), (0x10B39, 0x10B55), (0x10B58, 0x10B72),
   (0x10B78, 0x10B91), (0x10B99, 0x10B9C), (0x10BA9, 0x10BAF), (0x10C00, 0x10C48),
   (0x10C80, 0x10CB2), (0x10CC0, 0x10CF2), (0x10CFA, 0x10D27), (0x10D30, 0x10D39),
   (0x10D40, 0x10D65), (0x10D69, 0x10D85), (0x10D8E, 0x10D8F), (0x10E60, 0x10E7E),
   (0x10E80, 0x10EA9), (0x10EAB, 0x10EAD), (0x10EB0, 0x10EB1), (0x10EC2, 0x10EC7),
   (0x10ED0, 0x10ED8), (0x10EFA, 0x10F27), (0x10F30, 0x10F59), (0x10F70, 0x10F89),
   (0x10FB0, 0x10FCB), (0x10FE0, 0x10FF6), (0x11000, 0x1104D), (0x11052, 0x11075),
   (0x1107F, 0x110BC), (0x110BE, 0x110C2), (0x110D0, 0x110E8), (0x110F0, 0x110F9),
   (0x11100, 0x11134), (0x11136, 0x11147), (0x11150, 0x11176), (0x11180, 0x111DF),
   (0x111E1, 0x111F4), (0x11200, 0x11211), (0x11213, 0x11241), (0x11280, 0x11286),
   (0x11288, 0x11288), (0x1128A, 0x1128D), (0x1128F, 0x1129D), (0x1129F, 0x112A9),
   (0x112B0, 0x112EA), (0x112F0, 0x112F9), (0x11300, 0x11303), (0x11305, 0x1130C),
   (0x1130F, 0x11310), (0x11313, 0x11328), (0x1132A, 0x11330), (0x11332, 0x11333),
   (0x11335, 0x11339), (0x1133B, 0x11344), (0x11347, 0x11348), (0x1134B, 0x1134D),
   (0x11350, 0x11350), (0x11357, 0x11357), (0x1135D, 0x11363), (0x11366, 0x1136C),
   (0x11370, 0x11374), (0x11380, 0x11389), (0x1138B, 0x1138B), (0x1138E, 0x1138E),
   (0x11390, 0x113B5), (0x113B7, 0x113C0), (0x113C2, 0x113C2), (0x113C5, 0x113C5),
   (0x113C7, 0x113CA), (0x113CC, 0x113D5), (0x113D7, 0x113D8), (0x113E1, 0x113E2),
   (0x11400, 0x1145B), (0x1145D, 0x11461), (0x11480, 0x114C7), (0x114D0, 0x114D9),
   (0x11580, 0x115B5), (0x115B8, 0x115DD), (0x11600, 0x11644), (0x11650, 0x11659),
   (0x11660, 0x1166C), (0x11680, 0x116B9), (0x116C0, 0x116C9), (0x116D0, 0x116E3),
   (0x11700, 0x1171A), (0x1171D, 0x1172B), (0x11730, 0x11746), (0x11800, 0x1183B),
   (0x118A0, 0x118F2), (0x118FF, 0x11906), (0x11909, 0x11909), (0x1190C, 0x11913),
   (0x11915, 0x11916), (0x11918, 0x11935), (0x11937, 0x11938), (0x1193B, 0x11946),
   (0x11950, 0x11959), (0x119A0, 0x119A7), (0x119AA, 0x119D7), (0x119DA, 0x119E4),
   (0x11A00, 0x11A47), (0x11A50, 0x11AA2), (0x11AB0, 0x11AF8), (0x11B00, 0x11B09),
   (0x11B60, 0x11B67), (0x11BC0, 0x11BE1), (0x11BF0, 0x11BF9), (0x11C00, 0x11C08),
   (0x11C0A, 0x11C36), (0x11C38, 0x11C45), (0x11C50, 0x11C6C), (0x11C70, 0x11C8F),
   (0x11C92, 0x11CA7), (0x11CA9, 0x11CB6), (0x11D00, 0x11D06), (0x11D08, 0x11D09),
   (0x11D0B, 0x11D36), (0x11D3A, 0x11D3A), (0x11D3C, 0x11D3D), (0x11D3F, 0x11D47),
   (0x11D50, 0x11D59), (0x11D60, 0x11D65), (0x11D67, 0x11D68), (0x11D6A, 0x11D8E),
   (0x11D90, 0x11D91), (0x11D93, 0x11D98), (0x11DA0, 0x11DA9), (0x11DB0, 0x11DDB),
   (0x11DE0, 0x11DE9), (0x11EE0, 0x11EF8), (0x11F00, 0x11F10), (0x11F12, 0x11F3A),
   (0x11F3E, 0x11F5A), (0x11FB0, 0x11FB0), (0x11FC0, 0x11FF1), (0x11FFF, 0x12399),
   (0x12400, 0x1246E), (0x12470, 0x12474), (0x12480, 0x12543), (0x12F90, 0x12FF2),
   (0x13000, 0x1342F), (0x13440, 0x13455), (0x13460, 0x143FA), (0x14400, 0x14646),
   (0x16100, 0x16139), (0x16800, 0x16A38), (0x16A40, 0x16A5E), (0x16A60, 0x16A69),
   (0x16A6E, 0x16ABE), (0x16AC0, 0x16AC9), (0x16AD0, 0x16AED), (0x16AF0, 0x16AF5),
   (0x16B00, 0x16B45), (0x16B50, 0x16B59), (0x16B5B, 0x16B61), (0x16B63, 0x16B77),
   (0x16B7D, 0x16B8F), (0x16D40, 0x16D79), (0x16E40, 0x16E9A), (0x16EA0, 0x16EB8),
   (0x16EBB, 0x16ED3), (0x16F00, 0x16F4A), (0x16F4F, 0x16F87), (0x16F8F, 0x16F9F),
   (0x16FE0, 0x16FE4), (0x16FF0, 0x16FF6), (0x17000, 0x18CD5), (0x18CFF, 0x18D1E),
   (0x18D80, 0x18DF2), (0x1AFF0, 0x1AFF3), (0x1AFF5, 0x1AFFB), (0x1AFFD, 0x1AFFE),
   (0x1B000, 0x1B122), (0x1B132, 0x1B132), (0x1B150, 0x1B152), (0x1B155, 0x1B155),
   (0x1B164, 0x1B167), (0x1B170, 0x1B2FB), (0x1BC00, 0x1BC6A), (0x1BC70, 0x1BC7C),
   (0x1BC80, 0x1BC88), (0x1BC90, 0x1BC99), (0x1BC9C, 0x1BCA3), (0x1CC00, 0x1CCFC),
   (0x1CD00, 0x1CEB3), (0x1CEBA, 0x1CED0), (0x1CEE0, 0x1CEF0), (0x1CF00, 0x1CF2D),
   (0x1CF30, 0x1CF46), (0x1CF50, 0x1CFC3), (0x1D000, 0x1D0F5), (0x1D100, 0x1D126),
   (0x1D129, 0x1D1EA), (0x1D200, 0x1D245), (0x1D2C0, 0x1D2D3), (0x1D2E0, 0x1D2F3),
   (0x1D300, 0x1D356), (0x1D360, 0x1D378), (0x1D400, 0x1D454), (0x1D456, 0x1D49C),
   (0x1D49E, 0x1D49F), (0x1D4A2, 0x1D4A2), (0x1D4A5, 0x1D4A6), (0x1D4A9, 0x1D4AC),
   (0x1D4AE, 0x1D4B9), (0x1D4BB, 0x1D4BB), (0x1D4BD, 0x1D4C3), (0x1D4C5, 0x1D505),
   (0x1D507, 0x1D50A), (0x1D50D, 0x1D514), (0x1D516, 0x1D51C), (0x1D51E, 0x1D539),
   (0x1D53B, 0x1D53E), (0x1D540, 0x1D544), (0x1D546, 0x1D546), (0x1D54A, 0x1D550),
   (0x1D552, 0x1D6A5), (0x1D6A8, 0x1D7CB), (0x1D7CE, 0x1DA8B), (0x1DA9B, 0x1DA9F),
   (0x1DAA1, 0x1DAAF), (0x1DF00, 0x1DF1E), (0x1DF25, 0x1DF2A), (0x1E000, 0x1E006),
   (0x1E008, 0x1E018), (0x1E01B, 0x1E021), (0x1E023, 0x1E024), (0x1E026, 0x1E02A),
   (0x1E030, 0x1E06D), (0x1E08F, 0x1E08F), (0x1E100, 0x1E12C), (0x1E130, 0x1E13D),
   (0x1E140, 0x1E149), (0x1E14E, 0x1E14F), (0x1E290, 0x1E2AE), (0x1E2C0, 0x1E2F9),
   (0x1E2FF, 0x1E2FF), (0x1E4D0, 0x1E4F9), (0x1E5D0, 0x1E5FA), (0x1E5FF, 0x1E5FF),
   (0x1E6C0, 0x1E6DE), (0x1E6E0, 0x1E6F5), (0x1E6FE, 0x1E6FF), (0x1E7E0, 0x1E7E6),
   (0x1E7E8, 0x1E7EB), (0x1E7ED, 0x1E7EE), (0x1E7F0, 0x1E7FE), (0x1E800, 0x1E8C4),
   (0x1E8C7, 0x1E8D6), (0x1E900, 0x1E94B), (0x1E950, 0x1E959), (0x1E95E, 0x1E95F),
   (0x1EC71, 0x1ECB4), (0x1ED01, 0x1ED3D), (0x1EE00, 0x1EE03), (0x1EE05, 0x1EE1F),
   (0x1EE21, 0x1EE22), (0x1EE24, 0x1EE24), (0x1EE27, 0x1EE27), (0x1EE29, 0x1EE32),
   (0x1EE34, 0x1EE37), (0x1EE39, 0x1EE39), (0x1EE3B, 0x1EE3B), (0x1EE42, 0x1EE42),
   (0x1EE47, 0x1EE47), (0x1EE49, 0x1EE49), (0x1EE4B, 0x1EE4B), (0x1EE4D, 0x1EE4F),
   (0x1EE51, 0x1EE52), (0x1EE54, 0x1EE54), (0x1EE57, 0x1EE57), (0x1EE59, 0x1EE59),
   (0x1EE5B, 0x1EE5B), (0x1EE5D, 0x1EE5D), (0x1EE5F, 0x1EE5F), (0x1EE61, 0x1EE62),
   (0x1EE64, 0x1EE64), (0x1EE67, 0x1EE6A), (0x1EE6C, 0x1EE72), (0x1EE74, 0x1EE77),
   (0x1EE79, 0x1EE7C), (0x1EE7E, 0x1EE7E), (0x1EE80, 0x1EE89), (0x1EE8B, 0x1EE9B),
   (0x1EEA1, 0x1EEA3), (0x1EEA5, 0x1EEA9), (0x1EEAB, 0x1EEBB), (0x1EEF0, 0x1EEF1),
   (0x1F000, 0x1F02B), (0x1F030, 0x1F093), (0x1F0A0, 0x1F0AE), (0x1F0B1, 0x1F0BF),
   (0x1F0C1, 0x1F0CF), (0x1F0D1, 0x1F0F5), (0x1F101, 0x1F1AD), (0x1F1E6, 0x1F202),
   (0x1F210, 0x1F23B), (0x1F240, 0x1F248), (0x1F250, 0x1F251), (0x1F260, 0x1F265),
   (0x1F300, 0x1F6D8), (0x1F6DC, 0x1F6EC), (0x1F6F0, 0x1F6FC), (0x1F700, 0x1F7D9),
   (0x1F7E0, 0x1F7EB), (0x1F7F0, 0x1F7F0), (0x1F800, 0x1F80B), (0x1F810, 0x1F847),
   (0x1F850, 0x1F859), (0x1F860, 0x1F887), (0x1F890, 0x1F8AD), (0x1F8B0, 0x1F8BB),
   (0x1F8C0, 0x1F8C1), (0x1F8D0, 0x1F8D8), (0x1F900, 0x1FA57), (0x1FA60, 0x1FA6D),
   (0x1FA70, 0x1FA7C), (0x1FA80, 0x1FA8A), (0x1FA8E, 0x1FAC6), (0x1FAC8, 0x1FAC8),
   (0x1FACD, 0x1FADC), (0x1FADF, 0x1FAEA), (0x1FAEF, 0x1FAF8), (0x1FB00, 0x1FB92),
   (0x1FB94, 0x1FBFA), (0x20000, 0x2A6DF), (0x2A700, 0x2B81D), (0x2B820, 0x2CEAD),
   (0x2CEB0, 0x2EBE0), (0x2EBF0, 0x2EE5D), (0x2F800, 0x2FA1D), (0x30000, 0x3134A),
   (0x31350, 0x33479), (0xE0100, 0xE01EF)]

/-- The characters that count for nothing. -/
def ignoredRanges : List (Nat × Nat) :=
  [(0xAD, 0xAD), (0x34F, 0x34F), (0x115F, 0x1160), (0x17B4, 0x17B5), (0x180B, 0x180F),
   (0x200B, 0x200B), (0x2060, 0x2064), (0x206A, 0x206F), (0x3164, 0x3164), (0xFE00, 0xFE0F),
   (0xFEFF, 0xFEFF), (0xFFA0, 0xFFA0), (0x1BCA0, 0x1BCA3), (0x1D173, 0x1D17A), (0xE0100, 0xE01EF)]

/-- Characters that stand for others at a regular distance: the code points from `first` to `last` by
`step` stand for `target` and those that follow it by `stride`. -/
structure MappedRun where
  first : Nat
  last : Nat
  step : Nat
  stride : Nat
  target : Nat

/-- The characters that stand for others at a regular distance. -/
def mappedRuns : List MappedRun :=
  [⟨0x41, 0x5A, 1, 1, 0x61⟩, ⟨0xC0, 0xD6, 1, 1, 0xE0⟩, ⟨0xD8, 0xDE, 1, 1, 0xF8⟩,
   ⟨0x100, 0x12E, 2, 2, 0x101⟩, ⟨0x139, 0x13D, 2, 2, 0x13A⟩, ⟨0x141, 0x147, 2, 2, 0x142⟩,
   ⟨0x14A, 0x176, 2, 2, 0x14B⟩, ⟨0x179, 0x17D, 2, 2, 0x17A⟩, ⟨0x1A0, 0x1A4, 2, 2, 0x1A1⟩,
   ⟨0x1CD, 0x1DB, 2, 2, 0x1CE⟩, ⟨0x1DE, 0x1EE, 2, 2, 0x1DF⟩, ⟨0x1F8, 0x21E, 2, 2, 0x1F9⟩,
   ⟨0x222, 0x232, 2, 2, 0x223⟩, ⟨0x246, 0x24E, 2, 2, 0x247⟩, ⟨0x388, 0x38A, 1, 1, 0x3AD⟩,
   ⟨0x391, 0x3A1, 1, 1, 0x3B1⟩, ⟨0x3A3, 0x3AB, 1, 1, 0x3C3⟩, ⟨0x3D8, 0x3EE, 2, 2, 0x3D9⟩,
   ⟨0x3FD, 0x3FF, 1, 1, 0x37B⟩, ⟨0x400, 0x40F, 1, 1, 0x450⟩, ⟨0x410, 0x42F, 1, 1, 0x430⟩,
   ⟨0x460, 0x480, 2, 2, 0x461⟩, ⟨0x48A, 0x4BE, 2, 2, 0x48B⟩, ⟨0x4C1, 0x4CD, 2, 2, 0x4C2⟩,
   ⟨0x4D0, 0x52E, 2, 2, 0x4D1⟩, ⟨0x531, 0x556, 1, 1, 0x561⟩, ⟨0x10A0, 0x10C5, 1, 1, 0x2D00⟩,
   ⟨0x13F8, 0x13FD, 1, 1, 0x13F0⟩, ⟨0x1C90, 0x1CBA, 1, 1, 0x10D0⟩, ⟨0x1CBD, 0x1CBF, 1, 1, 0x10FD⟩,
   ⟨0x1D31, 0x1D39, 2, 2, 0x65⟩, ⟨0x1D34, 0x1D3A, 2, 2, 0x68⟩, ⟨0x1D5D, 0x1D5F, 1, 1, 0x3B2⟩,
   ⟨0x1DA4, 0x1DA6, 1, 1, 0x268⟩, ⟨0x1DAE, 0x1DB1, 1, 1, 0x272⟩, ⟨0x1DBC, 0x1DBE, 1, 1, 0x290⟩,
   ⟨0x1E00, 0x1E94, 2, 2, 0x1E01⟩, ⟨0x1EA0, 0x1EFE, 2, 2, 0x1EA1⟩, ⟨0x1F08, 0x1F0F, 1, 1, 0x1F00⟩,
   ⟨0x1F18, 0x1F1D, 1, 1, 0x1F10⟩, ⟨0x1F28, 0x1F2F, 1, 1, 0x1F20⟩, ⟨0x1F38, 0x1F3F, 1, 1, 0x1F30⟩,
   ⟨0x1F48, 0x1F4D, 1, 1, 0x1F40⟩, ⟨0x1F59, 0x1F5F, 2, 2, 0x1F51⟩, ⟨0x1F68, 0x1F6F, 1, 1, 0x1F60⟩,
   ⟨0x2000, 0x200A, 1, 0, 0x20⟩, ⟨0x2074, 0x2079, 1, 1, 0x34⟩, ⟨0x2080, 0x2089, 1, 1, 0x30⟩,
   ⟨0x2096, 0x2099, 1, 1, 0x6B⟩, ⟨0x210B, 0x210E, 1, 0, 0x68⟩, ⟨0x2119, 0x211B, 1, 1, 0x70⟩,
   ⟨0x2135, 0x2138, 1, 1, 0x5D0⟩, ⟨0x2460, 0x2468, 1, 1, 0x31⟩, ⟨0x24B6, 0x24CF, 1, 1, 0x61⟩,
   ⟨0x24D0, 0x24E9, 1, 1, 0x61⟩, ⟨0x2C00, 0x2C2F, 1, 1, 0x2C30⟩, ⟨0x2C67, 0x2C6B, 2, 2, 0x2C68⟩,
   ⟨0x2C80, 0x2CE2, 2, 2, 0x2C81⟩, ⟨0x3137, 0x3139, 1, 1, 0x1103⟩, ⟨0x313A, 0x313F, 1, 1, 0x11B0⟩,
   ⟨0x3141, 0x3143, 1, 1, 0x1106⟩, ⟨0x3145, 0x314E, 1, 1, 0x1109⟩, ⟨0x314F, 0x3163, 1, 1, 0x1161⟩,
   ⟨0x3178, 0x317C, 1, 1, 0x112B⟩, ⟨0x3184, 0x3186, 1, 1, 0x1157⟩, ⟨0x3263, 0x3265, 1, 1, 0x1105⟩,
   ⟨0x3269, 0x326D, 1, 1, 0x110E⟩, ⟨0x32E4, 0x32E9, 1, 1, 0x30CA⟩, ⟨0x32EE, 0x32F2, 1, 1, 0x30DE⟩,
   ⟨0x32F5, 0x32FA, 1, 1, 0x30E8⟩, ⟨0x32FB, 0x32FE, 1, 1, 0x30EF⟩, ⟨0xA640, 0xA66C, 2, 2, 0xA641⟩,
   ⟨0xA680, 0xA69A, 2, 2, 0xA681⟩, ⟨0xA722, 0xA72E, 2, 2, 0xA723⟩, ⟨0xA732, 0xA76E, 2, 2, 0xA733⟩,
   ⟨0xA77E, 0xA786, 2, 2, 0xA77F⟩, ⟨0xA796, 0xA7A8, 2, 2, 0xA797⟩, ⟨0xA7B4, 0xA7C2, 2, 2, 0xA7B5⟩,
   ⟨0xA7CC, 0xA7DA, 2, 2, 0xA7CD⟩, ⟨0xAB70, 0xABBF, 1, 1, 0x13A0⟩, ⟨0xFB24, 0xFB26, 1, 1, 0x5DB⟩,
   ⟨0xFB52, 0xFB55, 1, 0, 0x67B⟩, ⟨0xFB56, 0xFB59, 1, 0, 0x67E⟩, ⟨0xFB5A, 0xFB5D, 1, 0, 0x680⟩,
   ⟨0xFB5E, 0xFB61, 1, 0, 0x67A⟩, ⟨0xFB62, 0xFB65, 1, 0, 0x67F⟩, ⟨0xFB66, 0xFB69, 1, 0, 0x679⟩,
   ⟨0xFB6A, 0xFB6D, 1, 0, 0x6A4⟩, ⟨0xFB6E, 0xFB71, 1, 0, 0x6A6⟩, ⟨0xFB72, 0xFB75, 1, 0, 0x684⟩,
   ⟨0xFB76, 0xFB79, 1, 0, 0x683⟩, ⟨0xFB7A, 0xFB7D, 1, 0, 0x686⟩, ⟨0xFB7E, 0xFB81, 1, 0, 0x687⟩,
   ⟨0xFB8E, 0xFB91, 1, 0, 0x6A9⟩, ⟨0xFB92, 0xFB95, 1, 0, 0x6AF⟩, ⟨0xFB96, 0xFB99, 1, 0, 0x6B3⟩,
   ⟨0xFB9A, 0xFB9D, 1, 0, 0x6B1⟩, ⟨0xFBA0, 0xFBA3, 1, 0, 0x6BB⟩, ⟨0xFBA6, 0xFBA9, 1, 0, 0x6C1⟩,
   ⟨0xFBAA, 0xFBAD, 1, 0, 0x6BE⟩, ⟨0xFBD3, 0xFBD6, 1, 0, 0x6AD⟩, ⟨0xFBE4, 0xFBE7, 1, 0, 0x6D0⟩,
   ⟨0xFBFC, 0xFBFF, 1, 0, 0x6CC⟩, ⟨0xFE41, 0xFE44, 1, 1, 0x300C⟩, ⟨0xFE4D, 0xFE4F, 1, 0, 0x5F⟩,
   ⟨0xFE89, 0xFE8C, 1, 0, 0x626⟩, ⟨0xFE8F, 0xFE92, 1, 0, 0x628⟩, ⟨0xFE95, 0xFE98, 1, 0, 0x62A⟩,
   ⟨0xFE99, 0xFE9C, 1, 0, 0x62B⟩, ⟨0xFE9D, 0xFEA0, 1, 0, 0x62C⟩, ⟨0xFEA1, 0xFEA4, 1, 0, 0x62D⟩,
   ⟨0xFEA5, 0xFEA8, 1, 0, 0x62E⟩, ⟨0xFEB1, 0xFEB4, 1, 0, 0x633⟩, ⟨0xFEB5, 0xFEB8, 1, 0, 0x634⟩,
   ⟨0xFEB9, 0xFEBC, 1, 0, 0x635⟩, ⟨0xFEBD, 0xFEC0, 1, 0, 0x636⟩, ⟨0xFEC1, 0xFEC4, 1, 0, 0x637⟩,
   ⟨0xFEC5, 0xFEC8, 1, 0, 0x638⟩, ⟨0xFEC9, 0xFECC, 1, 0, 0x639⟩, ⟨0xFECD, 0xFED0, 1, 0, 0x63A⟩,
   ⟨0xFED1, 0xFED4, 1, 0, 0x641⟩, ⟨0xFED5, 0xFED8, 1, 0, 0x642⟩, ⟨0xFED9, 0xFEDC, 1, 0, 0x643⟩,
   ⟨0xFEDD, 0xFEE0, 1, 0, 0x644⟩, ⟨0xFEE1, 0xFEE4, 1, 0, 0x645⟩, ⟨0xFEE5, 0xFEE8, 1, 0, 0x646⟩,
   ⟨0xFEE9, 0xFEEC, 1, 0, 0x647⟩, ⟨0xFEF1, 0xFEF4, 1, 0, 0x64A⟩, ⟨0xFF01, 0xFF20, 1, 1, 0x21⟩,
   ⟨0xFF21, 0xFF3A, 1, 1, 0x61⟩, ⟨0xFF3B, 0xFF5E, 1, 1, 0x5B⟩, ⟨0xFF85, 0xFF8A, 1, 1, 0x30CA⟩,
   ⟨0xFF8F, 0xFF93, 1, 1, 0x30DE⟩, ⟨0xFF96, 0xFF9B, 1, 1, 0x30E8⟩, ⟨0xFFA7, 0xFFA9, 1, 1, 0x1103⟩,
   ⟨0xFFAA, 0xFFAF, 1, 1, 0x11B0⟩, ⟨0xFFB1, 0xFFB3, 1, 1, 0x1106⟩, ⟨0xFFB5, 0xFFBE, 1, 1, 0x1109⟩,
   ⟨0xFFC2, 0xFFC7, 1, 1, 0x1161⟩, ⟨0xFFCA, 0xFFCF, 1, 1, 0x1167⟩, ⟨0xFFD2, 0xFFD7, 1, 1, 0x116D⟩,
   ⟨0xFFDA, 0xFFDC, 1, 1, 0x1173⟩, ⟨0xFFE9, 0xFFEC, 1, 1, 0x2190⟩,
   ⟨0x10400, 0x10427, 1, 1, 0x10428⟩, ⟨0x104B0, 0x104D3, 1, 1, 0x104D8⟩,
   ⟨0x10570, 0x10594, 2, 2, 0x10597⟩, ⟨0x10571, 0x10579, 2, 2, 0x10598⟩,
   ⟨0x1057D, 0x10589, 2, 2, 0x105A4⟩, ⟨0x1058D, 0x10591, 2, 2, 0x105B4⟩,
   ⟨0x107B6, 0x107B8, 1, 1, 0x1C0⟩, ⟨0x10C80, 0x10CB2, 1, 1, 0x10CC0⟩,
   ⟨0x10D50, 0x10D65, 1, 1, 0x10D70⟩, ⟨0x118A0, 0x118BF, 1, 1, 0x118C0⟩,
   ⟨0x16E40, 0x16E5F, 1, 1, 0x16E60⟩, ⟨0x16EA0, 0x16EB8, 1, 1, 0x16EBB⟩,
   ⟨0x1CCD6, 0x1CCEF, 1, 1, 0x61⟩, ⟨0x1CCF0, 0x1CCF9, 1, 1, 0x30⟩, ⟨0x1D400, 0x1D419, 1, 1, 0x61⟩,
   ⟨0x1D41A, 0x1D433, 1, 1, 0x61⟩, ⟨0x1D434, 0x1D44D, 1, 1, 0x61⟩, ⟨0x1D44E, 0x1D466, 2, 2, 0x61⟩,
   ⟨0x1D44F, 0x1D453, 2, 2, 0x62⟩, ⟨0x1D457, 0x1D467, 2, 2, 0x6A⟩, ⟨0x1D468, 0x1D481, 1, 1, 0x61⟩,
   ⟨0x1D482, 0x1D49B, 1, 1, 0x61⟩, ⟨0x1D4A9, 0x1D4AC, 1, 1, 0x6E⟩, ⟨0x1D4AE, 0x1D4B5, 1, 1, 0x73⟩,
   ⟨0x1D4B6, 0x1D4B9, 1, 1, 0x61⟩, ⟨0x1D4BB, 0x1D4CF, 2, 2, 0x66⟩, ⟨0x1D4BE, 0x1D4C2, 2, 2, 0x69⟩,
   ⟨0x1D4C6, 0x1D4CE, 2, 2, 0x71⟩, ⟨0x1D4D0, 0x1D4E9, 1, 1, 0x61⟩, ⟨0x1D4EA, 0x1D503, 1, 1, 0x61⟩,
   ⟨0x1D505, 0x1D509, 2, 2, 0x62⟩, ⟨0x1D50D, 0x1D514, 1, 1, 0x6A⟩, ⟨0x1D516, 0x1D51C, 1, 1, 0x73⟩,
   ⟨0x1D51E, 0x1D537, 1, 1, 0x61⟩, ⟨0x1D539, 0x1D53D, 2, 2, 0x62⟩, ⟨0x1D53C, 0x1D546, 2, 2, 0x65⟩,
   ⟨0x1D54A, 0x1D550, 1, 1, 0x73⟩, ⟨0x1D552, 0x1D56B, 1, 1, 0x61⟩, ⟨0x1D56C, 0x1D585, 1, 1, 0x61⟩,
   ⟨0x1D586, 0x1D59F, 1, 1, 0x61⟩, ⟨0x1D5A0, 0x1D5B9, 1, 1, 0x61⟩, ⟨0x1D5BA, 0x1D5D3, 1, 1, 0x61⟩,
   ⟨0x1D5D4, 0x1D5ED, 1, 1, 0x61⟩, ⟨0x1D5EE, 0x1D607, 1, 1, 0x61⟩, ⟨0x1D608, 0x1D621, 1, 1, 0x61⟩,
   ⟨0x1D622, 0x1D63B, 1, 1, 0x61⟩, ⟨0x1D63C, 0x1D655, 1, 1, 0x61⟩, ⟨0x1D656, 0x1D66F, 1, 1, 0x61⟩,
   ⟨0x1D670, 0x1D689, 1, 1, 0x61⟩, ⟨0x1D68A, 0x1D6A3, 1, 1, 0x61⟩, ⟨0x1D6A8, 0x1D6B8, 1, 1, 0x3B1⟩,
   ⟨0x1D6BA, 0x1D6C0, 1, 1, 0x3C3⟩, ⟨0x1D6C2, 0x1D6D2, 1, 1, 0x3B1⟩,
   ⟨0x1D6D4, 0x1D6DA, 1, 1, 0x3C3⟩, ⟨0x1D6E2, 0x1D6F2, 1, 1, 0x3B1⟩,
   ⟨0x1D6F4, 0x1D6FA, 1, 1, 0x3C3⟩, ⟨0x1D6FC, 0x1D70C, 1, 1, 0x3B1⟩,
   ⟨0x1D70E, 0x1D714, 1, 1, 0x3C3⟩, ⟨0x1D71C, 0x1D72C, 1, 1, 0x3B1⟩,
   ⟨0x1D72E, 0x1D734, 1, 1, 0x3C3⟩, ⟨0x1D736, 0x1D746, 1, 1, 0x3B1⟩,
   ⟨0x1D748, 0x1D74E, 1, 1, 0x3C3⟩, ⟨0x1D756, 0x1D766, 1, 1, 0x3B1⟩,
   ⟨0x1D768, 0x1D76E, 1, 1, 0x3C3⟩, ⟨0x1D770, 0x1D780, 1, 1, 0x3B1⟩,
   ⟨0x1D782, 0x1D788, 1, 1, 0x3C3⟩, ⟨0x1D790, 0x1D7A0, 1, 1, 0x3B1⟩,
   ⟨0x1D7A2, 0x1D7A8, 1, 1, 0x3C3⟩, ⟨0x1D7AA, 0x1D7BA, 1, 1, 0x3B1⟩,
   ⟨0x1D7BC, 0x1D7C2, 1, 1, 0x3C3⟩, ⟨0x1D7CE, 0x1D7D7, 1, 1, 0x30⟩, ⟨0x1D7D8, 0x1D7E1, 1, 1, 0x30⟩,
   ⟨0x1D7E2, 0x1D7EB, 1, 1, 0x30⟩, ⟨0x1D7EC, 0x1D7F5, 1, 1, 0x30⟩, ⟨0x1D7F6, 0x1D7FF, 1, 1, 0x30⟩,
   ⟨0x1E030, 0x1E038, 1, 1, 0x430⟩, ⟨0x1E039, 0x1E03B, 1, 1, 0x43A⟩,
   ⟨0x1E03C, 0x1E046, 1, 1, 0x43E⟩, ⟨0x1E051, 0x1E059, 1, 1, 0x430⟩,
   ⟨0x1E05F, 0x1E064, 1, 1, 0x443⟩, ⟨0x1E900, 0x1E921, 1, 1, 0x1E922⟩,
   ⟨0x1EE0A, 0x1EE0D, 1, 1, 0x643⟩, ⟨0x1EE2A, 0x1EE2D, 1, 1, 0x643⟩,
   ⟨0x1EE8B, 0x1EE8D, 1, 1, 0x644⟩, ⟨0x1EEAB, 0x1EEAD, 1, 1, 0x644⟩, ⟨0x1F130, 0x1F149, 1, 1, 0x61⟩,
   ⟨0x1FBF0, 0x1FBF9, 1, 1, 0x30⟩, ⟨0x2F831, 0x2F833, 1, 0, 0x537F⟩]

/-- Characters one after the other, with what each of them stands for. -/
structure MappedBlock where
  first : Nat
  /-- For each character the code points that it stands for, with plus signs between them; a dash for
  one that stands for itself. -/
  targets : String

/-- The characters that stand for others without a rule. -/
def mappedBlocks : List MappedBlock :=
  [⟨0xA0, "20"⟩,
   ⟨0xA8, "20+308 - 61"⟩,
   ⟨0xAF, "20+304 - - 32 33 20+301 3BC - - 20+327 31 6F - 31+2044+34 31+2044+32"⟩,
   ⟨0xBE, "33+2044+34"⟩,
   ⟨0x130, "69+307 - 69+6A 69+6A 135 - 137"⟩,
   ⟨0x13F, "6C+B7 6C+B7"⟩,
   ⟨0x149, "2BC+6E"⟩,
   ⟨0x178, "FF"⟩,
   ⟨0x17F, "73 - 253 183 - 185 - 254 188 - 256 257 18C - - 1DD 259 25B 192 - 260 263"⟩,
   ⟨0x196, "269 268 199"⟩,
   ⟨0x19C, "26F 272 - 275"⟩,
   ⟨0x1A6, "280 1A8 - 283 - - 1AD - 288 1B0 - 28A 28B 1B4 - 1B6 - 292 1B9"⟩,
   ⟨0x1BC, "1BD"⟩,
   ⟨0x1C4, "64+17E 64+17E 64+17E 6C+6A 6C+6A 6C+6A 6E+6A 6E+6A 6E+6A"⟩,
   ⟨0x1F1, "64+7A 64+7A 64+7A 1F5 - 195 1BF"⟩,
   ⟨0x220, "19E"⟩,
   ⟨0x23A, "2C65 23C - 19A 2C66 - - 242 - 180 289 28C"⟩,
   ⟨0x2B0, "68 266 6A 72 279 27B 281 77 79"⟩,
   ⟨0x2D8, "20+306 20+307 20+30A 20+328 20+303 20+30B - - 263 6C 73 78 295"⟩,
   ⟨0x340, "300 301 - 313 308+301 3B9"⟩,
   ⟨0x370, "371 - 373 - 2B9 - 377"⟩,
   ⟨0x37A, "20+3B9"⟩,
   ⟨0x37E, "3B 3F3"⟩,
   ⟨0x384, "20+301 20+308+301 3AC B7"⟩,
   ⟨0x38C, "3CC - 3CD 3CE"⟩,
   ⟨0x3CF, "3D7 3B2 3B8 3C5 3CD 3CB 3C6 3C0"⟩,
   ⟨0x3F0, "3BA 3C1 3C3 - 3B8 3B5 - 3F8 - 3C3 3FB"⟩,
   ⟨0x4C0, "4CF"⟩,
   ⟨0x587, "565+582"⟩,
   ⟨0x675, "627+674 648+674 6C7+674 64A+674"⟩,
   ⟨0x958, "915+93C 916+93C 917+93C 91C+93C 921+93C 922+93C 92B+93C 92F+93C"⟩,
   ⟨0x9DC, "9A1+9BC 9A2+9BC - 9AF+9BC"⟩,
   ⟨0xA33, "A32+A3C - - A38+A3C"⟩,
   ⟨0xA59, "A16+A3C A17+A3C A1C+A3C - - A2B+A3C"⟩,
   ⟨0xB5C, "B21+B3C B22+B3C"⟩,
   ⟨0xE33, "E4D+E32"⟩,
   ⟨0xEB3, "ECD+EB2"⟩,
   ⟨0xEDC, "EAB+E99 EAB+EA1"⟩,
   ⟨0xF0C, "F0B"⟩,
   ⟨0xF43, "F42+FB7"⟩,
   ⟨0xF4D, "F4C+FB7"⟩,
   ⟨0xF52, "F51+FB7"⟩,
   ⟨0xF57, "F56+FB7"⟩,
   ⟨0xF5C, "F5B+FB7"⟩,
   ⟨0xF69, "F40+FB5"⟩,
   ⟨0xF73, "F71+F72 - F71+F74 FB2+F80 FB2+F71+F80 FB3+F80 FB3+F71+F80"⟩,
   ⟨0xF81, "F71+F80"⟩,
   ⟨0xF93, "F92+FB7"⟩,
   ⟨0xF9D, "F9C+FB7"⟩,
   ⟨0xFA2, "FA1+FB7"⟩,
   ⟨0xFA7, "FA6+FB7"⟩,
   ⟨0xFAC, "FAB+FB7"⟩,
   ⟨0xFB9, "F90+FB5"⟩,
   ⟨0x10C7, "2D27"⟩,
   ⟨0x10CD, "2D2D"⟩,
   ⟨0x10FC, "10DC"⟩,
   ⟨0x1C80, "432 434 43E 441 442 442 44A 463 A64B 1C8A"⟩,
   ⟨0x1D2C, "61 E6 62 - 64 - 1DD"⟩,
   ⟨0x1D3C, "6F 223 70 72 74 75 77 61 250 251 1D02 62 64 65 259 25B 25C 67 - 6B 6D 14B 6F"⟩,
   ⟨0x1D53, "254 1D16 1D17 70 74 75 1D1D 26F 76 1D25"⟩,
   ⟨0x1D60, "3C6 3C7 69 72 75 76 3B2 3B3 3C1 3C6 3C7"⟩,
   ⟨0x1D78, "43D"⟩,
   ⟨0x1D9B, "252 63 255 F0 25C 66 25F 261 265"⟩,
   ⟨0x1DA7, "1D7B 29D 26D 1D85 29F 271 270"⟩,
   ⟨0x1DB2, "278 282 283 1AB 289 28A 1D1C 28B 28C 7A"⟩,
   ⟨0x1DBF, "3B8"⟩,
   ⟨0x1E9A, "61+2BE 1E61 - - DF"⟩,
   ⟨0x1F71, "3AC - 3AD - 3AE - 3AF - 3CC - 3CD - 3CE - - 1F00+3B9 1F01+3B9 1F02+3B9"⟩,
   ⟨0x1F83, "1F03+3B9 1F04+3B9 1F05+3B9 1F06+3B9 1F07+3B9 1F00+3B9 1F01+3B9 1F02+3B9"⟩,
   ⟨0x1F8B, "1F03+3B9 1F04+3B9 1F05+3B9 1F06+3B9 1F07+3B9 1F20+3B9 1F21+3B9 1F22+3B9"⟩,
   ⟨0x1F93, "1F23+3B9 1F24+3B9 1F25+3B9 1F26+3B9 1F27+3B9 1F20+3B9 1F21+3B9 1F22+3B9"⟩,
   ⟨0x1F9B, "1F23+3B9 1F24+3B9 1F25+3B9 1F26+3B9 1F27+3B9 1F60+3B9 1F61+3B9 1F62+3B9"⟩,
   ⟨0x1FA3, "1F63+3B9 1F64+3B9 1F65+3B9 1F66+3B9 1F67+3B9 1F60+3B9 1F61+3B9 1F62+3B9"⟩,
   ⟨0x1FAB, "1F63+3B9 1F64+3B9 1F65+3B9 1F66+3B9 1F67+3B9 - - 1F70+3B9 3B1+3B9 3AC+3B9"⟩,
   ⟨0x1FB7, "1FB6+3B9 1FB0 1FB1 1F70 3AC 3B1+3B9 20+313 3B9 20+313 20+342 20+308+342"⟩,
   ⟨0x1FC2, "1F74+3B9 3B7+3B9 3AE+3B9 - - 1FC6+3B9 1F72 3AD 1F74 3AE 3B7+3B9 20+313+300"⟩,
   ⟨0x1FCE, "20+313+301 20+313+342"⟩,
   ⟨0x1FD3, "390"⟩,
   ⟨0x1FD8, "1FD0 1FD1 1F76 3AF - 20+314+300 20+314+301 20+314+342"⟩,
   ⟨0x1FE3, "3B0"⟩,
   ⟨0x1FE8, "1FE0 1FE1 1F7A 3CD 1FE5 20+308+300 20+308+301 60 - - 1F7C+3B9 3C9+3B9"⟩,
   ⟨0x1FF4, "3CE+3B9 - - 1FF6+3B9 1F78 3CC 1F7C 3CE 3C9+3B9 20+301 20+314"⟩,
   ⟨0x2011, "2010"⟩,
   ⟨0x2017, "20+333"⟩,
   ⟨0x202F, "20"⟩,
   ⟨0x2033, "2032+2032 2032+2032+2032 - 2035+2035 2035+2035+2035"⟩,
   ⟨0x203C, "21+21 - 20+305"⟩,
   ⟨0x2047, "3F+3F 3F+21 21+3F"⟩,
   ⟨0x2057, "2032+2032+2032+2032"⟩,
   ⟨0x205F, "20"⟩,
   ⟨0x2070, "30 69"⟩,
   ⟨0x207A, "2B 2212 3D 28 29 6E"⟩,
   ⟨0x208A, "2B 2212 3D 28 29 - 61 65 6F 78 259 68"⟩,
   ⟨0x209A, "70 73 74"⟩,
   ⟨0x20A8, "72+73"⟩,
   ⟨0x2100, "61+2F+63 61+2F+73 63 B0+63 - 63+2F+6F 63+2F+75 25B - B0+66 67"⟩,
   ⟨0x210F, "127 69 69 6C 6C - 6E 6E+6F"⟩,
   ⟨0x211C, "72 72 - - 73+6D 74+65+6C 74+6D - 7A - 3C9 - 7A - 6B E5 62 63 - 65 65 66 214E"⟩,
   ⟨0x2133, "6D 6F"⟩,
   ⟨0x2139, "69 - 66+61+78 3C0 3B3 3B3 3C0 2211"⟩,
   ⟨0x2145, "64 64 65 69 6A"⟩,
   ⟨0x2150, "31+2044+37 31+2044+39 31+2044+31+30 31+2044+33 32+2044+33 31+2044+35"⟩,
   ⟨0x2156, "32+2044+35 33+2044+35 34+2044+35 31+2044+36 35+2044+36 31+2044+38 33+2044+38"⟩,
   ⟨0x215D, "35+2044+38 37+2044+38 31+2044 69 69+69 69+69+69 69+76 76 76+69 76+69+69"⟩,
   ⟨0x2167, "76+69+69+69 69+78 78 78+69 78+69+69 6C 63 64 6D 69 69+69 69+69+69 69+76 76"⟩,
   ⟨0x2175, "76+69 76+69+69 76+69+69+69 69+78 78 78+69 78+69+69 6C 63 64 6D"⟩,
   ⟨0x2183, "2184"⟩,
   ⟨0x2189, "30+2044+33"⟩,
   ⟨0x222C, "222B+222B 222B+222B+222B - 222E+222E 222E+222E+222E"⟩,
   ⟨0x2329, "3008 3009"⟩,
   ⟨0x2469, "31+30 31+31 31+32 31+33 31+34 31+35 31+36 31+37 31+38 31+39 32+30 28+31+29"⟩,
   ⟨0x2475, "28+32+29 28+33+29 28+34+29 28+35+29 28+36+29 28+37+29 28+38+29 28+39+29"⟩,
   ⟨0x247D, "28+31+30+29 28+31+31+29 28+31+32+29 28+31+33+29 28+31+34+29 28+31+35+29"⟩,
   ⟨0x2483, "28+31+36+29 28+31+37+29 28+31+38+29 28+31+39+29 28+32+30+29"⟩,
   ⟨0x249C, "28+61+29 28+62+29 28+63+29 28+64+29 28+65+29 28+66+29 28+67+29 28+68+29"⟩,
   ⟨0x24A4, "28+69+29 28+6A+29 28+6B+29 28+6C+29 28+6D+29 28+6E+29 28+6F+29 28+70+29"⟩,
   ⟨0x24AC, "28+71+29 28+72+29 28+73+29 28+74+29 28+75+29 28+76+29 28+77+29 28+78+29"⟩,
   ⟨0x24B4, "28+79+29 28+7A+29"⟩,
   ⟨0x24EA, "30"⟩,
   ⟨0x2A0C, "222B+222B+222B+222B"⟩,
   ⟨0x2A74, "3A+3A+3D 3D+3D 3D+3D+3D"⟩,
   ⟨0x2ADC, "2ADD+338"⟩,
   ⟨0x2C60, "2C61 - 26B 1D7D 27D"⟩,
   ⟨0x2C6D, "251 271 250 252 - 2C73 - - 2C76"⟩,
   ⟨0x2C7C, "6A 76 23F 240"⟩,
   ⟨0x2CEB, "2CEC - 2CEE"⟩,
   ⟨0x2CF2, "2CF3"⟩,
   ⟨0x2D6F, "2D61"⟩,
   ⟨0x2E9F, "6BCD"⟩,
   ⟨0x2EF3, "9F9F"⟩,
   ⟨0x2F00, "4E00 4E28 4E36 4E3F 4E59 4E85 4E8C 4EA0 4EBA 513F 5165 516B 5182 5196 51AB"⟩,
   ⟨0x2F0F, "51E0 51F5 5200 529B 52F9 5315 531A 5338 5341 535C 5369 5382 53B6 53C8 53E3"⟩,
   ⟨0x2F1E, "56D7 571F 58EB 5902 590A 5915 5927 5973 5B50 5B80 5BF8 5C0F 5C22 5C38 5C6E"⟩,
   ⟨0x2F2D, "5C71 5DDB 5DE5 5DF1 5DFE 5E72 5E7A 5E7F 5EF4 5EFE 5F0B 5F13 5F50 5F61 5F73"⟩,
   ⟨0x2F3C, "5FC3 6208 6236 624B 652F 6534 6587 6597 65A4 65B9 65E0 65E5 66F0 6708 6728"⟩,
   ⟨0x2F4B, "6B20 6B62 6B79 6BB3 6BCB 6BD4 6BDB 6C0F 6C14 6C34 706B 722A 7236 723B 723F"⟩,
   ⟨0x2F5A, "7247 7259 725B 72AC 7384 7389 74DC 74E6 7518 751F 7528 7530 758B 7592 7676"⟩,
   ⟨0x2F69, "767D 76AE 76BF 76EE 77DB 77E2 77F3 793A 79B8 79BE 7A74 7ACB 7AF9 7C73 7CF8"⟩,
   ⟨0x2F78, "7F36 7F51 7F8A 7FBD 8001 800C 8012 8033 807F 8089 81E3 81EA 81F3 81FC 820C"⟩,
   ⟨0x2F87, "821B 821F 826E 8272 8278 864D 866B 8840 884C 8863 897E 898B 89D2 8A00 8C37"⟩,
   ⟨0x2F96, "8C46 8C55 8C78 8C9D 8D64 8D70 8DB3 8EAB 8ECA 8F9B 8FB0 8FB5 9091 9149 91C6"⟩,
   ⟨0x2FA5, "91CC 91D1 9577 9580 961C 96B6 96B9 96E8 9751 975E 9762 9769 97CB 97ED 97F3"⟩,
   ⟨0x2FB4, "9801 98A8 98DB 98DF 9996 9999 99AC 9AA8 9AD8 9ADF 9B25 9B2F 9B32 9B3C 9B5A"⟩,
   ⟨0x2FC3, "9CE5 9E75 9E7F 9EA5 9EBB 9EC3 9ECD 9ED1 9EF9 9EFD 9F0E 9F13 9F20 9F3B 9F4A"⟩,
   ⟨0x2FD2, "9F52 9F8D 9F9C 9FA0"⟩,
   ⟨0x3000, "20 - 2E"⟩,
   ⟨0x3036, "3012 - 5341 5344 5345"⟩,
   ⟨0x309B, "20+3099 20+309A - - 3088+308A"⟩,
   ⟨0x30FF, "30B3+30C8"⟩,
   ⟨0x3131, "1100 1101 11AA 1102 11AC 11AD"⟩,
   ⟨0x3140, "111A"⟩,
   ⟨0x3144, "1121"⟩,
   ⟨0x3165, "1114 1115 11C7 11C8 11CC 11CE 11D3 11D7 11D9 111C 11DD 11DF 111D 111E 1120"⟩,
   ⟨0x3174, "1122 1123 1127 1129"⟩,
   ⟨0x317D, "1132 1136 1140 1147 114C 11F1 11F2"⟩,
   ⟨0x3187, "1184 1185 1188 1191 1192 1194 119E 11A1"⟩,
   ⟨0x3192, "4E00 4E8C 4E09 56DB 4E0A 4E2D 4E0B 7532 4E59 4E19 4E01 5929 5730 4EBA"⟩,
   ⟨0x3200, "28+1100+29 28+1102+29 28+1103+29 28+1105+29 28+1106+29 28+1107+29 28+1109+29"⟩,
   ⟨0x3207, "28+110B+29 28+110C+29 28+110E+29 28+110F+29 28+1110+29 28+1111+29 28+1112+29"⟩,
   ⟨0x320E, "28+AC00+29 28+B098+29 28+B2E4+29 28+B77C+29 28+B9C8+29 28+BC14+29 28+C0AC+29"⟩,
   ⟨0x3215, "28+C544+29 28+C790+29 28+CC28+29 28+CE74+29 28+D0C0+29 28+D30C+29 28+D558+29"⟩,
   ⟨0x321C, "28+C8FC+29 28+C624+C804+29 28+C624+D6C4+29 - 28+4E00+29 28+4E8C+29"⟩,
   ⟨0x3222, "28+4E09+29 28+56DB+29 28+4E94+29 28+516D+29 28+4E03+29 28+516B+29 28+4E5D+29"⟩,
   ⟨0x3229, "28+5341+29 28+6708+29 28+706B+29 28+6C34+29 28+6728+29 28+91D1+29 28+571F+29"⟩,
   ⟨0x3230, "28+65E5+29 28+682A+29 28+6709+29 28+793E+29 28+540D+29 28+7279+29 28+8CA1+29"⟩,
   ⟨0x3237, "28+795D+29 28+52B4+29 28+4EE3+29 28+547C+29 28+5B66+29 28+76E3+29 28+4F01+29"⟩,
   ⟨0x323E, "28+8CC7+29 28+5354+29 28+796D+29 28+4F11+29 28+81EA+29 28+81F3+29 554F 5E7C"⟩,
   ⟨0x3246, "6587 7B8F"⟩,
   ⟨0x3250, "70+74+65 32+31 32+32 32+33 32+34 32+35 32+36 32+37 32+38 32+39 33+30 33+31"⟩,
   ⟨0x325C, "33+32 33+33 33+34 33+35 1100 1102 1103"⟩,
   ⟨0x3266, "1109 110B 110C"⟩,
   ⟨0x326E, "AC00 B098 B2E4 B77C B9C8 BC14 C0AC C544 C790 CC28 CE74 D0C0 D30C D558"⟩,
   ⟨0x327C, "CC38+ACE0 C8FC+C758 C6B0 - 4E00 4E8C 4E09 56DB 4E94 516D 4E03 516B 4E5D 5341"⟩,
   ⟨0x328A, "6708 706B 6C34 6728 91D1 571F 65E5 682A 6709 793E 540D 7279 8CA1 795D 52B4"⟩,
   ⟨0x3299, "79D8 7537 5973 9069 512A 5370 6CE8 9805 4F11 5199 6B63 4E0A 4E2D 4E0B 5DE6"⟩,
   ⟨0x32A8, "53F3 533B 5B97 5B66 76E3 4F01 8CC7 5354 591C 33+36 33+37 33+38 33+39 34+30"⟩,
   ⟨0x32B6, "34+31 34+32 34+33 34+34 34+35 34+36 34+37 34+38 34+39 35+30 31+6708 32+6708"⟩,
   ⟨0x32C2, "33+6708 34+6708 35+6708 36+6708 37+6708 38+6708 39+6708 31+30+6708"⟩,
   ⟨0x32CA, "31+31+6708 31+32+6708 68+67 65+72+67 65+76 6C+74+64 30A2 30A4 30A6 30A8 30AA"⟩,
   ⟨0x32D5, "30AB 30AD 30AF 30B1 30B3 30B5 30B7 30B9 30BB 30BD 30BF 30C1 30C4 30C6 30C8"⟩,
   ⟨0x32EA, "30D2 30D5 30D8 30DB"⟩,
   ⟨0x32F3, "30E4 30E6"⟩,
   ⟨0x32FF, "4EE4+548C 30A2+30D1+30FC+30C8 30A2+30EB+30D5+30A1 30A2+30F3+30DA+30A2"⟩,
   ⟨0x3303, "30A2+30FC+30EB 30A4+30CB+30F3+30B0 30A4+30F3+30C1 30A6+30A9+30F3"⟩,
   ⟨0x3307, "30A8+30B9+30AF+30FC+30C9 30A8+30FC+30AB+30FC 30AA+30F3+30B9 30AA+30FC+30E0"⟩,
   ⟨0x330B, "30AB+30A4+30EA 30AB+30E9+30C3+30C8 30AB+30ED+30EA+30FC 30AC+30ED+30F3"⟩,
   ⟨0x330F, "30AC+30F3+30DE 30AE+30AC 30AE+30CB+30FC 30AD+30E5+30EA+30FC"⟩,
   ⟨0x3313, "30AE+30EB+30C0+30FC 30AD+30ED 30AD+30ED+30B0+30E9+30E0"⟩,
   ⟨0x3316, "30AD+30ED+30E1+30FC+30C8+30EB 30AD+30ED+30EF+30C3+30C8 30B0+30E9+30E0"⟩,
   ⟨0x3319, "30B0+30E9+30E0+30C8+30F3 30AF+30EB+30BC+30A4+30ED 30AF+30ED+30FC+30CD"⟩,
   ⟨0x331C, "30B1+30FC+30B9 30B3+30EB+30CA 30B3+30FC+30DD 30B5+30A4+30AF+30EB"⟩,
   ⟨0x3320, "30B5+30F3+30C1+30FC+30E0 30B7+30EA+30F3+30B0 30BB+30F3+30C1 30BB+30F3+30C8"⟩,
   ⟨0x3324, "30C0+30FC+30B9 30C7+30B7 30C9+30EB 30C8+30F3 30CA+30CE 30CE+30C3+30C8"⟩,
   ⟨0x332A, "30CF+30A4+30C4 30D1+30FC+30BB+30F3+30C8 30D1+30FC+30C4 30D0+30FC+30EC+30EB"⟩,
   ⟨0x332E, "30D4+30A2+30B9+30C8+30EB 30D4+30AF+30EB 30D4+30B3 30D3+30EB"⟩,
   ⟨0x3332, "30D5+30A1+30E9+30C3+30C9 30D5+30A3+30FC+30C8 30D6+30C3+30B7+30A7+30EB"⟩,
   ⟨0x3335, "30D5+30E9+30F3 30D8+30AF+30BF+30FC+30EB 30DA+30BD 30DA+30CB+30D2"⟩,
   ⟨0x3339, "30D8+30EB+30C4 30DA+30F3+30B9 30DA+30FC+30B8 30D9+30FC+30BF"⟩,
   ⟨0x333D, "30DD+30A4+30F3+30C8 30DC+30EB+30C8 30DB+30F3 30DD+30F3+30C9 30DB+30FC+30EB"⟩,
   ⟨0x3342, "30DB+30FC+30F3 30DE+30A4+30AF+30ED 30DE+30A4+30EB 30DE+30C3+30CF"⟩,
   ⟨0x3346, "30DE+30EB+30AF 30DE+30F3+30B7+30E7+30F3 30DF+30AF+30ED+30F3 30DF+30EA"⟩,
   ⟨0x334A, "30DF+30EA+30D0+30FC+30EB 30E1+30AC 30E1+30AC+30C8+30F3 30E1+30FC+30C8+30EB"⟩,
   ⟨0x334E, "30E4+30FC+30C9 30E4+30FC+30EB 30E6+30A2+30F3 30EA+30C3+30C8+30EB 30EA+30E9"⟩,
   ⟨0x3353, "30EB+30D4+30FC 30EB+30FC+30D6+30EB 30EC+30E0 30EC+30F3+30C8+30B2+30F3"⟩,
   ⟨0x3357, "30EF+30C3+30C8 30+70B9 31+70B9 32+70B9 33+70B9 34+70B9 35+70B9 36+70B9"⟩,
   ⟨0x335F, "37+70B9 38+70B9 39+70B9 31+30+70B9 31+31+70B9 31+32+70B9 31+33+70B9"⟩,
   ⟨0x3366, "31+34+70B9 31+35+70B9 31+36+70B9 31+37+70B9 31+38+70B9 31+39+70B9 32+30+70B9"⟩,
   ⟨0x336D, "32+31+70B9 32+32+70B9 32+33+70B9 32+34+70B9 68+70+61 64+61 61+75 62+61+72"⟩,
   ⟨0x3375, "6F+76 70+63 64+6D 64+6D+32 64+6D+33 69+75 5E73+6210 662D+548C 5927+6B63"⟩,
   ⟨0x337E, "660E+6CBB 682A+5F0F+4F1A+793E 70+61 6E+61 3BC+61 6D+61 6B+61 6B+62 6D+62"⟩,
   ⟨0x3387, "67+62 63+61+6C 6B+63+61+6C 70+66 6E+66 3BC+66 3BC+67 6D+67 6B+67 68+7A"⟩,
   ⟨0x3391, "6B+68+7A 6D+68+7A 67+68+7A 74+68+7A 3BC+6C 6D+6C 64+6C 6B+6C 66+6D 6E+6D"⟩,
   ⟨0x339B, "3BC+6D 6D+6D 63+6D 6B+6D 6D+6D+32 63+6D+32 6D+32 6B+6D+32 6D+6D+33 63+6D+33"⟩,
   ⟨0x33A5, "6D+33 6B+6D+33 6D+2215+73 6D+2215+73+32 70+61 6B+70+61 6D+70+61 67+70+61"⟩,
   ⟨0x33AD, "72+61+64 72+61+64+2215+73 72+61+64+2215+73+32 70+73 6E+73 3BC+73 6D+73 70+76"⟩,
   ⟨0x33B5, "6E+76 3BC+76 6D+76 6B+76 6D+76 70+77 6E+77 3BC+77 6D+77 6B+77 6D+77 6B+3C9"⟩,
   ⟨0x33C1, "6D+3C9 - 62+71 63+63 63+64 63+2215+6B+67 - 64+62 67+79 68+61 68+70 69+6E"⟩,
   ⟨0x33CD, "6B+6B 6B+6D 6B+74 6C+6D 6C+6E 6C+6F+67 6C+78 6D+62 6D+69+6C 6D+6F+6C 70+68"⟩,
   ⟨0x33D9, "70+70+6D 70+72 73+72 73+76 77+62 76+2215+6D 61+2215+6D 31+65E5 32+65E5"⟩,
   ⟨0x33E2, "33+65E5 34+65E5 35+65E5 36+65E5 37+65E5 38+65E5 39+65E5 31+30+65E5"⟩,
   ⟨0x33EA, "31+31+65E5 31+32+65E5 31+33+65E5 31+34+65E5 31+35+65E5 31+36+65E5 31+37+65E5"⟩,
   ⟨0x33F1, "31+38+65E5 31+39+65E5 32+30+65E5 32+31+65E5 32+32+65E5 32+33+65E5 32+34+65E5"⟩,
   ⟨0x33F8, "32+35+65E5 32+36+65E5 32+37+65E5 32+38+65E5 32+39+65E5 33+30+65E5 33+31+65E5"⟩,
   ⟨0x33FF, "67+61+6C"⟩,
   ⟨0xA69C, "44A 44C"⟩,
   ⟨0xA770, "A76F"⟩,
   ⟨0xA779, "A77A - A77C - 1D79"⟩,
   ⟨0xA78B, "A78C - 265 - - A791 - A793"⟩,
   ⟨0xA7AA, "266 25C 261 26C 26A - 29E 287 29D AB53"⟩,
   ⟨0xA7C4, "A794 282 1D8E A7C8 - A7CA - 264"⟩,
   ⟨0xA7DC, "19B"⟩,
   ⟨0xA7F1, "73 63 66 71 A7F6 - - 127 153"⟩,
   ⟨0xAB5C, "A727 AB37 26B AB52"⟩,
   ⟨0xAB69, "28D"⟩,
   ⟨0xF900, "8C48 66F4 8ECA 8CC8 6ED1 4E32 53E5 9F9C 9F9C 5951 91D1 5587 5948 61F6 7669"⟩,
   ⟨0xF90F, "7F85 863F 87BA 88F8 908F 6A02 6D1B 70D9 73DE 843D 916A 99F1 4E82 5375 6B04"⟩,
   ⟨0xF91E, "721B 862D 9E1E 5D50 6FEB 85CD 8964 62C9 81D8 881F 5ECA 6717 6D6A 72FC 90CE"⟩,
   ⟨0xF92D, "4F86 51B7 52DE 64C4 6AD3 7210 76E7 8001 8606 865C 8DEF 9732 9B6F 9DFA 788C"⟩,
   ⟨0xF93C, "797F 7DA0 83C9 9304 9E7F 8AD6 58DF 5F04 7C60 807E 7262 78CA 8CC2 96F7 58D8"⟩,
   ⟨0xF94B, "5C62 6A13 6DDA 6F0F 7D2F 7E37 964B 52D2 808B 51DC 51CC 7A1C 7DBE 83F1 9675"⟩,
   ⟨0xF95A, "8B80 62CF 6A02 8AFE 4E39 5BE7 6012 7387 7570 5317 78FB 4FBF 5FA9 4E0D 6CCC"⟩,
   ⟨0xF969, "6578 7D22 53C3 585E 7701 8449 8AAA 6BBA 8FB0 6C88 62FE 82E5 63A0 7565 4EAE"⟩,
   ⟨0xF978, "5169 51C9 6881 7CE7 826F 8AD2 91CF 52F5 5442 5973 5EEC 65C5 6FFE 792A 95AD"⟩,
   ⟨0xF987, "9A6A 9E97 9ECE 529B 66C6 6B77 8F62 5E74 6190 6200 649A 6F23 7149 7489 79CA"⟩,
   ⟨0xF996, "7DF4 806F 8F26 84EE 9023 934A 5217 52A3 54BD 70C8 88C2 8AAA 5EC9 5FF5 637B"⟩,
   ⟨0xF9A5, "6BAE 7C3E 7375 4EE4 56F9 5BE7 5DBA 601C 73B2 7469 7F9A 8046 9234 96F6 9748"⟩,
   ⟨0xF9B4, "9818 4F8B 79AE 91B4 96B8 60E1 4E86 50DA 5BEE 5C3F 6599 6A02 71CE 7642 84FC"⟩,
   ⟨0xF9C3, "907C 9F8D 6688 962E 5289 677B 67F3 6D41 6E9C 7409 7559 786B 7D10 985E 516D"⟩,
   ⟨0xF9D2, "622E 9678 502B 5D19 6DEA 8F2A 5F8B 6144 6817 7387 9686 5229 540F 5C65 6613"⟩,
   ⟨0xF9E1, "674E 68A8 6CE5 7406 75E2 7F79 88CF 88E1 91CC 96E2 533F 6EBA 541D 71D0 7498"⟩,
   ⟨0xF9F0, "85FA 96A3 9C57 9E9F 6797 6DCB 81E8 7ACB 7B20 7C92 72C0 7099 8B58 4EC0 8336"⟩,
   ⟨0xF9FF, "523A 5207 5EA6 62D3 7CD6 5B85 6D1E 66B4 8F3B 884C 964D 898B 5ED3 5140 55C0"⟩,
   ⟨0xFA10, "585A - 6674 - - 51DE 732A 76CA 793C 795E 7965 798F 9756 7CBE 7FBD - 8612"⟩,
   ⟨0xFA22, "8AF8 - - 9038 90FD"⟩,
   ⟨0xFA2A, "98EF 98FC 9928 9DB4 90DE 96B7 4FAE 50E7 514D 52C9 52E4 5351 559D 5606 5668"⟩,
   ⟨0xFA39, "5840 58A8 5C64 5C6E 6094 6168 618E 61F2 654F 65E2 6691 6885 6D77 6E1A 6F22"⟩,
   ⟨0xFA48, "716E 722B 7422 7891 793E 7949 7948 7950 7956 795D 798D 798E 7A40 7A81 7BC0"⟩,
   ⟨0xFA57, "7DF4 7E09 7E41 7F72 8005 81ED 8279 8279 8457 8910 8996 8B01 8B39 8CD3 8D08"⟩,
   ⟨0xFA66, "8FB6 9038 96E3 97FF 983B 6075 242EE 8218 - - 4E26 51B5 5168 4F80 5145 5180"⟩,
   ⟨0xFA76, "52C7 52FA 559D 5555 5599 55E2 585A 58B3 5944 5954 5A62 5B28 5ED2 5ED9 5F69"⟩,
   ⟨0xFA85, "5FAD 60D8 614E 6108 618E 6160 61F2 6234 63C4 641C 6452 6556 6674 6717 671B"⟩,
   ⟨0xFA94, "6756 6B79 6BBA 6D41 6EDB 6ECB 6F22 701E 716E 77A7 7235 72AF 732A 7471 7506"⟩,
   ⟨0xFAA3, "753B 761D 761F 76CA 76DB 76F4 774A 7740 78CC 7AB1 7BC0 7C7B 7D5B 7DF4 7F3E"⟩,
   ⟨0xFAB2, "8005 8352 83EF 8779 8941 8986 8996 8ABF 8AF8 8ACB 8B01 8AFE 8AED 8B39 8B8A"⟩,
   ⟨0xFAC1, "8D08 8F38 9072 9199 9276 967C 96E3 9756 97DB 97FF 980B 983B 9B12 9F9C 2284A"⟩,
   ⟨0xFAD0, "22844 233D5 3B9D 4018 4039 25249 25CD0 27ED3 9F43 9F8E"⟩,
   ⟨0xFB00, "66+66 66+69 66+6C 66+66+69 66+66+6C 73+74 73+74"⟩,
   ⟨0xFB13, "574+576 574+565 574+56B 57E+576 574+56D"⟩,
   ⟨0xFB1D, "5D9+5B4 - 5F2+5B7 5E2 5D0 5D3 5D4"⟩,
   ⟨0xFB27, "5E8 5EA 2B 5E9+5C1 5E9+5C2 5E9+5BC+5C1 5E9+5BC+5C2 5D0+5B7 5D0+5B8 5D0+5BC"⟩,
   ⟨0xFB31, "5D1+5BC 5D2+5BC 5D3+5BC 5D4+5BC 5D5+5BC 5D6+5BC - 5D8+5BC 5D9+5BC 5DA+5BC"⟩,
   ⟨0xFB3B, "5DB+5BC 5DC+5BC - 5DE+5BC - 5E0+5BC 5E1+5BC - 5E3+5BC 5E4+5BC - 5E6+5BC"⟩,
   ⟨0xFB47, "5E7+5BC 5E8+5BC 5E9+5BC 5EA+5BC 5D5+5B9 5D1+5BF 5DB+5BF 5E4+5BF 5D0+5DC 671"⟩,
   ⟨0xFB51, "671"⟩,
   ⟨0xFB82, "68D 68D 68C 68C 68E 68E 688 688 698 698 691 691"⟩,
   ⟨0xFB9E, "6BA 6BA"⟩,
   ⟨0xFBA4, "6C0 6C0"⟩,
   ⟨0xFBAE, "6D2 6D2 6D3 6D3"⟩,
   ⟨0xFBD7, "6C7 6C7 6C6 6C6 6C8 6C8 6C7+674 6CB 6CB 6C5 6C5 6C9 6C9"⟩,
   ⟨0xFBE8, "649 649 626+627 626+627 626+6D5 626+6D5 626+648 626+648 626+6C7 626+6C7"⟩,
   ⟨0xFBF2, "626+6C6 626+6C6 626+6C8 626+6C8 626+6D0 626+6D0 626+6D0 626+649 626+649"⟩,
   ⟨0xFBFB, "626+649"⟩,
   ⟨0xFC00, "626+62C 626+62D 626+645 626+649 626+64A 628+62C 628+62D 628+62E 628+645"⟩,
   ⟨0xFC09, "628+649 628+64A 62A+62C 62A+62D 62A+62E 62A+645 62A+649 62A+64A 62B+62C"⟩,
   ⟨0xFC12, "62B+645 62B+649 62B+64A 62C+62D 62C+645 62D+62C 62D+645 62E+62C 62E+62D"⟩,
   ⟨0xFC1B, "62E+645 633+62C 633+62D 633+62E 633+645 635+62D 635+645 636+62C 636+62D"⟩,
   ⟨0xFC24, "636+62E 636+645 637+62D 637+645 638+645 639+62C 639+645 63A+62C 63A+645"⟩,
   ⟨0xFC2D, "641+62C 641+62D 641+62E 641+645 641+649 641+64A 642+62D 642+645 642+649"⟩,
   ⟨0xFC36, "642+64A 643+627 643+62C 643+62D 643+62E 643+644 643+645 643+649 643+64A"⟩,
   ⟨0xFC3F, "644+62C 644+62D 644+62E 644+645 644+649 644+64A 645+62C 645+62D 645+62E"⟩,
   ⟨0xFC48, "645+645 645+649 645+64A 646+62C 646+62D 646+62E 646+645 646+649 646+64A"⟩,
   ⟨0xFC51, "647+62C 647+645 647+649 647+64A 64A+62C 64A+62D 64A+62E 64A+645 64A+649"⟩,
   ⟨0xFC5A, "64A+64A 630+670 631+670 649+670 20+64C+651 20+64D+651 20+64E+651 20+64F+651"⟩,
   ⟨0xFC62, "20+650+651 20+651+670 626+631 626+632 626+645 626+646 626+649 626+64A"⟩,
   ⟨0xFC6A, "628+631 628+632 628+645 628+646 628+649 628+64A 62A+631 62A+632 62A+645"⟩,
   ⟨0xFC73, "62A+646 62A+649 62A+64A 62B+631 62B+632 62B+645 62B+646 62B+649 62B+64A"⟩,
   ⟨0xFC7C, "641+649 641+64A 642+649 642+64A 643+627 643+644 643+645 643+649 643+64A"⟩,
   ⟨0xFC85, "644+645 644+649 644+64A 645+627 645+645 646+631 646+632 646+645 646+646"⟩,
   ⟨0xFC8E, "646+649 646+64A 649+670 64A+631 64A+632 64A+645 64A+646 64A+649 64A+64A"⟩,
   ⟨0xFC97, "626+62C 626+62D 626+62E 626+645 626+647 628+62C 628+62D 628+62E 628+645"⟩,
   ⟨0xFCA0, "628+647 62A+62C 62A+62D 62A+62E 62A+645 62A+647 62B+645 62C+62D 62C+645"⟩,
   ⟨0xFCA9, "62D+62C 62D+645 62E+62C 62E+645 633+62C 633+62D 633+62E 633+645 635+62D"⟩,
   ⟨0xFCB2, "635+62E 635+645 636+62C 636+62D 636+62E 636+645 637+62D 638+645 639+62C"⟩,
   ⟨0xFCBB, "639+645 63A+62C 63A+645 641+62C 641+62D 641+62E 641+645 642+62D 642+645"⟩,
   ⟨0xFCC4, "643+62C 643+62D 643+62E 643+644 643+645 644+62C 644+62D 644+62E 644+645"⟩,
   ⟨0xFCCD, "644+647 645+62C 645+62D 645+62E 645+645 646+62C 646+62D 646+62E 646+645"⟩,
   ⟨0xFCD6, "646+647 647+62C 647+645 647+670 64A+62C 64A+62D 64A+62E 64A+645 64A+647"⟩,
   ⟨0xFCDF, "626+645 626+647 628+645 628+647 62A+645 62A+647 62B+645 62B+647 633+645"⟩,
   ⟨0xFCE8, "633+647 634+645 634+647 643+644 643+645 644+645 646+645 646+647 64A+645"⟩,
   ⟨0xFCF1, "64A+647 640+64E+651 640+64F+651 640+650+651 637+649 637+64A 639+649 639+64A"⟩,
   ⟨0xFCF9, "63A+649 63A+64A 633+649 633+64A 634+649 634+64A 62D+649 62D+64A 62C+649"⟩,
   ⟨0xFD02, "62C+64A 62E+649 62E+64A 635+649 635+64A 636+649 636+64A 634+62C 634+62D"⟩,
   ⟨0xFD0B, "634+62E 634+645 634+631 633+631 635+631 636+631 637+649 637+64A 639+649"⟩,
   ⟨0xFD14, "639+64A 63A+649 63A+64A 633+649 633+64A 634+649 634+64A 62D+649 62D+64A"⟩,
   ⟨0xFD1D, "62C+649 62C+64A 62E+649 62E+64A 635+649 635+64A 636+649 636+64A 634+62C"⟩,
   ⟨0xFD26, "634+62D 634+62E 634+645 634+631 633+631 635+631 636+631 634+62C 634+62D"⟩,
   ⟨0xFD2F, "634+62E 634+645 633+647 634+647 637+645 633+62C 633+62D 633+62E 634+62C"⟩,
   ⟨0xFD38, "634+62D 634+62E 637+645 638+645 627+64B 627+64B"⟩,
   ⟨0xFD50, "62A+62C+645 62A+62D+62C 62A+62D+62C 62A+62D+645 62A+62E+645 62A+645+62C"⟩,
   ⟨0xFD56, "62A+645+62D 62A+645+62E 62C+645+62D 62C+645+62D 62D+645+64A 62D+645+649"⟩,
   ⟨0xFD5C, "633+62D+62C 633+62C+62D 633+62C+649 633+645+62D 633+645+62D 633+645+62C"⟩,
   ⟨0xFD62, "633+645+645 633+645+645 635+62D+62D 635+62D+62D 635+645+645 634+62D+645"⟩,
   ⟨0xFD68, "634+62D+645 634+62C+64A 634+645+62E 634+645+62E 634+645+645 634+645+645"⟩,
   ⟨0xFD6E, "636+62D+649 636+62E+645 636+62E+645 637+645+62D 637+645+62D 637+645+645"⟩,
   ⟨0xFD74, "637+645+64A 639+62C+645 639+645+645 639+645+645 639+645+649 63A+645+645"⟩,
   ⟨0xFD7A, "63A+645+64A 63A+645+649 641+62E+645 641+62E+645 642+645+62D 642+645+645"⟩,
   ⟨0xFD80, "644+62D+645 644+62D+64A 644+62D+649 644+62C+62C 644+62C+62C 644+62E+645"⟩,
   ⟨0xFD86, "644+62E+645 644+645+62D 644+645+62D 645+62D+62C 645+62D+645 645+62D+64A"⟩,
   ⟨0xFD8C, "645+62C+62D 645+62C+645 645+62E+62C 645+62E+645 - - 645+62C+62E 647+645+62C"⟩,
   ⟨0xFD94, "647+645+645 646+62D+645 646+62D+649 646+62C+645 646+62C+645 646+62C+649"⟩,
   ⟨0xFD9A, "646+645+64A 646+645+649 64A+645+645 64A+645+645 628+62E+64A 62A+62C+64A"⟩,
   ⟨0xFDA0, "62A+62C+649 62A+62E+64A 62A+62E+649 62A+645+64A 62A+645+649 62C+645+64A"⟩,
   ⟨0xFDA6, "62C+62D+649 62C+645+649 633+62E+649 635+62D+64A 634+62D+64A 636+62D+64A"⟩,
   ⟨0xFDAC, "644+62C+64A 644+645+64A 64A+62D+64A 64A+62C+64A 64A+645+64A 645+645+64A"⟩,
   ⟨0xFDB2, "642+645+64A 646+62D+64A 642+645+62D 644+62D+645 639+645+64A 643+645+64A"⟩,
   ⟨0xFDB8, "646+62C+62D 645+62E+64A 644+62C+645 643+645+645 644+62C+645 646+62C+62D"⟩,
   ⟨0xFDBE, "62C+62D+64A 62D+62C+64A 645+62C+64A 641+645+64A 628+62D+64A 643+645+645"⟩,
   ⟨0xFDC4, "639+62C+645 635+645+645 633+62E+64A 646+62C+64A"⟩,
   ⟨0xFDF0, "635+644+6D2 642+644+6D2 627+644+644+647 627+643+628+631 645+62D+645+62F"⟩,
   ⟨0xFDF5, "635+644+639+645 631+633+648+644 639+644+64A+647 648+633+644+645 635+644+649"⟩,
   ⟨0xFDFA, "635+644+649+20+627+644+644+647+20+639+644+64A+647+20+648+633+644+645"⟩,
   ⟨0xFDFB, "62C+644+20+62C+644+627+644+647 631+6CC+627+644"⟩,
   ⟨0xFE10, "2C 3001 - 3A 3B 21 3F 3016 3017"⟩,
   ⟨0xFE31, "2014 2013 5F 5F 28 29 7B 7D 3014 3015 3010 3011 300A 300B 3008 3009"⟩,
   ⟨0xFE47, "5B 5D 20+305 20+305 20+305 20+305"⟩,
   ⟨0xFE50, "2C 3001 - - 3B 3A 3F 21 2014 28 29 7B 7D 3014 3015 23 26 2A 2B 2D 3C 3E 3D"⟩,
   ⟨0xFE68, "5C 24 25 40"⟩,
   ⟨0xFE70, "20+64B 640+64B 20+64C - 20+64D - 20+64E 640+64E 20+64F 640+64F 20+650"⟩,
   ⟨0xFE7B, "640+650 20+651 640+651 20+652 640+652 621 622 622 623 623 624 624 625 625"⟩,
   ⟨0xFE8D, "627 627"⟩,
   ⟨0xFE93, "629 629"⟩,
   ⟨0xFEA9, "62F 62F 630 630 631 631 632 632"⟩,
   ⟨0xFEED, "648 648 649 649"⟩,
   ⟨0xFEF5, "644+622 644+622 644+623 644+623 644+625 644+625 644+627 644+627"⟩,
   ⟨0xFF5F, "2985 2986 2E 300C 300D 3001 30FB 30F2 30A1 30A3 30A5 30A7 30A9 30E3 30E5"⟩,
   ⟨0xFF6E, "30E7 30C3 30FC 30A2 30A4 30A6 30A8 30AA 30AB 30AD 30AF 30B1 30B3 30B5 30B7"⟩,
   ⟨0xFF7D, "30B9 30BB 30BD 30BF 30C1 30C4 30C6 30C8"⟩,
   ⟨0xFF8B, "30D2 30D5 30D8 30DB"⟩,
   ⟨0xFF94, "30E4 30E6"⟩,
   ⟨0xFF9C, "30EF 30F3 3099 309A - 1100 1101 11AA 1102 11AC 11AD"⟩,
   ⟨0xFFB0, "111A"⟩,
   ⟨0xFFB4, "1121"⟩,
   ⟨0xFFE0, "A2 A3 AC 20+304 A6 A5 20A9 - 2502"⟩,
   ⟨0xFFED, "25A0 25CB"⟩,
   ⟨0x10595, "105BC"⟩,
   ⟨0x10781, "2D0 2D1 E6 299 253 - 2A3 AB66 2A5 2A4 256 257 1D91 258 25E 2A9 264 262 260"⟩,
   ⟨0x10794, "29B 127 29C 267 284 2AA 2AB 26C 1DF04 A78E 26E 1DF05 28E 1DF06 F8 276 277 71"⟩,
   ⟨0x107A6, "27A 1DF08 27D 27E 280 2A8 2A6 AB67 2A7 288 2C71 - 28F 2A1 2A2 298"⟩,
   ⟨0x107B9, "1DF0A 1DF1E"⟩,
   ⟨0x1D15E, "1D157+1D165 1D158+1D165 1D158+1D165+1D16E 1D158+1D165+1D16F"⟩,
   ⟨0x1D162, "1D158+1D165+1D170 1D158+1D165+1D171 1D158+1D165+1D172"⟩,
   ⟨0x1D1BB, "1D1B9+1D165 1D1BA+1D165 1D1B9+1D165+1D16E 1D1BA+1D165+1D16E"⟩,
   ⟨0x1D1BF, "1D1B9+1D165+1D16F 1D1BA+1D165+1D16F"⟩,
   ⟨0x1D49C, "61 - 63 64 - - 67 - - 6A 6B"⟩,
   ⟨0x1D504, "61"⟩,
   ⟨0x1D508, "65 - 67"⟩,
   ⟨0x1D538, "61"⟩,
   ⟨0x1D541, "6A - 6C"⟩,
   ⟨0x1D6A4, "131 237"⟩,
   ⟨0x1D6B9, "3B8"⟩,
   ⟨0x1D6C1, "2207"⟩,
   ⟨0x1D6D3, "3C3"⟩,
   ⟨0x1D6DB, "2202 3B5 3B8 3BA 3C6 3C1 3C0"⟩,
   ⟨0x1D6F3, "3B8"⟩,
   ⟨0x1D6FB, "2207"⟩,
   ⟨0x1D70D, "3C3"⟩,
   ⟨0x1D715, "2202 3B5 3B8 3BA 3C6 3C1 3C0"⟩,
   ⟨0x1D72D, "3B8"⟩,
   ⟨0x1D735, "2207"⟩,
   ⟨0x1D747, "3C3"⟩,
   ⟨0x1D74F, "2202 3B5 3B8 3BA 3C6 3C1 3C0"⟩,
   ⟨0x1D767, "3B8"⟩,
   ⟨0x1D76F, "2207"⟩,
   ⟨0x1D781, "3C3"⟩,
   ⟨0x1D789, "2202 3B5 3B8 3BA 3C6 3C1 3C0"⟩,
   ⟨0x1D7A1, "3B8"⟩,
   ⟨0x1D7A9, "2207"⟩,
   ⟨0x1D7BB, "3C3"⟩,
   ⟨0x1D7C3, "2202 3B5 3B8 3BA 3C6 3C1 3C0 3DD 3DD"⟩,
   ⟨0x1E047, "44B 44D 44E A689 4D9 456 458 4E9 4AF 4CF"⟩,
   ⟨0x1E05A, "43A 43B 43E 43F 441"⟩,
   ⟨0x1E065, "44A 44B 491 456 455 45F 4AB A651 4B1"⟩,
   ⟨0x1EE00, "627 628 62C 62F - 648 632 62D 637 64A"⟩,
   ⟨0x1EE0E, "633 639 641 635 642 631 634 62A 62B 62E 630 636 638 63A 66E 6BA 6A1 66F"⟩,
   ⟨0x1EE21, "628 62C - 647 - - 62D - 64A"⟩,
   ⟨0x1EE2E, "633 639 641 635 642 - 634 62A 62B 62E - 636 - 63A"⟩,
   ⟨0x1EE42, "62C"⟩,
   ⟨0x1EE47, "62D - 64A - 644 - 646 633 639 - 635 642 - 634 - - 62E - 636 - 63A - 6BA"⟩,
   ⟨0x1EE5F, "66F - 628 62C - 647 - - 62D 637 64A 643 - 645 646 633 639 641 635 642 - 634"⟩,
   ⟨0x1EE75, "62A 62B 62E - 636 638 63A 66E - 6A1 - 627 628 62C 62F 647 648 632 62D 637"⟩,
   ⟨0x1EE89, "64A"⟩,
   ⟨0x1EE8E, "633 639 641 635 642 631 634 62A 62B 62E 630 636 638 63A"⟩,
   ⟨0x1EEA1, "628 62C 62F - 648 632 62D 637 64A"⟩,
   ⟨0x1EEAE, "633 639 641 635 642 631 634 62A 62B 62E 630 636 638 63A"⟩,
   ⟨0x1F101, "30+2C 31+2C 32+2C 33+2C 34+2C 35+2C 36+2C 37+2C 38+2C 39+2C"⟩,
   ⟨0x1F110, "28+61+29 28+62+29 28+63+29 28+64+29 28+65+29 28+66+29 28+67+29 28+68+29"⟩,
   ⟨0x1F118, "28+69+29 28+6A+29 28+6B+29 28+6C+29 28+6D+29 28+6E+29 28+6F+29 28+70+29"⟩,
   ⟨0x1F120, "28+71+29 28+72+29 28+73+29 28+74+29 28+75+29 28+76+29 28+77+29 28+78+29"⟩,
   ⟨0x1F128, "28+79+29 28+7A+29 3014+73+3015 63 72 63+64 77+7A"⟩,
   ⟨0x1F14A, "68+76 6D+76 73+64 73+73 70+70+76 77+63"⟩,
   ⟨0x1F16A, "6D+63 6D+64 6D+72"⟩,
   ⟨0x1F190, "64+6A"⟩,
   ⟨0x1F200, "307B+304B 30B3+30B3 30B5"⟩,
   ⟨0x1F210, "624B 5B57 53CC 30C7 4E8C 591A 89E3 5929 4EA4 6620 7121 6599 524D 5F8C 518D"⟩,
   ⟨0x1F21F, "65B0 521D 7D42 751F 8CA9 58F0 5439 6F14 6295 6355 4E00 4E09 904A 5DE6 4E2D"⟩,
   ⟨0x1F22E, "53F3 6307 8D70 6253 7981 7A7A 5408 6E80 6709 6708 7533 5272 55B6 914D"⟩,
   ⟨0x1F240, "3014+672C+3015 3014+4E09+3015 3014+4E8C+3015 3014+5B89+3015 3014+70B9+3015"⟩,
   ⟨0x1F245, "3014+6253+3015 3014+76D7+3015 3014+52DD+3015 3014+6557+3015"⟩,
   ⟨0x1F250, "5F97 53EF"⟩,
   ⟨0x2F800, "4E3D 4E38 4E41 20122 4F60 4FAE 4FBB 5002 507A 5099 50E7 50CF 349E 2063A 514D"⟩,
   ⟨0x2F80F, "5154 5164 5177 2051C 34B9 5167 518D 2054B 5197 51A4 4ECC 51AC 51B5 291DF"⟩,
   ⟨0x2F81D, "51F5 5203 34DF 523B 5246 5272 5277 3515 52C7 52C9 52E4 52FA 5305 5306 5317"⟩,
   ⟨0x2F82C, "5349 5351 535A 5373 537D"⟩,
   ⟨0x2F834, "20A2C 7070 53CA 53DF 20B63 53EB 53F1 5406 549E 5438 5448 5468 54A2 54F6 5510"⟩,
   ⟨0x2F843, "5553 5563 5584 5584 5599 55AB 55B3 55C2 5716 5606 5717 5651 5674 5207 58EE"⟩,
   ⟨0x2F852, "57CE 57F4 580D 578B 5832 5831 58AC 214E4 58F2 58F7 5906 591A 5922 5962 216A8"⟩,
   ⟨0x2F861, "216EA 59EC 5A1B 5A27 59D8 5A66 36EE 36FC 5B08 5B3E 5B3E 219C8 5BC3 5BD8 5BE7"⟩,
   ⟨0x2F870, "5BF3 21B18 5BFF 5C06 5F53 5C22 3781 5C60 5C6E 5CC0 5C8D 21DE4 5D43 21DE6"⟩,
   ⟨0x2F87E, "5D6E 5D6B 5D7C 5DE1 5DE2 382F 5DFD 5E28 5E3D 5E69 3862 22183 387C 5EB0 5EB3"⟩,
   ⟨0x2F88D, "5EB6 5ECA 2A392 5EFE 22331 22331 8201 5F22 5F22 38C7 232B8 261DA 5F62 5F6B"⟩,
   ⟨0x2F89B, "38E3 5F9A 5FCD 5FD7 5FF9 6081 393A 391C 6094 226D4 60C7 6148 614C 614E 614C"⟩,
   ⟨0x2F8AA, "617A 618E 61B2 61A4 61AF 61DE 61F2 61F6 6210 621B 625D 62B1 62D4 6350 22B0C"⟩,
   ⟨0x2F8B9, "633D 62FC 6368 6383 63E4 22BF1 6422 63C5 63A9 3A2E 6469 647E 649D 6477 3A6C"⟩,
   ⟨0x2F8C8, "654F 656C 2300A 65E3 66F8 6649 3B19 6691 3B08 3AE4 5192 5195 6700 669C 80AD"⟩,
   ⟨0x2F8D7, "43D9 6717 671B 6721 675E 6753 233C3 3B49 67FA 6785 6852 6885 2346D 688E 681F"⟩,
   ⟨0x2F8E6, "6914 3B9D 6942 69A3 69EA 6AA8 236A3 6ADB 3C18 6B21 238A7 6B54 3C4E 6B72 6B9F"⟩,
   ⟨0x2F8F5, "6BBA 6BBB 23A8D 21D0B 23AFA 6C4E 23CBC 6CBF 6CCD 6C67 6D16 6D3E 6D77 6D41"⟩,
   ⟨0x2F903, "6D69 6D78 6D85 23D1E 6D34 6E2F 6E6E 3D33 6ECB 6EC7 23ED1 6DF9 6F6E 23F5E"⟩,
   ⟨0x2F911, "23F8E 6FC6 7039 701E 701B 3D96 704A 707D 7077 70AD 20525 7145 24263 719C"⟩,
   ⟨0x2F91F, "243AB 7228 7235 7250 24608 7280 7295 24735 24814 737A 738B 3EAC 73A5 3EB8"⟩,
   ⟨0x2F92D, "3EB8 7447 745C 7471 7485 74CA 3F1B 7524 24C36 753E 24C92 7570 2219F 7610"⟩,
   ⟨0x2F93B, "24FA1 24FB8 25044 3FFC 4008 76F4 250F3 250F2 25119 25133 771E 771F 771F 774A"⟩,
   ⟨0x2F949, "4039 778B 4046 4096 2541D 784E 788C 78CC 40E3 25626 7956 2569A 256C5 798F"⟩,
   ⟨0x2F957, "79EB 412F 7A40 7A4A 7A4F 2597C 25AA7 25AA7 7AEE 4202 25BAB 7BC6 7BC9 4227"⟩,
   ⟨0x2F965, "25C80 7CD2 42A0 7CE8 7CE3 7D00 25F86 7D63 4301 7DC7 7E02 7E45 4334 26228"⟩,
   ⟨0x2F973, "26247 4359 262D9 7F7A 2633E 7F95 7FFA 8005 264DA 26523 8060 265A8 8070 2335F"⟩,
   ⟨0x2F981, "43D5 80B2 8103 440B 813E 5AB5 267A7 267B5 23393 2339C 8201 8204 8F9E 446B"⟩,
   ⟨0x2F98F, "8291 828B 829D 52B3 82B1 82B3 82BD 82E6 26B3C 82E5 831D 8363 83AD 8323 83BD"⟩,
   ⟨0x2F99E, "83E7 8457 8353 83CA 83CC 83DC 26C36 26D6B 26CD5 452B 84F1 84F3 8516 273CA"⟩,
   ⟨0x2F9AC, "8564 26F2C 455D 4561 26FB1 270D2 456B 8650 865C 8667 8669 86A9 8688 870E"⟩,
   ⟨0x2F9BA, "86E2 8779 8728 876B 8786 45D7 87E1 8801 45F9 8860 8863 27667 88D7 88DE 4635"⟩,
   ⟨0x2F9C9, "88FA 34BB 278AE 27966 46BE 46C7 8AA0 8AED 8B8A 8C55 27CA8 8CAB 8CC1 8D1B"⟩,
   ⟨0x2F9D7, "8D77 27F2F 20804 8DCB 8DBC 8DF0 208DE 8ED4 8F38 285D2 285ED 9094 90F1 9111"⟩,
   ⟨0x2F9E5, "2872E 911B 9238 92D7 92D8 927C 93F9 9415 28BFA 958B 4995 95B7 28D77 49E6"⟩,
   ⟨0x2F9F3, "96C3 5DB2 9723 29145 2921A 4A6E 4A76 97E0 2940A 4AB2 29496 980B 980B 9829"⟩,
   ⟨0x2FA01, "295B6 98E2 4B33 9929 99A7 99C2 99FE 4BCE 29B30 9B12 9C40 9CFD 4CCE 4CED 9D67"⟩,
   ⟨0x2FA10, "2A0CE 4CF8 2A105 2A20E 2A291 9EBB 4D56 9EF9 9EFE 9F05 9F0F 9F16 9F3B 2A600"⟩]

/-- What a run says of a code point. -/
def MappedRun.find? (r : MappedRun) (n : Nat) : Option (List Nat) :=
  if r.first ≤ n && n ≤ r.last && (n - r.first) % r.step == 0 then
    some [r.target + (n - r.first) / r.step * r.stride]
  else none

/-- The code points that an entry of a block lists. -/
def entry? (s : String) : Option (List Nat) :=
  if s == "-" then none
  else some ((s.splitOn "+").map fun t => Text.numeral 16 t.toList)

/-- The last block that begins at a code point or before it; `best` is one that does. -/
def blockOf (n : Nat) (best : Option MappedBlock) : List MappedBlock → Option MappedBlock
  | [] => best
  | b :: bs => if b.first ≤ n then blockOf n (some b) bs else best

/-- What the blocks say of a code point. -/
def blockTargets? (n : Nat) : Option (List Nat) :=
  match blockOf n none mappedBlocks with
  | none => none
  | some b => ((b.targets.splitOn " ")[n - b.first]?).bind entry?

/-- What a code point stands for, if not for itself. -/
def targets? (n : Nat) : Option (List Nat) :=
  match mappedRuns.findSome? (·.find? n) with
  | some t => some t
  | none => blockTargets? n

/-- What a character stands for; nothing if it may not be written. -/
def mapChar? (c : Char) : Option (List Char) :=
  let n := c.toNat
  if !Text.inRanges n knownRanges then none
  else if Text.inRanges n ignoredRanges then some []
  else
    match targets? n with
    | some t => some (t.map Char.ofNat)
    | none => some [c]

/-- What the characters of a name stand for, from the back; `done` is what those behind them stand
for. -/
def mapBackward? (done : List Char) : List Char → Option (List Char)
  | [] => some done
  | c :: r =>
    match mapChar? c with
    | some l => mapBackward? (l ++ done) r
    | none => none

/-- What the characters of a name stand for. -/
def mapChars? (s : List Char) : Option (List Char) := mapBackward? [] s.reverse

/-- Whether a character stands for itself. -/
def isPlain (c : Char) : Bool := mapChar? c == some [c]

end SinkAudit.Domain
