import CaseSheet.Text.Ranges
/-!
# Capitals

How a character beyond ASCII is spelled in capitals, by the full upper-case mapping of Unicode 15.0.
Most letters have a capital of their own; some are spelled with several characters, as the sharp s
and the ligatures are.
-/

namespace CaseSheet.Text.Capital

/-- The runs from U+00B5 to U+024F. -/
def from00B5 : List CaseRun := [
  .of 0xB5 0xB5 1 0x39C [], .of 0xDF 0xDF 1 0x53 ['S'], .of 0xE0 0xF6 1 0xC0 [],
  .of 0xF8 0xFE 1 0xD8 [], .of 0xFF 0xFF 1 0x178 [], .of 0x101 0x12F 2 0x100 [],
  .of 0x131 0x131 1 0x49 [], .of 0x133 0x137 2 0x132 [], .of 0x13A 0x148 2 0x139 [],
  .of 0x149 0x149 1 0x2BC ['N'], .of 0x14B 0x177 2 0x14A [], .of 0x17A 0x17E 2 0x179 [],
  .of 0x17F 0x17F 1 0x53 [], .of 0x180 0x180 1 0x243 [], .of 0x183 0x185 2 0x182 [],
  .of 0x188 0x188 1 0x187 [], .of 0x18C 0x18C 1 0x18B [], .of 0x192 0x192 1 0x191 [],
  .of 0x195 0x195 1 0x1F6 [], .of 0x199 0x199 1 0x198 [], .of 0x19A 0x19A 1 0x23D [],
  .of 0x19E 0x19E 1 0x220 [], .of 0x1A1 0x1A5 2 0x1A0 [], .of 0x1A8 0x1A8 1 0x1A7 [],
  .of 0x1AD 0x1AD 1 0x1AC [], .of 0x1B0 0x1B0 1 0x1AF [], .of 0x1B4 0x1B6 2 0x1B3 [],
  .of 0x1B9 0x1B9 1 0x1B8 [], .of 0x1BD 0x1BD 1 0x1BC [], .of 0x1BF 0x1BF 1 0x1F7 [],
  .of 0x1C5 0x1C5 1 0x1C4 [], .of 0x1C6 0x1C6 1 0x1C4 [], .of 0x1C8 0x1C8 1 0x1C7 [],
  .of 0x1C9 0x1C9 1 0x1C7 [], .of 0x1CB 0x1CB 1 0x1CA [], .of 0x1CC 0x1CC 1 0x1CA [],
  .of 0x1CE 0x1DC 2 0x1CD [], .of 0x1DD 0x1DD 1 0x18E [], .of 0x1DF 0x1EF 2 0x1DE [],
  .of 0x1F0 0x1F0 1 0x4A ['\u030c'], .of 0x1F2 0x1F2 1 0x1F1 [], .of 0x1F3 0x1F3 1 0x1F1 [],
  .of 0x1F5 0x1F5 1 0x1F4 [], .of 0x1F9 0x21F 2 0x1F8 [], .of 0x223 0x233 2 0x222 [],
  .of 0x23C 0x23C 1 0x23B [], .of 0x23F 0x240 1 0x2C7E [], .of 0x242 0x242 1 0x241 [],
  .of 0x247 0x24F 2 0x246 []]

/-- The runs from U+0250 to U+1D8E. -/
def from0250 : List CaseRun := [
  .of 0x250 0x250 1 0x2C6F [], .of 0x251 0x251 1 0x2C6D [], .of 0x252 0x252 1 0x2C70 [],
  .of 0x253 0x253 1 0x181 [], .of 0x254 0x254 1 0x186 [], .of 0x256 0x257 1 0x189 [],
  .of 0x259 0x259 1 0x18F [], .of 0x25B 0x25B 1 0x190 [], .of 0x25C 0x25C 1 0xA7AB [],
  .of 0x260 0x260 1 0x193 [], .of 0x261 0x261 1 0xA7AC [], .of 0x263 0x263 1 0x194 [],
  .of 0x265 0x265 1 0xA78D [], .of 0x266 0x266 1 0xA7AA [], .of 0x268 0x268 1 0x197 [],
  .of 0x269 0x269 1 0x196 [], .of 0x26A 0x26A 1 0xA7AE [], .of 0x26B 0x26B 1 0x2C62 [],
  .of 0x26C 0x26C 1 0xA7AD [], .of 0x26F 0x26F 1 0x19C [], .of 0x271 0x271 1 0x2C6E [],
  .of 0x272 0x272 1 0x19D [], .of 0x275 0x275 1 0x19F [], .of 0x27D 0x27D 1 0x2C64 [],
  .of 0x280 0x280 1 0x1A6 [], .of 0x282 0x282 1 0xA7C5 [], .of 0x283 0x283 1 0x1A9 [],
  .of 0x287 0x287 1 0xA7B1 [], .of 0x288 0x288 1 0x1AE [], .of 0x289 0x289 1 0x244 [],
  .of 0x28A 0x28B 1 0x1B1 [], .of 0x28C 0x28C 1 0x245 [], .of 0x292 0x292 1 0x1B7 [],
  .of 0x29D 0x29D 1 0xA7B2 [], .of 0x29E 0x29E 1 0xA7B0 [], .of 0x345 0x345 1 0x399 [],
  .of 0x371 0x373 2 0x370 [], .of 0x377 0x377 1 0x376 [], .of 0x37B 0x37D 1 0x3FD [],
  .of 0x390 0x390 1 0x399 ['\u0308', '\u0301'], .of 0x3AC 0x3AC 1 0x386 [],
  .of 0x3AD 0x3AF 1 0x388 [], .of 0x3B0 0x3B0 1 0x3A5 ['\u0308', '\u0301'],
  .of 0x3B1 0x3C1 1 0x391 [], .of 0x3C2 0x3C2 1 0x3A3 [], .of 0x3C3 0x3CB 1 0x3A3 [],
  .of 0x3CC 0x3CC 1 0x38C [], .of 0x3CD 0x3CE 1 0x38E [], .of 0x3D0 0x3D0 1 0x392 [],
  .of 0x3D1 0x3D1 1 0x398 [], .of 0x3D5 0x3D5 1 0x3A6 [], .of 0x3D6 0x3D6 1 0x3A0 [],
  .of 0x3D7 0x3D7 1 0x3CF [], .of 0x3D9 0x3EF 2 0x3D8 [], .of 0x3F0 0x3F0 1 0x39A [],
  .of 0x3F1 0x3F1 1 0x3A1 [], .of 0x3F2 0x3F2 1 0x3F9 [], .of 0x3F3 0x3F3 1 0x37F [],
  .of 0x3F5 0x3F5 1 0x395 [], .of 0x3F8 0x3F8 1 0x3F7 [], .of 0x3FB 0x3FB 1 0x3FA [],
  .of 0x430 0x44F 1 0x410 [], .of 0x450 0x45F 1 0x400 [], .of 0x461 0x481 2 0x460 [],
  .of 0x48B 0x4BF 2 0x48A [], .of 0x4C2 0x4CE 2 0x4C1 [], .of 0x4CF 0x4CF 1 0x4C0 [],
  .of 0x4D1 0x52F 2 0x4D0 [], .of 0x561 0x586 1 0x531 [], .of 0x587 0x587 1 0x535 ['\u0552'],
  .of 0x10D0 0x10FA 1 0x1C90 [], .of 0x10FD 0x10FF 1 0x1CBD [], .of 0x13F8 0x13FD 1 0x13F0 [],
  .of 0x1C80 0x1C80 1 0x412 [], .of 0x1C81 0x1C81 1 0x414 [], .of 0x1C82 0x1C82 1 0x41E [],
  .of 0x1C83 0x1C84 1 0x421 [], .of 0x1C85 0x1C85 1 0x422 [], .of 0x1C86 0x1C86 1 0x42A [],
  .of 0x1C87 0x1C87 1 0x462 [], .of 0x1C88 0x1C88 1 0xA64A [], .of 0x1D79 0x1D79 1 0xA77D [],
  .of 0x1D7D 0x1D7D 1 0x2C63 [], .of 0x1D8E 0x1D8E 1 0xA7C6 []]

/-- The runs from U+1E01 to U+1FFC. -/
def from1E01 : List CaseRun := [
  .of 0x1E01 0x1E95 2 0x1E00 [], .of 0x1E96 0x1E96 1 0x48 ['\u0331'],
  .of 0x1E97 0x1E97 1 0x54 ['\u0308'], .of 0x1E98 0x1E98 1 0x57 ['\u030a'],
  .of 0x1E99 0x1E99 1 0x59 ['\u030a'], .of 0x1E9A 0x1E9A 1 0x41 ['\u02be'],
  .of 0x1E9B 0x1E9B 1 0x1E60 [], .of 0x1EA1 0x1EFF 2 0x1EA0 [], .of 0x1F00 0x1F07 1 0x1F08 [],
  .of 0x1F10 0x1F15 1 0x1F18 [], .of 0x1F20 0x1F27 1 0x1F28 [], .of 0x1F30 0x1F37 1 0x1F38 [],
  .of 0x1F40 0x1F45 1 0x1F48 [], .of 0x1F50 0x1F50 1 0x3A5 ['\u0313'],
  .of 0x1F51 0x1F57 2 0x1F59 [], .of 0x1F52 0x1F52 1 0x3A5 ['\u0313', '\u0300'],
  .of 0x1F54 0x1F54 1 0x3A5 ['\u0313', '\u0301'], .of 0x1F56 0x1F56 1 0x3A5 ['\u0313', '\u0342'],
  .of 0x1F60 0x1F67 1 0x1F68 [], .of 0x1F70 0x1F71 1 0x1FBA [], .of 0x1F72 0x1F75 1 0x1FC8 [],
  .of 0x1F76 0x1F77 1 0x1FDA [], .of 0x1F78 0x1F79 1 0x1FF8 [], .of 0x1F7A 0x1F7B 1 0x1FEA [],
  .of 0x1F7C 0x1F7D 1 0x1FFA [], .of 0x1F80 0x1F87 1 0x1F08 ['\u0399'],
  .of 0x1F88 0x1F8F 1 0x1F08 ['\u0399'], .of 0x1F90 0x1F97 1 0x1F28 ['\u0399'],
  .of 0x1F98 0x1F9F 1 0x1F28 ['\u0399'], .of 0x1FA0 0x1FA7 1 0x1F68 ['\u0399'],
  .of 0x1FA8 0x1FAF 1 0x1F68 ['\u0399'], .of 0x1FB0 0x1FB1 1 0x1FB8 [],
  .of 0x1FB2 0x1FB2 1 0x1FBA ['\u0399'], .of 0x1FB3 0x1FB3 1 0x391 ['\u0399'],
  .of 0x1FB4 0x1FB4 1 0x386 ['\u0399'], .of 0x1FB6 0x1FB6 1 0x391 ['\u0342'],
  .of 0x1FB7 0x1FB7 1 0x391 ['\u0342', '\u0399'], .of 0x1FBC 0x1FBC 1 0x391 ['\u0399'],
  .of 0x1FBE 0x1FBE 1 0x399 [], .of 0x1FC2 0x1FC2 1 0x1FCA ['\u0399'],
  .of 0x1FC3 0x1FC3 1 0x397 ['\u0399'], .of 0x1FC4 0x1FC4 1 0x389 ['\u0399'],
  .of 0x1FC6 0x1FC6 1 0x397 ['\u0342'], .of 0x1FC7 0x1FC7 1 0x397 ['\u0342', '\u0399'],
  .of 0x1FCC 0x1FCC 1 0x397 ['\u0399'], .of 0x1FD0 0x1FD1 1 0x1FD8 [],
  .of 0x1FD2 0x1FD2 1 0x399 ['\u0308', '\u0300'], .of 0x1FD3 0x1FD3 1 0x399 ['\u0308', '\u0301'],
  .of 0x1FD6 0x1FD6 1 0x399 ['\u0342'], .of 0x1FD7 0x1FD7 1 0x399 ['\u0308', '\u0342'],
  .of 0x1FE0 0x1FE1 1 0x1FE8 [], .of 0x1FE2 0x1FE2 1 0x3A5 ['\u0308', '\u0300'],
  .of 0x1FE3 0x1FE3 1 0x3A5 ['\u0308', '\u0301'], .of 0x1FE4 0x1FE4 1 0x3A1 ['\u0313'],
  .of 0x1FE5 0x1FE5 1 0x1FEC [], .of 0x1FE6 0x1FE6 1 0x3A5 ['\u0342'],
  .of 0x1FE7 0x1FE7 1 0x3A5 ['\u0308', '\u0342'], .of 0x1FF2 0x1FF2 1 0x1FFA ['\u0399'],
  .of 0x1FF3 0x1FF3 1 0x3A9 ['\u0399'], .of 0x1FF4 0x1FF4 1 0x38F ['\u0399'],
  .of 0x1FF6 0x1FF6 1 0x3A9 ['\u0342'], .of 0x1FF7 0x1FF7 1 0x3A9 ['\u0342', '\u0399'],
  .of 0x1FFC 0x1FFC 1 0x3A9 ['\u0399']]

/-- The runs from U+214E to U+1E943. -/
def from214E : List CaseRun := [
  .of 0x214E 0x214E 1 0x2132 [], .of 0x2170 0x217F 1 0x2160 [], .of 0x2184 0x2184 1 0x2183 [],
  .of 0x24D0 0x24E9 1 0x24B6 [], .of 0x2C30 0x2C5F 1 0x2C00 [], .of 0x2C61 0x2C61 1 0x2C60 [],
  .of 0x2C65 0x2C65 1 0x23A [], .of 0x2C66 0x2C66 1 0x23E [], .of 0x2C68 0x2C6C 2 0x2C67 [],
  .of 0x2C73 0x2C73 1 0x2C72 [], .of 0x2C76 0x2C76 1 0x2C75 [], .of 0x2C81 0x2CE3 2 0x2C80 [],
  .of 0x2CEC 0x2CEE 2 0x2CEB [], .of 0x2CF3 0x2CF3 1 0x2CF2 [], .of 0x2D00 0x2D25 1 0x10A0 [],
  .of 0x2D27 0x2D27 1 0x10C7 [], .of 0x2D2D 0x2D2D 1 0x10CD [], .of 0xA641 0xA66D 2 0xA640 [],
  .of 0xA681 0xA69B 2 0xA680 [], .of 0xA723 0xA72F 2 0xA722 [], .of 0xA733 0xA76F 2 0xA732 [],
  .of 0xA77A 0xA77C 2 0xA779 [], .of 0xA77F 0xA787 2 0xA77E [], .of 0xA78C 0xA78C 1 0xA78B [],
  .of 0xA791 0xA793 2 0xA790 [], .of 0xA794 0xA794 1 0xA7C4 [], .of 0xA797 0xA7A9 2 0xA796 [],
  .of 0xA7B5 0xA7C3 2 0xA7B4 [], .of 0xA7C8 0xA7CA 2 0xA7C7 [], .of 0xA7D1 0xA7D1 1 0xA7D0 [],
  .of 0xA7D7 0xA7D9 2 0xA7D6 [], .of 0xA7F6 0xA7F6 1 0xA7F5 [], .of 0xAB53 0xAB53 1 0xA7B3 [],
  .of 0xAB70 0xABBF 1 0x13A0 [], .of 0xFB00 0xFB00 1 0x46 ['F'], .of 0xFB01 0xFB01 1 0x46 ['I'],
  .of 0xFB02 0xFB02 1 0x46 ['L'], .of 0xFB03 0xFB03 1 0x46 ['F', 'I'],
  .of 0xFB04 0xFB04 1 0x46 ['F', 'L'], .of 0xFB05 0xFB05 1 0x53 ['T'],
  .of 0xFB06 0xFB06 1 0x53 ['T'], .of 0xFB13 0xFB13 1 0x544 ['\u0546'],
  .of 0xFB14 0xFB14 1 0x544 ['\u0535'], .of 0xFB15 0xFB15 1 0x544 ['\u053b'],
  .of 0xFB16 0xFB16 1 0x54E ['\u0546'], .of 0xFB17 0xFB17 1 0x544 ['\u053d'],
  .of 0xFF41 0xFF5A 1 0xFF21 [], .of 0x10428 0x1044F 1 0x10400 [], .of 0x104D8 0x104FB 1 0x104B0 [],
  .of 0x10597 0x105A1 1 0x10570 [], .of 0x105A3 0x105B1 1 0x1057C [],
  .of 0x105B3 0x105B9 1 0x1058C [], .of 0x105BB 0x105BC 1 0x10594 [],
  .of 0x10CC0 0x10CF2 1 0x10C80 [], .of 0x118C0 0x118DF 1 0x118A0 [],
  .of 0x16E60 0x16E7F 1 0x16E40 [], .of 0x1E922 0x1E943 1 0x1E900 []]

/-- All runs. -/
def runs : List CaseRun := from00B5 ++ from0250 ++ from1E01 ++ from214E

end CaseSheet.Text.Capital
