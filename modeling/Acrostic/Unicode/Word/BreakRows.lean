import Acrostic.Unicode.Rows

namespace Acrostic.Unicode

-- Word_Break=ALetter from U+0080 on: letters of alphabets that separate words
def aLetterRows : List Nat := [
  0x000AA_000AA_000B5_000B5_000B8_000B8_000BA_000BA_000C0_000D6_000D8_000F6_000F8_002D7,
  0x002DE_002FF_00370_00374_00376_00377_0037A_0037D_0037F_0037F_00386_00386_00388_0038A,
  0x0038C_0038C_0038E_003A1_003A3_003F5_003F7_00481_0048A_0052F_00531_00556_00559_0055C,
  0x0055E_0055E_00560_00588_0058A_0058A_005F3_005F3_00620_0064A_0066E_0066F_00671_006D3,
  0x006D5_006D5_006E5_006E6_006EE_006EF_006FA_006FC_006FF_006FF_0070F_00710_00712_0072F,
  0x0074D_007A5_007B1_007B1_007CA_007EA_007F4_007F5_007FA_007FA_00800_00815_0081A_0081A,
  0x00824_00824_00828_00828_00840_00858_00860_0086A_00870_00887_00889_0088F_008A0_008C9,
  0x00904_00939_0093D_0093D_00950_00950_00958_00961_00971_00980_00985_0098C_0098F_00990,
  0x00993_009A8_009AA_009B0_009B2_009B2_009B6_009B9_009BD_009BD_009CE_009CE_009DC_009DD,
  0x009DF_009E1_009F0_009F1_009FC_009FC_00A05_00A0A_00A0F_00A10_00A13_00A28_00A2A_00A30,
  0x00A32_00A33_00A35_00A36_00A38_00A39_00A59_00A5C_00A5E_00A5E_00A72_00A74_00A85_00A8D,
  0x00A8F_00A91_00A93_00AA8_00AAA_00AB0_00AB2_00AB3_00AB5_00AB9_00ABD_00ABD_00AD0_00AD0,
  0x00AE0_00AE1_00AF9_00AF9_00B05_00B0C_00B0F_00B10_00B13_00B28_00B2A_00B30_00B32_00B33,
  0x00B35_00B39_00B3D_00B3D_00B5C_00B5D_00B5F_00B61_00B71_00B71_00B83_00B83_00B85_00B8A,
  0x00B8E_00B90_00B92_00B95_00B99_00B9A_00B9C_00B9C_00B9E_00B9F_00BA3_00BA4_00BA8_00BAA,
  0x00BAE_00BB9_00BD0_00BD0_00C05_00C0C_00C0E_00C10_00C12_00C28_00C2A_00C39_00C3D_00C3D,
  0x00C58_00C5A_00C5C_00C5D_00C60_00C61_00C80_00C80_00C85_00C8C_00C8E_00C90_00C92_00CA8,
  0x00CAA_00CB3_00CB5_00CB9_00CBD_00CBD_00CDC_00CDE_00CE0_00CE1_00CF1_00CF2_00D04_00D0C,
  0x00D0E_00D10_00D12_00D3A_00D3D_00D3D_00D4E_00D4E_00D54_00D56_00D5F_00D61_00D7A_00D7F,
  0x00D85_00D96_00D9A_00DB1_00DB3_00DBB_00DBD_00DBD_00DC0_00DC6_00F00_00F00_00F40_00F47,
  0x00F49_00F6C_00F88_00F8C_010A0_010C5_010C7_010C7_010CD_010CD_010D0_010FA_010FC_01248,
  0x0124A_0124D_01250_01256_01258_01258_0125A_0125D_01260_01288_0128A_0128D_01290_012B0,
  0x012B2_012B5_012B8_012BE_012C0_012C0_012C2_012C5_012C8_012D6_012D8_01310_01312_01315,
  0x01318_0135A_01380_0138F_013A0_013F5_013F8_013FD_01401_0166C_0166F_0167F_01681_0169A,
  0x016A0_016EA_016EE_016F8_01700_01711_0171F_01731_01740_01751_01760_0176C_0176E_01770,
  0x01820_01878_01880_01884_01887_018A8_018AA_018AA_018B0_018F5_01900_0191E_01A00_01A16,
  0x01B05_01B33_01B45_01B4C_01B83_01BA0_01BAE_01BAF_01BBA_01BE5_01C00_01C23_01C4D_01C4F,
  0x01C5A_01C7D_01C80_01C8A_01C90_01CBA_01CBD_01CBF_01CE9_01CEC_01CEE_01CF3_01CF5_01CF6,
  0x01CFA_01CFA_01D00_01DBF_01E00_01F15_01F18_01F1D_01F20_01F45_01F48_01F4D_01F50_01F57,
  0x01F59_01F59_01F5B_01F5B_01F5D_01F5D_01F5F_01F7D_01F80_01FB4_01FB6_01FBC_01FBE_01FBE,
  0x01FC2_01FC4_01FC6_01FCC_01FD0_01FD3_01FD6_01FDB_01FE0_01FEC_01FF2_01FF4_01FF6_01FFC,
  0x02071_02071_0207F_0207F_02090_0209C_02102_02102_02107_02107_0210A_02113_02115_02115,
  0x02119_0211D_02124_02124_02126_02126_02128_02128_0212A_0212D_0212F_02139_0213C_0213F,
  0x02145_02149_0214E_0214E_02160_02188_024B6_024E9_02C00_02CE4_02CEB_02CEE_02CF2_02CF3,
  0x02D00_02D25_02D27_02D27_02D2D_02D2D_02D30_02D67_02D6F_02D6F_02D80_02D96_02DA0_02DA6,
  0x02DA8_02DAE_02DB0_02DB6_02DB8_02DBE_02DC0_02DC6_02DC8_02DCE_02DD0_02DD6_02DD8_02DDE,
  0x02E2F_02E2F_03005_03005_0303B_0303C_03105_0312F_03131_0318E_031A0_031BF_0A000_0A48C,
  0x0A4D0_0A4FD_0A500_0A60C_0A610_0A61F_0A62A_0A62B_0A640_0A66E_0A67F_0A69D_0A6A0_0A6EF,
  0x0A708_0A7DC_0A7F1_0A801_0A803_0A805_0A807_0A80A_0A80C_0A822_0A840_0A873_0A882_0A8B3,
  0x0A8F2_0A8F7_0A8FB_0A8FB_0A8FD_0A8FE_0A90A_0A925_0A930_0A946_0A960_0A97C_0A984_0A9B2,
  0x0A9CF_0A9CF_0AA00_0AA28_0AA40_0AA42_0AA44_0AA4B_0AAE0_0AAEA_0AAF2_0AAF4_0AB01_0AB06,
  0x0AB09_0AB0E_0AB11_0AB16_0AB20_0AB26_0AB28_0AB2E_0AB30_0AB69_0AB70_0ABE2_0AC00_0D7A3,
  0x0D7B0_0D7C6_0D7CB_0D7FB_0FB00_0FB06_0FB13_0FB17_0FB50_0FBB1_0FBD3_0FD3D_0FD50_0FD8F,
  0x0FD92_0FDC7_0FDF0_0FDFB_0FE70_0FE74_0FE76_0FEFC_0FF21_0FF3A_0FF41_0FF5A_0FFA0_0FFBE,
  0x0FFC2_0FFC7_0FFCA_0FFCF_0FFD2_0FFD7_0FFDA_0FFDC_10000_1000B_1000D_10026_10028_1003A,
  0x1003C_1003D_1003F_1004D_10050_1005D_10080_100FA_10140_10174_10280_1029C_102A0_102D0,
  0x10300_1031F_1032D_1034A_10350_10375_10380_1039D_103A0_103C3_103C8_103CF_103D1_103D5,
  0x10400_1049D_104B0_104D3_104D8_104FB_10500_10527_10530_10563_10570_1057A_1057C_1058A,
  0x1058C_10592_10594_10595_10597_105A1_105A3_105B1_105B3_105B9_105BB_105BC_105C0_105F3,
  0x10600_10736_10740_10755_10760_10767_10780_10785_10787_107B0_107B2_107BA_10800_10805,
  0x10808_10808_1080A_10835_10837_10838_1083C_1083C_1083F_10855_10860_10876_10880_1089E,
  0x108E0_108F2_108F4_108F5_10900_10915_10920_10939_10940_10959_10980_109B7_109BE_109BF,
  0x10A00_10A00_10A10_10A13_10A15_10A17_10A19_10A35_10A60_10A7C_10A80_10A9C_10AC0_10AC7,
  0x10AC9_10AE4_10B00_10B35_10B40_10B55_10B60_10B72_10B80_10B91_10C00_10C48_10C80_10CB2,
  0x10CC0_10CF2_10D00_10D23_10D4A_10D65_10D6F_10D85_10E80_10EA9_10EB0_10EB1_10EC2_10EC7,
  0x10F00_10F1C_10F27_10F27_10F30_10F45_10F70_10F81_10FB0_10FC4_10FE0_10FF6_11003_11037,
  0x11071_11072_11075_11075_11083_110AF_110D0_110E8_11103_11126_11144_11144_11147_11147,
  0x11150_11172_11176_11176_11183_111B2_111C1_111C4_111DA_111DA_111DC_111DC_11200_11211,
  0x11213_1122B_1123F_11240_11280_11286_11288_11288_1128A_1128D_1128F_1129D_1129F_112A8,
  0x112B0_112DE_11305_1130C_1130F_11310_11313_11328_1132A_11330_11332_11333_11335_11339,
  0x1133D_1133D_11350_11350_1135D_11361_11380_11389_1138B_1138B_1138E_1138E_11390_113B5,
  0x113B7_113B7_113D1_113D1_113D3_113D3_11400_11434_11447_1144A_1145F_11461_11480_114AF,
  0x114C4_114C5_114C7_114C7_11580_115AE_115D8_115DB_11600_1162F_11644_11644_11680_116AA,
  0x116B8_116B8_11800_1182B_118A0_118DF_118FF_11906_11909_11909_1190C_11913_11915_11916,
  0x11918_1192F_1193F_1193F_11941_11941_119A0_119A7_119AA_119D0_119E1_119E1_119E3_119E3,
  0x11A00_11A00_11A0B_11A32_11A3A_11A3A_11A50_11A50_11A5C_11A89_11A9D_11A9D_11AB0_11AF8,
  0x11BC0_11BE0_11C00_11C08_11C0A_11C2E_11C40_11C40_11C72_11C8F_11D00_11D06_11D08_11D09,
  0x11D0B_11D30_11D46_11D46_11D60_11D65_11D67_11D68_11D6A_11D89_11D98_11D98_11DB0_11DDB,
  0x11EE0_11EF2_11F02_11F02_11F04_11F10_11F12_11F33_11FB0_11FB0_12000_12399_12400_1246E,
  0x12480_12543_12F90_12FF0_13000_1342F_13441_13446_13460_143FA_14400_14646_16100_1611D,
  0x16800_16A38_16A40_16A5E_16A70_16ABE_16AD0_16AED_16B00_16B2F_16B40_16B43_16B63_16B77,
  0x16B7D_16B8F_16D40_16D6C_16E40_16E7F_16EA0_16EB8_16EBB_16ED3_16F00_16F4A_16F50_16F50,
  0x16F93_16F9F_16FE0_16FE1_16FE3_16FE3_1BC00_1BC6A_1BC70_1BC7C_1BC80_1BC88_1BC90_1BC99,
  0x1D400_1D454_1D456_1D49C_1D49E_1D49F_1D4A2_1D4A2_1D4A5_1D4A6_1D4A9_1D4AC_1D4AE_1D4B9,
  0x1D4BB_1D4BB_1D4BD_1D4C3_1D4C5_1D505_1D507_1D50A_1D50D_1D514_1D516_1D51C_1D51E_1D539,
  0x1D53B_1D53E_1D540_1D544_1D546_1D546_1D54A_1D550_1D552_1D6A5_1D6A8_1D6C0_1D6C2_1D6DA,
  0x1D6DC_1D6FA_1D6FC_1D714_1D716_1D734_1D736_1D74E_1D750_1D76E_1D770_1D788_1D78A_1D7A8,
  0x1D7AA_1D7C2_1D7C4_1D7CB_1DF00_1DF1E_1DF25_1DF2A_1E030_1E06D_1E100_1E12C_1E137_1E13D,
  0x1E14E_1E14E_1E290_1E2AD_1E2C0_1E2EB_1E4D0_1E4EB_1E5D0_1E5ED_1E5F0_1E5F0_1E6C0_1E6DE,
  0x1E6E0_1E6E2_1E6E4_1E6E5_1E6E7_1E6ED_1E6F0_1E6F4_1E6FE_1E6FF_1E7E0_1E7E6_1E7E8_1E7EB,
  0x1E7ED_1E7EE_1E7F0_1E7FE_1E800_1E8C4_1E900_1E943_1E94B_1E94B_1EE00_1EE03_1EE05_1EE1F,
  0x1EE21_1EE22_1EE24_1EE24_1EE27_1EE27_1EE29_1EE32_1EE34_1EE37_1EE39_1EE39_1EE3B_1EE3B,
  0x1EE42_1EE42_1EE47_1EE47_1EE49_1EE49_1EE4B_1EE4B_1EE4D_1EE4F_1EE51_1EE52_1EE54_1EE54,
  0x1EE57_1EE57_1EE59_1EE59_1EE5B_1EE5B_1EE5D_1EE5D_1EE5F_1EE5F_1EE61_1EE62_1EE64_1EE64,
  0x1EE67_1EE6A_1EE6C_1EE72_1EE74_1EE77_1EE79_1EE7C_1EE7E_1EE7E_1EE80_1EE89_1EE8B_1EE9B,
  0x1EEA1_1EEA3_1EEA5_1EEA9_1EEAB_1EEBB_1F130_1F149_1F150_1F169_1F170_1F189]

-- Word_Break=Hebrew_Letter from U+0080 on: Hebrew letters
def hebrewLetterRows : List Nat := [
  0x005D0_005EA_005EF_005F2_0FB1D_0FB1D_0FB1F_0FB28_0FB2A_0FB36_0FB38_0FB3C_0FB3E_0FB3E,
  0x0FB40_0FB41_0FB43_0FB44_0FB46_0FB4F]

-- Word_Break=Katakana from U+0080 on: Katakana
def katakanaRows : List Nat := [
  0x03031_03035_0309B_0309C_030A0_030FA_030FC_030FF_031F0_031FF_032D0_032FE_03300_03357,
  0x0FF66_0FF9D_1AFF0_1AFF3_1AFF5_1AFFB_1AFFD_1AFFE_1B000_1B000_1B120_1B122_1B155_1B155,
  0x1B164_1B167]

-- Word_Break=Numeric from U+0080 on: digits and number signs
def numericRows : List Nat := [
  0x00600_00605_00660_00669_0066B_0066B_006DD_006DD_006F0_006F9_007C0_007C9_00890_00891,
  0x008E2_008E2_00966_0096F_009E6_009EF_00A66_00A6F_00AE6_00AEF_00B66_00B6F_00BE6_00BEF,
  0x00C66_00C6F_00CE6_00CEF_00D66_00D6F_00DE6_00DEF_00E50_00E59_00ED0_00ED9_00F20_00F29,
  0x01040_01049_01090_01099_017E0_017E9_01810_01819_01946_0194F_019D0_019D9_01A80_01A89,
  0x01A90_01A99_01B50_01B59_01BB0_01BB9_01C40_01C49_01C50_01C59_0A620_0A629_0A8D0_0A8D9,
  0x0A900_0A909_0A9D0_0A9D9_0A9F0_0A9F9_0AA50_0AA59_0ABF0_0ABF9_0FF10_0FF19_104A0_104A9,
  0x10D30_10D39_10D40_10D49_11066_1106F_110BD_110BD_110CD_110CD_110F0_110F9_11136_1113F,
  0x111D0_111D9_112F0_112F9_11450_11459_114D0_114D9_11650_11659_116C0_116C9_116D0_116E3,
  0x11730_11739_118E0_118E9_11950_11959_11BF0_11BF9_11C50_11C59_11D50_11D59_11DA0_11DA9,
  0x11DE0_11DE9_11F50_11F59_16130_16139_16A60_16A69_16AC0_16AC9_16B50_16B59_16D70_16D79,
  0x1CCF0_1CCF9_1D7CE_1D7FF_1E140_1E149_1E2F0_1E2F9_1E4F0_1E4F9_1E5F1_1E5FA_1E950_1E959,
  0x1FBF0_1FBF9]

-- Word_Break=Extend from U+0080 on: marks that continue the character before them
def extendRows : List Nat := [
  0x00300_0036F_00483_00489_00591_005BD_005BF_005BF_005C1_005C2_005C4_005C5_005C7_005C7,
  0x00610_0061A_0064B_0065F_00670_00670_006D6_006DC_006DF_006E4_006E7_006E8_006EA_006ED,
  0x00711_00711_00730_0074A_007A6_007B0_007EB_007F3_007FD_007FD_00816_00819_0081B_00823,
  0x00825_00827_00829_0082D_00859_0085B_00897_0089F_008CA_008E1_008E3_00903_0093A_0093C,
  0x0093E_0094F_00951_00957_00962_00963_00981_00983_009BC_009BC_009BE_009C4_009C7_009C8,
  0x009CB_009CD_009D7_009D7_009E2_009E3_009FE_009FE_00A01_00A03_00A3C_00A3C_00A3E_00A42,
  0x00A47_00A48_00A4B_00A4D_00A51_00A51_00A70_00A71_00A75_00A75_00A81_00A83_00ABC_00ABC,
  0x00ABE_00AC5_00AC7_00AC9_00ACB_00ACD_00AE2_00AE3_00AFA_00AFF_00B01_00B03_00B3C_00B3C,
  0x00B3E_00B44_00B47_00B48_00B4B_00B4D_00B55_00B57_00B62_00B63_00B82_00B82_00BBE_00BC2,
  0x00BC6_00BC8_00BCA_00BCD_00BD7_00BD7_00C00_00C04_00C3C_00C3C_00C3E_00C44_00C46_00C48,
  0x00C4A_00C4D_00C55_00C56_00C62_00C63_00C81_00C83_00CBC_00CBC_00CBE_00CC4_00CC6_00CC8,
  0x00CCA_00CCD_00CD5_00CD6_00CE2_00CE3_00CF3_00CF3_00D00_00D03_00D3B_00D3C_00D3E_00D44,
  0x00D46_00D48_00D4A_00D4D_00D57_00D57_00D62_00D63_00D81_00D83_00DCA_00DCA_00DCF_00DD4,
  0x00DD6_00DD6_00DD8_00DDF_00DF2_00DF3_00E31_00E31_00E34_00E3A_00E47_00E4E_00EB1_00EB1,
  0x00EB4_00EBC_00EC8_00ECE_00F18_00F19_00F35_00F35_00F37_00F37_00F39_00F39_00F3E_00F3F,
  0x00F71_00F84_00F86_00F87_00F8D_00F97_00F99_00FBC_00FC6_00FC6_0102B_0103E_01056_01059,
  0x0105E_01060_01062_01064_01067_0106D_01071_01074_01082_0108D_0108F_0108F_0109A_0109D,
  0x0135D_0135F_01712_01715_01732_01734_01752_01753_01772_01773_017B4_017D3_017DD_017DD,
  0x0180B_0180D_0180F_0180F_01885_01886_018A9_018A9_01920_0192B_01930_0193B_01A17_01A1B,
  0x01A55_01A5E_01A60_01A7C_01A7F_01A7F_01AB0_01ADD_01AE0_01AEB_01B00_01B04_01B34_01B44,
  0x01B6B_01B73_01B80_01B82_01BA1_01BAD_01BE6_01BF3_01C24_01C37_01CD0_01CD2_01CD4_01CE8,
  0x01CED_01CED_01CF4_01CF4_01CF7_01CF9_01DC0_01DFF_0200C_0200C_020D0_020F0_02CEF_02CF1,
  0x02D7F_02D7F_02DE0_02DFF_0302A_0302F_03099_0309A_0A66F_0A672_0A674_0A67D_0A69E_0A69F,
  0x0A6F0_0A6F1_0A802_0A802_0A806_0A806_0A80B_0A80B_0A823_0A827_0A82C_0A82C_0A880_0A881,
  0x0A8B4_0A8C5_0A8E0_0A8F1_0A8FF_0A8FF_0A926_0A92D_0A947_0A953_0A980_0A983_0A9B3_0A9C0,
  0x0A9E5_0A9E5_0AA29_0AA36_0AA43_0AA43_0AA4C_0AA4D_0AA7B_0AA7D_0AAB0_0AAB0_0AAB2_0AAB4,
  0x0AAB7_0AAB8_0AABE_0AABF_0AAC1_0AAC1_0AAEB_0AAEF_0AAF5_0AAF6_0ABE3_0ABEA_0ABEC_0ABED,
  0x0FB1E_0FB1E_0FE00_0FE0F_0FE20_0FE2F_0FF9E_0FF9F_101FD_101FD_102E0_102E0_10376_1037A,
  0x10A01_10A03_10A05_10A06_10A0C_10A0F_10A38_10A3A_10A3F_10A3F_10AE5_10AE6_10D24_10D27,
  0x10D69_10D6D_10EAB_10EAC_10EFA_10EFF_10F46_10F50_10F82_10F85_11000_11002_11038_11046,
  0x11070_11070_11073_11074_1107F_11082_110B0_110BA_110C2_110C2_11100_11102_11127_11134,
  0x11145_11146_11173_11173_11180_11182_111B3_111C0_111C9_111CC_111CE_111CF_1122C_11237,
  0x1123E_1123E_11241_11241_112DF_112EA_11300_11303_1133B_1133C_1133E_11344_11347_11348,
  0x1134B_1134D_11357_11357_11362_11363_11366_1136C_11370_11374_113B8_113C0_113C2_113C2,
  0x113C5_113C5_113C7_113CA_113CC_113D0_113D2_113D2_113E1_113E2_11435_11446_1145E_1145E,
  0x114B0_114C3_115AF_115B5_115B8_115C0_115DC_115DD_11630_11640_116AB_116B7_1171D_1172B,
  0x1182C_1183A_11930_11935_11937_11938_1193B_1193E_11940_11940_11942_11943_119D1_119D7,
  0x119DA_119E0_119E4_119E4_11A01_11A0A_11A33_11A39_11A3B_11A3E_11A47_11A47_11A51_11A5B,
  0x11A8A_11A99_11B60_11B67_11C2F_11C36_11C38_11C3F_11C92_11CA7_11CA9_11CB6_11D31_11D36,
  0x11D3A_11D3A_11D3C_11D3D_11D3F_11D45_11D47_11D47_11D8A_11D8E_11D90_11D91_11D93_11D97,
  0x11EF3_11EF6_11F00_11F01_11F03_11F03_11F34_11F3A_11F3E_11F42_11F5A_11F5A_13440_13440,
  0x13447_13455_1611E_1612F_16AF0_16AF4_16B30_16B36_16F4F_16F4F_16F51_16F87_16F8F_16F92,
  0x16FE4_16FE4_16FF0_16FF1_1BC9D_1BC9E_1CF00_1CF2D_1CF30_1CF46_1D165_1D169_1D16D_1D172,
  0x1D17B_1D182_1D185_1D18B_1D1AA_1D1AD_1D242_1D244_1DA00_1DA36_1DA3B_1DA6C_1DA75_1DA75,
  0x1DA84_1DA84_1DA9B_1DA9F_1DAA1_1DAAF_1E000_1E006_1E008_1E018_1E01B_1E021_1E023_1E024,
  0x1E026_1E02A_1E08F_1E08F_1E130_1E136_1E2AE_1E2AE_1E2EC_1E2EF_1E4EC_1E4EF_1E5EE_1E5EF,
  0x1E6E3_1E6E3_1E6E6_1E6E6_1E6EE_1E6EF_1E6F5_1E6F5_1E8D0_1E8D6_1E944_1E94A_1F3FB_1F3FF,
  0xE0020_E007F_E0100_E01EF]

-- Word_Break=Format from U+0080 on: format characters
def formatRows : List Nat := [
  0x000AD_000AD_0061C_0061C_0180E_0180E_0200E_0200F_0202A_0202E_02060_02064_02066_0206F,
  0x0FEFF_0FEFF_0FFF9_0FFFB_13430_1343F_1BCA0_1BCA3_1D173_1D17A_E0001_E0001]

-- Word_Break=ExtendNumLet from U+0080 on: connector punctuation
def extendNumLetRows : List Nat := [
  0x0202F_0202F_0203F_02040_02054_02054_0FE33_0FE34_0FE4D_0FE4F_0FF3F_0FF3F]

-- Word_Break=MidLetter from U+0080 on: punctuation inside words
def midLetterRows : List Nat := [
  0x000B7_000B7_00387_00387_0055F_0055F_005F4_005F4_02027_02027_0FE13_0FE13_0FE55_0FE55,
  0x0FF1A_0FF1A]

-- Word_Break=MidNum from U+0080 on: punctuation inside numbers
def midNumRows : List Nat := [
  0x0037E_0037E_00589_00589_0060C_0060D_0066C_0066C_007F8_007F8_02044_02044_0FE50_0FE50,
  0x0FE54_0FE54_0FF0C_0FF0C_0FF1B_0FF1B]

-- Word_Break=MidNumLet from U+0080 on: punctuation inside words and numbers
def midNumLetRows : List Nat := [
  0x02018_02019_02024_02024_0FE52_0FE52_0FF07_0FF07_0FF0E_0FF0E]

-- Word_Break=WSegSpace from U+0080 on: spaces that stay together
def wSegSpaceRows : List Nat := [
  0x01680_01680_02000_02006_02008_0200A_0205F_0205F_03000_03000]

-- The code points that have the Extended_Pictographic property
def pictographicRows : List Nat := [
  0x000A9_000A9_000AE_000AE_0203C_0203C_02049_02049_02122_02122_02139_02139_02194_02199,
  0x021A9_021AA_0231A_0231B_02328_02328_023CF_023CF_023E9_023F3_023F8_023FA_024C2_024C2,
  0x025AA_025AB_025B6_025B6_025C0_025C0_025FB_025FE_02600_02604_0260E_0260E_02611_02611,
  0x02614_02615_02618_02618_0261D_0261D_02620_02620_02622_02623_02626_02626_0262A_0262A,
  0x0262E_0262F_02638_0263A_02640_02640_02642_02642_02648_02653_0265F_02660_02663_02663,
  0x02665_02666_02668_02668_0267B_0267B_0267E_0267F_02692_02697_02699_02699_0269B_0269C,
  0x026A0_026A1_026A7_026A7_026AA_026AB_026B0_026B1_026BD_026BE_026C4_026C5_026C8_026C8,
  0x026CE_026CF_026D1_026D1_026D3_026D4_026E9_026EA_026F0_026F5_026F7_026FA_026FD_026FD,
  0x02702_02702_02705_02705_02708_0270D_0270F_0270F_02712_02712_02714_02714_02716_02716,
  0x0271D_0271D_02721_02721_02728_02728_02733_02734_02744_02744_02747_02747_0274C_0274C,
  0x0274E_0274E_02753_02755_02757_02757_02763_02764_02795_02797_027A1_027A1_027B0_027B0,
  0x027BF_027BF_02934_02935_02B05_02B07_02B1B_02B1C_02B50_02B50_02B55_02B55_03030_03030,
  0x0303D_0303D_03297_03297_03299_03299_1F004_1F004_1F02C_1F02F_1F094_1F09F_1F0AF_1F0B0,
  0x1F0C0_1F0C0_1F0CF_1F0D0_1F0F6_1F0FF_1F170_1F171_1F17E_1F17F_1F18E_1F18E_1F191_1F19A,
  0x1F1AE_1F1E5_1F201_1F20F_1F21A_1F21A_1F22F_1F22F_1F232_1F23A_1F23C_1F23F_1F249_1F25F,
  0x1F266_1F321_1F324_1F393_1F396_1F397_1F399_1F39B_1F39E_1F3F0_1F3F3_1F3F5_1F3F7_1F3FA,
  0x1F400_1F4FD_1F4FF_1F53D_1F549_1F54E_1F550_1F567_1F56F_1F570_1F573_1F57A_1F587_1F587,
  0x1F58A_1F58D_1F590_1F590_1F595_1F596_1F5A4_1F5A5_1F5A8_1F5A8_1F5B1_1F5B2_1F5BC_1F5BC,
  0x1F5C2_1F5C4_1F5D1_1F5D3_1F5DC_1F5DE_1F5E1_1F5E1_1F5E3_1F5E3_1F5E8_1F5E8_1F5EF_1F5EF,
  0x1F5F3_1F5F3_1F5FA_1F64F_1F680_1F6C5_1F6CB_1F6D2_1F6D5_1F6E5_1F6E9_1F6E9_1F6EB_1F6F0,
  0x1F6F3_1F6FF_1F7DA_1F7FF_1F80C_1F80F_1F848_1F84F_1F85A_1F85F_1F888_1F88F_1F8AE_1F8AF,
  0x1F8BC_1F8BF_1F8C2_1F8CF_1F8D9_1F8FF_1F90C_1F93A_1F93C_1F945_1F947_1F9FF_1FA58_1FA5F,
  0x1FA6E_1FAFF_1FC00_1FFFD]

end Acrostic.Unicode
