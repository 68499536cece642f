import Acrostic.Unicode.Rows

namespace Acrostic.Unicode

-- The code points from U+0080 on that have the Alphabetic property
def alphabeticRows : List Nat := [
  0x000AA_000AA_000B5_000B5_000BA_000BA_000C0_000D6_000D8_000F6_000F8_002C1_002C6_002D1,
  0x002E0_002E4_002EC_002EC_002EE_002EE_00345_00345_00363_00374_00376_00377_0037A_0037D,
  0x0037F_0037F_00386_00386_00388_0038A_0038C_0038C_0038E_003A1_003A3_003F5_003F7_00481,
  0x0048A_0052F_00531_00556_00559_00559_00560_00588_005B0_005BD_005BF_005BF_005C1_005C2,
  0x005C4_005C5_005C7_005C7_005D0_005EA_005EF_005F2_00610_0061A_00620_00657_00659_0065F,
  0x0066E_006D3_006D5_006DC_006E1_006E8_006ED_006EF_006FA_006FC_006FF_006FF_00710_0073F,
  0x0074D_007B1_007CA_007EA_007F4_007F5_007FA_007FA_00800_00817_0081A_0082C_00840_00858,
  0x00860_0086A_00870_00887_00889_0088F_00897_00897_008A0_008C9_008D4_008DF_008E3_008E9,
  0x008F0_0093B_0093D_0094C_0094E_00950_00955_00963_00971_00983_00985_0098C_0098F_00990,
  0x00993_009A8_009AA_009B0_009B2_009B2_009B6_009B9_009BD_009C4_009C7_009C8_009CB_009CC,
  0x009CE_009CE_009D7_009D7_009DC_009DD_009DF_009E3_009F0_009F1_009FC_009FC_00A01_00A03,
  0x00A05_00A0A_00A0F_00A10_00A13_00A28_00A2A_00A30_00A32_00A33_00A35_00A36_00A38_00A39,
  0x00A3E_00A42_00A47_00A48_00A4B_00A4C_00A51_00A51_00A59_00A5C_00A5E_00A5E_00A70_00A75,
  0x00A81_00A83_00A85_00A8D_00A8F_00A91_00A93_00AA8_00AAA_00AB0_00AB2_00AB3_00AB5_00AB9,
  0x00ABD_00AC5_00AC7_00AC9_00ACB_00ACC_00AD0_00AD0_00AE0_00AE3_00AF9_00AFC_00B01_00B03,
  0x00B05_00B0C_00B0F_00B10_00B13_00B28_00B2A_00B30_00B32_00B33_00B35_00B39_00B3D_00B44,
  0x00B47_00B48_00B4B_00B4C_00B56_00B57_00B5C_00B5D_00B5F_00B63_00B71_00B71_00B82_00B83,
  0x00B85_00B8A_00B8E_00B90_00B92_00B95_00B99_00B9A_00B9C_00B9C_00B9E_00B9F_00BA3_00BA4,
  0x00BA8_00BAA_00BAE_00BB9_00BBE_00BC2_00BC6_00BC8_00BCA_00BCC_00BD0_00BD0_00BD7_00BD7,
  0x00C00_00C0C_00C0E_00C10_00C12_00C28_00C2A_00C39_00C3D_00C44_00C46_00C48_00C4A_00C4C,
  0x00C55_00C56_00C58_00C5A_00C5C_00C5D_00C60_00C63_00C80_00C83_00C85_00C8C_00C8E_00C90,
  0x00C92_00CA8_00CAA_00CB3_00CB5_00CB9_00CBD_00CC4_00CC6_00CC8_00CCA_00CCC_00CD5_00CD6,
  0x00CDC_00CDE_00CE0_00CE3_00CF1_00CF3_00D00_00D0C_00D0E_00D10_00D12_00D3A_00D3D_00D44,
  0x00D46_00D48_00D4A_00D4C_00D4E_00D4E_00D54_00D57_00D5F_00D63_00D7A_00D7F_00D81_00D83,
  0x00D85_00D96_00D9A_00DB1_00DB3_00DBB_00DBD_00DBD_00DC0_00DC6_00DCF_00DD4_00DD6_00DD6,
  0x00DD8_00DDF_00DF2_00DF3_00E01_00E3A_00E40_00E46_00E4D_00E4D_00E81_00E82_00E84_00E84,
  0x00E86_00E8A_00E8C_00EA3_00EA5_00EA5_00EA7_00EB9_00EBB_00EBD_00EC0_00EC4_00EC6_00EC6,
  0x00ECD_00ECD_00EDC_00EDF_00F00_00F00_00F40_00F47_00F49_00F6C_00F71_00F83_00F88_00F97,
  0x00F99_00FBC_01000_01036_01038_01038_0103B_0103F_01050_0108F_0109A_0109D_010A0_010C5,
  0x010C7_010C7_010CD_010CD_010D0_010FA_010FC_01248_0124A_0124D_01250_01256_01258_01258,
  0x0125A_0125D_01260_01288_0128A_0128D_01290_012B0_012B2_012B5_012B8_012BE_012C0_012C0,
  0x012C2_012C5_012C8_012D6_012D8_01310_01312_01315_01318_0135A_01380_0138F_013A0_013F5,
  0x013F8_013FD_01401_0166C_0166F_0167F_01681_0169A_016A0_016EA_016EE_016F8_01700_01713,
  0x0171F_01733_01740_01753_01760_0176C_0176E_01770_01772_01773_01780_017B3_017B6_017C8,
  0x017D7_017D7_017DC_017DC_01820_01878_01880_018AA_018B0_018F5_01900_0191E_01920_0192B,
  0x01930_01938_01950_0196D_01970_01974_01980_019AB_019B0_019C9_01A00_01A1B_01A20_01A5E,
  0x01A61_01A74_01AA7_01AA7_01ABF_01AC0_01ACC_01ACE_01B00_01B33_01B35_01B43_01B45_01B4C,
  0x01B80_01BA9_01BAC_01BAF_01BBA_01BE5_01BE7_01BF1_01C00_01C36_01C4D_01C4F_01C5A_01C7D,
  0x01C80_01C8A_01C90_01CBA_01CBD_01CBF_01CE9_01CEC_01CEE_01CF3_01CF5_01CF6_01CFA_01CFA,
  0x01D00_01DBF_01DD3_01DF4_01E00_01F15_01F18_01F1D_01F20_01F45_01F48_01F4D_01F50_01F57,
  0x01F59_01F59_01F5B_01F5B_01F5D_01F5D_01F5F_01F7D_01F80_01FB4_01FB6_01FBC_01FBE_01FBE,
  0x01FC2_01FC4_01FC6_01FCC_01FD0_01FD3_01FD6_01FDB_01FE0_01FEC_01FF2_01FF4_01FF6_01FFC,
  0x02071_02071_0207F_0207F_02090_0209C_02102_02102_02107_02107_0210A_02113_02115_02115,
  0x02119_0211D_02124_02124_02126_02126_02128_02128_0212A_0212D_0212F_02139_0213C_0213F,
  0x02145_02149_0214E_0214E_02160_02188_024B6_024E9_02C00_02CE4_02CEB_02CEE_02CF2_02CF3,
  0x02D00_02D25_02D27_02D27_02D2D_02D2D_02D30_02D67_02D6F_02D6F_02D80_02D96_02DA0_02DA6,
  0x02DA8_02DAE_02DB0_02DB6_02DB8_02DBE_02DC0_02DC6_02DC8_02DCE_02DD0_02DD6_02DD8_02DDE,
  0x02DE0_02DFF_02E2F_02E2F_03005_03007_03021_03029_03031_03035_03038_0303C_03041_03096,
  0x0309D_0309F_030A1_030FA_030FC_030FF_03105_0312F_03131_0318E_031A0_031BF_031F0_031FF,
  0x03400_04DBF_04E00_0A48C_0A4D0_0A4FD_0A500_0A60C_0A610_0A61F_0A62A_0A62B_0A640_0A66E,
  0x0A674_0A67B_0A67F_0A6EF_0A717_0A71F_0A722_0A788_0A78B_0A7DC_0A7F1_0A805_0A807_0A827,
  0x0A840_0A873_0A880_0A8C3_0A8C5_0A8C5_0A8F2_0A8F7_0A8FB_0A8FB_0A8FD_0A8FF_0A90A_0A92A,
  0x0A930_0A952_0A960_0A97C_0A980_0A9B2_0A9B4_0A9BF_0A9CF_0A9CF_0A9E0_0A9EF_0A9FA_0A9FE,
  0x0AA00_0AA36_0AA40_0AA4D_0AA60_0AA76_0AA7A_0AABE_0AAC0_0AAC0_0AAC2_0AAC2_0AADB_0AADD,
  0x0AAE0_0AAEF_0AAF2_0AAF5_0AB01_0AB06_0AB09_0AB0E_0AB11_0AB16_0AB20_0AB26_0AB28_0AB2E,
  0x0AB30_0AB5A_0AB5C_0AB69_0AB70_0ABEA_0AC00_0D7A3_0D7B0_0D7C6_0D7CB_0D7FB_0F900_0FA6D,
  0x0FA70_0FAD9_0FB00_0FB06_0FB13_0FB17_0FB1D_0FB28_0FB2A_0FB36_0FB38_0FB3C_0FB3E_0FB3E,
  0x0FB40_0FB41_0FB43_0FB44_0FB46_0FBB1_0FBD3_0FD3D_0FD50_0FD8F_0FD92_0FDC7_0FDF0_0FDFB,
  0x0FE70_0FE74_0FE76_0FEFC_0FF21_0FF3A_0FF41_0FF5A_0FF66_0FFBE_0FFC2_0FFC7_0FFCA_0FFCF,
  0x0FFD2_0FFD7_0FFDA_0FFDC_10000_1000B_1000D_10026_10028_1003A_1003C_1003D_1003F_1004D,
  0x10050_1005D_10080_100FA_10140_10174_10280_1029C_102A0_102D0_10300_1031F_1032D_1034A,
  0x10350_1037A_10380_1039D_103A0_103C3_103C8_103CF_103D1_103D5_10400_1049D_104B0_104D3,
  0x104D8_104FB_10500_10527_10530_10563_10570_1057A_1057C_1058A_1058C_10592_10594_10595,
  0x10597_105A1_105A3_105B1_105B3_105B9_105BB_105BC_105C0_105F3_10600_10736_10740_10755,
  0x10760_10767_10780_10785_10787_107B0_107B2_107BA_10800_10805_10808_10808_1080A_10835,
  0x10837_10838_1083C_1083C_1083F_10855_10860_10876_10880_1089E_108E0_108F2_108F4_108F5,
  0x10900_10915_10920_10939_10940_10959_10980_109B7_109BE_109BF_10A00_10A03_10A05_10A06,
  0x10A0C_10A13_10A15_10A17_10A19_10A35_10A60_10A7C_10A80_10A9C_10AC0_10AC7_10AC9_10AE4,
  0x10B00_10B35_10B40_10B55_10B60_10B72_10B80_10B91_10C00_10C48_10C80_10CB2_10CC0_10CF2,
  0x10D00_10D27_10D4A_10D65_10D69_10D69_10D6F_10D85_10E80_10EA9_10EAB_10EAC_10EB0_10EB1,
  0x10EC2_10EC7_10EFA_10EFC_10F00_10F1C_10F27_10F27_10F30_10F45_10F70_10F81_10FB0_10FC4,
  0x10FE0_10FF6_11000_11045_11071_11075_11080_110B8_110C2_110C2_110D0_110E8_11100_11132,
  0x11144_11147_11150_11172_11176_11176_11180_111BF_111C1_111C4_111CE_111CF_111DA_111DA,
  0x111DC_111DC_11200_11211_11213_11234_11237_11237_1123E_11241_11280_11286_11288_11288,
  0x1128A_1128D_1128F_1129D_1129F_112A8_112B0_112E8_11300_11303_11305_1130C_1130F_11310,
  0x11313_11328_1132A_11330_11332_11333_11335_11339_1133D_11344_11347_11348_1134B_1134C,
  0x11350_11350_11357_11357_1135D_11363_11380_11389_1138B_1138B_1138E_1138E_11390_113B5,
  0x113B7_113C0_113C2_113C2_113C5_113C5_113C7_113CA_113CC_113CD_113D1_113D1_113D3_113D3,
  0x11400_11441_11443_11445_11447_1144A_1145F_11461_11480_114C1_114C4_114C5_114C7_114C7,
  0x11580_115B5_115B8_115BE_115D8_115DD_11600_1163E_11640_11640_11644_11644_11680_116B5,
  0x116B8_116B8_11700_1171A_1171D_1172A_11740_11746_11800_11838_118A0_118DF_118FF_11906,
  0x11909_11909_1190C_11913_11915_11916_11918_11935_11937_11938_1193B_1193C_1193F_11942,
  0x119A0_119A7_119AA_119D7_119DA_119DF_119E1_119E1_119E3_119E4_11A00_11A32_11A35_11A3E,
  0x11A50_11A97_11A9D_11A9D_11AB0_11AF8_11B60_11B67_11BC0_11BE0_11C00_11C08_11C0A_11C36,
  0x11C38_11C3E_11C40_11C40_11C72_11C8F_11C92_11CA7_11CA9_11CB6_11D00_11D06_11D08_11D09,
  0x11D0B_11D36_11D3A_11D3A_11D3C_11D3D_11D3F_11D41_11D43_11D43_11D46_11D47_11D60_11D65,
  0x11D67_11D68_11D6A_11D8E_11D90_11D91_11D93_11D96_11D98_11D98_11DB0_11DDB_11EE0_11EF6,
  0x11F00_11F10_11F12_11F3A_11F3E_11F40_11FB0_11FB0_12000_12399_12400_1246E_12480_12543,
  0x12F90_12FF0_13000_1342F_13441_13446_13460_143FA_14400_14646_16100_1612E_16800_16A38,
  0x16A40_16A5E_16A70_16ABE_16AD0_16AED_16B00_16B2F_16B40_16B43_16B63_16B77_16B7D_16B8F,
  0x16D40_16D6C_16E40_16E7F_16EA0_16EB8_16EBB_16ED3_16F00_16F4A_16F4F_16F87_16F8F_16F9F,
  0x16FE0_16FE1_16FE3_16FE3_16FF0_16FF6_17000_18CD5_18CFF_18D1E_18D80_18DF2_1AFF0_1AFF3,
  0x1AFF5_1AFFB_1AFFD_1AFFE_1B000_1B122_1B132_1B132_1B150_1B152_1B155_1B155_1B164_1B167,
  0x1B170_1B2FB_1BC00_1BC6A_1BC70_1BC7C_1BC80_1BC88_1BC90_1BC99_1BC9E_1BC9E_1D400_1D454,
  0x1D456_1D49C_1D49E_1D49F_1D4A2_1D4A2_1D4A5_1D4A6_1D4A9_1D4AC_1D4AE_1D4B9_1D4BB_1D4BB,
  0x1D4BD_1D4C3_1D4C5_1D505_1D507_1D50A_1D50D_1D514_1D516_1D51C_1D51E_1D539_1D53B_1D53E,
  0x1D540_1D544_1D546_1D546_1D54A_1D550_1D552_1D6A5_1D6A8_1D6C0_1D6C2_1D6DA_1D6DC_1D6FA,
  0x1D6FC_1D714_1D716_1D734_1D736_1D74E_1D750_1D76E_1D770_1D788_1D78A_1D7A8_1D7AA_1D7C2,
  0x1D7C4_1D7CB_1DF00_1DF1E_1DF25_1DF2A_1E000_1E006_1E008_1E018_1E01B_1E021_1E023_1E024,
  0x1E026_1E02A_1E030_1E06D_1E08F_1E08F_1E100_1E12C_1E137_1E13D_1E14E_1E14E_1E290_1E2AD,
  0x1E2C0_1E2EB_1E4D0_1E4EB_1E5D0_1E5ED_1E5F0_1E5F0_1E6C0_1E6DE_1E6E0_1E6F5_1E6FE_1E6FF,
  0x1E7E0_1E7E6_1E7E8_1E7EB_1E7ED_1E7EE_1E7F0_1E7FE_1E800_1E8C4_1E900_1E943_1E947_1E947,
  0x1E94B_1E94B_1EE00_1EE03_1EE05_1EE1F_1EE21_1EE22_1EE24_1EE24_1EE27_1EE27_1EE29_1EE32,
  0x1EE34_1EE37_1EE39_1EE39_1EE3B_1EE3B_1EE42_1EE42_1EE47_1EE47_1EE49_1EE49_1EE4B_1EE4B,
  0x1EE4D_1EE4F_1EE51_1EE52_1EE54_1EE54_1EE57_1EE57_1EE59_1EE59_1EE5B_1EE5B_1EE5D_1EE5D,
  0x1EE5F_1EE5F_1EE61_1EE62_1EE64_1EE64_1EE67_1EE6A_1EE6C_1EE72_1EE74_1EE77_1EE79_1EE7C,
  0x1EE7E_1EE7E_1EE80_1EE89_1EE8B_1EE9B_1EEA1_1EEA3_1EEA5_1EEA9_1EEAB_1EEBB_1F130_1F149,
  0x1F150_1F169_1F170_1F189_20000_2A6DF_2A700_2B81D_2B820_2CEAD_2CEB0_2EBE0_2EBF0_2EE5D,
  0x2F800_2FA1D_30000_3134A_31350_33479]

def alphabeticSet : CharSet := CharSet.ofRows alphabeticRows

def isAlphabetic (c : Char) : Bool :=
  if c.toNat < 0x80 then c.isAlpha else alphabeticSet.contains c.toNat

end Acrostic.Unicode
