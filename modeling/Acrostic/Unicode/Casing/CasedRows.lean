import Acrostic.Unicode.Rows

namespace Acrostic.Unicode

-- The code points from U+0080 on that have the Cased property
def casedRows : List Nat := [
  0x000AA_000AA_000B5_000B5_000BA_000BA_000C0_000D6_000D8_000F6_000F8_001BA_001BC_001BF,
  0x001C4_00293_00296_002B8_002C0_002C1_002E0_002E4_00345_00345_00370_00373_00376_00377,
  0x0037A_0037D_0037F_0037F_00386_00386_00388_0038A_0038C_0038C_0038E_003A1_003A3_003F5,
  0x003F7_00481_0048A_0052F_00531_00556_00560_00588_010A0_010C5_010C7_010C7_010CD_010CD,
  0x010D0_010FA_010FC_010FF_013A0_013F5_013F8_013FD_01C80_01C8A_01C90_01CBA_01CBD_01CBF,
  0x01D00_01DBF_01E00_01F15_01F18_01F1D_01F20_01F45_01F48_01F4D_01F50_01F57_01F59_01F59,
  0x01F5B_01F5B_01F5D_01F5D_01F5F_01F7D_01F80_01FB4_01FB6_01FBC_01FBE_01FBE_01FC2_01FC4,
  0x01FC6_01FCC_01FD0_01FD3_01FD6_01FDB_01FE0_01FEC_01FF2_01FF4_01FF6_01FFC_02071_02071,
  0x0207F_0207F_02090_0209C_02102_02102_02107_02107_0210A_02113_02115_02115_02119_0211D,
  0x02124_02124_02126_02126_02128_02128_0212A_0212D_0212F_02134_02139_02139_0213C_0213F,
  0x02145_02149_0214E_0214E_02160_0217F_02183_02184_024B6_024E9_02C00_02CE4_02CEB_02CEE,
  0x02CF2_02CF3_02D00_02D25_02D27_02D27_02D2D_02D2D_0A640_0A66D_0A680_0A69D_0A722_0A787,
  0x0A78B_0A78E_0A790_0A7DC_0A7F1_0A7F6_0A7F8_0A7FA_0AB30_0AB5A_0AB5C_0AB69_0AB70_0ABBF,
  0x0FB00_0FB06_0FB13_0FB17_0FF21_0FF3A_0FF41_0FF5A_10400_1044F_104B0_104D3_104D8_104FB,
  0x10570_1057A_1057C_1058A_1058C_10592_10594_10595_10597_105A1_105A3_105B1_105B3_105B9,
  0x105BB_105BC_10780_10780_10783_10785_10787_107B0_107B2_107BA_10C80_10CB2_10CC0_10CF2,
  0x10D50_10D65_10D70_10D85_118A0_118DF_16E40_16E7F_16EA0_16EB8_16EBB_16ED3_1D400_1D454,
  0x1D456_1D49C_1D49E_1D49F_1D4A2_1D4A2_1D4A5_1D4A6_1D4A9_1D4AC_1D4AE_1D4B9_1D4BB_1D4BB,
  0x1D4BD_1D4C3_1D4C5_1D505_1D507_1D50A_1D50D_1D514_1D516_1D51C_1D51E_1D539_1D53B_1D53E,
  0x1D540_1D544_1D546_1D546_1D54A_1D550_1D552_1D6A5_1D6A8_1D6C0_1D6C2_1D6DA_1D6DC_1D6FA,
  0x1D6FC_1D714_1D716_1D734_1D736_1D74E_1D750_1D76E_1D770_1D788_1D78A_1D7A8_1D7AA_1D7C2,
  0x1D7C4_1D7CB_1DF00_1DF09_1DF0B_1DF1E_1DF25_1DF2A_1E030_1E06D_1E900_1E943_1F130_1F149,
  0x1F150_1F169_1F170_1F189]

-- The code points from U+0080 on that have the Case_Ignorable property
def caseIgnorableRows : List Nat := [
  0x000A8_000A8_000AD_000AD_000AF_000AF_000B4_000B4_000B7_000B8_002B0_0036F_00374_00375,
  0x0037A_0037A_00384_00385_00387_00387_00483_00489_00559_00559_0055F_0055F_00591_005BD,
  0x005BF_005BF_005C1_005C2_005C4_005C5_005C7_005C7_005F4_005F4_00600_00605_00610_0061A,
  0x0061C_0061C_00640_00640_0064B_0065F_00670_00670_006D6_006DD_006DF_006E8_006EA_006ED,
  0x0070F_0070F_00711_00711_00730_0074A_007A6_007B0_007EB_007F5_007FA_007FA_007FD_007FD,
  0x00816_0082D_00859_0085B_00888_00888_00890_00891_00897_0089F_008C9_00902_0093A_0093A,
  0x0093C_0093C_00941_00948_0094D_0094D_00951_00957_00962_00963_00971_00971_00981_00981,
  0x009BC_009BC_009C1_009C4_009CD_009CD_009E2_009E3_009FE_009FE_00A01_00A02_00A3C_00A3C,
  0x00A41_00A42_00A47_00A48_00A4B_00A4D_00A51_00A51_00A70_00A71_00A75_00A75_00A81_00A82,
  0x00ABC_00ABC_00AC1_00AC5_00AC7_00AC8_00ACD_00ACD_00AE2_00AE3_00AFA_00AFF_00B01_00B01,
  0x00B3C_00B3C_00B3F_00B3F_00B41_00B44_00B4D_00B4D_00B55_00B56_00B62_00B63_00B82_00B82,
  0x00BC0_00BC0_00BCD_00BCD_00C00_00C00_00C04_00C04_00C3C_00C3C_00C3E_00C40_00C46_00C48,
  0x00C4A_00C4D_00C55_00C56_00C62_00C63_00C81_00C81_00CBC_00CBC_00CBF_00CBF_00CC6_00CC6,
  0x00CCC_00CCD_00CE2_00CE3_00D00_00D01_00D3B_00D3C_00D41_00D44_00D4D_00D4D_00D62_00D63,
  0x00D81_00D81_00DCA_00DCA_00DD2_00DD4_00DD6_00DD6_00E31_00E31_00E34_00E3A_00E46_00E4E,
  0x00EB1_00EB1_00EB4_00EBC_00EC6_00EC6_00EC8_00ECE_00F18_00F19_00F35_00F35_00F37_00F37,
  0x00F39_00F39_00F71_00F7E_00F80_00F84_00F86_00F87_00F8D_00F97_00F99_00FBC_00FC6_00FC6,
  0x0102D_01030_01032_01037_01039_0103A_0103D_0103E_01058_01059_0105E_01060_01071_01074,
  0x01082_01082_01085_01086_0108D_0108D_0109D_0109D_010FC_010FC_0135D_0135F_01712_01714,
  0x01732_01733_01752_01753_01772_01773_017B4_017B5_017B7_017BD_017C6_017C6_017C9_017D3,
  0x017D7_017D7_017DD_017DD_0180B_0180F_01843_01843_01885_01886_018A9_018A9_01920_01922,
  0x01927_01928_01932_01932_01939_0193B_01A17_01A18_01A1B_01A1B_01A56_01A56_01A58_01A5E,
  0x01A60_01A60_01A62_01A62_01A65_01A6C_01A73_01A7C_01A7F_01A7F_01AA7_01AA7_01AB0_01ADD,
  0x01AE0_01AEB_01B00_01B03_01B34_01B34_01B36_01B3A_01B3C_01B3C_01B42_01B42_01B6B_01B73,
  0x01B80_01B81_01BA2_01BA5_01BA8_01BA9_01BAB_01BAD_01BE6_01BE6_01BE8_01BE9_01BED_01BED,
  0x01BEF_01BF1_01C2C_01C33_01C36_01C37_01C78_01C7D_01CD0_01CD2_01CD4_01CE0_01CE2_01CE8,
  0x01CED_01CED_01CF4_01CF4_01CF8_01CF9_01D2C_01D6A_01D78_01D78_01D9B_01DFF_01FBD_01FBD,
  0x01FBF_01FC1_01FCD_01FCF_01FDD_01FDF_01FED_01FEF_01FFD_01FFE_0200B_0200F_02018_02019,
  0x02024_02024_02027_02027_0202A_0202E_02060_02064_02066_0206F_02071_02071_0207F_0207F,
  0x02090_0209C_020D0_020F0_02C7C_02C7D_02CEF_02CF1_02D6F_02D6F_02D7F_02D7F_02DE0_02DFF,
  0x02E2F_02E2F_03005_03005_0302A_0302D_03031_03035_0303B_0303B_03099_0309E_030FC_030FE,
  0x0A015_0A015_0A4F8_0A4FD_0A60C_0A60C_0A66F_0A672_0A674_0A67D_0A67F_0A67F_0A69C_0A69F,
  0x0A6F0_0A6F1_0A700_0A721_0A770_0A770_0A788_0A78A_0A7F1_0A7F4_0A7F8_0A7F9_0A802_0A802,
  0x0A806_0A806_0A80B_0A80B_0A825_0A826_0A82C_0A82C_0A8C4_0A8C5_0A8E0_0A8F1_0A8FF_0A8FF,
  0x0A926_0A92D_0A947_0A951_0A980_0A982_0A9B3_0A9B3_0A9B6_0A9B9_0A9BC_0A9BD_0A9CF_0A9CF,
  0x0A9E5_0A9E6_0AA29_0AA2E_0AA31_0AA32_0AA35_0AA36_0AA43_0AA43_0AA4C_0AA4C_0AA70_0AA70,
  0x0AA7C_0AA7C_0AAB0_0AAB0_0AAB2_0AAB4_0AAB7_0AAB8_0AABE_0AABF_0AAC1_0AAC1_0AADD_0AADD,
  0x0AAEC_0AAED_0AAF3_0AAF4_0AAF6_0AAF6_0AB5B_0AB5F_0AB69_0AB6B_0ABE5_0ABE5_0ABE8_0ABE8,
  0x0ABED_0ABED_0FB1E_0FB1E_0FBB2_0FBC2_0FE00_0FE0F_0FE13_0FE13_0FE20_0FE2F_0FE52_0FE52,
  0x0FE55_0FE55_0FEFF_0FEFF_0FF07_0FF07_0FF0E_0FF0E_0FF1A_0FF1A_0FF3E_0FF3E_0FF40_0FF40,
  0x0FF70_0FF70_0FF9E_0FF9F_0FFE3_0FFE3_0FFF9_0FFFB_101FD_101FD_102E0_102E0_10376_1037A,
  0x10780_10785_10787_107B0_107B2_107BA_10A01_10A03_10A05_10A06_10A0C_10A0F_10A38_10A3A,
  0x10A3F_10A3F_10AE5_10AE6_10D24_10D27_10D4E_10D4E_10D69_10D6D_10D6F_10D6F_10EAB_10EAC,
  0x10EC5_10EC5_10EFA_10EFF_10F46_10F50_10F82_10F85_11001_11001_11038_11046_11070_11070,
  0x11073_11074_1107F_11081_110B3_110B6_110B9_110BA_110BD_110BD_110C2_110C2_110CD_110CD,
  0x11100_11102_11127_1112B_1112D_11134_11173_11173_11180_11181_111B6_111BE_111C9_111CC,
  0x111CF_111CF_1122F_11231_11234_11234_11236_11237_1123E_1123E_11241_11241_112DF_112DF,
  0x112E3_112EA_11300_11301_1133B_1133C_11340_11340_11366_1136C_11370_11374_113BB_113C0,
  0x113CE_113CE_113D0_113D0_113D2_113D2_113E1_113E2_11438_1143F_11442_11444_11446_11446,
  0x1145E_1145E_114B3_114B8_114BA_114BA_114BF_114C0_114C2_114C3_115B2_115B5_115BC_115BD,
  0x115BF_115C0_115DC_115DD_11633_1163A_1163D_1163D_1163F_11640_116AB_116AB_116AD_116AD,
  0x116B0_116B5_116B7_116B7_1171D_1171D_1171F_1171F_11722_11725_11727_1172B_1182F_11837,
  0x11839_1183A_1193B_1193C_1193E_1193E_11943_11943_119D4_119D7_119DA_119DB_119E0_119E0,
  0x11A01_11A0A_11A33_11A38_11A3B_11A3E_11A47_11A47_11A51_11A56_11A59_11A5B_11A8A_11A96,
  0x11A98_11A99_11B60_11B60_11B62_11B64_11B66_11B66_11C30_11C36_11C38_11C3D_11C3F_11C3F,
  0x11C92_11CA7_11CAA_11CB0_11CB2_11CB3_11CB5_11CB6_11D31_11D36_11D3A_11D3A_11D3C_11D3D,
  0x11D3F_11D45_11D47_11D47_11D90_11D91_11D95_11D95_11D97_11D97_11DD9_11DD9_11EF3_11EF4,
  0x11F00_11F01_11F36_11F3A_11F40_11F40_11F42_11F42_11F5A_11F5A_13430_13440_13447_13455,
  0x1611E_16129_1612D_1612F_16AF0_16AF4_16B30_16B36_16B40_16B43_16D40_16D42_16D6B_16D6C,
  0x16F4F_16F4F_16F8F_16F9F_16FE0_16FE1_16FE3_16FE4_16FF2_16FF3_1AFF0_1AFF3_1AFF5_1AFFB,
  0x1AFFD_1AFFE_1BC9D_1BC9E_1BCA0_1BCA3_1CF00_1CF2D_1CF30_1CF46_1D167_1D169_1D173_1D182,
  0x1D185_1D18B_1D1AA_1D1AD_1D242_1D244_1DA00_1DA36_1DA3B_1DA6C_1DA75_1DA75_1DA84_1DA84,
  0x1DA9B_1DA9F_1DAA1_1DAAF_1E000_1E006_1E008_1E018_1E01B_1E021_1E023_1E024_1E026_1E02A,
  0x1E030_1E06D_1E08F_1E08F_1E130_1E13D_1E2AE_1E2AE_1E2EC_1E2EF_1E4EB_1E4EF_1E5EE_1E5EF,
  0x1E6E3_1E6E3_1E6E6_1E6E6_1E6EE_1E6EF_1E6F5_1E6F5_1E6FF_1E6FF_1E8D0_1E8D6_1E944_1E94B,
  0x1F3FB_1F3FF_E0001_E0001_E0020_E007F_E0100_E01EF]

end Acrostic.Unicode
