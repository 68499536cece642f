import Acrostic.Unicode.Rows

namespace Acrostic.Unicode

-- The code points that have the Grapheme_Extend property
def graphemeExtendRows : List Nat := [
  0x00300_0036F_00483_00489_00591_005BD_005BF_005BF_005C1_005C2_005C4_005C5_005C7_005C7,
  0x00610_0061A_0064B_0065F_00670_00670_006D6_006DC_006DF_006E4_006E7_006E8_006EA_006ED,
  0x00711_00711_00730_0074A_007A6_007B0_007EB_007F3_007FD_007FD_00816_00819_0081B_00823,
  0x00825_00827_00829_0082D_00859_0085B_00897_0089F_008CA_008E1_008E3_00902_0093A_0093A,
  0x0093C_0093C_00941_00948_0094D_0094D_00951_00957_00962_00963_00981_00981_009BC_009BC,
  0x009BE_009BE_009C1_009C4_009CD_009CD_009D7_009D7_009E2_009E3_009FE_009FE_00A01_00A02,
  0x00A3C_00A3C_00A41_00A42_00A47_00A48_00A4B_00A4D_00A51_00A51_00A70_00A71_00A75_00A75,
  0x00A81_00A82_00ABC_00ABC_00AC1_00AC5_00AC7_00AC8_00ACD_00ACD_00AE2_00AE3_00AFA_00AFF,
  0x00B01_00B01_00B3C_00B3C_00B3E_00B3F_00B41_00B44_00B4D_00B4D_00B55_00B57_00B62_00B63,
  0x00B82_00B82_00BBE_00BBE_00BC0_00BC0_00BCD_00BCD_00BD7_00BD7_00C00_00C00_00C04_00C04,
  0x00C3C_00C3C_00C3E_00C40_00C46_00C48_00C4A_00C4D_00C55_00C56_00C62_00C63_00C81_00C81,
  0x00CBC_00CBC_00CBF_00CC0_00CC2_00CC2_00CC6_00CC8_00CCA_00CCD_00CD5_00CD6_00CE2_00CE3,
  0x00D00_00D01_00D3B_00D3C_00D3E_00D3E_00D41_00D44_00D4D_00D4D_00D57_00D57_00D62_00D63,
  0x00D81_00D81_00DCA_00DCA_00DCF_00DCF_00DD2_00DD4_00DD6_00DD6_00DDF_00DDF_00E31_00E31,
  0x00E34_00E3A_00E47_00E4E_00EB1_00EB1_00EB4_00EBC_00EC8_00ECE_00F18_00F19_00F35_00F35,
  0x00F37_00F37_00F39_00F39_00F71_00F7E_00F80_00F84_00F86_00F87_00F8D_00F97_00F99_00FBC,
  0x00FC6_00FC6_0102D_01030_01032_01037_01039_0103A_0103D_0103E_01058_01059_0105E_01060,
  0x01071_01074_01082_01082_01085_01086_0108D_0108D_0109D_0109D_0135D_0135F_01712_01715,
  0x01732_01734_01752_01753_01772_01773_017B4_017B5_017B7_017BD_017C6_017C6_017C9_017D3,
  0x017DD_017DD_0180B_0180D_0180F_0180F_01885_01886_018A9_018A9_01920_01922_01927_01928,
  0x01932_01932_01939_0193B_01A17_01A18_01A1B_01A1B_01A56_01A56_01A58_01A5E_01A60_01A60,
  0x01A62_01A62_01A65_01A6C_01A73_01A7C_01A7F_01A7F_01AB0_01ADD_01AE0_01AEB_01B00_01B03,
  0x01B34_01B3D_01B42_01B44_01B6B_01B73_01B80_01B81_01BA2_01BA5_01BA8_01BAD_01BE6_01BE6,
  0x01BE8_01BE9_01BED_01BED_01BEF_01BF3_01C2C_01C33_01C36_01C37_01CD0_01CD2_01CD4_01CE0,
  0x01CE2_01CE8_01CED_01CED_01CF4_01CF4_01CF8_01CF9_01DC0_01DFF_0200C_0200C_020D0_020F0,
  0x02CEF_02CF1_02D7F_02D7F_02DE0_02DFF_0302A_0302F_03099_0309A_0A66F_0A672_0A674_0A67D,
  0x0A69E_0A69F_0A6F0_0A6F1_0A802_0A802_0A806_0A806_0A80B_0A80B_0A825_0A826_0A82C_0A82C,
  0x0A8C4_0A8C5_0A8E0_0A8F1_0A8FF_0A8FF_0A926_0A92D_0A947_0A951_0A953_0A953_0A980_0A982,
  0x0A9B3_0A9B3_0A9B6_0A9B9_0A9BC_0A9BD_0A9C0_0A9C0_0A9E5_0A9E5_0AA29_0AA2E_0AA31_0AA32,
  0x0AA35_0AA36_0AA43_0AA43_0AA4C_0AA4C_0AA7C_0AA7C_0AAB0_0AAB0_0AAB2_0AAB4_0AAB7_0AAB8,
  0x0AABE_0AABF_0AAC1_0AAC1_0AAEC_0AAED_0AAF6_0AAF6_0ABE5_0ABE5_0ABE8_0ABE8_0ABED_0ABED,
  0x0FB1E_0FB1E_0FE00_0FE0F_0FE20_0FE2F_0FF9E_0FF9F_101FD_101FD_102E0_102E0_10376_1037A,
  0x10A01_10A03_10A05_10A06_10A0C_10A0F_10A38_10A3A_10A3F_10A3F_10AE5_10AE6_10D24_10D27,
  0x10D69_10D6D_10EAB_10EAC_10EFA_10EFF_10F46_10F50_10F82_10F85_11001_11001_11038_11046,
  0x11070_11070_11073_11074_1107F_11081_110B3_110B6_110B9_110BA_110C2_110C2_11100_11102,
  0x11127_1112B_1112D_11134_11173_11173_11180_11181_111B6_111BE_111C0_111C0_111C9_111CC,
  0x111CF_111CF_1122F_11231_11234_11237_1123E_1123E_11241_11241_112DF_112DF_112E3_112EA,
  0x11300_11301_1133B_1133C_1133E_1133E_11340_11340_1134D_1134D_11357_11357_11366_1136C,
  0x11370_11374_113B8_113B8_113BB_113C0_113C2_113C2_113C5_113C5_113C7_113C9_113CE_113D0,
  0x113D2_113D2_113E1_113E2_11438_1143F_11442_11444_11446_11446_1145E_1145E_114B0_114B0,
  0x114B3_114B8_114BA_114BA_114BD_114BD_114BF_114C0_114C2_114C3_115AF_115AF_115B2_115B5,
  0x115BC_115BD_115BF_115C0_115DC_115DD_11633_1163A_1163D_1163D_1163F_11640_116AB_116AB,
  0x116AD_116AD_116B0_116B7_1171D_1171D_1171F_1171F_11722_11725_11727_1172B_1182F_11837,
  0x11839_1183A_11930_11930_1193B_1193E_11943_11943_119D4_119D7_119DA_119DB_119E0_119E0,
  0x11A01_11A0A_11A33_11A38_11A3B_11A3E_11A47_11A47_11A51_11A56_11A59_11A5B_11A8A_11A96,
  0x11A98_11A99_11B60_11B60_11B62_11B64_11B66_11B66_11C30_11C36_11C38_11C3D_11C3F_11C3F,
  0x11C92_11CA7_11CAA_11CB0_11CB2_11CB3_11CB5_11CB6_11D31_11D36_11D3A_11D3A_11D3C_11D3D,
  0x11D3F_11D45_11D47_11D47_11D90_11D91_11D95_11D95_11D97_11D97_11EF3_11EF4_11F00_11F01,
  0x11F36_11F3A_11F40_11F42_11F5A_11F5A_13440_13440_13447_13455_1611E_16129_1612D_1612F,
  0x16AF0_16AF4_16B30_16B36_16F4F_16F4F_16F8F_16F92_16FE4_16FE4_16FF0_16FF1_1BC9D_1BC9E,
  0x1CF00_1CF2D_1CF30_1CF46_1D165_1D169_1D16D_1D172_1D17B_1D182_1D185_1D18B_1D1AA_1D1AD,
  0x1D242_1D244_1DA00_1DA36_1DA3B_1DA6C_1DA75_1DA75_1DA84_1DA84_1DA9B_1DA9F_1DAA1_1DAAF,
  0x1E000_1E006_1E008_1E018_1E01B_1E021_1E023_1E024_1E026_1E02A_1E08F_1E08F_1E130_1E136,
  0x1E2AE_1E2AE_1E2EC_1E2EF_1E4EC_1E4EF_1E5EE_1E5EF_1E6E3_1E6E3_1E6E6_1E6E6_1E6EE_1E6EF,
  0x1E6F5_1E6F5_1E8D0_1E8D6_1E944_1E94A_E0020_E007F_E0100_E01EF]

-- The code points from U+0080 to U+E01EF that are separators, controls, formats, surrogates,
-- private or unassigned
def unprintableRows : List Nat := [
  0x00080_000A0_000AD_000AD_00378_00379_00380_00383_0038B_0038B_0038D_0038D_003A2_003A2,
  0x00530_00530_00557_00558_0058B_0058C_00590_00590_005C8_005CF_005EB_005EE_005F5_00605,
  0x0061C_0061C_006DD_006DD_0070E_0070F_0074B_0074C_007B2_007BF_007FB_007FC_0082E_0082F,
  0x0083F_0083F_0085C_0085D_0085F_0085F_0086B_0086F_00890_00896_008E2_008E2_00984_00984,
  0x0098D_0098E_00991_00992_009A9_009A9_009B1_009B1_009B3_009B5_009BA_009BB_009C5_009C6,
  0x009C9_009CA_009CF_009D6_009D8_009DB_009DE_009DE_009E4_009E5_009FF_00A00_00A04_00A04,
  0x00A0B_00A0E_00A11_00A12_00A29_00A29_00A31_00A31_00A34_00A34_00A37_00A37_00A3A_00A3B,
  0x00A3D_00A3D_00A43_00A46_00A49_00A4A_00A4E_00A50_00A52_00A58_00A5D_00A5D_00A5F_00A65,
  0x00A77_00A80_00A84_00A84_00A8E_00A8E_00A92_00A92_00AA9_00AA9_00AB1_00AB1_00AB4_00AB4,
  0x00ABA_00ABB_00AC6_00AC6_00ACA_00ACA_00ACE_00ACF_00AD1_00ADF_00AE4_00AE5_00AF2_00AF8,
  0x00B00_00B00_00B04_00B04_00B0D_00B0E_00B11_00B12_00B29_00B29_00B31_00B31_00B34_00B34,
  0x00B3A_00B3B_00B45_00B46_00B49_00B4A_00B4E_00B54_00B58_00B5B_00B5E_00B5E_00B64_00B65,
  0x00B78_00B81_00B84_00B84_00B8B_00B8D_00B91_00B91_00B96_00B98_00B9B_00B9B_00B9D_00B9D,
  0x00BA0_00BA2_00BA5_00BA7_00BAB_00BAD_00BBA_00BBD_00BC3_00BC5_00BC9_00BC9_00BCE_00BCF,
  0x00BD1_00BD6_00BD8_00BE5_00BFB_00BFF_00C0D_00C0D_00C11_00C11_00C29_00C29_00C3A_00C3B,
  0x00C45_00C45_00C49_00C49_00C4E_00C54_00C57_00C57_00C5B_00C5B_00C5E_00C5F_00C64_00C65,
  0x00C70_00C76_00C8D_00C8D_00C91_00C91_00CA9_00CA9_00CB4_00CB4_00CBA_00CBB_00CC5_00CC5,
  0x00CC9_00CC9_00CCE_00CD4_00CD7_00CDB_00CDF_00CDF_00CE4_00CE5_00CF0_00CF0_00CF4_00CFF,
  0x00D0D_00D0D_00D11_00D11_00D45_00D45_00D49_00D49_00D50_00D53_00D64_00D65_00D80_00D80,
  0x00D84_00D84_00D97_00D99_00DB2_00DB2_00DBC_00DBC_00DBE_00DBF_00DC7_00DC9_00DCB_00DCE,
  0x00DD5_00DD5_00DD7_00DD7_00DE0_00DE5_00DF0_00DF1_00DF5_00E00_00E3B_00E3E_00E5C_00E80,
  0x00E83_00E83_00E85_00E85_00E8B_00E8B_00EA4_00EA4_00EA6_00EA6_00EBE_00EBF_00EC5_00EC5,
  0x00EC7_00EC7_00ECF_00ECF_00EDA_00EDB_00EE0_00EFF_00F48_00F48_00F6D_00F70_00F98_00F98,
  0x00FBD_00FBD_00FCD_00FCD_00FDB_00FFF_010C6_010C6_010C8_010CC_010CE_010CF_01249_01249,
  0x0124E_0124F_01257_01257_01259_01259_0125E_0125F_01289_01289_0128E_0128F_012B1_012B1,
  0x012B6_012B7_012BF_012BF_012C1_012C1_012C6_012C7_012D7_012D7_01311_01311_01316_01317,
  0x0135B_0135C_0137D_0137F_0139A_0139F_013F6_013F7_013FE_013FF_01680_01680_0169D_0169F,
  0x016F9_016FF_01716_0171E_01737_0173F_01754_0175F_0176D_0176D_01771_01771_01774_0177F,
  0x017DE_017DF_017EA_017EF_017FA_017FF_0180E_0180E_0181A_0181F_01879_0187F_018AB_018AF,
  0x018F6_018FF_0191F_0191F_0192C_0192F_0193C_0193F_01941_01943_0196E_0196F_01975_0197F,
  0x019AC_019AF_019CA_019CF_019DB_019DD_01A1C_01A1D_01A5F_01A5F_01A7D_01A7E_01A8A_01A8F,
  0x01A9A_01A9F_01AAE_01AAF_01ADE_01ADF_01AEC_01AFF_01B4D_01B4D_01BF4_01BFB_01C38_01C3A,
  0x01C4A_01C4C_01C8B_01C8F_01CBB_01CBC_01CC8_01CCF_01CFB_01CFF_01F16_01F17_01F1E_01F1F,
  0x01F46_01F47_01F4E_01F4F_01F58_01F58_01F5A_01F5A_01F5C_01F5C_01F5E_01F5E_01F7E_01F7F,
  0x01FB5_01FB5_01FC5_01FC5_01FD4_01FD5_01FDC_01FDC_01FF0_01FF1_01FF5_01FF5_01FFF_0200F,
  0x02028_0202F_0205F_0206F_02072_02073_0208F_0208F_0209D_0209F_020C2_020CF_020F1_020FF,
  0x0218C_0218F_0242A_0243F_0244B_0245F_02B74_02B75_02CF4_02CF8_02D26_02D26_02D28_02D2C,
  0x02D2E_02D2F_02D68_02D6E_02D71_02D7E_02D97_02D9F_02DA7_02DA7_02DAF_02DAF_02DB7_02DB7,
  0x02DBF_02DBF_02DC7_02DC7_02DCF_02DCF_02DD7_02DD7_02DDF_02DDF_02E5E_02E7F_02E9A_02E9A,
  0x02EF4_02EFF_02FD6_02FEF_03000_03000_03040_03040_03097_03098_03100_03104_03130_03130,
  0x0318F_0318F_031E6_031EE_0321F_0321F_0A48D_0A48F_0A4C7_0A4CF_0A62C_0A63F_0A6F8_0A6FF,
  0x0A7DD_0A7F0_0A82D_0A82F_0A83A_0A83F_0A878_0A87F_0A8C6_0A8CD_0A8DA_0A8DF_0A954_0A95E,
  0x0A97D_0A97F_0A9CE_0A9CE_0A9DA_0A9DD_0A9FF_0A9FF_0AA37_0AA3F_0AA4E_0AA4F_0AA5A_0AA5B,
  0x0AAC3_0AADA_0AAF7_0AB00_0AB07_0AB08_0AB0F_0AB10_0AB17_0AB1F_0AB27_0AB27_0AB2F_0AB2F,
  0x0AB6C_0AB6F_0ABEE_0ABEF_0ABFA_0ABFF_0D7A4_0D7AF_0D7C7_0D7CA_0D7FC_0D7FF_0E000_0F8FF,
  0x0FA6E_0FA6F_0FADA_0FAFF_0FB07_0FB12_0FB18_0FB1C_0FB37_0FB37_0FB3D_0FB3D_0FB3F_0FB3F,
  0x0FB42_0FB42_0FB45_0FB45_0FDD0_0FDEF_0FE1A_0FE1F_0FE53_0FE53_0FE67_0FE67_0FE6C_0FE6F,
  0x0FE75_0FE75_0FEFD_0FF00_0FFBF_0FFC1_0FFC8_0FFC9_0FFD0_0FFD1_0FFD8_0FFD9_0FFDD_0FFDF,
  0x0FFE7_0FFE7_0FFEF_0FFFB_0FFFE_0FFFF_1000C_1000C_10027_10027_1003B_1003B_1003E_1003E,
  0x1004E_1004F_1005E_1007F_100FB_100FF_10103_10106_10134_10136_1018F_1018F_1019D_1019F,
  0x101A1_101CF_101FE_1027F_1029D_1029F_102D1_102DF_102FC_102FF_10324_1032C_1034B_1034F,
  0x1037B_1037F_1039E_1039E_103C4_103C7_103D6_103FF_1049E_1049F_104AA_104AF_104D4_104D7,
  0x104FC_104FF_10528_1052F_10564_1056E_1057B_1057B_1058B_1058B_10593_10593_10596_10596,
  0x105A2_105A2_105B2_105B2_105BA_105BA_105BD_105BF_105F4_105FF_10737_1073F_10756_1075F,
  0x10768_1077F_10786_10786_107B1_107B1_107BB_107FF_10806_10807_10809_10809_10836_10836,
  0x10839_1083B_1083D_1083E_10856_10856_1089F_108A6_108B0_108DF_108F3_108F3_108F6_108FA,
  0x1091C_1091E_1093A_1093E_1095A_1097F_109B8_109BB_109D0_109D1_10A04_10A04_10A07_10A0B,
  0x10A14_10A14_10A18_10A18_10A36_10A37_10A3B_10A3E_10A49_10A4F_10A59_10A5F_10AA0_10ABF,
  0x10AE7_10AEA_10AF7_10AFF_10B36_10B38_10B56_10B57_10B73_10B77_10B92_10B98_10B9D_10BA8,
  0x10BB0_10BFF_10C49_10C7F_10CB3_10CBF_10CF3_10CF9_10D28_10D2F_10D3A_10D3F_10D66_10D68,
  0x10D86_10D8D_10D90_10E5F_10E7F_10E7F_10EAA_10EAA_10EAE_10EAF_10EB2_10EC1_10EC8_10ECF,
  0x10ED9_10EF9_10F28_10F2F_10F5A_10F6F_10F8A_10FAF_10FCC_10FDF_10FF7_10FFF_1104E_11051,
  0x11076_1107E_110BD_110BD_110C3_110CF_110E9_110EF_110FA_110FF_11135_11135_11148_1114F,
  0x11177_1117F_111E0_111E0_111F5_111FF_11212_11212_11242_1127F_11287_11287_11289_11289,
  0x1128E_1128E_1129E_1129E_112AA_112AF_112EB_112EF_112FA_112FF_11304_11304_1130D_1130E,
  0x11311_11312_11329_11329_11331_11331_11334_11334_1133A_1133A_11345_11346_11349_1134A,
  0x1134E_1134F_11351_11356_11358_1135C_11364_11365_1136D_1136F_11375_1137F_1138A_1138A,
  0x1138C_1138D_1138F_1138F_113B6_113B6_113C1_113C1_113C3_113C4_113C6_113C6_113CB_113CB,
  0x113D6_113D6_113D9_113E0_113E3_113FF_1145C_1145C_11462_1147F_114C8_114CF_114DA_1157F,
  0x115B6_115B7_115DE_115FF_11645_1164F_1165A_1165F_1166D_1167F_116BA_116BF_116CA_116CF,
  0x116E4_116FF_1171B_1171C_1172C_1172F_11747_117FF_1183C_1189F_118F3_118FE_11907_11908,
  0x1190A_1190B_11914_11914_11917_11917_11936_11936_11939_1193A_11947_1194F_1195A_1199F,
  0x119A8_119A9_119D8_119D9_119E5_119FF_11A48_11A4F_11AA3_11AAF_11AF9_11AFF_11B0A_11B5F,
  0x11B68_11BBF_11BE2_11BEF_11BFA_11BFF_11C09_11C09_11C37_11C37_11C46_11C4F_11C6D_11C6F,
  0x11C90_11C91_11CA8_11CA8_11CB7_11CFF_11D07_11D07_11D0A_11D0A_11D37_11D39_11D3B_11D3B,
  0x11D3E_11D3E_11D48_11D4F_11D5A_11D5F_11D66_11D66_11D69_11D69_11D8F_11D8F_11D92_11D92,
  0x11D99_11D9F_11DAA_11DAF_11DDC_11DDF_11DEA_11EDF_11EF9_11EFF_11F11_11F11_11F3B_11F3D,
  0x11F5B_11FAF_11FB1_11FBF_11FF2_11FFE_1239A_123FF_1246F_1246F_12475_1247F_12544_12F8F,
  0x12FF3_12FFF_13430_1343F_13456_1345F_143FB_143FF_14647_160FF_1613A_167FF_16A39_16A3F,
  0x16A5F_16A5F_16A6A_16A6D_16ABF_16ABF_16ACA_16ACF_16AEE_16AEF_16AF6_16AFF_16B46_16B4F,
  0x16B5A_16B5A_16B62_16B62_16B78_16B7C_16B90_16D3F_16D7A_16E3F_16E9B_16E9F_16EB9_16EBA,
  0x16ED4_16EFF_16F4B_16F4E_16F88_16F8E_16FA0_16FDF_16FE5_16FEF_16FF7_16FFF_18CD6_18CFE,
  0x18D1F_18D7F_18DF3_1AFEF_1AFF4_1AFF4_1AFFC_1AFFC_1AFFF_1AFFF_1B123_1B131_1B133_1B14F,
  0x1B153_1B154_1B156_1B163_1B168_1B16F_1B2FC_1BBFF_1BC6B_1BC6F_1BC7D_1BC7F_1BC89_1BC8F,
  0x1BC9A_1BC9B_1BCA0_1CBFF_1CCFD_1CCFF_1CEB4_1CEB9_1CED1_1CEDF_1CEF1_1CEFF_1CF2E_1CF2F,
  0x1CF47_1CF4F_1CFC4_1CFFF_1D0F6_1D0FF_1D127_1D128_1D173_1D17A_1D1EB_1D1FF_1D246_1D2BF,
  0x1D2D4_1D2DF_1D2F4_1D2FF_1D357_1D35F_1D379_1D3FF_1D455_1D455_1D49D_1D49D_1D4A0_1D4A1,
  0x1D4A3_1D4A4_1D4A7_1D4A8_1D4AD_1D4AD_1D4BA_1D4BA_1D4BC_1D4BC_1D4C4_1D4C4_1D506_1D506,
  0x1D50B_1D50C_1D515_1D515_1D51D_1D51D_1D53A_1D53A_1D53F_1D53F_1D545_1D545_1D547_1D549,
  0x1D551_1D551_1D6A6_1D6A7_1D7CC_1D7CD_1DA8C_1DA9A_1DAA0_1DAA0_1DAB0_1DEFF_1DF1F_1DF24,
  0x1DF2B_1DFFF_1E007_1E007_1E019_1E01A_1E022_1E022_1E025_1E025_1E02B_1E02F_1E06E_1E08E,
  0x1E090_1E0FF_1E12D_1E12F_1E13E_1E13F_1E14A_1E14D_1E150_1E28F_1E2AF_1E2BF_1E2FA_1E2FE,
  0x1E300_1E4CF_1E4FA_1E5CF_1E5FB_1E5FE_1E600_1E6BF_1E6DF_1E6DF_1E6F6_1E6FD_1E700_1E7DF,
  0x1E7E7_1E7E7_1E7EC_1E7EC_1E7EF_1E7EF_1E7FF_1E7FF_1E8C5_1E8C6_1E8D7_1E8FF_1E94C_1E94F,
  0x1E95A_1E95D_1E960_1EC70_1ECB5_1ED00_1ED3E_1EDFF_1EE04_1EE04_1EE20_1EE20_1EE23_1EE23,
  0x1EE25_1EE26_1EE28_1EE28_1EE33_1EE33_1EE38_1EE38_1EE3A_1EE3A_1EE3C_1EE41_1EE43_1EE46,
  0x1EE48_1EE48_1EE4A_1EE4A_1EE4C_1EE4C_1EE50_1EE50_1EE53_1EE53_1EE55_1EE56_1EE58_1EE58,
  0x1EE5A_1EE5A_1EE5C_1EE5C_1EE5E_1EE5E_1EE60_1EE60_1EE63_1EE63_1EE65_1EE66_1EE6B_1EE6B,
  0x1EE73_1EE73_1EE78_1EE78_1EE7D_1EE7D_1EE7F_1EE7F_1EE8A_1EE8A_1EE9C_1EEA0_1EEA4_1EEA4,
  0x1EEAA_1EEAA_1EEBC_1EEEF_1EEF2_1EFFF_1F02C_1F02F_1F094_1F09F_1F0AF_1F0B0_1F0C0_1F0C0,
  0x1F0D0_1F0D0_1F0F6_1F0FF_1F1AE_1F1E5_1F203_1F20F_1F23C_1F23F_1F249_1F24F_1F252_1F25F,
  0x1F266_1F2FF_1F6D9_1F6DB_1F6ED_1F6EF_1F6FD_1F6FF_1F7DA_1F7DF_1F7EC_1F7EF_1F7F1_1F7FF,
  0x1F80C_1F80F_1F848_1F84F_1F85A_1F85F_1F888_1F88F_1F8AE_1F8AF_1F8BC_1F8BF_1F8C2_1F8CF,
  0x1F8D9_1F8FF_1FA58_1FA5F_1FA6E_1FA6F_1FA7D_1FA7F_1FA8B_1FA8D_1FAC7_1FAC7_1FAC9_1FACC,
  0x1FADD_1FADE_1FAEB_1FAEE_1FAF9_1FAFF_1FB93_1FB93_1FBFB_1FFFF_2A6E0_2A6FF_2B81E_2B81F,
  0x2CEAE_2CEAF_2EBE1_2EBEF_2EE5E_2F7FF_2FA1E_2FFFF_3134B_3134F_3347A_E00FF]

def graphemeExtendSet : CharSet := CharSet.ofRows graphemeExtendRows

def unprintableSet : CharSet := CharSet.ofRows unprintableRows

def isGraphemeExtend (c : Char) : Bool :=
  graphemeExtendSet.contains c.toNat

-- Everything from U+E01F0 on is private or unassigned.
def isPrintable (c : Char) : Bool :=
  if c.toNat < 0x80 then 0x20 ≤ c.toNat && c.toNat < 0x7F
  else c.toNat < 0xE01F0 && !unprintableSet.contains c.toNat

end Acrostic.Unicode
