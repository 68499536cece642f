import Acrostic.Unicode.Rows

namespace Acrostic.Unicode

-- Runs of code points with the same canonical combining class, where it is not zero
def combiningRows : List Nat := [
  0x00300_00314_000E6_00315_00315_000E8_00316_00319_000DC_0031A_0031A_000E8_0031B_0031B_000D8,
  0x0031C_00320_000DC_00321_00322_000CA_00323_00326_000DC_00327_00328_000CA_00329_00333_000DC,
  0x00334_00338_00001_00339_0033C_000DC_0033D_00344_000E6_00345_00345_000F0_00346_00346_000E6,
  0x00347_00349_000DC_0034A_0034C_000E6_0034D_0034E_000DC_00350_00352_000E6_00353_00356_000DC,
  0x00357_00357_000E6_00358_00358_000E8_00359_0035A_000DC_0035B_0035B_000E6_0035C_0035C_000E9,
  0x0035D_0035E_000EA_0035F_0035F_000E9_00360_00361_000EA_00362_00362_000E9_00363_0036F_000E6,
  0x00483_00487_000E6_00591_00591_000DC_00592_00595_000E6_00596_00596_000DC_00597_00599_000E6,
  0x0059A_0059A_000DE_0059B_0059B_000DC_0059C_005A1_000E6_005A2_005A7_000DC_005A8_005A9_000E6,
  0x005AA_005AA_000DC_005AB_005AC_000E6_005AD_005AD_000DE_005AE_005AE_000E4_005AF_005AF_000E6,
  0x005B0_005B0_0000A_005B1_005B1_0000B_005B2_005B2_0000C_005B3_005B3_0000D_005B4_005B4_0000E,
  0x005B5_005B5_0000F_005B6_005B6_00010_005B7_005B7_00011_005B8_005B8_00012_005B9_005BA_00013,
  0x005BB_005BB_00014_005BC_005BC_00015_005BD_005BD_00016_005BF_005BF_00017_005C1_005C1_00018,
  0x005C2_005C2_00019_005C4_005C4_000E6_005C5_005C5_000DC_005C7_005C7_00012_00610_00617_000E6,
  0x00618_00618_0001E_00619_00619_0001F_0061A_0061A_00020_0064B_0064B_0001B_0064C_0064C_0001C,
  0x0064D_0064D_0001D_0064E_0064E_0001E_0064F_0064F_0001F_00650_00650_00020_00651_00651_00021,
  0x00652_00652_00022_00653_00654_000E6_00655_00656_000DC_00657_0065B_000E6_0065C_0065C_000DC,
  0x0065D_0065E_000E6_0065F_0065F_000DC_00670_00670_00023_006D6_006DC_000E6_006DF_006E2_000E6,
  0x006E3_006E3_000DC_006E4_006E4_000E6_006E7_006E8_000E6_006EA_006EA_000DC_006EB_006EC_000E6,
  0x006ED_006ED_000DC_00711_00711_00024_00730_00730_000E6_00731_00731_000DC_00732_00733_000E6,
  0x00734_00734_000DC_00735_00736_000E6_00737_00739_000DC_0073A_0073A_000E6_0073B_0073C_000DC,
  0x0073D_0073D_000E6_0073E_0073E_000DC_0073F_00741_000E6_00742_00742_000DC_00743_00743_000E6,
  0x00744_00744_000DC_00745_00745_000E6_00746_00746_000DC_00747_00747_000E6_00748_00748_000DC,
  0x00749_0074A_000E6_007EB_007F1_000E6_007F2_007F2_000DC_007F3_007F3_000E6_007FD_007FD_000DC,
  0x00816_00819_000E6_0081B_00823_000E6_00825_00827_000E6_00829_0082D_000E6_00859_0085B_000DC,
  0x00897_00898_000E6_00899_0089B_000DC_0089C_0089F_000E6_008CA_008CE_000E6_008CF_008D3_000DC,
  0x008D4_008E1_000E6_008E3_008E3_000DC_008E4_008E5_000E6_008E6_008E6_000DC_008E7_008E8_000E6,
  0x008E9_008E9_000DC_008EA_008EC_000E6_008ED_008EF_000DC_008F0_008F0_0001B_008F1_008F1_0001C,
  0x008F2_008F2_0001D_008F3_008F5_000E6_008F6_008F6_000DC_008F7_008F8_000E6_008F9_008FA_000DC,
  0x008FB_008FF_000E6_0093C_0093C_00007_0094D_0094D_00009_00951_00951_000E6_00952_00952_000DC,
  0x00953_00954_000E6_009BC_009BC_00007_009CD_009CD_00009_009FE_009FE_000E6_00A3C_00A3C_00007,
  0x00A4D_00A4D_00009_00ABC_00ABC_00007_00ACD_00ACD_00009_00B3C_00B3C_00007_00B4D_00B4D_00009,
  0x00BCD_00BCD_00009_00C3C_00C3C_00007_00C4D_00C4D_00009_00C55_00C55_00054_00C56_00C56_0005B,
  0x00CBC_00CBC_00007_00CCD_00CCD_00009_00D3B_00D3C_00009_00D4D_00D4D_00009_00DCA_00DCA_00009,
  0x00E38_00E39_00067_00E3A_00E3A_00009_00E48_00E4B_0006B_00EB8_00EB9_00076_00EBA_00EBA_00009,
  0x00EC8_00ECB_0007A_00F18_00F19_000DC_00F35_00F35_000DC_00F37_00F37_000DC_00F39_00F39_000D8,
  0x00F71_00F71_00081_00F72_00F72_00082_00F74_00F74_00084_00F7A_00F7D_00082_00F80_00F80_00082,
  0x00F82_00F83_000E6_00F84_00F84_00009_00F86_00F87_000E6_00FC6_00FC6_000DC_01037_01037_00007,
  0x01039_0103A_00009_0108D_0108D_000DC_0135D_0135F_000E6_01714_01715_00009_01734_01734_00009,
  0x017D2_017D2_00009_017DD_017DD_000E6_018A9_018A9_000E4_01939_01939_000DE_0193A_0193A_000E6,
  0x0193B_0193B_000DC_01A17_01A17_000E6_01A18_01A18_000DC_01A60_01A60_00009_01A75_01A7C_000E6,
  0x01A7F_01A7F_000DC_01AB0_01AB4_000E6_01AB5_01ABA_000DC_01ABB_01ABC_000E6_01ABD_01ABD_000DC,
  0x01ABF_01AC0_000DC_01AC1_01AC2_000E6_01AC3_01AC4_000DC_01AC5_01AC9_000E6_01ACA_01ACA_000DC,
  0x01ACB_01ADC_000E6_01ADD_01ADD_000DC_01AE0_01AE5_000E6_01AE6_01AE6_000DC_01AE7_01AEA_000E6,
  0x01AEB_01AEB_000EA_01B34_01B34_00007_01B44_01B44_00009_01B6B_01B6B_000E6_01B6C_01B6C_000DC,
  0x01B6D_01B73_000E6_01BAA_01BAB_00009_01BE6_01BE6_00007_01BF2_01BF3_00009_01C37_01C37_00007,
  0x01CD0_01CD2_000E6_01CD4_01CD4_00001_01CD5_01CD9_000DC_01CDA_01CDB_000E6_01CDC_01CDF_000DC,
  0x01CE0_01CE0_000E6_01CE2_01CE8_00001_01CED_01CED_000DC_01CF4_01CF4_000E6_01CF8_01CF9_000E6,
  0x01DC0_01DC1_000E6_01DC2_01DC2_000DC_01DC3_01DC9_000E6_01DCA_01DCA_000DC_01DCB_01DCC_000E6,
  0x01DCD_01DCD_000EA_01DCE_01DCE_000D6_01DCF_01DCF_000DC_01DD0_01DD0_000CA_01DD1_01DF5_000E6,
  0x01DF6_01DF6_000E8_01DF7_01DF8_000E4_01DF9_01DF9_000DC_01DFA_01DFA_000DA_01DFB_01DFB_000E6,
  0x01DFC_01DFC_000E9_01DFD_01DFD_000DC_01DFE_01DFE_000E6_01DFF_01DFF_000DC_020D0_020D1_000E6,
  0x020D2_020D3_00001_020D4_020D7_000E6_020D8_020DA_00001_020DB_020DC_000E6_020E1_020E1_000E6,
  0x020E5_020E6_00001_020E7_020E7_000E6_020E8_020E8_000DC_020E9_020E9_000E6_020EA_020EB_00001,
  0x020EC_020EF_000DC_020F0_020F0_000E6_02CEF_02CF1_000E6_02D7F_02D7F_00009_02DE0_02DFF_000E6,
  0x0302A_0302A_000DA_0302B_0302B_000E4_0302C_0302C_000E8_0302D_0302D_000DE_0302E_0302F_000E0,
  0x03099_0309A_00008_0A66F_0A66F_000E6_0A674_0A67D_000E6_0A69E_0A69F_000E6_0A6F0_0A6F1_000E6,
  0x0A806_0A806_00009_0A82C_0A82C_00009_0A8C4_0A8C4_00009_0A8E0_0A8F1_000E6_0A92B_0A92D_000DC,
  0x0A953_0A953_00009_0A9B3_0A9B3_00007_0A9C0_0A9C0_00009_0AAB0_0AAB0_000E6_0AAB2_0AAB3_000E6,
  0x0AAB4_0AAB4_000DC_0AAB7_0AAB8_000E6_0AABE_0AABF_000E6_0AAC1_0AAC1_000E6_0AAF6_0AAF6_00009,
  0x0ABED_0ABED_00009_0FB1E_0FB1E_0001A_0FE20_0FE26_000E6_0FE27_0FE2D_000DC_0FE2E_0FE2F_000E6,
  0x101FD_101FD_000DC_102E0_102E0_000DC_10376_1037A_000E6_10A0D_10A0D_000DC_10A0F_10A0F_000E6,
  0x10A38_10A38_000E6_10A39_10A39_00001_10A3A_10A3A_000DC_10A3F_10A3F_00009_10AE5_10AE5_000E6,
  0x10AE6_10AE6_000DC_10D24_10D27_000E6_10D69_10D6D_000E6_10EAB_10EAC_000E6_10EFA_10EFB_000DC,
  0x10EFD_10EFF_000DC_10F46_10F47_000DC_10F48_10F4A_000E6_10F4B_10F4B_000DC_10F4C_10F4C_000E6,
  0x10F4D_10F50_000DC_10F82_10F82_000E6_10F83_10F83_000DC_10F84_10F84_000E6_10F85_10F85_000DC,
  0x11046_11046_00009_11070_11070_00009_1107F_1107F_00009_110B9_110B9_00009_110BA_110BA_00007,
  0x11100_11102_000E6_11133_11134_00009_11173_11173_00007_111C0_111C0_00009_111CA_111CA_00007,
  0x11235_11235_00009_11236_11236_00007_112E9_112E9_00007_112EA_112EA_00009_1133B_1133C_00007,
  0x1134D_1134D_00009_11366_1136C_000E6_11370_11374_000E6_113CE_113D0_00009_11442_11442_00009,
  0x11446_11446_00007_1145E_1145E_000E6_114C2_114C2_00009_114C3_114C3_00007_115BF_115BF_00009,
  0x115C0_115C0_00007_1163F_1163F_00009_116B6_116B6_00009_116B7_116B7_00007_1172B_1172B_00009,
  0x11839_11839_00009_1183A_1183A_00007_1193D_1193E_00009_11943_11943_00007_119E0_119E0_00009,
  0x11A34_11A34_00009_11A47_11A47_00009_11A99_11A99_00009_11C3F_11C3F_00009_11D42_11D42_00007,
  0x11D44_11D45_00009_11D97_11D97_00009_11F41_11F42_00009_1612F_1612F_00009_16AF0_16AF4_00001,
  0x16B30_16B36_000E6_16FF0_16FF1_00006_1BC9E_1BC9E_00001_1D165_1D166_000D8_1D167_1D169_00001,
  0x1D16D_1D16D_000E2_1D16E_1D172_000D8_1D17B_1D182_000DC_1D185_1D189_000E6_1D18A_1D18B_000DC,
  0x1D1AA_1D1AD_000E6_1D242_1D244_000E6_1E000_1E006_000E6_1E008_1E018_000E6_1E01B_1E021_000E6,
  0x1E023_1E024_000E6_1E026_1E02A_000E6_1E08F_1E08F_000E6_1E130_1E136_000E6_1E2AE_1E2AE_000E6,
  0x1E2EC_1E2EF_000E6_1E4EC_1E4ED_000E8_1E4EE_1E4EE_000DC_1E4EF_1E4EF_000E6_1E5EE_1E5EE_000E6,
  0x1E5EF_1E5EF_000DC_1E6E3_1E6E3_000E6_1E6E6_1E6E6_000E6_1E6EE_1E6EF_000E6_1E6F5_1E6F5_000E6,
  0x1E8D0_1E8D6_000DC_1E944_1E949_000E6_1E94A_1E94A_00007]

end Acrostic.Unicode
