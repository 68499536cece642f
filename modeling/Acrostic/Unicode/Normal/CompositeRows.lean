import Acrostic.Unicode.Rows

namespace Acrostic.Unicode

-- Primary composites, Hangul syllables apart: the two characters and the one they compose to,
-- in ascending order
def compositeRows : List Nat := [
  0x0003C_00338_0226E_0003D_00338_02260_0003E_00338_0226F_00041_00300_000C0_00041_00301_000C1,
  0x00041_00302_000C2_00041_00303_000C3_00041_00304_00100_00041_00306_00102_00041_00307_00226,
  0x00041_00308_000C4_00041_00309_01EA2_00041_0030A_000C5_00041_0030C_001CD_00041_0030F_00200,
  0x00041_00311_00202_00041_00323_01EA0_00041_00325_01E00_00041_00328_00104_00042_00307_01E02,
  0x00042_00323_01E04_00042_00331_01E06_00043_00301_00106_00043_00302_00108_00043_00307_0010A,
  0x00043_0030C_0010C_00043_00327_000C7_00044_00307_01E0A_00044_0030C_0010E_00044_00323_01E0C,
  0x00044_00327_01E10_00044_0032D_01E12_00044_00331_01E0E_00045_00300_000C8_00045_00301_000C9,
  0x00045_00302_000CA_00045_00303_01EBC_00045_00304_00112_00045_00306_00114_00045_00307_00116,
  0x00045_00308_000CB_00045_00309_01EBA_00045_0030C_0011A_00045_0030F_00204_00045_00311_00206,
  0x00045_00323_01EB8_00045_00327_00228_00045_00328_00118_00045_0032D_01E18_00045_00330_01E1A,
  0x00046_00307_01E1E_00047_00301_001F4_00047_00302_0011C_00047_00304_01E20_00047_00306_0011E,
  0x00047_00307_00120_00047_0030C_001E6_00047_00327_00122_00048_00302_00124_00048_00307_01E22,
  0x00048_00308_01E26_00048_0030C_0021E_00048_00323_01E24_00048_00327_01E28_00048_0032E_01E2A,
  0x00049_00300_000CC_00049_00301_000CD_00049_00302_000CE_00049_00303_00128_00049_00304_0012A,
  0x00049_00306_0012C_00049_00307_00130_00049_00308_000CF_00049_00309_01EC8_00049_0030C_001CF,
  0x00049_0030F_00208_00049_00311_0020A_00049_00323_01ECA_00049_00328_0012E_00049_00330_01E2C,
  0x0004A_00302_00134_0004B_00301_01E30_0004B_0030C_001E8_0004B_00323_01E32_0004B_00327_00136,
  0x0004B_00331_01E34_0004C_00301_00139_0004C_0030C_0013D_0004C_00323_01E36_0004C_00327_0013B,
  0x0004C_0032D_01E3C_0004C_00331_01E3A_0004D_00301_01E3E_0004D_00307_01E40_0004D_00323_01E42,
  0x0004E_00300_001F8_0004E_00301_00143_0004E_00303_000D1_0004E_00307_01E44_0004E_0030C_00147,
  0x0004E_00323_01E46_0004E_00327_00145_0004E_0032D_01E4A_0004E_00331_01E48_0004F_00300_000D2,
  0x0004F_00301_000D3_0004F_00302_000D4_0004F_00303_000D5_0004F_00304_0014C_0004F_00306_0014E,
  0x0004F_00307_0022E_0004F_00308_000D6_0004F_00309_01ECE_0004F_0030B_00150_0004F_0030C_001D1,
  0x0004F_0030F_0020C_0004F_00311_0020E_0004F_0031B_001A0_0004F_00323_01ECC_0004F_00328_001EA,
  0x00050_00301_01E54_00050_00307_01E56_00052_00301_00154_00052_00307_01E58_00052_0030C_00158,
  0x00052_0030F_00210_00052_00311_00212_00052_00323_01E5A_00052_00327_00156_00052_00331_01E5E,
  0x00053_00301_0015A_00053_00302_0015C_00053_00307_01E60_00053_0030C_00160_00053_00323_01E62,
  0x00053_00326_00218_00053_00327_0015E_00054_00307_01E6A_00054_0030C_00164_00054_00323_01E6C,
  0x00054_00326_0021A_00054_00327_00162_00054_0032D_01E70_00054_00331_01E6E_00055_00300_000D9,
  0x00055_00301_000DA_00055_00302_000DB_00055_00303_00168_00055_00304_0016A_00055_00306_0016C,
  0x00055_00308_000DC_00055_00309_01EE6_00055_0030A_0016E_00055_0030B_00170_00055_0030C_001D3,
  0x00055_0030F_00214_00055_00311_00216_00055_0031B_001AF_00055_00323_01EE4_00055_00324_01E72,
  0x00055_00328_00172_00055_0032D_01E76_00055_00330_01E74_00056_00303_01E7C_00056_00323_01E7E,
  0x00057_00300_01E80_00057_00301_01E82_00057_00302_00174_00057_00307_01E86_00057_00308_01E84,
  0x00057_00323_01E88_00058_00307_01E8A_00058_00308_01E8C_00059_00300_01EF2_00059_00301_000DD,
  0x00059_00302_00176_00059_00303_01EF8_00059_00304_00232_00059_00307_01E8E_00059_00308_00178,
  0x00059_00309_01EF6_00059_00323_01EF4_0005A_00301_00179_0005A_00302_01E90_0005A_00307_0017B,
  0x0005A_0030C_0017D_0005A_00323_01E92_0005A_00331_01E94_00061_00300_000E0_00061_00301_000E1,
  0x00061_00302_000E2_00061_00303_000E3_00061_00304_00101_00061_00306_00103_00061_00307_00227,
  0x00061_00308_000E4_00061_00309_01EA3_00061_0030A_000E5_00061_0030C_001CE_00061_0030F_00201,
  0x00061_00311_00203_00061_00323_01EA1_00061_00325_01E01_00061_00328_00105_00062_00307_01E03,
  0x00062_00323_01E05_00062_00331_01E07_00063_00301_00107_00063_00302_00109_00063_00307_0010B,
  0x00063_0030C_0010D_00063_00327_000E7_00064_00307_01E0B_00064_0030C_0010F_00064_00323_01E0D,
  0x00064_00327_01E11_00064_0032D_01E13_00064_00331_01E0F_00065_00300_000E8_00065_00301_000E9,
  0x00065_00302_000EA_00065_00303_01EBD_00065_00304_00113_00065_00306_00115_00065_00307_00117,
  0x00065_00308_000EB_00065_00309_01EBB_00065_0030C_0011B_00065_0030F_00205_00065_00311_00207,
  0x00065_00323_01EB9_00065_00327_00229_00065_00328_00119_00065_0032D_01E19_00065_00330_01E1B,
  0x00066_00307_01E1F_00067_00301_001F5_00067_00302_0011D_00067_00304_01E21_00067_00306_0011F,
  0x00067_00307_00121_00067_0030C_001E7_00067_00327_00123_00068_00302_00125_00068_00307_01E23,
  0x00068_00308_01E27_00068_0030C_0021F_00068_00323_01E25_00068_00327_01E29_00068_0032E_01E2B,
  0x00068_00331_01E96_00069_00300_000EC_00069_00301_000ED_00069_00302_000EE_00069_00303_00129,
  0x00069_00304_0012B_00069_00306_0012D_00069_00308_000EF_00069_00309_01EC9_00069_0030C_001D0,
  0x00069_0030F_00209_00069_00311_0020B_00069_00323_01ECB_00069_00328_0012F_00069_00330_01E2D,
  0x0006A_00302_00135_0006A_0030C_001F0_0006B_00301_01E31_0006B_0030C_001E9_0006B_00323_01E33,
  0x0006B_00327_00137_0006B_00331_01E35_0006C_00301_0013A_0006C_0030C_0013E_0006C_00323_01E37,
  0x0006C_00327_0013C_0006C_0032D_01E3D_0006C_00331_01E3B_0006D_00301_01E3F_0006D_00307_01E41,
  0x0006D_00323_01E43_0006E_00300_001F9_0006E_00301_00144_0006E_00303_000F1_0006E_00307_01E45,
  0x0006E_0030C_00148_0006E_00323_01E47_0006E_00327_00146_0006E_0032D_01E4B_0006E_00331_01E49,
  0x0006F_00300_000F2_0006F_00301_000F3_0006F_00302_000F4_0006F_00303_000F5_0006F_00304_0014D,
  0x0006F_00306_0014F_0006F_00307_0022F_0006F_00308_000F6_0006F_00309_01ECF_0006F_0030B_00151,
  0x0006F_0030C_001D2_0006F_0030F_0020D_0006F_00311_0020F_0006F_0031B_001A1_0006F_00323_01ECD,
  0x0006F_00328_001EB_00070_00301_01E55_00070_00307_01E57_00072_00301_00155_00072_00307_01E59,
  0x00072_0030C_00159_00072_0030F_00211_00072_00311_00213_00072_00323_01E5B_00072_00327_00157,
  0x00072_00331_01E5F_00073_00301_0015B_00073_00302_0015D_00073_00307_01E61_00073_0030C_00161,
  0x00073_00323_01E63_00073_00326_00219_00073_00327_0015F_00074_00307_01E6B_00074_00308_01E97,
  0x00074_0030C_00165_00074_00323_01E6D_00074_00326_0021B_00074_00327_00163_00074_0032D_01E71,
  0x00074_00331_01E6F_00075_00300_000F9_00075_00301_000FA_00075_00302_000FB_00075_00303_00169,
  0x00075_00304_0016B_00075_00306_0016D_00075_00308_000FC_00075_00309_01EE7_00075_0030A_0016F,
  0x00075_0030B_00171_00075_0030C_001D4_00075_0030F_00215_00075_00311_00217_00075_0031B_001B0,
  0x00075_00323_01EE5_00075_00324_01E73_00075_00328_00173_00075_0032D_01E77_00075_00330_01E75,
  0x00076_00303_01E7D_00076_00323_01E7F_00077_00300_01E81_00077_00301_01E83_00077_00302_00175,
  0x00077_00307_01E87_00077_00308_01E85_00077_0030A_01E98_00077_00323_01E89_00078_00307_01E8B,
  0x00078_00308_01E8D_00079_00300_01EF3_00079_00301_000FD_00079_00302_00177_00079_00303_01EF9,
  0x00079_00304_00233_00079_00307_01E8F_00079_00308_000FF_00079_00309_01EF7_00079_0030A_01E99,
  0x00079_00323_01EF5_0007A_00301_0017A_0007A_00302_01E91_0007A_00307_0017C_0007A_0030C_0017E,
  0x0007A_00323_01E93_0007A_00331_01E95_000A8_00300_01FED_000A8_00301_00385_000A8_00342_01FC1,
  0x000C2_00300_01EA6_000C2_00301_01EA4_000C2_00303_01EAA_000C2_00309_01EA8_000C4_00304_001DE,
  0x000C5_00301_001FA_000C6_00301_001FC_000C6_00304_001E2_000C7_00301_01E08_000CA_00300_01EC0,
  0x000CA_00301_01EBE_000CA_00303_01EC4_000CA_00309_01EC2_000CF_00301_01E2E_000D4_00300_01ED2,
  0x000D4_00301_01ED0_000D4_00303_01ED6_000D4_00309_01ED4_000D5_00301_01E4C_000D5_00304_0022C,
  0x000D5_00308_01E4E_000D6_00304_0022A_000D8_00301_001FE_000DC_00300_001DB_000DC_00301_001D7,
  0x000DC_00304_001D5_000DC_0030C_001D9_000E2_00300_01EA7_000E2_00301_01EA5_000E2_00303_01EAB,
  0x000E2_00309_01EA9_000E4_00304_001DF_000E5_00301_001FB_000E6_00301_001FD_000E6_00304_001E3,
  0x000E7_00301_01E09_000EA_00300_01EC1_000EA_00301_01EBF_000EA_00303_01EC5_000EA_00309_01EC3,
  0x000EF_00301_01E2F_000F4_00300_01ED3_000F4_00301_01ED1_000F4_00303_01ED7_000F4_00309_01ED5,
  0x000F5_00301_01E4D_000F5_00304_0022D_000F5_00308_01E4F_000F6_00304_0022B_000F8_00301_001FF,
  0x000FC_00300_001DC_000FC_00301_001D8_000FC_00304_001D6_000FC_0030C_001DA_00102_00300_01EB0,
  0x00102_00301_01EAE_00102_00303_01EB4_00102_00309_01EB2_00103_00300_01EB1_00103_00301_01EAF,
  0x00103_00303_01EB5_00103_00309_01EB3_00112_00300_01E14_00112_00301_01E16_00113_00300_01E15,
  0x00113_00301_01E17_0014C_00300_01E50_0014C_00301_01E52_0014D_00300_01E51_0014D_00301_01E53,
  0x0015A_00307_01E64_0015B_00307_01E65_00160_00307_01E66_00161_00307_01E67_00168_00301_01E78,
  0x00169_00301_01E79_0016A_00308_01E7A_0016B_00308_01E7B_0017F_00307_01E9B_001A0_00300_01EDC,
  0x001A0_00301_01EDA_001A0_00303_01EE0_001A0_00309_01EDE_001A0_00323_01EE2_001A1_00300_01EDD,
  0x001A1_00301_01EDB_001A1_00303_01EE1_001A1_00309_01EDF_001A1_00323_01EE3_001AF_00300_01EEA,
  0x001AF_00301_01EE8_001AF_00303_01EEE_001AF_00309_01EEC_001AF_00323_01EF0_001B0_00300_01EEB,
  0x001B0_00301_01EE9_001B0_00303_01EEF_001B0_00309_01EED_001B0_00323_01EF1_001B7_0030C_001EE,
  0x001EA_00304_001EC_001EB_00304_001ED_00226_00304_001E0_00227_00304_001E1_00228_00306_01E1C,
  0x00229_00306_01E1D_0022E_00304_00230_0022F_00304_00231_00292_0030C_001EF_00391_00300_01FBA,
  0x00391_00301_00386_00391_00304_01FB9_00391_00306_01FB8_00391_00313_01F08_00391_00314_01F09,
  0x00391_00345_01FBC_00395_00300_01FC8_00395_00301_00388_00395_00313_01F18_00395_00314_01F19,
  0x00397_00300_01FCA_00397_00301_00389_00397_00313_01F28_00397_00314_01F29_00397_00345_01FCC,
  0x00399_00300_01FDA_00399_00301_0038A_00399_00304_01FD9_00399_00306_01FD8_00399_00308_003AA,
  0x00399_00313_01F38_00399_00314_01F39_0039F_00300_01FF8_0039F_00301_0038C_0039F_00313_01F48,
  0x0039F_00314_01F49_003A1_00314_01FEC_003A5_00300_01FEA_003A5_00301_0038E_003A5_00304_01FE9,
  0x003A5_00306_01FE8_003A5_00308_003AB_003A5_00314_01F59_003A9_00300_01FFA_003A9_00301_0038F,
  0x003A9_00313_01F68_003A9_00314_01F69_003A9_00345_01FFC_003AC_00345_01FB4_003AE_00345_01FC4,
  0x003B1_00300_01F70_003B1_00301_003AC_003B1_00304_01FB1_003B1_00306_01FB0_003B1_00313_01F00,
  0x003B1_00314_01F01_003B1_00342_01FB6_003B1_00345_01FB3_003B5_00300_01F72_003B5_00301_003AD,
  0x003B5_00313_01F10_003B5_00314_01F11_003B7_00300_01F74_003B7_00301_003AE_003B7_00313_01F20,
  0x003B7_00314_01F21_003B7_00342_01FC6_003B7_00345_01FC3_003B9_00300_01F76_003B9_00301_003AF,
  0x003B9_00304_01FD1_003B9_00306_01FD0_003B9_00308_003CA_003B9_00313_01F30_003B9_00314_01F31,
  0x003B9_00342_01FD6_003BF_00300_01F78_003BF_00301_003CC_003BF_00313_01F40_003BF_00314_01F41,
  0x003C1_00313_01FE4_003C1_00314_01FE5_003C5_00300_01F7A_003C5_00301_003CD_003C5_00304_01FE1,
  0x003C5_00306_01FE0_003C5_00308_003CB_003C5_00313_01F50_003C5_00314_01F51_003C5_00342_01FE6,
  0x003C9_00300_01F7C_003C9_00301_003CE_003C9_00313_01F60_003C9_00314_01F61_003C9_00342_01FF6,
  0x003C9_00345_01FF3_003CA_00300_01FD2_003CA_00301_00390_003CA_00342_01FD7_003CB_00300_01FE2,
  0x003CB_00301_003B0_003CB_00342_01FE7_003CE_00345_01FF4_003D2_00301_003D3_003D2_00308_003D4,
  0x00406_00308_00407_00410_00306_004D0_00410_00308_004D2_00413_00301_00403_00415_00300_00400,
  0x00415_00306_004D6_00415_00308_00401_00416_00306_004C1_00416_00308_004DC_00417_00308_004DE,
  0x00418_00300_0040D_00418_00304_004E2_00418_00306_00419_00418_00308_004E4_0041A_00301_0040C,
  0x0041E_00308_004E6_00423_00304_004EE_00423_00306_0040E_00423_00308_004F0_00423_0030B_004F2,
  0x00427_00308_004F4_0042B_00308_004F8_0042D_00308_004EC_00430_00306_004D1_00430_00308_004D3,
  0x00433_00301_00453_00435_00300_00450_00435_00306_004D7_00435_00308_00451_00436_00306_004C2,
  0x00436_00308_004DD_00437_00308_004DF_00438_00300_0045D_00438_00304_004E3_00438_00306_00439,
  0x00438_00308_004E5_0043A_00301_0045C_0043E_00308_004E7_00443_00304_004EF_00443_00306_0045E,
  0x00443_00308_004F1_00443_0030B_004F3_00447_00308_004F5_0044B_00308_004F9_0044D_00308_004ED,
  0x00456_00308_00457_00474_0030F_00476_00475_0030F_00477_004D8_00308_004DA_004D9_00308_004DB,
  0x004E8_00308_004EA_004E9_00308_004EB_00627_00653_00622_00627_00654_00623_00627_00655_00625,
  0x00648_00654_00624_0064A_00654_00626_006C1_00654_006C2_006D2_00654_006D3_006D5_00654_006C0,
  0x00928_0093C_00929_00930_0093C_00931_00933_0093C_00934_009C7_009BE_009CB_009C7_009D7_009CC,
  0x00B47_00B3E_00B4B_00B47_00B56_00B48_00B47_00B57_00B4C_00B92_00BD7_00B94_00BC6_00BBE_00BCA,
  0x00BC6_00BD7_00BCC_00BC7_00BBE_00BCB_00C46_00C56_00C48_00CBF_00CD5_00CC0_00CC6_00CC2_00CCA,
  0x00CC6_00CD5_00CC7_00CC6_00CD6_00CC8_00CCA_00CD5_00CCB_00D46_00D3E_00D4A_00D46_00D57_00D4C,
  0x00D47_00D3E_00D4B_00DD9_00DCA_00DDA_00DD9_00DCF_00DDC_00DD9_00DDF_00DDE_00DDC_00DCA_00DDD,
  0x01025_0102E_01026_01B05_01B35_01B06_01B07_01B35_01B08_01B09_01B35_01B0A_01B0B_01B35_01B0C,
  0x01B0D_01B35_01B0E_01B11_01B35_01B12_01B3A_01B35_01B3B_01B3C_01B35_01B3D_01B3E_01B35_01B40,
  0x01B3F_01B35_01B41_01B42_01B35_01B43_01E36_00304_01E38_01E37_00304_01E39_01E5A_00304_01E5C,
  0x01E5B_00304_01E5D_01E62_00307_01E68_01E63_00307_01E69_01EA0_00302_01EAC_01EA0_00306_01EB6,
  0x01EA1_00302_01EAD_01EA1_00306_01EB7_01EB8_00302_01EC6_01EB9_00302_01EC7_01ECC_00302_01ED8,
  0x01ECD_00302_01ED9_01F00_00300_01F02_01F00_00301_01F04_01F00_00342_01F06_01F00_00345_01F80,
  0x01F01_00300_01F03_01F01_00301_01F05_01F01_00342_01F07_01F01_00345_01F81_01F02_00345_01F82,
  0x01F03_00345_01F83_01F04_00345_01F84_01F05_00345_01F85_01F06_00345_01F86_01F07_00345_01F87,
  0x01F08_00300_01F0A_01F08_00301_01F0C_01F08_00342_01F0E_01F08_00345_01F88_01F09_00300_01F0B,
  0x01F09_00301_01F0D_01F09_00342_01F0F_01F09_00345_01F89_01F0A_00345_01F8A_01F0B_00345_01F8B,
  0x01F0C_00345_01F8C_01F0D_00345_01F8D_01F0E_00345_01F8E_01F0F_00345_01F8F_01F10_00300_01F12,
  0x01F10_00301_01F14_01F11_00300_01F13_01F11_00301_01F15_01F18_00300_01F1A_01F18_00301_01F1C,
  0x01F19_00300_01F1B_01F19_00301_01F1D_01F20_00300_01F22_01F20_00301_01F24_01F20_00342_01F26,
  0x01F20_00345_01F90_01F21_00300_01F23_01F21_00301_01F25_01F21_00342_01F27_01F21_00345_01F91,
  0x01F22_00345_01F92_01F23_00345_01F93_01F24_00345_01F94_01F25_00345_01F95_01F26_00345_01F96,
  0x01F27_00345_01F97_01F28_00300_01F2A_01F28_00301_01F2C_01F28_00342_01F2E_01F28_00345_01F98,
  0x01F29_00300_01F2B_01F29_00301_01F2D_01F29_00342_01F2F_01F29_00345_01F99_01F2A_00345_01F9A,
  0x01F2B_00345_01F9B_01F2C_00345_01F9C_01F2D_00345_01F9D_01F2E_00345_01F9E_01F2F_00345_01F9F,
  0x01F30_00300_01F32_01F30_00301_01F34_01F30_00342_01F36_01F31_00300_01F33_01F31_00301_01F35,
  0x01F31_00342_01F37_01F38_00300_01F3A_01F38_00301_01F3C_01F38_00342_01F3E_01F39_00300_01F3B,
  0x01F39_00301_01F3D_01F39_00342_01F3F_01F40_00300_01F42_01F40_00301_01F44_01F41_00300_01F43,
  0x01F41_00301_01F45_01F48_00300_01F4A_01F48_00301_01F4C_01F49_00300_01F4B_01F49_00301_01F4D,
  0x01F50_00300_01F52_01F50_00301_01F54_01F50_00342_01F56_01F51_00300_01F53_01F51_00301_01F55,
  0x01F51_00342_01F57_01F59_00300_01F5B_01F59_00301_01F5D_01F59_00342_01F5F_01F60_00300_01F62,
  0x01F60_00301_01F64_01F60_00342_01F66_01F60_00345_01FA0_01F61_00300_01F63_01F61_00301_01F65,
  0x01F61_00342_01F67_01F61_00345_01FA1_01F62_00345_01FA2_01F63_00345_01FA3_01F64_00345_01FA4,
  0x01F65_00345_01FA5_01F66_00345_01FA6_01F67_00345_01FA7_01F68_00300_01F6A_01F68_00301_01F6C,
  0x01F68_00342_01F6E_01F68_00345_01FA8_01F69_00300_01F6B_01F69_00301_01F6D_01F69_00342_01F6F,
  0x01F69_00345_01FA9_01F6A_00345_01FAA_01F6B_00345_01FAB_01F6C_00345_01FAC_01F6D_00345_01FAD,
  0x01F6E_00345_01FAE_01F6F_00345_01FAF_01F70_00345_01FB2_01F74_00345_01FC2_01F7C_00345_01FF2,
  0x01FB6_00345_01FB7_01FBF_00300_01FCD_01FBF_00301_01FCE_01FBF_00342_01FCF_01FC6_00345_01FC7,
  0x01FF6_00345_01FF7_01FFE_00300_01FDD_01FFE_00301_01FDE_01FFE_00342_01FDF_02190_00338_0219A,
  0x02192_00338_0219B_02194_00338_021AE_021D0_00338_021CD_021D2_00338_021CF_021D4_00338_021CE,
  0x02203_00338_02204_02208_00338_02209_0220B_00338_0220C_02223_00338_02224_02225_00338_02226,
  0x0223C_00338_02241_02243_00338_02244_02245_00338_02247_02248_00338_02249_0224D_00338_0226D,
  0x02261_00338_02262_02264_00338_02270_02265_00338_02271_02272_00338_02274_02273_00338_02275,
  0x02276_00338_02278_02277_00338_02279_0227A_00338_02280_0227B_00338_02281_0227C_00338_022E0,
  0x0227D_00338_022E1_02282_00338_02284_02283_00338_02285_02286_00338_02288_02287_00338_02289,
  0x02291_00338_022E2_02292_00338_022E3_022A2_00338_022AC_022A8_00338_022AD_022A9_00338_022AE,
  0x022AB_00338_022AF_022B2_00338_022EA_022B3_00338_022EB_022B4_00338_022EC_022B5_00338_022ED,
  0x03046_03099_03094_0304B_03099_0304C_0304D_03099_0304E_0304F_03099_03050_03051_03099_03052,
  0x03053_03099_03054_03055_03099_03056_03057_03099_03058_03059_03099_0305A_0305B_03099_0305C,
  0x0305D_03099_0305E_0305F_03099_03060_03061_03099_03062_03064_03099_03065_03066_03099_03067,
  0x03068_03099_03069_0306F_03099_03070_0306F_0309A_03071_03072_03099_03073_03072_0309A_03074,
  0x03075_03099_03076_03075_0309A_03077_03078_03099_03079_03078_0309A_0307A_0307B_03099_0307C,
  0x0307B_0309A_0307D_0309D_03099_0309E_030A6_03099_030F4_030AB_03099_030AC_030AD_03099_030AE,
  0x030AF_03099_030B0_030B1_03099_030B2_030B3_03099_030B4_030B5_03099_030B6_030B7_03099_030B8,
  0x030B9_03099_030BA_030BB_03099_030BC_030BD_03099_030BE_030BF_03099_030C0_030C1_03099_030C2,
  0x030C4_03099_030C5_030C6_03099_030C7_030C8_03099_030C9_030CF_03099_030D0_030CF_0309A_030D1,
  0x030D2_03099_030D3_030D2_0309A_030D4_030D5_03099_030D6_030D5_0309A_030D7_030D8_03099_030D9,
  0x030D8_0309A_030DA_030DB_03099_030DC_030DB_0309A_030DD_030EF_03099_030F7_030F0_03099_030F8,
  0x030F1_03099_030F9_030F2_03099_030FA_030FD_03099_030FE_105D2_00307_105C9_105DA_00307_105E4,
  0x11099_110BA_1109A_1109B_110BA_1109C_110A5_110BA_110AB_11131_11127_1112E_11132_11127_1112F,
  0x11347_1133E_1134B_11347_11357_1134C_11382_113C9_11383_11384_113BB_11385_1138B_113C2_1138E,
  0x11390_113C9_11391_113C2_113B8_113C7_113C2_113C2_113C5_113C2_113C9_113C8_114B9_114B0_114BC,
  0x114B9_114BA_114BB_114B9_114BD_114BE_115B8_115AF_115BA_115B9_115AF_115BB_11935_11930_11938,
  0x1611E_1611E_16121_1611E_1611F_16123_1611E_16120_16125_1611E_16129_16122_16121_1611F_16126,
  0x16121_16120_16128_16122_1611F_16127_16129_1611F_16124_16D63_16D67_16D69_16D67_16D67_16D68,
  0x16D69_16D67_16D6A]

end Acrostic.Unicode
