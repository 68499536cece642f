import Acrostic.Unicode.Rows

namespace Acrostic.Unicode

-- Full canonical decompositions, Hangul syllables apart
def canonicalRows : List Nat := [
  0x8000C0_000041_000300_8000C1_000041_000301_8000C2_000041_000302_8000C3_000041_000303_8000C4,
  0x000041_000308_8000C5_000041_00030A_8000C7_000043_000327_8000C8_000045_000300_8000C9_000045,
  0x000301_8000CA_000045_000302_8000CB_000045_000308_8000CC_000049_000300_8000CD_000049_000301,
  0x8000CE_000049_000302_8000CF_000049_000308_8000D1_00004E_000303_8000D2_00004F_000300_8000D3,
  0x00004F_000301_8000D4_00004F_000302_8000D5_00004F_000303_8000D6_00004F_000308_8000D9_000055,
  0x000300_8000DA_000055_000301_8000DB_000055_000302_8000DC_000055_000308_8000DD_000059_000301,
  0x8000E0_000061_000300_8000E1_000061_000301_8000E2_000061_000302_8000E3_000061_000303_8000E4,
  0x000061_000308_8000E5_000061_00030A_8000E7_000063_000327_8000E8_000065_000300_8000E9_000065,
  0x000301_8000EA_000065_000302_8000EB_000065_000308_8000EC_000069_000300_8000ED_000069_000301,
  0x8000EE_000069_000302_8000EF_000069_000308_8000F1_00006E_000303_8000F2_00006F_000300_8000F3,
  0x00006F_000301_8000F4_00006F_000302_8000F5_00006F_000303_8000F6_00006F_000308_8000F9_000075,
  0x000300_8000FA_000075_000301_8000FB_000075_000302_8000FC_000075_000308_8000FD_000079_000301,
  0x8000FF_000079_000308_800100_000041_000304_800101_000061_000304_800102_000041_000306_800103,
  0x000061_000306_800104_000041_000328_800105_000061_000328_800106_000043_000301_800107_000063,
  0x000301_800108_000043_000302_800109_000063_000302_80010A_000043_000307_80010B_000063_000307,
  0x80010C_000043_00030C_80010D_000063_00030C_80010E_000044_00030C_80010F_000064_00030C_800112,
  0x000045_000304_800113_000065_000304_800114_000045_000306_800115_000065_000306_800116_000045,
  0x000307_800117_000065_000307_800118_000045_000328_800119_000065_000328_80011A_000045_00030C,
  0x80011B_000065_00030C_80011C_000047_000302_80011D_000067_000302_80011E_000047_000306_80011F,
  0x000067_000306_800120_000047_000307_800121_000067_000307_800122_000047_000327_800123_000067,
  0x000327_800124_000048_000302_800125_000068_000302_800128_000049_000303_800129_000069_000303,
  0x80012A_000049_000304_80012B_000069_000304_80012C_000049_000306_80012D_000069_000306_80012E,
  0x000049_000328_80012F_000069_000328_800130_000049_000307_800134_00004A_000302_800135_00006A,
  0x000302_800136_00004B_000327_800137_00006B_000327_800139_00004C_000301_80013A_00006C_000301,
  0x80013B_00004C_000327_80013C_00006C_000327_80013D_00004C_00030C_80013E_00006C_00030C_800143,
  0x00004E_000301_800144_00006E_000301_800145_00004E_000327_800146_00006E_000327_800147_00004E,
  0x00030C_800148_00006E_00030C_80014C_00004F_000304_80014D_00006F_000304_80014E_00004F_000306,
  0x80014F_00006F_000306_800150_00004F_00030B_800151_00006F_00030B_800154_000052_000301_800155,
  0x000072_000301_800156_000052_000327_800157_000072_000327_800158_000052_00030C_800159_000072,
  0x00030C_80015A_000053_000301_80015B_000073_000301_80015C_000053_000302_80015D_000073_000302,
  0x80015E_000053_000327_80015F_000073_000327_800160_000053_00030C_800161_000073_00030C_800162,
  0x000054_000327_800163_000074_000327_800164_000054_00030C_800165_000074_00030C_800168_000055,
  0x000303_800169_000075_000303_80016A_000055_000304_80016B_000075_000304_80016C_000055_000306,
  0x80016D_000075_000306_80016E_000055_00030A_80016F_000075_00030A_800170_000055_00030B_800171,
  0x000075_00030B_800172_000055_000328_800173_000075_000328_800174_000057_000302_800175_000077,
  0x000302_800176_000059_000302_800177_000079_000302_800178_000059_000308_800179_00005A_000301,
  0x80017A_00007A_000301_80017B_00005A_000307_80017C_00007A_000307_80017D_00005A_00030C_80017E,
  0x00007A_00030C_8001A0_00004F_00031B_8001A1_00006F_00031B_8001AF_000055_00031B_8001B0_000075,
  0x00031B_8001CD_000041_00030C_8001CE_000061_00030C_8001CF_000049_00030C_8001D0_000069_00030C,
  0x8001D1_00004F_00030C_8001D2_00006F_00030C_8001D3_000055_00030C_8001D4_000075_00030C_8001D5,
  0x000055_000308_000304_8001D6_000075_000308_000304_8001D7_000055_000308_000301_8001D8_000075,
  0x000308_000301_8001D9_000055_000308_00030C_8001DA_000075_000308_00030C_8001DB_000055_000308,
  0x000300_8001DC_000075_000308_000300_8001DE_000041_000308_000304_8001DF_000061_000308_000304,
  0x8001E0_000041_000307_000304_8001E1_000061_000307_000304_8001E2_0000C6_000304_8001E3_0000E6,
  0x000304_8001E6_000047_00030C_8001E7_000067_00030C_8001E8_00004B_00030C_8001E9_00006B_00030C,
  0x8001EA_00004F_000328_8001EB_00006F_000328_8001EC_00004F_000328_000304_8001ED_00006F_000328,
  0x000304_8001EE_0001B7_00030C_8001EF_000292_00030C_8001F0_00006A_00030C_8001F4_000047_000301,
  0x8001F5_000067_000301_8001F8_00004E_000300_8001F9_00006E_000300_8001FA_000041_00030A_000301,
  0x8001FB_000061_00030A_000301_8001FC_0000C6_000301_8001FD_0000E6_000301_8001FE_0000D8_000301,
  0x8001FF_0000F8_000301_800200_000041_00030F_800201_000061_00030F_800202_000041_000311_800203,
  0x000061_000311_800204_000045_00030F_800205_000065_00030F_800206_000045_000311_800207_000065,
  0x000311_800208_000049_00030F_800209_000069_00030F_80020A_000049_000311_80020B_000069_000311,
  0x80020C_00004F_00030F_80020D_00006F_00030F_80020E_00004F_000311_80020F_00006F_000311_800210,
  0x000052_00030F_800211_000072_00030F_800212_000052_000311_800213_000072_000311_800214_000055,
  0x00030F_800215_000075_00030F_800216_000055_000311_800217_000075_000311_800218_000053_000326,
  0x800219_000073_000326_80021A_000054_000326_80021B_000074_000326_80021E_000048_00030C_80021F,
  0x000068_00030C_800226_000041_000307_800227_000061_000307_800228_000045_000327_800229_000065,
  0x000327_80022A_00004F_000308_000304_80022B_00006F_000308_000304_80022C_00004F_000303_000304,
  0x80022D_00006F_000303_000304_80022E_00004F_000307_80022F_00006F_000307_800230_00004F_000307,
  0x000304_800231_00006F_000307_000304_800232_000059_000304_800233_000079_000304_800340_800341,
  0x000300_800343_000313_800344_000308_000301_800374_0002B9_80037E_00003B_800385_0000A8_000301,
  0x800386_000391_000301_800387_0000B7_800388_000395_000301_800389_000397_000301_80038A_000399,
  0x000301_80038C_00039F_000301_80038E_0003A5_000301_80038F_0003A9_000301_800390_0003B9_000308,
  0x000301_8003AA_000399_000308_8003AB_0003A5_000308_8003AC_0003B1_000301_8003AD_0003B5_000301,
  0x8003AE_0003B7_000301_8003AF_0003B9_000301_8003B0_0003C5_000308_000301_8003CA_0003B9_000308,
  0x8003CB_0003C5_000308_8003CC_0003BF_000301_8003CD_0003C5_000301_8003CE_0003C9_000301_8003D3,
  0x0003D2_000301_8003D4_0003D2_000308_800400_000415_000300_800401_000415_000308_800403_000413,
  0x000301_800407_000406_000308_80040C_00041A_000301_80040D_000418_000300_80040E_000423_000306,
  0x800419_000418_000306_800439_000438_000306_800450_000435_000300_800451_000435_000308_800453,
  0x000433_000301_800457_000456_000308_80045C_00043A_000301_80045D_000438_000300_80045E_000443,
  0x000306_800476_000474_00030F_800477_000475_00030F_8004C1_000416_000306_8004C2_000436_000306,
  0x8004D0_000410_000306_8004D1_000430_000306_8004D2_000410_000308_8004D3_000430_000308_8004D6,
  0x000415_000306_8004D7_000435_000306_8004DA_0004D8_000308_8004DB_0004D9_000308_8004DC_000416,
  0x000308_8004DD_000436_000308_8004DE_000417_000308_8004DF_000437_000308_8004E2_000418_000304,
  0x8004E3_000438_000304_8004E4_000418_000308_8004E5_000438_000308_8004E6_00041E_000308_8004E7,
  0x00043E_000308_8004EA_0004E8_000308_8004EB_0004E9_000308_8004EC_00042D_000308_8004ED_00044D,
  0x000308_8004EE_000423_000304_8004EF_000443_000304_8004F0_000423_000308_8004F1_000443_000308,
  0x8004F2_000423_00030B_8004F3_000443_00030B_8004F4_000427_000308_8004F5_000447_000308_8004F8,
  0x00042B_000308_8004F9_00044B_000308_800622_000627_000653_800623_000627_000654_800624_000648,
  0x000654_800625_000627_000655_800626_00064A_000654_8006C0_0006D5_000654_8006C2_0006C1_000654,
  0x8006D3_0006D2_000654_800929_000928_00093C_800931_000930_00093C_800934_000933_00093C_800958,
  0x000915_00093C_800959_000916_00093C_80095A_000917_00093C_80095B_00091C_00093C_80095C_000921,
  0x00093C_80095D_000922_00093C_80095E_00092B_00093C_80095F_00092F_00093C_8009CB_0009C7_0009BE,
  0x8009CC_0009C7_0009D7_8009DC_0009A1_0009BC_8009DD_0009A2_0009BC_8009DF_0009AF_0009BC_800A33,
  0x000A32_000A3C_800A36_000A38_000A3C_800A59_000A16_000A3C_800A5A_000A17_000A3C_800A5B_000A1C,
  0x000A3C_800A5E_000A2B_000A3C_800B48_000B47_000B56_800B4B_000B47_000B3E_800B4C_000B47_000B57,
  0x800B5C_000B21_000B3C_800B5D_000B22_000B3C_800B94_000B92_000BD7_800BCA_000BC6_000BBE_800BCB,
  0x000BC7_000BBE_800BCC_000BC6_000BD7_800C48_000C46_000C56_800CC0_000CBF_000CD5_800CC7_000CC6,
  0x000CD5_800CC8_000CC6_000CD6_800CCA_000CC6_000CC2_800CCB_000CC6_000CC2_000CD5_800D4A_000D46,
  0x000D3E_800D4B_000D47_000D3E_800D4C_000D46_000D57_800DDA_000DD9_000DCA_800DDC_000DD9_000DCF,
  0x800DDD_000DD9_000DCF_000DCA_800DDE_000DD9_000DDF_800F43_000F42_000FB7_800F4D_000F4C_000FB7,
  0x800F52_000F51_000FB7_800F57_000F56_000FB7_800F5C_000F5B_000FB7_800F69_000F40_000FB5_800F73,
  0x000F71_000F72_800F75_000F71_000F74_800F76_000FB2_000F80_800F78_000FB3_000F80_800F81_000F71,
  0x000F80_800F93_000F92_000FB7_800F9D_000F9C_000FB7_800FA2_000FA1_000FB7_800FA7_000FA6_000FB7,
  0x800FAC_000FAB_000FB7_800FB9_000F90_000FB5_801026_001025_00102E_801B06_001B05_001B35_801B08,
  0x001B07_001B35_801B0A_001B09_001B35_801B0C_001B0B_001B35_801B0E_001B0D_001B35_801B12_001B11,
  0x001B35_801B3B_001B3A_001B35_801B3D_001B3C_001B35_801B40_001B3E_001B35_801B41_001B3F_001B35,
  0x801B43_001B42_001B35_801E00_000041_000325_801E01_000061_000325_801E02_000042_000307_801E03,
  0x000062_000307_801E04_000042_000323_801E05_000062_000323_801E06_000042_000331_801E07_000062,
  0x000331_801E08_000043_000327_000301_801E09_000063_000327_000301_801E0A_000044_000307_801E0B,
  0x000064_000307_801E0C_000044_000323_801E0D_000064_000323_801E0E_000044_000331_801E0F_000064,
  0x000331_801E10_000044_000327_801E11_000064_000327_801E12_000044_00032D_801E13_000064_00032D,
  0x801E14_000045_000304_000300_801E15_000065_000304_000300_801E16_000045_000304_000301_801E17,
  0x000065_000304_000301_801E18_000045_00032D_801E19_000065_00032D_801E1A_000045_000330_801E1B,
  0x000065_000330_801E1C_000045_000327_000306_801E1D_000065_000327_000306_801E1E_000046_000307,
  0x801E1F_000066_000307_801E20_000047_000304_801E21_000067_000304_801E22_000048_000307_801E23,
  0x000068_000307_801E24_000048_000323_801E25_000068_000323_801E26_000048_000308_801E27_000068,
  0x000308_801E28_000048_000327_801E29_000068_000327_801E2A_000048_00032E_801E2B_000068_00032E,
  0x801E2C_000049_000330_801E2D_000069_000330_801E2E_000049_000308_000301_801E2F_000069_000308,
  0x000301_801E30_00004B_000301_801E31_00006B_000301_801E32_00004B_000323_801E33_00006B_000323,
  0x801E34_00004B_000331_801E35_00006B_000331_801E36_00004C_000323_801E37_00006C_000323_801E38,
  0x00004C_000323_000304_801E39_00006C_000323_000304_801E3A_00004C_000331_801E3B_00006C_000331,
  0x801E3C_00004C_00032D_801E3D_00006C_00032D_801E3E_00004D_000301_801E3F_00006D_000301_801E40,
  0x00004D_000307_801E41_00006D_000307_801E42_00004D_000323_801E43_00006D_000323_801E44_00004E,
  0x000307_801E45_00006E_000307_801E46_00004E_000323_801E47_00006E_000323_801E48_00004E_000331,
  0x801E49_00006E_000331_801E4A_00004E_00032D_801E4B_00006E_00032D_801E4C_00004F_000303_000301,
  0x801E4D_00006F_000303_000301_801E4E_00004F_000303_000308_801E4F_00006F_000303_000308_801E50,
  0x00004F_000304_000300_801E51_00006F_000304_000300_801E52_00004F_000304_000301_801E53_00006F,
  0x000304_000301_801E54_000050_000301_801E55_000070_000301_801E56_000050_000307_801E57_000070,
  0x000307_801E58_000052_000307_801E59_000072_000307_801E5A_000052_000323_801E5B_000072_000323,
  0x801E5C_000052_000323_000304_801E5D_000072_000323_000304_801E5E_000052_000331_801E5F_000072,
  0x000331_801E60_000053_000307_801E61_000073_000307_801E62_000053_000323_801E63_000073_000323,
  0x801E64_000053_000301_000307_801E65_000073_000301_000307_801E66_000053_00030C_000307_801E67,
  0x000073_00030C_000307_801E68_000053_000323_000307_801E69_000073_000323_000307_801E6A_000054,
  0x000307_801E6B_000074_000307_801E6C_000054_000323_801E6D_000074_000323_801E6E_000054_000331,
  0x801E6F_000074_000331_801E70_000054_00032D_801E71_000074_00032D_801E72_000055_000324_801E73,
  0x000075_000324_801E74_000055_000330_801E75_000075_000330_801E76_000055_00032D_801E77_000075,
  0x00032D_801E78_000055_000303_000301_801E79_000075_000303_000301_801E7A_000055_000304_000308,
  0x801E7B_000075_000304_000308_801E7C_000056_000303_801E7D_000076_000303_801E7E_000056_000323,
  0x801E7F_000076_000323_801E80_000057_000300_801E81_000077_000300_801E82_000057_000301_801E83,
  0x000077_000301_801E84_000057_000308_801E85_000077_000308_801E86_000057_000307_801E87_000077,
  0x000307_801E88_000057_000323_801E89_000077_000323_801E8A_000058_000307_801E8B_000078_000307,
  0x801E8C_000058_000308_801E8D_000078_000308_801E8E_000059_000307_801E8F_000079_000307_801E90,
  0x00005A_000302_801E91_00007A_000302_801E92_00005A_000323_801E93_00007A_000323_801E94_00005A,
  0x000331_801E95_00007A_000331_801E96_000068_000331_801E97_000074_000308_801E98_000077_00030A,
  0x801E99_000079_00030A_801E9B_00017F_000307_801EA0_000041_000323_801EA1_000061_000323_801EA2,
  0x000041_000309_801EA3_000061_000309_801EA4_000041_000302_000301_801EA5_000061_000302_000301,
  0x801EA6_000041_000302_000300_801EA7_000061_000302_000300_801EA8_000041_000302_000309_801EA9,
  0x000061_000302_000309_801EAA_000041_000302_000303_801EAB_000061_000302_000303_801EAC_000041,
  0x000323_000302_801EAD_000061_000323_000302_801EAE_000041_000306_000301_801EAF_000061_000306,
  0x000301_801EB0_000041_000306_000300_801EB1_000061_000306_000300_801EB2_000041_000306_000309,
  0x801EB3_000061_000306_000309_801EB4_000041_000306_000303_801EB5_000061_000306_000303_801EB6,
  0x000041_000323_000306_801EB7_000061_000323_000306_801EB8_000045_000323_801EB9_000065_000323,
  0x801EBA_000045_000309_801EBB_000065_000309_801EBC_000045_000303_801EBD_000065_000303_801EBE,
  0x000045_000302_000301_801EBF_000065_000302_000301_801EC0_000045_000302_000300_801EC1_000065,
  0x000302_000300_801EC2_000045_000302_000309_801EC3_000065_000302_000309_801EC4_000045_000302,
  0x000303_801EC5_000065_000302_000303_801EC6_000045_000323_000302_801EC7_000065_000323_000302,
  0x801EC8_000049_000309_801EC9_000069_000309_801ECA_000049_000323_801ECB_000069_000323_801ECC,
  0x00004F_000323_801ECD_00006F_000323_801ECE_00004F_000309_801ECF_00006F_000309_801ED0_00004F,
  0x000302_000301_801ED1_00006F_000302_000301_801ED2_00004F_000302_000300_801ED3_00006F_000302,
  0x000300_801ED4_00004F_000302_000309_801ED5_00006F_000302_000309_801ED6_00004F_000302_000303,
  0x801ED7_00006F_000302_000303_801ED8_00004F_000323_000302_801ED9_00006F_000323_000302_801EDA,
  0x00004F_00031B_000301_801EDB_00006F_00031B_000301_801EDC_00004F_00031B_000300_801EDD_00006F,
  0x00031B_000300_801EDE_00004F_00031B_000309_801EDF_00006F_00031B_000309_801EE0_00004F_00031B,
  0x000303_801EE1_00006F_00031B_000303_801EE2_00004F_00031B_000323_801EE3_00006F_00031B_000323,
  0x801EE4_000055_000323_801EE5_000075_000323_801EE6_000055_000309_801EE7_000075_000309_801EE8,
  0x000055_00031B_000301_801EE9_000075_00031B_000301_801EEA_000055_00031B_000300_801EEB_000075,
  0x00031B_000300_801EEC_000055_00031B_000309_801EED_000075_00031B_000309_801EEE_000055_00031B,
  0x000303_801EEF_000075_00031B_000303_801EF0_000055_00031B_000323_801EF1_000075_00031B_000323,
  0x801EF2_000059_000300_801EF3_000079_000300_801EF4_000059_000323_801EF5_000079_000323_801EF6,
  0x000059_000309_801EF7_000079_000309_801EF8_000059_000303_801EF9_000079_000303_801F00_0003B1,
  0x000313_801F01_0003B1_000314_801F02_0003B1_000313_000300_801F03_0003B1_000314_000300_801F04,
  0x0003B1_000313_000301_801F05_0003B1_000314_000301_801F06_0003B1_000313_000342_801F07_0003B1,
  0x000314_000342_801F08_000391_000313_801F09_000391_000314_801F0A_000391_000313_000300_801F0B,
  0x000391_000314_000300_801F0C_000391_000313_000301_801F0D_000391_000314_000301_801F0E_000391,
  0x000313_000342_801F0F_000391_000314_000342_801F10_0003B5_000313_801F11_0003B5_000314_801F12,
  0x0003B5_000313_000300_801F13_0003B5_000314_000300_801F14_0003B5_000313_000301_801F15_0003B5,
  0x000314_000301_801F18_000395_000313_801F19_000395_000314_801F1A_000395_000313_000300_801F1B,
  0x000395_000314_000300_801F1C_000395_000313_000301_801F1D_000395_000314_000301_801F20_0003B7,
  0x000313_801F21_0003B7_000314_801F22_0003B7_000313_000300_801F23_0003B7_000314_000300_801F24,
  0x0003B7_000313_000301_801F25_0003B7_000314_000301_801F26_0003B7_000313_000342_801F27_0003B7,
  0x000314_000342_801F28_000397_000313_801F29_000397_000314_801F2A_000397_000313_000300_801F2B,
  0x000397_000314_000300_801F2C_000397_000313_000301_801F2D_000397_000314_000301_801F2E_000397,
  0x000313_000342_801F2F_000397_000314_000342_801F30_0003B9_000313_801F31_0003B9_000314_801F32,
  0x0003B9_000313_000300_801F33_0003B9_000314_000300_801F34_0003B9_000313_000301_801F35_0003B9,
  0x000314_000301_801F36_0003B9_000313_000342_801F37_0003B9_000314_000342_801F38_000399_000313,
  0x801F39_000399_000314_801F3A_000399_000313_000300_801F3B_000399_000314_000300_801F3C_000399,
  0x000313_000301_801F3D_000399_000314_000301_801F3E_000399_000313_000342_801F3F_000399_000314,
  0x000342_801F40_0003BF_000313_801F41_0003BF_000314_801F42_0003BF_000313_000300_801F43_0003BF,
  0x000314_000300_801F44_0003BF_000313_000301_801F45_0003BF_000314_000301_801F48_00039F_000313,
  0x801F49_00039F_000314_801F4A_00039F_000313_000300_801F4B_00039F_000314_000300_801F4C_00039F,
  0x000313_000301_801F4D_00039F_000314_000301_801F50_0003C5_000313_801F51_0003C5_000314_801F52,
  0x0003C5_000313_000300_801F53_0003C5_000314_000300_801F54_0003C5_000313_000301_801F55_0003C5,
  0x000314_000301_801F56_0003C5_000313_000342_801F57_0003C5_000314_000342_801F59_0003A5_000314,
  0x801F5B_0003A5_000314_000300_801F5D_0003A5_000314_000301_801F5F_0003A5_000314_000342_801F60,
  0x0003C9_000313_801F61_0003C9_000314_801F62_0003C9_000313_000300_801F63_0003C9_000314_000300,
  0x801F64_0003C9_000313_000301_801F65_0003C9_000314_000301_801F66_0003C9_000313_000342_801F67,
  0x0003C9_000314_000342_801F68_0003A9_000313_801F69_0003A9_000314_801F6A_0003A9_000313_000300,
  0x801F6B_0003A9_000314_000300_801F6C_0003A9_000313_000301_801F6D_0003A9_000314_000301_801F6E,
  0x0003A9_000313_000342_801F6F_0003A9_000314_000342_801F70_0003B1_000300_801F71_0003B1_000301,
  0x801F72_0003B5_000300_801F73_0003B5_000301_801F74_0003B7_000300_801F75_0003B7_000301_801F76,
  0x0003B9_000300_801F77_0003B9_000301_801F78_0003BF_000300_801F79_0003BF_000301_801F7A_0003C5,
  0x000300_801F7B_0003C5_000301_801F7C_0003C9_000300_801F7D_0003C9_000301_801F80_0003B1_000313,
  0x000345_801F81_0003B1_000314_000345_801F82_0003B1_000313_000300_000345_801F83_0003B1_000314,
  0x000300_000345_801F84_0003B1_000313_000301_000345_801F85_0003B1_000314_000301_000345_801F86,
  0x0003B1_000313_000342_000345_801F87_0003B1_000314_000342_000345_801F88_000391_000313_000345,
  0x801F89_000391_000314_000345_801F8A_000391_000313_000300_000345_801F8B_000391_000314_000300,
  0x000345_801F8C_000391_000313_000301_000345_801F8D_000391_000314_000301_000345_801F8E_000391,
  0x000313_000342_000345_801F8F_000391_000314_000342_000345_801F90_0003B7_000313_000345_801F91,
  0x0003B7_000314_000345_801F92_0003B7_000313_000300_000345_801F93_0003B7_000314_000300_000345,
  0x801F94_0003B7_000313_000301_000345_801F95_0003B7_000314_000301_000345_801F96_0003B7_000313,
  0x000342_000345_801F97_0003B7_000314_000342_000345_801F98_000397_000313_000345_801F99_000397,
  0x000314_000345_801F9A_000397_000313_000300_000345_801F9B_000397_000314_000300_000345_801F9C,
  0x000397_000313_000301_000345_801F9D_000397_000314_000301_000345_801F9E_000397_000313_000342,
  0x000345_801F9F_000397_000314_000342_000345_801FA0_0003C9_000313_000345_801FA1_0003C9_000314,
  0x000345_801FA2_0003C9_000313_000300_000345_801FA3_0003C9_000314_000300_000345_801FA4_0003C9,
  0x000313_000301_000345_801FA5_0003C9_000314_000301_000345_801FA6_0003C9_000313_000342_000345,
  0x801FA7_0003C9_000314_000342_000345_801FA8_0003A9_000313_000345_801FA9_0003A9_000314_000345,
  0x801FAA_0003A9_000313_000300_000345_801FAB_0003A9_000314_000300_000345_801FAC_0003A9_000313,
  0x000301_000345_801FAD_0003A9_000314_000301_000345_801FAE_0003A9_000313_000342_000345_801FAF,
  0x0003A9_000314_000342_000345_801FB0_0003B1_000306_801FB1_0003B1_000304_801FB2_0003B1_000300,
  0x000345_801FB3_0003B1_000345_801FB4_0003B1_000301_000345_801FB6_0003B1_000342_801FB7_0003B1,
  0x000342_000345_801FB8_000391_000306_801FB9_000391_000304_801FBA_000391_000300_801FBB_000391,
  0x000301_801FBC_000391_000345_801FBE_0003B9_801FC1_0000A8_000342_801FC2_0003B7_000300_000345,
  0x801FC3_0003B7_000345_801FC4_0003B7_000301_000345_801FC6_0003B7_000342_801FC7_0003B7_000342,
  0x000345_801FC8_000395_000300_801FC9_000395_000301_801FCA_000397_000300_801FCB_000397_000301,
  0x801FCC_000397_000345_801FCD_001FBF_000300_801FCE_001FBF_000301_801FCF_001FBF_000342_801FD0,
  0x0003B9_000306_801FD1_0003B9_000304_801FD2_0003B9_000308_000300_801FD3_0003B9_000308_000301,
  0x801FD6_0003B9_000342_801FD7_0003B9_000308_000342_801FD8_000399_000306_801FD9_000399_000304,
  0x801FDA_000399_000300_801FDB_000399_000301_801FDD_001FFE_000300_801FDE_001FFE_000301_801FDF,
  0x001FFE_000342_801FE0_0003C5_000306_801FE1_0003C5_000304_801FE2_0003C5_000308_000300_801FE3,
  0x0003C5_000308_000301_801FE4_0003C1_000313_801FE5_0003C1_000314_801FE6_0003C5_000342_801FE7,
  0x0003C5_000308_000342_801FE8_0003A5_000306_801FE9_0003A5_000304_801FEA_0003A5_000300_801FEB,
  0x0003A5_000301_801FEC_0003A1_000314_801FED_0000A8_000300_801FEE_0000A8_000301_801FEF_000060,
  0x801FF2_0003C9_000300_000345_801FF3_0003C9_000345_801FF4_0003C9_000301_000345_801FF6_0003C9,
  0x000342_801FF7_0003C9_000342_000345_801FF8_00039F_000300_801FF9_00039F_000301_801FFA_0003A9,
  0x000300_801FFB_0003A9_000301_801FFC_0003A9_000345_801FFD_0000B4_802000_802001_002002_802126,
  0x0003A9_80212A_00004B_80212B_000041_00030A_80219A_002190_000338_80219B_002192_000338_8021AE,
  0x002194_000338_8021CD_0021D0_000338_8021CE_0021D4_000338_8021CF_0021D2_000338_802204_002203,
  0x000338_802209_002208_000338_80220C_00220B_000338_802224_002223_000338_802226_002225_000338,
  0x802241_00223C_000338_802244_002243_000338_802247_002245_000338_802249_002248_000338_802260,
  0x00003D_000338_802262_002261_000338_80226D_00224D_000338_80226E_00003C_000338_80226F_00003E,
  0x000338_802270_002264_000338_802271_002265_000338_802274_002272_000338_802275_002273_000338,
  0x802278_002276_000338_802279_002277_000338_802280_00227A_000338_802281_00227B_000338_802284,
  0x002282_000338_802285_002283_000338_802288_002286_000338_802289_002287_000338_8022AC_0022A2,
  0x000338_8022AD_0022A8_000338_8022AE_0022A9_000338_8022AF_0022AB_000338_8022E0_00227C_000338,
  0x8022E1_00227D_000338_8022E2_002291_000338_8022E3_002292_000338_8022EA_0022B2_000338_8022EB,
  0x0022B3_000338_8022EC_0022B4_000338_8022ED_0022B5_000338_802329_80232A_003008_802ADC_002ADD,
  0x000338_80304C_00304B_003099_80304E_00304D_003099_803050_00304F_003099_803052_003051_003099,
  0x803054_003053_003099_803056_003055_003099_803058_003057_003099_80305A_003059_003099_80305C,
  0x00305B_003099_80305E_00305D_003099_803060_00305F_003099_803062_003061_003099_803065_003064,
  0x003099_803067_003066_003099_803069_003068_003099_803070_00306F_003099_803071_00306F_00309A,
  0x803073_003072_003099_803074_003072_00309A_803076_003075_003099_803077_003075_00309A_803079,
  0x003078_003099_80307A_003078_00309A_80307C_00307B_003099_80307D_00307B_00309A_803094_003046,
  0x003099_80309E_00309D_003099_8030AC_0030AB_003099_8030AE_0030AD_003099_8030B0_0030AF_003099,
  0x8030B2_0030B1_003099_8030B4_0030B3_003099_8030B6_0030B5_003099_8030B8_0030B7_003099_8030BA,
  0x0030B9_003099_8030BC_0030BB_003099_8030BE_0030BD_003099_8030C0_0030BF_003099_8030C2_0030C1,
  0x003099_8030C5_0030C4_003099_8030C7_0030C6_003099_8030C9_0030C8_003099_8030D0_0030CF_003099,
  0x8030D1_0030CF_00309A_8030D3_0030D2_003099_8030D4_0030D2_00309A_8030D6_0030D5_003099_8030D7,
  0x0030D5_00309A_8030D9_0030D8_003099_8030DA_0030D8_00309A_8030DC_0030DB_003099_8030DD_0030DB,
  0x00309A_8030F4_0030A6_003099_8030F7_0030EF_003099_8030F8_0030F0_003099_8030F9_0030F1_003099,
  0x8030FA_0030F2_003099_8030FE_0030FD_003099_80F900_008C48_80F901_0066F4_80F902_008ECA_80F903,
  0x008CC8_80F904_006ED1_80F905_004E32_80F906_0053E5_80F907_009F9C_80F908_009F9C_80F909_005951,
  0x80F90A_0091D1_80F90B_005587_80F90C_005948_80F90D_0061F6_80F90E_007669_80F90F_007F85_80F910,
  0x00863F_80F911_0087BA_80F912_0088F8_80F913_00908F_80F914_006A02_80F915_006D1B_80F916_0070D9,
  0x80F917_0073DE_80F918_00843D_80F919_00916A_80F91A_0099F1_80F91B_004E82_80F91C_005375_80F91D,
  0x006B04_80F91E_00721B_80F91F_00862D_80F920_009E1E_80F921_005D50_80F922_006FEB_80F923_0085CD,
  0x80F924_008964_80F925_0062C9_80F926_0081D8_80F927_00881F_80F928_005ECA_80F929_006717_80F92A,
  0x006D6A_80F92B_0072FC_80F92C_0090CE_80F92D_004F86_80F92E_0051B7_80F92F_0052DE_80F930_0064C4,
  0x80F931_006AD3_80F932_007210_80F933_0076E7_80F934_008001_80F935_008606_80F936_00865C_80F937,
  0x008DEF_80F938_009732_80F939_009B6F_80F93A_009DFA_80F93B_00788C_80F93C_00797F_80F93D_007DA0,
  0x80F93E_0083C9_80F93F_009304_80F940_009E7F_80F941_008AD6_80F942_0058DF_80F943_005F04_80F944,
  0x007C60_80F945_00807E_80F946_007262_80F947_0078CA_80F948_008CC2_80F949_0096F7_80F94A_0058D8,
  0x80F94B_005C62_80F94C_006A13_80F94D_006DDA_80F94E_006F0F_80F94F_007D2F_80F950_007E37_80F951,
  0x00964B_80F952_0052D2_80F953_00808B_80F954_0051DC_80F955_0051CC_80F956_007A1C_80F957_007DBE,
  0x80F958_0083F1_80F959_009675_80F95A_008B80_80F95B_0062CF_80F95C_006A02_80F95D_008AFE_80F95E,
  0x004E39_80F95F_005BE7_80F960_006012_80F961_007387_80F962_007570_80F963_005317_80F964_0078FB,
  0x80F965_004FBF_80F966_005FA9_80F967_004E0D_80F968_006CCC_80F969_006578_80F96A_007D22_80F96B,
  0x0053C3_80F96C_00585E_80F96D_007701_80F96E_008449_80F96F_008AAA_80F970_006BBA_80F971_008FB0,
  0x80F972_006C88_80F973_0062FE_80F974_0082E5_80F975_0063A0_80F976_007565_80F977_004EAE_80F978,
  0x005169_80F979_0051C9_80F97A_006881_80F97B_007CE7_80F97C_00826F_80F97D_008AD2_80F97E_0091CF,
  0x80F97F_0052F5_80F980_005442_80F981_005973_80F982_005EEC_80F983_0065C5_80F984_006FFE_80F985,
  0x00792A_80F986_0095AD_80F987_009A6A_80F988_009E97_80F989_009ECE_80F98A_00529B_80F98B_0066C6,
  0x80F98C_006B77_80F98D_008F62_80F98E_005E74_80F98F_006190_80F990_006200_80F991_00649A_80F992,
  0x006F23_80F993_007149_80F994_007489_80F995_0079CA_80F996_007DF4_80F997_00806F_80F998_008F26,
  0x80F999_0084EE_80F99A_009023_80F99B_00934A_80F99C_005217_80F99D_0052A3_80F99E_0054BD_80F99F,
  0x0070C8_80F9A0_0088C2_80F9A1_008AAA_80F9A2_005EC9_80F9A3_005FF5_80F9A4_00637B_80F9A5_006BAE,
  0x80F9A6_007C3E_80F9A7_007375_80F9A8_004EE4_80F9A9_0056F9_80F9AA_005BE7_80F9AB_005DBA_80F9AC,
  0x00601C_80F9AD_0073B2_80F9AE_007469_80F9AF_007F9A_80F9B0_008046_80F9B1_009234_80F9B2_0096F6,
  0x80F9B3_009748_80F9B4_009818_80F9B5_004F8B_80F9B6_0079AE_80F9B7_0091B4_80F9B8_0096B8_80F9B9,
  0x0060E1_80F9BA_004E86_80F9BB_0050DA_80F9BC_005BEE_80F9BD_005C3F_80F9BE_006599_80F9BF_006A02,
  0x80F9C0_0071CE_80F9C1_007642_80F9C2_0084FC_80F9C3_00907C_80F9C4_009F8D_80F9C5_006688_80F9C6,
  0x00962E_80F9C7_005289_80F9C8_00677B_80F9C9_0067F3_80F9CA_006D41_80F9CB_006E9C_80F9CC_007409,
  0x80F9CD_007559_80F9CE_00786B_80F9CF_007D10_80F9D0_00985E_80F9D1_00516D_80F9D2_00622E_80F9D3,
  0x009678_80F9D4_00502B_80F9D5_005D19_80F9D6_006DEA_80F9D7_008F2A_80F9D8_005F8B_80F9D9_006144,
  0x80F9DA_006817_80F9DB_007387_80F9DC_009686_80F9DD_005229_80F9DE_00540F_80F9DF_005C65_80F9E0,
  0x006613_80F9E1_00674E_80F9E2_0068A8_80F9E3_006CE5_80F9E4_007406_80F9E5_0075E2_80F9E6_007F79,
  0x80F9E7_0088CF_80F9E8_0088E1_80F9E9_0091CC_80F9EA_0096E2_80F9EB_00533F_80F9EC_006EBA_80F9ED,
  0x00541D_80F9EE_0071D0_80F9EF_007498_80F9F0_0085FA_80F9F1_0096A3_80F9F2_009C57_80F9F3_009E9F,
  0x80F9F4_006797_80F9F5_006DCB_80F9F6_0081E8_80F9F7_007ACB_80F9F8_007B20_80F9F9_007C92_80F9FA,
  0x0072C0_80F9FB_007099_80F9FC_008B58_80F9FD_004EC0_80F9FE_008336_80F9FF_00523A_80FA00_005207,
  0x80FA01_005EA6_80FA02_0062D3_80FA03_007CD6_80FA04_005B85_80FA05_006D1E_80FA06_0066B4_80FA07,
  0x008F3B_80FA08_00884C_80FA09_00964D_80FA0A_00898B_80FA0B_005ED3_80FA0C_005140_80FA0D_0055C0,
  0x80FA10_00585A_80FA12_006674_80FA15_0051DE_80FA16_00732A_80FA17_0076CA_80FA18_00793C_80FA19,
  0x00795E_80FA1A_007965_80FA1B_00798F_80FA1C_009756_80FA1D_007CBE_80FA1E_007FBD_80FA20_008612,
  0x80FA22_008AF8_80FA25_009038_80FA26_0090FD_80FA2A_0098EF_80FA2B_0098FC_80FA2C_009928_80FA2D,
  0x009DB4_80FA2E_0090DE_80FA2F_0096B7_80FA30_004FAE_80FA31_0050E7_80FA32_00514D_80FA33_0052C9,
  0x80FA34_0052E4_80FA35_005351_80FA36_00559D_80FA37_005606_80FA38_005668_80FA39_005840_80FA3A,
  0x0058A8_80FA3B_005C64_80FA3C_005C6E_80FA3D_006094_80FA3E_006168_80FA3F_00618E_80FA40_0061F2,
  0x80FA41_00654F_80FA42_0065E2_80FA43_006691_80FA44_006885_80FA45_006D77_80FA46_006E1A_80FA47,
  0x006F22_80FA48_00716E_80FA49_00722B_80FA4A_007422_80FA4B_007891_80FA4C_00793E_80FA4D_007949,
  0x80FA4E_007948_80FA4F_007950_80FA50_007956_80FA51_00795D_80FA52_80FA53_00798D_80FA54_007A40,
  0x80FA55_007A81_80FA56_007BC0_80FA57_007DF4_80FA58_007E09_80FA59_007E41_80FA5A_007F72_80FA5B,
  0x008005_80FA5C_0081ED_80FA5D_008279_80FA5E_008279_80FA5F_008457_80FA60_008910_80FA61_008996,
  0x80FA62_008B01_80FA63_008B39_80FA64_008CD3_80FA65_008D08_80FA66_008FB6_80FA67_009038_80FA68,
  0x0096E3_80FA69_0097FF_80FA6A_00983B_80FA6B_006075_80FA6C_0242EE_80FA6D_008218_80FA70_004E26,
  0x80FA71_0051B5_80FA72_005168_80FA73_004F80_80FA74_005145_80FA75_005180_80FA76_0052C7_80FA77,
  0x0052FA_80FA78_00559D_80FA79_005555_80FA7A_005599_80FA7B_0055E2_80FA7C_00585A_80FA7D_0058B3,
  0x80FA7E_005944_80FA7F_005954_80FA80_005A62_80FA81_005B28_80FA82_005ED2_80FA83_005ED9_80FA84,
  0x005F69_80FA85_005FAD_80FA86_0060D8_80FA87_00614E_80FA88_006108_80FA89_00618E_80FA8A_006160,
  0x80FA8B_0061F2_80FA8C_006234_80FA8D_0063C4_80FA8E_00641C_80FA8F_006452_80FA90_006556_80FA91,
  0x006674_80FA92_006717_80FA93_00671B_80FA94_006756_80FA95_006B79_80FA96_006BBA_80FA97_006D41,
  0x80FA98_006EDB_80FA99_006ECB_80FA9A_006F22_80FA9B_00701E_80FA9C_00716E_80FA9D_0077A7_80FA9E,
  0x007235_80FA9F_0072AF_80FAA0_00732A_80FAA1_007471_80FAA2_007506_80FAA3_00753B_80FAA4_00761D,
  0x80FAA5_00761F_80FAA6_0076CA_80FAA7_0076DB_80FAA8_0076F4_80FAA9_00774A_80FAAA_007740_80FAAB,
  0x0078CC_80FAAC_007AB1_80FAAD_007BC0_80FAAE_007C7B_80FAAF_007D5B_80FAB0_007DF4_80FAB1_007F3E,
  0x80FAB2_008005_80FAB3_008352_80FAB4_0083EF_80FAB5_008779_80FAB6_008941_80FAB7_008986_80FAB8,
  0x008996_80FAB9_008ABF_80FABA_008AF8_80FABB_008ACB_80FABC_008B01_80FABD_008AFE_80FABE_008AED,
  0x80FABF_008B39_80FAC0_008B8A_80FAC1_008D08_80FAC2_008F38_80FAC3_009072_80FAC4_009199_80FAC5,
  0x009276_80FAC6_00967C_80FAC7_0096E3_80FAC8_009756_80FAC9_0097DB_80FACA_0097FF_80FACB_00980B,
  0x80FACC_00983B_80FACD_009B12_80FACE_009F9C_80FACF_02284A_80FAD0_022844_80FAD1_0233D5_80FAD2,
  0x003B9D_80FAD3_004018_80FAD4_004039_80FAD5_025249_80FAD6_025CD0_80FAD7_027ED3_80FAD8_009F43,
  0x80FAD9_009F8E_80FB1D_0005D9_0005B4_80FB1F_0005F2_0005B7_80FB2A_0005E9_0005C1_80FB2B_0005E9,
  0x0005C2_80FB2C_0005E9_0005BC_0005C1_80FB2D_0005E9_0005BC_0005C2_80FB2E_0005D0_0005B7_80FB2F,
  0x0005D0_0005B8_80FB30_0005D0_0005BC_80FB31_0005D1_0005BC_80FB32_0005D2_0005BC_80FB33_0005D3,
  0x0005BC_80FB34_0005D4_0005BC_80FB35_0005D5_0005BC_80FB36_0005D6_0005BC_80FB38_0005D8_0005BC,
  0x80FB39_0005D9_0005BC_80FB3A_0005DA_0005BC_80FB3B_0005DB_0005BC_80FB3C_0005DC_0005BC_80FB3E,
  0x0005DE_0005BC_80FB40_0005E0_0005BC_80FB41_0005E1_0005BC_80FB43_0005E3_0005BC_80FB44_0005E4,
  0x0005BC_80FB46_0005E6_0005BC_80FB47_0005E7_0005BC_80FB48_0005E8_0005BC_80FB49_0005E9_0005BC,
  0x80FB4A_0005EA_0005BC_80FB4B_0005D5_0005B9_80FB4C_0005D1_0005BF_80FB4D_0005DB_0005BF_80FB4E,
  0x0005E4_0005BF_8105C9_0105D2_000307_8105E4_0105DA_000307_81109A_011099_0110BA_81109C_01109B,
  0x0110BA_8110AB_0110A5_0110BA_81112E_011131_011127_81112F_011132_011127_81134B_011347_01133E,
  0x81134C_011347_011357_811383_011382_0113C9_811385_011384_0113BB_81138E_01138B_0113C2_811391,
  0x011390_0113C9_8113C5_0113C2_0113C2_8113C7_0113C2_0113B8_8113C8_0113C2_0113C9_8114BB_0114B9,
  0x0114BA_8114BC_0114B9_0114B0_8114BE_0114B9_0114BD_8115BA_0115B8_0115AF_8115BB_0115B9_0115AF,
  0x811938_011935_011930_816121_01611E_01611E_816122_01611E_016129_816123_01611E_01611F_816124,
  0x016129_01611F_816125_01611E_016120_816126_01611E_01611E_01611F_816127_01611E_016129_01611F,
  0x816128_01611E_01611E_016120_816D68_016D67_016D67_816D69_016D63_016D67_816D6A_016D63_016D67,
  0x016D67_81D15E_01D157_01D165_81D15F_01D158_01D165_81D160_01D158_01D165_01D16E_81D161_01D158,
  0x01D165_01D16F_81D162_01D158_01D165_01D170_81D163_01D158_01D165_01D171_81D164_01D158_01D165,
  0x01D172_81D1BB_01D1B9_01D165_81D1BC_01D1BA_01D165_81D1BD_01D1B9_01D165_01D16E_81D1BE_01D1BA,
  0x01D165_01D16E_81D1BF_01D1B9_01D165_01D16F_81D1C0_01D1BA_01D165_01D16F_82F800_004E3D_82F801,
  0x004E38_82F802_004E41_82F803_020122_82F804_004F60_82F805_004FAE_82F806_004FBB_82F807_005002,
  0x82F808_00507A_82F809_005099_82F80A_0050E7_82F80B_0050CF_82F80C_00349E_82F80D_02063A_82F80E,
  0x00514D_82F80F_005154_82F810_005164_82F811_005177_82F812_02051C_82F813_0034B9_82F814_005167,
  0x82F815_00518D_82F816_02054B_82F817_005197_82F818_0051A4_82F819_004ECC_82F81A_0051AC_82F81B,
  0x0051B5_82F81C_0291DF_82F81D_0051F5_82F81E_005203_82F81F_0034DF_82F820_00523B_82F821_005246,
  0x82F822_005272_82F823_005277_82F824_003515_82F825_0052C7_82F826_0052C9_82F827_0052E4_82F828,
  0x0052FA_82F829_82F82A_005305_82F82B_005317_82F82C_005349_82F82D_005351_82F82E_00535A_82F82F,
  0x005373_82F830_00537D_82F831_00537F_82F832_00537F_82F833_00537F_82F834_020A2C_82F835_007070,
  0x82F836_0053CA_82F837_0053DF_82F838_020B63_82F839_0053EB_82F83A_0053F1_82F83B_005406_82F83C,
  0x00549E_82F83D_005438_82F83E_005448_82F83F_005468_82F840_0054A2_82F841_0054F6_82F842_005510,
  0x82F843_005553_82F844_005563_82F845_005584_82F846_005584_82F847_005599_82F848_0055AB_82F849,
  0x0055B3_82F84A_0055C2_82F84B_005716_82F84C_005606_82F84D_005717_82F84E_005651_82F84F_005674,
  0x82F850_005207_82F851_0058EE_82F852_0057CE_82F853_0057F4_82F854_00580D_82F855_00578B_82F856,
  0x005832_82F857_005831_82F858_0058AC_82F859_0214E4_82F85A_0058F2_82F85B_0058F7_82F85C_005906,
  0x82F85D_00591A_82F85E_005922_82F85F_005962_82F860_0216A8_82F861_0216EA_82F862_0059EC_82F863,
  0x005A1B_82F864_005A27_82F865_0059D8_82F866_005A66_82F867_0036EE_82F868_0036FC_82F869_005B08,
  0x82F86A_005B3E_82F86B_005B3E_82F86C_0219C8_82F86D_005BC3_82F86E_005BD8_82F86F_005BE7_82F870,
  0x005BF3_82F871_021B18_82F872_005BFF_82F873_005C06_82F874_005F53_82F875_005C22_82F876_003781,
  0x82F877_005C60_82F878_005C6E_82F879_005CC0_82F87A_005C8D_82F87B_021DE4_82F87C_005D43_82F87D,
  0x021DE6_82F87E_005D6E_82F87F_005D6B_82F880_005D7C_82F881_82F882_005DE1_82F883_00382F_82F884,
  0x005DFD_82F885_005E28_82F886_005E3D_82F887_005E69_82F888_003862_82F889_022183_82F88A_00387C,
  0x82F88B_005EB0_82F88C_005EB3_82F88D_005EB6_82F88E_005ECA_82F88F_02A392_82F890_005EFE_82F891,
  0x022331_82F892_022331_82F893_008201_82F894_005F22_82F895_005F22_82F896_0038C7_82F897_0232B8,
  0x82F898_0261DA_82F899_005F62_82F89A_005F6B_82F89B_0038E3_82F89C_005F9A_82F89D_005FCD_82F89E,
  0x005FD7_82F89F_005FF9_82F8A0_006081_82F8A1_00393A_82F8A2_00391C_82F8A3_006094_82F8A4_0226D4,
  0x82F8A5_0060C7_82F8A6_006148_82F8A7_00614C_82F8A8_00614E_82F8A9_00614C_82F8AA_00617A_82F8AB,
  0x00618E_82F8AC_0061B2_82F8AD_0061A4_82F8AE_0061AF_82F8AF_0061DE_82F8B0_0061F2_82F8B1_0061F6,
  0x82F8B2_006210_82F8B3_00621B_82F8B4_00625D_82F8B5_0062B1_82F8B6_0062D4_82F8B7_006350_82F8B8,
  0x022B0C_82F8B9_00633D_82F8BA_0062FC_82F8BB_006368_82F8BC_006383_82F8BD_0063E4_82F8BE_022BF1,
  0x82F8BF_006422_82F8C0_0063C5_82F8C1_0063A9_82F8C2_003A2E_82F8C3_006469_82F8C4_00647E_82F8C5,
  0x00649D_82F8C6_006477_82F8C7_003A6C_82F8C8_00654F_82F8C9_00656C_82F8CA_02300A_82F8CB_0065E3,
  0x82F8CC_0066F8_82F8CD_006649_82F8CE_003B19_82F8CF_006691_82F8D0_003B08_82F8D1_003AE4_82F8D2,
  0x005192_82F8D3_005195_82F8D4_006700_82F8D5_00669C_82F8D6_0080AD_82F8D7_0043D9_82F8D8_006717,
  0x82F8D9_00671B_82F8DA_006721_82F8DB_00675E_82F8DC_006753_82F8DD_0233C3_82F8DE_003B49_82F8DF,
  0x0067FA_82F8E0_006785_82F8E1_006852_82F8E2_006885_82F8E3_02346D_82F8E4_00688E_82F8E5_00681F,
  0x82F8E6_006914_82F8E7_003B9D_82F8E8_006942_82F8E9_0069A3_82F8EA_0069EA_82F8EB_006AA8_82F8EC,
  0x0236A3_82F8ED_006ADB_82F8EE_003C18_82F8EF_006B21_82F8F0_0238A7_82F8F1_006B54_82F8F2_003C4E,
  0x82F8F3_006B72_82F8F4_006B9F_82F8F5_82F8F6_006BBA_82F8F7_023A8D_82F8F8_021D0B_82F8F9_023AFA,
  0x82F8FA_006C4E_82F8FB_023CBC_82F8FC_006CBF_82F8FD_006CCD_82F8FE_006C67_82F8FF_006D16_82F900,
  0x006D3E_82F901_006D77_82F902_006D41_82F903_006D69_82F904_006D78_82F905_006D85_82F906_023D1E,
  0x82F907_006D34_82F908_006E2F_82F909_006E6E_82F90A_003D33_82F90B_006ECB_82F90C_006EC7_82F90D,
  0x023ED1_82F90E_006DF9_82F90F_006F6E_82F910_023F5E_82F911_023F8E_82F912_006FC6_82F913_007039,
  0x82F914_00701E_82F915_00701B_82F916_003D96_82F917_00704A_82F918_00707D_82F919_007077_82F91A,
  0x0070AD_82F91B_020525_82F91C_007145_82F91D_024263_82F91E_00719C_82F91F_0243AB_82F920_007228,
  0x82F921_007235_82F922_007250_82F923_024608_82F924_007280_82F925_007295_82F926_024735_82F927,
  0x024814_82F928_00737A_82F929_00738B_82F92A_003EAC_82F92B_0073A5_82F92C_003EB8_82F92D_003EB8,
  0x82F92E_007447_82F92F_00745C_82F930_007471_82F931_007485_82F932_0074CA_82F933_003F1B_82F934,
  0x007524_82F935_024C36_82F936_00753E_82F937_024C92_82F938_007570_82F939_02219F_82F93A_007610,
  0x82F93B_024FA1_82F93C_024FB8_82F93D_025044_82F93E_003FFC_82F93F_004008_82F940_0076F4_82F941,
  0x0250F3_82F942_0250F2_82F943_025119_82F944_025133_82F945_82F946_00771E_82F947_00771F_82F948,
  0x00774A_82F949_004039_82F94A_00778B_82F94B_004046_82F94C_004096_82F94D_02541D_82F94E_00784E,
  0x82F94F_00788C_82F950_0078CC_82F951_0040E3_82F952_025626_82F953_007956_82F954_02569A_82F955,
  0x0256C5_82F956_00798F_82F957_0079EB_82F958_00412F_82F959_007A40_82F95A_007A4A_82F95B_007A4F,
  0x82F95C_02597C_82F95D_025AA7_82F95E_025AA7_82F95F_007AEE_82F960_004202_82F961_025BAB_82F962,
  0x007BC6_82F963_007BC9_82F964_004227_82F965_025C80_82F966_007CD2_82F967_0042A0_82F968_007CE8,
  0x82F969_007CE3_82F96A_007D00_82F96B_025F86_82F96C_007D63_82F96D_004301_82F96E_007DC7_82F96F,
  0x007E02_82F970_007E45_82F971_004334_82F972_026228_82F973_026247_82F974_004359_82F975_0262D9,
  0x82F976_007F7A_82F977_02633E_82F978_007F95_82F979_007FFA_82F97A_008005_82F97B_0264DA_82F97C,
  0x026523_82F97D_008060_82F97E_0265A8_82F97F_008070_82F980_02335F_82F981_0043D5_82F982_0080B2,
  0x82F983_008103_82F984_00440B_82F985_00813E_82F986_005AB5_82F987_0267A7_82F988_0267B5_82F989,
  0x023393_82F98A_02339C_82F98B_008201_82F98C_008204_82F98D_008F9E_82F98E_00446B_82F98F_008291,
  0x82F990_00828B_82F991_00829D_82F992_0052B3_82F993_0082B1_82F994_0082B3_82F995_0082BD_82F996,
  0x0082E6_82F997_026B3C_82F998_0082E5_82F999_00831D_82F99A_008363_82F99B_0083AD_82F99C_008323,
  0x82F99D_0083BD_82F99E_0083E7_82F99F_008457_82F9A0_008353_82F9A1_0083CA_82F9A2_0083CC_82F9A3,
  0x0083DC_82F9A4_026C36_82F9A5_026D6B_82F9A6_026CD5_82F9A7_00452B_82F9A8_0084F1_82F9A9_0084F3,
  0x82F9AA_008516_82F9AB_0273CA_82F9AC_008564_82F9AD_026F2C_82F9AE_00455D_82F9AF_004561_82F9B0,
  0x026FB1_82F9B1_0270D2_82F9B2_00456B_82F9B3_008650_82F9B4_00865C_82F9B5_008667_82F9B6_008669,
  0x82F9B7_0086A9_82F9B8_008688_82F9B9_00870E_82F9BA_0086E2_82F9BB_008779_82F9BC_008728_82F9BD,
  0x00876B_82F9BE_008786_82F9BF_0045D7_82F9C0_0087E1_82F9C1_008801_82F9C2_0045F9_82F9C3_008860,
  0x82F9C4_008863_82F9C5_027667_82F9C6_0088D7_82F9C7_0088DE_82F9C8_004635_82F9C9_0088FA_82F9CA,
  0x0034BB_82F9CB_0278AE_82F9CC_027966_82F9CD_0046BE_82F9CE_0046C7_82F9CF_008AA0_82F9D0_008AED,
  0x82F9D1_008B8A_82F9D2_008C55_82F9D3_027CA8_82F9D4_008CAB_82F9D5_008CC1_82F9D6_008D1B_82F9D7,
  0x008D77_82F9D8_027F2F_82F9D9_020804_82F9DA_008DCB_82F9DB_008DBC_82F9DC_008DF0_82F9DD_0208DE,
  0x82F9DE_008ED4_82F9DF_008F38_82F9E0_0285D2_82F9E1_0285ED_82F9E2_009094_82F9E3_0090F1_82F9E4,
  0x009111_82F9E5_02872E_82F9E6_00911B_82F9E7_009238_82F9E8_82F9E9_0092D7_82F9EA_00927C_82F9EB,
  0x0093F9_82F9EC_009415_82F9ED_028BFA_82F9EE_00958B_82F9EF_004995_82F9F0_0095B7_82F9F1_028D77,
  0x82F9F2_0049E6_82F9F3_0096C3_82F9F4_005DB2_82F9F5_009723_82F9F6_029145_82F9F7_02921A_82F9F8,
  0x004A6E_82F9F9_004A76_82F9FA_0097E0_82F9FB_02940A_82F9FC_004AB2_82F9FD_029496_82F9FE_00980B,
  0x82F9FF_00980B_82FA00_009829_82FA01_0295B6_82FA02_0098E2_82FA03_004B33_82FA04_009929_82FA05,
  0x0099A7_82FA06_0099C2_82FA07_0099FE_82FA08_004BCE_82FA09_029B30_82FA0A_009B12_82FA0B_009C40,
  0x82FA0C_009CFD_82FA0D_004CCE_82FA0E_004CED_82FA0F_009D67_82FA10_02A0CE_82FA11_004CF8_82FA12,
  0x02A105_82FA13_02A20E_82FA14_02A291_82FA15_009EBB_82FA16_004D56_82FA17_009EF9_82FA18_009EFE,
  0x82FA19_009F05_82FA1A_009F0F_82FA1B_009F16_82FA1C_009F3B_82FA1D_02A600]

end Acrostic.Unicode
