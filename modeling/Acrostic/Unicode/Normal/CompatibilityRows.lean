import Acrostic.Unicode.Rows

namespace Acrostic.Unicode

-- Full compatibility decompositions that differ from the canonical ones
def compatibilityRows : List Nat := [
  0x8000A0_000020_8000A8_000020_000308_8000AA_000061_8000AF_000020_000304_8000B2_8000B3_000032,
  0x8000B4_000020_000301_8000B5_0003BC_8000B8_000020_000327_8000B9_000031_8000BA_00006F_8000BC,
  0x000031_002044_000034_8000BD_000031_002044_000032_8000BE_000033_002044_000034_800132_000049,
  0x00004A_800133_000069_00006A_80013F_00004C_0000B7_800140_00006C_0000B7_800149_0002BC_00006E,
  0x80017F_000073_8001C4_000044_00005A_00030C_8001C5_000044_00007A_00030C_8001C6_000064_00007A,
  0x00030C_8001C7_00004C_00004A_8001C8_00004C_00006A_8001C9_00006C_00006A_8001CA_00004E_00004A,
  0x8001CB_00004E_00006A_8001CC_00006E_00006A_8001F1_000044_00005A_8001F2_000044_00007A_8001F3,
  0x000064_00007A_8002B0_000068_8002B1_000266_8002B2_00006A_8002B3_000072_8002B4_000279_8002B5,
  0x00027B_8002B6_000281_8002B7_000077_8002B8_000079_8002D8_000020_000306_8002D9_000020_000307,
  0x8002DA_000020_00030A_8002DB_000020_000328_8002DC_000020_000303_8002DD_000020_00030B_8002E0,
  0x000263_8002E1_00006C_8002E2_000073_8002E3_000078_8002E4_000295_80037A_000020_000345_800384,
  0x000020_000301_800385_000020_000308_000301_8003D0_0003B2_8003D1_0003B8_8003D2_0003A5_8003D3,
  0x0003A5_000301_8003D4_0003A5_000308_8003D5_0003C6_8003D6_0003C0_8003F0_0003BA_8003F1_8003F2,
  0x0003C1_8003F4_000398_8003F5_0003B5_8003F9_0003A3_800587_000565_000582_800675_000627_000674,
  0x800676_000648_000674_800677_0006C7_000674_800678_00064A_000674_800E33_000E4D_000E32_800EB3,
  0x000ECD_000EB2_800EDC_000EAB_000E99_800EDD_000EAB_000EA1_800F0C_000F0B_800F77_000FB2_000F71,
  0x000F80_800F79_000FB3_000F71_000F80_8010FC_0010DC_801D2C_000041_801D2D_0000C6_801D2E_000042,
  0x801D30_801D31_000044_801D32_00018E_801D33_801D3A_000047_801D3C_00004F_801D3D_000222_801D3E,
  0x000050_801D3F_000052_801D40_801D41_000054_801D42_000057_801D43_000061_801D44_801D45_000250,
  0x801D46_001D02_801D47_000062_801D48_801D49_000064_801D4A_000259_801D4B_801D4C_00025B_801D4D,
  0x000067_801D4F_00006B_801D50_00006D_801D51_00014B_801D52_00006F_801D53_000254_801D54_801D55,
  0x001D16_801D56_000070_801D57_801D58_000074_801D59_001D1D_801D5A_00026F_801D5B_000076_801D5C,
  0x001D25_801D5D_801D5F_0003B2_801D60_801D61_0003C6_801D62_000069_801D63_000072_801D64_801D65,
  0x000075_801D66_801D67_0003B2_801D68_0003C1_801D69_801D6A_0003C6_801D78_00043D_801D9B_000252,
  0x801D9C_000063_801D9D_000255_801D9E_0000F0_801D9F_00025C_801DA0_000066_801DA1_00025F_801DA2,
  0x000261_801DA3_000265_801DA4_801DA6_000268_801DA7_001D7B_801DA8_00029D_801DA9_00026D_801DAA,
  0x001D85_801DAB_00029F_801DAC_000271_801DAD_000270_801DAE_801DB1_000272_801DB2_000278_801DB3,
  0x801DB4_000282_801DB5_0001AB_801DB6_801DB7_000289_801DB8_001D1C_801DB9_801DBA_00028B_801DBB,
  0x00007A_801DBC_801DBE_000290_801DBF_0003B8_801E9A_000061_0002BE_801E9B_000073_000307_801FBD,
  0x000020_000313_801FBF_000020_000313_801FC0_000020_000342_801FC1_000020_000308_000342_801FCD,
  0x000020_000313_000300_801FCE_000020_000313_000301_801FCF_000020_000313_000342_801FDD_000020,
  0x000314_000300_801FDE_000020_000314_000301_801FDF_000020_000314_000342_801FED_000020_000308,
  0x000300_801FEE_000020_000308_000301_801FFD_000020_000301_801FFE_000020_000314_802000_000020,
  0x802001_000020_802002_000020_802003_000020_802004_000020_802005_000020_802006_000020_802007,
  0x000020_802008_000020_802009_000020_80200A_000020_802011_002010_802017_000020_000333_802024,
  0x00002E_802025_00002E_00002E_802026_00002E_00002E_00002E_80202F_000020_802033_002032_002032,
  0x802034_002032_002032_002032_802036_002035_002035_802037_002035_002035_002035_80203C_000021,
  0x000021_80203E_000020_000305_802047_00003F_00003F_802048_00003F_000021_802049_000021_00003F,
  0x802057_002032_002032_002032_002032_80205F_000020_802070_000030_802071_000069_802074_802079,
  0x000034_80207A_00002B_80207B_002212_80207C_00003D_80207D_80207E_000028_80207F_00006E_802080,
  0x802089_000030_80208A_00002B_80208B_002212_80208C_00003D_80208D_80208E_000028_802090_000061,
  0x802091_000065_802092_00006F_802093_000078_802094_000259_802095_000068_802096_802099_00006B,
  0x80209A_000070_80209B_80209C_000073_80209D_000077_80209E_80209F_000079_8020A8_000052_000073,
  0x802100_000061_00002F_000063_802101_000061_00002F_000073_802102_000043_802103_0000B0_000043,
  0x802105_000063_00002F_00006F_802106_000063_00002F_000075_802107_000190_802109_0000B0_000046,
  0x80210A_000067_80210B_000048_80210C_000048_80210D_000048_80210E_000068_80210F_000127_802110,
  0x000049_802111_000049_802112_00004C_802113_00006C_802115_00004E_802116_00004E_00006F_802119,
  0x80211B_000050_80211C_000052_80211D_000052_802120_000053_00004D_802121_000054_000045_00004C,
  0x802122_000054_00004D_802124_00005A_802128_00005A_80212C_80212D_000042_80212F_000065_802130,
  0x802131_000045_802133_00004D_802134_00006F_802135_802138_0005D0_802139_000069_80213B_000046,
  0x000041_000058_80213C_0003C0_80213D_0003B3_80213E_000393_80213F_0003A0_802140_002211_802145,
  0x000044_802146_802147_000064_802148_802149_000069_802150_000031_002044_000037_802151_000031,
  0x002044_000039_802152_000031_002044_000031_000030_802153_000031_002044_000033_802154_000032,
  0x002044_000033_802155_000031_002044_000035_802156_000032_002044_000035_802157_000033_002044,
  0x000035_802158_000034_002044_000035_802159_000031_002044_000036_80215A_000035_002044_000036,
  0x80215B_000031_002044_000038_80215C_000033_002044_000038_80215D_000035_002044_000038_80215E,
  0x000037_002044_000038_80215F_000031_002044_802160_000049_802161_000049_000049_802162_000049,
  0x000049_000049_802163_000049_000056_802164_000056_802165_000056_000049_802166_000056_000049,
  0x000049_802167_000056_000049_000049_000049_802168_000049_000058_802169_000058_80216A_000058,
  0x000049_80216B_000058_000049_000049_80216C_00004C_80216D_80216E_000043_80216F_00004D_802170,
  0x000069_802171_000069_000069_802172_000069_000069_000069_802173_000069_000076_802174_000076,
  0x802175_000076_000069_802176_000076_000069_000069_802177_000076_000069_000069_000069_802178,
  0x000069_000078_802179_000078_80217A_000078_000069_80217B_000078_000069_000069_80217C_00006C,
  0x80217D_80217E_000063_80217F_00006D_802189_000030_002044_000033_80222C_00222B_00222B_80222D,
  0x00222B_00222B_00222B_80222F_00222E_00222E_802230_00222E_00222E_00222E_802460_802468_000031,
  0x802469_000031_000030_80246A_000031_000031_80246B_000031_000032_80246C_000031_000033_80246D,
  0x000031_000034_80246E_000031_000035_80246F_000031_000036_802470_000031_000037_802471_000031,
  0x000038_802472_000031_000039_802473_000032_000030_802474_000028_000031_000029_802475_000028,
  0x000032_000029_802476_000028_000033_000029_802477_000028_000034_000029_802478_000028_000035,
  0x000029_802479_000028_000036_000029_80247A_000028_000037_000029_80247B_000028_000038_000029,
  0x80247C_000028_000039_000029_80247D_000028_000031_000030_000029_80247E_000028_000031_000031,
  0x000029_80247F_000028_000031_000032_000029_802480_000028_000031_000033_000029_802481_000028,
  0x000031_000034_000029_802482_000028_000031_000035_000029_802483_000028_000031_000036_000029,
  0x802484_000028_000031_000037_000029_802485_000028_000031_000038_000029_802486_000028_000031,
  0x000039_000029_802487_000028_000032_000030_000029_802488_000031_00002E_802489_000032_00002E,
  0x80248A_000033_00002E_80248B_000034_00002E_80248C_000035_00002E_80248D_000036_00002E_80248E,
  0x000037_00002E_80248F_000038_00002E_802490_000039_00002E_802491_000031_000030_00002E_802492,
  0x000031_000031_00002E_802493_000031_000032_00002E_802494_000031_000033_00002E_802495_000031,
  0x000034_00002E_802496_000031_000035_00002E_802497_000031_000036_00002E_802498_000031_000037,
  0x00002E_802499_000031_000038_00002E_80249A_000031_000039_00002E_80249B_000032_000030_00002E,
  0x80249C_000028_000061_000029_80249D_000028_000062_000029_80249E_000028_000063_000029_80249F,
  0x000028_000064_000029_8024A0_000028_000065_000029_8024A1_000028_000066_000029_8024A2_000028,
  0x000067_000029_8024A3_000028_000068_000029_8024A4_000028_000069_000029_8024A5_000028_00006A,
  0x000029_8024A6_000028_00006B_000029_8024A7_000028_00006C_000029_8024A8_000028_00006D_000029,
  0x8024A9_000028_00006E_000029_8024AA_000028_00006F_000029_8024AB_000028_000070_000029_8024AC,
  0x000028_000071_000029_8024AD_000028_000072_000029_8024AE_000028_000073_000029_8024AF_000028,
  0x000074_000029_8024B0_000028_000075_000029_8024B1_000028_000076_000029_8024B2_000028_000077,
  0x000029_8024B3_000028_000078_000029_8024B4_000028_000079_000029_8024B5_000028_00007A_000029,
  0x8024B6_8024CF_000041_8024D0_8024E9_000061_8024EA_000030_802A0C_00222B_00222B_00222B_00222B,
  0x802A74_00003A_00003A_00003D_802A75_00003D_00003D_802A76_00003D_00003D_00003D_802C7C_00006A,
  0x802C7D_000056_802D6F_002D61_802E9F_006BCD_802EF3_009F9F_802F00_004E00_802F01_004E28_802F02,
  0x004E36_802F03_004E3F_802F04_004E59_802F05_004E85_802F06_004E8C_802F07_004EA0_802F08_004EBA,
  0x802F09_00513F_802F0A_005165_802F0B_00516B_802F0C_005182_802F0D_005196_802F0E_0051AB_802F0F,
  0x0051E0_802F10_0051F5_802F11_005200_802F12_00529B_802F13_0052F9_802F14_005315_802F15_00531A,
  0x802F16_005338_802F17_005341_802F18_00535C_802F19_005369_802F1A_005382_802F1B_0053B6_802F1C,
  0x0053C8_802F1D_0053E3_802F1E_0056D7_802F1F_00571F_802F20_0058EB_802F21_005902_802F22_00590A,
  0x802F23_005915_802F24_005927_802F25_005973_802F26_005B50_802F27_005B80_802F28_005BF8_802F29,
  0x005C0F_802F2A_005C22_802F2B_005C38_802F2C_005C6E_802F2D_005C71_802F2E_005DDB_802F2F_005DE5,
  0x802F30_005DF1_802F31_005DFE_802F32_005E72_802F33_005E7A_802F34_005E7F_802F35_005EF4_802F36,
  0x005EFE_802F37_005F0B_802F38_005F13_802F39_005F50_802F3A_005F61_802F3B_005F73_802F3C_005FC3,
  0x802F3D_006208_802F3E_006236_802F3F_00624B_802F40_00652F_802F41_006534_802F42_006587_802F43,
  0x006597_802F44_0065A4_802F45_0065B9_802F46_0065E0_802F47_0065E5_802F48_0066F0_802F49_006708,
  0x802F4A_006728_802F4B_006B20_802F4C_006B62_802F4D_006B79_802F4E_006BB3_802F4F_006BCB_802F50,
  0x006BD4_802F51_006BDB_802F52_006C0F_802F53_006C14_802F54_006C34_802F55_00706B_802F56_00722A,
  0x802F57_007236_802F58_00723B_802F59_00723F_802F5A_007247_802F5B_007259_802F5C_00725B_802F5D,
  0x0072AC_802F5E_007384_802F5F_007389_802F60_0074DC_802F61_0074E6_802F62_007518_802F63_00751F,
  0x802F64_007528_802F65_007530_802F66_00758B_802F67_007592_802F68_007676_802F69_00767D_802F6A,
  0x0076AE_802F6B_0076BF_802F6C_0076EE_802F6D_0077DB_802F6E_0077E2_802F6F_0077F3_802F70_00793A,
  0x802F71_0079B8_802F72_0079BE_802F73_007A74_802F74_007ACB_802F75_007AF9_802F76_007C73_802F77,
  0x007CF8_802F78_007F36_802F79_007F51_802F7A_007F8A_802F7B_007FBD_802F7C_008001_802F7D_00800C,
  0x802F7E_008012_802F7F_008033_802F80_00807F_802F81_008089_802F82_0081E3_802F83_0081EA_802F84,
  0x0081F3_802F85_0081FC_802F86_00820C_802F87_00821B_802F88_00821F_802F89_00826E_802F8A_008272,
  0x802F8B_008278_802F8C_00864D_802F8D_00866B_802F8E_008840_802F8F_00884C_802F90_008863_802F91,
  0x00897E_802F92_00898B_802F93_0089D2_802F94_008A00_802F95_008C37_802F96_008C46_802F97_008C55,
  0x802F98_008C78_802F99_008C9D_802F9A_008D64_802F9B_008D70_802F9C_008DB3_802F9D_008EAB_802F9E,
  0x008ECA_802F9F_008F9B_802FA0_008FB0_802FA1_008FB5_802FA2_009091_802FA3_009149_802FA4_0091C6,
  0x802FA5_0091CC_802FA6_0091D1_802FA7_009577_802FA8_009580_802FA9_00961C_802FAA_0096B6_802FAB,
  0x0096B9_802FAC_0096E8_802FAD_009751_802FAE_00975E_802FAF_009762_802FB0_009769_802FB1_0097CB,
  0x802FB2_0097ED_802FB3_0097F3_802FB4_009801_802FB5_0098A8_802FB6_0098DB_802FB7_0098DF_802FB8,
  0x009996_802FB9_009999_802FBA_0099AC_802FBB_009AA8_802FBC_009AD8_802FBD_009ADF_802FBE_009B25,
  0x802FBF_009B2F_802FC0_009B32_802FC1_009B3C_802FC2_009B5A_802FC3_009CE5_802FC4_009E75_802FC5,
  0x009E7F_802FC6_009EA5_802FC7_009EBB_802FC8_009EC3_802FC9_009ECD_802FCA_009ED1_802FCB_009EF9,
  0x802FCC_009EFD_802FCD_009F0E_802FCE_009F13_802FCF_009F20_802FD0_009F3B_802FD1_009F4A_802FD2,
  0x009F52_802FD3_009F8D_802FD4_009F9C_802FD5_009FA0_803000_000020_803036_003012_803038_005341,
  0x803039_80303A_005344_80309B_000020_003099_80309C_000020_00309A_80309F_003088_00308A_8030FF,
  0x0030B3_0030C8_803131_803132_001100_803133_0011AA_803134_001102_803135_803136_0011AC_803137,
  0x803139_001103_80313A_80313F_0011B0_803140_00111A_803141_803143_001106_803144_001121_803145,
  0x80314E_001109_80314F_803163_001161_803164_001160_803165_803166_001114_803167_803168_0011C7,
  0x803169_0011CC_80316A_0011CE_80316B_0011D3_80316C_0011D7_80316D_0011D9_80316E_00111C_80316F,
  0x0011DD_803170_0011DF_803171_803172_00111D_803173_001120_803174_803175_001122_803176_001127,
  0x803177_001129_803178_80317C_00112B_80317D_001132_80317E_001136_80317F_001140_803180_001147,
  0x803181_00114C_803182_803183_0011F1_803184_803186_001157_803187_803188_001184_803189_001188,
  0x80318A_80318B_001191_80318C_001194_80318D_00119E_80318E_0011A1_803192_004E00_803193_004E8C,
  0x803194_004E09_803195_0056DB_803196_004E0A_803197_004E2D_803198_004E0B_803199_007532_80319A,
  0x004E59_80319B_004E19_80319C_004E01_80319D_005929_80319E_005730_80319F_004EBA_803200_000028,
  0x001100_000029_803201_000028_001102_000029_803202_000028_001103_000029_803203_000028_001105,
  0x000029_803204_000028_001106_000029_803205_000028_001107_000029_803206_000028_001109_000029,
  0x803207_000028_00110B_000029_803208_000028_00110C_000029_803209_000028_00110E_000029_80320A,
  0x000028_00110F_000029_80320B_000028_001110_000029_80320C_000028_001111_000029_80320D_000028,
  0x001112_000029_80320E_000028_001100_001161_000029_80320F_000028_001102_001161_000029_803210,
  0x000028_001103_001161_000029_803211_000028_001105_001161_000029_803212_000028_001106_001161,
  0x000029_803213_000028_001107_001161_000029_803214_000028_001109_001161_000029_803215_000028,
  0x00110B_001161_000029_803216_000028_00110C_001161_000029_803217_000028_00110E_001161_000029,
  0x803218_000028_00110F_001161_000029_803219_000028_001110_001161_000029_80321A_000028_001111,
  0x001161_000029_80321B_000028_001112_001161_000029_80321C_000028_00110C_00116E_000029_80321D,
  0x000028_00110B_001169_00110C_001165_0011AB_000029_80321E_000028_00110B_001169_001112_00116E,
  0x000029_803220_000028_004E00_000029_803221_000028_004E8C_000029_803222_000028_004E09_000029,
  0x803223_000028_0056DB_000029_803224_000028_004E94_000029_803225_000028_00516D_000029_803226,
  0x000028_004E03_000029_803227_000028_00516B_000029_803228_000028_004E5D_000029_803229_000028,
  0x005341_000029_80322A_000028_006708_000029_80322B_000028_00706B_000029_80322C_000028_006C34,
  0x000029_80322D_000028_006728_000029_80322E_000028_0091D1_000029_80322F_000028_00571F_000029,
  0x803230_000028_0065E5_000029_803231_000028_00682A_000029_803232_000028_006709_000029_803233,
  0x000028_00793E_000029_803234_000028_00540D_000029_803235_000028_007279_000029_803236_000028,
  0x008CA1_000029_803237_000028_00795D_000029_803238_000028_0052B4_000029_803239_000028_004EE3,
  0x000029_80323A_000028_00547C_000029_80323B_000028_005B66_000029_80323C_000028_0076E3_000029,
  0x80323D_000028_004F01_000029_80323E_000028_008CC7_000029_80323F_000028_005354_000029_803240,
  0x000028_00796D_000029_803241_000028_004F11_000029_803242_000028_0081EA_000029_803243_000028,
  0x0081F3_000029_803244_00554F_803245_005E7C_803246_006587_803247_007B8F_803250_000050_000054,
  0x000045_803251_000032_000031_803252_000032_000032_803253_000032_000033_803254_000032_000034,
  0x803255_000032_000035_803256_000032_000036_803257_000032_000037_803258_000032_000038_803259,
  0x000032_000039_80325A_000033_000030_80325B_000033_000031_80325C_000033_000032_80325D_000033,
  0x000033_80325E_000033_000034_80325F_000033_000035_803260_001100_803261_803262_001102_803263,
  0x803265_001105_803266_001109_803267_803268_00110B_803269_80326D_00110E_80326E_001100_001161,
  0x80326F_001102_001161_803270_001103_001161_803271_001105_001161_803272_001106_001161_803273,
  0x001107_001161_803274_001109_001161_803275_00110B_001161_803276_00110C_001161_803277_00110E,
  0x001161_803278_00110F_001161_803279_001110_001161_80327A_001111_001161_80327B_001112_001161,
  0x80327C_00110E_001161_0011B7_001100_001169_80327D_00110C_00116E_00110B_001174_80327E_00110B,
  0x00116E_803280_004E00_803281_004E8C_803282_004E09_803283_0056DB_803284_004E94_803285_00516D,
  0x803286_004E03_803287_00516B_803288_004E5D_803289_005341_80328A_006708_80328B_00706B_80328C,
  0x006C34_80328D_006728_80328E_0091D1_80328F_00571F_803290_0065E5_803291_00682A_803292_006709,
  0x803293_00793E_803294_00540D_803295_007279_803296_008CA1_803297_00795D_803298_0052B4_803299,
  0x0079D8_80329A_007537_80329B_005973_80329C_009069_80329D_00512A_80329E_005370_80329F_006CE8,
  0x8032A0_009805_8032A1_004F11_8032A2_005199_8032A3_006B63_8032A4_004E0A_8032A5_004E2D_8032A6,
  0x004E0B_8032A7_005DE6_8032A8_0053F3_8032A9_00533B_8032AA_005B97_8032AB_005B66_8032AC_0076E3,
  0x8032AD_004F01_8032AE_008CC7_8032AF_005354_8032B0_00591C_8032B1_000033_000036_8032B2_000033,
  0x000037_8032B3_000033_000038_8032B4_000033_000039_8032B5_000034_000030_8032B6_000034_000031,
  0x8032B7_000034_000032_8032B8_000034_000033_8032B9_000034_000034_8032BA_000034_000035_8032BB,
  0x000034_000036_8032BC_000034_000037_8032BD_000034_000038_8032BE_000034_000039_8032BF_000035,
  0x000030_8032C0_000031_006708_8032C1_000032_006708_8032C2_000033_006708_8032C3_000034_006708,
  0x8032C4_000035_006708_8032C5_000036_006708_8032C6_000037_006708_8032C7_000038_006708_8032C8,
  0x000039_006708_8032C9_000031_000030_006708_8032CA_000031_000031_006708_8032CB_000031_000032,
  0x006708_8032CC_000048_000067_8032CD_000065_000072_000067_8032CE_000065_000056_8032CF_00004C,
  0x000054_000044_8032D0_0030A2_8032D1_0030A4_8032D2_0030A6_8032D3_0030A8_8032D4_8032D5_0030AA,
  0x8032D6_0030AD_8032D7_0030AF_8032D8_0030B1_8032D9_0030B3_8032DA_0030B5_8032DB_0030B7_8032DC,
  0x0030B9_8032DD_0030BB_8032DE_0030BD_8032DF_0030BF_8032E0_0030C1_8032E1_0030C4_8032E2_0030C6,
  0x8032E3_0030C8_8032E4_8032E9_0030CA_8032EA_0030D2_8032EB_0030D5_8032EC_0030D8_8032ED_0030DB,
  0x8032EE_8032F2_0030DE_8032F3_0030E4_8032F4_0030E6_8032F5_8032FA_0030E8_8032FB_8032FE_0030EF,
  0x8032FF_004EE4_00548C_803300_0030A2_0030CF_00309A_0030FC_0030C8_803301_0030A2_0030EB_0030D5,
  0x0030A1_803302_0030A2_0030F3_0030D8_00309A_0030A2_803303_0030A2_0030FC_0030EB_803304_0030A4,
  0x0030CB_0030F3_0030AF_003099_803305_0030A4_0030F3_0030C1_803306_0030A6_0030A9_0030F3_803307,
  0x0030A8_0030B9_0030AF_0030FC_0030C8_003099_803308_0030A8_0030FC_0030AB_0030FC_803309_0030AA,
  0x0030F3_0030B9_80330A_0030AA_0030FC_0030E0_80330B_0030AB_0030A4_0030EA_80330C_0030AB_0030E9,
  0x0030C3_0030C8_80330D_0030AB_0030ED_0030EA_0030FC_80330E_0030AB_003099_0030ED_0030F3_80330F,
  0x0030AB_003099_0030F3_0030DE_803310_0030AD_003099_0030AB_003099_803311_0030AD_003099_0030CB,
  0x0030FC_803312_0030AD_0030E5_0030EA_0030FC_803313_0030AD_003099_0030EB_0030BF_003099_0030FC,
  0x803314_0030AD_0030ED_803315_0030AD_0030ED_0030AF_003099_0030E9_0030E0_803316_0030AD_0030ED,
  0x0030E1_0030FC_0030C8_0030EB_803317_0030AD_0030ED_0030EF_0030C3_0030C8_803318_0030AF_003099,
  0x0030E9_0030E0_803319_0030AF_003099_0030E9_0030E0_0030C8_0030F3_80331A_0030AF_0030EB_0030BB,
  0x003099_0030A4_0030ED_80331B_0030AF_0030ED_0030FC_0030CD_80331C_0030B1_0030FC_0030B9_80331D,
  0x0030B3_0030EB_0030CA_80331E_0030B3_0030FC_0030DB_00309A_80331F_0030B5_0030A4_0030AF_0030EB,
  0x803320_0030B5_0030F3_0030C1_0030FC_0030E0_803321_0030B7_0030EA_0030F3_0030AF_003099_803322,
  0x0030BB_0030F3_0030C1_803323_0030BB_0030F3_0030C8_803324_0030BF_003099_0030FC_0030B9_803325,
  0x0030C6_003099_0030B7_803326_0030C8_003099_0030EB_803327_0030C8_0030F3_803328_0030CA_0030CE,
  0x803329_0030CE_0030C3_0030C8_80332A_0030CF_0030A4_0030C4_80332B_0030CF_00309A_0030FC_0030BB,
  0x0030F3_0030C8_80332C_0030CF_00309A_0030FC_0030C4_80332D_0030CF_003099_0030FC_0030EC_0030EB,
  0x80332E_0030D2_00309A_0030A2_0030B9_0030C8_0030EB_80332F_0030D2_00309A_0030AF_0030EB_803330,
  0x0030D2_00309A_0030B3_803331_0030D2_003099_0030EB_803332_0030D5_0030A1_0030E9_0030C3_0030C8,
  0x003099_803333_0030D5_0030A3_0030FC_0030C8_803334_0030D5_003099_0030C3_0030B7_0030A7_0030EB,
  0x803335_0030D5_0030E9_0030F3_803336_0030D8_0030AF_0030BF_0030FC_0030EB_803337_0030D8_00309A,
  0x0030BD_803338_0030D8_00309A_0030CB_0030D2_803339_0030D8_0030EB_0030C4_80333A_0030D8_00309A,
  0x0030F3_0030B9_80333B_0030D8_00309A_0030FC_0030B7_003099_80333C_0030D8_003099_0030FC_0030BF,
  0x80333D_0030DB_00309A_0030A4_0030F3_0030C8_80333E_0030DB_003099_0030EB_0030C8_80333F_0030DB,
  0x0030F3_803340_0030DB_00309A_0030F3_0030C8_003099_803341_0030DB_0030FC_0030EB_803342_0030DB,
  0x0030FC_0030F3_803343_0030DE_0030A4_0030AF_0030ED_803344_0030DE_0030A4_0030EB_803345_0030DE,
  0x0030C3_0030CF_803346_0030DE_0030EB_0030AF_803347_0030DE_0030F3_0030B7_0030E7_0030F3_803348,
  0x0030DF_0030AF_0030ED_0030F3_803349_0030DF_0030EA_80334A_0030DF_0030EA_0030CF_003099_0030FC,
  0x0030EB_80334B_0030E1_0030AB_003099_80334C_0030E1_0030AB_003099_0030C8_0030F3_80334D_0030E1,
  0x0030FC_0030C8_0030EB_80334E_0030E4_0030FC_0030C8_003099_80334F_0030E4_0030FC_0030EB_803350,
  0x0030E6_0030A2_0030F3_803351_0030EA_0030C3_0030C8_0030EB_803352_0030EA_0030E9_803353_0030EB,
  0x0030D2_00309A_0030FC_803354_0030EB_0030FC_0030D5_003099_0030EB_803355_0030EC_0030E0_803356,
  0x0030EC_0030F3_0030C8_0030B1_003099_0030F3_803357_0030EF_0030C3_0030C8_803358_000030_0070B9,
  0x803359_000031_0070B9_80335A_000032_0070B9_80335B_000033_0070B9_80335C_000034_0070B9_80335D,
  0x000035_0070B9_80335E_000036_0070B9_80335F_000037_0070B9_803360_000038_0070B9_803361_000039,
  0x0070B9_803362_000031_000030_0070B9_803363_000031_000031_0070B9_803364_000031_000032_0070B9,
  0x803365_000031_000033_0070B9_803366_000031_000034_0070B9_803367_000031_000035_0070B9_803368,
  0x000031_000036_0070B9_803369_000031_000037_0070B9_80336A_000031_000038_0070B9_80336B_000031,
  0x000039_0070B9_80336C_000032_000030_0070B9_80336D_000032_000031_0070B9_80336E_000032_000032,
  0x0070B9_80336F_000032_000033_0070B9_803370_000032_000034_0070B9_803371_000068_000050_000061,
  0x803372_000064_000061_803373_000041_000055_803374_000062_000061_000072_803375_00006F_000056,
  0x803376_000070_000063_803377_000064_00006D_803378_000064_00006D_000032_803379_000064_00006D,
  0x000033_80337A_000049_000055_80337B_005E73_006210_80337C_00662D_00548C_80337D_005927_006B63,
  0x80337E_00660E_006CBB_80337F_00682A_005F0F_004F1A_00793E_803380_000070_000041_803381_00006E,
  0x000041_803382_0003BC_000041_803383_00006D_000041_803384_00006B_000041_803385_00004B_000042,
  0x803386_00004D_000042_803387_000047_000042_803388_000063_000061_00006C_803389_00006B_000063,
  0x000061_00006C_80338A_000070_000046_80338B_00006E_000046_80338C_0003BC_000046_80338D_0003BC,
  0x000067_80338E_00006D_000067_80338F_00006B_000067_803390_000048_00007A_803391_00006B_000048,
  0x00007A_803392_00004D_000048_00007A_803393_000047_000048_00007A_803394_000054_000048_00007A,
  0x803395_0003BC_00006C_803396_00006D_00006C_803397_000064_00006C_803398_00006B_00006C_803399,
  0x000066_00006D_80339A_00006E_00006D_80339B_0003BC_00006D_80339C_00006D_00006D_80339D_000063,
  0x00006D_80339E_00006B_00006D_80339F_00006D_00006D_000032_8033A0_000063_00006D_000032_8033A1,
  0x00006D_000032_8033A2_00006B_00006D_000032_8033A3_00006D_00006D_000033_8033A4_000063_00006D,
  0x000033_8033A5_00006D_000033_8033A6_00006B_00006D_000033_8033A7_00006D_002215_000073_8033A8,
  0x00006D_002215_000073_000032_8033A9_000050_000061_8033AA_00006B_000050_000061_8033AB_00004D,
  0x000050_000061_8033AC_000047_000050_000061_8033AD_000072_000061_000064_8033AE_000072_000061,
  0x000064_002215_000073_8033AF_000072_000061_000064_002215_000073_000032_8033B0_000070_000073,
  0x8033B1_00006E_000073_8033B2_0003BC_000073_8033B3_00006D_000073_8033B4_000070_000056_8033B5,
  0x00006E_000056_8033B6_0003BC_000056_8033B7_00006D_000056_8033B8_00006B_000056_8033B9_00004D,
  0x000056_8033BA_000070_000057_8033BB_00006E_000057_8033BC_0003BC_000057_8033BD_00006D_000057,
  0x8033BE_00006B_000057_8033BF_00004D_000057_8033C0_00006B_0003A9_8033C1_00004D_0003A9_8033C2,
  0x000061_00002E_00006D_00002E_8033C3_000042_000071_8033C4_000063_000063_8033C5_000063_000064,
  0x8033C6_000043_002215_00006B_000067_8033C7_000043_00006F_00002E_8033C8_000064_000042_8033C9,
  0x000047_000079_8033CA_000068_000061_8033CB_000048_000050_8033CC_000069_00006E_8033CD_00004B,
  0x00004B_8033CE_00004B_00004D_8033CF_00006B_000074_8033D0_00006C_00006D_8033D1_00006C_00006E,
  0x8033D2_00006C_00006F_000067_8033D3_00006C_000078_8033D4_00006D_000062_8033D5_00006D_000069,
  0x00006C_8033D6_00006D_00006F_00006C_8033D7_000050_000048_8033D8_000070_00002E_00006D_00002E,
  0x8033D9_000050_000050_00004D_8033DA_000050_000052_8033DB_000073_000072_8033DC_000053_000076,
  0x8033DD_000057_000062_8033DE_000056_002215_00006D_8033DF_000041_002215_00006D_8033E0_000031,
  0x0065E5_8033E1_000032_0065E5_8033E2_000033_0065E5_8033E3_000034_0065E5_8033E4_000035_0065E5,
  0x8033E5_000036_0065E5_8033E6_000037_0065E5_8033E7_000038_0065E5_8033E8_000039_0065E5_8033E9,
  0x000031_000030_0065E5_8033EA_000031_000031_0065E5_8033EB_000031_000032_0065E5_8033EC_000031,
  0x000033_0065E5_8033ED_000031_000034_0065E5_8033EE_000031_000035_0065E5_8033EF_000031_000036,
  0x0065E5_8033F0_000031_000037_0065E5_8033F1_000031_000038_0065E5_8033F2_000031_000039_0065E5,
  0x8033F3_000032_000030_0065E5_8033F4_000032_000031_0065E5_8033F5_000032_000032_0065E5_8033F6,
  0x000032_000033_0065E5_8033F7_000032_000034_0065E5_8033F8_000032_000035_0065E5_8033F9_000032,
  0x000036_0065E5_8033FA_000032_000037_0065E5_8033FB_000032_000038_0065E5_8033FC_000032_000039,
  0x0065E5_8033FD_000033_000030_0065E5_8033FE_000033_000031_0065E5_8033FF_000067_000061_00006C,
  0x80A69C_00044A_80A69D_00044C_80A770_00A76F_80A7F1_000053_80A7F2_000043_80A7F3_000046_80A7F4,
  0x000051_80A7F8_000126_80A7F9_000153_80AB5C_00A727_80AB5D_00AB37_80AB5E_00026B_80AB5F_00AB52,
  0x80AB69_00028D_80FB00_000066_000066_80FB01_000066_000069_80FB02_000066_00006C_80FB03_000066,
  0x000066_000069_80FB04_000066_000066_00006C_80FB05_000073_000074_80FB06_000073_000074_80FB13,
  0x000574_000576_80FB14_000574_000565_80FB15_000574_00056B_80FB16_00057E_000576_80FB17_000574,
  0x00056D_80FB20_0005E2_80FB21_0005D0_80FB22_80FB23_0005D3_80FB24_80FB26_0005DB_80FB27_0005E8,
  0x80FB28_0005EA_80FB29_00002B_80FB4F_0005D0_0005DC_80FB50_000671_80FB51_000671_80FB52_00067B,
  0x80FB53_00067B_80FB54_00067B_80FB55_00067B_80FB56_00067E_80FB57_00067E_80FB58_00067E_80FB59,
  0x00067E_80FB5A_000680_80FB5B_000680_80FB5C_000680_80FB5D_000680_80FB5E_00067A_80FB5F_00067A,
  0x80FB60_00067A_80FB61_00067A_80FB62_00067F_80FB63_00067F_80FB64_00067F_80FB65_00067F_80FB66,
  0x000679_80FB67_000679_80FB68_000679_80FB69_000679_80FB6A_0006A4_80FB6B_0006A4_80FB6C_0006A4,
  0x80FB6D_0006A4_80FB6E_0006A6_80FB6F_0006A6_80FB70_0006A6_80FB71_0006A6_80FB72_000684_80FB73,
  0x000684_80FB74_000684_80FB75_000684_80FB76_000683_80FB77_000683_80FB78_000683_80FB79_000683,
  0x80FB7A_000686_80FB7B_000686_80FB7C_000686_80FB7D_80FB7E_000686_80FB7F_000687_80FB80_000687,
  0x80FB81_000687_80FB82_00068D_80FB83_00068D_80FB84_00068C_80FB85_00068C_80FB86_00068E_80FB87,
  0x00068E_80FB88_000688_80FB89_000688_80FB8A_000698_80FB8B_000698_80FB8C_000691_80FB8D_000691,
  0x80FB8E_0006A9_80FB8F_0006A9_80FB90_0006A9_80FB91_0006A9_80FB92_0006AF_80FB93_0006AF_80FB94,
  0x0006AF_80FB95_0006AF_80FB96_0006B3_80FB97_0006B3_80FB98_0006B3_80FB99_0006B3_80FB9A_0006B1,
  0x80FB9B_0006B1_80FB9C_0006B1_80FB9D_0006B1_80FB9E_0006BA_80FB9F_80FBA0_0006BA_80FBA1_0006BB,
  0x80FBA2_0006BB_80FBA3_0006BB_80FBA4_0006D5_000654_80FBA5_0006D5_000654_80FBA6_0006C1_80FBA7,
  0x0006C1_80FBA8_0006C1_80FBA9_0006C1_80FBAA_0006BE_80FBAB_0006BE_80FBAC_0006BE_80FBAD_0006BE,
  0x80FBAE_0006D2_80FBAF_0006D2_80FBB0_0006D2_000654_80FBB1_0006D2_000654_80FBD3_0006AD_80FBD4,
  0x0006AD_80FBD5_0006AD_80FBD6_0006AD_80FBD7_0006C7_80FBD8_0006C7_80FBD9_0006C6_80FBDA_0006C6,
  0x80FBDB_0006C8_80FBDC_0006C8_80FBDD_0006C7_000674_80FBDE_0006CB_80FBDF_0006CB_80FBE0_0006C5,
  0x80FBE1_0006C5_80FBE2_0006C9_80FBE3_0006C9_80FBE4_0006D0_80FBE5_0006D0_80FBE6_0006D0_80FBE7,
  0x0006D0_80FBE8_000649_80FBE9_000649_80FBEA_00064A_000654_000627_80FBEB_00064A_000654_000627,
  0x80FBEC_00064A_000654_0006D5_80FBED_00064A_000654_0006D5_80FBEE_00064A_000654_000648_80FBEF,
  0x00064A_000654_000648_80FBF0_00064A_000654_0006C7_80FBF1_00064A_000654_0006C7_80FBF2_00064A,
  0x000654_0006C6_80FBF3_00064A_000654_0006C6_80FBF4_00064A_000654_0006C8_80FBF5_00064A_000654,
  0x0006C8_80FBF6_00064A_000654_0006D0_80FBF7_00064A_000654_0006D0_80FBF8_00064A_000654_0006D0,
  0x80FBF9_00064A_000654_000649_80FBFA_00064A_000654_000649_80FBFB_00064A_000654_000649_80FBFC,
  0x0006CC_80FBFD_0006CC_80FBFE_0006CC_80FBFF_0006CC_80FC00_00064A_000654_00062C_80FC01_00064A,
  0x000654_00062D_80FC02_00064A_000654_000645_80FC03_00064A_000654_000649_80FC04_00064A_000654,
  0x00064A_80FC05_000628_00062C_80FC06_000628_00062D_80FC07_000628_00062E_80FC08_000628_000645,
  0x80FC09_000628_000649_80FC0A_000628_00064A_80FC0B_00062A_00062C_80FC0C_00062A_00062D_80FC0D,
  0x00062A_00062E_80FC0E_00062A_000645_80FC0F_00062A_000649_80FC10_00062A_00064A_80FC11_00062B,
  0x00062C_80FC12_00062B_000645_80FC13_00062B_000649_80FC14_00062B_00064A_80FC15_00062C_00062D,
  0x80FC16_00062C_000645_80FC17_00062D_00062C_80FC18_00062D_000645_80FC19_00062E_00062C_80FC1A,
  0x00062E_00062D_80FC1B_00062E_000645_80FC1C_000633_00062C_80FC1D_000633_00062D_80FC1E_000633,
  0x00062E_80FC1F_000633_000645_80FC20_000635_00062D_80FC21_000635_000645_80FC22_000636_00062C,
  0x80FC23_000636_00062D_80FC24_000636_00062E_80FC25_000636_000645_80FC26_000637_00062D_80FC27,
  0x000637_000645_80FC28_000638_000645_80FC29_000639_00062C_80FC2A_000639_000645_80FC2B_00063A,
  0x00062C_80FC2C_00063A_000645_80FC2D_000641_00062C_80FC2E_000641_00062D_80FC2F_000641_00062E,
  0x80FC30_000641_000645_80FC31_000641_000649_80FC32_000641_00064A_80FC33_000642_00062D_80FC34,
  0x000642_000645_80FC35_000642_000649_80FC36_000642_00064A_80FC37_000643_000627_80FC38_000643,
  0x00062C_80FC39_000643_00062D_80FC3A_000643_00062E_80FC3B_000643_000644_80FC3C_000643_000645,
  0x80FC3D_000643_000649_80FC3E_000643_00064A_80FC3F_000644_00062C_80FC40_000644_00062D_80FC41,
  0x000644_00062E_80FC42_000644_000645_80FC43_000644_000649_80FC44_000644_00064A_80FC45_000645,
  0x00062C_80FC46_000645_00062D_80FC47_000645_00062E_80FC48_000645_000645_80FC49_000645_000649,
  0x80FC4A_000645_00064A_80FC4B_000646_00062C_80FC4C_000646_00062D_80FC4D_000646_00062E_80FC4E,
  0x000646_000645_80FC4F_000646_000649_80FC50_000646_00064A_80FC51_000647_00062C_80FC52_000647,
  0x000645_80FC53_000647_000649_80FC54_000647_00064A_80FC55_00064A_00062C_80FC56_00064A_00062D,
  0x80FC57_00064A_00062E_80FC58_00064A_000645_80FC59_00064A_000649_80FC5A_00064A_00064A_80FC5B,
  0x000630_000670_80FC5C_000631_000670_80FC5D_000649_000670_80FC5E_000020_00064C_000651_80FC5F,
  0x000020_00064D_000651_80FC60_000020_00064E_000651_80FC61_000020_00064F_000651_80FC62_000020,
  0x000650_000651_80FC63_000020_000651_000670_80FC64_00064A_000654_000631_80FC65_00064A_000654,
  0x000632_80FC66_00064A_000654_000645_80FC67_00064A_000654_000646_80FC68_00064A_000654_000649,
  0x80FC69_00064A_000654_00064A_80FC6A_000628_000631_80FC6B_000628_000632_80FC6C_000628_000645,
  0x80FC6D_000628_000646_80FC6E_000628_000649_80FC6F_000628_00064A_80FC70_00062A_000631_80FC71,
  0x00062A_000632_80FC72_00062A_000645_80FC73_00062A_000646_80FC74_00062A_000649_80FC75_00062A,
  0x00064A_80FC76_00062B_000631_80FC77_00062B_000632_80FC78_00062B_000645_80FC79_00062B_000646,
  0x80FC7A_00062B_000649_80FC7B_00062B_00064A_80FC7C_000641_000649_80FC7D_000641_00064A_80FC7E,
  0x000642_000649_80FC7F_000642_00064A_80FC80_000643_000627_80FC81_000643_000644_80FC82_000643,
  0x000645_80FC83_000643_000649_80FC84_000643_00064A_80FC85_000644_000645_80FC86_000644_000649,
  0x80FC87_000644_00064A_80FC88_000645_000627_80FC89_000645_000645_80FC8A_000646_000631_80FC8B,
  0x000646_000632_80FC8C_000646_000645_80FC8D_000646_000646_80FC8E_000646_000649_80FC8F_000646,
  0x00064A_80FC90_000649_000670_80FC91_00064A_000631_80FC92_00064A_000632_80FC93_00064A_000645,
  0x80FC94_00064A_000646_80FC95_00064A_000649_80FC96_00064A_00064A_80FC97_00064A_000654_00062C,
  0x80FC98_00064A_000654_00062D_80FC99_00064A_000654_00062E_80FC9A_00064A_000654_000645_80FC9B,
  0x00064A_000654_000647_80FC9C_000628_00062C_80FC9D_000628_00062D_80FC9E_000628_00062E_80FC9F,
  0x000628_000645_80FCA0_000628_000647_80FCA1_00062A_00062C_80FCA2_00062A_00062D_80FCA3_00062A,
  0x00062E_80FCA4_00062A_000645_80FCA5_00062A_000647_80FCA6_00062B_000645_80FCA7_00062C_00062D,
  0x80FCA8_00062C_000645_80FCA9_00062D_00062C_80FCAA_00062D_000645_80FCAB_00062E_00062C_80FCAC,
  0x00062E_000645_80FCAD_000633_00062C_80FCAE_000633_00062D_80FCAF_000633_00062E_80FCB0_000633,
  0x000645_80FCB1_000635_00062D_80FCB2_000635_00062E_80FCB3_000635_000645_80FCB4_000636_00062C,
  0x80FCB5_000636_00062D_80FCB6_000636_00062E_80FCB7_000636_000645_80FCB8_000637_00062D_80FCB9,
  0x000638_000645_80FCBA_000639_00062C_80FCBB_000639_000645_80FCBC_00063A_00062C_80FCBD_00063A,
  0x000645_80FCBE_000641_00062C_80FCBF_000641_00062D_80FCC0_000641_00062E_80FCC1_000641_000645,
  0x80FCC2_000642_00062D_80FCC3_000642_000645_80FCC4_000643_00062C_80FCC5_000643_00062D_80FCC6,
  0x000643_00062E_80FCC7_000643_000644_80FCC8_000643_000645_80FCC9_000644_00062C_80FCCA_000644,
  0x00062D_80FCCB_000644_00062E_80FCCC_000644_000645_80FCCD_000644_000647_80FCCE_000645_00062C,
  0x80FCCF_000645_00062D_80FCD0_000645_00062E_80FCD1_000645_000645_80FCD2_000646_00062C_80FCD3,
  0x000646_00062D_80FCD4_000646_00062E_80FCD5_000646_000645_80FCD6_000646_000647_80FCD7_000647,
  0x00062C_80FCD8_000647_000645_80FCD9_000647_000670_80FCDA_00064A_00062C_80FCDB_00064A_00062D,
  0x80FCDC_00064A_00062E_80FCDD_00064A_000645_80FCDE_00064A_000647_80FCDF_00064A_000654_000645,
  0x80FCE0_00064A_000654_000647_80FCE1_000628_000645_80FCE2_000628_000647_80FCE3_00062A_000645,
  0x80FCE4_00062A_000647_80FCE5_00062B_000645_80FCE6_00062B_000647_80FCE7_000633_000645_80FCE8,
  0x000633_000647_80FCE9_000634_000645_80FCEA_000634_000647_80FCEB_000643_000644_80FCEC_000643,
  0x000645_80FCED_000644_000645_80FCEE_000646_000645_80FCEF_000646_000647_80FCF0_00064A_000645,
  0x80FCF1_00064A_000647_80FCF2_000640_00064E_000651_80FCF3_000640_00064F_000651_80FCF4_000640,
  0x000650_000651_80FCF5_000637_000649_80FCF6_000637_00064A_80FCF7_000639_000649_80FCF8_000639,
  0x00064A_80FCF9_00063A_000649_80FCFA_00063A_00064A_80FCFB_000633_000649_80FCFC_000633_00064A,
  0x80FCFD_000634_000649_80FCFE_000634_00064A_80FCFF_00062D_000649_80FD00_00062D_00064A_80FD01,
  0x00062C_000649_80FD02_00062C_00064A_80FD03_00062E_000649_80FD04_00062E_00064A_80FD05_000635,
  0x000649_80FD06_000635_00064A_80FD07_000636_000649_80FD08_000636_00064A_80FD09_000634_00062C,
  0x80FD0A_000634_00062D_80FD0B_000634_00062E_80FD0C_000634_000645_80FD0D_000634_000631_80FD0E,
  0x000633_000631_80FD0F_000635_000631_80FD10_000636_000631_80FD11_000637_000649_80FD12_000637,
  0x00064A_80FD13_000639_000649_80FD14_000639_00064A_80FD15_00063A_000649_80FD16_00063A_00064A,
  0x80FD17_000633_000649_80FD18_000633_00064A_80FD19_000634_000649_80FD1A_000634_00064A_80FD1B,
  0x00062D_000649_80FD1C_00062D_00064A_80FD1D_00062C_000649_80FD1E_00062C_00064A_80FD1F_00062E,
  0x000649_80FD20_00062E_00064A_80FD21_000635_000649_80FD22_000635_00064A_80FD23_000636_000649,
  0x80FD24_000636_00064A_80FD25_000634_00062C_80FD26_000634_00062D_80FD27_000634_00062E_80FD28,
  0x000634_000645_80FD29_000634_000631_80FD2A_000633_000631_80FD2B_000635_000631_80FD2C_000636,
  0x000631_80FD2D_000634_00062C_80FD2E_000634_00062D_80FD2F_000634_00062E_80FD30_000634_000645,
  0x80FD31_000633_000647_80FD32_000634_000647_80FD33_000637_000645_80FD34_000633_00062C_80FD35,
  0x000633_00062D_80FD36_000633_00062E_80FD37_000634_00062C_80FD38_000634_00062D_80FD39_000634,
  0x00062E_80FD3A_000637_000645_80FD3B_000638_000645_80FD3C_000627_00064B_80FD3D_000627_00064B,
  0x80FD50_00062A_00062C_000645_80FD51_00062A_00062D_00062C_80FD52_00062A_00062D_00062C_80FD53,
  0x00062A_00062D_000645_80FD54_00062A_00062E_000645_80FD55_00062A_000645_00062C_80FD56_00062A,
  0x000645_00062D_80FD57_00062A_000645_00062E_80FD58_00062C_000645_00062D_80FD59_00062C_000645,
  0x00062D_80FD5A_00062D_000645_00064A_80FD5B_00062D_000645_000649_80FD5C_000633_00062D_00062C,
  0x80FD5D_000633_00062C_00062D_80FD5E_000633_00062C_000649_80FD5F_000633_000645_00062D_80FD60,
  0x000633_000645_00062D_80FD61_000633_000645_00062C_80FD62_000633_000645_000645_80FD63_000633,
  0x000645_000645_80FD64_000635_00062D_00062D_80FD65_000635_00062D_00062D_80FD66_000635_000645,
  0x000645_80FD67_000634_00062D_000645_80FD68_000634_00062D_000645_80FD69_000634_00062C_00064A,
  0x80FD6A_000634_000645_00062E_80FD6B_000634_000645_00062E_80FD6C_000634_000645_000645_80FD6D,
  0x000634_000645_000645_80FD6E_000636_00062D_000649_80FD6F_000636_00062E_000645_80FD70_000636,
  0x00062E_000645_80FD71_000637_000645_00062D_80FD72_000637_000645_00062D_80FD73_000637_000645,
  0x000645_80FD74_000637_000645_00064A_80FD75_000639_00062C_000645_80FD76_000639_000645_000645,
  0x80FD77_000639_000645_000645_80FD78_000639_000645_000649_80FD79_00063A_000645_000645_80FD7A,
  0x00063A_000645_00064A_80FD7B_00063A_000645_000649_80FD7C_000641_00062E_000645_80FD7D_000641,
  0x00062E_000645_80FD7E_000642_000645_00062D_80FD7F_000642_000645_000645_80FD80_000644_00062D,
  0x000645_80FD81_000644_00062D_00064A_80FD82_000644_00062D_000649_80FD83_000644_00062C_00062C,
  0x80FD84_000644_00062C_00062C_80FD85_000644_00062E_000645_80FD86_000644_00062E_000645_80FD87,
  0x000644_000645_00062D_80FD88_000644_000645_00062D_80FD89_000645_00062D_00062C_80FD8A_000645,
  0x00062D_000645_80FD8B_000645_00062D_00064A_80FD8C_000645_00062C_00062D_80FD8D_000645_00062C,
  0x000645_80FD8E_000645_00062E_00062C_80FD8F_000645_00062E_000645_80FD92_000645_00062C_00062E,
  0x80FD93_000647_000645_00062C_80FD94_000647_000645_000645_80FD95_000646_00062D_000645_80FD96,
  0x000646_00062D_000649_80FD97_000646_00062C_000645_80FD98_000646_00062C_000645_80FD99_000646,
  0x00062C_000649_80FD9A_000646_000645_00064A_80FD9B_000646_000645_000649_80FD9C_00064A_000645,
  0x000645_80FD9D_00064A_000645_000645_80FD9E_000628_00062E_00064A_80FD9F_00062A_00062C_00064A,
  0x80FDA0_00062A_00062C_000649_80FDA1_00062A_00062E_00064A_80FDA2_00062A_00062E_000649_80FDA3,
  0x00062A_000645_00064A_80FDA4_00062A_000645_000649_80FDA5_00062C_000645_00064A_80FDA6_00062C,
  0x00062D_000649_80FDA7_00062C_000645_000649_80FDA8_000633_00062E_000649_80FDA9_000635_00062D,
  0x00064A_80FDAA_000634_00062D_00064A_80FDAB_000636_00062D_00064A_80FDAC_000644_00062C_00064A,
  0x80FDAD_000644_000645_00064A_80FDAE_00064A_00062D_00064A_80FDAF_00064A_00062C_00064A_80FDB0,
  0x00064A_000645_00064A_80FDB1_000645_000645_00064A_80FDB2_000642_000645_00064A_80FDB3_000646,
  0x00062D_00064A_80FDB4_000642_000645_00062D_80FDB5_000644_00062D_000645_80FDB6_000639_000645,
  0x00064A_80FDB7_000643_000645_00064A_80FDB8_000646_00062C_00062D_80FDB9_000645_00062E_00064A,
  0x80FDBA_000644_00062C_000645_80FDBB_000643_000645_000645_80FDBC_000644_00062C_000645_80FDBD,
  0x000646_00062C_00062D_80FDBE_00062C_00062D_00064A_80FDBF_00062D_00062C_00064A_80FDC0_000645,
  0x00062C_00064A_80FDC1_000641_000645_00064A_80FDC2_000628_00062D_00064A_80FDC3_000643_000645,
  0x000645_80FDC4_000639_00062C_000645_80FDC5_000635_000645_000645_80FDC6_000633_00062E_00064A,
  0x80FDC7_000646_00062C_00064A_80FDF0_000635_000644_0006D2_80FDF1_000642_000644_0006D2_80FDF2,
  0x000627_000644_000644_000647_80FDF3_000627_000643_000628_000631_80FDF4_000645_00062D_000645,
  0x00062F_80FDF5_000635_000644_000639_000645_80FDF6_000631_000633_000648_000644_80FDF7_000639,
  0x000644_00064A_000647_80FDF8_000648_000633_000644_000645_80FDF9_000635_000644_000649_80FDFA,
  0x000635_000644_000649_000020_000627_000644_000644_000647_000020_000639_000644_00064A_000647,
  0x000020_000648_000633_000644_000645_80FDFB_00062C_000644_000020_00062C_000644_000627_000644,
  0x000647_80FDFC_000631_0006CC_000627_000644_80FE10_00002C_80FE11_80FE12_003001_80FE13_80FE14,
  0x00003A_80FE15_000021_80FE16_00003F_80FE17_80FE18_003016_80FE19_00002E_00002E_00002E_80FE30,
  0x00002E_00002E_80FE31_002014_80FE32_002013_80FE33_00005F_80FE34_00005F_80FE35_80FE36_000028,
  0x80FE37_00007B_80FE38_00007D_80FE39_80FE3A_003014_80FE3B_80FE3C_003010_80FE3D_80FE3E_00300A,
  0x80FE3F_80FE40_003008_80FE41_80FE44_00300C_80FE47_00005B_80FE48_00005D_80FE49_000020_000305,
  0x80FE4A_000020_000305_80FE4B_000020_000305_80FE4C_000020_000305_80FE4D_00005F_80FE4E_00005F,
  0x80FE4F_00005F_80FE50_00002C_80FE51_003001_80FE52_00002E_80FE54_00003B_80FE55_00003A_80FE56,
  0x00003F_80FE57_000021_80FE58_002014_80FE59_80FE5A_000028_80FE5B_00007B_80FE5C_00007D_80FE5D,
  0x80FE5E_003014_80FE5F_000023_80FE60_000026_80FE61_80FE62_00002A_80FE63_00002D_80FE64_00003C,
  0x80FE65_00003E_80FE66_00003D_80FE68_00005C_80FE69_80FE6A_000024_80FE6B_000040_80FE70_000020,
  0x00064B_80FE71_000640_00064B_80FE72_000020_00064C_80FE74_000020_00064D_80FE76_000020_00064E,
  0x80FE77_000640_00064E_80FE78_000020_00064F_80FE79_000640_00064F_80FE7A_000020_000650_80FE7B,
  0x000640_000650_80FE7C_000020_000651_80FE7D_000640_000651_80FE7E_000020_000652_80FE7F_000640,
  0x000652_80FE80_000621_80FE81_000627_000653_80FE82_000627_000653_80FE83_000627_000654_80FE84,
  0x000627_000654_80FE85_000648_000654_80FE86_000648_000654_80FE87_000627_000655_80FE88_000627,
  0x000655_80FE89_00064A_000654_80FE8A_00064A_000654_80FE8B_00064A_000654_80FE8C_00064A_000654,
  0x80FE8D_000627_80FE8E_80FE8F_000627_80FE90_000628_80FE91_000628_80FE92_80FE93_000628_80FE94,
  0x80FE95_000629_80FE96_00062A_80FE97_00062A_80FE98_80FE99_00062A_80FE9A_00062B_80FE9B_00062B,
  0x80FE9C_80FE9D_00062B_80FE9E_00062C_80FE9F_00062C_80FEA0_80FEA1_00062C_80FEA2_00062D_80FEA3,
  0x00062D_80FEA4_80FEA5_00062D_80FEA6_00062E_80FEA7_00062E_80FEA8_80FEA9_00062E_80FEAA_80FEAB,
  0x00062F_80FEAC_80FEAD_000630_80FEAE_80FEAF_000631_80FEB0_80FEB1_000632_80FEB2_000633_80FEB3,
  0x000633_80FEB4_80FEB5_000633_80FEB6_000634_80FEB7_000634_80FEB8_80FEB9_000634_80FEBA_000635,
  0x80FEBB_000635_80FEBC_80FEBD_000635_80FEBE_000636_80FEBF_000636_80FEC0_80FEC1_000636_80FEC2,
  0x000637_80FEC3_000637_80FEC4_80FEC5_000637_80FEC6_000638_80FEC7_000638_80FEC8_80FEC9_000638,
  0x80FECA_000639_80FECB_000639_80FECC_80FECD_000639_80FECE_00063A_80FECF_00063A_80FED0_00063A,
  0x80FED1_000641_80FED2_000641_80FED3_000641_80FED4_80FED5_000641_80FED6_000642_80FED7_000642,
  0x80FED8_80FED9_000642_80FEDA_000643_80FEDB_000643_80FEDC_80FEDD_000643_80FEDE_000644_80FEDF,
  0x000644_80FEE0_80FEE1_000644_80FEE2_000645_80FEE3_000645_80FEE4_80FEE5_000645_80FEE6_000646,
  0x80FEE7_000646_80FEE8_80FEE9_000646_80FEEA_000647_80FEEB_000647_80FEEC_80FEED_000647_80FEEE,
  0x80FEEF_000648_80FEF0_80FEF1_000649_80FEF2_00064A_80FEF3_00064A_80FEF4_00064A_80FEF5_000644,
  0x000627_000653_80FEF6_000644_000627_000653_80FEF7_000644_000627_000654_80FEF8_000644_000627,
  0x000654_80FEF9_000644_000627_000655_80FEFA_000644_000627_000655_80FEFB_000644_000627_80FEFC,
  0x000644_000627_80FF01_80FF5E_000021_80FF5F_80FF60_002985_80FF61_003002_80FF62_80FF63_00300C,
  0x80FF64_003001_80FF65_0030FB_80FF66_0030F2_80FF67_0030A1_80FF68_0030A3_80FF69_0030A5_80FF6A,
  0x0030A7_80FF6B_0030A9_80FF6C_0030E3_80FF6D_0030E5_80FF6E_0030E7_80FF6F_0030C3_80FF70_0030FC,
  0x80FF71_0030A2_80FF72_0030A4_80FF73_0030A6_80FF74_0030A8_80FF75_80FF76_0030AA_80FF77_0030AD,
  0x80FF78_0030AF_80FF79_0030B1_80FF7A_0030B3_80FF7B_0030B5_80FF7C_0030B7_80FF7D_0030B9_80FF7E,
  0x0030BB_80FF7F_0030BD_80FF80_0030BF_80FF81_0030C1_80FF82_0030C4_80FF83_0030C6_80FF84_0030C8,
  0x80FF85_80FF8A_0030CA_80FF8B_0030D2_80FF8C_0030D5_80FF8D_0030D8_80FF8E_0030DB_80FF8F_80FF93,
  0x0030DE_80FF94_0030E4_80FF95_0030E6_80FF96_80FF9B_0030E8_80FF9C_0030EF_80FF9D_0030F3_80FF9E,
  0x80FF9F_003099_80FFA0_001160_80FFA1_80FFA2_001100_80FFA3_0011AA_80FFA4_001102_80FFA5_80FFA6,
  0x0011AC_80FFA7_80FFA9_001103_80FFAA_80FFAF_0011B0_80FFB0_00111A_80FFB1_80FFB3_001106_80FFB4,
  0x001121_80FFB5_80FFBE_001109_80FFC2_80FFC7_001161_80FFCA_80FFCF_001167_80FFD2_80FFD7_00116D,
  0x80FFDA_80FFDC_001173_80FFE0_80FFE1_0000A2_80FFE2_0000AC_80FFE3_000020_000304_80FFE4_0000A6,
  0x80FFE5_0000A5_80FFE6_0020A9_80FFE8_002502_80FFE9_80FFEC_002190_80FFED_0025A0_80FFEE_0025CB,
  0x810781_810782_0002D0_810783_0000E6_810784_000299_810785_000253_810787_0002A3_810788_00AB66,
  0x810789_0002A5_81078A_0002A4_81078B_81078C_000256_81078D_001D91_81078E_000258_81078F_00025E,
  0x810790_0002A9_810791_000264_810792_000262_810793_000260_810794_00029B_810795_000127_810796,
  0x00029C_810797_000267_810798_000284_810799_81079A_0002AA_81079B_00026C_81079C_01DF04_81079D,
  0x00A78E_81079E_00026E_81079F_01DF05_8107A0_00028E_8107A1_01DF06_8107A2_0000F8_8107A3_8107A4,
  0x000276_8107A5_000071_8107A6_00027A_8107A7_01DF08_8107A8_8107A9_00027D_8107AA_000280_8107AB,
  0x0002A8_8107AC_0002A6_8107AD_00AB67_8107AE_0002A7_8107AF_000288_8107B0_002C71_8107B2_00028F,
  0x8107B3_8107B4_0002A1_8107B5_000298_8107B6_8107B8_0001C0_8107B9_01DF0A_8107BA_01DF1E_81CCD6,
  0x81CCEF_000041_81CCF0_81CCF9_000030_81D400_81D419_000041_81D41A_81D433_000061_81D434_81D44D,
  0x000041_81D44E_81D454_000061_81D456_81D467_000069_81D468_81D481_000041_81D482_81D49B_000061,
  0x81D49C_000041_81D49E_81D49F_000043_81D4A2_000047_81D4A5_81D4A6_00004A_81D4A9_81D4AC_00004E,
  0x81D4AE_81D4B5_000053_81D4B6_81D4B9_000061_81D4BB_000066_81D4BD_81D4C3_000068_81D4C5_81D4CF,
  0x000070_81D4D0_81D4E9_000041_81D4EA_81D503_000061_81D504_81D505_000041_81D507_81D50A_000044,
  0x81D50D_81D514_00004A_81D516_81D51C_000053_81D51E_81D537_000061_81D538_81D539_000041_81D53B,
  0x81D53E_000044_81D540_81D544_000049_81D546_00004F_81D54A_81D550_000053_81D552_81D56B_000061,
  0x81D56C_81D585_000041_81D586_81D59F_000061_81D5A0_81D5B9_000041_81D5BA_81D5D3_000061_81D5D4,
  0x81D5ED_000041_81D5EE_81D607_000061_81D608_81D621_000041_81D622_81D63B_000061_81D63C_81D655,
  0x000041_81D656_81D66F_000061_81D670_81D689_000041_81D68A_81D6A3_000061_81D6A4_000131_81D6A5,
  0x000237_81D6A8_81D6B8_000391_81D6B9_000398_81D6BA_81D6C0_0003A3_81D6C1_002207_81D6C2_81D6DA,
  0x0003B1_81D6DB_002202_81D6DC_0003B5_81D6DD_0003B8_81D6DE_0003BA_81D6DF_0003C6_81D6E0_0003C1,
  0x81D6E1_0003C0_81D6E2_81D6F2_000391_81D6F3_000398_81D6F4_81D6FA_0003A3_81D6FB_002207_81D6FC,
  0x81D714_0003B1_81D715_002202_81D716_0003B5_81D717_0003B8_81D718_0003BA_81D719_0003C6_81D71A,
  0x0003C1_81D71B_0003C0_81D71C_81D72C_000391_81D72D_000398_81D72E_81D734_0003A3_81D735_002207,
  0x81D736_81D74E_0003B1_81D74F_002202_81D750_0003B5_81D751_0003B8_81D752_0003BA_81D753_0003C6,
  0x81D754_0003C1_81D755_0003C0_81D756_81D766_000391_81D767_000398_81D768_81D76E_0003A3_81D76F,
  0x002207_81D770_81D788_0003B1_81D789_002202_81D78A_0003B5_81D78B_0003B8_81D78C_0003BA_81D78D,
  0x0003C6_81D78E_0003C1_81D78F_0003C0_81D790_81D7A0_000391_81D7A1_000398_81D7A2_81D7A8_0003A3,
  0x81D7A9_002207_81D7AA_81D7C2_0003B1_81D7C3_002202_81D7C4_0003B5_81D7C5_0003B8_81D7C6_0003BA,
  0x81D7C7_0003C6_81D7C8_0003C1_81D7C9_0003C0_81D7CA_81D7CB_0003DC_81D7CE_81D7D7_000030_81D7D8,
  0x81D7E1_000030_81D7E2_81D7EB_000030_81D7EC_81D7F5_000030_81D7F6_81D7FF_000030_81E030_81E038,
  0x000430_81E039_81E03B_00043A_81E03C_81E046_00043E_81E047_00044B_81E048_81E049_00044D_81E04A,
  0x00A689_81E04B_0004D9_81E04C_000456_81E04D_000458_81E04E_0004E9_81E04F_0004AF_81E050_0004CF,
  0x81E051_81E059_000430_81E05A_81E05B_00043A_81E05C_81E05D_00043E_81E05E_000441_81E05F_81E064,
  0x000443_81E065_81E066_00044A_81E067_000491_81E068_000456_81E069_000455_81E06A_00045F_81E06B,
  0x0004AB_81E06C_00A651_81E06D_0004B1_81EE00_81EE01_000627_81EE02_00062C_81EE03_00062F_81EE05,
  0x000648_81EE06_000632_81EE07_00062D_81EE08_000637_81EE09_00064A_81EE0A_81EE0D_000643_81EE0E,
  0x000633_81EE0F_000639_81EE10_000641_81EE11_000635_81EE12_000642_81EE13_000631_81EE14_000634,
  0x81EE15_81EE16_00062A_81EE17_00062E_81EE18_000630_81EE19_000636_81EE1A_000638_81EE1B_00063A,
  0x81EE1C_00066E_81EE1D_0006BA_81EE1E_0006A1_81EE1F_00066F_81EE21_000628_81EE22_00062C_81EE24,
  0x000647_81EE27_00062D_81EE29_00064A_81EE2A_81EE2D_000643_81EE2E_000633_81EE2F_000639_81EE30,
  0x000641_81EE31_000635_81EE32_000642_81EE34_000634_81EE35_81EE36_00062A_81EE37_00062E_81EE39,
  0x000636_81EE3B_00063A_81EE42_00062C_81EE47_00062D_81EE49_00064A_81EE4B_000644_81EE4D_000646,
  0x81EE4E_000633_81EE4F_000639_81EE51_000635_81EE52_000642_81EE54_000634_81EE57_00062E_81EE59,
  0x000636_81EE5B_00063A_81EE5D_0006BA_81EE5F_00066F_81EE61_000628_81EE62_00062C_81EE64_000647,
  0x81EE67_00062D_81EE68_000637_81EE69_00064A_81EE6A_000643_81EE6C_81EE6D_000645_81EE6E_000633,
  0x81EE6F_000639_81EE70_000641_81EE71_000635_81EE72_000642_81EE74_000634_81EE75_81EE76_00062A,
  0x81EE77_00062E_81EE79_000636_81EE7A_000638_81EE7B_00063A_81EE7C_00066E_81EE7E_0006A1_81EE80,
  0x81EE81_000627_81EE82_00062C_81EE83_00062F_81EE84_81EE85_000647_81EE86_000632_81EE87_00062D,
  0x81EE88_000637_81EE89_00064A_81EE8B_81EE8D_000644_81EE8E_000633_81EE8F_000639_81EE90_000641,
  0x81EE91_000635_81EE92_000642_81EE93_000631_81EE94_000634_81EE95_81EE96_00062A_81EE97_00062E,
  0x81EE98_000630_81EE99_000636_81EE9A_000638_81EE9B_00063A_81EEA1_000628_81EEA2_00062C_81EEA3,
  0x00062F_81EEA5_000648_81EEA6_000632_81EEA7_00062D_81EEA8_000637_81EEA9_00064A_81EEAB_81EEAD,
  0x000644_81EEAE_000633_81EEAF_000639_81EEB0_000641_81EEB1_000635_81EEB2_000642_81EEB3_000631,
  0x81EEB4_000634_81EEB5_81EEB6_00062A_81EEB7_00062E_81EEB8_000630_81EEB9_000636_81EEBA_000638,
  0x81EEBB_00063A_81F100_000030_00002E_81F101_000030_00002C_81F102_000031_00002C_81F103_000032,
  0x00002C_81F104_000033_00002C_81F105_000034_00002C_81F106_000035_00002C_81F107_000036_00002C,
  0x81F108_000037_00002C_81F109_000038_00002C_81F10A_000039_00002C_81F110_000028_000041_000029,
  0x81F111_000028_000042_000029_81F112_000028_000043_000029_81F113_000028_000044_000029_81F114,
  0x000028_000045_000029_81F115_000028_000046_000029_81F116_000028_000047_000029_81F117_000028,
  0x000048_000029_81F118_000028_000049_000029_81F119_000028_00004A_000029_81F11A_000028_00004B,
  0x000029_81F11B_000028_00004C_000029_81F11C_000028_00004D_000029_81F11D_000028_00004E_000029,
  0x81F11E_000028_00004F_000029_81F11F_000028_000050_000029_81F120_000028_000051_000029_81F121,
  0x000028_000052_000029_81F122_000028_000053_000029_81F123_000028_000054_000029_81F124_000028,
  0x000055_000029_81F125_000028_000056_000029_81F126_000028_000057_000029_81F127_000028_000058,
  0x000029_81F128_000028_000059_000029_81F129_000028_00005A_000029_81F12A_003014_000053_003015,
  0x81F12B_000043_81F12C_000052_81F12D_000043_000044_81F12E_000057_00005A_81F130_81F149_000041,
  0x81F14A_000048_000056_81F14B_00004D_000056_81F14C_000053_000044_81F14D_000053_000053_81F14E,
  0x000050_000050_000056_81F14F_000057_000043_81F16A_00004D_000043_81F16B_00004D_000044_81F16C,
  0x00004D_000052_81F190_000044_00004A_81F200_00307B_00304B_81F201_0030B3_0030B3_81F202_0030B5,
  0x81F210_00624B_81F211_005B57_81F212_0053CC_81F213_0030C6_003099_81F214_004E8C_81F215_00591A,
  0x81F216_0089E3_81F217_005929_81F218_004EA4_81F219_006620_81F21A_007121_81F21B_006599_81F21C,
  0x00524D_81F21D_005F8C_81F21E_00518D_81F21F_0065B0_81F220_00521D_81F221_007D42_81F222_00751F,
  0x81F223_008CA9_81F224_0058F0_81F225_005439_81F226_006F14_81F227_006295_81F228_006355_81F229,
  0x004E00_81F22A_004E09_81F22B_00904A_81F22C_005DE6_81F22D_004E2D_81F22E_0053F3_81F22F_006307,
  0x81F230_008D70_81F231_006253_81F232_007981_81F233_007A7A_81F234_005408_81F235_006E80_81F236,
  0x006709_81F237_006708_81F238_007533_81F239_005272_81F23A_0055B6_81F23B_00914D_81F240_003014,
  0x00672C_003015_81F241_003014_004E09_003015_81F242_003014_004E8C_003015_81F243_003014_005B89,
  0x003015_81F244_003014_0070B9_003015_81F245_003014_006253_003015_81F246_003014_0076D7_003015,
  0x81F247_003014_0052DD_003015_81F248_003014_006557_003015_81F250_005F97_81F251_0053EF_81FBF0,
  0x81FBF9_000030]

end Acrostic.Unicode
